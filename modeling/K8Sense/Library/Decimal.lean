import Mathlib.Data.List.Basic
import Mathlib.Data.Fin.Basic

/-! Decimal digits as characters, and their value. -/

namespace K8Sense.Decimal

abbrev Digits := { digits : List (Fin 10) // digits ≠ [] }

def char (digit : Fin 10) : Char := Nat.digitChar digit

def chars (digits : List (Fin 10)) : List Char := digits.map char

def value (digits : List (Fin 10)) : Nat := digits.foldl (fun (value : Nat) (digit : Fin 10) => 10 * value + digit.val) 0

def read (text : List Char) : Nat := text.foldl (fun value symbol => 10 * value + (symbol.toNat - '0'.toNat)) 0

theorem isDigit_char (digit : Fin 10) : (char digit).isDigit = true := by
  revert digit
  decide

theorem toNat_char (digit : Fin 10) : (char digit).toNat - '0'.toNat = digit := by
  revert digit
  decide

theorem isDigit_chars {digits : List (Fin 10)} {symbol : Char} (member : symbol ∈ chars digits) : symbol.isDigit = true := by
  obtain ⟨digit, _, rfl⟩ := List.mem_map.mp member
  exact isDigit_char digit

@[simp] theorem read_chars (digits : List (Fin 10)) : read (chars digits) = value digits := by
  unfold read chars value
  rw [List.foldl_map]
  simp only [toNat_char]

@[simp] theorem read_nil : read [] = 0 := rfl

@[simp] theorem length_chars (digits : List (Fin 10)) : (chars digits).length = digits.length := List.length_map _

@[simp] theorem chars_eq_nil {digits : List (Fin 10)} : chars digits = [] ↔ digits = [] := List.map_eq_nil_iff

theorem chars_ne_nil (digits : Digits) : chars digits.1 ≠ [] := chars_eq_nil.not.mpr digits.2

def Stops (text : List Char) : Prop := ∀ symbol ∈ text.head?, symbol.isDigit = false

theorem takeWhile_chars (digits : List (Fin 10)) {rest : List Char} (stops : Stops rest) :
    (chars digits ++ rest).takeWhile Char.isDigit = chars digits := by
  rw [List.takeWhile_append_of_pos fun symbol => isDigit_chars]
  cases rest with
  | nil => simp
  | cons symbol rest => rw [List.takeWhile_cons_of_neg (by simp [stops symbol rfl]), List.append_nil]

theorem dropWhile_chars (digits : List (Fin 10)) {rest : List Char} (stops : Stops rest) :
    (chars digits ++ rest).dropWhile Char.isDigit = rest := by
  rw [List.dropWhile_append_of_pos fun symbol => isDigit_chars]
  cases rest with
  | nil => rfl
  | cons symbol rest => exact List.dropWhile_cons_of_neg (by simp [stops symbol rfl])

theorem skip_chars (digits : Digits) (rest : List Char) :
    (chars digits.1 ++ rest).dropWhile (fun symbol => !symbol.isDigit) = chars digits.1 ++ rest := by
  obtain ⟨digits, nonempty⟩ := digits
  cases digits with
  | nil => exact absurd rfl nonempty
  | cons digit digits => exact List.dropWhile_cons_of_neg (by simp [isDigit_char])

end K8Sense.Decimal
