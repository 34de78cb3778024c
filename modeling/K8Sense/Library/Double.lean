import K8Sense.Library.Text
import Mathlib.Algebra.Ring.Nat
import Mathlib.Data.Nat.Log
import Mathlib.Order.MinMax

/-! Integers as doubles, rounded to 53 bits with ties to even, and the integers that
JavaScript reads in texts. -/

namespace K8Sense.Double

/-- The distance between two doubles of the size of the number. -/
def spacing (n : Nat) : Nat := 2 ^ (Nat.log 2 n - 52)

/-- The nearest multiple of the unit, counted in units; of two the even one. -/
def nearest (unit n : Nat) : Nat :=
  if 2 * (n % unit) < unit then n / unit
  else if unit < 2 * (n % unit) then n / unit + 1
  else n / unit + n / unit % 2

def maxExponent : Nat := 1024

/-- What is too large is infinite, which is written as the first power of two that no
double is. -/
def infinity : Nat := 2 ^ maxExponent

def ofNat (n : Nat) : Nat := min (nearest (spacing n) n * spacing n) infinity

/-- The white space that JavaScript skips before a number. -/
def isWhiteSpace (char : Char) : Bool :=
  let code := char.toNat
  9 ≤ code && code ≤ 13 || code = 32 || code = 0xa0 || code = 0x1680 || 0x2000 ≤ code && code ≤ 0x200a ||
    code = 0x2028 || code = 0x2029 || code = 0x202f || code = 0x205f || code = 0x3000 || code = 0xfeff

/-- The value of a hexadecimal digit, and more for what is none. -/
def digitValue (char : Char) : Nat :=
  let code := char.toNat
  if 48 ≤ code ∧ code ≤ 57 then code - 48
  else if 97 ≤ code ∧ code ≤ 102 then code - 87
  else if 65 ≤ code ∧ code ≤ 70 then code - 55
  else 16

/-- `parseInt` of a text without a radix; `none` is `NaN`. -/
def parseInt (text : String) : Option Int :=
  let (negative, unsigned) := match text.toList.dropWhile isWhiteSpace with
    | '-' :: rest => (true, rest)
    | '+' :: rest => (false, rest)
    | rest => (false, rest)
  let (radix, rest) := match unsigned with
    | '0' :: 'x' :: rest => (16, rest)
    | '0' :: 'X' :: rest => (16, rest)
    | rest => (10, rest)
  let digits := rest.takeWhile (digitValue · < radix)
  if digits = [] then none
  else
    let magnitude := ofNat (digits.foldl (fun value char => radix * value + digitValue char) 0)
    some (if negative then -magnitude else magnitude)

variable {unit n m : Nat}

theorem spacing_pos : 0 < spacing n := Nat.pow_pos (by decide)

theorem nearest_bounds (unit n : Nat) : n / unit ≤ nearest unit n ∧ nearest unit n ≤ n / unit + 1 := by
  unfold nearest
  split
  · omega
  · split <;> omega

theorem nearest_mono (le : n ≤ m) : nearest unit n ≤ nearest unit m := by
  have quotients : n / unit ≤ m / unit := Nat.div_le_div_right le
  by_cases same : n / unit = m / unit
  · have remainders : n % unit ≤ m % unit := by
      have left := Nat.div_add_mod n unit
      have right := Nat.div_add_mod m unit
      rw [same] at left
      omega
    unfold nearest
    rw [same]
    repeat' split
    all_goals omega
  · have below := (nearest_bounds unit n).2
    have above := (nearest_bounds unit m).1
    omega

theorem nearest_mul (positive : 0 < unit) (k : Nat) : nearest unit (unit * k) = k := by
  unfold nearest
  rw [Nat.mul_mod_right, Nat.mul_div_cancel_left _ positive, if_pos (by omega)]

/-- A power of two that is not less than the number is not less than what it is rounded
to. -/
theorem nearest_le_pow {bits : Nat} (le : n ≤ 2 ^ bits) (small : Nat.log 2 n ≤ bits) :
    nearest (spacing n) n * spacing n ≤ 2 ^ bits := by
  have whole : spacing n * 2 ^ (bits - (Nat.log 2 n - 52)) = 2 ^ bits := by
    rw [spacing, ← Nat.pow_add]
    congr 1
    omega
  calc nearest (spacing n) n * spacing n
      ≤ nearest (spacing n) (spacing n * 2 ^ (bits - (Nat.log 2 n - 52))) * spacing n :=
        Nat.mul_le_mul_right _ (nearest_mono (whole.symm ▸ le))
    _ = 2 ^ bits := by rw [nearest_mul spacing_pos, Nat.mul_comm, whole]

theorem pow_le_nearest {bits : Nat} (le : 2 ^ bits ≤ n) (same : Nat.log 2 n = bits) :
    2 ^ bits ≤ nearest (spacing n) n * spacing n := by
  have whole : spacing n * 2 ^ (bits - (Nat.log 2 n - 52)) = 2 ^ bits := by
    rw [spacing, ← Nat.pow_add]
    congr 1
    omega
  calc 2 ^ bits
      = nearest (spacing n) (spacing n * 2 ^ (bits - (Nat.log 2 n - 52))) * spacing n := by
        rw [nearest_mul spacing_pos, Nat.mul_comm, whole]
    _ ≤ nearest (spacing n) n * spacing n := Nat.mul_le_mul_right _ (nearest_mono (whole.symm ▸ le))

theorem ofNat_mono (le : n ≤ m) : ofNat n ≤ ofNat m := by
  refine min_le_min ?_ le_rfl
  have logs : Nat.log 2 n ≤ Nat.log 2 m := Nat.log_mono_right le
  by_cases same : Nat.log 2 n = Nat.log 2 m
  · have units : spacing n = spacing m := by rw [spacing, spacing, same]
    rw [units]
    exact Nat.mul_le_mul_right _ (nearest_mono le)
  · -- A power of two lies between the two.
    by_cases zero : m = 0
    · subst zero
      rw [Nat.le_zero.mp le]
    · have below : nearest (spacing n) n * spacing n ≤ 2 ^ Nat.log 2 m := by
        apply nearest_le_pow ?_ logs
        exact (Nat.lt_pow_of_log_lt (by decide) (Nat.lt_of_le_of_ne logs same)).le
      exact below.trans (pow_le_nearest (Nat.pow_log_le_self 2 zero) rfl)

/-! What is read in a decimal number. -/

theorem digitValue_isDigit {char : Char} (digit : char.isDigit = true) :
    digitValue char = char.toNat - '0'.toNat ∧ digitValue char < 10 := by
  have range : 48 ≤ char.toNat ∧ char.toNat ≤ 57 := Char.isDigit_iff_toNat.mp digit
  rw [digitValue, if_pos range]
  exact ⟨rfl, by omega⟩

theorem isWhiteSpace_isDigit {char : Char} (digit : char.isDigit = true) : isWhiteSpace char = false := by
  have range : 48 ≤ char.toNat ∧ char.toNat ≤ 57 := Char.isDigit_iff_toNat.mp digit
  simp [isWhiteSpace]
  omega

theorem value_digits {chars : List Char} (digits : ∀ char ∈ chars, char.isDigit = true) (start : Nat) :
    chars.foldl (fun value char => 10 * value + digitValue char) start = Nat.ofDigitChars 10 chars start := by
  induction chars generalizing start with
  | nil => rfl
  | cons char rest ih =>
    rw [List.foldl_cons, Nat.ofDigitChars_cons, (digitValue_isDigit (digits char List.mem_cons_self)).1]
    exact ih (fun other member => digits other (List.mem_cons_of_mem char member)) _

theorem parseInt_digits {text : String} (nonempty : text.toList ≠ []) (digits : ∀ char ∈ text.toList, char.isDigit = true) :
    parseInt text = some (ofNat (Nat.ofDigitChars 10 text.toList 0)) := by
  have not_digit (char : Char) (other : char.isDigit = false) : char ∉ text.toList := fun member =>
    Bool.false_ne_true (other.symm.trans (digits char member))
  have visible : text.toList.dropWhile isWhiteSpace = text.toList := by
    rw [List.dropWhile_eq_self_iff]
    intro inside
    rw [isWhiteSpace_isDigit (digits _ (List.getElem_mem inside))]
    exact Bool.false_ne_true
  have all : text.toList.takeWhile (digitValue · < 10) = text.toList := by
    rw [List.takeWhile_eq_self_iff]
    intro char member
    exact decide_eq_true (digitValue_isDigit (digits char member)).2
  have unsigned : (match text.toList with
      | '-' :: rest => (true, rest)
      | '+' :: rest => (false, rest)
      | rest => (false, rest)) = (false, text.toList) := by
    split
    next is => exact absurd (is ▸ List.mem_cons_self) (not_digit '-' rfl)
    next is => exact absurd (is ▸ List.mem_cons_self) (not_digit '+' rfl)
    next => rfl
  have decimal : (match text.toList with
      | '0' :: 'x' :: rest => (16, rest)
      | '0' :: 'X' :: rest => (16, rest)
      | rest => (10, rest)) = (10, text.toList) := by
    split
    next is => exact absurd (is ▸ by simp) (not_digit 'x' rfl)
    next is => exact absurd (is ▸ by simp) (not_digit 'X' rfl)
    next => rfl
  simp only [parseInt, visible, unsigned, decimal, all, if_neg nonempty, value_digits digits]
  rfl

@[simp] theorem parseInt_toString (n : Nat) : parseInt (toString n) = some (ofNat n) := by
  have chars : (toString n).toList = Nat.toDigits 10 n := by rw [Nat.toString_eq_repr, Nat.toList_repr]
  have nonempty : (toString n).toList ≠ [] := by
    rw [chars]
    exact Nat.toDigits_ne_nil
  rw [parseInt_digits nonempty fun char => Text.isDigit_of_mem_toString, chars, Nat.ofDigitChars_ten_toDigits]

end K8Sense.Double
