import Mathlib.Data.Bool.AllAny
import Mathlib.Data.List.GetD
import Mathlib.Data.List.Nodup

/-! Base64 with any alphabet, with and without padding. Bytes are cut into digits of six
bits, three bytes at a time. -/

namespace K8Sense.Base64

abbrev Bytes := List UInt8

structure Alphabet where
  symbols : List Char
  size : symbols.length = 64
  distinct : symbols.Nodup
  visible : ∀ char ∈ symbols, char ≠ '=' ∧ char ≠ '\n' ∧ char ≠ '\r'

def digits : Bytes → List Nat
  | [] => []
  | [first] => [first.toNat / 4, first.toNat % 4 * 16]
  | [first, second] => [first.toNat / 4, first.toNat % 4 * 16 + second.toNat / 16, second.toNat % 16 * 4]
  | first :: second :: third :: rest =>
    [first.toNat / 4, first.toNat % 4 * 16 + second.toNat / 16, second.toNat % 16 * 4 + third.toNat / 64, third.toNat % 64] ++
      digits rest

/-- The bits that are left over at the end are not looked at. -/
def bytesOf : List Nat → Option Bytes
  | [] => some []
  | [_] => none
  | [first, second] => some [UInt8.ofNat (first * 4 + second / 16)]
  | [first, second, third] => some [UInt8.ofNat (first * 4 + second / 16), UInt8.ofNat (second % 16 * 16 + third / 4)]
  | first :: second :: third :: fourth :: rest =>
    (bytesOf rest).map ([UInt8.ofNat (first * 4 + second / 16), UInt8.ofNat (second % 16 * 16 + third / 4),
      UInt8.ofNat (third % 4 * 64 + fourth)] ++ ·)

def padding (bytes : Bytes) : List Char := List.replicate ((3 - bytes.length % 3) % 3) '='

/-- Ends of lines are passed over by every decoder. -/
def isLineEnd (char : Char) : Bool := char = '\n' || char = '\r'

namespace Alphabet
variable (alphabet : Alphabet)

def symbol (digit : Nat) : Char := alphabet.symbols.getD digit 'A'

def digit (char : Char) : Option Nat := if char ∈ alphabet.symbols then some (alphabet.symbols.idxOf char) else none

def encodeRaw (bytes : Bytes) : List Char := (digits bytes).map alphabet.symbol

def encode (bytes : Bytes) : List Char := alphabet.encodeRaw bytes ++ padding bytes

def readRaw (chars : List Char) : Option Bytes := chars.mapM alphabet.digit >>= bytesOf

def readPadded : List Char → Option Bytes
  | [] => some []
  | first :: second :: third :: fourth :: rest =>
    if fourth = '=' then
      if rest ≠ [] then none
      else if third = '=' then alphabet.readRaw [first, second] else alphabet.readRaw [first, second, third]
    else do
      let group ← alphabet.readRaw [first, second, third, fourth]
      let later ← readPadded rest
      return group ++ later
  | _ => none

def decodeRaw (chars : List Char) : Option Bytes := alphabet.readRaw (chars.filter fun char => !isLineEnd char)

def decode (chars : List Char) : Option Bytes := alphabet.readPadded (chars.filter fun char => !isLineEnd char)

end Alphabet

theorem digits_lt (bytes : Bytes) : ∀ digit ∈ digits bytes, digit < 64 := by
  induction bytes using digits.induct with
  | case1 => simp [digits]
  | case2 first =>
    have bound := first.toNat_lt
    simp only [digits, List.mem_cons, List.not_mem_nil, or_false, forall_eq_or_imp, forall_eq]
    omega
  | case3 first second =>
    have bound := first.toNat_lt
    have boundSecond := second.toNat_lt
    simp only [digits, List.mem_cons, List.not_mem_nil, or_false, forall_eq_or_imp, forall_eq]
    omega
  | case4 first second third rest ih =>
    have bound := first.toNat_lt
    have boundSecond := second.toNat_lt
    have boundThird := third.toNat_lt
    simp only [digits, List.cons_append, List.nil_append, List.mem_cons, forall_eq_or_imp]
    refine ⟨?_, ?_, ?_, ?_, ih⟩ <;> omega

theorem digits_length (bytes : Bytes) : (digits bytes).length = (4 * bytes.length + 2) / 3 := by
  induction bytes using digits.induct with
  | case1 => rfl
  | case2 first => simp [digits]
  | case3 first second => simp [digits]
  | case4 first second third rest ih =>
    simp only [digits, List.cons_append, List.nil_append, List.length_cons, ih]
    omega

theorem first_byte (first : UInt8) (low : Nat) (small : low < 16) :
    UInt8.ofNat (first.toNat / 4 * 4 + (first.toNat % 4 * 16 + low) / 16) = first := by
  have whole : first.toNat / 4 * 4 + (first.toNat % 4 * 16 + low) / 16 = first.toNat := by omega
  rw [whole, UInt8.ofNat_toNat]

theorem second_byte (high : Nat) (second : UInt8) (low : Nat) (small : low < 4) :
    UInt8.ofNat ((high * 16 + second.toNat / 16) % 16 * 16 + (second.toNat % 16 * 4 + low) / 4) = second := by
  have bound := second.toNat_lt
  have whole : (high * 16 + second.toNat / 16) % 16 * 16 + (second.toNat % 16 * 4 + low) / 4 = second.toNat := by omega
  rw [whole, UInt8.ofNat_toNat]

theorem third_byte (high : Nat) (third : UInt8) :
    UInt8.ofNat ((high * 4 + third.toNat / 64) % 4 * 64 + third.toNat % 64) = third := by
  have bound := third.toNat_lt
  have whole : (high * 4 + third.toNat / 64) % 4 * 64 + third.toNat % 64 = third.toNat := by omega
  rw [whole, UInt8.ofNat_toNat]

theorem bytesOf_digits (bytes : Bytes) : bytesOf (digits bytes) = some bytes := by
  induction bytes using digits.induct with
  | case1 => rfl
  | case2 first =>
    have byte := first_byte first 0 (by omega)
    rw [Nat.add_zero] at byte
    rw [digits, bytesOf, byte]
  | case3 first second =>
    have bound := second.toNat_lt
    have byte := second_byte (first.toNat % 4) second 0 (by omega)
    rw [Nat.add_zero] at byte
    rw [digits, bytesOf, first_byte first _ (by omega), byte]
  | case4 first second third rest ih =>
    have bound := second.toNat_lt
    have boundThird := third.toNat_lt
    simp only [digits, List.cons_append, List.nil_append, bytesOf, ih, Option.map_some]
    rw [first_byte first _ (by omega), second_byte _ second _ (by omega), third_byte]

namespace Alphabet
variable {alphabet : Alphabet} {bytes : Bytes}

theorem symbol_mem {digit : Nat} (small : digit < 64) : alphabet.symbol digit ∈ alphabet.symbols := by
  have inside : digit < alphabet.symbols.length := by rw [alphabet.size]; exact small
  rw [symbol, List.getD_eq_getElem _ _ inside]
  exact List.getElem_mem inside

theorem digit_symbol {digit : Nat} (small : digit < 64) : alphabet.digit (alphabet.symbol digit) = some digit := by
  have inside : digit < alphabet.symbols.length := by rw [alphabet.size]; exact small
  rw [Alphabet.digit, if_pos (symbol_mem small), symbol, List.getD_eq_getElem _ _ inside, alphabet.distinct.idxOf_getElem]

theorem mem_encodeRaw {char : Char} (member : char ∈ alphabet.encodeRaw bytes) : char ∈ alphabet.symbols := by
  obtain ⟨digit, inside, rfl⟩ := List.mem_map.mp member
  exact symbol_mem (digits_lt bytes digit inside)

theorem mapM_symbols {list : List Nat} (small : ∀ digit ∈ list, digit < 64) :
    (list.map alphabet.symbol).mapM alphabet.digit = some list := by
  induction list with
  | nil => rfl
  | cons digit list ih =>
    rw [List.forall_mem_cons] at small
    rw [List.map_cons, List.mapM_cons, digit_symbol small.1, ih small.2]
    rfl

theorem readRaw_symbols {list : List Nat} (small : ∀ digit ∈ list, digit < 64) :
    alphabet.readRaw (list.map alphabet.symbol) = bytesOf list := by
  rw [readRaw, mapM_symbols small]
  rfl

theorem readRaw_encodeRaw (bytes : Bytes) : alphabet.readRaw (alphabet.encodeRaw bytes) = some bytes := by
  rw [encodeRaw, readRaw_symbols (digits_lt bytes), bytesOf_digits]

theorem symbol_ne {digit : Nat} (small : digit < 64) : alphabet.symbol digit ≠ '=' := (alphabet.visible _ (symbol_mem small)).1

theorem readPadded_encode (bytes : Bytes) : alphabet.readPadded (alphabet.encode bytes) = some bytes := by
  induction bytes using digits.induct with
  | case1 => rfl
  | case2 first =>
    have read : alphabet.readRaw (alphabet.encodeRaw [first]) = some [first] := readRaw_encodeRaw [first]
    simpa [encode, encodeRaw, digits, padding, readPadded] using read
  | case3 first second =>
    have read : alphabet.readRaw (alphabet.encodeRaw [first, second]) = some [first, second] := readRaw_encodeRaw [first, second]
    have last : alphabet.symbol (second.toNat % 16 * 4) ≠ '=' := symbol_ne (by omega)
    simpa [encode, encodeRaw, digits, padding, readPadded, last] using read
  | case4 first second third rest ih =>
    have group : alphabet.readRaw (alphabet.encodeRaw [first, second, third]) = some [first, second, third] :=
      readRaw_encodeRaw [first, second, third]
    simp only [encodeRaw, digits, List.append_nil, List.map_cons, List.map_nil] at group
    have last : alphabet.symbol (third.toNat % 64) ≠ '=' := symbol_ne (by omega)
    have split : alphabet.encode (first :: second :: third :: rest) = alphabet.symbol (first.toNat / 4) ::
        alphabet.symbol (first.toNat % 4 * 16 + second.toNat / 16) :: alphabet.symbol (second.toNat % 16 * 4 + third.toNat / 64) ::
        alphabet.symbol (third.toNat % 64) :: alphabet.encode rest := by
      have length : (3 - (rest.length + 1 + 1 + 1) % 3) % 3 = (3 - rest.length % 3) % 3 := by omega
      simp [encode, encodeRaw, digits, padding, length]
    rw [split, readPadded, if_neg last, group, ih]
    rfl

theorem isLineEnd_of_mem {char : Char} (member : char ∈ alphabet.symbols) : isLineEnd char = false := by
  have visible := alphabet.visible char member
  simp [isLineEnd, visible.2]

theorem filter_encodeRaw (bytes : Bytes) :
    ((alphabet.encodeRaw bytes).filter fun char => !isLineEnd char) = alphabet.encodeRaw bytes := by
  apply List.filter_eq_self.mpr
  intro char member
  rw [isLineEnd_of_mem (mem_encodeRaw member), Bool.not_false]

theorem filter_padding (bytes : Bytes) : ((padding bytes).filter fun char => !isLineEnd char) = padding bytes := by
  apply List.filter_eq_self.mpr
  intro char member
  rw [List.eq_of_mem_replicate member]
  decide

theorem decode_encode (bytes : Bytes) : alphabet.decode (alphabet.encode bytes) = some bytes := by
  rw [decode, encode, List.filter_append, filter_encodeRaw, filter_padding]
  exact readPadded_encode bytes

theorem decodeRaw_encodeRaw (bytes : Bytes) : alphabet.decodeRaw (alphabet.encodeRaw bytes) = some bytes := by
  rw [decodeRaw, filter_encodeRaw, readRaw_encodeRaw]

theorem length_of_readPadded : ∀ (chars : List Char), (alphabet.readPadded chars).isSome = true → chars.length % 4 = 0
  | [], _ => rfl
  | [_], read | [_, _], read | [_, _, _], read => by simp [readPadded] at read
  | first :: second :: third :: fourth :: rest, read => by
    by_cases ends : fourth = '='
    · by_cases more : rest = []
      · simp [more]
      · simp [readPadded, ends, more] at read
    · cases later : alphabet.readPadded rest with
      | none => simp [readPadded, ends, later] at read
      | some bytes =>
        have tail := length_of_readPadded rest (by simp [later])
        simp only [List.length_cons]
        omega

/-- Without padding, only whole groups are read by a decoder that expects it. -/
theorem decode_encodeRaw (bytes : Bytes) :
    alphabet.decode (alphabet.encodeRaw bytes) = if bytes.length % 3 = 0 then some bytes else none := by
  split
  next whole =>
    have unpadded : alphabet.encode bytes = alphabet.encodeRaw bytes := by simp [encode, padding, whole]
    rw [← unpadded, decode_encode]
  next partly =>
    rw [decode, filter_encodeRaw]
    apply Option.isNone_iff_eq_none.mp
    rw [← Option.not_isSome, Bool.not_eq_true', ← Bool.not_eq_true]
    intro read
    have length := length_of_readPadded _ read
    rw [encodeRaw, List.length_map, digits_length] at length
    omega

/-- An alphabet that has the same digits for the characters reads them in the same way. -/
theorem decodeRaw_congr {other : Alphabet} {chars : List Char} (agree : ∀ char ∈ chars, other.digit char = alphabet.digit char) :
    other.decodeRaw chars = alphabet.decodeRaw chars := by
  have same : ∀ list : List Char, (∀ char ∈ list, other.digit char = alphabet.digit char) →
      list.mapM other.digit = list.mapM alphabet.digit := by
    intro list
    induction list with
    | nil => exact fun _ => rfl
    | cons char list ih =>
      intro agree
      rw [List.forall_mem_cons] at agree
      rw [List.mapM_cons, List.mapM_cons, agree.1, ih agree.2]
  rw [decodeRaw, decodeRaw, readRaw, readRaw, same]
  intro char member
  exact agree char (List.mem_filter.mp member).1

theorem decodeRaw_none {chars : List Char} {char : Char} (member : char ∈ chars) (visible : isLineEnd char = false)
    (foreign : alphabet.digit char = none) : alphabet.decodeRaw chars = none := by
  have stuck : ∀ list : List Char, char ∈ list → list.mapM alphabet.digit = none := by
    intro list
    induction list with
    | nil => simp
    | cons first list ih =>
      intro member
      rw [List.mapM_cons]
      rcases List.mem_cons.mp member with rfl | later
      · rw [foreign]
        rfl
      · rw [ih later]
        cases alphabet.digit first <;> rfl
  rw [decodeRaw, readRaw, stuck _ (List.mem_filter.mpr ⟨member, by simp [visible]⟩)]
  rfl

theorem length_lt_encodeRaw (nonempty : bytes ≠ []) : bytes.length < (alphabet.encodeRaw bytes).length := by
  have positive := List.length_pos_iff.mpr nonempty
  rw [encodeRaw, List.length_map, digits_length]
  omega

end Alphabet

def charsFrom (first : Char) (count : Nat) : List Char := (List.range count).map fun index => Char.ofNat (first.toNat + index)

/-- The letters and the digits, and two more. -/
def symbolsWith (last : List Char) : List Char := charsFrom 'A' 26 ++ charsFrom 'a' 26 ++ charsFrom '0' 10 ++ last

def standard : Alphabet where
  symbols := symbolsWith ['+', '/']
  size := by decide +kernel
  distinct := by decide +kernel
  visible := List.all_iff_forall_prop.mp (by decide +kernel)

def urlSafe : Alphabet where
  symbols := symbolsWith ['-', '_']
  size := by decide +kernel
  distinct := by decide +kernel
  visible := List.all_iff_forall_prop.mp (by decide +kernel)

theorem digit_standard {char : Char} (member : char ∈ urlSafe.symbols) :
    standard.digit char = if char = '-' ∨ char = '_' then none else urlSafe.digit char := by
  have all : (urlSafe.symbols.all fun char =>
      standard.digit char = if char = '-' ∨ char = '_' then none else urlSafe.digit char) = true := by decide +kernel
  exact List.all_iff_forall_prop.mp all char member

end K8Sense.Base64
