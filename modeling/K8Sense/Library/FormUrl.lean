import Mathlib.Data.List.Basic

/-! Query parameters as forms encode them. A character stands for a byte. -/

namespace K8Sense.FormUrl

/-- The characters that are left as they are. -/
def isPlain (ch : Char) : Bool := ch.isAlphanum || ch ∈ ['*', '-', '.', '_']

def hexDigit (value : Nat) : Char := Char.ofNat (if value < 10 then 48 + value else 55 + value)

def hexValue (ch : Char) : Option Nat :=
  if ch.isDigit then some (ch.toNat - 48)
  else if 'A' ≤ ch ∧ ch ≤ 'F' then some (ch.toNat - 55)
  else if 'a' ≤ ch ∧ ch ≤ 'f' then some (ch.toNat - 87)
  else none

def encodeChar (ch : Char) : List Char :=
  if isPlain ch then [ch]
  else if ch = ' ' then ['+']
  else ['%', hexDigit (ch.toNat / 16), hexDigit (ch.toNat % 16)]

def encode (text : List Char) : List Char := text.flatMap encodeChar

/-- A percent sign without two digits after it stands for itself. -/
def decode : List Char → List Char
  | [] => []
  | '+' :: rest => ' ' :: decode rest
  | '%' :: high :: low :: rest =>
    match hexValue high, hexValue low with
    | some high, some low => Char.ofNat (16 * high + low) :: decode rest
    | _, _ => '%' :: decode (high :: low :: rest)
  | ch :: rest => ch :: decode rest

theorem hexValue_hexDigit : ∀ value < 16, hexValue (hexDigit value) = some value := by decide

theorem decode_char {ch : Char} (plus : ch ≠ '+') (percent : ch ≠ '%') (rest : List Char) : decode (ch :: rest) = ch :: decode rest := by
  conv => lhs; unfold decode
  split
  next equal => cases equal
  next equal => cases equal; exact absurd rfl plus
  next equal => cases equal; exact absurd rfl percent
  next equal => cases equal; rfl

theorem decode_unencoded {text : List Char} (fine : ∀ ch ∈ text, ch ≠ '+' ∧ ch ≠ '%') : decode text = text := by
  induction text with
  | nil => rfl
  | cons ch text ih =>
    have here := fine ch List.mem_cons_self
    rw [decode_char here.1 here.2, ih fun other member => fine other (List.mem_cons_of_mem ch member)]

theorem decode_encodeChar {ch : Char} (byte : ch.toNat < 256) (rest : List Char) : decode (encodeChar ch ++ rest) = ch :: decode rest := by
  unfold encodeChar
  split
  next plain =>
    refine decode_char ?_ ?_ rest
    · rintro rfl
      exact absurd plain (by decide)
    · rintro rfl
      exact absurd plain (by decide)
  next =>
    split
    next space =>
      rw [space]
      rfl
    next =>
      simp only [List.cons_append, List.nil_append, decode]
      rw [hexValue_hexDigit _ (by omega), hexValue_hexDigit _ (by omega)]
      simp only [Nat.div_add_mod, Char.ofNat_toNat]

theorem decode_encode {text : List Char} (bytes : ∀ ch ∈ text, ch.toNat < 256) : decode (encode text) = text := by
  induction text with
  | nil => rfl
  | cons ch text ih =>
    rw [encode, List.flatMap_cons, decode_encodeChar (bytes ch List.mem_cons_self), ← encode,
      ih fun other member => bytes other (List.mem_cons_of_mem ch member)]

end K8Sense.FormUrl
