import Mathlib.Data.List.Basic

/-! `JSON.stringify` of strings, of arrays of strings and of objects with strings. -/

namespace K8Sense.JsonText

def hexDigit (digit : Nat) : Char := Nat.digitChar digit

def escapeChar (char : Char) : List Char :=
  if char = '"' then ['\\', '"']
  else if char = '\\' then ['\\', '\\']
  else if char = '\n' then ['\\', 'n']
  else if char = '\r' then ['\\', 'r']
  else if char = '\t' then ['\\', 't']
  else if char.toNat = 8 then ['\\', 'b']
  else if char.toNat = 12 then ['\\', 'f']
  else if char.toNat < 32 then ['\\', 'u', '0', '0', hexDigit (char.toNat / 16), hexDigit (char.toNat % 16)]
  else [char]

def quote (text : String) : List Char := '"' :: text.toList.flatMap escapeChar ++ ['"']

def items : List String → List Char
  | [] => []
  | [item] => quote item
  | item :: rest => quote item ++ ',' :: items rest

def stringifyArray (texts : List String) : String := String.ofList ('[' :: items texts ++ [']'])

def members : List (String × String) → List Char
  | [] => []
  | [(key, value)] => quote key ++ ':' :: quote value
  | (key, value) :: rest => quote key ++ ':' :: quote value ++ ',' :: members rest

def stringifyObject (rows : List (String × String)) : String := String.ofList ('\x7b' :: members rows ++ ['\x7d'])

/-- The character that the letter after a backslash stands for. -/
def letter : Char → Char
  | 'n' => '\n'
  | 'r' => '\r'
  | 't' => '\t'
  | 'b' => Char.ofNat 8
  | 'f' => Char.ofNat 12
  | other => other

def hexValue (digit : Char) : Nat := if digit.isDigit then digit.toNat - 48 else digit.toNat - 87

/-- One character of a quoted text, and what is left. -/
def readChar : List Char → Option (Char × List Char)
  | '\\' :: 'u' :: _ :: _ :: high :: low :: rest => some (Char.ofNat (16 * hexValue high + hexValue low), rest)
  | '\\' :: symbol :: rest => some (letter symbol, rest)
  | '"' :: _ => none
  | char :: rest => some (char, rest)
  | [] => none

theorem readChar_control {code : Nat} (control : code < 32) (rest : List Char) :
    readChar ('\\' :: 'u' :: '0' :: '0' :: hexDigit (code / 16) :: hexDigit (code % 16) :: rest) = some (Char.ofNat code, rest) := by
  have value : 16 * hexValue (hexDigit (code / 16)) + hexValue (hexDigit (code % 16)) = code := by
    revert control
    revert code
    decide
  rw [readChar, value]

theorem readChar_escape (char : Char) (rest : List Char) : readChar (escapeChar char ++ rest) = some (char, rest) := by
  unfold escapeChar
  split
  · next same => rw [same]; rfl
  split
  · next same => rw [same]; rfl
  split
  · next same => rw [same]; rfl
  split
  · next same => rw [same]; rfl
  split
  · next same => rw [same]; rfl
  split
  · next same => rw [← Char.ofNat_toNat char, same]; rfl
  split
  · next same => rw [← Char.ofNat_toNat char, same]; rfl
  split
  · next control =>
    conv => rhs; rw [← Char.ofNat_toNat char]
    exact readChar_control control rest
  · next quoted backslash _ _ _ _ _ _ =>
    unfold readChar
    split
    · next same => exact absurd (List.cons.inj same).1 backslash
    · next same => exact absurd (List.cons.inj same).1 backslash
    · next same => exact absurd (List.cons.inj same).1 quoted
    · next same =>
      obtain ⟨rfl, rfl⟩ := List.cons.inj same
      rfl
    · next same => exact absurd same (List.cons_ne_nil _ _)

/-- Texts that are escaped end at the same quote only if they are equal. -/
theorem escape_prefix {chars others rest more : List Char}
    (same : chars.flatMap escapeChar ++ '"' :: rest = others.flatMap escapeChar ++ '"' :: more) : chars = others ∧ rest = more := by
  induction chars generalizing others with
  | nil =>
    cases others with
    | nil => exact ⟨rfl, (List.cons.inj same).2⟩
    | cons other others =>
      have read := congrArg readChar same
      rw [List.flatMap_cons, List.append_assoc, readChar_escape] at read
      exact nomatch read
  | cons char chars ih =>
    rw [List.flatMap_cons, List.append_assoc] at same
    cases others with
    | nil =>
      have read := congrArg readChar same
      rw [readChar_escape] at read
      exact nomatch read
    | cons other others =>
      rw [List.flatMap_cons, List.append_assoc] at same
      have read := congrArg readChar same
      rw [readChar_escape, readChar_escape] at read
      obtain ⟨rfl, tails⟩ := Prod.mk.inj (Option.some.inj read)
      obtain ⟨rfl, rfl⟩ := ih tails
      exact ⟨rfl, rfl⟩

theorem quote_prefix {text other : String} {rest more : List Char} (same : quote text ++ rest = quote other ++ more) :
    text = other ∧ rest = more := by
  have inner : text.toList.flatMap escapeChar ++ '"' :: rest = other.toList.flatMap escapeChar ++ '"' :: more := by
    simpa [quote] using same
  obtain ⟨chars, rests⟩ := escape_prefix inner
  exact ⟨String.toList_injective chars, rests⟩

theorem items_cons (item : String) (texts : List String) :
    items (item :: texts) ++ [']'] = quote item ++ if texts = [] then [']'] else ',' :: (items texts ++ [']']) := by
  cases texts with
  | nil => rfl
  | cons next texts => simp [items]

theorem items_injective {texts others : List String} (same : items texts ++ [']'] = items others ++ [']']) : texts = others := by
  induction texts generalizing others with
  | nil =>
    cases others with
    | nil => rfl
    | cons other others =>
      rw [items_cons] at same
      exact nomatch (List.cons.inj same).1
  | cons text texts ih =>
    rw [items_cons] at same
    cases others with
    | nil => exact nomatch (List.cons.inj same).1
    | cons other others =>
      rw [items_cons] at same
      obtain ⟨rfl, rests⟩ := quote_prefix same
      by_cases last : texts = []
      · by_cases otherLast : others = []
        · rw [last, otherLast]
        · rw [if_pos last, if_neg otherLast] at rests
          exact nomatch (List.cons.inj rests).1
      · by_cases otherLast : others = []
        · rw [if_neg last, if_pos otherLast] at rests
          exact nomatch (List.cons.inj rests).1
        · rw [if_neg last, if_neg otherLast] at rests
          rw [ih (List.cons.inj rests).2]

theorem stringifyArray_injective : Function.Injective stringifyArray := by
  intro texts others same
  have chars := congrArg String.toList same
  rw [stringifyArray, stringifyArray, String.toList_ofList, String.toList_ofList] at chars
  exact items_injective (List.cons.inj chars).2

end K8Sense.JsonText
