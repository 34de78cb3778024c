import Mathlib.Data.List.Basic
import Mathlib.Data.List.Lex

/-! Texts as lists of UTF-16 code units, which a script measures and sorts them by. -/

namespace K8Sense.Utf16

abbrev Text := List Char

def codeUnits (ch : Char) : List Nat :=
  if ch.toNat < 0x10000 then [ch.toNat]
  else [0xd800 + (ch.toNat - 0x10000) / 0x400, 0xdc00 + (ch.toNat - 0x10000) % 0x400]

def units (text : Text) : List Nat := text.flatMap codeUnits

def length (text : Text) : Nat := (units text).length

def le (first second : Text) : Bool := units first ≤ units second

def sort (texts : List Text) : List Text := texts.mergeSort le

theorem sort_perm (texts : List Text) : (sort texts).Perm texts := List.mergeSort_perm texts le

theorem sort_ne_nil {texts : List Text} (nonempty : texts ≠ []) : sort texts ≠ [] := by
  intro empty
  have perm := sort_perm texts
  rw [empty] at perm
  exact nonempty perm.nil_eq.symm

end K8Sense.Utf16
