import Mathlib.Data.List.Basic

/-! UTF-8 in lists of bytes, read rune by rune, and what is made of bytes that are
none. -/

namespace K8Sense.Utf8

def isContinuation (byte : UInt8) : Bool := 0x80 ≤ byte && byte ≤ 0xbf

/-- The range of the second byte of a rune is narrower after some first bytes. -/
def isSecond (first byte : UInt8) : Bool :=
  isContinuation byte && (first ≠ 0xe0 || 0xa0 ≤ byte) && (first ≠ 0xed || byte ≤ 0x9f) && (first ≠ 0xf0 || 0x90 ≤ byte) &&
    (first ≠ 0xf4 || byte ≤ 0x8f)

/-- How many bytes follow the first one in the rune that the bytes begin with, if they
begin with one. -/
def follow : List UInt8 → Option Nat
  | [] => none
  | first :: rest =>
    if first < 0x80 then some 0
    else if 0xc2 ≤ first ∧ first ≤ 0xdf then
      match rest with
      | second :: _ => if isSecond first second then some 1 else none
      | _ => none
    else if 0xe0 ≤ first ∧ first ≤ 0xef then
      match rest with
      | second :: third :: _ => if isSecond first second && isContinuation third then some 2 else none
      | _ => none
    else if 0xf0 ≤ first ∧ first ≤ 0xf4 then
      match rest with
      | second :: third :: fourth :: _ =>
        if isSecond first second && isContinuation third && isContinuation fourth then some 3 else none
      | _ => none
    else none

/-- U+FFFD. -/
def replacement : List UInt8 := [0xef, 0xbf, 0xbd]

/-- Put U+FFFD for each byte that begins no rune. The counter says how many bytes of a
rune are still to come. -/
def repairFrom : Nat → List UInt8 → List UInt8
  | _, [] => []
  | inside + 1, byte :: rest => byte :: repairFrom inside rest
  | 0, byte :: rest =>
    match follow (byte :: rest) with
    | some inside => byte :: repairFrom inside rest
    | none => replacement ++ repairFrom 0 rest

def repair (bytes : List UInt8) : List UInt8 := repairFrom 0 bytes

def validFrom : Nat → List UInt8 → Bool
  | _, [] => true
  | inside + 1, _ :: rest => validFrom inside rest
  | 0, byte :: rest =>
    match follow (byte :: rest) with
    | some inside => validFrom inside rest
    | none => false

def valid (bytes : List UInt8) : Bool := validFrom 0 bytes

theorem repairFrom_length (inside : Nat) (bytes : List UInt8) : bytes.length ≤ (repairFrom inside bytes).length ∧
    (validFrom inside bytes = false → bytes.length < (repairFrom inside bytes).length) := by
  fun_induction repairFrom inside bytes with
  | case1 => simp [validFrom]
  | case2 inside byte rest ih =>
    obtain ⟨bound, strict⟩ := ih
    simp only [validFrom, List.length_cons]
    exact ⟨by omega, fun broken => Nat.succ_lt_succ (strict broken)⟩
  | case3 byte rest inside found ih =>
    obtain ⟨bound, strict⟩ := ih
    simp only [validFrom, found, List.length_cons]
    exact ⟨by omega, fun broken => Nat.succ_lt_succ (strict broken)⟩
  | case4 byte rest absent ih =>
    simp only [replacement, List.length_append, List.length_cons, List.length_nil]
    omega

theorem repairFrom_valid (inside : Nat) (bytes : List UInt8) (fine : validFrom inside bytes = true) : repairFrom inside bytes = bytes := by
  fun_induction repairFrom inside bytes with
  | case1 => rfl
  | case2 inside byte rest ih => rw [ih fine]
  | case3 byte rest inside found ih =>
    simp only [validFrom, found] at fine
    rw [ih fine]
  | case4 byte rest absent ih => simp [validFrom, absent] at fine

/-- Bytes are left as they are exactly when they are UTF-8: each replacement makes them
longer. -/
theorem repair_eq_iff {bytes : List UInt8} : repair bytes = bytes ↔ valid bytes = true := by
  constructor
  · intro same
    by_contra broken
    have longer := (repairFrom_length 0 bytes).2 (Bool.eq_false_iff.mpr broken)
    change bytes.length < (repair bytes).length at longer
    rw [same] at longer
    omega
  · exact repairFrom_valid 0 bytes

end K8Sense.Utf8
