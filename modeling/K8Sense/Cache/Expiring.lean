import Mathlib.Logic.Function.Basic

/-! A store whose values expire. Times are nanoseconds on one clock; the zero
time of a value that never expires is `none`. -/

namespace K8Sense.Cache

universe u
variable {α : Type u}

structure CacheValue (α : Type u) where
  value : α
  expiresAt : Option Nat

abbrev Store (α : Type u) := String → Option (CacheValue α)

namespace Store

def empty : Store α := fun _ => none

def setWithTTL (key : String) (value : α) (ttl now : Nat) (store : Store α) : Store α :=
  Function.update store key (some ⟨value, if ttl = 0 then none else some (now + ttl)⟩)

/-- Without a time after which the value expires. -/
def set (key : String) (value : α) (store : Store α) : Store α := setWithTTL key value 0 0 store

def delete (key : String) (store : Store α) : Store α :=
  Function.update store key none

def get (key : String) (now : Nat) (store : Store α) : Option α :=
  match store key with
  | none => none
  | some found =>
    match found.expiresAt with
    | none => some found.value
    | some expiresAt => if now < expiresAt then some found.value else none

/-- A value that has expired keeps its time, and one that never expired gets one. -/
def updateTTL (key : String) (ttl now : Nat) (store : Store α) : Except String (Store α) :=
  match store key with
  | none => .error "key not found"
  | some found =>
    .ok (if (store.get key now).isSome then Function.update store key (some { found with expiresAt := some (now + ttl) })
      else store)

/-- The value is stored under the key, expired or not. -/
def Holds (store : Store α) (key : String) (value : α) : Prop :=
  ∃ expiresAt, store key = some ⟨value, expiresAt⟩

theorem holds_of_get {store : Store α} {key : String} {now : Nat} {value : α}
    (found : store.get key now = some value) : store.Holds key value := by
  unfold get at found
  split at found
  next => cases found
  next held present =>
    split at found
    next => cases found; exact ⟨_, present⟩
    next =>
      split at found
      next => cases found; exact ⟨_, present⟩
      next => cases found

theorem holds_delete {store : Store α} {key other : String} {value : α} :
    (store.delete key).Holds other value ↔ other ≠ key ∧ store.Holds other value := by
  simp only [Holds, delete]
  by_cases same : other = key
  · subst same
    simp
  · simp [same]

theorem holds_setWithTTL {store : Store α} {key other : String} {value found : α} {ttl now : Nat} :
    (store.setWithTTL key value ttl now).Holds other found ↔
      other = key ∧ found = value ∨ other ≠ key ∧ store.Holds other found := by
  simp only [Holds, setWithTTL]
  by_cases same : other = key
  · subst same
    simp [eq_comm]
  · simp [same]

@[simp] theorem not_holds_empty (key : String) (value : α) : ¬(empty : Store α).Holds key value := by
  simp [Holds, empty]

@[simp] theorem get_empty (key : String) (now : Nat) : (empty : Store α).get key now = none := rfl

theorem get_set {store : Store α} {key : String} {value : α} {now : Nat} : (store.set key value).get key now = some value := by
  simp [get, set, setWithTTL]

theorem get_setWithTTL {store : Store α} {key : String} {value : α} {ttl set now : Nat} (fresh : now < set + ttl) :
    (store.setWithTTL key value ttl set).get key now = some value := by
  simp only [get, setWithTTL, Function.update_self]
  by_cases endless : ttl = 0
  · simp [endless]
  · simp [endless, fresh]

end Store

end K8Sense.Cache
