import K8Sense.Library.Grouping
import Mathlib.Data.List.Induction
import Mathlib.Data.List.Perm.Subperm

/-! A set that is not to grow past a limit: an item that finds it full clears it. What it
holds of a sequence, and when that is all of the sequence. -/

namespace K8Sense.LimitedSet
open Grouping

universe u
variable {α : Type u} [DecidableEq α] (limit : Nat) (admitted : α → Bool)

/-- Only some items are admitted, but any one clears a full set. -/
def hold (set : List α) (item : α) : List α :=
  if set.length < limit then (if admitted item then note set item else set) else []

def held (items : List α) : List α := items.foldl (hold limit admitted) []

def distinct (items : List α) : List α := firstSeen id (items.filter admitted)

/-- The items behind the last one that comes after as many distinct ones as the limit. -/
def lastRun (items : List α) : List α :=
  items.foldl (fun run item => if (distinct admitted run).length < limit then run ++ [item] else []) []

variable {limit admitted}

theorem distinct_append (items : List α) (item : α) :
    distinct admitted (items ++ [item]) = if admitted item then note (distinct admitted items) item else distinct admitted items := by
  rw [distinct, List.filter_append, List.filter_singleton]
  cases admitted item
  · rw [cond_false, List.append_nil]
    rfl
  · rw [cond_true, firstSeen, List.foldl_append]
    rfl

theorem mem_distinct {items : List α} {item : α} : item ∈ distinct admitted items ↔ item ∈ items ∧ admitted item = true := by
  rw [distinct, mem_firstSeen, List.map_id, List.mem_filter]

theorem distinct_nodup (items : List α) : (distinct admitted items).Nodup := firstSeen_nodup id _

theorem held_append (items : List α) (item : α) :
    held limit admitted (items ++ [item]) = hold limit admitted (held limit admitted items) item := List.foldl_append

theorem lastRun_append (items : List α) (item : α) :
    lastRun limit admitted (items ++ [item]) =
      if (distinct admitted (lastRun limit admitted items)).length < limit then lastRun limit admitted items ++ [item] else [] :=
  List.foldl_append

theorem held_eq (items : List α) : held limit admitted items = distinct admitted (lastRun limit admitted items) := by
  induction items using List.reverseRecOn with
  | nil => rfl
  | append_singleton items item ih =>
    rw [held_append, lastRun_append, ih, hold]
    split
    · rw [distinct_append]
    · rfl

/-- Nothing is cleared while there are fewer than the limit. -/
theorem lastRun_few {items : List α} (few : (distinct admitted items).length < limit) : lastRun limit admitted items = items := by
  induction items using List.reverseRecOn with
  | nil => rfl
  | append_singleton items item ih =>
    have fewer : (distinct admitted items).length < limit := by
      refine Nat.lt_of_le_of_lt (List.Subperm.length_le (List.subperm_of_subset (distinct_nodup items) ?_)) few
      intro other inside
      obtain ⟨earlier, isAdmitted⟩ := mem_distinct.mp inside
      exact mem_distinct.mpr ⟨List.mem_append_left _ earlier, isAdmitted⟩
    rw [lastRun_append, ih fewer, if_pos fewer]

/-- A set that is not full has all the items just if all are admitted and they are fewer
than the limit. -/
theorem holds_all_iff {items : List α} (room : (held limit admitted items).length < limit) :
    (∀ item ∈ items, item ∈ held limit admitted items) ↔
      (∀ item ∈ items, admitted item = true) ∧ (distinct admitted items).length < limit := by
  constructor
  · intro all
    have each : ∀ item ∈ items, admitted item = true := by
      intro item inside
      have inHeld := all item inside
      rw [held_eq] at inHeld
      exact (mem_distinct.mp inHeld).2
    refine ⟨each, Nat.lt_of_le_of_lt (List.Subperm.length_le (List.subperm_of_subset (distinct_nodup items) ?_)) room⟩
    intro item inside
    exact all item (mem_distinct.mp inside).1
  · intro ⟨each, few⟩ item inside
    rw [held_eq, lastRun_few few]
    exact mem_distinct.mpr ⟨inside, each item inside⟩

end K8Sense.LimitedSet
