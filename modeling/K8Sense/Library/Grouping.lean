import Mathlib.Data.List.Perm.Basic
import Mathlib.Data.List.Nodup

/-! Grouping a list by a key, the groups in the order in which their keys
appear first. -/

namespace K8Sense.Grouping

universe u v
variable {α : Type u} {κ : Type v} [DecidableEq κ]

/-- Add the key unless it has been seen. -/
def note (order : List κ) (key : κ) : List κ :=
  if key ∈ order then order else order ++ [key]

/-- The keys of a list, each once, in the order of their first appearance. -/
def firstSeen (key : α → κ) (items : List α) : List κ :=
  items.foldl (fun order item => note order (key item)) []

/-- The items of each group in list order, one group after another. -/
def grouped (key : α → κ) (order : List κ) (items : List α) : List α :=
  order.flatMap fun group => items.filter (key · = group)

@[simp] theorem mem_note {order : List κ} {key other : κ} : other ∈ note order key ↔ other ∈ order ∨ other = key := by
  unfold note
  split
  next seen =>
    constructor
    · exact Or.inl
    · rintro (old | rfl)
      · exact old
      · exact seen
  next => simp

theorem note_nodup {order : List κ} (distinct : order.Nodup) (key : κ) : (note order key).Nodup := by
  unfold note
  split
  next => exact distinct
  next fresh =>
    rw [List.nodup_append_comm]
    exact List.nodup_cons.mpr ⟨fresh, distinct⟩

private theorem fold_spec (key : α → κ) (items : List α) {order : List κ} (distinct : order.Nodup) :
    (items.foldl (fun order item => note order (key item)) order).Nodup ∧
      ∀ group, group ∈ items.foldl (fun order item => note order (key item)) order ↔
        group ∈ order ∨ group ∈ items.map key := by
  induction items generalizing order with
  | nil => simp [distinct]
  | cons item rest ih =>
    obtain ⟨unique, members⟩ := ih (note_nodup distinct (key item))
    refine ⟨unique, ?_⟩
    intro group
    rw [List.foldl_cons, members group, mem_note, List.map_cons, List.mem_cons, or_assoc]

theorem firstSeen_nodup (key : α → κ) (items : List α) : (firstSeen key items).Nodup :=
  (fold_spec key items List.nodup_nil).1

theorem mem_firstSeen {key : α → κ} {items : List α} {group : κ} :
    group ∈ firstSeen key items ↔ group ∈ items.map key := by
  rw [firstSeen, (fold_spec key items List.nodup_nil).2 group]
  simp

/-- Grouping by distinct keys rearranges the items that have one of them. -/
theorem grouped_perm (key : α → κ) {order : List κ} (distinct : order.Nodup) (items : List α) :
    (grouped key order items).Perm (items.filter (key · ∈ order)) := by
  induction order with
  | nil => simp [grouped]
  | cons group rest ih =>
    obtain ⟨fresh, distinct⟩ := List.nodup_cons.mp distinct
    have first : items.filter (key · = group) =
        (items.filter (key · ∈ group :: rest)).filter (key · = group) := by
      rw [List.filter_filter]
      congr 1
      funext item
      by_cases same : key item = group <;> simp [same]
    have others : items.filter (key · ∈ rest) =
        (items.filter (key · ∈ group :: rest)).filter fun item => !decide (key item = group) := by
      rw [List.filter_filter]
      congr 1
      funext item
      by_cases same : key item = group <;> simp [same, fresh]
    have split : (grouped key (group :: rest) items).Perm
        (items.filter (key · = group) ++ items.filter (key · ∈ rest)) := (ih distinct).append_left _
    refine split.trans ?_
    rw [first, others]
    exact List.filter_append_perm _ _

/-- Grouping by an order that names the key of every item loses no item. -/
theorem grouped_perm_of_subset {key : α → κ} {order : List κ} (distinct : order.Nodup) {items : List α}
    (named : ∀ item ∈ items, key item ∈ order) : (grouped key order items).Perm items := by
  have all : items.filter (key · ∈ order) = items :=
    List.filter_eq_self.mpr fun item member => decide_eq_true (named item member)
  simpa only [all] using grouped_perm key distinct items

end K8Sense.Grouping
