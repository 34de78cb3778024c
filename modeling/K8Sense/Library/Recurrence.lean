import Mathlib.Data.Nat.Find
import Mathlib.Tactic.Ring

/-! Events that come again and again in a discrete time, and how far apart they
are. Where an event is told by its place in a unit of time and by the unit, the
distances of the units decide. -/

namespace K8Sense.Recurrence

/-- The event at `later` is the next one after the event at `time`. -/
structure Next (due : Nat → Prop) (time later : Nat) : Prop where
  here : due time
  there : due later
  after : time < later
  between : ∀ other, time < other → other < later → ¬due other

/-- After every event there is another one within the limit. -/
def Follows (due : Nat → Prop) (limit : Nat) : Prop :=
  ∀ time, due time → ∃ later, time < later ∧ later ≤ time + limit ∧ due later

/-- There is no last event. -/
def Recurs (due : Nat → Prop) : Prop := ∀ time, due time → ∃ later, time < later ∧ due later

variable {due inner outer : Nat → Prop} {time later limit unit first last : Nat}

theorem exists_next (recurs : Recurs due) (here : due time) : ∃ later, Next due time later := by
  classical
  have ahead := recurs time here
  obtain ⟨after, there⟩ := Nat.find_spec ahead
  refine ⟨Nat.find ahead, here, there, after, ?_⟩
  intro other past before known
  exact Nat.find_min ahead before ⟨past, known⟩

/-- The distances of consecutive events are within the limit. -/
theorem follows_iff (recurs : Recurs due) : Follows due limit ↔ ∀ time later, Next due time later → later ≤ time + limit := by
  constructor
  · intro follows time later next
    obtain ⟨other, after, within, known⟩ := follows time next.here
    have outside : ¬other < later := fun before => next.between other after before known
    omega
  · intro near time here
    obtain ⟨later, next⟩ := exists_next recurs here
    exact ⟨later, next.after, near time later next, next.there⟩

theorem recurs_of_period {period : Nat} (positive : 0 < period) (again : ∀ time, due time → due (time + period)) : Recurs due :=
  fun time here => ⟨time + period, by omega, again time here⟩

/-- An event is told by its place in the unit and by the unit, and its places lie
between the first and the last one. -/
structure Layered (due inner outer : Nat → Prop) (unit first last : Nat) : Prop where
  due_iff : ∀ time, due time ↔ inner (time % unit) ∧ outer (time / unit)
  opening : inner first
  closing : inner last
  below : last < unit
  within : ∀ place, inner place → first ≤ place ∧ place ≤ last

theorem Layered.at_place (layered : Layered due inner outer unit first last) {place number : Nat} (inside : place < unit) :
    due (unit * number + place) ↔ inner place ∧ outer number := by
  rw [layered.due_iff, Nat.mul_add_mod, Nat.mod_eq_of_lt inside, Nat.mul_add_div (by omega), Nat.div_eq_of_lt inside, Nat.add_zero]

/-- Within a unit the events are close. -/
def Close (inner : Nat → Prop) (last limit : Nat) : Prop :=
  ∀ place, inner place → place < last → ∃ later, place < later ∧ later ≤ place + limit ∧ inner later

/-- The last event of a unit is followed by the first one of the next unit that has
events. -/
theorem follows_layered (layered : Layered due inner outer unit first last)
    (close : (∃ number, outer number) → Follows outer ((limit + last - first) / unit) → Close inner last limit) :
    Follows due limit ↔ Follows outer ((limit + last - first) / unit) := by
  have below := layered.below
  have order := (layered.within first layered.opening).2
  have positive : 0 < unit := by omega
  constructor
  · intro follows number known
    obtain ⟨later, after, within, there⟩ := follows (unit * number + last) ((layered.at_place below).mpr ⟨layered.closing, known⟩)
    obtain ⟨place, outside⟩ := (layered.due_iff later).mp there
    have split := Nat.div_add_mod later unit
    have inside := Nat.mod_lt later positive
    have bounds := layered.within _ place
    have ahead : number < later / unit := by
      by_contra behind
      have same : unit * (later / unit) ≤ unit * number := Nat.mul_le_mul_left unit (by omega)
      omega
    refine ⟨later / unit, ahead, ?_, outside⟩
    have distance : unit * (later / unit - number) ≤ limit + last - first := by
      rw [Nat.mul_sub]
      omega
    have steps := (Nat.le_div_iff_mul_le positive).mpr (Nat.mul_comm unit _ ▸ distance)
    omega
  · intro follows time here
    obtain ⟨place, known⟩ := (layered.due_iff time).mp here
    obtain ⟨number, after, within, there⟩ := follows _ known
    have split := Nat.div_add_mod time unit
    have inside := Nat.mod_lt time positive
    have bounds := layered.within _ place
    have distance := (Nat.le_div_iff_mul_le positive).mp (Nat.sub_le_iff_le_add'.mpr within)
    rw [Nat.sub_mul, Nat.mul_comm number, Nat.mul_comm (time / unit)] at distance
    have apart : unit * (time / unit) + unit ≤ unit * number := by
      rw [← Nat.mul_succ]
      exact Nat.mul_le_mul_left unit after
    rcases Nat.lt_or_ge (time % unit) last with early | final
    · obtain ⟨later, past, near, event⟩ := close ⟨_, known⟩ follows _ place early
      have upper := (layered.within _ event).2
      refine ⟨unit * (time / unit) + later, by omega, by omega, ?_⟩
      exact (layered.at_place (by omega)).mpr ⟨event, known⟩
    · refine ⟨unit * number + first, by omega, by omega, ?_⟩
      exact (layered.at_place (by omega)).mpr ⟨layered.opening, there⟩

end K8Sense.Recurrence
