import Mathlib.Data.List.Induction

/-! Finite runs of a partial transition function. A step is `none` where the
event is not enabled. Conditions on steps are judged in the state in which the
event happens, so a run can be restricted without changing the step function. -/

namespace K8Sense.Transition

universe u v
variable {σ : Type u} {ε : Type v}

/-- Execute the events in order, stopping with `none` at one that is not enabled. -/
def run (step : σ → ε → Option σ) : σ → List ε → Option σ
  | state, [] => some state
  | state, event :: rest => (step state event).bind fun next => run step next rest

/-- Every event satisfies `allowed` in the state in which it is executed. -/
def Meets (step : σ → ε → Option σ) (allowed : σ → ε → Prop) : σ → List ε → Prop
  | _, [] => True
  | state, event :: rest => allowed state event ∧
      match step state event with
      | some next => Meets step allowed next rest
      | none => True

variable {step : σ → ε → Option σ} {allowed : σ → ε → Prop}

instance Meets.decide [∀ state event, Decidable (allowed state event)] :
    ∀ state events, Decidable (Meets step allowed state events)
  | _, [] => isTrue trivial
  | state, event :: rest => by
    unfold Meets
    cases step state event with
    | none => exact inferInstance
    | some next =>
      have := Meets.decide next rest
      exact inferInstance

@[simp] theorem run_nil (state : σ) : run step state [] = some state := rfl

@[simp] theorem run_cons (state : σ) (event : ε) (rest : List ε) :
    run step state (event :: rest) = (step state event).bind fun next => run step next rest := rfl

theorem run_step {state next : σ} {event : ε} (taken : step state event = some next) (rest : List ε) :
    run step state (event :: rest) = run step next rest := by
  rw [run_cons, taken, Option.bind_some]

theorem meets_step {state next : σ} {event : ε} (taken : step state event = some next) {rest : List ε} :
    Meets step allowed state (event :: rest) ↔ allowed state event ∧ Meets step allowed next rest := by
  simp only [Meets, taken]

/-- Events that are allowed everywhere are allowed in a run. -/
theorem meets_of_forall {events : List ε} (everywhere : ∀ event ∈ events, ∀ state, allowed state event) (state : σ) :
    Meets step allowed state events := by
  induction events generalizing state with
  | nil => trivial
  | cons event rest ih =>
    refine ⟨everywhere event List.mem_cons_self state, ?_⟩
    split
    next next _ => exact ih (fun other member => everywhere other (List.mem_cons_of_mem event member)) next
    next => trivial

/-- Conditions that agree where an invariant holds are met by the same runs. -/
theorem meets_congr {other : σ → ε → Prop} (inv : σ → Prop)
    (preserved : ∀ state event next, inv state → step state event = some next → inv next)
    (same : ∀ state event, inv state → (allowed state event ↔ other state event)) {start : σ} (initial : inv start)
    (events : List ε) : Meets step allowed start events ↔ Meets step other start events := by
  induction events generalizing start with
  | nil => exact Iff.rfl
  | cons event rest ih =>
    unfold Meets
    rw [same start event initial]
    cases taken : step start event with
    | none => exact Iff.rfl
    | some next => exact and_congr_right fun _ => ih (preserved start event next initial taken)

theorem run_append (state : σ) (first rest : List ε) :
    run step state (first ++ rest) = (run step state first).bind fun middle => run step middle rest := by
  induction first generalizing state with
  | nil => rfl
  | cons event first ih =>
    simp only [List.cons_append, run_cons]
    cases step state event with
    | none => rfl
    | some next => exact ih next

theorem run_snoc (state : σ) (events : List ε) (event : ε) :
    run step state (events ++ [event]) = (run step state events).bind fun middle => step middle event := by
  rw [run_append]
  congr 1
  funext middle
  simp

theorem meets_snoc (state : σ) (events : List ε) (event : ε) :
    Meets step allowed state (events ++ [event]) ↔
      Meets step allowed state events ∧
        ∀ middle, run step state events = some middle → allowed middle event := by
  induction events generalizing state with
  | nil =>
    simp only [List.nil_append, Meets, run_nil, Option.some.injEq, forall_eq', true_and]
    cases step state event <;> simp
  | cons first events ih =>
    simp only [List.cons_append, Meets, run_cons]
    cases taken : step state first with
    | none => simp
    | some next => simp only [ih next, Option.bind_some, and_assoc]

/-- What holds of each item after those before it holds of one more item. -/
theorem each_snoc {α : Type v} {holds : List α → α → Prop} {items : List α} {last : α} :
    (∀ before item after, items ++ [last] = before ++ item :: after → holds before item) ↔
      (∀ before item after, items = before ++ item :: after → holds before item) ∧ holds items last := by
  constructor
  · intro every
    refine ⟨fun before item after split => ?_, every items last [] rfl⟩
    exact every before item (after ++ [last]) (by rw [split]; simp)
  · intro ⟨earlier, final⟩ before item after split
    rcases List.eq_nil_or_concat after with rfl | ⟨rest, other, rfl⟩
    · obtain ⟨rfl, same⟩ := List.append_inj' split rfl
      cases (List.cons.inj same).1
      exact final
    · have shape : items ++ [last] = (before ++ item :: rest) ++ [other] := by simpa using split
      exact earlier before item rest (List.append_inj' shape rfl).1

/-- A run meets a condition exactly when each of its events does after the events
before it. -/
theorem meets_iff_prefixes (start : σ) (events : List ε) : Meets step allowed start events ↔
    ∀ before event after middle, events = before ++ event :: after → run step start before = some middle →
      allowed middle event := by
  have reordered : (∀ before event after middle, events = before ++ event :: after → run step start before = some middle →
      allowed middle event) ↔ ∀ before event after, events = before ++ event :: after →
        ∀ middle, run step start before = some middle → allowed middle event :=
    ⟨fun every before event after split middle => every before event after middle split,
      fun every before event after middle split => every before event after split middle⟩
  apply Iff.trans ?_ reordered.symm
  clear reordered
  induction events using List.reverseRecOn with
  | nil => simp [Meets]
  | append_singleton events last ih =>
    rw [meets_snoc, each_snoc]
    exact and_congr_left fun _ => ih

theorem meets_before {start : σ} {first rest : List ε} (meets : Meets step allowed start (first ++ rest)) :
    Meets step allowed start first := by
  rw [meets_iff_prefixes] at *
  intro before event after middle split ran
  exact meets before event (after ++ rest) middle (by simp [split]) ran

theorem meets_after {start middle : σ} {first rest : List ε} (meets : Meets step allowed start (first ++ rest))
    (ran : run step start first = some middle) : Meets step allowed middle rest := by
  induction first generalizing start with
  | nil =>
    cases ran
    exact meets
  | cons event first ih =>
    rw [run_cons, Option.bind_eq_some_iff] at ran
    obtain ⟨next, taken, ran⟩ := ran
    exact ih ((meets_step taken).mp meets).2 ran

/-- A run that goes on after some of its events executes the next of them. -/
theorem run_between {start middle last : σ} {before after : List ε} {event : ε}
    (ran : run step start (before ++ event :: after) = some last) (reached : run step start before = some middle) :
    ∃ next, step middle event = some next ∧ run step start (before ++ [event]) = some next := by
  rw [run_append, reached, Option.bind_some, run_cons, Option.bind_eq_some_iff] at ran
  obtain ⟨next, taken, -⟩ := ran
  refine ⟨next, taken, ?_⟩
  rw [run_snoc, reached, Option.bind_some, taken]

theorem run_induction {start : σ} {motive : List ε → σ → Prop} (initial : motive [] start)
    (next : ∀ events state event after, run step start events = some state → motive events state →
      step state event = some after → motive (events ++ [event]) after)
    {events : List ε} {last : σ} (ran : run step start events = some last) : motive events last := by
  induction events using List.reverseRecOn generalizing last with
  | nil =>
    cases ran
    exact initial
  | append_singleton events event ih =>
    rw [run_snoc, Option.bind_eq_some_iff] at ran
    obtain ⟨state, prior, taken⟩ := ran
    exact next events state event last prior (ih prior) taken

/-- What every allowed step preserves holds at the end of a run of allowed steps. -/
theorem invariant (inv : σ → Prop)
    (preserved : ∀ state event next, inv state → allowed state event → step state event = some next → inv next)
    {start last : σ} {events : List ε} (initial : inv start) (meets : Meets step allowed start events)
    (ran : run step start events = some last) : inv last := by
  induction events generalizing start with
  | nil =>
    cases ran
    exact initial
  | cons event rest ih =>
    rw [run_cons, Option.bind_eq_some_iff] at ran
    obtain ⟨next, taken, ran⟩ := ran
    simp only [Meets, taken] at meets
    exact ih (preserved start event next initial meets.1 taken) meets.2 ran

/-- What every step preserves holds at the end of every run. -/
theorem always (inv : σ → Prop)
    (preserved : ∀ state event next, inv state → step state event = some next → inv next)
    {start last : σ} {events : List ε} (initial : inv start)
    (ran : run step start events = some last) : inv last :=
  run_induction (motive := fun _ => inv) initial
    (fun _ state event after _ holds taken => preserved state event after holds taken) ran

/-- Where a step from a good state leads to a good state exactly when it is allowed,
the states of a run are all good exactly when its steps are all allowed. -/
theorem throughout_iff (inv good : σ → Prop)
    (preserved : ∀ state event next, inv state → good state → step state event = some next → inv next)
    (decides : ∀ state event next, inv state → good state → step state event = some next →
      (allowed state event ↔ good next))
    {start last : σ} {events : List ε} (initial : inv start) (fine : good start)
    (ran : run step start events = some last) :
    (∀ before after state, events = before ++ after → run step start before = some state → good state) ↔
      Meets step allowed start events := by
  constructor
  · intro throughout
    induction events generalizing start with
    | nil => trivial
    | cons event rest ih =>
      rw [run_cons, Option.bind_eq_some_iff] at ran
      obtain ⟨next, taken, ran⟩ := ran
      have fine' : good next := throughout [event] rest next rfl (by rw [run_step taken, run_nil])
      rw [meets_step taken]
      refine ⟨(decides start event next initial fine taken).mpr fine', ?_⟩
      apply ih (preserved start event next initial fine taken) fine' ran
      intro before after state split reached
      exact throughout (event :: before) after state (by rw [split]; rfl) (by rw [run_step taken, reached])
  · intro meets before after state split reached
    rw [split] at meets
    have kept : inv state ∧ good state := by
      apply invariant (fun state => inv state ∧ good state) ?_ ⟨initial, fine⟩ (meets_before meets) reached
      intro state event next holds permitted taken
      exact ⟨preserved state event next holds.1 holds.2 taken,
        (decides state event next holds.1 holds.2 taken).mp permitted⟩
    exact kept.2

end K8Sense.Transition
