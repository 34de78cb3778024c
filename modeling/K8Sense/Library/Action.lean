import Mathlib.Logic.Basic

/-! Programs with a state that may fail, where a failure keeps what has been done. What a run
leads to is stated by two conditions, one for each way in which it ends. -/

namespace K8Sense.Action

universe u
variable {ε σ α β : Type u}

/-- The program ends in one of the two ways, with the condition that belongs to it. -/
def Ends (program : EStateM ε σ α) (post : α → σ → Prop) (fails : ε → σ → Prop) (state : σ) : Prop :=
  match program state with
  | .ok value next => post value next
  | .error error next => fails error next

instance Ends.decide {program : EStateM ε σ α} {post : α → σ → Prop} {fails : ε → σ → Prop} {state : σ}
    [∀ value next, Decidable (post value next)] [∀ error next, Decidable (fails error next)] : Decidable (Ends program post fails state) := by
  unfold Ends
  split <;> infer_instance

/-- The program keeps the invariant, whichever way it ends. -/
def Keeps (inv : σ → Prop) (program : EStateM ε σ α) : Prop :=
  ∀ state, inv state → Ends program (fun _ => inv) (fun _ => inv) state

variable {post : α → σ → Prop} {fails : ε → σ → Prop} {state : σ}

theorem Ends.mono {program : EStateM ε σ α} {weaker : α → σ → Prop} {otherwise : ε → σ → Prop} (ends : Ends program post fails state)
    (implies : ∀ value next, post value next → weaker value next) (also : ∀ error next, fails error next → otherwise error next) :
    Ends program weaker otherwise state := by
  unfold Ends at *
  split at ends
  · exact implies _ _ ends
  · exact also _ _ ends

theorem Ends.and {program : EStateM ε σ α} {other : α → σ → Prop} {otherwise : ε → σ → Prop} (ends : Ends program post fails state)
    (also : Ends program other otherwise state) :
    Ends program (fun value next => post value next ∧ other value next) (fun error next => fails error next ∧ otherwise error next) state := by
  unfold Ends at *
  split at ends
  next is =>
    rw [is] at also
    exact ⟨ends, also⟩
  next is =>
    rw [is] at also
    exact ⟨ends, also⟩

theorem Ends.of_forall {program : EStateM ε σ α} (holds : ∀ value next, post value next) (also : ∀ error next, fails error next) :
    Ends program post fails state := by
  unfold Ends
  split
  · exact holds _ _
  · exact also _ _

/-- Conditions are compared at the ends that a run may have. -/
theorem Ends.congr {program : EStateM ε σ α} {other : α → σ → Prop} {otherwise : ε → σ → Prop} {known : α → σ → Prop} {failing : ε → σ → Prop}
    (ends : Ends program known failing state) (same : ∀ value next, known value next → (post value next ↔ other value next))
    (also : ∀ error next, failing error next → (fails error next ↔ otherwise error next)) :
    Ends program post fails state ↔ Ends program other otherwise state := by
  unfold Ends at *
  split at ends
  · exact same _ _ ends
  · exact also _ _ ends

theorem ends_const {program : EStateM ε σ α} {condition : Prop} : Ends program (fun _ _ => condition) (fun _ _ => condition) state ↔ condition := by
  unfold Ends
  split <;> exact Iff.rfl

theorem Ends.iff {program : EStateM ε σ α} {known : α → σ → Prop} {failing : ε → σ → Prop} {condition : Prop} (ends : Ends program known failing state)
    (same : ∀ value next, known value next → (post value next ↔ condition)) (also : ∀ error next, failing error next → (fails error next ↔ condition)) :
    Ends program post fails state ↔ condition :=
  (ends.congr same also).trans ends_const

theorem Ends.absurd {program : EStateM ε σ α} (never : Ends program (fun _ _ => False) (fun _ _ => False) state) : False := by
  unfold Ends at never
  split at never <;> exact never

@[simp] theorem ends_pure {value : α} : Ends (pure value) post fails state ↔ post value state := Iff.rfl

@[simp] theorem ends_throw {error : ε} : Ends (throw error) post fails state ↔ fails error state := Iff.rfl

@[simp] theorem ends_get {post : σ → σ → Prop} : Ends get post fails state ↔ post state state := Iff.rfl

@[simp] theorem ends_modify {change : σ → σ} {post : PUnit → σ → Prop} : Ends (modify change) post fails state ↔ post ⟨⟩ (change state) :=
  Iff.rfl

@[simp] theorem ends_bind {program : EStateM ε σ α} {rest : α → EStateM ε σ β} {post : β → σ → Prop} :
    Ends (program >>= rest) post fails state ↔ Ends program (fun value => Ends (rest value) post fails) fails state := by
  unfold Ends
  change (match (match program state with | .ok value next => rest value next | .error error next => .error error next) with
    | .ok value next => post value next
    | .error error next => fails error next) ↔ _
  cases program state <;> exact Iff.rfl

@[simp] theorem ends_map {program : EStateM ε σ α} {change : α → β} {post : β → σ → Prop} :
    Ends (change <$> program) post fails state ↔ Ends program (fun value => post (change value)) fails state := by
  rw [map_eq_pure_bind, ends_bind]
  exact Iff.rfl

@[simp] theorem ends_tryCatch {program : EStateM ε σ α} {handle : ε → EStateM ε σ α} :
    Ends (tryCatch program handle) post fails state ↔ Ends program post (fun error => Ends (handle error) post fails) state := by
  have runs : tryCatch program handle state = match program state with
      | .ok value next => .ok value next
      | .error error next => handle error next := by
    change EStateM.tryCatch program handle state = _
    unfold EStateM.tryCatch
    cases program state <;> rfl
  unfold Ends
  rw [runs]
  cases program state <;> exact Iff.rfl

@[simp] theorem ends_ite {condition : Prop} [Decidable condition] {program other : EStateM ε σ α} :
    Ends (if condition then program else other) post fails state ↔
      if condition then Ends program post fails state else Ends other post fails state := by
  split <;> exact Iff.rfl

-- a run is followed by the rules only
attribute [irreducible] Ends

/-! What a program keeps. -/

variable {inv : σ → Prop}

theorem Keeps.pure (value : α) : Keeps inv (pure value : EStateM ε σ α) := fun _ kept => ends_pure.mpr kept

theorem Keeps.bind {program : EStateM ε σ α} {rest : α → EStateM ε σ β} (first : Keeps inv program) (then' : ∀ value, Keeps inv (rest value)) :
    Keeps inv (program >>= rest) := by
  intro state kept
  rw [ends_bind]
  exact (first state kept).mono (fun value next kept => then' value next kept) fun _ _ kept => kept

section Loops
universe v
variable {γ : Type v} {body : γ → EStateM ε σ PUnit}

theorem ends_forM_cons {item : γ} {rest : List γ} {post : PUnit → σ → Prop} :
    Ends (forM (item :: rest) body) post fails state ↔ Ends (body item) (fun _ => Ends (forM rest body) post fails) fails state := by
  rw [List.forM_cons, ends_bind]

theorem Keeps.forM {items : List γ} (each : ∀ item ∈ items, Keeps inv (body item)) : Keeps inv (forM items body) := by
  induction items with
  | nil => exact Keeps.pure _
  | cons item rest ih =>
    rw [List.forM_cons]
    exact Keeps.bind (each item List.mem_cons_self) fun _ => ih fun other member => each other (List.mem_cons_of_mem item member)

theorem ends_forM {items : List γ} (each : ∀ item ∈ items, ∀ state, inv state → Ends (body item) (fun _ => inv) fails state) (kept : inv state) :
    Ends (forM items body) (fun _ => inv) fails state := by
  induction items generalizing state with
  | nil => exact ends_pure.mpr kept
  | cons item rest ih =>
    rw [ends_forM_cons]
    refine (each item List.mem_cons_self state kept).mono (fun _ next kept => ?_) fun _ _ failed => failed
    exact ih (fun other member => each other (List.mem_cons_of_mem item member)) kept

variable (inv) in
/-- A loop comes to an iteration if those before it do not fail. What the iteration reaches stays reached. -/
theorem ends_forM_reaching {before after : List γ} {item : γ} {goal : σ → Prop}
    (passes : ∀ other ∈ before, ∀ state, inv state → Ends (body other) (fun _ => inv) (fun _ _ => False) state)
    (reaches : ∀ state, inv state → Ends (body item) (fun _ => goal) (fun _ => goal) state) (stays : ∀ other ∈ after, Keeps goal (body other))
    (kept : inv state) : Ends (forM (before ++ item :: after) body) (fun _ => goal) (fun _ => goal) state := by
  induction before generalizing state with
  | nil =>
    rw [List.nil_append, ends_forM_cons]
    exact (reaches state kept).mono (fun _ next reached => Keeps.forM stays next reached) fun _ _ reached => reached
  | cons other rest ih =>
    rw [List.cons_append, ends_forM_cons]
    refine (passes other List.mem_cons_self state kept).mono (fun _ next kept => ?_) fun _ _ failed => failed.elim
    exact ih (fun earlier member => passes earlier (List.mem_cons_of_mem other member)) kept

end Loops

end K8Sense.Action
