import K8Sense.Library.Transition
import K8Sense.Doctor.GuidedFix

/-! Any number of revert requests for one audit entry at a time. The checks, the
inverse action, the entry in the log and the mark on the original are steps of
their own, and the steps of different requests come in any order. -/

namespace K8Sense.Doctor.Revert
open Transition

inductive Phase where
  /-- Past its checks; `seen` counts the reverts carried out by then. -/
  | checked (orig : AuditEntry) (req : GuidedFixRequest) (seen : Nat)
  | performed (orig : AuditEntry) (outcome : Except String String)
  | logged (orig : AuditEntry) (outcome : Except String String)
  | finished (response : Response)

/-- The server with its requests. `successes` counts the inverse actions that
were carried out on the cluster. -/
structure State where
  server : FixState
  calls : List Phase
  successes : Nat

inductive Event where
  | arrive (env : FixEnv) (confirmed : Bool)
  | perform (id : Nat) (env : FixEnv)
  | log (id : Nat) (env : FixEnv)
  | mark (id : Nat) (env : FixEnv)
  /-- The clusters change for other reasons. -/
  | drift (clusters : String → Option Cluster)

def arrive (auditID : String) (env : FixEnv) (confirmed : Bool) (state : State) : State :=
  match checkRevert env state.server (some ⟨auditID, confirmed⟩) with
  | .error response => { state with calls := state.calls ++ [.finished response] }
  | .ok (orig, req) => { state with calls := state.calls ++ [.checked orig req state.successes] }

def perform (id : Nat) (env : FixEnv) (orig : AuditEntry) (req : GuidedFixRequest) (state : State) : State :=
  let (server, outcome) := performRevert env state.server req
  { server
    calls := state.calls.set id (.performed orig outcome)
    successes := if outcome.toBool then state.successes + 1 else state.successes }

def log (id : Nat) (env : FixEnv) (orig : AuditEntry) (outcome : Except String String) (state : State) : State :=
  { state with
    server := logRevert env orig outcome state.server
    calls := state.calls.set id (.logged orig outcome) }

def mark (id : Nat) (env : FixEnv) (orig : AuditEntry) (outcome : Except String String) (state : State) : State :=
  match outcome with
  | .error err => { state with calls := state.calls.set id (.finished ⟨422, err⟩) }
  | .ok message =>
    { state with
      server := markReverted env orig.id state.server
      calls := state.calls.set id (.finished ⟨200, message⟩) }

def step (auditID : String) (state : State) : Event → Option State
  | .arrive env confirmed => some (arrive auditID env confirmed state)
  | .perform id env =>
    match state.calls[id]? with
    | some (.checked orig req _) => some (perform id env orig req state)
    | _ => none
  | .log id env =>
    match state.calls[id]? with
    | some (.performed orig outcome) => some (log id env orig outcome state)
    | _ => none
  | .mark id env =>
    match state.calls[id]? with
    | some (.logged orig outcome) => some (mark id env orig outcome state)
    | _ => none
  | .drift clusters => some { state with server := { state.server with clusters } }

/-- The request has carried out the inverse action and not yet marked the entry. -/
def Phase.owes : Phase → Bool
  | .performed _ (.ok _) | .logged _ (.ok _) => true
  | _ => false

def Marked (auditID : String) (state : State) : Prop :=
  ∃ entry, getAudit auditID state.server.audit = some entry ∧ entry.revertedAt ≠ none

/-- No request passes its checks between a successful action and its mark, none
acts after another has acted since its own checks, and no mark fails. -/
def Exclusive (auditID : String) (state : State) : Event → Prop
  | .arrive env confirmed => ∀ checked, checkRevert env state.server (some ⟨auditID, confirmed⟩) = .ok checked →
      ∀ call ∈ state.calls, call.owes = false
  | .perform id env => ∀ orig req seen, state.calls[id]? = some (.checked orig req seen) →
      (performRevert env state.server req).2.toBool = true → seen = state.successes
  | .mark id env => ∀ call, state.calls[id]? = some call → call.owes = true → env.marks = true
  | _ => True

variable {auditID : String}

/-- One request at most acts, and the entry is marked once it is done. -/
structure Once (auditID : String) (state : State) : Prop where
  present : ∃ entry, getAudit auditID state.server.audit = some entry
  checked : ∀ orig req seen, .checked orig req seen ∈ state.calls → seen = 0 ∧ orig.id = auditID
  owed : ∀ call ∈ state.calls, call.owes = true → state.successes = 1
  names : ∀ orig outcome, .performed orig outcome ∈ state.calls ∨ .logged orig outcome ∈ state.calls → orig.id = auditID
  bound : state.successes ≤ 1
  marked : Marked auditID state → state.successes = 1
  settled : state.successes = 1 → Marked auditID state ∨ ∃ call ∈ state.calls, call.owes = true

theorem getAudit_id {id : String} {audit : List AuditEntry} {entry : AuditEntry} (found : getAudit id audit = some entry) :
    entry.id = id := by
  simpa using List.find?_some found

theorem writeAudit_kept {env : FixEnv} {new entry : AuditEntry} {state : FixState} {id : String}
    (found : getAudit id state.audit = some entry) : getAudit id (writeAudit env new state).audit = some entry := by
  unfold writeAudit
  split
  · simp only [getAudit, List.find?_append] at *
    rw [found]
    rfl
  · exact found

theorem markReverted_found {env : FixEnv} (marks : env.marks = true) {state : FixState} {id : String} {entry : AuditEntry}
    (found : getAudit id state.audit = some entry) :
    getAudit id (markReverted env id state).audit = some { entry with revertedAt := some env.now } := by
  have same : (fun entry : AuditEntry => decide (entry.id = id)) ∘ (fun entry : AuditEntry =>
      if entry.id = id then { entry with revertedAt := some env.now } else entry) = fun entry => decide (entry.id = id) := by
    funext entry
    by_cases named : entry.id = id <;> simp [named]
  simp only [getAudit] at found
  simp only [markReverted, marks, if_true, getAudit, List.find?_map, same, found, Option.map_some]
  rw [if_pos (getAudit_id found)]

theorem performRevert_audit (env : FixEnv) (state : FixState) (req : GuidedFixRequest) :
    (performRevert env state req).1.audit = state.audit := by
  unfold performRevert applied
  split
  · rfl
  · dsimp only
    split <;> rfl

theorem checkRevert_ok {env : FixEnv} {state : FixState} {confirmed : Bool} {orig : AuditEntry} {req : GuidedFixRequest}
    (checked : checkRevert env state (some ⟨auditID, confirmed⟩) = .ok (orig, req)) :
    getAudit auditID state.audit = some orig ∧ orig.revertedAt = none := by
  unfold checkRevert at checked
  split at checked
  next => cases checked
  next =>
    dsimp only at checked
    split at checked
    next => cases checked
    next =>
      split at checked
      next => cases checked
      next =>
        split at checked
        next => cases checked
        next found stored =>
          split at checked
          next =>
            split at checked
            next => cases checked
            next unmarked =>
              split at checked
              next => cases checked
              next =>
                cases checked
                exact ⟨stored, by simpa using unmarked⟩
          next => cases checked

theorem owes_set {calls : List Phase} {id : Nat} {old updated : Phase} (found : calls[id]? = some old)
    (kept : old.owes = true → updated.owes = true) (owing : ∃ call ∈ calls, call.owes = true) :
    ∃ call ∈ calls.set id updated, call.owes = true := by
  obtain ⟨call, member, owes⟩ := owing
  obtain ⟨index, inside, rfl⟩ := List.getElem_of_mem member
  have bound : id < calls.length := (List.getElem?_eq_some_iff.mp found).1
  by_cases same : index = id
  · subst same
    have equal : calls[index] = old := Option.some.inj ((List.getElem?_eq_getElem inside).symm.trans found)
    exact ⟨updated, List.mem_set bound updated, kept (equal ▸ owes)⟩
  · refine ⟨calls[index], ?_, owes⟩
    rw [List.mem_iff_getElem]
    refine ⟨index, by simpa using inside, ?_⟩
    rw [List.getElem_set_ne (fun equal => same equal.symm)]

theorem once_initial {server : FixState} {entry : AuditEntry} (present : getAudit auditID server.audit = some entry)
    (unmarked : entry.revertedAt = none) : Once auditID ⟨server, [], 0⟩ := by
  refine ⟨⟨entry, present⟩, by simp, by simp, by simp, by simp, ?_, by simp⟩
  rintro ⟨other, found, marked⟩
  exact absurd unmarked (Option.some.inj (present.symm.trans found) ▸ marked)

private theorem once_arrive {state : State} (once : Once auditID state) {env : FixEnv} {confirmed : Bool}
    (exclusive : Exclusive auditID state (.arrive env confirmed)) : Once auditID (arrive auditID env confirmed state) := by
  unfold arrive
  split
  next response refused =>
    refine ⟨once.present, ?_, ?_, ?_, once.bound, once.marked, ?_⟩
    · intro orig req seen member
      exact once.checked orig req seen (by simpa using member)
    · intro call member owes
      rcases List.mem_append.mp member with old | new
      · exact once.owed call old owes
      · obtain rfl := List.mem_singleton.mp new
        cases owes
    · intro orig outcome member
      exact once.names orig outcome (by simpa using member)
    · intro one
      rcases once.settled one with marked | ⟨call, member, owes⟩
      · exact Or.inl marked
      · exact Or.inr ⟨call, List.mem_append_left _ member, owes⟩
  next orig req checked =>
    have exclusive := exclusive (orig, req) checked
    obtain ⟨stored, unmarked⟩ := checkRevert_ok checked
    have none : state.successes = 0 := by
      have bound := once.bound
      have unsettled : state.successes ≠ 1 := by
        intro one
        rcases once.settled one with ⟨entry, found, marked⟩ | ⟨call, member, owes⟩
        · exact absurd unmarked (Option.some.inj (stored.symm.trans found) ▸ marked)
        · exact absurd owes (by simp [exclusive call member])
      omega
    refine ⟨once.present, ?_, ?_, ?_, once.bound, once.marked, ?_⟩
    · intro other request seen member
      rcases List.mem_append.mp member with old | new
      · exact once.checked other request seen old
      · cases List.mem_singleton.mp new
        exact ⟨none, getAudit_id stored⟩
    · intro call member owes
      rcases List.mem_append.mp member with old | new
      · exact once.owed call old owes
      · obtain rfl := List.mem_singleton.mp new
        cases owes
    · intro other outcome member
      exact once.names other outcome (by simpa using member)
    · intro one
      exact absurd (none.symm.trans one) Nat.zero_ne_one

private theorem once_set {state : State} (once : Once auditID state) (updated : Phase) {id : Nat} {old : Phase}
    (found : state.calls[id]? = some old) (owes : updated.owes = old.owes)
    (settled : ∀ orig req seen, updated ≠ .checked orig req seen)
    (names : ∀ orig outcome, updated = .performed orig outcome ∨ updated = .logged orig outcome → orig.id = auditID)
    {server : FixState} (present : ∃ entry, getAudit auditID server.audit = some entry)
    (marked : Marked auditID ⟨server, [], 0⟩ ↔ Marked auditID state) :
    Once auditID { state with server, calls := state.calls.set id updated } := by
  refine ⟨present, ?_, ?_, ?_, once.bound, ?_, ?_⟩
  · intro orig req seen member
    rcases List.mem_or_eq_of_mem_set member with before | same
    · exact once.checked orig req seen before
    · exact absurd same.symm (settled orig req seen)
  · intro call member owing
    rcases List.mem_or_eq_of_mem_set member with before | rfl
    · exact once.owed call before owing
    · exact once.owed old (List.mem_of_getElem? found) (owes ▸ owing)
  · intro orig outcome member
    rcases member with member | member
    · rcases List.mem_or_eq_of_mem_set member with before | same
      · exact once.names orig outcome (Or.inl before)
      · exact names orig outcome (Or.inl same.symm)
    · rcases List.mem_or_eq_of_mem_set member with before | same
      · exact once.names orig outcome (Or.inr before)
      · exact names orig outcome (Or.inr same.symm)
  · exact fun done => once.marked (marked.mp done)
  · intro one
    rcases once.settled one with done | owing
    · exact Or.inl (marked.mpr done)
    · exact Or.inr (owes_set found (fun held => owes.trans held) owing)

private theorem once_perform {state : State} (once : Once auditID state) {id : Nat} {env : FixEnv} {orig : AuditEntry}
    {req : GuidedFixRequest} {seen : Nat} (found : state.calls[id]? = some (.checked orig req seen))
    (exclusive : (performRevert env state.server req).2.toBool = true → seen = state.successes) :
    Once auditID (perform id env orig req state) := by
  obtain ⟨unseen, named⟩ := once.checked orig req seen (List.mem_of_getElem? found)
  have audit := performRevert_audit env state.server req
  unfold perform
  generalize performRevert env state.server req = done at audit exclusive
  obtain ⟨server, outcome⟩ := done
  dsimp only at audit exclusive ⊢
  have present : ∃ entry, getAudit auditID server.audit = some entry := audit ▸ once.present
  have names : ∀ other (result : Except String String), Phase.performed orig outcome = .performed other result ∨
      Phase.performed orig outcome = .logged other result → other.id = auditID := by
    rintro other result (same | same)
    · cases same
      exact named
    · cases same
  cases outcome with
  | error err =>
    have marked : Marked auditID ⟨server, [], 0⟩ ↔ Marked auditID state := by
      simp only [Marked, audit]
    simpa [Except.toBool] using once_set once (.performed orig (.error err)) found rfl (by simp) names present marked
  | ok message =>
    have zero : state.successes = 0 := (exclusive rfl).symm.trans unseen
    simp only [Except.toBool, if_true, zero]
    refine ⟨present, ?_, fun _ _ _ => rfl, ?_, Nat.le_refl 1, fun _ => rfl, ?_⟩
    · intro other request earlier member
      rcases List.mem_or_eq_of_mem_set member with before | same
      · exact once.checked other request earlier before
      · cases same
    · intro other result member
      rcases member with member | member
      · rcases List.mem_or_eq_of_mem_set member with before | same
        · exact once.names other result (Or.inl before)
        · exact names other result (Or.inl same.symm)
      · rcases List.mem_or_eq_of_mem_set member with before | same
        · exact once.names other result (Or.inr before)
        · cases same
    · intro _
      exact Or.inr ⟨_, List.mem_set (List.getElem?_eq_some_iff.mp found).1 _, rfl⟩

private theorem once_log {state : State} (once : Once auditID state) {id : Nat} {env : FixEnv} {orig : AuditEntry}
    {outcome : Except String String} (found : state.calls[id]? = some (.performed orig outcome)) :
    Once auditID (log id env orig outcome state) := by
  have named := once.names orig outcome (Or.inl (List.mem_of_getElem? found))
  obtain ⟨entry, stored⟩ := once.present
  have kept : getAudit auditID (logRevert env orig outcome state.server).audit = some entry := writeAudit_kept stored
  apply once_set once (.logged orig outcome) found
  · cases outcome <;> rfl
  · simp
  · rintro other result (same | same)
    · cases same
    · cases same
      exact named
  · exact ⟨entry, kept⟩
  · simp only [Marked, kept, stored]

private theorem once_mark {state : State} (once : Once auditID state) {id : Nat} {env : FixEnv} {orig : AuditEntry}
    {outcome : Except String String} (found : state.calls[id]? = some (.logged orig outcome))
    (exclusive : (Phase.logged orig outcome).owes = true → env.marks = true) :
    Once auditID (mark id env orig outcome state) := by
  have named := once.names orig outcome (Or.inr (List.mem_of_getElem? found))
  cases outcome with
  | error err => exact once_set once (.finished ⟨422, err⟩) found rfl (by simp) (by simp) once.present Iff.rfl
  | ok message =>
    obtain ⟨entry, stored⟩ := once.present
    have one := once.owed _ (List.mem_of_getElem? found) rfl
    have done : getAudit auditID (markReverted env orig.id state.server).audit =
        some { entry with revertedAt := some env.now } := by
      rw [named]
      exact markReverted_found (exclusive rfl) stored
    refine ⟨⟨_, done⟩, ?_, fun _ _ _ => one, ?_, once.bound, fun _ => one, ?_⟩
    · intro other request seen member
      rcases List.mem_or_eq_of_mem_set member with before | same
      · exact once.checked other request seen before
      · cases same
    · intro other result member
      rcases member with member | member
      · rcases List.mem_or_eq_of_mem_set member with before | same
        · exact once.names other result (Or.inl before)
        · cases same
      · rcases List.mem_or_eq_of_mem_set member with before | same
        · exact once.names other result (Or.inr before)
        · cases same
    · exact fun _ => Or.inl ⟨_, done, by simp⟩

theorem once_step {state next : State} {event : Event} (once : Once auditID state) (exclusive : Exclusive auditID state event)
    (taken : step auditID state event = some next) : Once auditID next := by
  cases event with
  | arrive env confirmed =>
    cases taken
    exact once_arrive once exclusive
  | perform id env =>
    simp only [step] at taken
    split at taken
    next orig req seen found => cases taken; exact once_perform once found (exclusive orig req seen found)
    next => cases taken
  | log id env =>
    simp only [step] at taken
    split at taken
    next orig outcome found => cases taken; exact once_log once found
    next => cases taken
  | mark id env =>
    simp only [step] at taken
    split at taken
    next orig outcome found => cases taken; exact once_mark once found (exclusive _ found)
    next => cases taken
  | drift clusters =>
    cases taken
    exact ⟨once.present, once.checked, once.owed, once.names, once.bound, once.marked, once.settled⟩

def Quiet (state : State) : Prop :=
  ∀ call ∈ state.calls, ∃ response, call = .finished response

/-- Reverts that keep out of each other's way act once at most, and when all of
them are answered the entry is marked exactly if one of them has acted. -/
theorem reverted_once (auditID : String) (server : FixState) (entry : AuditEntry)
    (present : getAudit auditID server.audit = some entry) (unmarked : entry.revertedAt = none) (events : List Event)
    (last : State) (exclusive : Meets (step auditID) (Exclusive auditID) ⟨server, [], 0⟩ events)
    (ran : run (step auditID) ⟨server, [], 0⟩ events = some last) :
    last.successes ≤ 1 ∧ (Quiet last → (Marked auditID last ↔ last.successes = 1)) := by
  have once : Once auditID last := by
    refine invariant (Once auditID) ?_ (once_initial present unmarked) exclusive ran
    exact fun state event next held allowed taken => once_step held allowed taken
  refine ⟨once.bound, fun quiet => ⟨once.marked, fun one => ?_⟩⟩
  rcases once.settled one with done | ⟨call, member, owes⟩
  · exact done
  · obtain ⟨response, rfl⟩ := quiet call member
    cases owes

/-- A scaling of `ns/web` from three replicas, recorded as the entry `a`. -/
private def scaled : AuditEntry where
  id := "a"
  actor := "ada"
  action := "scale_deployment"
  clusterID := "c"
  «namespace» := "ns"
  resourceKind := "Deployment"
  resourceName := "web"
  payload := none
  result := .success
  error := ""
  performedAt := 0
  revertAction := some .scaleDeployment
  revertPayload := some 3
  revertedAt := none
  revertOf := ""

private def server : FixState where
  clusters _ := some ⟨fun _ => false, fun _ => false, fun _ => none, fun _ => some ⟨some 5, none⟩⟩
  audit := [scaled]

private def envOf (newID : String) : FixEnv := ⟨true, .operator, "ada", ⟨none, none⟩, true, true, true, newID, 1⟩

/-- A request without confirmation comes before the mark, and is refused. -/
private def inTurn : List Event := [.arrive (envOf "b") true, .perform 0 (envOf "b"), .arrive (envOf "c") false, .log 0 (envOf "b"),
  .mark 0 (envOf "b"), .arrive (envOf "d") true]

theorem reverted_twice_in_turn : ∃ last,
    run (step "a") ⟨server, [], 0⟩ inTurn = some last ∧ last.successes = 1 ∧ last.successes ≤ 1 := by
  refine ⟨_, rfl, rfl, ?_⟩
  apply (reverted_once "a" server scaled rfl rfl inTurn _ ?_ rfl).1
  have refused (state : FixState) : checkRevert (envOf "c") state (some ⟨"a", false⟩) =
      .error (errorResponse 400 "revert must be explicitly confirmed") := rfl
  refine ⟨fun _ _ _ member => (List.not_mem_nil member).elim, ?_, ?_, trivial, fun _ _ _ => rfl, ?_, trivial⟩
  · rintro orig req seen found _
    cases found
    rfl
  · intro checked accepted
    cases (refused _).symm.trans accepted
  · intro checked _ call member
    have answered : call ∈ [Phase.finished ⟨200, "Deployment ns/web scaled to 3 replicas"⟩,
      .finished (errorResponse 400 "revert must be explicitly confirmed")] := member
    rcases List.mem_cons.mp answered with rfl | last
    · rfl
    · rw [List.mem_singleton.mp last]
      rfl

/-- Two requests that both read the entry before either marks it both act. -/
theorem overlapping_reverts_act_twice :
    ¬ ∀ (auditID : String) (server : FixState) (entry : AuditEntry), getAudit auditID server.audit = some entry →
      entry.revertedAt = none → ∀ (events : List Event) (last : State),
        run (step auditID) ⟨server, [], 0⟩ events = some last → last.successes ≤ 1 := by
  intro once
  have bound := once "a" server scaled rfl rfl [.arrive (envOf "b") true, .arrive (envOf "d") true, .perform 0 (envOf "b"),
    .perform 1 (envOf "d")] _ rfl
  exact absurd bound (by decide)

end K8Sense.Doctor.Revert
