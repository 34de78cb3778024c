import K8Sense.Doctor.Scanner

/-! A scan that is cancelled. It looks at its context before each check, so that a
cancellation during a check is seen before the next one. Nothing looks after the
last. -/

namespace K8Sense.Doctor.Scanner

/-- What a scan reads from outside, for each moment at which its context may be
cancelled. A check that is called at one moment is over by the next, and what
comes later does not change how it ended. -/
structure Surroundings where
  checks : String → Option (Option Nat → Nat → Outcome)
  ended : ∀ name check, checks name = some check → ∀ cancelled moment, moment + 1 < cancelled →
    check (some cancelled) moment = check none moment
  delivered : Nat → Bool
  newID : Nat → String
  now : Nat → Nat

def Surroundings.world (surroundings : Surroundings) (cancelledAt : Option Nat) : World where
  checks name := (surroundings.checks name).map fun check => check cancelledAt
  cancelledAt
  delivered := surroundings.delivered
  newID := surroundings.newID
  now := surroundings.now

/-- What becomes of a rule whose turn comes at this moment. -/
def attemptAt (world : World) (rule : Rule) (moment : Nat) : Attempt :=
  match world.checks rule.checkFn with
  | none => .missing
  | some check => .ran (check moment)

section calls
variable (world : World)

/-- The calls so far and the moment of the next one. A rule takes a moment for its
check and one for each finding. -/
def call (category : String) (sofar : Nat × List (Rule × Nat)) (rule : Rule) : Nat × List (Rule × Nat) :=
  if selects category rule then
    (sofar.1 + 1 + (attemptAt world rule sofar.1).raws.length, sofar.2 ++ [(rule, sofar.1)])
  else sofar

def callCategory (rules : List Rule) (sofar : Nat × List (Rule × Nat)) (category : String) : Nat × List (Rule × Nat) :=
  let inner := rules.foldl (call world category) (sofar.1 + 1, sofar.2)
  (inner.1 + 1, inner.2)

/-- The enabled rules in the order in which they are run, each with the moment at
which its turn comes when nothing is cancelled. -/
def calls (rules : List Rule) : List (Rule × Nat) :=
  ((categories rules).foldl (callCategory world rules) (1, [])).2

end calls

section attemptRule
variable (world : World) (progress : Bool)

/-- The turn of a rule that the scan does not stop at. -/
def attemptRule (rule : Rule) (state : ScanState) : ScanState :=
  match attemptAt world rule state.moment with
  | .ran (.returned raws) => raws.foldl (addFinding world progress rule)
      { state with moment := state.moment + 1, attempts := state.attempts ++ [(rule, .ran (.returned raws))] }
  | attempt => skip rule attempt state

variable {world progress} {category : String} {rule : Rule} {rest : List Rule} {state : ScanState}

theorem runRules_other (other : selects category rule = false) :
    runRules world progress category (rule :: rest) state = runRules world progress category rest state := by
  have passed : (!rule.enabled || rule.category ≠ category) = true := by
    rw [selects, Bool.and_eq_false_iff] at other
    simpa [or_comm] using other
  rw [runRules, if_pos passed]

theorem runRules_done (selected : selects category rule = true) (done : world.done state.moment = true) :
    runRules world progress category (rule :: rest) state = { state with
      moment := state.moment + 1
      result := { state.result with status := .scanPartial, errorMessage := "scan timed out or was cancelled" } } := by
  have runs : ¬(!rule.enabled || rule.category ≠ category) = true := by
    simpa [selects] using selected
  rw [runRules, if_neg runs, if_pos done]

theorem runRules_attempt (selected : selects category rule = true) (running : world.done state.moment = false) :
    runRules world progress category (rule :: rest) state =
      runRules world progress category rest (attemptRule world progress rule state) := by
  have runs : ¬(!rule.enabled || rule.category ≠ category) = true := by
    simpa [selects] using selected
  rw [runRules, if_neg runs, if_neg (by rw [running]; decide)]
  unfold attemptRule attemptAt
  cases world.checks rule.checkFn with
  | none => rfl
  | some check =>
    dsimp only
    cases check state.moment <;> rfl

theorem emit_attempts (event : ScanProgressEvent) : (emit world progress event state).attempts = state.attempts := by
  unfold emit
  split <;> rfl

theorem emit_result (event : ScanProgressEvent) : (emit world progress event state).result = state.result := by
  unfold emit
  split <;> rfl

theorem emit_moment (event : ScanProgressEvent) : (emit world progress event state).moment = state.moment + 1 := by
  unfold emit
  split <;> rfl

theorem addFinding_attempts (raw : RawFinding) : (addFinding world progress rule state raw).attempts = state.attempts := by
  rw [addFinding, emit_attempts]

theorem addFinding_status (raw : RawFinding) :
    (addFinding world progress rule state raw).result.status = state.result.status := by
  rw [addFinding, emit_result]

theorem addFinding_moment (raw : RawFinding) : (addFinding world progress rule state raw).moment = state.moment + 1 := by
  rw [addFinding, emit_moment]

variable (world progress)

theorem addFindings_facts (raws : List RawFinding) (state : ScanState) :
    let after := raws.foldl (addFinding world progress rule) state
    after.attempts = state.attempts ∧ after.result.status = state.result.status ∧
      after.moment = state.moment + raws.length := by
  induction raws generalizing state with
  | nil => exact ⟨rfl, rfl, rfl⟩
  | cons raw rest ih =>
    obtain ⟨attempts, status, moment⟩ := ih (addFinding world progress rule state raw)
    refine ⟨attempts.trans (addFinding_attempts raw), status.trans (addFinding_status raw), ?_⟩
    have step : (addFinding world progress rule state raw).moment = state.moment + 1 := addFinding_moment raw
    rw [List.foldl_cons, moment, step, List.length_cons]
    omega

theorem attemptRule_facts (rule : Rule) (state : ScanState) :
    let after := attemptRule world progress rule state
    after.attempts = state.attempts ++ [(rule, attemptAt world rule state.moment)] ∧
      after.result.status = state.result.status ∧
      after.moment = state.moment + 1 + (attemptAt world rule state.moment).raws.length := by
  unfold attemptRule
  split
  next raws found =>
    rw [found]
    exact addFindings_facts world progress raws _
  next attempt other =>
    refine ⟨rfl, rfl, ?_⟩
    have silent : (attemptAt world rule state.moment).raws = [] := by
      cases found : attemptAt world rule state.moment with
      | missing => rfl
      | ran outcome =>
        cases outcome with
        | returned raws => exact absurd found (other raws)
        | failed err => rfl
        | panicked value => rfl
    rw [silent]
    rfl

end attemptRule

/-- Two scans that differ in their events at most. -/
structure Alike (first second : ScanState) : Prop where
  moment : first.moment = second.moment
  result : first.result = second.result
  attempts : first.attempts = second.attempts

section Alike
variable (world other : World) (progress : Bool) {first second : ScanState}

theorem alike_emit (event another : ScanProgressEvent) (alike : Alike first second) :
    Alike (emit world progress event first) (emit other progress another second) := by
  constructor
  · rw [emit_moment, emit_moment, alike.moment]
  · rw [emit_result, emit_result, alike.result]
  · rw [emit_attempts, emit_attempts, alike.attempts]

theorem alike_attempt (ids : world.newID = other.newID) (clock : world.now = other.now) {rule : Rule}
    (same : attemptAt world rule first.moment = attemptAt other rule second.moment) (alike : Alike first second) :
    Alike (attemptRule world progress rule first) (attemptRule other progress rule second) := by
  have added (raws : List RawFinding) : ∀ first second : ScanState, Alike first second →
      Alike (raws.foldl (addFinding world progress rule) first) (raws.foldl (addFinding other progress rule) second) := by
    induction raws with
    | nil => exact fun _ _ alike => alike
    | cons raw rest ih =>
      intro first second alike
      apply ih
      unfold addFinding
      rw [ids, clock, alike.moment, alike.result]
      exact alike_emit world other progress _ _ ⟨rfl, rfl, alike.attempts⟩
  unfold attemptRule
  rw [same]
  cases attemptAt other rule second.moment with
  | missing => exact ⟨by simp [skip, alike.moment], by simp [skip, alike.result], by simp [skip, alike.attempts]⟩
  | ran outcome =>
    cases outcome with
    | returned raws =>
      apply added
      exact ⟨by simp [alike.moment], alike.result, by simp [alike.attempts]⟩
    | failed err => exact ⟨by simp [skip, alike.moment], by simp [skip, alike.result], by simp [skip, alike.attempts]⟩
    | panicked value => exact ⟨by simp [skip, alike.moment], by simp [skip, alike.result], by simp [skip, alike.attempts]⟩

end Alike

/-- What the calls say of a scan that is not cancelled. -/
structure Counted (world : World) (sofar : Nat × List (Rule × Nat)) (state : ScanState) : Prop where
  moment : state.moment = sofar.1
  attempts : state.attempts = sofar.2.map fun call => (call.1, attemptAt world call.1 call.2)
  running : state.result.status = .scanRunning

section Counted
variable {world : World} (progress : Bool) {sofar : Nat × List (Rule × Nat)} {state : ScanState}

theorem counted_emit (event : ScanProgressEvent) (counted : Counted world sofar state) :
    Counted world (sofar.1 + 1, sofar.2) (emit world progress event state) := by
  constructor
  · rw [emit_moment, counted.moment]
  · rw [emit_attempts, counted.attempts]
  · rw [emit_result, counted.running]

theorem counted_attempt {category : String} {rule : Rule} (selected : selects category rule = true)
    (counted : Counted world sofar state) :
    Counted world (call world category sofar rule) (attemptRule world progress rule state) := by
  obtain ⟨attempts, status, moment⟩ := attemptRule_facts world progress rule state
  rw [call, if_pos selected]
  constructor
  · rw [moment, counted.moment]
  · rw [attempts, counted.attempts, counted.moment, List.map_append]
    rfl
  · rw [status, counted.running]

theorem counted_runRules (uncancelled : world.cancelledAt = none) (category : String) (rules : List Rule)
    (counted : Counted world sofar state) :
    Counted world (rules.foldl (call world category) sofar) (runRules world progress category rules state) := by
  induction rules generalizing sofar state with
  | nil => exact counted
  | cons rule rest ih =>
    cases selected : selects category rule with
    | false =>
      have passed : call world category sofar rule = sofar := by rw [call, if_neg (by rw [selected]; decide)]
      rw [List.foldl_cons, passed, runRules_other selected]
      exact ih counted
    | true =>
      rw [List.foldl_cons, runRules_attempt selected (not_done uncancelled _)]
      exact ih (counted_attempt progress selected counted)

end Counted

section Tracks
variable (surroundings : Surroundings) (cancelled : Nat)

/-- Every call so far ends as it does without the cancellation. -/
def Unaffected (calls : List (Rule × Nat)) : Prop :=
  ∀ call ∈ calls, attemptAt (surroundings.world (some cancelled)) call.1 call.2 =
    attemptAt (surroundings.world none) call.1 call.2

/-- The turn of a rule came after the cancellation. -/
def Past (calls : List (Rule × Nat)) (moment : Nat) : Prop :=
  cancelled ≤ moment ∧ ∃ before rule turn, calls = before ++ [(rule, turn)] ∧ cancelled ≤ turn

/-- A scan that is cancelled beside the same scan without the cancellation: no
difference yet, or the last call made the difference, or the scan was stopped. -/
inductive Tracks (calls : List (Rule × Nat)) (scan whole : ScanState) : Prop where
  | alike (same : Alike scan whole) (unaffected : Unaffected surroundings cancelled calls) :
      Tracks calls scan whole
  | late (running : scan.result.status = .scanRunning) (due : cancelled ≤ scan.moment) (alsoDue : cancelled ≤ whole.moment)
      (cut : ∃ before rule moment, calls = before ++ [(rule, moment)] ∧ cancelled = moment + 1 ∧
        attemptAt (surroundings.world (some cancelled)) rule moment ≠ attemptAt (surroundings.world none) rule moment ∧
        scan.attempts = before.map (fun call => (call.1, attemptAt (surroundings.world none) call.1 call.2)) ++
          [(rule, attemptAt (surroundings.world (some cancelled)) rule moment)]) : Tracks calls scan whole
  | stopped (stopped : scan.result.status = .scanPartial) (due : cancelled ≤ scan.moment)
      (past : Past cancelled calls whole.moment) : Tracks calls scan whole

variable {surroundings cancelled} (progress : Bool) {sofar : Nat × List (Rule × Nat)} {scan whole : ScanState}

theorem done_of_due {moment : Nat} (due : cancelled ≤ moment) : (surroundings.world (some cancelled)).done moment = true :=
  decide_eq_true due

theorem attempt_ended (rule : Rule) {turn : Nat} (ended : turn + 1 < cancelled) :
    attemptAt (surroundings.world (some cancelled)) rule turn = attemptAt (surroundings.world none) rule turn := by
  simp only [attemptAt, Surroundings.world]
  cases registered : surroundings.checks rule.checkFn with
  | none => rfl
  | some check => simp only [Option.map_some, surroundings.ended _ _ registered _ _ ended]

theorem tracks_emit (event : ScanProgressEvent) (tracks : Tracks surroundings cancelled sofar.2 scan whole) :
    Tracks surroundings cancelled sofar.2 (emit (surroundings.world (some cancelled)) progress event scan)
      (emit (surroundings.world none) progress event whole) := by
  cases tracks with
  | alike same unaffected => exact .alike (alike_emit _ _ _ _ _ same) unaffected
  | late running due alsoDue cut =>
    refine .late ?_ ?_ ?_ ?_
    · rw [emit_result, running]
    · rw [emit_moment]
      exact Nat.le_succ_of_le due
    · rw [emit_moment]
      exact Nat.le_succ_of_le alsoDue
    · rw [emit_attempts]
      exact cut
  | stopped stopped due past =>
    refine .stopped ?_ ?_ ⟨?_, past.2⟩
    · rw [emit_result, stopped]
    · rw [emit_moment]
      exact Nat.le_succ_of_le due
    · rw [emit_moment]
      exact Nat.le_succ_of_le past.1

theorem past_runRules (category : String) (rules : List Rule)
    (counted : Counted (surroundings.world none) sofar whole) (past : Past cancelled sofar.2 whole.moment) :
    Past cancelled (rules.foldl (call (surroundings.world none) category) sofar).2
      (runRules (surroundings.world none) progress category rules whole).moment := by
  induction rules generalizing sofar whole with
  | nil => exact past
  | cons rule rest ih =>
    cases selected : selects category rule with
    | false =>
      have passed : call (surroundings.world none) category sofar rule = sofar := by
        rw [call, if_neg (by rw [selected]; decide)]
      rw [List.foldl_cons, passed, runRules_other selected]
      exact ih counted past
    | true =>
      rw [List.foldl_cons, runRules_attempt selected (not_done rfl _)]
      apply ih (counted_attempt progress selected counted)
      have moment := (attemptRule_facts (surroundings.world none) progress rule whole).2.2
      refine ⟨?_, sofar.2, rule, sofar.1, ?_, ?_⟩
      · have due := past.1
        omega
      · rw [call, if_pos selected]
      · rw [← counted.moment]
        exact past.1

theorem tracks_runRules (category : String) (rules : List Rule)
    (counted : Counted (surroundings.world none) sofar whole) (tracks : Tracks surroundings cancelled sofar.2 scan whole) :
    Tracks surroundings cancelled (rules.foldl (call (surroundings.world none) category) sofar).2
      (runRules (surroundings.world (some cancelled)) progress category rules scan)
      (runRules (surroundings.world none) progress category rules whole) := by
  induction rules generalizing sofar scan whole with
  | nil => exact tracks
  | cons rule rest ih =>
    cases selected : selects category rule with
    | false =>
      have passed : call (surroundings.world none) category sofar rule = sofar := by
        rw [call, if_neg (by rw [selected]; decide)]
      rw [List.foldl_cons, passed, runRules_other selected, runRules_other selected]
      exact ih counted tracks
    | true =>
      have next := counted_attempt progress selected counted
      have moment := (attemptRule_facts (surroundings.world none) progress rule whole).2.2
      have turn : (call (surroundings.world none) category sofar rule).2 = sofar.2 ++ [(rule, whole.moment)] := by
        rw [call, if_pos selected, counted.moment]
      have goes : (surroundings.world none).done whole.moment = false := rfl
      rw [List.foldl_cons, runRules_attempt selected goes]
      -- a scan whose context is done stops here, whatever the other one goes on to do
      have stops (due : cancelled ≤ scan.moment) (alsoDue : cancelled ≤ whole.moment) :
          Tracks surroundings cancelled
            (rest.foldl (call (surroundings.world none) category) (call (surroundings.world none) category sofar rule)).2
            (runRules (surroundings.world (some cancelled)) progress category (rule :: rest) scan)
            (runRules (surroundings.world none) progress category rest (attemptRule (surroundings.world none) progress rule whole)) := by
        rw [runRules_done selected (done_of_due due)]
        refine .stopped rfl (Nat.le_succ_of_le due) (past_runRules progress category rest next ⟨by omega, ?_⟩)
        exact ⟨sofar.2, rule, whole.moment, turn, alsoDue⟩
      cases tracks with
      | alike same unaffected =>
        by_cases due : cancelled ≤ scan.moment
        · exact stops due (same.moment ▸ due)
        · have running : (surroundings.world (some cancelled)).done scan.moment = false := decide_eq_false due
          rw [runRules_attempt selected running]
          apply ih next
          rw [turn]
          by_cases reached : attemptAt (surroundings.world (some cancelled)) rule whole.moment =
              attemptAt (surroundings.world none) rule whole.moment
          · have ends : attemptAt (surroundings.world (some cancelled)) rule scan.moment =
                attemptAt (surroundings.world none) rule whole.moment := by
              rw [same.moment, reached]
            refine .alike (alike_attempt (surroundings.world (some cancelled)) (surroundings.world none) progress rfl rfl ends same) ?_
            intro call member
            rcases List.mem_append.mp member with old | new
            · exact unaffected call old
            · obtain rfl := List.mem_singleton.mp new
              exact reached
          · obtain ⟨attempts, status, after⟩ :=
              attemptRule_facts (surroundings.world (some cancelled)) progress rule scan
            have within : cancelled = whole.moment + 1 := by
              by_contra other
              have early := same.moment
              exact reached (attempt_ended rule (by omega))
            refine .late ?_ ?_ ?_ ⟨sofar.2, rule, whole.moment, rfl, within, reached, ?_⟩
            · rw [status, same.result, counted.running]
            · have early := same.moment
              omega
            · omega
            · rw [attempts, same.attempts, same.moment, counted.attempts]
      | late running due alsoDue cut => exact stops due alsoDue
      | stopped stopped due past => exact stops due past.1

theorem tracks_category (rules : List Rule) (category : String) (counted : Counted (surroundings.world none) sofar whole)
    (tracks : Tracks surroundings cancelled sofar.2 scan whole) :
    Counted (surroundings.world none) (callCategory (surroundings.world none) rules sofar category)
        (runCategory (surroundings.world none) progress rules whole category) ∧
      Tracks surroundings cancelled (callCategory (surroundings.world none) rules sofar category).2
        (runCategory (surroundings.world (some cancelled)) progress rules scan category)
        (runCategory (surroundings.world none) progress rules whole category) := by
  have started := counted_emit progress ⟨.categoryStarted, category, none, ""⟩ counted
  have both := tracks_emit progress ⟨.categoryStarted, category, none, ""⟩ tracks
  have ran := counted_runRules progress rfl category rules started
  exact ⟨counted_emit progress _ ran, tracks_emit progress _ (tracks_runRules progress category rules started both)⟩

theorem tracks_categories (rules : List Rule) (order : List String) (counted : Counted (surroundings.world none) sofar whole)
    (tracks : Tracks surroundings cancelled sofar.2 scan whole) :
    Counted (surroundings.world none) (order.foldl (callCategory (surroundings.world none) rules) sofar)
        (order.foldl (runCategory (surroundings.world none) progress rules) whole) ∧
      Tracks surroundings cancelled (order.foldl (callCategory (surroundings.world none) rules) sofar).2
        (order.foldl (runCategory (surroundings.world (some cancelled)) progress rules) scan)
        (order.foldl (runCategory (surroundings.world none) progress rules) whole) := by
  induction order generalizing sofar scan whole with
  | nil => exact ⟨counted, tracks⟩
  | cons category rest ih =>
    obtain ⟨counted, tracks⟩ := tracks_category progress rules category counted tracks
    exact ih counted tracks

end Tracks

section run
variable (surroundings : Surroundings) (progress : Bool) (rules : List Rule) (cluster scanID : String) (cancelled : Nat)

theorem conclude_attempts (world : World) (state : ScanState) : (conclude world progress state).attempts = state.attempts := by
  unfold conclude
  extract_lets source completed
  split <;> rw [emit_attempts]

theorem conclude_completed (world : World) (state : ScanState) :
    (conclude world progress state).result.status = .scanCompleted ↔
      state.result.status = .scanRunning ∨ state.result.status = .scanCompleted := by
  unfold conclude
  extract_lets source completed
  have status : completed.result.status =
      if state.result.status = .scanRunning then .scanCompleted else state.result.status := rfl
  split
  next ended =>
    rw [emit_result, ended]
    simp only [true_iff]
    by_cases running : state.result.status = .scanRunning
    · exact Or.inl running
    · rw [status, if_neg running] at ended
      exact Or.inr ended
  next ended =>
    rw [emit_result]
    simp only [ended, false_iff, not_or]
    constructor
    · intro running
      exact ended (by rw [status, if_pos running])
    · intro finished
      exact ended (by rw [status, finished]; decide)

theorem tracks_run :
    Counted (surroundings.world none) ((categories rules).foldl (callCategory (surroundings.world none) rules) (1, []))
        ((categories rules).foldl (runCategory (surroundings.world none) progress rules)
          (start (surroundings.world none) cluster scanID)) ∧
      Tracks surroundings cancelled (calls (surroundings.world none) rules)
        ((categories rules).foldl (runCategory (surroundings.world (some cancelled)) progress rules)
          (start (surroundings.world (some cancelled)) cluster scanID))
        ((categories rules).foldl (runCategory (surroundings.world none) progress rules)
          (start (surroundings.world none) cluster scanID)) := by
  have started : Counted (surroundings.world none) (1, []) (start (surroundings.world none) cluster scanID) := ⟨rfl, rfl, rfl⟩
  refine tracks_categories progress rules (categories rules) started (.alike ⟨rfl, rfl, rfl⟩ ?_)
  simp [Unaffected]

/-- What a scan that reports itself completed has tried is what it tries when it
is not cancelled: no rule was skipped, and no check ended otherwise. -/
def RanToEnd : Prop :=
  (run (surroundings.world (some cancelled)) progress rules cluster scanID).result.status = .scanCompleted →
    (run (surroundings.world (some cancelled)) progress rules cluster scanID).attempts =
      (run (surroundings.world none) progress rules cluster scanID).attempts

/-- The scan ran to its end exactly when the cancellation, should it come during
the check of the last enabled rule, does not change how that check ends. -/
theorem ranToEnd_iff : RanToEnd surroundings progress rules cluster scanID cancelled ↔
    ∀ rule moment, (calls (surroundings.world none) rules).getLast? = some (rule, moment) → cancelled = moment + 1 →
      attemptAt (surroundings.world (some cancelled)) rule moment = attemptAt (surroundings.world none) rule moment := by
  obtain ⟨counted, tracks⟩ := tracks_run surroundings progress rules cluster scanID cancelled
  have tried : _ = (calls (surroundings.world none) rules).map _ := counted.attempts
  unfold RanToEnd run
  rw [conclude_completed, conclude_attempts, conclude_attempts]
  cases tracks with
  | alike same unaffected =>
    constructor
    · intro _ rule moment last _
      exact unaffected (rule, moment) (List.mem_of_getLast? last)
    · intro _ _
      exact same.attempts
  | late running due alsoDue cut =>
    obtain ⟨before, rule, moment, order, within, reached, attempts⟩ := cut
    have last : (calls (surroundings.world none) rules).getLast? = some (rule, moment) := by
      rw [order, List.getLast?_concat]
    constructor
    · intro whole
      have same := whole (Or.inl running)
      rw [attempts, tried, order, List.map_append, List.append_cancel_left_eq] at same
      simp only [List.map_cons, List.map_nil, List.cons.injEq, Prod.mk.injEq, true_and, and_true] at same
      exact absurd same reached
    · intro settled
      exact absurd (settled rule moment last within) reached
  | stopped stopped due past =>
    obtain ⟨_, before, rule, turn, order, late⟩ := past
    constructor
    · intro _ other moment last within
      rw [order, List.getLast?_concat, Option.some.injEq, Prod.mk.injEq] at last
      omega
    · intro _ finished
      rw [stopped] at finished
      rcases finished with impossible | impossible <;> cases impossible

end run

private def soleRule : Rule := ⟨"r", "", severityWarning, "a", "ok", "", "", ⟨"", ""⟩, [], true⟩

/-- A check that fails when it is cancelled while it runs. -/
private def interrupted : Surroundings where
  checks name := if name = "ok" then some fun cancelled moment =>
    if cancelled = some (moment + 1) then .failed "context canceled" else .returned [] else none
  ended := by
    intro name check registered cancelled moment ended
    split at registered
    next =>
      obtain rfl := Option.some.inj registered
      have other : cancelled ≠ moment + 1 := by omega
      simp [other]
    next => cases registered
  delivered _ := false
  newID _ := ""
  now _ := 0

/-- Cancelled during the check of its only rule, the scan still ends as completed. -/
theorem last_check_cut :
    ¬ ∀ (surroundings : Surroundings) (progress : Bool) (rules : List Rule) (cluster scanID : String) (cancelled : Nat),
      RanToEnd surroundings progress rules cluster scanID cancelled := by
  intro sound
  have same := sound interrupted false [soleRule] "c" "s" 3
  exact absurd (same (by decide)) (by decide)

end K8Sense.Doctor.Scanner
