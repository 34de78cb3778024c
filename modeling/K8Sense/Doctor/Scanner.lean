import K8Sense.Library.Grouping
import K8Sense.Doctor.Finding

/-! The scanner: every enabled rule, grouped by category, with its findings, the
count of skipped checks and the stream of progress events. -/

namespace K8Sense.Doctor.Scanner
open Grouping

inductive EventType where
  | categoryStarted
  | categoryCompleted
  | finding
  | scanCompleted
  | scanFailed
  deriving DecidableEq

structure ScanProgressEvent where
  type : EventType
  category : String
  finding : Option Finding
  error : String
  deriving DecidableEq

/-- How the call of a check function ends. -/
inductive Outcome where
  | returned (raws : List RawFinding)
  | failed (err : String)
  | panicked (value : String)
  deriving DecidableEq

/-- What became of an enabled rule. -/
inductive Attempt where
  | missing
  | ran (outcome : Outcome)
  deriving DecidableEq

/-- Everything a scan reads from outside, at numbered moments: the registered
checks, the cancellation of its context, whether an event is delivered when the
context is done as well, the identifiers and the clock. -/
structure World where
  checks : String → Option (Nat → Outcome)
  cancelledAt : Option Nat
  delivered : Nat → Bool
  newID : Nat → String
  now : Nat → Nat

def World.done (world : World) (moment : Nat) : Bool :=
  match world.cancelledAt with
  | none => false
  | some cancelled => cancelled ≤ moment

/-- The scan so far. `attempts` records what became of each rule in turn. -/
structure ScanState where
  moment : Nat
  result : ScanResult
  events : List ScanProgressEvent
  attempts : List (Rule × Attempt)

def categories (rules : List Rule) : List String := firstSeen Rule.category rules

def runCheckSafely : Outcome → Except String (List RawFinding)
  | .returned raws => .ok raws
  | .failed err => .error err
  | .panicked value => .error ("check panicked: " ++ value)

section
variable (world : World) (progress : Bool)

/-- Nothing is sent without a progress channel. -/
def emit (event : ScanProgressEvent) (state : ScanState) : ScanState :=
  if progress && (!world.done state.moment || world.delivered state.moment) then
    { state with moment := state.moment + 1, events := state.events ++ [event] }
  else { state with moment := state.moment + 1 }

def newFinding (scanID : String) (rule : Rule) (raw : RawFinding) (id : String) (detectedAt : Nat) : Finding where
  id
  scanID
  ruleID := rule.id
  ruleName := rule.name
  severity := rule.severity
  category := rule.category
  «namespace» := raw.namespace
  resourceKind := raw.resourceKind
  resourceName := raw.resourceName
  description := rule.description
  remediation := rule.remediation
  references := rule.references
  rawObject := raw.rawObject
  detectedAt
  guidedFixAvailable := rule.guidedFix.action ≠ ""
  guidedFixAction := rule.guidedFix.action
  guidedFixWarning := rule.guidedFix.warning

def addFinding (rule : Rule) (state : ScanState) (raw : RawFinding) : ScanState :=
  let finding := newFinding state.result.id rule raw (world.newID state.moment) (world.now state.moment)
  emit world progress ⟨.finding, "", some finding, ""⟩
    { state with result := { state.result with findings := state.result.findings ++ [finding] } }

def skip (rule : Rule) (attempt : Attempt) (state : ScanState) : ScanState :=
  { state with
    moment := state.moment + 1
    result := { state.result with skippedChecks := state.result.skippedChecks + 1 }
    attempts := state.attempts ++ [(rule, attempt)] }

/-- The inner loop. A done context ends it, and the scan is then partial. -/
def runRules (category : String) : List Rule → ScanState → ScanState
  | [], state => state
  | rule :: rest, state =>
    if !rule.enabled || rule.category ≠ category then runRules category rest state
    else if world.done state.moment then
      { state with
        moment := state.moment + 1
        result := { state.result with status := .scanPartial, errorMessage := "scan timed out or was cancelled" } }
    else match world.checks rule.checkFn with
      | none => runRules category rest (skip rule .missing state)
      | some check =>
        let outcome := check state.moment
        match runCheckSafely outcome with
        | .error _ => runRules category rest (skip rule (.ran outcome) state)
        | .ok raws =>
          runRules category rest (raws.foldl (addFinding world progress rule)
            { state with moment := state.moment + 1, attempts := state.attempts ++ [(rule, .ran outcome)] })

def runCategory (rules : List Rule) (state : ScanState) (category : String) : ScanState :=
  let started := emit world progress ⟨.categoryStarted, category, none, ""⟩ state
  emit world progress ⟨.categoryCompleted, category, none, ""⟩ (runRules world progress category rules started)

def conclude (state : ScanState) : ScanState :=
  let completed := { state with result := { state.result with
    completedAt := world.now state.moment
    status := if state.result.status = .scanRunning then .scanCompleted else state.result.status } }
  if completed.result.status = .scanCompleted then emit world progress ⟨.scanCompleted, "", none, ""⟩ completed
  else emit world progress ⟨.scanFailed, "", none, completed.result.errorMessage⟩ completed

def start (cluster scanID : String) : ScanState :=
  ⟨1, ⟨scanID, cluster, world.now 0, 0, .scanRunning, [], 0, ""⟩, [], []⟩

/-- `Scanner.Run`. -/
def run (rules : List Rule) (cluster scanID : String) : ScanState :=
  conclude world progress ((categories rules).foldl (runCategory world progress rules) (start world cluster scanID))

end

def selects (category : String) (rule : Rule) : Bool := rule.enabled && rule.category = category

/-- The findings of a check that succeeded. -/
def Attempt.raws : Attempt → List RawFinding
  | .ran (.returned raws) => raws
  | _ => []

/-- The check was missing, failed or panicked. -/
def Attempt.skipped : Attempt → Bool
  | .ran (.returned _) => false
  | _ => true

/-- The attempt is the one call of the registered check, or there is none. -/
def Attempted (world : World) (rule : Rule) (attempt : Attempt) : Prop :=
  world.checks rule.checkFn = none ∧ attempt = .missing ∨
    ∃ check moment, world.checks rule.checkFn = some check ∧ attempt = .ran (check moment)

/-- A finding without its random identifier and its time. -/
def content (finding : Finding) : Finding := { finding with id := "", detectedAt := 0 }

/-- What an attempt contributes to the result. -/
def reported (scanID : String) (attempt : Rule × Attempt) : List Finding :=
  attempt.2.raws.map fun raw => newFinding scanID attempt.1 raw "" 0

def found (finding : Finding) : ScanProgressEvent := ⟨.finding, "", some finding, ""⟩

/-- The events of one category: its findings between two brackets. -/
def bracket (findings : List Finding) (category : String) : List ScanProgressEvent :=
  [⟨.categoryStarted, category, none, ""⟩] ++ (findings.filter (·.category = category)).map found ++
    [⟨.categoryCompleted, category, none, ""⟩]

/-- What part of an uncancelled scan adds to it. -/
structure Adds (world : World) (progress : Bool) (before after : ScanState) (tried : List (Rule × Attempt))
    (gained : List Finding) (sent : List ScanProgressEvent) : Prop where
  attempts : after.attempts = before.attempts ++ tried
  attempted : ∀ attempt ∈ tried, Attempted world attempt.1 attempt.2
  findings : after.result.findings = before.result.findings ++ gained
  contents : gained.map content = tried.flatMap (reported before.result.id)
  skipped : after.result.skippedChecks = before.result.skippedChecks + tried.countP fun attempt => attempt.2.skipped
  events : after.events = before.events ++ if progress then sent else []
  stream : sent.filterMap (·.finding) = gained
  id : after.result.id = before.result.id
  status : after.result.status = before.result.status

variable {world : World} {progress : Bool}

theorem Adds.refl (state : ScanState) : Adds world progress state state [] [] [] := by
  constructor <;> simp

theorem Adds.trans {first second third : ScanState} {tried others : List (Rule × Attempt)}
    {gained further : List Finding} {sent later : List ScanProgressEvent}
    (start : Adds world progress first second tried gained sent)
    (next : Adds world progress second third others further later) :
    Adds world progress first third (tried ++ others) (gained ++ further) (sent ++ later) := by
  constructor
  · rw [next.attempts, start.attempts, List.append_assoc]
  · intro attempt member
    rcases List.mem_append.mp member with old | new
    · exact start.attempted attempt old
    · exact next.attempted attempt new
  · rw [next.findings, start.findings, List.append_assoc]
  · rw [List.map_append, start.contents, next.contents, start.id, List.flatMap_append]
  · rw [next.skipped, start.skipped, List.countP_append, Nat.add_assoc]
  · rw [next.events, start.events, List.append_assoc]
    cases progress <;> simp
  · rw [List.filterMap_append, start.stream, next.stream]
  · rw [next.id, start.id]
  · rw [next.status, start.status]

theorem skip_adds {rule : Rule} {attempt : Attempt} (attempted : Attempted world rule attempt)
    (skipped : attempt.skipped = true) (state : ScanState) :
    Adds world progress state (skip rule attempt state) [(rule, attempt)] [] [] := by
  have silent : attempt.raws = [] := by
    cases attempt with
    | missing => rfl
    | ran outcome => cases outcome <;> simp_all [Attempt.raws, Attempt.skipped]
  constructor <;> simp [skip, attempted, skipped, reported, silent]

section
variable (uncancelled : world.cancelledAt = none) (progress)
include uncancelled

theorem not_done (moment : Nat) : world.done moment = false := by
  simp [World.done, uncancelled]

theorem emit_adds (event : ScanProgressEvent) (plain : event.finding = none) (state : ScanState) :
    Adds world progress state (emit world progress event state) [] [] [event] := by
  cases progress <;> constructor <;> simp [emit, not_done uncancelled, plain]

theorem addFindings_eq (rule : Rule) (raws : List RawFinding) (state : ScanState) :
    ∃ gained, gained.map content = raws.map (fun raw => newFinding state.result.id rule raw "" 0) ∧
      (∀ finding ∈ gained, finding.category = rule.category) ∧
      raws.foldl (addFinding world progress rule) state =
        { state with
          moment := state.moment + raws.length
          result := { state.result with findings := state.result.findings ++ gained }
          events := state.events ++ if progress then gained.map found else [] } := by
  induction raws generalizing state with
  | nil => exact ⟨[], rfl, by simp, by cases progress <;> simp⟩
  | cons raw rest ih =>
    let finding := newFinding state.result.id rule raw (world.newID state.moment) (world.now state.moment)
    obtain ⟨gained, contents, category, added⟩ := ih (addFinding world progress rule state raw)
    have id : (addFinding world progress rule state raw).result.id = state.result.id := by
      cases progress <;> simp [addFinding, emit, not_done uncancelled]
    rw [id] at contents
    refine ⟨finding :: gained, ?_, ?_, ?_⟩
    · rw [List.map_cons, List.map_cons, contents]
      rfl
    · intro other member
      rcases List.mem_cons.mp member with rfl | member
      · rfl
      · exact category other member
    · rw [List.foldl_cons, added]
      cases progress <;>
        simp [addFinding, emit, not_done uncancelled, finding, found, Nat.add_assoc, Nat.add_comm 1]

theorem check_adds {rule : Rule} {check : Nat → Outcome} (registered : world.checks rule.checkFn = some check)
    {state : ScanState} {raws : List RawFinding} (returned : check state.moment = .returned raws) :
    ∃ gained, (∀ finding ∈ gained, finding.category = rule.category) ∧
      Adds world progress state (raws.foldl (addFinding world progress rule)
        { state with moment := state.moment + 1, attempts := state.attempts ++ [(rule, .ran (.returned raws))] })
        [(rule, .ran (.returned raws))] gained (gained.map found) := by
  obtain ⟨gained, contents, category, added⟩ := addFindings_eq progress uncancelled rule raws
    { state with moment := state.moment + 1, attempts := state.attempts ++ [(rule, .ran (.returned raws))] }
  refine ⟨gained, category, ?_⟩
  rw [added]
  have attempted : Attempted world rule (.ran (.returned raws)) :=
    Or.inr ⟨check, state.moment, registered, by rw [returned]⟩
  have stream : (gained.map found).filterMap (·.finding) = gained := by
    simp [List.filterMap_map, Function.comp_def, found]
  constructor <;> simp [attempted, contents, reported, Attempt.raws, Attempt.skipped, stream]

theorem runRules_adds (category : String) (rules : List Rule) (state : ScanState) :
    ∃ tried gained, tried.map Prod.fst = rules.filter (selects category) ∧
      (∀ finding ∈ gained, finding.category = category) ∧
      Adds world progress state (runRules world progress category rules state) tried gained (gained.map found) := by
  induction rules generalizing state with
  | nil => exact ⟨[], [], rfl, by simp, Adds.refl state⟩
  | cons rule rest ih =>
    by_cases selected : selects category rule = true
    · have enabled : rule.enabled = true ∧ rule.category = category := by
        simpa [selects] using selected
      have runs : (!rule.enabled || rule.category ≠ category) = false := by
        simpa using enabled
      have skips : ∀ attempt, Attempted world rule attempt → attempt.skipped = true →
          ∃ tried gained, tried.map Prod.fst = (rule :: rest).filter (selects category) ∧
            (∀ finding ∈ gained, finding.category = category) ∧
            Adds world progress state (runRules world progress category rest (skip rule attempt state)) tried gained
              (gained.map found) := by
        intro attempt attempted skipped
        obtain ⟨tried, gained, order, categories, adds⟩ := ih (skip rule attempt state)
        exact ⟨(rule, attempt) :: tried, gained, by rw [List.map_cons, order, List.filter_cons_of_pos selected], categories,
          (skip_adds attempted skipped state).trans adds⟩
      simp only [runRules, runs, not_done uncancelled, Bool.false_eq_true, if_false]
      cases registered : world.checks rule.checkFn with
      | none => exact skips .missing (Or.inl ⟨registered, rfl⟩) rfl
      | some check =>
        have attempted : Attempted world rule (.ran (check state.moment)) :=
          Or.inr ⟨check, state.moment, registered, rfl⟩
        cases outcome : check state.moment with
        | failed err =>
          simp only [outcome, runCheckSafely]
          exact skips (.ran (.failed err)) (outcome ▸ attempted) rfl
        | panicked value =>
          simp only [outcome, runCheckSafely]
          exact skips (.ran (.panicked value)) (outcome ▸ attempted) rfl
        | returned raws =>
          obtain ⟨first, own, adds⟩ := check_adds progress uncancelled registered outcome
          obtain ⟨tried, gained, order, categories, later⟩ := ih (raws.foldl (addFinding world progress rule)
            { state with moment := state.moment + 1, attempts := state.attempts ++ [(rule, .ran (.returned raws))] })
          have total := adds.trans later
          rw [← List.map_append] at total
          simp only [outcome, runCheckSafely]
          refine ⟨_, first ++ gained, ?_, ?_, total⟩
          · rw [List.singleton_append, List.map_cons, order, List.filter_cons_of_pos selected]
          intro finding member
          rcases List.mem_append.mp member with old | new
          · exact (own finding old).trans enabled.2
          · exact categories finding new
    · have passed : (!rule.enabled || rule.category ≠ category) = true := by
        simpa [selects, imp_iff_not_or] using selected
      obtain ⟨tried, gained, order, categories, adds⟩ := ih state
      simp only [runRules, passed, if_true]
      exact ⟨tried, gained, by rw [order, List.filter_cons_of_neg selected], categories, adds⟩

theorem runCategory_adds (rules : List Rule) (state : ScanState) (category : String) :
    ∃ tried gained, tried.map Prod.fst = rules.filter (selects category) ∧
      (∀ finding ∈ gained, finding.category = category) ∧
      Adds world progress state (runCategory world progress rules state category) tried gained (bracket gained category) := by
  obtain ⟨tried, gained, order, categories, adds⟩ := runRules_adds progress uncancelled category rules
    (emit world progress ⟨.categoryStarted, category, none, ""⟩ state)
  have whole : gained.filter (·.category = category) = gained :=
    List.filter_eq_self.mpr fun finding member => decide_eq_true (categories finding member)
  refine ⟨tried, gained, order, categories, ?_⟩
  have opened := (emit_adds progress uncancelled ⟨.categoryStarted, category, none, ""⟩ rfl state).trans adds
  have closed := opened.trans (emit_adds progress uncancelled ⟨.categoryCompleted, category, none, ""⟩ rfl _)
  simpa only [runCategory, bracket, whole, List.nil_append, List.append_nil] using closed

omit uncancelled in
theorem brackets_append {category : String} {rest : List String} (fresh : category ∉ rest) {first others : List Finding}
    (own : ∀ finding ∈ first, finding.category = category) (later : ∀ finding ∈ others, finding.category ∈ rest) :
    bracket first category ++ rest.flatMap (bracket others) = (category :: rest).flatMap (bracket (first ++ others)) := by
  have none : others.filter (·.category = category) = [] := by
    rw [List.filter_eq_nil_iff]
    intro finding member same
    exact fresh (of_decide_eq_true same ▸ later finding member)
  have head : bracket (first ++ others) category = bracket first category := by
    simp only [bracket, List.filter_append, none, List.append_nil]
  have tail : ∀ other ∈ rest, bracket (first ++ others) other = bracket others other := by
    intro other member
    have absent : first.filter (·.category = other) = [] := by
      rw [List.filter_eq_nil_iff]
      intro finding present same
      have equal : category = other := (own finding present).symm.trans (of_decide_eq_true same)
      exact fresh (equal ▸ member)
    simp only [bracket, List.filter_append, absent, List.nil_append]
  rw [List.flatMap_cons, head]
  congr 1
  exact List.flatMap_congr fun other member => (tail other member).symm

theorem runCategories_adds (rules : List Rule) {order : List String} (distinct : order.Nodup) (state : ScanState) :
    ∃ tried gained, tried.map Prod.fst = order.flatMap (fun category => rules.filter (selects category)) ∧
      (∀ finding ∈ gained, finding.category ∈ order) ∧
      Adds world progress state (order.foldl (runCategory world progress rules) state) tried gained
        (order.flatMap (bracket gained)) := by
  induction order generalizing state with
  | nil => exact ⟨[], [], rfl, by simp, Adds.refl state⟩
  | cons category rest ih =>
    obtain ⟨fresh, distinct⟩ := List.nodup_cons.mp distinct
    obtain ⟨tried, gained, chosen, own, adds⟩ := runCategory_adds progress uncancelled rules state category
    obtain ⟨others, further, order, later, next⟩ := ih distinct (runCategory world progress rules state category)
    refine ⟨tried ++ others, gained ++ further, ?_, ?_, ?_⟩
    · rw [List.map_append, chosen, order, List.flatMap_cons]
    · intro finding member
      rcases List.mem_append.mp member with old | new
      · exact List.mem_cons.mpr (Or.inl (own finding old))
      · exact List.mem_cons_of_mem _ (later finding new)
    · rw [List.foldl_cons, ← brackets_append fresh own later]
      exact adds.trans next

theorem conclude_running {state : ScanState} (running : state.result.status = .scanRunning) :
    conclude world progress state =
      { state with
        moment := state.moment + 1
        result := { state.result with completedAt := world.now state.moment, status := .scanCompleted }
        events := state.events ++ if progress then [⟨.scanCompleted, "", none, ""⟩] else [] } := by
  cases progress <;> simp [conclude, running, emit, not_done uncancelled]

end

/-- The enabled rules in the order in which they are run. -/
def plan (rules : List Rule) : List Rule := grouped Rule.category (categories rules) (rules.filter Rule.enabled)

theorem plan_perm (rules : List Rule) : (plan rules).Perm (rules.filter Rule.enabled) := by
  apply grouped_perm_of_subset (firstSeen_nodup _ _)
  intro rule member
  apply mem_firstSeen.mpr
  exact List.mem_map_of_mem (List.mem_of_mem_filter member)

theorem plan_eq (rules : List Rule) :
    plan rules = (categories rules).flatMap fun category => rules.filter (selects category) := by
  unfold plan grouped
  apply List.flatMap_congr
  intro category _
  rw [List.filter_filter]
  congr 1
  funext rule
  simp [selects, Bool.and_comm]

/-- An uncancelled scan tries every enabled rule once, by category in the order
in which the list of all rules first names them. Findings, skipped checks and
events all follow from these attempts. -/
theorem run_accounts (world : World) (progress : Bool) (uncancelled : world.cancelledAt = none) (rules : List Rule)
    (cluster scanID : String) :
    let last := run world progress rules cluster scanID
    last.attempts.map Prod.fst = plan rules ∧ (plan rules).Perm (rules.filter Rule.enabled) ∧ (categories rules).Nodup ∧
    (∀ attempt ∈ last.attempts, Attempted world attempt.1 attempt.2) ∧
    last.result.findings.map content = last.attempts.flatMap (reported scanID) ∧
    last.result.skippedChecks = last.attempts.countP (fun attempt => attempt.2.skipped) ∧
    last.result.status = .scanCompleted ∧
    last.events = (if progress then (categories rules).flatMap (bracket last.result.findings) ++
      [⟨.scanCompleted, "", none, ""⟩] else []) ∧
    (progress = true → last.events.filterMap (·.finding) = last.result.findings) := by
  obtain ⟨tried, gained, order, _, adds⟩ := runCategories_adds progress uncancelled rules
    (firstSeen_nodup Rule.category rules) (start world cluster scanID)
  intro last
  have concluded : last = _ := conclude_running progress uncancelled adds.status
  have attempts : last.attempts = tried := by rw [concluded]; exact adds.attempts
  have findings : last.result.findings = gained := by rw [concluded]; exact adds.findings
  have events : last.events = (if progress then (categories rules).flatMap (bracket gained) else []) ++
      if progress then [⟨.scanCompleted, "", none, ""⟩] else [] := by
    rw [concluded]
    exact congrArg (· ++ _) adds.events
  refine ⟨?_, plan_perm rules, firstSeen_nodup _ _, ?_, ?_, ?_, ?_, ?_, ?_⟩
  · rw [attempts, order, plan_eq]
    rfl
  · rw [attempts]
    exact adds.attempted
  · rw [attempts, findings]
    exact adds.contents
  · rw [attempts, concluded]
    exact adds.skipped.trans (Nat.zero_add _)
  · rw [concluded]
  · rw [events, findings]
    cases progress <;> simp
  · rintro rfl
    rw [events, findings, if_pos rfl, if_pos rfl, List.filterMap_append]
    exact (List.append_nil _).trans adds.stream

/-- Checks that always end the same way, in a scan that is not cancelled. -/
private def steady (checks : String → Option Outcome) : World where
  checks checkFn := (checks checkFn).map fun outcome _ => outcome
  cancelledAt := none
  delivered _ := false
  newID _ := ""
  now _ := 0

/-- The registered checks are `ok`, with one finding, and `bad`, which panics. -/
private def sampleChecks (checkFn : String) : Option Outcome :=
  if checkFn = "ok" then some (.returned [⟨"ns", "Pod", "web", ""⟩])
  else if checkFn = "bad" then some (.panicked "index out of range")
  else none

private def ruleIn (category checkFn : String) (enabled : Bool) : Rule :=
  ⟨category ++ checkFn, "", severityWarning, category, checkFn, "", "", ⟨"", ""⟩, [], enabled⟩

theorem run_accounts_sample :
    (run (steady sampleChecks) true [ruleIn "a" "ok" true, ruleIn "b" "bad" true, ruleIn "a" "gone" true] "c" "s").attempts.map
        Prod.fst = plan [ruleIn "a" "ok" true, ruleIn "b" "bad" true, ruleIn "a" "gone" true] ∧
      (run (steady sampleChecks) true [ruleIn "a" "ok" true, ruleIn "b" "bad" true, ruleIn "a" "gone" true] "c"
        "s").result.status = .scanCompleted := by
  have accounts := run_accounts (steady sampleChecks) true rfl
    [ruleIn "a" "ok" true, ruleIn "b" "bad" true, ruleIn "a" "gone" true] "c" "s"
  exact ⟨accounts.1, accounts.2.2.2.2.2.2.1⟩

/-- A disabled rule in front gives its category the first place. -/
theorem disabled_rule_orders_findings :
    ¬ ∀ (checks : String → Option Outcome) (rules : List Rule) (cluster scanID : String),
      (run (steady checks) true rules cluster scanID).result.findings.map content =
        (grouped Rule.category (firstSeen Rule.category (rules.filter Rule.enabled)) (rules.filter Rule.enabled)).flatMap
          fun rule => match checks rule.checkFn with
            | some (.returned raws) => raws.map fun raw => newFinding scanID rule raw "" 0
            | _ => [] := by
  intro ordered
  have wrong := ordered sampleChecks [ruleIn "a" "ok" false, ruleIn "b" "ok" true, ruleIn "a" "ok" true] "c" "s"
  exact absurd wrong (by decide)

/-- What a scan has so far comes from the enabled rules of its list. -/
structure Traced (rules : List Rule) (scanID : String) (state : ScanState) : Prop where
  id : state.result.id = scanID
  attempts : ∀ attempt ∈ state.attempts, attempt.1 ∈ rules.filter Rule.enabled
  findings : ∀ finding ∈ state.result.findings, ∃ rule ∈ rules.filter Rule.enabled, ∃ raw id detectedAt,
    finding = newFinding scanID rule raw id detectedAt

section Traced
variable {world : World} {progress : Bool} {all : List Rule} {scanID : String} {state : ScanState}

theorem traced_emit (traced : Traced all scanID state) (event : ScanProgressEvent) :
    Traced all scanID (emit world progress event state) := by
  unfold emit
  split
  · exact ⟨traced.id, traced.attempts, traced.findings⟩
  · exact ⟨traced.id, traced.attempts, traced.findings⟩

theorem traced_addFindings {rule : Rule} (enabled : rule ∈ all.filter Rule.enabled) (raws : List RawFinding)
    (traced : Traced all scanID state) : Traced all scanID (raws.foldl (addFinding world progress rule) state) := by
  induction raws generalizing state with
  | nil => exact traced
  | cons raw rest ih =>
    apply ih
    apply traced_emit
    refine ⟨traced.id, traced.attempts, ?_⟩
    intro finding member
    rcases List.mem_append.mp member with old | new
    · exact traced.findings finding old
    · obtain rfl := List.mem_singleton.mp new
      exact ⟨rule, enabled, raw, _, _, by rw [traced.id]⟩

theorem traced_attempt {rule : Rule} (enabled : rule ∈ all.filter Rule.enabled) (attempt : Attempt) (moment skipped : Nat)
    (traced : Traced all scanID state) : Traced all scanID { state with
      moment := moment
      result := { state.result with skippedChecks := skipped }
      attempts := state.attempts ++ [(rule, attempt)] } := by
  refine ⟨traced.id, ?_, traced.findings⟩
  intro other member
  rcases List.mem_append.mp member with old | new
  · exact traced.attempts other old
  · obtain rfl := List.mem_singleton.mp new
    exact enabled

theorem traced_runRules (category : String) {rules : List Rule} (inside : rules ⊆ all) (traced : Traced all scanID state) :
    Traced all scanID (runRules world progress category rules state) := by
  induction rules generalizing state with
  | nil => exact traced
  | cons rule rest ih =>
    obtain ⟨member, others⟩ := List.cons_subset.mp inside
    unfold runRules
    split
    next => exact ih others traced
    next selected =>
      have enabled : rule ∈ all.filter Rule.enabled := by
        rw [Bool.not_eq_true, Bool.or_eq_false_iff, Bool.not_eq_false'] at selected
        exact List.mem_filter.mpr ⟨member, selected.1⟩
      split
      next => exact ⟨traced.id, traced.attempts, traced.findings⟩
      next =>
        split
        next => exact ih others (traced_attempt enabled _ _ _ traced)
        next =>
          dsimp only
          split
          next => exact ih others (traced_attempt enabled _ _ _ traced)
          next => exact ih others (traced_addFindings enabled _ (traced_attempt enabled _ _ _ traced))

theorem traced_conclude (traced : Traced all scanID state) : Traced all scanID (conclude world progress state) := by
  unfold conclude
  extract_lets source completed
  have same : Traced all scanID completed := ⟨traced.id, traced.attempts, traced.findings⟩
  split
  · exact traced_emit same _
  · exact traced_emit same _

theorem run_traced (world : World) (progress : Bool) (rules : List Rule) (cluster scanID : String) :
    Traced rules scanID (run world progress rules cluster scanID) := by
  have scanned : Traced rules scanID ((categories rules).foldl (runCategory world progress rules) (start world cluster scanID)) := by
    have started : Traced rules scanID (start world cluster scanID) := ⟨rfl, by simp [start], by simp [start]⟩
    generalize start world cluster scanID = state at started
    induction categories rules generalizing state with
    | nil => exact started
    | cons category rest ih =>
      apply ih
      exact traced_emit (traced_runRules category (List.Subset.refl _) (traced_emit started _)) _
  exact traced_conclude scanned

end Traced

end K8Sense.Doctor.Scanner
