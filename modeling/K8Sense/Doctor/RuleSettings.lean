import K8Sense.Doctor.Scanner
import K8Sense.Doctor.CustomRules
import K8Sense.Doctor.Tables

/-! The settings of rules for a cluster, as a scan reads them and as the list of
rules shows them. -/

namespace K8Sense.Doctor.RuleSettings
open Transition CustomRules

/-- The rule_overrides table, by cluster and rule. -/
abbrev Overrides := String × String → Option Db.RuleOverride

/-- The overridden severities of a cluster's rules. An empty one does not count. -/
def getSeverityOverrides (table : Overrides) (clusterID ruleID : String) : Option String :=
  ((table (clusterID, ruleID)).bind Db.RuleOverride.severity).filter (· ≠ "")

/-- The rules that are disabled for a cluster. One without a row is enabled. -/
def getDisabledRuleIDs (table : Overrides) (clusterID ruleID : String) : Bool :=
  (table (clusterID, ruleID)).any fun row => !row.enabled

def withSeverity (overrides : String → Option String) (rule : Rule) : Rule :=
  { rule with severity := (overrides rule.id).getD rule.severity }

/-- The rules with which `runScan` makes its scanner. When settings cannot be read
it goes on without them. -/
def scanRules (rules : List Rule) (disabled : Except String (String → Bool)) (overrides : Except String (String → Option String)) :
    List Rule :=
  let enabled := match disabled with
    | .error _ => rules
    | .ok disabled => rules.filter fun rule => !disabled rule.id
  match overrides with
  | .error _ => enabled
  | .ok overrides => enabled.map (withSeverity overrides)

/-- The list is of all rules as loaded when no cluster is given. -/
def listRulesForCluster (rules : List Rule) (cluster : String) (disabled : Except String (String → Bool))
    (overrides : Except String (String → Option String)) : Except Response (List Rule) :=
  if cluster = "" then .ok rules
  else match disabled with
  | .error err => .error (errorResponse 500 err)
  | .ok disabled =>
    match overrides with
    | .error err => .error (errorResponse 500 err)
    | .ok overrides => .ok (rules.map fun rule => withSeverity overrides { rule with enabled := !disabled rule.id })

/-- `LoadRules`, over the YAML files of a directory with their contents, where
they can be read. -/
def loadRules (unmarshal : String → Except String (List Rule)) : List (String × Except String String) → Except String (List Rule)
  | [] => .ok []
  | (path, .error err) :: _ => .error ("reading rule file " ++ path.quote ++ ": " ++ err)
  | (path, .ok data) :: rest =>
    match parseRules unmarshal data with
    | .error err => .error ("parsing rule file " ++ path.quote ++ ": " ++ err)
    | .ok parsed => (loadRules unmarshal rest).map fun rules => parsed ++ rules

section
variable (rules : List Rule) (table : Overrides) (cluster : String)

/-- What a scan of the cluster runs, when the settings are read. -/
def scanned : List Rule :=
  scanRules rules (.ok (getDisabledRuleIDs table cluster)) (.ok (getSeverityOverrides table cluster))

/-- What is listed for the cluster, when the settings are read. -/
def listed : Except Response (List Rule) :=
  listRulesForCluster rules cluster (.ok (getDisabledRuleIDs table cluster)) (.ok (getSeverityOverrides table cluster))

end

def Loaded (rules : List Rule) : Prop := ∀ rule ∈ rules, rule.enabled = true

variable {unmarshal : String → Except String (List Rule)} {rules builtin : List Rule} {table : Overrides} {cluster other : String}

theorem parsed_loaded {data : String} (parsed : parseRules unmarshal data = .ok rules) : Loaded rules :=
  fun rule member => ((parseRules_ok parsed).2 rule member).1

theorem loaded_append {others : List Rule} (first : Loaded rules) (second : Loaded others) : Loaded (rules ++ others) := by
  intro rule member
  rcases List.mem_append.mp member with left | right
  · exact first rule left
  · exact second rule right

theorem loadRules_loaded {files : List (String × Except String String)} :
    ∀ {rules : List Rule}, loadRules unmarshal files = .ok rules → Loaded rules := by
  induction files with
  | nil =>
    rintro rules ⟨⟩
    exact fun rule member => absurd member List.not_mem_nil
  | cons file rest ih =>
    intro rules read
    obtain ⟨path, content⟩ := file
    cases content with
    | error err => cases read
    | ok data =>
      rw [loadRules] at read
      cases parsed : parseRules unmarshal data with
      | error err => rw [parsed] at read; cases read
      | ok first =>
        cases later : loadRules unmarshal rest with
        | error err => rw [parsed, later] at read; cases read
        | ok others =>
          rw [parsed, later] at read
          cases read
          exact loaded_append (parsed_loaded parsed) (ih later)

theorem loadCustomRules_loaded (rows : List CustomRule) : Loaded (loadCustomRules unmarshal rows) := by
  intro rule member
  obtain ⟨row, _, of⟩ := List.mem_flatMap.mp member
  split at of
  next => cases of
  next rules parsed => exact parsed_loaded parsed rule of

theorem import_loaded {server : Server} (loaded : Loaded server.rules) (paid : Bool) (body : Option String) (now : Nat)
    (failsAt : Option Nat) : Loaded (importRule unmarshal paid body now failsAt server).1.rules := by
  unfold importRule
  split
  next => exact loaded
  next =>
    split
    next => exact loaded
    next yaml =>
      split
      next => exact loaded
      next rules parsed =>
        split
        next => exact loaded
        next => exact loaded_append loaded (parsed_loaded parsed)

theorem loaded_step {state next : State} {event : Event} (builtinLoaded : Loaded builtin) (loaded : Loaded state.server.rules)
    (taken : step unmarshal builtin state event = some next) : Loaded next.server.rules := by
  cases taken
  cases event with
  | importRule paid body now failsAt => exact import_loaded loaded paid body now failsAt
  | deleteCustomRule id fails =>
    show Loaded (deleteCustomRule id fails state.server).1.rules
    rw [delete_keeps_running]
    exact loaded
  | restart unreadable =>
    cases unreadable with
    | true => exact builtinLoaded
    | false => exact loaded_append builtinLoaded (loadCustomRules_loaded _)

theorem server_loaded {files : List (String × Except String String)} (read : loadRules unmarshal files = .ok builtin)
    {events : List Event} {last : State} (ran : run (step unmarshal builtin) (initial builtin) events = some last) :
    Loaded last.server.rules := by
  have start : Loaded (initial builtin).server.rules := loadRules_loaded read
  exact always (fun state => Loaded state.server.rules) (fun _ _ _ loaded taken => loaded_step (loadRules_loaded read) loaded taken)
    start ran

theorem scanned_eq (loaded : Loaded rules) (named : cluster ≠ "") :
    ∃ shown, listed rules table cluster = .ok shown ∧ scanned rules table cluster = shown.filter Rule.enabled := by
  refine ⟨_, by rw [listed, listRulesForCluster, if_neg named], ?_⟩
  simp only [scanned, scanRules]
  induction rules with
  | nil => rfl
  | cons rule rest ih =>
    obtain ⟨first, later⟩ := List.forall_mem_cons.mp loaded
    have tail := ih later
    cases off : getDisabledRuleIDs table cluster rule.id with
    | true => simpa [off, withSeverity] using tail
    | false => simpa [off, withSeverity, first] using tail

/-- A change of the settings of a rule for a cluster. -/
inductive Change where
  | toggle (enabled : Bool)
  | grade (severity : String)

def Change.apply (cluster ruleID : String) (table : Overrides) : Change → Overrides
  | .toggle enabled => Db.setRuleOverride cluster ruleID enabled table
  | .grade severity => Db.setRuleSeverity cluster ruleID severity table

theorem change_other (change : Change) (apart : other ≠ cluster) (ruleID id : String) :
    change.apply cluster ruleID table (other, id) = table (other, id) := by
  have key : (other, id) ≠ (cluster, ruleID) := fun same => apart (Prod.mk.inj same).1
  cases change with
  | toggle enabled => exact Function.update_of_ne key _ _
  | grade severity => exact Function.update_of_ne key _ _

theorem settings_other (change : Change) (apart : other ≠ cluster) (ruleID : String) :
    getDisabledRuleIDs (change.apply cluster ruleID table) other = getDisabledRuleIDs table other ∧
      getSeverityOverrides (change.apply cluster ruleID table) other = getSeverityOverrides table other := by
  constructor
  · funext id
    rw [getDisabledRuleIDs, change_other change apart, getDisabledRuleIDs]
  · funext id
    rw [getSeverityOverrides, change_other change apart, getSeverityOverrides]

/-- A scan of a cluster runs the rules that the list shows as enabled for it, its
findings have the severities shown there, and what is set for one cluster
changes neither for another. -/
theorem scan_follows_list {files : List (String × Except String String)} (read : loadRules unmarshal files = .ok builtin)
    {events : List Event} {last : State} (ran : run (step unmarshal builtin) (initial builtin) events = some last)
    (table : Overrides) {cluster : String} (named : cluster ≠ "") :
    (∃ shown, listed last.server.rules table cluster = .ok shown ∧
      scanned last.server.rules table cluster = shown.filter Rule.enabled ∧
      ∀ (world : Scanner.World) (progress : Bool) (scanID : String),
        let scan := Scanner.run world progress (scanned last.server.rules table cluster) cluster scanID
        (∀ attempt ∈ scan.attempts, attempt.1 ∈ shown.filter Rule.enabled) ∧
        (world.cancelledAt = none → (scan.attempts.map Prod.fst).Perm (shown.filter Rule.enabled)) ∧
        ∀ finding ∈ scan.result.findings, ∃ rule ∈ shown.filter Rule.enabled,
          finding.ruleID = rule.id ∧ finding.severity = rule.severity) ∧
    ∀ (change : Change) (ruleID other : String), other ≠ cluster →
      scanned last.server.rules (change.apply cluster ruleID table) other = scanned last.server.rules table other ∧
        listed last.server.rules (change.apply cluster ruleID table) other = listed last.server.rules table other := by
  constructor
  · obtain ⟨shown, shows, runs⟩ := scanned_eq (server_loaded read ran) named
    have enabled : (scanned last.server.rules table cluster).filter Rule.enabled = shown.filter Rule.enabled := by
      rw [runs, List.filter_filter]
      simp only [Bool.and_self]
    refine ⟨shown, shows, runs, ?_⟩
    intro world progress scanID scan
    have traced := Scanner.run_traced world progress (scanned last.server.rules table cluster) cluster scanID
    rw [← enabled]
    refine ⟨traced.attempts, ?_, ?_⟩
    · intro uncancelled
      obtain ⟨order, perm, _⟩ := Scanner.run_accounts world progress uncancelled (scanned last.server.rules table cluster)
        cluster scanID
      rw [order]
      exact perm
    · intro finding found
      obtain ⟨rule, member, raw, id, detectedAt, rfl⟩ := traced.findings finding found
      exact ⟨rule, member, rfl, rfl⟩
  · intro change ruleID other apart
    obtain ⟨disabled, severities⟩ := settings_other change apart ruleID
    rw [scanned, listed, disabled, severities]
    exact ⟨rfl, rfl⟩

private def podRule : Rule :=
  ⟨"POD-1", "Pod restarts", severityWarning, "pods", "check_pod_restarts", "", "", ⟨"", ""⟩, [], true⟩

private theorem podRule_read :
    loadRules (fun _ => .ok [podRule]) [("rules/pods.yaml", .ok "- id: POD-1")] = .ok [podRule] := by
  decide

/-- The rule is made critical for one cluster. -/
theorem scan_follows_list_podRule : ∃ shown,
    listed [podRule] (Db.setRuleSeverity "prod" "POD-1" severityCritical fun _ => none) "prod" = .ok shown ∧
      scanned [podRule] (Db.setRuleSeverity "prod" "POD-1" severityCritical fun _ => none) "prod" = shown.filter Rule.enabled ∧
      shown.map Rule.severity = [severityCritical] := by
  have ran : run (step (fun _ => .ok [podRule]) [podRule]) (initial [podRule]) [] = some (initial [podRule]) := rfl
  have named : "prod" ≠ "" := by decide
  obtain ⟨⟨shown, shows, runs, _⟩, _⟩ := scan_follows_list podRule_read ran
    (Db.setRuleSeverity "prod" "POD-1" severityCritical fun _ => none) named
  refine ⟨shown, shows, runs, ?_⟩
  cases shows
  decide

end K8Sense.Doctor.RuleSettings
