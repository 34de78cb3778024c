import Mathlib.Data.String.Basic
import Mathlib.Tactic.Order
import K8Sense.Library.Transition
import K8Sense.Doctor.Tables

/-! What is read back of the findings of a scan that was saved, in a history to
which scans are added and from which old ones are pruned. -/

namespace K8Sense.Doctor.FindingHistory
open Alerting Transition

inductive Event where
  | save (works : Bool) (scan : Scan)
  | prune (keepPerCluster : Nat)

def step (store : Store) : Event → Option Store
  | .save works scan => some (saveScan works scan.result store)
  | .prune keepPerCluster => some (Db.pruneScans keepPerCluster store)

def initial : Store := ⟨[], []⟩

/-- The guided fix of a finding as its rule has it now. -/
def enriched (rulesByID : String → Option Rule) (finding : Finding) : Finding :=
  match rulesByID finding.ruleID with
  | none => finding
  | some rule =>
    if rule.guidedFix.action = "" then finding
    else { finding with
      guidedFixAvailable := true
      guidedFixAction := rule.guidedFix.action
      guidedFixWarning := rule.guidedFix.warning }

def enrichGuidedFix (rulesByID : String → Option Rule) (findings : List Finding) : List Finding :=
  findings.map (enriched rulesByID)

/-- A finding with its time in seconds, and without its guided fix. -/
def truncated (finding : Finding) : Finding :=
  { finding with
    detectedAt := unixToTime (unix finding.detectedAt)
    guidedFixAvailable := false
    guidedFixAction := ""
    guidedFixWarning := "" }

def withoutReferences (finding : Finding) : Finding := { finding with references := [] }

@[simp] theorem withoutReferences_twice (finding : Finding) :
    withoutReferences (withoutReferences finding) = withoutReferences finding := rfl

/-- Every finding belongs to a scan, as the foreign key demands. -/
def Linked (store : Store) : Prop :=
  ∀ row ∈ store.findings, ∃ scan ∈ store.scans, scan.id = row.scanID

variable {store next : Store}

theorem linked_save {works : Bool} {scan : Scan} (linked : Linked store) : Linked (saveScan works scan.result store) := by
  unfold saveScan
  split
  next => exact linked
  next =>
    intro row member
    rcases List.mem_append.mp member with old | new
    · obtain ⟨found, inside, named⟩ := linked row old
      exact ⟨found, List.mem_append_left _ inside, named⟩
    · obtain ⟨finding, inside, rfl⟩ := List.mem_map.mp new
      refine ⟨scanRow scan.result, List.mem_append_right _ List.mem_cons_self, ?_⟩
      exact (scan.owned finding inside).symm

theorem linked_prune {keepPerCluster : Nat} (linked : Linked store) : Linked (Db.pruneScans keepPerCluster store) := by
  intro row member
  simp only [Db.pruneScans, List.mem_filter] at member ⊢
  obtain ⟨inside, kept⟩ := member
  obtain ⟨scan, found, named⟩ := linked row inside
  exact ⟨scan, ⟨found, named ▸ kept⟩, named⟩

theorem linked_step {event : Event} (linked : Linked store) (taken : step store event = some next) : Linked next := by
  cases event with
  | save works scan =>
    cases taken
    exact linked_save linked
  | prune keepPerCluster =>
    cases taken
    exact linked_prune linked

theorem reachable_linked {events : List Event} (ran : run step initial events = some store) : Linked store := by
  apply always Linked (fun _ _ _ linked taken => linked_step linked taken) ?_ ran
  intro row member
  cases member

/-- The columns of a finding keep all of it but its guided fix and its references. -/
theorem restore_findingRow (finding : Finding) : restore (findingRow finding) = withoutReferences (truncated finding) := by
  simp only [restore, findingRow, nullIfEmpty_getD, withoutReferences, truncated]

theorem saved_rows (linked : Linked store) {scan : Scan} (fresh : conflicts scan.result store = false) :
    ((saveScan true scan.result store).findings.filter fun row => row.scanID = scan.result.id) =
      scan.result.findings.map findingRow := by
  have others : store.findings.filter (fun row => row.scanID = scan.result.id) = [] := by
    rw [List.filter_eq_nil_iff]
    intro row member same
    obtain ⟨found, inside, named⟩ := linked row member
    simp only [decide_eq_true_eq] at same
    simp only [conflicts, Bool.or_eq_false_iff, List.any_eq_false, decide_eq_true_eq] at fresh
    exact fresh.1 found inside (named.trans same)
  have own : (scan.result.findings.map findingRow).filter (fun row => row.scanID = scan.result.id) =
      scan.result.findings.map findingRow := by
    rw [List.filter_eq_self]
    intro row member
    obtain ⟨finding, inside, rfl⟩ := List.mem_map.mp member
    exact decide_eq_true (scan.owned finding inside)
  simp only [saveScan, fresh, Bool.not_true, Bool.or_self, Bool.false_eq_true, if_false, List.filter_append, others, own,
    List.nil_append]

theorem ordered_iff {first second : Finding} : ordered first second = true ↔
    severityOrder first.severity < severityOrder second.severity ∨
      severityOrder first.severity = severityOrder second.severity ∧
        (first.category < second.category ∨ first.category = second.category ∧ first.resourceName ≤ second.resourceName) := by
  simp [ordered]

theorem ordered_trans {first second third : Finding} (left : ordered first second = true)
    (right : ordered second third = true) : ordered first third = true := by
  rw [ordered_iff] at *
  rcases left with less | ⟨same, less | ⟨equal, upto⟩⟩ <;>
    rcases right with more | ⟨alike, more | ⟨even, limit⟩⟩
  · exact Or.inl (by omega)
  · exact Or.inl (by omega)
  · exact Or.inl (by omega)
  · exact Or.inl (by omega)
  · exact Or.inr ⟨by omega, Or.inl (lt_trans less more)⟩
  · exact Or.inr ⟨by omega, Or.inl (even ▸ less)⟩
  · exact Or.inl (by omega)
  · exact Or.inr ⟨by omega, Or.inl (equal ▸ more)⟩
  · exact Or.inr ⟨by omega, Or.inr ⟨equal.trans even, le_trans upto limit⟩⟩

theorem ordered_total (first second : Finding) : (ordered first second || ordered second first) = true := by
  rw [Bool.or_eq_true, ordered_iff, ordered_iff]
  rcases lt_trichotomy (severityOrder first.severity) (severityOrder second.severity) with less | same | more
  · exact Or.inl (Or.inl less)
  · rcases lt_trichotomy first.category second.category with before | equal | after
    · exact Or.inl (Or.inr ⟨same, Or.inl before⟩)
    · rcases le_total first.resourceName second.resourceName with upto | from'
      · exact Or.inl (Or.inr ⟨same, Or.inr ⟨equal, upto⟩⟩)
      · exact Or.inr (Or.inr ⟨same.symm, Or.inr ⟨equal.symm, from'⟩⟩)
    · exact Or.inr (Or.inr ⟨same.symm, Or.inl after⟩)
  · exact Or.inr (Or.inl more)

theorem getFindings_ordered (store : Store) (scanID : String) :
    (getFindings store scanID).Pairwise fun first second => ordered first second = true := by
  apply List.pairwise_mergeSort
  · exact fun _ _ _ => ordered_trans
  · exact ordered_total

theorem enriched_ordered {rulesByID : String → Option Rule} {first second : Finding} :
    ordered (enriched rulesByID first) (enriched rulesByID second) = ordered first second := by
  have kept : ∀ finding, (enriched rulesByID finding).severity = finding.severity ∧
      (enriched rulesByID finding).category = finding.category ∧
        (enriched rulesByID finding).resourceName = finding.resourceName := by
    intro finding
    unfold enriched
    split
    next => exact ⟨rfl, rfl, rfl⟩
    next => split <;> exact ⟨rfl, rfl, rfl⟩
  simp only [ordered, kept]

theorem enriched_references {rulesByID : String → Option Rule} (finding : Finding) :
    enriched rulesByID (withoutReferences finding) = withoutReferences (enriched rulesByID finding) := by
  unfold enriched
  show (match rulesByID finding.ruleID with
    | none => withoutReferences finding
    | some rule => _) = _
  split
  next => rfl
  next => split <;> rfl

/-- The findings of a scan that is saved into any history are read back, each with
the guided fix of its rule as it is now, the most severe ones first. -/
theorem saved_findings_read (rulesByID : String → Option Rule) (events : List Event) (store : Store) (scan : Scan)
    (reached : run step initial events = some store) (fresh : conflicts scan.result store = false) :
    let read := enrichGuidedFix rulesByID (getFindings (saveScan true scan.result store) scan.result.id)
    (read.map withoutReferences).Perm
        (scan.result.findings.map fun finding => withoutReferences (enriched rulesByID (truncated finding))) ∧
      read.Pairwise fun first second => ordered first second = true := by
  have rows := saved_rows (reachable_linked reached) fresh
  constructor
  · have restored : (getFindings (saveScan true scan.result store) scan.result.id).Perm
        (scan.result.findings.map fun finding => withoutReferences (truncated finding)) := by
      unfold getFindings
      rw [rows, List.map_map]
      apply (List.mergeSort_perm _ _).trans
      simp only [Function.comp_def, restore_findingRow, List.Perm.refl]
    have both := (restored.map (enriched rulesByID)).map withoutReferences
    simpa only [enrichGuidedFix, List.map_map, Function.comp_def, enriched_references, withoutReferences_twice] using both
  · unfold enrichGuidedFix
    rw [List.pairwise_map]
    simpa only [enriched_ordered] using getFindings_ordered _ _

/-- A finding of the scan `s` about a pod. -/
private def found (id severity : String) (references : List String) : Finding where
  id := id
  scanID := "s"
  ruleID := "POD-001"
  ruleName := "Crash loop"
  severity := severity
  category := "Pods"
  «namespace» := "ns"
  resourceKind := "Pod"
  resourceName := "web"
  description := "The pod restarts."
  remediation := "Read its logs."
  references := references
  rawObject := ""
  detectedAt := 0
  guidedFixAvailable := false
  guidedFixAction := ""
  guidedFixWarning := ""

private def scanOf (findings : List Finding) (owned : ∀ finding ∈ findings, finding.scanID = "s") : Scan where
  result := ⟨"s", "c", 0, 0, .scanCompleted, findings, 0, ""⟩
  owned := owned

/-- Two findings, of which the second is the more severe. -/
private def mixed : Scan :=
  scanOf [found "1" severityInfo [], found "2" severityCritical ["https://kubernetes.io"]] (by simp [found])

private theorem mixed_fresh : conflicts mixed.result initial = false := by decide

private theorem mixed_read : getFindings (saveScan true mixed.result initial) "s" =
    [found "2" severityCritical [], found "1" severityInfo []] := by
  have empty : Linked initial := fun _ member => nomatch member
  have rows : ((saveScan true mixed.result initial).findings.filter fun row => row.scanID = "s") = _ :=
    @saved_rows initial empty mixed mixed_fresh
  rw [getFindings, rows]
  simp [mixed, scanOf, found, findingRow, restore, nullIfEmpty, unix, unixToTime, ordered, severityOrder, severityInfo,
    severityCritical, severityWarning, List.mergeSort]

theorem mixed_findings_read : ∃ read, getFindings (saveScan true mixed.result initial) "s" = read ∧
    read.map Finding.id = ["2", "1"] ∧ ((enrichGuidedFix (fun _ => none) read).map withoutReferences).Perm
      (mixed.result.findings.map fun finding => withoutReferences (enriched (fun _ => none) (truncated finding))) :=
  ⟨_, rfl, by rw [mixed_read]; rfl, (saved_findings_read (fun _ => none) [] initial mixed rfl mixed_fresh).1⟩

/-- The order in which the scanner found them is lost, and so are the references. -/
theorem mixed_findings_differ :
    ¬ ∀ (rulesByID : String → Option Rule) (events : List Event) (store : Store) (scan : Scan),
      run step initial events = some store → conflicts scan.result store = false →
        enrichGuidedFix rulesByID (getFindings (saveScan true scan.result store) scan.result.id) =
          scan.result.findings.map fun finding => enriched rulesByID (truncated finding) := by
  intro same
  have kept := same (fun _ => none) [] initial mixed rfl mixed_fresh
  have ids := congrArg (List.map Finding.id) kept
  have read : getFindings (saveScan true mixed.result initial) mixed.result.id = _ := mixed_read
  rw [read] at ids
  exact absurd ids (by decide)

end K8Sense.Doctor.FindingHistory
