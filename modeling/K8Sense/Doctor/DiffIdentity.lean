import K8Sense.Doctor.Alerting
import K8Sense.Doctor.Suppressions

/-! What identifies a finding when two scans are compared. The four parts of an
identity are joined into one text, which tells the pieces between the separators
but not which part a piece belongs to. -/

namespace K8Sense.Doctor.Alerting
open Text Suppressions

/-- The parts of an identity in the order of the key. -/
def components (finding : Finding) : List String :=
  [finding.ruleID, finding.namespace, finding.resourceKind, finding.resourceName]

/-- The texts between the separators, part after part. -/
def pieces (finding : Finding) : List String := (components finding).flatMap (split '|')

theorem components_eq_iff {first second : Finding} :
    components first = components second ↔ identity first = identity second := by
  simp only [components, identity, List.cons.injEq, and_true, Prod.mk.injEq]
  constructor
  · rintro ⟨rule, within, kind, name⟩
    exact ⟨rule, kind, within, name⟩
  · rintro ⟨rule, kind, within, name⟩
    exact ⟨rule, within, kind, name⟩

theorem suppressionKey_eq (finding : Finding) :
    suppressionKey finding.ruleID finding.namespace finding.resourceKind finding.resourceName = findingKey finding := by
  apply String.toList_injective
  simp [suppressionKey, findingKey, join, List.intercalate]

theorem findingKey_eq (finding : Finding) : findingKey finding = join '|' (components finding) :=
  (suppressionKey_eq finding).symm

theorem findingKey_eq_iff {first second : Finding} :
    findingKey first = findingKey second ↔ pieces first = pieces second := by
  rw [findingKey_eq, findingKey_eq]
  exact join_eq_iff (List.cons_ne_nil _ _) (List.cons_ne_nil _ _)

/-- The comparison of two scans goes by identity: the current findings are parted,
in their order, into those that some previous finding matches and the others, and
the previous findings without a match are resolved. Neither the comparison nor
the keys of suppressions take a current finding for a previous one that differs
from it in some part. -/
structure ByIdentity (current previous : List Finding) : Prop where
  parted : ((diffFindings current previous).added ++ (diffFindings current previous).persisted).Perm current
  persisted : (diffFindings current previous).persisted =
    current.filter fun finding => (previous.map identity).contains (identity finding)
  added : (diffFindings current previous).added =
    current.filter fun finding => !(previous.map identity).contains (identity finding)
  resolved : (diffFindings current previous).resolved =
    previous.filter fun finding => !(current.map identity).contains (identity finding)
  apart : ∀ finding ∈ current, ∀ old ∈ previous, identity finding ≠ identity old →
    findingKey finding ≠ findingKey old ∧
      suppressionKey finding.ruleID finding.namespace finding.resourceKind finding.resourceName ≠
        suppressionKey old.ruleID old.namespace old.resourceKind old.resourceName

theorem diff_parted (current previous : List Finding) :
    ((diffFindings current previous).added ++ (diffFindings current previous).persisted).Perm current := by
  have parted := List.filter_append_perm (fun finding => (previous.map findingKey).contains (findingKey finding)) current
  exact List.perm_append_comm.trans parted

section
variable {findings others : List Finding}
  (told : ∀ finding ∈ findings, ∀ other ∈ others, findingKey finding = findingKey other → identity finding = identity other)
include told

theorem contains_key {finding : Finding} (member : finding ∈ findings) :
    (others.map findingKey).contains (findingKey finding) = (others.map identity).contains (identity finding) := by
  rw [Bool.eq_iff_iff, List.contains_iff_mem, List.contains_iff_mem, List.mem_map, List.mem_map]
  constructor
  · rintro ⟨other, held, same⟩
    exact ⟨other, held, (told finding member other held same.symm).symm⟩
  · rintro ⟨other, held, same⟩
    exact ⟨other, held, key_of_identity same⟩

end

/-- Two scans are compared by identity exactly when no current finding and no
previous one that differ in some part have the same pieces. -/
theorem byIdentity_iff (current previous : List Finding) :
    ByIdentity current previous ↔
      ∀ finding ∈ current, ∀ old ∈ previous, pieces finding = pieces old → components finding = components old := by
  constructor
  · intro exactly finding member old held same
    by_contra different
    rw [components_eq_iff] at different
    exact (exactly.apart finding member old held different).1 (findingKey_eq_iff.mpr same)
  · intro told
    have keys : ∀ finding ∈ current, ∀ old ∈ previous, findingKey finding = findingKey old → identity finding = identity old := by
      intro finding member old held same
      exact components_eq_iff.mp (told finding member old held (findingKey_eq_iff.mp same))
    have back : ∀ old ∈ previous, ∀ finding ∈ current, findingKey old = findingKey finding → identity old = identity finding := by
      intro old held finding member same
      exact (keys finding member old held same.symm).symm
    refine ⟨diff_parted current previous, ?_, ?_, ?_, ?_⟩
    · apply List.filter_congr
      intro finding member
      exact contains_key keys member
    · apply List.filter_congr
      intro finding member
      rw [contains_key keys member]
    · apply List.filter_congr
      intro old held
      rw [contains_key back held]
    · intro finding member old held different
      rw [suppressionKey_eq, suppressionKey_eq, and_self]
      intro same
      exact different (keys finding member old held same)

private def failure (resourceKind resourceName : String) : Finding where
  id := ""
  scanID := ""
  ruleID := "STOR-004"
  ruleName := ""
  severity := severityWarning
  category := ""
  «namespace» := "shop"
  resourceKind
  resourceName
  description := ""
  remediation := ""
  references := []
  rawObject := ""
  detectedAt := 0
  guidedFixAvailable := false
  guidedFixAction := ""
  guidedFixWarning := ""

/-- The kind of the object that an event is about is free text, and so is its name. -/
theorem separator_confuses : ¬ ∀ current previous : List Finding, ByIdentity current previous := by
  intro sound
  have apart := (sound [failure "Pod|a" "b"] [failure "Pod" "a|b"]).apart (failure "Pod|a" "b") (by simp)
    (failure "Pod" "a|b") (by simp) (by decide)
  exact apart.1 (by decide)

end K8Sense.Doctor.Alerting
