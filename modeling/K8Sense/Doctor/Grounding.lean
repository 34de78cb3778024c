import Mathlib.Algebra.Ring.Nat
import K8Sense.Library.Ranked
import K8Sense.Library.Text
import K8Sense.Doctor.Finding

/-! The prompt that grounds the Copilot in the findings of a cluster. -/

namespace K8Sense.Doctor.Copilot
open Ranked

/-- Only so many findings are summarised, the most severe ones first. -/
def maxGroundingFindings : Nat := 40

/-- `strings.ToLower`, of ASCII. -/
def toLower (text : String) : String := String.ofList (text.toList.map Char.toLower)

/-- `strings.ToUpper`, of ASCII. -/
def toUpper (text : String) : String := String.ofList (text.toList.map Char.toUpper)

def severityRank (severity : String) : Nat :=
  match toLower severity with
  | "critical" => 0
  | "high" => 1
  | "medium" => 2
  | "low" => 3
  | _ => 4

def rank (finding : Finding) : Nat := severityRank finding.severity

def counts (findings : List Finding) (severity : String) : Nat := findings.countP fun finding => toLower finding.severity = severity

/-- The numbers of the summary, and what they are said to count. -/
def summaryParts (findings : List Finding) : List (Nat × String) :=
  let parts := (["critical", "high", "medium", "low"].filter fun severity => counts findings severity > 0).map fun severity =>
    (counts findings severity, severity)
  if parts = [] then [(findings.length, "total")] else parts

def severitySummary (findings : List Finding) : String :=
  Text.concat ", " ((summaryParts findings).map fun (number, severity) => toString number ++ " " ++ severity)

def sorted (findings : List Finding) : List Finding := stableSort rank findings

def shown (findings : List Finding) : List Finding := (sorted findings).take maxGroundingFindings

def leftOut (findings : List Finding) : List Finding := (sorted findings).drop maxGroundingFindings

def role : String :=
  "You are K8sense Copilot, an expert Kubernetes SRE assistant embedded in an " ++
    "air-gapped cluster-operations tool. Answer concisely and practically. Base your " ++
    "answers on the CLUSTER FINDINGS and LIVE CLUSTER STATE below and on sound general " ++
    "Kubernetes knowledge. Never invent resource names, namespaces, or findings that are " ++
    "not present in the context. When you suggest a fix, prefer kubectl commands or " ++
    "manifest changes and call out anything risky. If the context does not contain the " ++
    "answer, say so plainly.\n\n"

section
variable (quote : String → String)

def findingLine (finding : Finding) : String :=
  let resource := Text.trimPrefix "/" (finding.namespace ++ "/" ++ finding.resourceName)
  "- [" ++ toUpper finding.severity ++ "] " ++ finding.ruleName ++ " — " ++ finding.resourceKind ++ " " ++ quote resource ++ ": " ++
    finding.description ++ (if finding.remediation ≠ "" then " (remediation: " ++ finding.remediation ++ ")" else "") ++ "\n"

def renderFindings (findings : List Finding) : String :=
  if findings = [] then "CLUSTER FINDINGS: none available (no recent scan, or the last scan was clean).\n"
  else
    "CLUSTER FINDINGS (" ++ severitySummary findings ++ ", most severe first):\n" ++
      Text.concat "" ((shown findings).map (findingLine quote)) ++
      if findings.length > (shown findings).length then
        "...and " ++ toString (findings.length - (shown findings).length) ++ " more lower-severity findings.\n"
      else ""

/-- The state of the cluster is rendered apart and comes after the findings. -/
def renderGroundingPrompt (cluster : String) (findings : List Finding) (live : String) : String :=
  if cluster = "" then role ++ "No specific cluster is selected.\n"
  else role ++ "CLUSTER: " ++ cluster ++ "\n" ++ renderFindings quote findings ++ live

end

/-! The severities that rules have, from the least one. -/

def severities : List String := [severityInfo, severityWarning, severityCritical]

def level (finding : Finding) : Nat := severities.idxOf finding.severity

/-- No finding that is left out is more severe than one that is shown. -/
def KeepsWorst (findings : List Finding) : Prop :=
  ∀ kept ∈ shown findings, ∀ left ∈ leftOut findings, ¬level kept < level left

def AddsUp (findings : List Finding) : Prop := ((summaryParts findings).map Prod.fst).sum = findings.length

def critical (finding : Finding) : Bool := finding.severity = severityCritical

/-- The findings beside the critical ones, and how many of them are shown. -/
def others (findings : List Finding) : List Finding := findings.filter fun finding => !critical finding

def room (findings : List Finding) : Nat := maxGroundingFindings - findings.countP critical

variable {findings : List Finding} {finding : Finding}

theorem product_cases (product : finding.severity ∈ severities) :
    finding.severity = severityInfo ∨ finding.severity = severityWarning ∨ finding.severity = severityCritical := by
  simpa [severities] using product

theorem rank_eq (product : finding.severity ∈ severities) : rank finding = if critical finding then 0 else 4 := by
  unfold rank critical
  rcases product_cases product with info | warning | highest
  · rw [info]
    decide
  · rw [warning]
    decide
  · rw [highest]
    decide

theorem level_eq : (finding.severity = severityInfo → level finding = 0) ∧ (finding.severity = severityWarning → level finding = 1) ∧
    (critical finding = true → level finding = 2) := by
  unfold level critical
  refine ⟨?_, ?_, ?_⟩
  · intro info
    rw [info]
    decide
  · intro warning
    rw [warning]
    decide
  · intro highest
    rw [of_decide_eq_true highest]
    decide

theorem sorted_eq (product : ∀ finding ∈ findings, finding.severity ∈ severities) :
    sorted findings = findings.filter critical ++ others findings := by
  have ranks : ∀ finding ∈ findings, rank finding = 0 ∨ rank finding = 4 := by
    intro finding member
    rw [rank_eq (product finding member)]
    split
    · exact .inl rfl
    · exact .inr rfl
  rw [sorted, stableSort_two (by decide) ranks, others]
  congr 1
  all_goals
    apply List.filter_congr
    intro finding member
    rw [rank_eq (product finding member)]
    cases critical finding <;> rfl

theorem shown_eq (product : ∀ finding ∈ findings, finding.severity ∈ severities) :
    shown findings = (findings.filter critical).take maxGroundingFindings ++ (others findings).take (room findings) := by
  rw [shown, sorted_eq product, List.take_append, room, List.countP_eq_length_filter]

theorem leftOut_eq (product : ∀ finding ∈ findings, finding.severity ∈ severities) :
    leftOut findings = (findings.filter critical).drop maxGroundingFindings ++ (others findings).drop (room findings) := by
  rw [leftOut, sorted_eq product, List.drop_append, room, List.countP_eq_length_filter]

theorem other_cases (product : ∀ finding ∈ findings, finding.severity ∈ severities) (member : finding ∈ others findings) :
    finding.severity = severityInfo ∨ finding.severity = severityWarning := by
  obtain ⟨inside, lesser⟩ := List.mem_filter.mp member
  rcases product_cases (product finding inside) with info | warning | highest
  · exact .inl info
  · exact .inr warning
  · simp [critical, highest] at lesser

/-- The critical findings come first, and the others in the order in which they
were, so that a warning can be left out for an information. -/
theorem keepsWorst_iff (product : ∀ finding ∈ findings, finding.severity ∈ severities) : KeepsWorst findings ↔
    (∀ finding ∈ (others findings).take (room findings), finding.severity ≠ severityInfo) ∨
      ∀ finding ∈ (others findings).drop (room findings), finding.severity ≠ severityWarning := by
  constructor
  · intro keeps
    by_contra mixed
    rw [not_or] at mixed
    push Not at mixed
    obtain ⟨⟨kept, inside, info⟩, left, outside, warning⟩ := mixed
    apply keeps kept (shown_eq product ▸ List.mem_append_right _ inside) left (leftOut_eq product ▸ List.mem_append_right _ outside)
    rw [level_eq.1 info, level_eq.2.1 warning]
    decide
  · intro condition kept inside left outside
    rw [shown_eq product] at inside
    rw [leftOut_eq product] at outside
    have bound : level left ≤ 2 := by
      have member : left ∈ findings := by
        rcases List.mem_append.mp outside with first | second
        · exact List.mem_of_mem_filter (List.mem_of_mem_drop first)
        · exact List.mem_of_mem_filter (List.mem_of_mem_drop second)
      rcases product_cases (product left member) with info | warning | highest
      · rw [level_eq.1 info]
        decide
      · rw [level_eq.2.1 warning]
        decide
      · rw [level_eq.2.2 (decide_eq_true highest)]
    rcases List.mem_append.mp inside with first | lesser
    · have highest := (List.mem_filter.mp (List.mem_of_mem_take first)).2
      rw [level_eq.2.2 highest]
      omega
    rcases List.mem_append.mp outside with first | second
    · -- A critical finding that is left out leaves no room for the others.
      have many := List.length_pos_of_mem first
      rw [List.length_drop, ← List.countP_eq_length_filter] at many
      have none : room findings = 0 := by
        unfold room
        omega
      rw [none, List.take_zero] at lesser
      cases lesser
    · rcases other_cases product (List.mem_of_mem_take lesser) with info | warning
      · rcases other_cases product (List.mem_of_mem_drop second) with leftInfo | leftWarning
        · rw [level_eq.1 leftInfo]
          omega
        · rcases condition with noInfo | noWarning
          · exact absurd info (noInfo kept lesser)
          · exact absurd leftWarning (noWarning left second)
      · rcases other_cases product (List.mem_of_mem_drop second) with leftInfo | leftWarning
        · rw [level_eq.1 leftInfo]
          omega
        · rw [level_eq.2.1 warning, level_eq.2.1 leftWarning]
          omega

theorem counts_eq (product : ∀ finding ∈ findings, finding.severity ∈ severities) :
    counts findings "critical" = findings.countP critical ∧
      ∀ name ∈ ["high", "medium", "low"], counts findings name = 0 := by
  have lower : ∀ finding ∈ findings, (toLower finding.severity = "critical" ↔ critical finding = true) ∧
      ∀ name ∈ ["high", "medium", "low"], toLower finding.severity ≠ name := by
    intro finding member
    unfold critical
    rcases product_cases (product finding member) with info | warning | highest
    · rw [info]
      decide
    · rw [warning]
      decide
    · rw [highest]
      decide
  constructor
  · apply List.countP_congr
    intro finding member
    rw [decide_eq_true_eq]
    exact (lower finding member).1
  · intro name known
    rw [counts, List.countP_eq_zero]
    intro finding member
    rw [decide_eq_true_eq]
    exact (lower finding member).2 name known

theorem summaryParts_eq (product : ∀ finding ∈ findings, finding.severity ∈ severities) : summaryParts findings =
    if findings.countP critical = 0 then [(findings.length, "total")] else [(findings.countP critical, "critical")] := by
  obtain ⟨highest, rest⟩ := counts_eq product
  have high := rest "high" (by decide)
  have medium := rest "medium" (by decide)
  have low := rest "low" (by decide)
  by_cases none : findings.countP critical = 0
  · simp [summaryParts, highest, high, medium, low, none]
  · have positive : 0 < findings.countP critical := by omega
    simp [summaryParts, highest, high, medium, low, none, positive]

theorem addsUp_iff (product : ∀ finding ∈ findings, finding.severity ∈ severities) : AddsUp findings ↔
    (∀ finding ∈ findings, critical finding = false) ∨ ∀ finding ∈ findings, critical finding = true := by
  rw [AddsUp, summaryParts_eq product, ← List.countP_eq_length]
  have never : findings.countP critical = 0 ↔ ∀ finding ∈ findings, critical finding = false := by
    simp [List.countP_eq_zero]
  rw [← never]
  split
  next none => simp [none]
  next some => simp [some]

private def made (name severity : String) : Finding where
  id := name
  scanID := "s"
  ruleID := "r"
  ruleName := "rule"
  severity := severity
  category := "c"
  «namespace» := "shop"
  resourceKind := "Pod"
  resourceName := name
  description := "d"
  remediation := ""
  references := []
  rawObject := ""
  detectedAt := 0
  guidedFixAvailable := false
  guidedFixAction := ""
  guidedFixWarning := ""

/-- Forty notes and then a warning, which is left out. -/
private def noted : List Finding := List.replicate maxGroundingFindings (made "a" severityInfo) ++ [made "b" severityWarning]

end K8Sense.Doctor.Copilot
