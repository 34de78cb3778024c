import K8Sense.Library.Recency
import K8Sense.Doctor.Finding

/-! The scans and findings tables: saving the result of a scan, listing the scans
of a cluster and reading the findings of one. -/

namespace K8Sense.Doctor
open Recency

/-- Times are in nanoseconds and stored in seconds. -/
def unix (time : Nat) : Nat := time / 1000000000

def unixToTime (seconds : Nat) : Nat := seconds * 1000000000

structure ScanSummary where
  id : String
  clusterID : String
  startedAt : Nat
  completedAt : Option Nat
  status : ScanStatus
  totalFindings : Nat
  criticalCount : Nat
  warningCount : Nat
  infoCount : Nat
  skippedChecks : Nat
  errorMessage : Option String
deriving DecidableEq

structure FindingRow where
  id : String
  scanID : String
  ruleID : String
  ruleName : String
  severity : String
  category : String
  «namespace» : Option String
  resourceKind : String
  resourceName : String
  description : String
  remediation : String
  rawObject : Option String
  detectedAt : Nat
deriving DecidableEq

structure Store where
  scans : List ScanSummary
  findings : List FindingRow

def nullIfEmpty (text : String) : Option String := if text = "" then none else some text

def countSeverity (severity : String) (findings : List Finding) : Nat :=
  findings.countP fun finding => finding.severity = severity

def scanRow (result : ScanResult) : ScanSummary where
  id := result.id
  clusterID := result.cluster
  startedAt := unix result.startedAt
  completedAt := if result.completedAt = 0 then none else some (unix result.completedAt)
  status := result.status
  totalFindings := result.findings.length
  criticalCount := countSeverity severityCritical result.findings
  warningCount := countSeverity severityWarning result.findings
  infoCount := countSeverity severityInfo result.findings
  skippedChecks := result.skippedChecks
  errorMessage := nullIfEmpty result.errorMessage

def findingRow (finding : Finding) : FindingRow where
  id := finding.id
  scanID := finding.scanID
  ruleID := finding.ruleID
  ruleName := finding.ruleName
  severity := finding.severity
  category := finding.category
  «namespace» := nullIfEmpty finding.namespace
  resourceKind := finding.resourceKind
  resourceName := finding.resourceName
  description := finding.description
  remediation := finding.remediation
  rawObject := nullIfEmpty finding.rawObject
  detectedAt := unix finding.detectedAt

/-- The columns of a row. What they do not hold is left zero. -/
def restore (row : FindingRow) : Finding where
  id := row.id
  scanID := row.scanID
  ruleID := row.ruleID
  ruleName := row.ruleName
  severity := row.severity
  category := row.category
  «namespace» := row.namespace.getD ""
  resourceKind := row.resourceKind
  resourceName := row.resourceName
  description := row.description
  remediation := row.remediation
  references := []
  rawObject := row.rawObject.getD ""
  detectedAt := unixToTime row.detectedAt
  guidedFixAvailable := false
  guidedFixAction := ""
  guidedFixWarning := ""

/-- An id that is inserted is in its table already. -/
def conflicts (result : ScanResult) (store : Store) : Bool :=
  store.scans.any (fun row => row.id = result.id) ||
    !decide ((store.findings.map FindingRow.id ++ result.findings.map Finding.id).Nodup)

/-- One transaction, undone if the database fails in it. -/
def saveScan (works : Bool) (result : ScanResult) (store : Store) : Store :=
  if !works || conflicts result store then store
  else ⟨store.scans ++ [scanRow result], store.findings ++ result.findings.map findingRow⟩

def severityOrder (severity : String) : Nat :=
  if severity = severityCritical then 0 else if severity = severityWarning then 1 else 2

/-- By severity, category and resource. -/
def ordered (first second : Finding) : Bool :=
  severityOrder first.severity < severityOrder second.severity ||
    severityOrder first.severity = severityOrder second.severity &&
      (first.category < second.category ||
        first.category = second.category && first.resourceName ≤ second.resourceName)

def getFindings (store : Store) (scanID : String) : List Finding :=
  ((store.findings.filter fun row => row.scanID = scanID).map restore).mergeSort ordered

def listScans (store : Store) (clusterID : String) (limit : Nat) : List ScanSummary :=
  (newestFirst ScanSummary.startedAt (store.scans.filter fun row => row.clusterID = clusterID)).take limit

theorem nullIfEmpty_getD (text : String) : (nullIfEmpty text).getD "" = text := by
  unfold nullIfEmpty
  split
  next empty => simp [empty]
  next => rfl

theorem mem_getFindings {store : Store} {scanID : String} {finding : Finding} : finding ∈ getFindings store scanID ↔
    ∃ row ∈ store.findings, row.scanID = scanID ∧ restore row = finding := by
  simp [getFindings, and_assoc]

end K8Sense.Doctor
