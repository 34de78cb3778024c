/-! Rules and findings of the health scanner. -/

namespace K8Sense.Doctor

def severityInfo : String := "INFO"

def severityWarning : String := "WARNING"

def severityCritical : String := "CRITICAL"

structure GuidedFix where
  action : String
  warning : String
  deriving DecidableEq

structure Rule where
  id : String
  name : String
  severity : String
  category : String
  checkFn : String
  description : String
  remediation : String
  guidedFix : GuidedFix
  references : List String
  enabled : Bool
  deriving DecidableEq

structure RawFinding where
  «namespace» : String
  resourceKind : String
  resourceName : String
  rawObject : String
  deriving DecidableEq

structure Finding where
  id : String
  scanID : String
  ruleID : String
  ruleName : String
  severity : String
  category : String
  «namespace» : String
  resourceKind : String
  resourceName : String
  description : String
  remediation : String
  references : List String
  rawObject : String
  detectedAt : Nat
  guidedFixAvailable : Bool
  guidedFixAction : String
  guidedFixWarning : String
  deriving DecidableEq

inductive ScanStatus where
  | scanRunning
  | scanCompleted
  | scanFailed
  | scanPartial
  deriving DecidableEq

structure ScanResult where
  id : String
  cluster : String
  startedAt : Nat
  completedAt : Nat
  status : ScanStatus
  findings : List Finding
  skippedChecks : Nat
  errorMessage : String
  deriving DecidableEq

end K8Sense.Doctor
