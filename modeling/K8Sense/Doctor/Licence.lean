/-! The licence file: signed, verified offline against a bundled key, and
honoured for a while after it has expired. -/

namespace K8Sense.Doctor.Licence

inductive Tier where
  | free
  | pro
  | enterprise
  | other (name : String)
  deriving DecidableEq

structure Payload where
  customerID : String
  customerName : String
  tier : Tier
  maxClusters : Int
  seatCount : Int
  issuedAt : String
  expiresAt : String
  isTrial : Bool
  deriving DecidableEq

structure File where
  payload : Payload
  signature : String
  deriving DecidableEq

/-- What the server knows of its licence. -/
structure Info where
  tier : Tier
  customerName : String
  maxClusters : Int
  seatCount : Int
  expiresAt : String
  isTrial : Bool
  valid : Bool
  inGrace : Bool
  message : String
  deriving DecidableEq

/-- JSON, base64, signatures and the clock. Days are counted from a fixed one. -/
structure Tools where
  unmarshal : String → Option File
  marshal : File → String
  decodes : String → Bool
  verifies : (trial : Bool) → Payload → (signature : String) → Bool
  signTrial : Payload → String
  parseDate : String → Option Int
  formatDate : Int → String
  today : Int
  machineFingerprint : String
  readable : Bool

def freeInfo (message : String) : Info := ⟨.free, "", 1, 1, "", false, false, false, message⟩

def graceDays : Int := 14

def trialDays : Int := 14

section
variable (tools : Tools)

def parseFile (data : String) : Except String File :=
  match tools.unmarshal data with
  | none => .error "licence file is not valid JSON"
  | some file => if file.signature = "" then .error "licence file has no signature" else .ok file

/-- A licence is good through the day on which it expires. -/
def evaluateExpiry (file : Payload) : Except String Info :=
  match tools.parseDate file.expiresAt with
  | none => .error "licence expiry date is invalid"
  | some expires =>
    let info : Info := ⟨file.tier, file.customerName, file.maxClusters, file.seatCount, file.expiresAt, file.isTrial,
      true, false, ""⟩
    if tools.today < expires + 1 then .ok info
    else if tools.today < expires + graceDays then
      .ok { info with
        inGrace := true
        message := "Licence expired on " ++ file.expiresAt ++ " — " ++ toString graceDays ++ "-day grace period active" }
    else .ok { freeInfo ("Licence expired on " ++ file.expiresAt ++ "; grace period ended") with
      customerName := file.customerName }

def verify (data : String) : Except String Info :=
  match parseFile tools data with
  | .error err => .error err
  | .ok file =>
    if !tools.decodes file.signature then .error "licence signature is malformed"
    else if !tools.verifies file.payload.isTrial file.payload file.signature then
      .error "licence signature does not verify"
    else evaluateExpiry tools file.payload

/-- A missing file is no error. -/
def validate (file : Option String) : Info :=
  match file with
  | none => freeInfo ""
  | some data =>
    if !tools.readable then freeInfo "Could not read licence file"
    else match verify tools data with
    | .error err => freeInfo err
    | .ok info => info

def trialPayload : Payload where
  customerID := "trial-" ++ tools.machineFingerprint
  customerName := "Trial"
  tier := .pro
  maxClusters := 20
  seatCount := 1
  issuedAt := tools.formatDate tools.today
  expiresAt := tools.formatDate (tools.today + trialDays)
  isTrial := true

def trialFile : String :=
  tools.marshal ⟨trialPayload tools, tools.signTrial (trialPayload tools)⟩

/-- The file that is written, if it can be, and what it verifies as. -/
def generateTrial (write : Option String) : Option String × Except String Info :=
  match write with
  | some err => (none, .error ("writing trial licence: " ++ err))
  | none => (some (trialFile tools), verify tools (trialFile tools))

end

variable {tools : Tools}

theorem evaluateExpiry_valid {payload : Payload} {info : Info} (evaluated : evaluateExpiry tools payload = .ok info)
    (valid : info.valid = true) : ∃ expires, tools.parseDate payload.expiresAt = some expires ∧
      tools.today < expires + graceDays ∧ info.tier = payload.tier := by
  unfold evaluateExpiry at evaluated
  split at evaluated
  next => cases evaluated
  next expires dated =>
    refine ⟨expires, dated, ?_⟩
    unfold graceDays at *
    split at evaluated
    next current =>
      cases evaluated
      exact ⟨by omega, rfl⟩
    next =>
      split at evaluated
      next grace =>
        cases evaluated
        exact ⟨grace, rfl⟩
      next =>
        cases evaluated
        cases valid

end K8Sense.Doctor.Licence
