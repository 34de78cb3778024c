/-! What the handlers answer. -/

namespace K8Sense.Doctor

structure Response where
  status : Nat
  body : String
  deriving DecidableEq

def errorResponse (status : Nat) (text : String) : Response := ⟨status, "\x7b\"error\": \"" ++ text ++ "\"\x7d"⟩

/-- The same without a space. -/
def jsonError (status : Nat) (text : String) : Response := ⟨status, "\x7b\"error\":\"" ++ text ++ "\"\x7d"⟩

def codedError (status : Nat) (text code : String) : Response :=
  ⟨status, "\x7b\"error\":\"" ++ text ++ "\",\"code\":\"" ++ code ++ "\"\x7d"⟩

/-- From `requirePaid`. -/
def upgradeRequired : Response := codedError 402 "This feature requires a Pro licence" "upgrade_required"

/-- From `requireRole`. -/
def roleForbidden : Response := codedError 403 "Your K8sense role does not permit this action" "role_forbidden"

@[simp] theorem jsonError_status (status : Nat) (text : String) : (jsonError status text).status = status := rfl

@[simp] theorem errorResponse_status (status : Nat) (text : String) : (errorResponse status text).status = status := rfl

end K8Sense.Doctor
