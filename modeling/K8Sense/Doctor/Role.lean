/-! Roles, from reading only to managing everything. -/

namespace K8Sense.Doctor

/-- A role is stored as a string, so a name that no role has may occur. -/
inductive Role where
  | viewer
  | operator
  | admin
  | unknown (name : String)
  deriving DecidableEq

def roleRank : Role → Option Nat
  | .viewer => some 0
  | .operator => some 1
  | .admin => some 2
  | .unknown _ => none

def Role.valid (role : Role) : Bool := (roleRank role).isSome

def Role.atLeast (role required : Role) : Bool :=
  match roleRank role, roleRank required with
  | some held, some need => need ≤ held
  | _, _ => false

def defaultRole : Role := .admin

theorem Role.atLeast_trans {first second third : Role} (upper : first.atLeast second = true)
    (lower : second.atLeast third = true) : first.atLeast third = true := by
  unfold Role.atLeast at *
  cases high : roleRank first <;> cases middle : roleRank second <;> cases low : roleRank third <;>
    simp only [high, middle, low, decide_eq_true_eq, Bool.false_eq_true] at *
  omega

end K8Sense.Doctor
