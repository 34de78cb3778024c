import Mathlib.Algebra.Ring.Nat
import K8Sense.Doctor.AuditTrail

/-! What the audit middleware leaves of the body of a request, which it reads to find
the cluster. -/

namespace K8Sense.Doctor.BodyPeek
open Api

def maxAuditBodyPeek : Nat := 2 ^ 20

def auditPlatformScope : String := "platform"

/-- The bytes that a body gives, and the error with which it ends if it does not end
well. -/
structure Body where
  bytes : List UInt8
  failure : Option String
  deriving DecidableEq

@[ext] structure HttpRequest where
  method : String
  path : String
  queryCluster : String
  actor : String
  body : Option Body
  deriving DecidableEq

structure PlatformEntry where
  actor : String
  action : String
  clusterID : String
  result : String
  error : String
  deriving DecidableEq

/-- `io.ReadAll` of a limited reader, and what is left of the body. At the limit the
reader ends without asking for more. -/
def readLimited (limit : Nat) (body : Body) : Except String (List UInt8) × Body :=
  if limit ≤ body.bytes.length then (.ok (body.bytes.take limit), ⟨body.bytes.drop limit, body.failure⟩)
  else match body.failure with
    | none => (.ok body.bytes, ⟨[], none⟩)
    | some err => (.error err, ⟨[], some err⟩)

section
-- The cluster that a body names, if it is JSON.
variable (unmarshalCluster : List UInt8 → Option String)

/-- The cluster, and the request with the body as it is now. -/
def clusterFromRequest (r : HttpRequest) : String × HttpRequest :=
  if r.queryCluster ≠ "" then (r.queryCluster, r)
  else match r.body with
    | none => (auditPlatformScope, r)
    | some body =>
      match readLimited maxAuditBodyPeek body with
      | (.error _, rest) => (auditPlatformScope, { r with body := some rest })
      | (.ok bytes, _) =>
        let restored := { r with body := some ⟨bytes, none⟩ }
        match unmarshalCluster bytes with
        | some cluster => (if cluster ≠ "" then cluster else auditPlatformScope, restored)
        | none => (auditPlatformScope, restored)

def shouldAudit (r : HttpRequest) : Bool := shouldAuditPath r.method r.path

def auditActionName (r : HttpRequest) : String := r.method ++ " /" ++ Text.trimPrefix "/cluster-doctor/" r.path

/-- The handler is a function of the request, and its answer has a status. -/
def auditMiddleware {α : Type} (status : α → Nat) (next : HttpRequest → α) (r : HttpRequest) : α × Option PlatformEntry :=
  if !shouldAudit r then (next r, none)
  else
    let (cluster, r) := clusterFromRequest unmarshalCluster r
    let answer := next r
    let (result, errMsg) := if status answer ≥ 400 then ("failed", "http " ++ toString (status answer)) else ("success", "")
    (answer, some ⟨r.actor, auditActionName r, cluster, result, errMsg⟩)

end

/-- Every handler answers as it does without the middleware. -/
def Transparent (unmarshalCluster : List UInt8 → Option String) (r : HttpRequest) : Prop :=
  ∀ (α : Type) (status : α → Nat) (next : HttpRequest → α), (auditMiddleware unmarshalCluster status next r).1 = next r

/-- Nothing of the body is lost by reading it up to the limit. -/
def Body.Kept (body : Body) : Prop :=
  match body.failure with
  | none => body.bytes.length ≤ maxAuditBodyPeek
  | some _ => body.bytes = []

variable {unmarshalCluster : List UInt8 → Option String} {r : HttpRequest}

theorem auditMiddleware_fst {α : Type} (status : α → Nat) (next : HttpRequest → α) : (auditMiddleware unmarshalCluster status next r).1 =
    next (if shouldAudit r then (clusterFromRequest unmarshalCluster r).2 else r) := by
  unfold auditMiddleware
  cases shouldAudit r <;> rfl

theorem transparent_iff_same : Transparent unmarshalCluster r ↔
    (shouldAudit r = true → (clusterFromRequest unmarshalCluster r).2 = r) := by
  constructor
  · intro transparent audited
    have same := transparent HttpRequest (fun _ => 200) id
    rwa [auditMiddleware_fst, if_pos audited] at same
  · intro same α status next
    rw [auditMiddleware_fst]
    split
    next audited => rw [same audited]
    next => rfl

/-- The body that the handler gets after it has been read. -/
def Body.peeked (body : Body) : Body :=
  if body.bytes.length < maxAuditBodyPeek ∧ body.failure ≠ none then ⟨[], body.failure⟩
  else ⟨body.bytes.take maxAuditBodyPeek, none⟩

theorem clusterFromRequest_body {body : Body} (absent : r.queryCluster = "") (present : r.body = some body) :
    (clusterFromRequest unmarshalCluster r).2 = { r with body := some body.peeked } := by
  unfold clusterFromRequest Body.peeked readLimited
  rw [if_neg (not_not.mpr absent), present]
  dsimp only
  by_cases long : maxAuditBodyPeek ≤ body.bytes.length
  · rw [if_pos long, if_neg (by omega)]
    dsimp only
    split <;> rfl
  · rw [if_neg long]
    cases failed : body.failure with
    | none =>
      rw [if_neg (by simp), List.take_of_length_le (by omega)]
      dsimp only
      split <;> rfl
    | some err => rw [if_pos ⟨by omega, by simp⟩]

theorem peeked_iff {body : Body} : body.peeked = body ↔ body.Kept := by
  obtain ⟨bytes, failure⟩ := body
  unfold Body.peeked Body.Kept
  cases failure with
  | none => simp [List.take_eq_self_iff]
  | some err =>
    dsimp only
    split
    next => simp [eq_comm]
    next long =>
      have many : bytes ≠ [] := by
        rintro rfl
        exact long ⟨by decide, by simp⟩
      simp [many]

/-- The handler behind the middleware reads what the client has sent exactly when the
request is not audited, names its cluster in the query, has no body, or has a body
that is kept. -/
theorem transparent_iff : Transparent unmarshalCluster r ↔
    shouldAudit r = false ∨ r.queryCluster ≠ "" ∨ ∀ body, r.body = some body → body.Kept := by
  rw [transparent_iff_same]
  by_cases audited : shouldAudit r = true
  · by_cases named : r.queryCluster = ""
    · cases present : r.body with
      | none => simp [clusterFromRequest, named, present]
      | some body =>
        have same : (clusterFromRequest unmarshalCluster r).2 = r ↔ body.Kept := by
          rw [clusterFromRequest_body named present, ← peeked_iff, HttpRequest.ext_iff]
          simp [present]
        simp [audited, named, same]
    · simp [clusterFromRequest, named]
  · simp [audited]

/-- A scan request with a body of 2^20 bytes and one more. -/
private def long : HttpRequest := ⟨"POST", "/cluster-doctor/scan", "", "alice", some ⟨List.replicate (maxAuditBodyPeek + 1) 32, none⟩⟩

theorem long_body_cut : ¬∀ unmarshalCluster r, Transparent unmarshalCluster r := by
  intro all
  have same := transparent_iff_same.mp (all (fun _ => none) long) (by decide)
  rw [clusterFromRequest_body rfl rfl] at same
  have kept := peeked_iff.mp (Option.some.inj (congrArg HttpRequest.body same))
  have bound : (List.replicate (maxAuditBodyPeek + 1) (32 : UInt8)).length ≤ maxAuditBodyPeek := kept
  rw [List.length_replicate] at bound
  omega

end K8Sense.Doctor.BodyPeek
