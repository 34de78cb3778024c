import K8Sense.Doctor.GuidedFix

/-! The objects that the server creates in a cluster, and what the API server
makes of their creation. -/

namespace K8Sense.Doctor.Api

structure PolicyRule where
  apiGroups : List String
  resources : List String
  verbs : List String
  deriving DecidableEq

inductive Manifest where
  | «namespace»
  | serviceAccount
  | clusterRole (rules : List PolicyRule)
  | clusterRoleBinding (role serviceAccount serviceAccountNamespace : String)
  /-- The ConfigMap of a runbook's run. -/
  | playbook (runbook : String) (extravars : List (String × String))
  /-- The ConfigMap of a vulnerability scan. -/
  | images (names : List String) (namespaces : List (String × List String))
  | job (image : String) (command : List String) (env : List (String × String)) (serviceAccount : String) (ttl : Nat)
  deriving DecidableEq

structure Object where
  «namespace» : String
  name : String
  labels : List (String × String)
  manifest : Manifest
  deriving DecidableEq

/-- The plural of the kind, as error messages have it. -/
def Manifest.resource : Manifest → String
  | .namespace => "namespaces"
  | .serviceAccount => "serviceaccounts"
  | .clusterRole _ => "clusterroles.rbac.authorization.k8s.io"
  | .clusterRoleBinding .. => "clusterrolebindings.rbac.authorization.k8s.io"
  | .playbook .. | .images .. => "configmaps"
  | .job .. => "jobs.batch"

structure Release where
  name : String
  «namespace» : String
  chart : String
  deriving DecidableEq

/-- A cluster: what guided fixes act on, what the server has created, and Helm's
releases. Whether a Job exists is told by the former. -/
structure Kube where
  base : Cluster
  objects : List Object
  releases : List Release

inductive CreateError where
  | alreadyExists (text : String)
  | refused (text : String)
  deriving DecidableEq

def CreateError.text : CreateError → String
  | .alreadyExists text => text
  | .refused text => text

def Kube.holds (kube : Kube) (object : Object) : Bool :=
  match object.manifest with
  | .job .. => kube.base.jobs (object.namespace, object.name)
  | manifest => kube.objects.any fun other =>
      other.manifest.resource = manifest.resource && other.namespace = object.namespace && other.name = object.name

def Kube.add (object : Object) (kube : Kube) : Kube where
  base := match object.manifest with
    | .job .. => { kube.base with jobs := Function.update kube.base.jobs (object.namespace, object.name) true }
    | _ => kube.base
  objects := kube.objects ++ [object]
  releases := kube.releases

section
variable (refuses : Object → Option String)

/-- A creation that the API server does not refuse for a reason of its own. -/
def create (object : Object) (kube : Kube) : Kube × Option CreateError :=
  match refuses object with
  | some err => (kube, some (.refused err))
  | none =>
    if kube.holds object then
      (kube, some (.alreadyExists (object.manifest.resource ++ " \"" ++ object.name ++ "\" already exists")))
    else (kube.add object, none)

def createIgnoreExists (object : Object) (kube : Kube) : Kube × Option String :=
  match create refuses object kube with
  | (next, some (.refused err)) => (next, some err)
  | (next, _) => (next, none)

/-- One creation after another, up to the first that is refused. -/
def createAll : List Object → Kube → Kube × Option String
  | [], kube => (kube, none)
  | object :: rest, kube =>
    match createIgnoreExists refuses object kube with
    | (next, some err) => (next, some err)
    | (next, none) => createAll rest next

/-- Every object is there already, up to one that is refused. -/
def Settled (kube : Kube) : List Object → Prop
  | [] => True
  | object :: rest => (refuses object).isSome = true ∨ kube.holds object = true ∧ Settled kube rest

end

variable {refuses : Object → Option String}

theorem add_ne (object : Object) (kube : Kube) : kube.add object ≠ kube := by
  intro same
  have longer : kube.objects ++ [object] = kube.objects := congrArg Kube.objects same
  simpa using congrArg List.length longer

theorem create_unchanged {object : Object} {kube : Kube} :
    (create refuses object kube).1 = kube ↔ (refuses object).isSome = true ∨ kube.holds object = true := by
  unfold create
  cases refuses object with
  | some err => simp
  | none =>
    by_cases held : kube.holds object = true
    · simp [held]
    · simp [held, add_ne]

theorem create_failed {object : Object} {kube : Kube} {err : CreateError}
    (failed : (create refuses object kube).2 = some err) : (create refuses object kube).1 = kube := by
  unfold create at *
  split
  next => rfl
  next free =>
    split
    next => rfl
    next absent => simp [free, absent] at failed

theorem create_grows (refuses : Object → Option String) (object : Object) (kube : Kube) :
    kube.objects.length ≤ (create refuses object kube).1.objects.length := by
  unfold create
  split
  next => exact Nat.le_refl _
  next =>
    split
    next => exact Nat.le_refl _
    next => simp [Kube.add]

theorem create_done {object : Object} {kube : Kube} (done : (create refuses object kube).2 = none) :
    (refuses object).isSome = false ∧ kube.holds object = false ∧
      kube.objects.length < (create refuses object kube).1.objects.length := by
  unfold create at *
  split at done
  next => cases done
  next free =>
    split at done
    next => cases done
    next absent => simp [free, absent, Kube.add]

theorem createIgnoreExists_fst (object : Object) (kube : Kube) :
    (createIgnoreExists refuses object kube).1 = (create refuses object kube).1 := by
  unfold createIgnoreExists
  split <;> simp_all

theorem createAll_grows (refuses : Object → Option String) (objects : List Object) (kube : Kube) :
    kube.objects.length ≤ (createAll refuses objects kube).1.objects.length := by
  induction objects generalizing kube with
  | nil => exact Nat.le_refl _
  | cons object rest ih =>
    have first : kube.objects.length ≤ (createIgnoreExists refuses object kube).1.objects.length := by
      rw [createIgnoreExists_fst]
      exact create_grows refuses object kube
    unfold createAll
    cases made : createIgnoreExists refuses object kube with
    | mk next err =>
      rw [made] at first
      cases err with
      | some err => exact first
      | none => exact Nat.le_trans first (ih next)

theorem createAll_unchanged {objects : List Object} {kube : Kube} :
    (createAll refuses objects kube).1 = kube ↔ Settled refuses kube objects := by
  induction objects with
  | nil => exact ⟨fun _ => trivial, fun _ => rfl⟩
  | cons object rest ih =>
    unfold createAll createIgnoreExists create Settled
    cases refused : refuses object with
    | some err => simp
    | none =>
      by_cases held : kube.holds object = true
      · simpa [held] using ih
      · -- The new object stays in the list whatever comes after it.
        have grown := createAll_grows refuses rest (kube.add object)
        have changed : (createAll refuses rest (kube.add object)).1 ≠ kube := by
          intro same
          rw [same] at grown
          simp only [Kube.add, List.length_append, List.length_singleton] at grown
          omega
        simpa [held] using changed

end K8Sense.Doctor.Api
