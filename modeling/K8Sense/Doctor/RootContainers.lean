import K8Sense.Doctor.Compliance

/-! Which pods may run as root. Two checks look for them, one of the scanner and
one of the benchmark; both are compared with the security context that is in
force for each container, its own settings before those of its pod. -/

namespace K8Sense.Doctor.Compliance

structure PodSecurityContext where
  runAsNonRoot : Option Bool := none
  runAsUser : Option Int := none
deriving DecidableEq

/-- A pod with what the scanner's check looks at as well. -/
structure SecuredPod extends Pod where
  securityContext : Option PodSecurityContext := none
deriving DecidableEq

section
variable (pod : SecuredPod) (container : Container)

def ownUser : Option Int := container.securityContext.bind SecurityContext.runAsUser

def ownNonRoot : Option Bool := container.securityContext.bind SecurityContext.runAsNonRoot

def podUser : Option Int := pod.securityContext.bind PodSecurityContext.runAsUser

def podNonRoot : Option Bool := pod.securityContext.bind PodSecurityContext.runAsNonRoot

/-- The loop body: a user of the container's own decides before the rest is looked
at, and a user of the pod other than root not at all. -/
def containerRunsAsRoot : Bool :=
  match ownUser container with
  | some user => user = 0
  | none => ownNonRoot container ≠ some true && podNonRoot pod ≠ some true

/-- `runsAsRoot` of the scanner's checks. Init containers are not looked at. -/
def podRunsAsRoot : Bool := podUser pod = some 0 || pod.containers.any (containerRunsAsRoot pod)

/-- The control of the benchmark for root containers. -/
def rootContainers : CisControl :=
  podControl "CIS-5.2.6" "Minimize the admission of root containers" runsAsRoot
    "does not enforce runAsNonRoot (may run as root)"

def controlFlags : Bool := !(rootContainers.check ⟨[pod.toPod], [], [], [], []⟩).isEmpty

/-- The settings in force, field by field. -/
def effectiveUser : Option Int := (ownUser container).or (podUser pod)

def effectiveNonRoot : Option Bool := (ownNonRoot container).or (podNonRoot pod)

/-- The container may run as root: as user 0, or with neither another user nor a
promise not to. -/
def PermitsRoot : Prop :=
  effectiveUser pod container = some 0 ∨
    effectiveUser pod container = none ∧ effectiveNonRoot pod container ≠ some true

instance : Decidable (PermitsRoot pod container) := by unfold PermitsRoot; infer_instance

end

/-- A pod of a system namespace is left out by the control. -/
def Workload (pod : SecuredPod) : Prop := pod.namespace ∉ complianceSystemNS

/-- Both checks find exactly the pods with a container that may run as root. -/
structure Judged (pod : SecuredPod) : Prop where
  check : podRunsAsRoot pod = true ↔ ∃ container ∈ podContainers pod.toPod, PermitsRoot pod container
  control : Workload pod →
    (controlFlags pod = true ↔ ∃ container ∈ podContainers pod.toPod, PermitsRoot pod container)

theorem controlFlags_iff {pod : SecuredPod} (work : Workload pod) :
    controlFlags pod = true ↔ ∃ container ∈ podContainers pod.toPod, ownNonRoot container ≠ some true ∨ ownUser container = some 0 := by
  have looked : ComplianceData.workloadPods ⟨[pod.toPod], [], [], [], []⟩ = [pod.toPod] := by
    simp only [ComplianceData.workloadPods, List.filter_cons, List.filter_nil]
    rw [if_pos (by simpa [Workload] using work)]
  have bad (container : Container) :
      runsAsRoot container = true ↔ ownNonRoot container ≠ some true ∨ ownUser container = some 0 := by
    cases found : container.securityContext <;> simp [runsAsRoot, ownNonRoot, ownUser, found]
  simp only [controlFlags, rootContainers, podControl, looked, List.filterMap_cons, List.filterMap_nil]
  cases found : (podContainers pod.toPod).find? runsAsRoot with
  | none =>
    simp only [Option.map_none, List.isEmpty_nil, Bool.not_true, Bool.false_eq_true, false_iff, not_exists, not_and]
    intro container member flagged
    exact List.find?_eq_none.mp found container member ((bad container).mpr flagged)
  | some container =>
    simp only [Option.map_some, List.isEmpty_cons, Bool.not_false, true_iff]
    exact ⟨container, List.mem_of_find?_eq_some found, (bad container).mp (List.find?_some found)⟩

/-! The pods that a check gets wrong, by what it overlooks. -/

section
variable (pod : SecuredPod)

/-- The pod's root user is replaced in each container, and the pod is found all
the same. -/
def Overruled : Prop :=
  podUser pod = some 0 ∧ ∀ container ∈ podContainers pod.toPod, ∃ user, user ≠ 0 ∧ ownUser container = some user

/-- Another user of the pod than root is in force, and the pod is found all the
same. -/
def UserIgnored : Prop :=
  (∃ user, user ≠ 0 ∧ podUser pod = some user) ∧ podNonRoot pod ≠ some true ∧
    (∃ container ∈ pod.containers, ownUser container = none ∧ ownNonRoot container ≠ some true) ∧
    ∀ container ∈ podContainers pod.toPod, ownUser container ≠ some 0

/-- Nothing that is looked at may run as root, but an init container may, or a
container that takes back the promise of its pod. -/
def Missed : Prop :=
  podUser pod ≠ some 0 ∧
    (∀ container ∈ pod.containers, ownUser container ≠ some 0 ∧
      (ownUser container = none → ownNonRoot container = some true ∨ podNonRoot pod = some true)) ∧
    ((∃ container ∈ pod.initContainers, ownUser container = some 0) ∨
      podUser pod = none ∧ ∃ container ∈ podContainers pod.toPod, ownUser container = none ∧
        (ownNonRoot container = some false ∨ ownNonRoot container = none ∧ podNonRoot pod ≠ some true))

/-- A user, or the promise of the pod, keeps every container from root, and the
control reports one that does not promise it itself. -/
def Sheltered : Prop :=
  (∃ container ∈ podContainers pod.toPod, ownNonRoot container ≠ some true) ∧
    ∀ container ∈ podContainers pod.toPod, ownUser container ≠ some 0 ∧
      (ownUser container = none → podUser pod ≠ some 0 ∧
        (podUser pod = none → ownNonRoot container = some true ∨ ownNonRoot container = none ∧ podNonRoot pod = some true))

/-- Every container promises not to be root, and one has the root user of its pod. -/
def Contradicted : Prop :=
  podUser pod = some 0 ∧ (∃ container ∈ podContainers pod.toPod, ownUser container = none) ∧
    ∀ container ∈ podContainers pod.toPod, ownNonRoot container = some true ∧ ownUser container ≠ some 0

end

section
variable {pod : SecuredPod}

theorem permitsRoot_iff {container : Container} : PermitsRoot pod container ↔
    ownUser container = some 0 ∨ ownUser container = none ∧ (podUser pod = some 0 ∨ podUser pod = none ∧
      (ownNonRoot container = some false ∨ ownNonRoot container = none ∧ podNonRoot pod ≠ some true)) := by
  unfold PermitsRoot effectiveUser effectiveNonRoot
  cases ownUser container with
  | some user => simp
  | none =>
    cases podUser pod with
    | some user => simp
    | none =>
      cases ownNonRoot container with
      | none => simp
      | some promised => cases promised <;> simp

theorem not_permitsRoot {container : Container} : ¬PermitsRoot pod container ↔
    ownUser container ≠ some 0 ∧ (ownUser container = none → podUser pod ≠ some 0 ∧
      (podUser pod = none → ownNonRoot container = some true ∨ ownNonRoot container = none ∧ podNonRoot pod = some true)) := by
  rw [permitsRoot_iff]
  cases ownNonRoot container with
  | none => simp
  | some promised => cases promised <;> simp

theorem containerRunsAsRoot_iff {container : Container} : containerRunsAsRoot pod container = true ↔
    ownUser container = some 0 ∨
      ownUser container = none ∧ ownNonRoot container ≠ some true ∧ podNonRoot pod ≠ some true := by
  unfold containerRunsAsRoot
  cases ownUser container <;> simp

theorem podRunsAsRoot_iff : podRunsAsRoot pod = true ↔
    podUser pod = some 0 ∨ ∃ container ∈ pod.containers, ownUser container = some 0 ∨
      ownUser container = none ∧ ownNonRoot container ≠ some true ∧ podNonRoot pod ≠ some true := by
  simp only [podRunsAsRoot, Bool.or_eq_true, decide_eq_true_eq, List.any_eq_true, containerRunsAsRoot_iff]

theorem mem_podContainers {container : Container} :
    container ∈ podContainers pod.toPod ↔ container ∈ pod.initContainers ∨ container ∈ pod.containers :=
  List.mem_append

/-- The scanner finds a pod too many exactly when it overlooks that a user is
replaced, or that there is one. -/
theorem found_wrongly : podRunsAsRoot pod = true ∧ (∀ container ∈ podContainers pod.toPod, ¬PermitsRoot pod container) ↔
    Overruled pod ∨ UserIgnored pod := by
  simp only [podRunsAsRoot_iff, not_permitsRoot, Overruled, UserIgnored]
  constructor
  · rintro ⟨found, kept⟩
    cases user : podUser pod with
    | none =>
      rw [user] at found
      obtain ⟨container, member, root | ⟨unset, free, unpromised⟩⟩ := found.resolve_left (by simp)
      · exact absurd root (kept container (mem_podContainers.mpr (Or.inr member))).1
      · rcases ((kept container (mem_podContainers.mpr (Or.inr member))).2 unset).2 user with promised | inherited
        · exact absurd promised free
        · exact absurd inherited.2 unpromised
    | some number =>
      by_cases root : number = 0
      · subst root
        refine Or.inl ⟨rfl, fun container member => ?_⟩
        cases own : ownUser container with
        | none => exact absurd user ((kept container member).2 own).1
        | some other =>
          refine ⟨other, ?_, rfl⟩
          rintro rfl
          exact (kept container member).1 own
      · rw [user] at found
        obtain ⟨container, member, root | ⟨unset, free, unpromised⟩⟩ := found.resolve_left (by simpa using root)
        · exact absurd root (kept container (mem_podContainers.mpr (Or.inr member))).1
        · exact Or.inr ⟨⟨number, root, rfl⟩, unpromised, ⟨container, member, unset, free⟩,
            fun other inside => (kept other inside).1⟩
  · rintro (⟨user, replaced⟩ | ⟨⟨number, other, user⟩, unpromised, ⟨container, member, unset, free⟩, owned⟩)
    · refine ⟨Or.inl user, fun container member => ?_⟩
      obtain ⟨number, other, own⟩ := replaced container member
      simp [own, other]
    · refine ⟨Or.inr ⟨container, member, Or.inr ⟨unset, free, unpromised⟩⟩, fun container member => ⟨owned container member, ?_⟩⟩
      simp [user, other]

theorem found_missing : podRunsAsRoot pod = false ∧ (∃ container ∈ podContainers pod.toPod, PermitsRoot pod container) ↔
    Missed pod := by
  rw [← Bool.not_eq_true, podRunsAsRoot_iff, not_or]
  simp only [permitsRoot_iff, Missed]
  have unfound : (¬∃ container ∈ pod.containers, ownUser container = some 0 ∨
        ownUser container = none ∧ ownNonRoot container ≠ some true ∧ podNonRoot pod ≠ some true) ↔
      ∀ container ∈ pod.containers, ownUser container ≠ some 0 ∧
        (ownUser container = none → ownNonRoot container = some true ∨ podNonRoot pod = some true) := by grind
  rw [unfound, and_assoc]
  refine and_congr_right fun other => and_congr_right fun clear => ?_
  constructor
  · rintro ⟨container, member, root | ⟨unset, root | ⟨user, free⟩⟩⟩
    · rcases mem_podContainers.mp member with early | regular
      · exact Or.inl ⟨container, early, root⟩
      · exact absurd root (clear container regular).1
    · exact absurd root other
    · exact Or.inr ⟨user, container, member, unset, free⟩
  · rintro (⟨container, early, root⟩ | ⟨user, container, member, unset, free⟩)
    · exact ⟨container, mem_podContainers.mpr (Or.inl early), Or.inl root⟩
    · exact ⟨container, member, Or.inr ⟨unset, Or.inr ⟨user, free⟩⟩⟩

theorem reported_wrongly :
    (∃ container ∈ podContainers pod.toPod, ownNonRoot container ≠ some true ∨ ownUser container = some 0) ∧
      (∀ container ∈ podContainers pod.toPod, ¬PermitsRoot pod container) ↔ Sheltered pod := by
  simp only [not_permitsRoot, Sheltered]
  constructor
  · rintro ⟨⟨container, member, unpromised | root⟩, kept⟩
    · exact ⟨⟨container, member, unpromised⟩, kept⟩
    · exact absurd root (kept container member).1
  · rintro ⟨⟨container, member, unpromised⟩, kept⟩
    exact ⟨⟨container, member, Or.inl unpromised⟩, kept⟩

theorem reported_missing :
    (∀ container ∈ podContainers pod.toPod, ownNonRoot container = some true ∧ ownUser container ≠ some 0) ∧
      (∃ container ∈ podContainers pod.toPod, PermitsRoot pod container) ↔ Contradicted pod := by
  simp only [permitsRoot_iff, Contradicted]
  constructor
  · rintro ⟨promised, container, member, root | ⟨unset, root | ⟨_, taken | ⟨silent, _⟩⟩⟩⟩
    · exact absurd root (promised container member).2
    · exact ⟨root, ⟨container, member, unset⟩, promised⟩
    · rw [(promised container member).1] at taken
      cases taken
    · rw [(promised container member).1] at silent
      cases silent
  · rintro ⟨root, ⟨container, member, unset⟩, promised⟩
    exact ⟨promised, container, member, Or.inr ⟨unset, Or.inl root⟩⟩

end

/-- A check is right about a pod unless the pod is one of the kinds of which it
overlooks something: for the scanner a replaced user, a user that is not root, an
init container or a promise taken back, and for the control all that the pod says. -/
theorem judged_iff (pod : SecuredPod) : Judged pod ↔
    ¬Overruled pod ∧ ¬UserIgnored pod ∧ ¬Missed pod ∧ (Workload pod → ¬Sheltered pod ∧ ¬Contradicted pod) := by
  rw [← found_missing, ← reported_wrongly, ← reported_missing, ← and_assoc, ← not_or, ← found_wrongly]
  have denied : (¬∃ container ∈ podContainers pod.toPod, PermitsRoot pod container) ↔
      ∀ container ∈ podContainers pod.toPod, ¬PermitsRoot pod container := by simp
  have silent : (¬∃ container ∈ podContainers pod.toPod, ownNonRoot container ≠ some true ∨ ownUser container = some 0) ↔
      ∀ container ∈ podContainers pod.toPod, ownNonRoot container = some true ∧ ownUser container ≠ some 0 := by simp
  rw [← denied, ← silent]
  constructor
  · intro judged
    refine ⟨?_, ?_, fun work => ?_⟩
    · exact fun wrong => wrong.2 (judged.check.mp wrong.1)
    · intro wrong
      rw [judged.check.mpr wrong.2] at wrong
      cases wrong.1
    · rw [← controlFlags_iff work, judged.control work]
      simp
  · rintro ⟨apart, complete, control⟩
    refine ⟨?_, fun work => ?_⟩
    · constructor
      · intro found
        by_contra kept
        exact apart ⟨found, kept⟩
      · intro permits
        by_contra unfound
        exact complete ⟨Bool.eq_false_of_not_eq_true unfound, permits⟩
    · rw [controlFlags_iff work]
      obtain ⟨sheltered, contradicted⟩ := control work
      constructor
      · intro reported
        by_contra kept
        exact sheltered ⟨reported, kept⟩
      · intro permits
        by_contra silent
        exact contradicted ⟨silent, permits⟩

/-- The user of the pod is in force for its container, and both checks find it. -/
theorem pod_user_overlooked : ¬∀ pod : SecuredPod, Judged pod := by
  intro sound
  let pod : SecuredPod :=
    { «namespace» := "shop", name := "web", containers := [{ name := "app" }], securityContext := some { runAsUser := some 1000 } }
  obtain ⟨container, member, permits⟩ := (sound pod).check.mp (by decide)
  obtain rfl := List.mem_singleton.mp member
  exact absurd permits (by decide)

end K8Sense.Doctor.Compliance
