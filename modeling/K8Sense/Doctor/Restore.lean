import K8Sense.Doctor.GuidedFix

/-! What a revert restores. A reversible fix touches one field of one object, and
the revert sets that field again, to what the fix recorded. -/

namespace K8Sense.Doctor

/-- The field of the object that an action touches, `none` without the object. -/
inductive Touched where
  | unschedulable (flag : Option Bool)
  | replicas (count : Option (Option Int32))
  | nothing
  deriving DecidableEq

def Cluster.touched (cluster : Cluster) (req : GuidedFixRequest) : Touched :=
  match req.action with
  | .uncordonNode | .cordonNode => .unschedulable ((cluster.nodes req.resourceName).map Node.unschedulable)
  | .scaleDeployment =>
    .replicas ((cluster.deployments (req.namespace, req.resourceName)).map Deployment.replicas)
  | _ => .nothing

def touched (req : GuidedFixRequest) (state : FixState) : Option Touched :=
  (state.clusters req.cluster).map fun cluster => cluster.touched req

/-- The fix can be taken back: the node was cordoned, or the replica count was
known when the fix recorded it, or happened to be one. -/
def Restorable (calls : Calls) (before : Option Touched) : Prop :=
  match before with
  | some (.unschedulable flag) => flag = some true
  | some (.replicas count) => count = some (some 1) ∨ calls.read = none ∧ ∃ replicas, count = some (some replicas)
  | _ => True

@[simp] theorem setNode_nodes (cluster : Cluster) (name : String) (node : Node) :
    (cluster.setNode name node).nodes name = some node := by
  simp [Cluster.setNode]

@[simp] theorem setDeployment_deployments (cluster : Cluster) (key : String × String) (deployment : Deployment) :
    (cluster.setDeployment key deployment).deployments key = some deployment := by
  simp [Cluster.setDeployment]

theorem cordon_ok {calls : Calls} (accepted : calls.write = none) {cluster : Cluster} (req : GuidedFixRequest)
    (action : req.action = .cordonNode) {node : Node} (found : cluster.nodes req.resourceName = some node) (now : Nat) :
    ∃ message, executeGuidedFix calls now cluster req =
      .ok (message, nothingToRevert, cluster.setNode req.resourceName ⟨true⟩) := by
  have patched : patch calls (cluster.nodes req.resourceName) (notFound "nodes" req.resourceName) (fun _ => ⟨true⟩) =
      .ok ⟨true⟩ := patch_ok.mpr ⟨accepted, node, found, rfl⟩
  simp [executeGuidedFix, action, patchNodeSchedulable, patched, bind, Except.bind, pure, Except.pure]

theorem scale_ok {calls : Calls} (accepted : calls.write = none) {cluster : Cluster} (req : GuidedFixRequest)
    (action : req.action = .scaleDeployment) {replicas : Int32} (wanted : req.replicas = some replicas)
    {deployment : Deployment} (found : cluster.deployments (req.namespace, req.resourceName) = some deployment) (now : Nat) :
    ∃ message revert, executeGuidedFix calls now cluster req =
      .ok (message, revert,
        cluster.setDeployment (req.namespace, req.resourceName) { deployment with replicas := some replicas }) := by
  have patched : patch calls (cluster.deployments (req.namespace, req.resourceName))
      (notFound "deployments.apps" req.resourceName) (fun deployment => { deployment with replicas := some replicas }) =
      .ok { deployment with replicas := some replicas } := patch_ok.mpr ⟨accepted, deployment, found, rfl⟩
  simp [executeGuidedFix, action, wanted, patched, bind, Except.bind, pure, Except.pure]

/-- Nothing stands in the way of a revert but the state of the object. -/
structure Accepts (env : FixEnv) : Prop where
  paid : env.paid = true
  role : env.role.atLeast .operator = true
  loads : env.loads = true
  writes : env.calls.write = none

@[simp] theorem writeAudit_clusters (env : FixEnv) (entry : AuditEntry) (state : FixState) :
    (writeAudit env entry state).clusters = state.clusters := by
  unfold writeAudit
  split <;> rfl

@[simp] theorem markReverted_clusters (env : FixEnv) (id : String) (state : FixState) :
    (markReverted env id state).clusters = state.clusters := by
  unfold markReverted
  split <;> rfl

theorem revert_success {env : FixEnv} (accepts : Accepts env) {state : FixState} {orig : AuditEntry} {action : Action}
    {id : String} (stored : getAudit id state.audit = some orig) (result : orig.result = .success)
    (reversible : orig.revertAction = some action) (unreverted : orig.revertedAt = none) {cluster changed : Cluster}
    (reached : state.clusters orig.clusterID = some cluster) {message : String} {revert : RevertInfo}
    (executed : executeGuidedFix env.calls env.now cluster (revertOf orig action) = .ok (message, revert, changed)) :
    (revertGuidedFix env state (some ⟨id, true⟩)).2.status = 200 ∧
      (revertGuidedFix env state (some ⟨id, true⟩)).1.clusters orig.clusterID = some changed := by
  have checked : checkRevert env state (some ⟨id, true⟩) = .ok (orig, revertOf orig action) := by
    simp [checkRevert, gate_open accepts.paid accepts.role, accepts.loads, stored, result, reversible, unreverted, reached]
  have here : state.clusters (revertOf orig action).cluster = some cluster := reached
  have performed : performRevert env state (revertOf orig action) =
      ({ state with clusters := Function.update state.clusters orig.clusterID (some changed) }, .ok message) := by
    simp only [performRevert, here, executed, applied, Except.map]
    rfl
  simp [revertGuidedFix, checked, performed, logRevert]

theorem written_entry {env : FixEnv} {before : FixState} {entry new : AuditEntry} {clusters : String → Option Cluster}
    (fresh : getAudit env.newID before.audit = none) (id : new.id = env.newID)
    (written : getAudit env.newID (writeAudit env new ⟨clusters, before.audit⟩).audit = some entry) : entry = new := by
  unfold writeAudit at written
  split at written
  next =>
    simp only [getAudit, List.find?_append] at written fresh
    rw [fresh] at written
    simpa [id] using written.symm
  next => exact absurd (fresh.symm.trans written) (by simp)

private theorem touched_some {req : GuidedFixRequest} {state : FixState} {field : Touched}
    (seen : touched req state = some field) :
    ∃ cluster, state.clusters req.cluster = some cluster ∧ cluster.touched req = field := by
  simpa [touched] using seen

section
variable {fix undo : FixEnv} {later : FixState} {req : GuidedFixRequest} {entry : AuditEntry} {message : String}
  {revert : RevertInfo} {changed : Cluster} (accepts : Accepts undo)
  (recorded : entry = fixEntry fix req (.ok (message, revert, changed)))
  (stored : getAudit fix.newID later.audit = some entry)
include accepts recorded stored

private theorem undo_uncordon (named : req.action = .uncordonNode) (inverse : revert.action = some .cordonNode)
    {flag : Bool} (seen : touched req later = some (.unschedulable (some flag))) :
    (revertGuidedFix undo later (some ⟨fix.newID, true⟩)).2.status = 200 ∧
      touched req (revertGuidedFix undo later (some ⟨fix.newID, true⟩)).1 = some (.unschedulable (some true)) := by
  obtain ⟨cluster, reached, field⟩ := touched_some seen
  simp only [Cluster.touched, named, Touched.unschedulable.injEq, Option.map_eq_some_iff] at field
  obtain ⟨node, found, _⟩ := field
  subst recorded
  obtain ⟨message, executed⟩ := cordon_ok accepts.writes
    (revertOf (fixEntry fix req (.ok (message, revert, changed))) .cordonNode) rfl found undo.now
  obtain ⟨status, clusters⟩ := revert_success accepts stored rfl inverse rfl reached executed
  refine ⟨status, ?_⟩
  have here : (revertGuidedFix undo later (some ⟨fix.newID, true⟩)).1.clusters req.cluster =
      some (cluster.setNode req.resourceName ⟨true⟩) := clusters
  simp [touched, here, Cluster.touched, named]

private theorem undo_scale (named : req.action = .scaleDeployment) (inverse : revert.action = some .scaleDeployment)
    {prior : Int32} (payload : revert.payload = some prior) {count : Option Int32}
    (seen : touched req later = some (.replicas (some count))) :
    (revertGuidedFix undo later (some ⟨fix.newID, true⟩)).2.status = 200 ∧
      touched req (revertGuidedFix undo later (some ⟨fix.newID, true⟩)).1 = some (.replicas (some (some prior))) := by
  obtain ⟨cluster, reached, field⟩ := touched_some seen
  simp only [Cluster.touched, named, Touched.replicas.injEq, Option.map_eq_some_iff] at field
  obtain ⟨deployment, found, _⟩ := field
  subst recorded
  obtain ⟨message, reverted, executed⟩ := scale_ok accepts.writes
    (revertOf (fixEntry fix req (.ok (message, revert, changed))) .scaleDeployment) rfl payload found undo.now
  obtain ⟨status, clusters⟩ := revert_success accepts stored rfl inverse rfl reached executed
  refine ⟨status, ?_⟩
  have here : (revertGuidedFix undo later (some ⟨fix.newID, true⟩)).1.clusters req.cluster =
      some (cluster.setDeployment (req.namespace, req.resourceName) { deployment with replicas := some prior }) := clusters
  simp [touched, here, Cluster.touched, named]

end

/-- A reversible fix that succeeded, and whose object nobody has touched since,
can be reverted, and the revert restores the touched field exactly when the fix
was `Restorable`. -/
theorem revert_restores_iff (fix undo : FixEnv) (before later : FixState) (req : GuidedFixRequest) (entry : AuditEntry)
    (succeeded : (guidedFix fix before (some req)).2.status = 200) (fresh : getAudit fix.newID before.audit = none)
    (written : getAudit fix.newID (guidedFix fix before (some req)).1.audit = some entry)
    (reversible : entry.revertAction ≠ none) (stored : getAudit fix.newID later.audit = some entry)
    (untouched : touched req later = touched req (guidedFix fix before (some req)).1) (accepts : Accepts undo) :
    (revertGuidedFix undo later (some ⟨fix.newID, true⟩)).2.status = 200 ∧
      (touched req (revertGuidedFix undo later (some ⟨fix.newID, true⟩)).1 = touched req before ↔
        Restorable fix.calls (touched req before)) := by
  obtain ⟨cluster, message, revert, changed, reached, executed, after⟩ := guidedFix_success succeeded
  rw [after] at written untouched
  have recorded := written_entry fresh rfl written
  obtain ⟨action, inverse⟩ := Option.ne_none_iff_exists'.mp reversible
  have undone : revert.action = some action := by rw [recorded] at inverse; exact inverse
  rcases execute_reversible executed undone with ⟨named, rfl, node, found, rfl⟩ |
    ⟨named, rfl, deployment, replicas, found, payload, rfl⟩
  · have seen : touched req later = some (.unschedulable (some false)) := by
      rw [untouched]
      simp [touched, Cluster.touched, named]
    obtain ⟨status, restored⟩ := undo_uncordon accepts recorded stored named undone seen
    have prior : touched req before = some (.unschedulable (some node.unschedulable)) := by
      simp [touched, reached, Cluster.touched, named, found]
    refine ⟨status, ?_⟩
    rw [restored, prior]
    simp only [Restorable, Option.some.injEq, Touched.unschedulable.injEq]
    exact eq_comm
  · have seen : touched req later = some (.replicas (some (some replicas))) := by
      rw [untouched]
      simp [touched, Cluster.touched, named]
    obtain ⟨status, restored⟩ := undo_scale accepts recorded stored named undone payload seen
    have prior : touched req before = some (.replicas (some deployment.replicas)) := by
      simp [touched, reached, Cluster.touched, named, found]
    refine ⟨status, ?_⟩
    rw [restored, prior]
    cases known : deployment.replicas with
    | none => simp [Restorable]
    | some count =>
      cases read : fix.calls.read with
      | none => simp [Restorable, read]
      | some err => simp [Restorable, read, eq_comm]

private def envOf (newID : String) (calls : Calls) : FixEnv :=
  ⟨true, .operator, "ada", calls, true, true, true, newID, 0⟩

/-- A cluster with the Node `n1` and the Deployment `ns/web`. -/
private def clusterOf (unschedulable : Bool) (replicas : Int32) : String → Option Cluster := fun name =>
  if name = "c" then
    some ⟨fun _ => false, fun _ => false, fun node => if node = "n1" then some ⟨unschedulable⟩ else none,
      fun key => if key = ("ns", "web") then some ⟨some replicas, none⟩ else none⟩
  else none

private def uncordon : GuidedFixRequest := ⟨"c", .uncordonNode, "", "n1", true, false, none⟩

private def scaleTo (replicas : Int32) : GuidedFixRequest := ⟨"c", .scaleDeployment, "ns", "web", true, false, some replicas⟩

theorem scale_restored :
    touched (scaleTo 5) (revertGuidedFix (envOf "b" ⟨none, none⟩)
      (guidedFix (envOf "a" ⟨none, none⟩) ⟨clusterOf true 3, []⟩ (some (scaleTo 5))).1 (some ⟨"a", true⟩)).1 =
    touched (scaleTo 5) ⟨clusterOf true 3, []⟩ := by
  refine ((revert_restores_iff (envOf "a" ⟨none, none⟩) (envOf "b" ⟨none, none⟩) ⟨clusterOf true 3, []⟩
    (guidedFix (envOf "a" ⟨none, none⟩) ⟨clusterOf true 3, []⟩ (some (scaleTo 5))).1 (scaleTo 5) _ (by decide) (by decide)
    rfl (by decide) rfl rfl ?_).2).mpr ?_
  · constructor <;> decide
  · exact Or.inr ⟨rfl, 3, by decide⟩

/-- Uncordoning a node that was not cordoned is reverted by cordoning it. -/
theorem uncordon_not_restored :
    ¬ ∀ (fix undo : FixEnv) (before : FixState) (req : GuidedFixRequest) (entry : AuditEntry),
      (guidedFix fix before (some req)).2.status = 200 →
      getAudit fix.newID (guidedFix fix before (some req)).1.audit = some entry → entry.revertAction ≠ none →
      (revertGuidedFix undo (guidedFix fix before (some req)).1 (some ⟨fix.newID, true⟩)).2.status = 200 →
      touched req (revertGuidedFix undo (guidedFix fix before (some req)).1 (some ⟨fix.newID, true⟩)).1 =
        touched req before := by
  intro restores
  have restored := restores (envOf "a" ⟨none, none⟩) (envOf "b" ⟨none, none⟩) ⟨clusterOf false 3, []⟩ uncordon _ (by decide)
    rfl (by decide) (by decide)
  exact absurd restored (by decide)

end K8Sense.Doctor
