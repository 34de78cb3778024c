import K8Sense.Library.Transition
import K8Sense.Doctor.AccountHandlers

/-! What requests of a viewer, who may read but change nothing, make of the
configuration and the clusters. Some handlers check the role before they act, and
some do not. -/

namespace K8Sense.Doctor.Api
open Db Transition

/-- What a viewer is to leave alone. Sessions, started scans and the audit log are
not part of it. -/
structure Unchanged (before after : State) : Prop where
  config : after.config = before.config
  history : after.history = before.history
  clusters : after.clusters = before.clusters

/-- A viewer's request leaves everything alone: its handler checks the role, or
only reads, or the request does not pass the handler's other checks, or what it
writes is stored already, or the cluster refuses it. -/
def Harmless (env : Env) (state : State) : Endpoint → Prop
  | .createUser body => env.authMode ≠ .off ∨ ∀ req, body = some req →
      Text.trimSpace req.username = "" ∨ req.password.utf8ByteSize < minPasswordLen ∨ env.hashPassword req.password = none ∨
        (env.fails .createUser).isSome = true ∨ ∃ other ∈ state.config.users,
          other.user.username = Text.trimSpace req.username ∨ other.user.id = env.newID 0
  | .updateUser id body => env.authMode ≠ .off ∨ id = "local" ∨ ∀ req, body = some req →
      (∃ role, req.role = some role ∧ (role.valid = false ∨ (env.fails .setUserRole).isSome = true)) ∨
        (∀ role, req.role = some role → ∀ account ∈ state.config.users, account.user.id = id → account.user.role = role) ∧
          ∀ disabled, req.disabled = some disabled → (env.fails .setUserDisabled).isSome = true ∨
            ∀ account ∈ state.config.users, account.user.id = id → account.user.disabled = disabled
  | .importRule body => state.paid = false ∨ ∀ yaml, body = some yaml → ∀ rules,
      CustomRules.parseRules env.unmarshalRules yaml = .ok rules →
        ∃ place, env.customRuleFailsAt = some place ∧ place < rules.length ∧
          CustomRules.Stored yaml (rules.take place) state.config.rules.table
  | .deleteCustomRule id => (env.fails .deleteCustomRule).isSome = true ∨ ∀ row ∈ state.config.rules.table, row.id ≠ id
  | .setAIConfig body => ∀ req, body = some req → normaliseEndpoint req.endpoint = "" ∨ (env.files .ai).isSome = true ∨
      state.config.ai = some ⟨normaliseEndpoint req.endpoint, Text.trimSpace req.model⟩
  | .installApp body => ∀ req app kube chartPath, body = some req → findCatalogApp req.appID = some app →
      clusterClientConfig env state req.cluster = some kube → env.helm.initialise = none →
        loadChart env app = .ok chartPath → (env.helm.install (installOf env state app chartPath) kube).1 = kube
  | .uninstallApp body => ∀ req app kube, body = some req → findCatalogApp req.appID = some app →
      clusterClientConfig env state req.cluster = some kube → env.helm.initialise = none →
        (env.helm.uninstall app.namespace app.releaseName kube).1 = kube
  | .enableRunbooks body => ∀ cluster, body = some cluster → ∀ kube, state.clusters cluster = some kube →
      Settled env.refuses kube runnerObjects
  | .runRunbook body => ∀ req template vars kube, body = some req → findRunbook req.runbookID = some template →
      fillVars template.vars req.vars = .ok vars → state.clusters req.cluster = some kube →
        (env.refuses (playbookMap env template vars)).isSome = true ∨ kube.holds (playbookMap env template vars) = true
  | .setRunbooksConfig body => ∀ image, body = some image → Text.trimSpace image = "" ∨
      (env.files .runbooks).isSome = true ∨ state.config.runbooks = some (Text.trimSpace image)
  | .runVulnScan body => ∀ cluster, body = some cluster → ∀ kube, state.clusters cluster = some kube →
      ∀ pods, env.pods cluster = .ok pods → imageNames pods ≠ [] →
        (env.refuses vulnNamespaceObject).isSome = true ∨ kube.holds vulnNamespaceObject = true ∧
          ((env.refuses (imagesMap env pods)).isSome = true ∨ kube.holds (imagesMap env pods) = true)
  | .setVulnScanConfig body => ∀ req, body = some req → Text.trimSpace req.image = "" ∨
      (env.files .vulnScan).isSome = true ∨
        state.config.vulnScan = some ⟨Text.trimSpace req.image, Text.trimSpace req.dbRepository⟩
  | .setRegistry body => ∀ registry, body = some registry → (env.files .registry).isSome = true ∨
      state.config.registry = some (normaliseRegistry registry)
  | .purgeScans body => (env.fails .pruneScans).isSome = true ∨ ∀ clusterID,
      (state.history.scans.filter fun scan => scan.clusterID = clusterID).length ≤ keepPerCluster body
  | .activateLicence body => ∀ data, checkActivation env body = .ok data →
      state.config.licenceFile = some data ∧ state.config.licence = Licence.validate env.licence (some data)
  | .startTrial => state.config.licence.valid = true ∨ state.config.trialUsed.isSome = true ∨
      (env.files .trial).isSome = true ∨ state.config.licenceFile = some (Licence.trialFile env.licence) ∧
        ∀ info, Licence.verify env.licence (Licence.trialFile env.licence) = .ok info →
          (env.files .trialMarker).isSome = true ∧
            state.config.licence = Licence.validate env.licence (some (Licence.trialFile env.licence))
  | _ => True

variable {env : Env} {state : State} {user : Option User}

theorem Unchanged.refl (state : State) : Unchanged state state := ⟨rfl, rfl, rfl⟩

theorem Unchanged.trans {first second third : State} (left : Unchanged first second) (right : Unchanged second third) :
    Unchanged first third :=
  ⟨right.config.trans left.config, right.history.trans left.history, right.clusters.trans left.clusters⟩

theorem unchanged_config {config : Config} : Unchanged state { state with config } ↔ config = state.config :=
  ⟨fun same => same.config, fun same => ⟨same, rfl, rfl⟩⟩

theorem unchanged_setCluster {cluster : String} {kube next : Kube} (found : state.clusters cluster = some kube) :
    Unchanged state (state.setCluster cluster next) ↔ next = kube :=
  ⟨fun same => (setCluster_unchanged found).mp same.clusters,
    fun same => ⟨rfl, rfl, (setCluster_unchanged found).mpr same⟩⟩

theorem requireRole_refuses {required : Role} {next : State × Response}
    (viewer : (effectiveRole env state user).atLeast .operator = false) (least : required.atLeast .operator = true) :
    requireRole env state user required next = (state, roleForbidden) := by
  have held : (effectiveRole env state user).atLeast required ≠ true := by
    intro high
    rw [Role.atLeast_trans high least] at viewer
    cases viewer
  rw [requireRole, if_neg held]

theorem requirePaid_refuses {next : State × Response} (refused : next.1 = state) : (requirePaid state next).1 = state := by
  unfold requirePaid
  split
  next => rfl
  next => exact refused

/-- What `requireAdmin` goes by is the user of the request, also where the role of
the server is what counts elsewhere. -/
theorem requireAdmin_refuses {next : State × Response} (on : env.authMode ≠ .off)
    (viewer : (effectiveRole env state user).atLeast .operator = false) :
    requireAdmin state user next = (state, jsonError 403 "Admins only.") := by
  have held : (currentUser user).role.atLeast .admin ≠ true := by
    intro high
    have low : (currentUser user).role.atLeast .operator = true := Role.atLeast_trans high rfl
    rw [effectiveRole, if_neg on] at viewer
    rw [low] at viewer
    cases viewer
  rw [requireAdmin, if_neg held]

theorem setRegistry_unchanged {body : Option String} :
    Unchanged state (setRegistry env state body).1 ↔ Harmless env state (.setRegistry body) := by
  unfold Harmless
  cases body with
  | none => simp [setRegistry, Unchanged.refl]
  | some registry =>
    cases wrote : env.files .registry with
    | some err => simp [setRegistry, wrote, Unchanged.refl]
    | none =>
      simp only [setRegistry, wrote, unchanged_config, Option.some.injEq, forall_eq', Option.isSome_none,
        Bool.false_eq_true, false_or]
      constructor
      · exact fun same => (congrArg Config.registry same).symm
      · intro same
        rw [← same]

theorem setAIConfig_unchanged {body : Option StoredAIConfig} :
    Unchanged state (setAIConfig env state body).1 ↔ Harmless env state (.setAIConfig body) := by
  unfold Harmless
  cases body with
  | none => simp [setAIConfig, Unchanged.refl]
  | some req =>
    by_cases empty : normaliseEndpoint req.endpoint = ""
    · simp [setAIConfig, empty, Unchanged.refl]
    · cases wrote : env.files .ai with
      | some err => simp [setAIConfig, empty, wrote, Unchanged.refl]
      | none =>
        simp only [setAIConfig, empty, wrote, unchanged_config, Option.some.injEq, forall_eq', Option.isSome_none,
          Bool.false_eq_true, false_or, if_false]
        constructor
        · exact fun same => (congrArg Config.ai same).symm
        · intro same
          rw [← same]

theorem setRunbooksConfig_unchanged {body : Option String} :
    Unchanged state (setRunbooksConfig env state body).1 ↔ Harmless env state (.setRunbooksConfig body) := by
  unfold Harmless
  cases body with
  | none => simp [setRunbooksConfig, Unchanged.refl]
  | some image =>
    by_cases empty : Text.trimSpace image = ""
    · simp [setRunbooksConfig, empty, Unchanged.refl]
    · cases wrote : env.files .runbooks with
      | some err => simp [setRunbooksConfig, empty, wrote, Unchanged.refl]
      | none =>
        simp only [setRunbooksConfig, empty, wrote, unchanged_config, Option.some.injEq, forall_eq',
          Option.isSome_none, Bool.false_eq_true, false_or, if_false]
        constructor
        · exact fun same => (congrArg Config.runbooks same).symm
        · intro same
          rw [← same]

theorem setVulnScanConfig_unchanged {body : Option VulnConfig} :
    Unchanged state (setVulnScanConfig env state body).1 ↔ Harmless env state (.setVulnScanConfig body) := by
  unfold Harmless
  cases body with
  | none => simp [setVulnScanConfig, Unchanged.refl]
  | some req =>
    by_cases empty : Text.trimSpace req.image = ""
    · simp [setVulnScanConfig, empty, Unchanged.refl]
    · cases wrote : env.files .vulnScan with
      | some err => simp [setVulnScanConfig, empty, wrote, Unchanged.refl]
      | none =>
        simp only [setVulnScanConfig, empty, wrote, unchanged_config, Option.some.injEq, forall_eq',
          Option.isSome_none, Bool.false_eq_true, false_or, if_false]
        constructor
        · exact fun same => (congrArg Config.vulnScan same).symm
        · intro same
          rw [← same]

theorem importRule_unchanged {body : Option String} :
    Unchanged state (importRule env state body).1 ↔ Harmless env state (.importRule body) := by
  unfold Harmless
  have server : Unchanged state (importRule env state body).1 ↔ (CustomRules.importRule env.unmarshalRules state.paid body
      env.now env.customRuleFailsAt state.config.rules).1 = state.config.rules := by
    refine unchanged_config.trans ⟨fun same => congrArg Config.rules same, fun same => ?_⟩
    rw [same]
  rw [server]
  cases paid : state.paid with
  | false => simp [CustomRules.importRule]
  | true =>
    cases body with
    | none => simp [CustomRules.importRule]
    | some yaml =>
      cases parsed : CustomRules.parseRules env.unmarshalRules yaml with
      | error err => simp [CustomRules.importRule, parsed]
      | ok rules =>
        simp only [CustomRules.importRule, parsed, CustomRules.saveRules_eq, Bool.not_true,
          Bool.false_eq_true, Bool.true_eq_false, if_false, false_or, Option.some.injEq, Except.ok.injEq, forall_eq']
        cases fails : env.customRuleFailsAt.filter (· < rules.length) with
        | none =>
          -- A file that is stored as a whole adds its rules to those that run.
          have longer : ∀ table, CustomRules.addRules rules { state.config.rules with table } ≠ state.config.rules := by
            intro table same
            have lengths := congrArg (fun server => server.rules.length) same
            simp only [CustomRules.addRules, List.length_append] at lengths
            exact (CustomRules.parseRules_ok parsed).1 (List.length_eq_zero_iff.mp (by omega))
          simp only [longer, false_iff]
          rintro ⟨place, failing, inside, _⟩
          simp only [failing, Option.filter_some, inside, decide_true, if_true, reduceCtorEq] at fails
        | some place =>
          obtain ⟨failing, inside⟩ := Option.filter_eq_some_iff.mp fails
          have tables : { state.config.rules with
              table := CustomRules.saveAll env.now yaml (rules.take place) state.config.rules.table } = state.config.rules ↔
                CustomRules.Stored yaml (rules.take place) state.config.rules.table := by
            rw [← CustomRules.saveAll_unchanged env.now]
            refine ⟨fun same => congrArg CustomRules.Server.table same, fun same => ?_⟩
            rw [same]
          simp only [tables]
          constructor
          · exact fun same => ⟨place, failing, of_decide_eq_true inside, same⟩
          · rintro ⟨other, again, _, same⟩
            cases failing.symm.trans again
            exact same

theorem deleteCustomRule_unchanged {id : String} :
    Unchanged state (deleteCustomRule env state id).1 ↔ Harmless env state (.deleteCustomRule id) := by
  unfold Harmless
  refine unchanged_config.trans ?_
  cases fails : (env.fails .deleteCustomRule).isSome with
  | true => simp [CustomRules.deleteCustomRule]
  | false =>
    have rows : CustomRules.removeCustomRule id state.config.rules.table = state.config.rules.table ↔
        ∀ row ∈ state.config.rules.table, row.id ≠ id := by
      simp [CustomRules.removeCustomRule, List.filter_eq_self]
    simp only [CustomRules.deleteCustomRule, Bool.false_eq_true, if_false, false_or, ← rows]
    refine ⟨fun same => congrArg (fun config => config.rules.table) same, fun same => ?_⟩
    rw [same]

theorem purgeScans_unchanged {body : Option Int} :
    Unchanged state (purgeScans env state body).1 ↔ Harmless env state (.purgeScans body) := by
  unfold purgeScans Harmless
  cases fails : env.fails .pruneScans with
  | some err => simp [Unchanged.refl]
  | none =>
    simp only [Option.isSome_none, Bool.false_eq_true, false_or, ← pruneScans_unchanged]
    exact ⟨fun same => same.history, fun same => ⟨rfl, same, rfl⟩⟩

theorem installApp_unchanged {body : Option CatalogActionRequest} :
    Unchanged state (installApp env state body).1 ↔ Harmless env state (.installApp body) := by
  unfold installApp Harmless
  cases checked : catalogAction env state body with
  | error response =>
    refine ⟨fun _ req app kube chartPath given found reached ready _ => ?_, fun _ => Unchanged.refl state⟩
    rw [catalogAction_ok.mpr ⟨req, given, rfl, found, reached, ready⟩] at checked
    cases checked
  | ok passed =>
    obtain ⟨cluster, app, kube⟩ := passed
    obtain ⟨req, rfl, rfl, found, reached, ready⟩ := catalogAction_ok.mp checked
    cases loaded : loadChart env app with
    | error response =>
      refine ⟨fun _ other same _ chartPath given twice _ _ again => ?_, fun _ => by simpa [loaded] using Unchanged.refl state⟩
      cases given
      cases found.symm.trans twice
      rw [loaded] at again
      cases again
    | ok chartPath =>
      simp only [loaded, helmRan, unchanged_setCluster (reached_cluster reached)]
      constructor
      · rintro same _ _ _ _ ⟨⟩ twice again _ other
        cases found.symm.trans twice
        cases reached.symm.trans again
        cases loaded.symm.trans other
        exact same
      · exact fun harmless => harmless req app kube chartPath rfl found reached ready loaded

theorem uninstallApp_unchanged {body : Option CatalogActionRequest} :
    Unchanged state (uninstallApp env state body).1 ↔ Harmless env state (.uninstallApp body) := by
  unfold uninstallApp Harmless
  cases checked : catalogAction env state body with
  | error response =>
    refine ⟨fun _ req app kube given found reached ready => ?_, fun _ => Unchanged.refl state⟩
    rw [catalogAction_ok.mpr ⟨req, given, rfl, found, reached, ready⟩] at checked
    cases checked
  | ok passed =>
    obtain ⟨cluster, app, kube⟩ := passed
    obtain ⟨req, rfl, rfl, found, reached, ready⟩ := catalogAction_ok.mp checked
    simp only [helmRan, unchanged_setCluster (reached_cluster reached)]
    constructor
    · rintro same _ _ _ ⟨⟩ twice again _
      cases found.symm.trans twice
      cases reached.symm.trans again
      exact same
    · exact fun harmless => harmless req app kube rfl found reached ready

theorem enableRunbooks_unchanged {body : Option String} :
    Unchanged state (enableRunbooks env state body).1 ↔ Harmless env state (.enableRunbooks body) := by
  unfold enableRunbooks Harmless
  cases body with
  | none => simp [Unchanged.refl]
  | some cluster =>
    cases reached : state.clusters cluster with
    | none => simp [reached, Unchanged.refl]
    | some kube => simp [reached, unchanged_setCluster reached, createAll_unchanged]

theorem launch_unchanged {cluster : String} {kube : Kube} {configMap job : Object} {creating starting : String}
    {done : Response} (found : state.clusters cluster = some kube) :
    Unchanged state (launch env state cluster kube configMap job creating starting done).1 ↔
      (env.refuses configMap).isSome = true ∨ kube.holds configMap = true := by
  obtain ⟨last, ended, outcome⟩ := launch_cluster env state cluster kube configMap job creating starting done
  rw [ended, unchanged_setCluster found]
  rcases outcome with ⟨same, stuck⟩ | ⟨longer, free, absent⟩
  · exact ⟨fun _ => stuck, fun _ => same⟩
  · constructor
    · rintro rfl
      omega
    · simp [free, absent]

theorem runRunbook_unchanged {body : Option RunRunbookRequest} :
    Unchanged state (runRunbook env state body).1 ↔ Harmless env state (.runRunbook body) := by
  unfold runRunbook Harmless
  cases checked : checkRunbook state body with
  | error response =>
    refine ⟨fun _ req template vars kube given found filled reached => ?_, fun _ => Unchanged.refl state⟩
    rw [checkRunbook_ok.mpr ⟨given, found, filled, reached⟩] at checked
    cases checked
  | ok passed =>
    obtain ⟨req, template, vars, kube⟩ := passed
    obtain ⟨rfl, found, filled, reached⟩ := checkRunbook_ok.mp checked
    simp only [launch_unchanged reached]
    constructor
    · rintro stuck _ _ _ _ ⟨⟩ twice again same
      cases found.symm.trans twice
      cases filled.symm.trans again
      cases reached.symm.trans same
      exact stuck
    · exact fun harmless => harmless req template vars kube rfl found filled reached

theorem runVulnScan_unchanged {body : Option String} :
    Unchanged state (runVulnScan env state body).1 ↔ Harmless env state (.runVulnScan body) := by
  unfold runVulnScan Harmless
  cases checked : checkVulnScan env state body with
  | error response =>
    refine ⟨fun _ cluster given kube reached pods listed images => ?_, fun _ => Unchanged.refl state⟩
    rw [checkVulnScan_ok.mpr ⟨given, reached, listed, images⟩] at checked
    cases checked
  | ok passed =>
    obtain ⟨cluster, kube, pods⟩ := passed
    obtain ⟨rfl, reached, listed, images⟩ := checkVulnScan_ok.mp checked
    simp only [Option.some.injEq, forall_eq', reached, listed, Except.ok.injEq, images, ne_eq, not_false_eq_true, forall_const]
    unfold createIgnoreExists create
    cases refused : env.refuses vulnNamespaceObject with
    | some err => simp [unchanged_setCluster reached]
    | none =>
      by_cases held : kube.holds vulnNamespaceObject = true
      · simp [held, launch_unchanged reached]
      · -- The namespace is created, so there is one more object whatever follows.
        have changed : ∀ next, kube.objects.length < next.objects.length → ¬ Unchanged state (state.setCluster cluster next) := by
          intro next longer same
          rw [(unchanged_setCluster reached).mp same] at longer
          omega
        have grown : kube.objects.length < (kube.add vulnNamespaceObject).objects.length := by simp [Kube.add]
        obtain ⟨last, ended, outcome⟩ := launch_cluster env state cluster (kube.add vulnNamespaceObject)
          (imagesMap env pods) (trivyJob (vulnRunID env) (trivyConfig env state) vulnLabels) "creating the scan"
          "starting the Trivy Job" (writeJSON [("imageCount", toString ((imageNames pods).take maxScanImages).length),
            ("runId", (vulnRunID env).quote)])
        simp only [held, Bool.false_eq_true, if_false, ended, Option.isSome_none, false_and, or_self, iff_false]
        apply changed
        rcases outcome with ⟨rfl, _⟩ | ⟨longer, _⟩
        · exact grown
        · omega

theorem activateLicence_unchanged {body : Option ActivateRequest} :
    Unchanged state (activateLicence env state body).1 ↔ Harmless env state (.activateLicence body) := by
  unfold activateLicence Harmless
  cases checked : checkActivation env body with
  | error response => simp [checked, Unchanged.refl]
  | ok data =>
    simp only [checked, Except.ok.injEq, forall_eq', State.setLicence, unchanged_config]
    constructor
    · exact fun same => ⟨(congrArg Config.licenceFile same).symm, (congrArg Config.licence same).symm⟩
    · rintro ⟨file, info⟩
      rw [← info, ← file]

theorem startTrial_unchanged : Unchanged state (startTrial env state).1 ↔ Harmless env state .startTrial := by
  unfold startTrial Harmless
  by_cases active : state.config.licence.valid = true
  · simp [active, Unchanged.refl]
  · by_cases used : state.config.trialUsed.isSome = true
    · simp [active, used, Unchanged.refl]
    · cases wrote : env.files .trial with
      | some err => simp [active, used, Licence.generateTrial, Unchanged.refl]
      | none =>
        have unused : state.config.trialUsed = none := by simpa using used
        cases verified : Licence.verify env.licence (Licence.trialFile env.licence) with
        | error err =>
          simp only [active, used, Licence.generateTrial, verified, unchanged_config, Option.isSome_none, Bool.false_eq_true,
            if_false, false_or, reduceCtorEq, IsEmpty.forall_iff, implies_true, and_true]
          refine ⟨fun same => (congrArg Config.licenceFile same).symm, fun same => ?_⟩
          rw [← same]
        | ok info =>
          cases marked : (env.files .trialMarker).isSome with
          | true =>
            simp only [active, used, Licence.generateTrial, verified, State.setLicence, unchanged_config,
              Option.isSome_none, Bool.false_eq_true, if_false, if_true, false_or, Except.ok.injEq, forall_eq', true_and]
            constructor
            · exact fun same => ⟨(congrArg Config.licenceFile same).symm, (congrArg Config.licence same).symm⟩
            · rintro ⟨file, licence⟩
              rw [← licence, ← file]
          | false =>
            simp only [active, used, Licence.generateTrial, verified, State.setLicence, unchanged_config,
              Option.isSome_none, Bool.false_eq_true, if_false, false_or, Except.ok.injEq, forall_eq', false_and, and_false,
              iff_false]
            intro same
            have noted := congrArg Config.trialUsed same
            rw [unused] at noted
            cases noted

theorem not_accepts {users : List Account} {req : Credentials} : ¬ Accepts env users req ↔
    Text.trimSpace req.username = "" ∨ req.password.utf8ByteSize < minPasswordLen ∨ env.hashPassword req.password = none ∨
      (env.fails .createUser).isSome = true ∨ ∃ other ∈ users,
        other.user.username = Text.trimSpace req.username ∨ other.user.id = env.newID 0 := by
  constructor
  · intro rejects
    by_contra passes
    simp only [not_or, not_exists, not_and] at passes
    obtain ⟨named, long, hashed, works, free⟩ := passes
    exact rejects ⟨named, Nat.le_of_not_lt long, Option.isSome_iff_ne_none.mpr hashed, Bool.eq_false_iff.mpr works, free⟩
  · rintro (unnamed | short | unhashed | fails | ⟨other, member, used⟩) accepts
    · exact accepts.named unnamed
    · exact Nat.not_lt_of_le accepts.long short
    · exact Option.isSome_iff_ne_none.mp accepts.hashed unhashed
    · exact Bool.false_ne_true (accepts.works.symm.trans fails)
    · exact used.elim (accepts.free other member).1 (accepts.free other member).2

theorem unchanged_setUsers {users : List Account} : Unchanged state (state.setUsers users) ↔ users = state.config.users := by
  refine unchanged_config.trans ⟨fun same => congrArg Config.users same, fun same => ?_⟩
  rw [same]

theorem createUser_unchanged {body : Option CreateUserRequest} (absent : env.authMode = .off → user = none)
    (viewer : (effectiveRole env state user).atLeast .operator = false) :
    Unchanged state (createUser env state user body).1 ↔ Harmless env state (.createUser body) := by
  unfold Harmless
  by_cases off : env.authMode = .off
  · cases absent off
    unfold createUser requireAdmin
    rw [if_pos (by decide)]
    cases body with
    | none => simp [Unchanged.refl]
    | some req =>
      simp only [off, ne_eq, not_true_eq_false, false_or, Option.some.injEq, forall_eq']
      have rejects := @not_accepts env state.config.users ⟨req.username, req.password⟩
      cases made : storeUser env state req.username req.password (if req.role.valid then req.role else .viewer) with
      | error response => exact ⟨fun _ => rejects.mp (storeUser_rejected made), fun _ => Unchanged.refl state⟩
      | ok created =>
        obtain ⟨accepts, hash, _, rfl⟩ := storeUser_ok.mp made
        refine ⟨fun same => ?_, fun stuck => absurd accepts (rejects.mpr stuck)⟩
        have lengths := congrArg List.length (unchanged_setUsers.mp same)
        simp at lengths
  · unfold createUser
    rw [requireAdmin_refuses off viewer]
    exact ⟨fun _ => Or.inl off, fun _ => Unchanged.refl state⟩

theorem updateDisabled_unchanged {before : State} {id : String} {disabled : Option Bool} {users : List Account} :
    Unchanged before (updateDisabled env (before.setUsers users) id disabled).1 ↔
      disabledUsers env id disabled users = before.config.users := by
  obtain ⟨sessions, ended⟩ := updateDisabled_users env (before.setUsers users) id disabled
  rw [ended]
  have whole : Unchanged before (before.setUsers (disabledUsers env id disabled users)) ↔ _ := unchanged_setUsers
  exact ⟨fun same => whole.mp ⟨same.config, rfl, rfl⟩, fun same => ⟨(whole.mpr same).config, rfl, rfl⟩⟩

theorem disabledUsers_unchanged {id : String} {disabled : Option Bool} {users : List Account} :
    disabledUsers env id disabled users = users ↔ ∀ wanted, disabled = some wanted →
      (env.fails .setUserDisabled).isSome = true ∨ ∀ account ∈ users, account.user.id = id → account.user.disabled = wanted := by
  unfold disabledUsers
  cases disabled with
  | none => simp
  | some wanted =>
    cases env.fails .setUserDisabled with
    | some err => simp
    | none =>
      simp only [setUserDisabled, updateUsers_unchanged, Option.some.injEq, forall_eq', Option.isSome_none, Bool.false_eq_true,
        false_or]
      refine forall₃_congr fun account _ _ => ⟨fun same => (congrArg User.disabled same).symm, fun same => ?_⟩
      rw [← same]

theorem disabledUsers_setUserRole {id : String} {role : Role} {disabled : Option Bool} {users : List Account} :
    disabledUsers env id disabled (setUserRole id role users) = users ↔
      setUserRole id role users = users ∧ disabledUsers env id disabled users = users := by
  constructor
  · intro same
    have roles : setUserRole id role users = users := by
      apply updateUsers_unchanged.mpr
      intro account member named
      have fixed : ∃ wanted, { account.user with role, disabled := wanted } = account.user := by
        unfold disabledUsers at same
        split at same
        next wanted _ =>
          have twice := @updateUsers_twice id (fun user => { user with role }) (fun user => { user with disabled := wanted })
            users fun _ => rfl
          exact ⟨wanted, updateUsers_unchanged.mp (twice.symm.trans same) account member named⟩
        next => exact ⟨account.user.disabled, updateUsers_unchanged.mp same account member named⟩
      obtain ⟨wanted, fixed⟩ := fixed
      have kept : role = account.user.role := congrArg User.role fixed
      rw [kept]
    exact ⟨roles, by rwa [roles] at same⟩
  · rintro ⟨first, second⟩
    rw [first, second]

theorem updateUser_unchanged {id : String} {body : Option UpdateUserRequest} (absent : env.authMode = .off → user = none)
    (viewer : (effectiveRole env state user).atLeast .operator = false) :
    Unchanged state (updateUser env state user id body).1 ↔ Harmless env state (.updateUser id body) := by
  unfold Harmless
  by_cases off : env.authMode = .off
  · cases absent off
    unfold updateUser requireAdmin
    rw [if_pos (by decide)]
    by_cases own : id = "local"
    · simp [own, currentUser, Unchanged.refl]
    · cases body with
      | none => simp [own, currentUser, Unchanged.refl]
      | some req =>
        have other : ¬ id = (currentUser none).id := own
        simp only [off, own, other, if_false, ne_eq, not_true_eq_false, false_or, Option.some.injEq, forall_eq']
        unfold updateRole
        cases wanted : req.role with
        | none =>
          have kept : Unchanged state (updateDisabled env state id req.disabled).1 ↔ _ :=
            @updateDisabled_unchanged env state id req.disabled state.config.users
          simp [kept, disabledUsers_unchanged]
        | some role =>
          by_cases valid : role.valid = true
          · cases fails : (env.fails .setUserRole).isSome with
            | true => simp [valid, Unchanged.refl]
            | false =>
              simp only [valid, Bool.not_true, Bool.false_eq_true, if_false, updateDisabled_unchanged,
                disabledUsers_setUserRole, disabledUsers_unchanged, Option.some.injEq, exists_eq_left', forall_eq',
                Bool.true_eq_false, or_self, false_or]
              refine and_congr_left fun _ => updateUsers_unchanged.trans (forall₃_congr fun account _ _ => ?_)
              refine ⟨fun same => (congrArg User.role same).symm, fun same => ?_⟩
              rw [← same]
          · simp [valid, Unchanged.refl]
  · unfold updateUser
    rw [requireAdmin_refuses off viewer]
    exact ⟨fun _ => Or.inl off, fun _ => Unchanged.refl state⟩

theorem setFixState_self (state : State) : state.setFixState state.fixState = state := by
  have clusters : (state.setFixState state.fixState).clusters = state.clusters := by
    funext name
    simp only [State.setFixState, State.fixState]
    cases state.clusters name <;> rfl
  cases state
  simp only [State.setFixState, State.mk.injEq, true_and] at clusters ⊢
  exact ⟨clusters, rfl⟩

theorem gate_refuses (request : Request) (viewer : (effectiveRole env state user).atLeast .operator = false) :
    ∃ response, gate (fixEnv env state user request) .operator = some response := by
  unfold gate
  cases (fixEnv env state user request).paid with
  | false => exact ⟨_, rfl⟩
  | true =>
    refine ⟨roleForbidden, ?_⟩
    simp [fixEnv, viewer]

theorem guidedFix_refused {request : Request} {body : Option GuidedFixRequest}
    (viewer : (effectiveRole env state user).atLeast .operator = false) :
    (guidedFix env state user request body).1 = state := by
  obtain ⟨response, refused⟩ := gate_refuses request viewer
  simp only [guidedFix, Doctor.guidedFix, refused, setFixState_self]

theorem revertGuidedFix_refused {request : Request} {body : Option RevertRequest}
    (viewer : (effectiveRole env state user).atLeast .operator = false) :
    (revertGuidedFix env state user request body).1 = state := by
  obtain ⟨response, refused⟩ := gate_refuses request viewer
  simp only [revertGuidedFix, Doctor.revertGuidedFix, checkRevert, refused, setFixState_self]

theorem issueSession_unchanged {username password : String} :
    Unchanged state (issueSession env state username password).1 := by
  obtain ⟨sessions, same⟩ := issueSession_state env state username password
  rw [same]
  exact ⟨rfl, rfl, rfl⟩

theorem login_unchanged {body : Option Credentials} : Unchanged state (login env state body).1 := by
  cases body with
  | none => exact Unchanged.refl state
  | some req => exact issueSession_unchanged

theorem logout_unchanged {session : String} : Unchanged state (logout env state session).1 := by
  unfold logout
  extract_lets token
  split
  next => exact Unchanged.refl state
  next => exact ⟨rfl, rfl, rfl⟩

theorem startScan_unchanged {body : Option String} : Unchanged state (startScan env state body).1 := by
  unfold startScan
  split
  next => exact Unchanged.refl state
  next =>
    split
    next => exact Unchanged.refl state
    next => exact ⟨rfl, rfl, rfl⟩

theorem startMultiScan_unchanged {body : Option (List String)} : Unchanged state (startMultiScan env state body).1 := by
  unfold startMultiScan
  split
  next => exact Unchanged.refl state
  next => exact ⟨rfl, rfl, rfl⟩

theorem validateRule_unchanged {body : Option String} : Unchanged state (validateRule env state body).1 := by
  unfold validateRule
  split
  next => exact Unchanged.refl state
  next => split <;> exact Unchanged.refl state

theorem aiChat_unchanged {body : Option AIChatRequest} : Unchanged state (aiChat env state body).1 := by
  unfold aiChat
  split
  next => exact Unchanged.refl state
  next =>
    split
    next => exact Unchanged.refl state
    next =>
      split
      next => exact Unchanged.refl state
      next => split <;> exact Unchanged.refl state

theorem testNotification_unchanged {cluster : String} : Unchanged state (testNotification env state cluster).1 := by
  unfold testNotification
  split
  next => exact Unchanged.refl state
  next =>
    split
    next => exact Unchanged.refl state
    next =>
      extract_lets config
      split
      next => exact Unchanged.refl state
      next => split <;> exact Unchanged.refl state

/-- The setup is open to nobody who counts as a viewer: with accounts its route is
public, and without it is refused. -/
theorem bootstrap_refused {request : Request} {body : Option Credentials} (endpoint : request.endpoint = .bootstrap body)
    (passes : authenticate env state request = some user)
    (viewer : (effectiveRole env state user).atLeast .operator = false) : (bootstrap env state body).1 = state := by
  unfold bootstrap checkBootstrap
  by_cases off : env.authMode = .off
  · simp [off]
  · simp only [authenticate, endpoint, Endpoint.isAuthPublicPath, if_true, Option.some.injEq] at passes
    subst passes
    rw [effectiveRole, if_neg off] at viewer
    cases viewer

theorem no_user {request : Request} (passes : authenticate env state request = some user) (off : env.authMode = .off) :
    user = none := by
  unfold authenticate at passes
  rw [off] at passes
  split at passes <;> exact (Option.some.inj passes).symm

theorem auditRequest_unchanged {before : State} {request : Request} {response : Response} :
    Unchanged before (auditRequest env user request state response) ↔ Unchanged before state := by
  unfold auditRequest
  split
  next => exact ⟨fun same => ⟨same.config, same.history, same.clusters⟩, fun same => ⟨same.config, same.history, same.clusters⟩⟩
  next => rfl

theorem dispatch_unchanged {request : Request} (passes : authenticate env state request = some user)
    (viewer : (effectiveRole env state user).atLeast .operator = false) :
    Unchanged state (dispatch env state user request).1 ↔ Harmless env state request.endpoint := by
  have kept : ∀ {after : State}, after = state → (Unchanged state after ↔ True) := by
    rintro after rfl
    exact iff_true_intro (Unchanged.refl after)
  unfold dispatch
  cases endpoint : request.endpoint with
  | bootstrap body => exact kept (bootstrap_refused endpoint passes viewer)
  | login body => exact iff_true_intro login_unchanged
  | logout => exact iff_true_intro logout_unchanged
  | createUser body => exact createUser_unchanged (no_user passes) viewer
  | updateUser id body => exact updateUser_unchanged (no_user passes) viewer
  | startScan body => exact iff_true_intro startScan_unchanged
  | startMultiScan body => exact iff_true_intro startMultiScan_unchanged
  | validateRule body => exact iff_true_intro validateRule_unchanged
  | importRule body => exact importRule_unchanged
  | deleteCustomRule id => exact deleteCustomRule_unchanged
  | toggleRule id enabled => exact kept (congrArg Prod.fst (requireRole_refuses viewer rfl))
  | setRuleSeverity id severity => exact kept (congrArg Prod.fst (requireRole_refuses viewer rfl))
  | aiChat body => exact iff_true_intro aiChat_unchanged
  | setAIConfig body => exact setAIConfig_unchanged
  | installApp body => exact installApp_unchanged
  | uninstallApp body => exact uninstallApp_unchanged
  | enableRunbooks body => exact enableRunbooks_unchanged
  | runRunbook body => exact runRunbook_unchanged
  | setRunbooksConfig body => exact setRunbooksConfig_unchanged
  | runVulnScan body => exact runVulnScan_unchanged
  | setVulnScanConfig body => exact setVulnScanConfig_unchanged
  | setRegistry body => exact setRegistry_unchanged
  | guidedFix body => exact kept (guidedFix_refused viewer)
  | revertGuidedFix body => exact kept (revertGuidedFix_refused viewer)
  | suppressFinding body => exact kept (congrArg Prod.fst (requireRole_refuses viewer rfl))
  | unsuppressFinding body => exact kept (congrArg Prod.fst (requireRole_refuses viewer rfl))
  | commentFinding body => exact kept (congrArg Prod.fst (requireRole_refuses viewer rfl))
  | setNotifyConfig body => exact kept (requirePaid_refuses (congrArg Prod.fst (requireRole_refuses viewer rfl)))
  | testNotification => exact iff_true_intro testNotification_unchanged
  | setBranding body => exact kept (requirePaid_refuses (congrArg Prod.fst (requireRole_refuses viewer rfl)))
  | setRole body => exact kept (congrArg Prod.fst (requireRole_refuses viewer rfl))
  | purgeScans body => exact purgeScans_unchanged
  | activateLicence body => exact activateLicence_unchanged
  | startTrial => exact startTrial_unchanged

theorem handle_unchanged {request : Request} (passes : authenticate env state request = some user)
    (viewer : (effectiveRole env state user).atLeast .operator = false) :
    Unchanged state (handle env state request).1 ↔ Harmless env state request.endpoint := by
  unfold handle
  simp only [passes]
  exact auditRequest_unchanged.trans (dispatch_unchanged passes viewer)

/-- Requests, one after another. -/
def step (state : State) (event : Env × Request) : Option State := some (handle event.1 state event.2).1

/-- If the request passes the middleware then it is a viewer's, and harmless. -/
def HarmlessRead (state : State) (event : Env × Request) : Prop :=
  ∀ user, authenticate event.1 state event.2 = some user →
    (effectiveRole event.1 state user).atLeast .operator = false ∧ Harmless event.1 state event.2.endpoint

theorem harmless_step {start next : State} {event : Env × Request} (kept : Unchanged start state)
    (allowed : HarmlessRead state event) (taken : step state event = some next) : Unchanged start next := by
  cases taken
  cases passes : authenticate event.1 state event.2 with
  | none =>
    simp only [handle, passes]
    exact kept
  | some user =>
    obtain ⟨viewer, harmless⟩ := allowed user passes
    exact kept.trans ((handle_unchanged passes viewer).mpr harmless)

/-- In every state a viewer's request leaves configuration, history and clusters
alone exactly when it is harmless, and so does every run of such requests. -/
theorem viewer_changes_nothing_iff (env : Env) (state : State) (request : Request) (user : Option User)
    (passes : authenticate env state request = some user)
    (viewer : (effectiveRole env state user).atLeast .operator = false) :
    (Unchanged state (handle env state request).1 ↔ Harmless env state request.endpoint) ∧
      ∀ (events : List (Env × Request)) (last : State), Meets step HarmlessRead state events →
        run step state events = some last → Unchanged state last := by
  refine ⟨handle_unchanged passes viewer, ?_⟩
  intro events last meets ran
  apply invariant (Unchanged state) ?_ (Unchanged.refl state) meets ran
  exact fun middle event next kept allowed taken => harmless_step kept allowed taken

/-- Helm as it is when nothing fails. -/
private def workingHelm : Helm where
  initialise := none
  locateChart _ chart _ := .ok chart
  load _ := none
  install request kube :=
    ({ kube with releases := kube.releases ++ [⟨request.releaseName, request.namespace, request.chartPath⟩] }, none)
  uninstall space release kube :=
    ({ kube with releases := kube.releases.filter fun found => found.name ≠ release ∨ found.namespace ≠ space }, none)

/-- A server without accounts on which everything works. -/
private def workingEnv : Env where
  authMode := .off
  adminGroups := []
  operatorGroups := []
  defaultRole := .viewer
  now := 0
  newID place := toString place
  newSessionToken := some "t"
  hashPassword := some
  passwordMatches hash password := hash = password
  database _ := none
  files _ := none
  readFile _ := none
  licence := ⟨fun _ => none, fun _ => "", fun _ => true, fun _ _ _ => true, fun _ => "", fun _ => none, fun _ => "", 0, "", true⟩
  unmarshalRules _ := .ok []
  customRuleFailsAt := none
  calls := ⟨none, none⟩
  auditLoads := true
  auditMarks := true
  clientError := ""
  refuses _ := none
  pods _ := .ok []
  clientConfig := true
  helm := workingHelm
  charts := []
  airGapped := false
  runbookImage := ""
  trivyImage := ""
  trivyDB := ""
  internalRegistry := ""
  aiEndpoint := ""
  aiModel := ""
  aiEnabled := true
  chat _ _ := .ok ""
  postWebhook _ := none

/-- Its role is viewer, and it reaches one empty cluster. -/
private def viewerState : State where
  config := ⟨[], fun _ => none, fun _ => none, fun _ => none, fun _ => none, CustomRules.newServer [] [], some .viewer, none,
    none, none, none, none, none, Licence.freeInfo "", none⟩
  history := ⟨[], []⟩
  clusters name := if name = "c" then
    some ⟨⟨fun _ => false, fun _ => false, fun _ => none, fun _ => none⟩, [], []⟩ else none
  sessions := []
  active := []
  audit := []

private def requestOf (endpoint : Endpoint) : Request := ⟨endpoint, "c", "c", "", none, ""⟩

/-- Turning a rule off is refused, also when it is asked for twice. -/
theorem viewer_cannot_toggle :
    Unchanged viewerState (handle workingEnv viewerState (requestOf (.toggleRule "POD-001" "false"))).1 ∧
      ∃ last, run step viewerState [(workingEnv, requestOf (.toggleRule "POD-001" "false")),
        (workingEnv, requestOf (.toggleRule "POD-001" "false"))] = some last ∧ Unchanged viewerState last := by
  obtain ⟨single, runs⟩ :=
    viewer_changes_nothing_iff workingEnv viewerState (requestOf (.toggleRule "POD-001" "false")) none rfl rfl
  refine ⟨single.mpr trivial, _, rfl, runs
    [(workingEnv, requestOf (.toggleRule "POD-001" "false")), (workingEnv, requestOf (.toggleRule "POD-001" "false"))] _ ?_ rfl⟩
  have passes : ∀ state user, authenticate workingEnv state (requestOf (.toggleRule "POD-001" "false")) = some user →
      user = none := fun state user passes => no_user passes rfl
  have refused : (handle workingEnv viewerState (requestOf (.toggleRule "POD-001" "false"))).1.config = viewerState.config :=
    (single.mpr trivial).config
  refine ⟨?_, ?_, trivial⟩
  · intro user passed
    cases passes viewerState user passed
    exact ⟨rfl, trivial⟩
  · intro user passed
    cases passes _ user passed
    refine ⟨?_, trivial⟩
    have role : effectiveRole workingEnv
        (handle workingEnv viewerState (requestOf (.toggleRule "POD-001" "false"))).1 none = .viewer := by
      simp only [effectiveRole, currentRole, refused]
      rfl
    rw [role]
    rfl

/-- Installing an app is not refused. -/
theorem viewer_installs_app :
    ¬ ∀ (env : Env) (state : State) (request : Request) (user : Option User),
      authenticate env state request = some user → (effectiveRole env state user).atLeast .operator = false →
        Unchanged state (handle env state request).1 := by
  intro safe
  have kept := safe workingEnv viewerState (requestOf (.installApp (some ⟨"c", "grafana"⟩))) none rfl rfl
  have releases := congrArg (fun clusters => ((clusters "c").map Kube.releases)) kept.clusters
  have installed : ((handle workingEnv viewerState (requestOf (.installApp (some ⟨"c", "grafana"⟩)))).1.clusters "c").map
      Kube.releases = some [⟨"grafana", "monitoring", "grafana"⟩] := by
    decide +kernel
  rw [installed] at releases
  exact absurd releases (by decide)

end K8Sense.Doctor.Api
