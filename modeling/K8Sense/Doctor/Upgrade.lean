import Mathlib.Algebra.Ring.Nat
import K8Sense.Library.Distinct
import K8Sense.Library.Text
import K8Sense.Doctor.Workload

/-! Whether an upgrade removes an API that is in use: what Helm releases and
applied objects ask for is looked up in a table of removals and judged by the
target version. -/

namespace K8Sense.Doctor.Upgrade
open Text NetworkMap

/-- One API removal. An empty version is not known or not scheduled. -/
structure Deprecation where
  apiVersion : String
  kind : String
  deprecatedIn : String
  removedIn : String
  replacement : String
deriving DecidableEq

def deprecations : List Deprecation :=
  [⟨"extensions/v1beta1", "Deployment", "1.9", "1.16", "apps/v1"⟩,
   ⟨"extensions/v1beta1", "DaemonSet", "1.9", "1.16", "apps/v1"⟩,
   ⟨"extensions/v1beta1", "ReplicaSet", "1.9", "1.16", "apps/v1"⟩,
   ⟨"extensions/v1beta1", "NetworkPolicy", "1.9", "1.16", "networking.k8s.io/v1"⟩,
   ⟨"apps/v1beta1", "Deployment", "1.9", "1.16", "apps/v1"⟩,
   ⟨"apps/v1beta2", "Deployment", "1.9", "1.16", "apps/v1"⟩,
   ⟨"apps/v1beta1", "StatefulSet", "1.9", "1.16", "apps/v1"⟩,
   ⟨"apps/v1beta2", "StatefulSet", "1.9", "1.16", "apps/v1"⟩,
   ⟨"extensions/v1beta1", "Ingress", "1.14", "1.22", "networking.k8s.io/v1"⟩,
   ⟨"networking.k8s.io/v1beta1", "Ingress", "1.19", "1.22", "networking.k8s.io/v1"⟩,
   ⟨"networking.k8s.io/v1beta1", "IngressClass", "1.19", "1.22", "networking.k8s.io/v1"⟩,
   ⟨"apiextensions.k8s.io/v1beta1", "CustomResourceDefinition", "1.16", "1.22", "apiextensions.k8s.io/v1"⟩,
   ⟨"admissionregistration.k8s.io/v1beta1", "MutatingWebhookConfiguration", "1.16", "1.22", "admissionregistration.k8s.io/v1"⟩,
   ⟨"admissionregistration.k8s.io/v1beta1", "ValidatingWebhookConfiguration", "1.16", "1.22", "admissionregistration.k8s.io/v1"⟩,
   ⟨"rbac.authorization.k8s.io/v1beta1", "Role", "1.17", "1.22", "rbac.authorization.k8s.io/v1"⟩,
   ⟨"rbac.authorization.k8s.io/v1beta1", "RoleBinding", "1.17", "1.22", "rbac.authorization.k8s.io/v1"⟩,
   ⟨"rbac.authorization.k8s.io/v1beta1", "ClusterRole", "1.17", "1.22", "rbac.authorization.k8s.io/v1"⟩,
   ⟨"rbac.authorization.k8s.io/v1beta1", "ClusterRoleBinding", "1.17", "1.22", "rbac.authorization.k8s.io/v1"⟩,
   ⟨"certificates.k8s.io/v1beta1", "CertificateSigningRequest", "1.19", "1.22", "certificates.k8s.io/v1"⟩,
   ⟨"storage.k8s.io/v1beta1", "CSIDriver", "1.19", "1.22", "storage.k8s.io/v1"⟩,
   ⟨"storage.k8s.io/v1beta1", "CSINode", "1.17", "1.22", "storage.k8s.io/v1"⟩,
   ⟨"storage.k8s.io/v1beta1", "StorageClass", "1.19", "1.22", "storage.k8s.io/v1"⟩,
   ⟨"policy/v1beta1", "PodDisruptionBudget", "1.21", "1.25", "policy/v1"⟩,
   ⟨"policy/v1beta1", "PodSecurityPolicy", "1.21", "1.25", "Pod Security Admission (PSP has no replacement API)"⟩,
   ⟨"batch/v1beta1", "CronJob", "1.21", "1.25", "batch/v1"⟩,
   ⟨"discovery.k8s.io/v1beta1", "EndpointSlice", "1.21", "1.25", "discovery.k8s.io/v1"⟩,
   ⟨"node.k8s.io/v1beta1", "RuntimeClass", "1.20", "1.25", "node.k8s.io/v1"⟩,
   ⟨"autoscaling/v2beta1", "HorizontalPodAutoscaler", "1.22", "1.25", "autoscaling/v2"⟩,
   ⟨"autoscaling/v2beta2", "HorizontalPodAutoscaler", "1.23", "1.26", "autoscaling/v2"⟩,
   ⟨"flowcontrol.apiserver.k8s.io/v1beta1", "FlowSchema", "1.23", "1.26", "flowcontrol.apiserver.k8s.io/v1"⟩,
   ⟨"flowcontrol.apiserver.k8s.io/v1beta2", "FlowSchema", "1.26", "1.29", "flowcontrol.apiserver.k8s.io/v1"⟩,
   ⟨"flowcontrol.apiserver.k8s.io/v1beta3", "FlowSchema", "1.29", "1.32", "flowcontrol.apiserver.k8s.io/v1"⟩]

inductive Severity where
  | warning
  | blocker
deriving DecidableEq

inductive Source where
  | applied
  | helm
deriving DecidableEq

structure UpgradeItem where
  «namespace» : String
  kind : String
  name : String
  apiVersion : String
  deprecatedIn : String
  removedIn : String
  replacement : String
  severity : Severity
  source : Source
deriving DecidableEq

structure UpgradeReport where
  currentVersion : String
  targetMinor : Int
  blockers : Nat := 0
  warnings : Nat := 0
  items : List UpgradeItem := []
deriving DecidableEq

/-- `strconv.Atoi` of digits with its error left out: no digits are 0, and what
does not fit is the greatest number. -/
def atoi (digits : List Char) : Nat := min (Nat.ofDigitChars 10 digits 0) (2 ^ 63 - 1)

/-- The minor number of `1.32`, `v1.30.2` or `30+`. -/
def parseMinor (version : String) : Nat :=
  let parts := split '.' (trimPrefix "v" version)
  let pick := (parts[1]?).getD (parts.headD "")
  atoi (pick.toList.takeWhile Char.isDigit)

def lookupDeprecation (apiVersion kind : String) : Option Deprecation :=
  deprecations.find? fun entry => entry.apiVersion = apiVersion && entry.kind = kind

def severityForTarget (entry : Deprecation) (targetMinor : Int) : Option Severity :=
  if entry.removedIn ≠ "" ∧ parseMinor entry.removedIn ≤ targetMinor then some .blocker
  else if entry.deprecatedIn ≠ "" ∧ parseMinor entry.deprecatedIn ≤ targetMinor then some .warning
  else none

def itemFor (apiVersion kind «namespace» name : String) (source : Source) (targetMinor : Int) : Option UpgradeItem :=
  match lookupDeprecation apiVersion kind with
  | none => none
  | some entry =>
    (severityForTarget entry targetMinor).map fun severity =>
      ⟨«namespace», kind, name, apiVersion, entry.deprecatedIn, entry.removedIn, entry.replacement, severity, source⟩

/-- The loop body of `manifestAPIVersions`, on the version that is pending and the
pairs found. -/
def manifestLine (state : String × List (String × String)) (line : String) : String × List (String × String) :=
  let trimmed := trimSpace line
  if trimmed = "---" then ("", state.2)
  else if "apiVersion:".toList.isPrefixOf trimmed.toList then (trimSpace (trimPrefix "apiVersion:" trimmed), state.2)
  else if "kind:".toList.isPrefixOf trimmed.toList ∧ state.1 ≠ "" then
    ("", state.2 ++ [(state.1, trimSpace (trimPrefix "kind:" trimmed))])
  else state

def manifestAPIVersions (manifest : String) : List (String × String) :=
  ((split '\n' manifest).foldl manifestLine ("", [])).2

/-- What the report gets from libraries: decoding a release, and the `apiVersion`
and `kind` of an annotation, which are empty as far as it cannot be read. -/
structure Env where
  decodeBase64 : String → Option (List UInt8)
  gunzip : List UInt8 → Option (List UInt8)
  releaseManifest : List UInt8 → Option String
  appliedAPIVersion : String → String × String

def decodeHelmManifest (env : Env) (releaseData : String) : Option String := do
  let gzipped ← env.decodeBase64 releaseData
  let raw ← env.gunzip gzipped
  env.releaseManifest raw

/-- What the API server accepts as the value of a label has no slash. -/
structure LabelValue where
  text : String
  free : '/' ∉ text.toList

/-- A Secret with its labels `name` and `status`. The report does not look at the
status, which Helm sets to `deployed` for one revision of a release. -/
structure Secret where
  «namespace» : Name
  type : String
  name : LabelValue
  status : LabelValue
  release : String

/-- An object of a kind that is listed, with its last applied configuration. -/
structure Applied where
  «namespace» : Name
  name : Name
  lastApplied : Option String

/-- An object of another kind, which may have no namespace and whose name follows
other rules. -/
structure Unlisted where
  «namespace» : String
  name : String
  lastApplied : Option String

structure Info where
  major : String
  minor : String
  gitVersion : String
deriving DecidableEq

inductive ListCall where
  | secrets
  | ingresses
  | podDisruptionBudgets
  | cronJobs
  | horizontalPodAutoscalers
deriving DecidableEq

/-- The version of a cluster, its objects by the call that lists them and those of
the kinds that no call lists, and the calls that fail. -/
structure Cluster where
  serverVersion : Option Info
  secrets : List Secret
  objects : ListCall → List Applied
  unlisted : List Unlisted
  fails : ListCall → Bool

/-- The kinds that are looked at, in this order. -/
def appliedCalls : List ListCall := [.ingresses, .podDisruptionBudgets, .cronJobs, .horizontalPodAutoscalers]

def helmReleaseType : String := "helm.sh/release.v1"

section
variable (env : Env) (cluster : Cluster) (targetMinor : Int)

def secretItems (secret : Secret) : List UpgradeItem :=
  if secret.type ≠ helmReleaseType then []
  else match decodeHelmManifest env secret.release with
  | none => []
  | some manifest => (manifestAPIVersions manifest).filterMap fun pair =>
      itemFor pair.1 pair.2 secret.namespace.text (concat "" ["(helm: ", secret.name.text, ")"]) .helm targetMinor

def scanHelmReleases : List UpgradeItem :=
  if cluster.fails .secrets then [] else cluster.secrets.flatMap (secretItems env targetMinor)

/-- What is added for an object that was applied. -/
def add («namespace» name : String) (lastApplied : Option String) : Option UpgradeItem :=
  match lastApplied with
  | none => none
  | some annotation =>
    let pair := env.appliedAPIVersion annotation
    itemFor pair.1 pair.2 «namespace» name .applied targetMinor

def appliedItem (object : Applied) : Option UpgradeItem :=
  add env targetMinor object.namespace.text object.name.text object.lastApplied

def scanAppliedAnnotations : List UpgradeItem :=
  appliedCalls.flatMap fun call => if cluster.fails call then [] else (cluster.objects call).filterMap (appliedItem env targetMinor)

end

def itemKey (item : UpgradeItem) : String := join '/' [item.namespace, item.kind, item.name, item.apiVersion]

def dedupeUpgradeItems (items : List UpgradeItem) : List UpgradeItem := Distinct.firsts itemKey [] items

/-- The loop body that counts. -/
def countItem (report : UpgradeReport) (item : UpgradeItem) : UpgradeReport :=
  if item.severity = .blocker then { report with blockers := report.blockers + 1 }
  else { report with warnings := report.warnings + 1 }

/-- Blockers come first, then the kinds in order. -/
def itemBefore (first second : UpgradeItem) : Bool :=
  if first.severity ≠ second.severity then first.severity = .blocker else first.kind < second.kind

/-- `sort.Slice` leaves it open in which order it puts items of which neither is
before the other. -/
structure Sorter where
  sort : List UpgradeItem → List UpgradeItem
  perm : ∀ items, (sort items).Perm items
  ordered : ∀ items, (sort items).Pairwise fun first second => itemBefore second first = false

/-- The minor of the server, and 0 for one that does not tell. -/
def currentMinor (cluster : Cluster) : Nat :=
  (cluster.serverVersion.map fun info => parseMinor (concat "" [info.major, ".", info.minor])).getD 0

/-- The sum of an `int` and 2 starts again from the least number. -/
def targetMinor (cluster : Cluster) (target : String) : Int :=
  if target ≠ "" then parseMinor target else Int.bmod (currentMinor cluster + 2) (2 ^ 64)

def buildUpgradeReport (env : Env) (sorter : Sorter) (cluster : Cluster) (target : String) : UpgradeReport :=
  let minor := targetMinor cluster target
  let items := dedupeUpgradeItems (scanHelmReleases env cluster minor ++ scanAppliedAnnotations env cluster minor)
  let counted := items.foldl countItem
    { currentVersion := (cluster.serverVersion.map Info.gitVersion).getD "", targetMinor := minor }
  { counted with items := sorter.sort items }

/-! What asks for an API, and what the report makes of it. -/

inductive Origin where
  | helm (release : LabelValue)
  | applied (name : Name)

def Origin.name : Origin → String
  | .helm release => concat "" ["(helm: ", release.text, ")"]
  | .applied name => name.text

def Origin.source : Origin → Source
  | .helm _ => .helm
  | .applied _ => .applied

/-- A release or an object that asks for an API. -/
structure Use where
  «namespace» : Name
  origin : Origin
  apiVersion : String
  kind : String

def Use.item (targetMinor : Int) (use : Use) : Option UpgradeItem :=
  itemFor use.apiVersion use.kind use.namespace.text use.origin.name use.origin.source targetMinor

/-- What a release asks for, going by a reading of its manifest. -/
def releaseUses (env : Env) (pairs : String → List (String × String)) (secret : Secret) : List Use :=
  if secret.type ≠ helmReleaseType then []
  else match decodeHelmManifest env secret.release with
  | none => []
  | some manifest => (pairs manifest).map fun pair => ⟨secret.namespace, .helm secret.name, pair.1, pair.2⟩

def appliedUse (env : Env) (object : Applied) : Option Use :=
  object.lastApplied.map fun annotation =>
    ⟨object.namespace, .applied object.name, (env.appliedAPIVersion annotation).1, (env.appliedAPIVersion annotation).2⟩

/-- What the report reads, in this order. -/
def readUses (env : Env) (cluster : Cluster) : List Use :=
  (if cluster.fails .secrets then [] else cluster.secrets.flatMap (releaseUses env manifestAPIVersions)) ++
    appliedCalls.flatMap fun call => if cluster.fails call then [] else (cluster.objects call).filterMap (appliedUse env)

theorem lookupDeprecation_some {apiVersion kind : String} {entry : Deprecation}
    (found : lookupDeprecation apiVersion kind = some entry) :
    entry ∈ deprecations ∧ entry.apiVersion = apiVersion ∧ entry.kind = kind := by
  have same := List.find?_some found
  simp only [Bool.and_eq_true, decide_eq_true_eq] at same
  exact ⟨List.mem_of_find?_eq_some found, same⟩

theorem deprecations_kinds : ∀ entry ∈ deprecations, '/' ∉ entry.kind.toList := by decide

section
variable {use other : Use} {targetMinor otherMinor : Int} {item another : UpgradeItem}

theorem item_some (made : use.item targetMinor = some item) :
    ∃ entry, lookupDeprecation use.apiVersion use.kind = some entry ∧
      severityForTarget entry targetMinor = some item.severity ∧
      item = ⟨use.namespace.text, use.kind, use.origin.name, use.apiVersion, entry.deprecatedIn, entry.removedIn,
        entry.replacement, item.severity, use.origin.source⟩ := by
  unfold Use.item itemFor at made
  split at made
  next => cases made
  next entry found =>
    obtain ⟨severity, judged, rfl⟩ := Option.map_eq_some_iff.mp made
    exact ⟨entry, found, judged, rfl⟩

theorem item_key (made : use.item targetMinor = some item) :
    itemKey item = join '/' [use.namespace.text, use.kind, use.origin.name, use.apiVersion] := by
  obtain ⟨_, _, _, same⟩ := item_some made
  rw [same]
  rfl

theorem origin_free (origin : Origin) : '/' ∉ origin.name.toList := by
  cases origin with
  | applied name => exact name_free name (by decide)
  | helm release => simp [Origin.name, concat, List.intercalate, release.free]

theorem origin_injective {first second : Origin} (same : first.name = second.name) : first = second := by
  have shown (release : LabelValue) (name : Name) : (Origin.helm release).name ≠ (Origin.applied name).name := by
    intro same
    have free : '(' ∉ (Origin.helm release).name.toList := same ▸ name_free name (by decide)
    exact free (by simp [Origin.name, concat, List.intercalate])
  cases first with
  | helm release =>
    cases second with
    | helm other =>
      obtain ⟨text, free⟩ := release
      obtain ⟨another, alsoFree⟩ := other
      have texts : text = another := by
        simpa [Origin.name, concat, List.intercalate] using same
      subst texts
      rfl
    | applied name => exact absurd same (shown release name)
  | applied name =>
    cases second with
    | helm other => exact absurd same.symm (shown other name)
    | applied other =>
      obtain ⟨text, valid⟩ := name
      obtain ⟨another, alsoValid⟩ := other
      obtain rfl : text = another := same
      rfl

theorem use_of_key (made : use.item targetMinor = some item) (alsoMade : other.item otherMinor = some another)
    (same : itemKey item = itemKey another) : use = other := by
  obtain ⟨entry, found, _⟩ := item_some made
  obtain ⟨second, alsoFound, _⟩ := item_some alsoMade
  obtain ⟨listed, _, kind⟩ := lookupDeprecation_some found
  obtain ⟨alsoListed, _, otherKind⟩ := lookupDeprecation_some alsoFound
  have kindFree := kind ▸ deprecations_kinds entry listed
  have otherFree := otherKind ▸ deprecations_kinds second alsoListed
  rw [item_key made, item_key alsoMade] at same
  obtain ⟨place, rest⟩ := join_cons_injective (by simp) (by simp) (name_free _ (by decide)) (name_free _ (by decide)) same
  obtain ⟨kinds, rest⟩ := join_cons_injective (by simp) (by simp) kindFree otherFree rest
  obtain ⟨origins, versions⟩ := join_cons_injective (by simp) (by simp) (origin_free _) (origin_free _) rest
  rw [join_singleton, join_singleton] at versions
  obtain ⟨⟨first, valid⟩, origin, version, asked⟩ := use
  obtain ⟨⟨another, alsoValid⟩, second, otherVersion, otherAsked⟩ := other
  obtain rfl := origin_injective origins
  subst place kinds versions
  rfl

end

section
variable (env : Env) (cluster : Cluster) (minor : Int)

theorem scanned_eq : scanHelmReleases env cluster minor ++ scanAppliedAnnotations env cluster minor =
    (readUses env cluster).filterMap (Use.item minor) := by
  have secrets (secret : Secret) : secretItems env minor secret =
      (releaseUses env manifestAPIVersions secret).filterMap (Use.item minor) := by
    unfold secretItems releaseUses
    split
    · rfl
    · split
      · rfl
      · rw [List.filterMap_map]
        rfl
  have objects : appliedItem env minor = fun object => (appliedUse env object).bind (Use.item minor) := by
    funext object
    unfold appliedItem add appliedUse
    cases object.lastApplied <;> rfl
  unfold scanHelmReleases scanAppliedAnnotations readUses
  rw [List.filterMap_append, List.filterMap_flatMap]
  congr 1
  · split
    · rfl
    · rw [List.filterMap_flatMap]
      exact List.flatMap_congr fun secret _ => secrets secret
  · apply List.flatMap_congr
    intro call _
    split
    · rfl
    · rw [List.filterMap_filterMap, objects]

theorem countItems_eq (items : List UpgradeItem) (report : UpgradeReport) :
    items.foldl countItem report = { report with
      blockers := report.blockers + items.countP fun item => item.severity = .blocker
      warnings := report.warnings + items.countP fun item => item.severity = .warning } := by
  induction items generalizing report with
  | nil => rfl
  | cons item rest ih =>
    rw [List.foldl_cons, ih]
    cases severity : item.severity <;> simp [countItem, severity, Nat.add_assoc, Nat.add_comm 1]

variable (sorter : Sorter) (target : String)

theorem report_perm : (buildUpgradeReport env sorter cluster target).items.Perm
    (Distinct.firsts itemKey [] ((readUses env cluster).filterMap (Use.item (targetMinor cluster target)))) := by
  rw [← scanned_eq]
  exact sorter.perm _

theorem report_keys : ((buildUpgradeReport env sorter cluster target).items.map itemKey).Nodup := by
  rw [((report_perm env cluster sorter target).map itemKey).nodup_iff]
  exact Distinct.firsts_nodup _ _

theorem mem_report {item : UpgradeItem} : item ∈ (buildUpgradeReport env sorter cluster target).items ↔
    ∃ use ∈ readUses env cluster, use.item (targetMinor cluster target) = some item := by
  rw [(report_perm env cluster sorter target).mem_iff]
  constructor
  · intro kept
    obtain ⟨use, read, made⟩ := List.mem_filterMap.mp (List.mem_of_find?_eq_some (Distinct.mem_firsts.mp kept).2)
    exact ⟨use, read, made⟩
  · rintro ⟨use, read, made⟩
    have scanned : ∃ other ∈ (readUses env cluster).filterMap (Use.item (targetMinor cluster target)),
        itemKey other = itemKey item := ⟨item, List.mem_filterMap.mpr ⟨use, read, made⟩, rfl⟩
    obtain ⟨first, kept, same⟩ := Distinct.exists_firsts.mpr scanned
    obtain ⟨other, _, alsoMade⟩ := List.mem_filterMap.mp (List.mem_of_find?_eq_some (Distinct.mem_firsts.mp kept).2)
    rw [← use_of_key alsoMade made same, alsoMade, Option.some.injEq] at made
    exact made ▸ kept

theorem report_counts :
    let report := buildUpgradeReport env sorter cluster target
    report.blockers = report.items.countP (fun item => item.severity = .blocker) ∧
      report.warnings = report.items.countP (fun item => item.severity = .warning) := by
  simp only [buildUpgradeReport, countItems_eq, (sorter.perm _).countP_eq]
  exact ⟨Nat.zero_add _, Nat.zero_add _⟩

end

end K8Sense.Doctor.Upgrade
