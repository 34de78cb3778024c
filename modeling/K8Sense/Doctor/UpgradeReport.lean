import Mathlib.Data.List.Pairwise
import K8Sense.Doctor.Upgrade

/-! What the report of an upgrade promises: its findings only get worse with later
targets, and they are the affected APIs that are in use, each once. -/

namespace K8Sense.Doctor.Upgrade
open NetworkMap

def Severity.rank : Severity → Nat
  | .warning => 0
  | .blocker => 1

theorem severity_monotone {entry : Deprecation} {first second : Int} (later : first ≤ second) {severity : Severity}
    (judged : severityForTarget entry first = some severity) :
    ∃ other, severityForTarget entry second = some other ∧ severity.rank ≤ other.rank := by
  unfold severityForTarget at judged
  split at judged
  next removed =>
    obtain rfl := Option.some.inj judged
    exact ⟨.blocker, if_pos ⟨removed.1, removed.2.trans later⟩, Nat.le_refl 1⟩
  next =>
    split at judged
    next deprecated =>
      obtain rfl := Option.some.inj judged
      unfold severityForTarget
      split
      next => exact ⟨.blocker, rfl, Nat.zero_le 1⟩
      next => exact ⟨.warning, if_pos ⟨deprecated.1, deprecated.2.trans later⟩, Nat.le_refl 0⟩
    next => cases judged

/-- The items are about the same use of an API. -/
def SameUse (first second : UpgradeItem) : Prop :=
  first.namespace = second.namespace ∧ first.kind = second.kind ∧ first.name = second.name ∧
    first.apiVersion = second.apiVersion ∧ first.source = second.source

theorem sameUse_of_item {use : Use} {first second : Int} {item other : UpgradeItem} (made : use.item first = some item)
    (alsoMade : use.item second = some other) : SameUse item other := by
  obtain ⟨_, _, _, same⟩ := item_some made
  obtain ⟨_, _, _, alsoSame⟩ := item_some alsoMade
  rw [same, alsoSame]
  exact ⟨rfl, rfl, rfl, rfl, rfl⟩

theorem item_monotone {use : Use} {first second : Int} (later : first ≤ second) {item : UpgradeItem}
    (made : use.item first = some item) :
    ∃ other, use.item second = some other ∧ item.severity.rank ≤ other.severity.rank := by
  obtain ⟨entry, found, judged, _⟩ := item_some made
  obtain ⟨severity, alsoJudged, worse⟩ := severity_monotone later judged
  refine ⟨⟨use.namespace.text, use.kind, use.origin.name, use.apiVersion, entry.deprecatedIn, entry.removedIn,
    entry.replacement, severity, use.origin.source⟩, ?_, worse⟩
  simp [Use.item, itemFor, found, alsoJudged]

/-- Every use in the first report is in the second, where it is at least as
severe, and there are no fewer blockers. -/
structure Grows (first second : UpgradeReport) : Prop where
  reported : ∀ item ∈ first.items, ∃ other ∈ second.items, SameUse item other ∧ item.severity.rank ≤ other.severity.rank
  blocked : ∀ item ∈ first.items, item.severity = .blocker → ∃ other ∈ second.items, SameUse item other ∧ other.severity = .blocker
  blockers : first.blockers ≤ second.blockers

section
variable (env : Env) (sorter other : Sorter) (cluster : Cluster) {first second : String}

theorem reported_later (later : targetMinor cluster first ≤ targetMinor cluster second) {item : UpgradeItem}
    (member : item ∈ (buildUpgradeReport env sorter cluster first).items) :
    ∃ next ∈ (buildUpgradeReport env other cluster second).items, SameUse item next ∧ itemKey item = itemKey next ∧
      item.severity.rank ≤ next.severity.rank := by
  obtain ⟨use, read, made⟩ := (mem_report env cluster sorter first).mp member
  obtain ⟨next, alsoMade, worse⟩ := item_monotone later made
  refine ⟨next, (mem_report env cluster other second).mpr ⟨use, read, alsoMade⟩, sameUse_of_item made alsoMade, ?_, worse⟩
  rw [item_key made, item_key alsoMade]

theorem blocker_of_rank {item next : UpgradeItem} (blocks : item.severity = .blocker)
    (worse : item.severity.rank ≤ next.severity.rank) : next.severity = .blocker := by
  rw [blocks] at worse
  cases severity : next.severity with
  | blocker => rfl
  | warning =>
    rw [severity] at worse
    exact absurd worse (by decide)

/-- What a target breaks, a later target breaks as well. -/
theorem report_monotone (later : targetMinor cluster first ≤ targetMinor cluster second) :
    Grows (buildUpgradeReport env sorter cluster first) (buildUpgradeReport env other cluster second) := by
  refine ⟨?_, ?_, ?_⟩
  · intro item member
    obtain ⟨next, present, same, _, worse⟩ := reported_later env sorter other cluster later member
    exact ⟨next, present, same, worse⟩
  · intro item member blocks
    obtain ⟨next, present, same, _, worse⟩ := reported_later env sorter other cluster later member
    exact ⟨next, present, same, blocker_of_rank blocks worse⟩
  · rw [(report_counts env cluster sorter first).1, (report_counts env cluster other second).1, List.countP_eq_length_filter,
      List.countP_eq_length_filter]
    -- the keys of the blockers are distinct, and those for the earlier target are among the others
    have distinct := ((report_keys env cluster sorter first).sublist (List.filter_sublist.map itemKey) :
      (((buildUpgradeReport env sorter cluster first).items.filter fun item => item.severity = .blocker).map itemKey).Nodup)
    have among : (((buildUpgradeReport env sorter cluster first).items.filter fun item => item.severity = .blocker).map itemKey) ⊆
        ((buildUpgradeReport env other cluster second).items.filter fun item => item.severity = .blocker).map itemKey := by
      intro key member
      obtain ⟨item, kept, rfl⟩ := List.mem_map.mp member
      obtain ⟨present, blocks⟩ := List.mem_filter.mp kept
      obtain ⟨next, alsoPresent, _, same, worse⟩ := reported_later env sorter other cluster later present
      rw [same]
      apply List.mem_map_of_mem
      exact List.mem_filter.mpr ⟨alsoPresent, decide_eq_true (blocker_of_rank (of_decide_eq_true blocks) worse)⟩
    simpa using distinct.length_le_of_subset among

end

/-- Items in the order of the report, those of one severity and kind as they were. -/
def inOrder (first second : UpgradeItem) : Bool := !itemBefore second first

theorem inOrder_iff {first second : UpgradeItem} : inOrder first second = true ↔
    second.severity.rank < first.severity.rank ∨ second.severity = first.severity ∧ first.kind ≤ second.kind := by
  have kinds : (!decide (second.kind < first.kind)) = true ↔ first.kind ≤ second.kind := by
    rw [Bool.not_eq_true', decide_eq_false_iff_not, String.not_lt]
  rw [← kinds]
  unfold inOrder itemBefore
  generalize decide (second.kind < first.kind) = before
  cases first.severity <;> cases second.severity <;> simp [Severity.rank]

/-- A stable sort is one of those that may be used. -/
def stableSorter : Sorter where
  sort items := items.mergeSort inOrder
  perm items := List.mergeSort_perm items inOrder
  ordered items := by
    have sorted : (items.mergeSort inOrder).Pairwise fun first second => inOrder first second = true := by
      apply List.pairwise_mergeSort
      · intro first second third before next
        rw [inOrder_iff] at before next ⊢
        rcases before with worse | ⟨same, kinds⟩
        · rcases next with later | ⟨alike, _⟩
          · exact Or.inl (later.trans worse)
          · exact Or.inl (alike ▸ worse)
        · rcases next with later | ⟨alike, others⟩
          · exact Or.inl (same ▸ later)
          · exact Or.inr ⟨alike.trans same, String.le_trans kinds others⟩
      · intro first second
        rw [Bool.or_eq_true, inOrder_iff, inOrder_iff]
        cases first.severity <;> cases second.severity <;> simp [Severity.rank, String.le_total]
    exact sorted.imp fun ordered => by simpa [inOrder] using ordered

/-! Releases as Helm stores them: one with a CronJob of an API that is removed, and
the same after it was changed. -/

private def oldRelease : String :=
  "H4sIAAAAAAAC/6tWyk3My0xLLS5RslJKLMgMSy0qzszPs1JISixJztAvM0xKLUk0jMnLzsxLsVJwLsrP88pPislTqgUA+f15kDkAAAA="

private def newRelease : String :=
  "H4sIAAAAAAAC/6tWyk3My0xLLS5RslJKLMgMSy0qzszPs1JISixJztAvM4zJy87MS7FScC7Kz/PKT4rJU6oFANrc87g0AAAA"

private def oldGzip : List UInt8 :=
  [31, 139, 8, 0, 0, 0, 0, 0, 2, 255, 171, 86, 202, 77, 204, 203, 76, 75, 45, 46, 81, 178, 82, 74, 44, 200, 12, 75, 45, 42,
   206, 204, 207, 179, 82, 72, 74, 44, 73, 206, 208, 47, 51, 76, 74, 45, 73, 52, 140, 201, 203, 206, 204, 75, 177, 82, 112, 46,
   202, 207, 243, 202, 79, 138, 201, 83, 170, 5, 0, 249, 253, 121, 144, 57, 0, 0, 0]

private def newGzip : List UInt8 :=
  [31, 139, 8, 0, 0, 0, 0, 0, 2, 255, 171, 86, 202, 77, 204, 203, 76, 75, 45, 46, 81, 178, 82, 74, 44, 200, 12, 75, 45, 42,
   206, 204, 207, 179, 82, 72, 74, 44, 73, 206, 208, 47, 51, 140, 201, 203, 206, 204, 75, 177, 82, 112, 46, 202, 207, 243, 202,
   79, 138, 201, 83, 170, 5, 0, 218, 220, 243, 184, 52, 0, 0, 0]

private def oldManifest : String := "apiVersion: batch/v1beta1\nkind: CronJob\n"

private def newManifest : String := "apiVersion: batch/v1\nkind: CronJob\n"

private def bytes (text : String) : List UInt8 := text.toList.map fun char => UInt8.ofNat char.toNat

private def oldJSON : List UInt8 := bytes "\x7b\"manifest\":\"apiVersion: batch/v1beta1\\nkind: CronJob\\n\"\x7d"

private def newJSON : List UInt8 := bytes "\x7b\"manifest\":\"apiVersion: batch/v1\\nkind: CronJob\\n\"\x7d"

/-- The libraries on these two releases. -/
private def libraries : Env where
  decodeBase64 text := if text = oldRelease then some oldGzip else if text = newRelease then some newGzip else none
  gunzip gzipped := if gzipped = oldGzip then some oldJSON else if gzipped = newGzip then some newJSON else none
  releaseManifest raw := if raw = oldJSON then some oldManifest else if raw = newJSON then some newManifest else none
  appliedAPIVersion _ := ("", "")

private def revision (status release : String) (free : '/' ∉ status.toList) : Secret where
  «namespace» := ⟨"apps", by decide⟩
  type := helmReleaseType
  name := ⟨"batch", by decide⟩
  status := ⟨status, free⟩
  release := release

private def holding (secrets : List Secret) : Cluster where
  serverVersion := some ⟨"1", "24", "v1.24.3"⟩
  secrets
  objects _ := []
  unlisted := []
  fails _ := false

theorem report_monotone_sample :
    targetMinor (holding [revision "deployed" oldRelease (by decide)]) "1.23" ≤
        targetMinor (holding [revision "deployed" oldRelease (by decide)]) "1.25" ∧
      Grows (buildUpgradeReport libraries stableSorter (holding [revision "deployed" oldRelease (by decide)]) "1.23")
        (buildUpgradeReport libraries stableSorter (holding [revision "deployed" oldRelease (by decide)]) "1.25") :=
  ⟨by decide, report_monotone libraries stableSorter stableSorter _ (by decide)⟩

/-- The revision of its release that is in the cluster. -/
def deployed (secret : Secret) : Bool := secret.status.text = "deployed"

/-- What is in use: the objects of the deployed revisions, by what a YAML reader
finds in their manifests, and the objects of listed kinds with an applied
configuration. -/
def inUse (env : Env) (documents : String → List (String × String)) (cluster : Cluster) : List Use :=
  (cluster.secrets.filter deployed).flatMap (releaseUses env documents) ++
    appliedCalls.flatMap fun call => (cluster.objects call).filterMap (appliedUse env)

/-- The API is deprecated or removed in the target version. -/
def affected (minor : Int) (api : String × String) : Bool :=
  ((lookupDeprecation api.1 api.2).bind fun entry => severityForTarget entry minor).isSome

def Use.affected (minor : Int) (use : Use) : Bool := Upgrade.affected minor (use.apiVersion, use.kind)

theorem affected_iff {minor : Int} {use : Use} : use.affected minor = true ↔ ∃ item, use.item minor = some item := by
  unfold Use.affected Upgrade.affected Use.item itemFor
  cases lookupDeprecation use.apiVersion use.kind with
  | none => simp
  | some entry => simp [Option.isSome_iff_exists]

/-- The release asks for the API, going by a reading of its manifest. -/
def Asks (env : Env) (pairs : String → List (String × String)) (secret : Secret) (api : String × String) : Prop :=
  secret.type = helmReleaseType ∧ ∃ manifest, decodeHelmManifest env secret.release = some manifest ∧ api ∈ pairs manifest

/-- Revisions of one release. -/
def SameRelease (first second : Secret) : Prop := first.namespace = second.namespace ∧ first.name = second.name

section
variable (env : Env) (documents : String → List (String × String)) (sorter : Sorter) (cluster : Cluster) (target : String)

/-- The items that there should be: those of the affected APIs in use, also by
objects of the kinds that are not listed. -/
def usedItems (minor : Int) : List UpgradeItem :=
  (inUse env documents cluster).filterMap (Use.item minor) ++
    cluster.unlisted.filterMap fun object => add env minor object.namespace object.name object.lastApplied

/-- The report has one item for each affected API that is in use, and counts the
items of each severity. -/
structure Conserved : Prop where
  items : (buildUpgradeReport env sorter cluster target).items.Perm
    (usedItems env documents cluster (targetMinor cluster target))
  blockers : (buildUpgradeReport env sorter cluster target).blockers =
    ((buildUpgradeReport env sorter cluster target).items.filter fun item => item.severity = .blocker).length
  warnings : (buildUpgradeReport env sorter cluster target).warnings =
    ((buildUpgradeReport env sorter cluster target).items.filter fun item => item.severity = .warning).length

/-- No two objects that ask for an affected API agree in all that an item tells,
those applied under one are of kinds whose list calls work, and a release is read
as asking for one, by the lines of any of its revisions, exactly when the deployed
revision does. -/
structure Faithful (minor : Int) : Prop where
  distinct : ((inUse env documents cluster).filter (Use.affected minor)).Nodup
  unlisted : ∀ object ∈ cluster.unlisted, ∀ annotation, object.lastApplied = some annotation →
    affected minor (env.appliedAPIVersion annotation) = false
  objects : ∀ call ∈ appliedCalls, cluster.fails call = true → ∀ object ∈ cluster.objects call,
    ∀ annotation, object.lastApplied = some annotation → affected minor (env.appliedAPIVersion annotation) = false
  secrets : cluster.fails .secrets = true → ∀ secret ∈ cluster.secrets, deployed secret = true →
    ∀ api, affected minor api = true → ¬Asks env documents secret api
  current : cluster.fails .secrets = false → ∀ secret ∈ cluster.secrets, ∀ api, affected minor api = true →
    Asks env manifestAPIVersions secret api →
      ∃ other ∈ cluster.secrets, deployed other = true ∧ SameRelease other secret ∧ Asks env documents other api
  read : cluster.fails .secrets = false → ∀ secret ∈ cluster.secrets, deployed secret = true →
    ∀ api, affected minor api = true → Asks env documents secret api →
      ∃ other ∈ cluster.secrets, SameRelease other secret ∧ Asks env manifestAPIVersions other api

theorem items_nodup (minor : Int) (uses : List Use) :
    (uses.filterMap (Use.item minor)).Nodup ↔ (uses.filter (Use.affected minor)).Nodup := by
  rw [List.Nodup, List.Nodup, List.pairwise_filterMap, List.pairwise_filter]
  constructor
  · intro distinct
    refine distinct.imp ?_
    intro use other apart affected _ same
    obtain ⟨item, made⟩ := affected_iff.mp affected
    exact apart item made item (same ▸ made) rfl
  · intro distinct
    refine distinct.imp ?_
    intro use other apart item made another alsoMade same
    exact apart (affected_iff.mpr ⟨item, made⟩) (affected_iff.mpr ⟨another, alsoMade⟩) (use_of_key made alsoMade (by rw [same]))

variable {env documents cluster}

theorem mem_releaseUses {pairs : String → List (String × String)} {secret : Secret} {use : Use} :
    use ∈ releaseUses env pairs secret ↔ use.namespace = secret.namespace ∧ use.origin = .helm secret.name ∧
      Asks env pairs secret (use.apiVersion, use.kind) := by
  obtain ⟨place, origin, apiVersion, kind⟩ := use
  unfold releaseUses Asks
  split
  next other => simp [other]
  next own =>
    rw [not_not] at own
    cases decoded : decodeHelmManifest env secret.release with
    | none => simp
    | some manifest =>
      simp only [own, List.mem_map, Use.mk.injEq, Option.some.injEq, exists_eq_left', true_and, Prod.exists]
      constructor
      · rintro ⟨version, asked, member, rfl, rfl, rfl, rfl⟩
        exact ⟨rfl, rfl, member⟩
      · rintro ⟨rfl, rfl, member⟩
        exact ⟨apiVersion, kind, member, rfl, rfl, rfl, rfl⟩

theorem mem_releases {pairs : String → List (String × String)} {secrets : List Secret} {use : Use} :
    use ∈ secrets.flatMap (releaseUses env pairs) ↔ ∃ secret ∈ secrets, use.namespace = secret.namespace ∧
      use.origin = .helm secret.name ∧ Asks env pairs secret (use.apiVersion, use.kind) := by
  simp only [List.mem_flatMap, mem_releaseUses]

theorem applied_origin {objects : List Applied} {use : Use} (member : use ∈ objects.filterMap (appliedUse env)) :
    ∃ name, use.origin = .applied name := by
  obtain ⟨object, _, made⟩ := List.mem_filterMap.mp member
  obtain ⟨_, _, rfl⟩ := Option.map_eq_some_iff.mp made
  exact ⟨object.name, rfl⟩

theorem mem_readUses {use : Use} : use ∈ readUses env cluster ↔
    cluster.fails .secrets = false ∧ use ∈ cluster.secrets.flatMap (releaseUses env manifestAPIVersions) ∨
      ∃ call ∈ appliedCalls, cluster.fails call = false ∧ use ∈ (cluster.objects call).filterMap (appliedUse env) := by
  have listed {uses : List Use} {call : ListCall} : use ∈ (if cluster.fails call then [] else uses) ↔
      cluster.fails call = false ∧ use ∈ uses := by
    cases cluster.fails call <;> simp
  rw [readUses, List.mem_append]
  apply or_congr listed
  rw [List.mem_flatMap]
  simp only [listed]

theorem mem_inUse {use : Use} : use ∈ inUse env documents cluster ↔
    use ∈ (cluster.secrets.filter deployed).flatMap (releaseUses env documents) ∨
      ∃ call ∈ appliedCalls, use ∈ (cluster.objects call).filterMap (appliedUse env) := by
  rw [inUse, List.mem_append]
  exact or_congr_right List.mem_flatMap

theorem add_source {minor : Int} {place name : String} {lastApplied : Option String} {item : UpgradeItem}
    (added : add env minor place name lastApplied = some item) : item.source = .applied := by
  cases lastApplied with
  | none => cases added
  | some annotation =>
    simp only [add, itemFor] at added
    split at added
    next => cases added
    next =>
      obtain ⟨_, _, rfl⟩ := Option.map_eq_some_iff.mp added
      rfl

theorem add_isSome {minor : Int} (place name : String) {manifest : String} :
    (add env minor place name (some manifest)).isSome = affected minor (env.appliedAPIVersion manifest) := by
  simp only [add, itemFor, affected]
  cases lookupDeprecation (env.appliedAPIVersion manifest).1 (env.appliedAPIVersion manifest).2 <;> simp

theorem item_source {minor : Int} {use : Use} {item : UpgradeItem} (made : use.item minor = some item) :
    item.source = use.origin.source := by
  obtain ⟨_, _, _, same⟩ := item_some made
  rw [same]

theorem conserved_of_same : Conserved env documents sorter cluster target ↔
    (usedItems env documents cluster (targetMinor cluster target)).Nodup ∧ ∀ item,
      (∃ use ∈ readUses env cluster, use.item (targetMinor cluster target) = some item) ↔
        item ∈ usedItems env documents cluster (targetMinor cluster target) := by
  have once : (buildUpgradeReport env sorter cluster target).items.Nodup :=
    (report_keys env cluster sorter target).of_map itemKey
  constructor
  · intro conserved
    refine ⟨conserved.items.nodup_iff.mp once, fun item => ?_⟩
    rw [← mem_report env cluster sorter target]
    exact conserved.items.mem_iff
  · rintro ⟨distinct, same⟩
    obtain ⟨blockers, warnings⟩ := report_counts env cluster sorter target
    refine ⟨?_, by rw [blockers, List.countP_eq_length_filter], by rw [warnings, List.countP_eq_length_filter]⟩
    rw [List.perm_ext_iff_of_nodup once distinct]
    intro item
    rw [mem_report, same]

theorem listed_once {minor : Int} (distinct : ((inUse env documents cluster).filter (Use.affected minor)).Nodup)
    {first second : ListCall} (listed : first ∈ appliedCalls) (alsoListed : second ∈ appliedCalls) {use : Use}
    (present : use ∈ (cluster.objects first).filterMap (appliedUse env))
    (alsoPresent : use ∈ (cluster.objects second).filterMap (appliedUse env)) (bad : use.affected minor = true) :
    first = second := by
  rw [inUse, List.filter_append, List.filter_flatMap, List.filter_flatMap] at distinct
  obtain ⟨_, apart⟩ := List.nodup_flatMap.mp (List.nodup_append.mp distinct).2.1
  by_contra different
  have symmetric : Std.Symm (Function.onFun List.Disjoint fun call =>
      ((cluster.objects call).filterMap (appliedUse env)).filter (Use.affected minor)) := ⟨fun _ _ => List.disjoint_symm⟩
  have disjoint := apart.forall listed alsoListed different
  exact disjoint (List.mem_filter.mpr ⟨present, bad⟩) (List.mem_filter.mpr ⟨alsoPresent, bad⟩)

section
variable {minor : Int}

theorem faithful_of_same (distinct : (usedItems env documents cluster minor).Nodup)
    (same : ∀ item, (∃ use ∈ readUses env cluster, use.item minor = some item) ↔ item ∈ usedItems env documents cluster minor) :
    Faithful env documents cluster minor := by
  obtain ⟨once, _, apart⟩ := List.nodup_append.mp distinct
  rw [items_nodup] at once
  have read : ∀ use ∈ inUse env documents cluster, use.affected minor = true → use ∈ readUses env cluster := by
    intro use present bad
    obtain ⟨item, made⟩ := affected_iff.mp bad
    obtain ⟨other, read, alsoMade⟩ :=
      (same item).mpr (List.mem_append_left _ (List.mem_filterMap.mpr ⟨use, present, made⟩))
    exact use_of_key alsoMade made rfl ▸ read
  refine ⟨once, ?_, ?_, ?_, ?_, ?_⟩
  · intro object member annotation applied
    by_contra bad
    rw [Bool.not_eq_false, ← add_isSome object.namespace object.name] at bad
    obtain ⟨item, added⟩ := Option.isSome_iff_exists.mp bad
    rw [← applied] at added
    have unlisted : item ∈ cluster.unlisted.filterMap fun object => add env minor object.namespace object.name object.lastApplied :=
      List.mem_filterMap.mpr ⟨object, member, added⟩
    obtain ⟨use, read, made⟩ := (same item).mpr (List.mem_append_right _ unlisted)
    rcases mem_readUses.mp read with ⟨_, release⟩ | ⟨call, listed, _, present⟩
    · obtain ⟨_, _, _, origin, _⟩ := mem_releases.mp release
      have source := (item_source made).symm.trans (add_source added)
      rw [origin] at source
      cases source
    · have used : use ∈ inUse env documents cluster := mem_inUse.mpr (Or.inr ⟨call, listed, present⟩)
      exact apart item (List.mem_filterMap.mpr ⟨use, used, made⟩) item unlisted rfl
  · intro call listed fails object member annotation applied
    by_contra bad
    rw [Bool.not_eq_false] at bad
    have made : appliedUse env object = some ⟨object.namespace, .applied object.name, (env.appliedAPIVersion annotation).1,
      (env.appliedAPIVersion annotation).2⟩ := by rw [appliedUse, applied, Option.map_some]
    have present := List.mem_filterMap.mpr ⟨object, member, made⟩
    have found := read _ (mem_inUse.mpr (Or.inr ⟨call, listed, present⟩)) bad
    rcases mem_readUses.mp found with ⟨_, release⟩ | ⟨other, alsoListed, works, alsoPresent⟩
    · obtain ⟨_, _, _, origin, _⟩ := mem_releases.mp release
      cases origin
    · rw [← listed_once once listed alsoListed present alsoPresent bad, fails] at works
      cases works
  · intro fails secret member current api bad asks
    have present : (⟨secret.namespace, .helm secret.name, api.1, api.2⟩ : Use) ∈ inUse env documents cluster :=
      mem_inUse.mpr (Or.inl (mem_releases.mpr ⟨secret, List.mem_filter.mpr ⟨member, current⟩, rfl, rfl, asks⟩))
    rcases mem_readUses.mp (read _ present bad) with ⟨works, _⟩ | ⟨_, _, _, listed⟩
    · rw [fails] at works
      cases works
    · obtain ⟨_, origin⟩ := applied_origin listed
      cases origin
  · intro works secret member api bad asks
    have found : (⟨secret.namespace, .helm secret.name, api.1, api.2⟩ : Use) ∈ readUses env cluster :=
      mem_readUses.mpr (Or.inl ⟨works, mem_releases.mpr ⟨secret, member, rfl, rfl, asks⟩⟩)
    obtain ⟨item, made⟩ : ∃ item, Use.item minor ⟨secret.namespace, .helm secret.name, api.1, api.2⟩ = some item :=
      affected_iff.mp bad
    rcases List.mem_append.mp ((same item).mp ⟨_, found, made⟩) with used | unlisted
    · obtain ⟨use, present, alsoMade⟩ := List.mem_filterMap.mp used
      obtain rfl := use_of_key alsoMade made rfl
      rcases mem_inUse.mp present with release | ⟨_, _, listed⟩
      · obtain ⟨other, kept, place, origin, alsoAsks⟩ := mem_releases.mp release
        obtain ⟨inside, current⟩ := List.mem_filter.mp kept
        exact ⟨other, inside, current, ⟨place.symm, (Origin.helm.inj origin).symm⟩, alsoAsks⟩
      · obtain ⟨_, origin⟩ := applied_origin listed
        cases origin
    · obtain ⟨object, _, added⟩ := List.mem_filterMap.mp unlisted
      cases (item_source made).symm.trans (add_source added)
  · intro works secret member current api bad asks
    have present : (⟨secret.namespace, .helm secret.name, api.1, api.2⟩ : Use) ∈ inUse env documents cluster :=
      mem_inUse.mpr (Or.inl (mem_releases.mpr ⟨secret, List.mem_filter.mpr ⟨member, current⟩, rfl, rfl, asks⟩))
    rcases mem_readUses.mp (read _ present bad) with ⟨_, release⟩ | ⟨_, _, _, listed⟩
    · obtain ⟨other, inside, place, origin, alsoAsks⟩ := mem_releases.mp release
      exact ⟨other, inside, ⟨place.symm, (Origin.helm.inj origin).symm⟩, alsoAsks⟩
    · obtain ⟨_, origin⟩ := applied_origin listed
      cases origin

theorem same_of_faithful (faithful : Faithful env documents cluster minor) :
    (usedItems env documents cluster minor).Nodup ∧
      ∀ item, (∃ use ∈ readUses env cluster, use.item minor = some item) ↔ item ∈ usedItems env documents cluster minor := by
  have unlisted : (cluster.unlisted.filterMap fun object => add env minor object.namespace object.name object.lastApplied) = [] := by
    rw [List.filterMap_eq_nil_iff]
    intro object member
    cases applied : object.lastApplied with
    | none => rfl
    | some annotation =>
      rw [← Option.not_isSome_iff_eq_none, add_isSome, faithful.unlisted object member annotation applied]
      exact Bool.false_ne_true
  rw [usedItems, unlisted, List.append_nil, items_nodup]
  refine ⟨faithful.distinct, fun item => ?_⟩
  rw [List.mem_filterMap]
  constructor
  · rintro ⟨use, read, made⟩
    have bad := affected_iff.mpr ⟨item, made⟩
    refine ⟨use, mem_inUse.mpr ?_, made⟩
    rcases mem_readUses.mp read with ⟨works, release⟩ | ⟨call, listed, _, present⟩
    · left
      obtain ⟨secret, member, place, origin, asks⟩ := mem_releases.mp release
      obtain ⟨other, inside, current, ⟨samePlace, sameName⟩, alsoAsks⟩ := faithful.current works secret member _ bad asks
      exact mem_releases.mpr ⟨other, List.mem_filter.mpr ⟨inside, current⟩, place.trans samePlace.symm, by rw [origin, sameName], alsoAsks⟩
    · exact Or.inr ⟨call, listed, present⟩
  · rintro ⟨use, present, made⟩
    have bad := affected_iff.mpr ⟨item, made⟩
    refine ⟨use, mem_readUses.mpr ?_, made⟩
    rcases mem_inUse.mp present with release | ⟨call, listed, member⟩
    · left
      obtain ⟨secret, kept, place, origin, asks⟩ := mem_releases.mp release
      obtain ⟨inside, current⟩ := List.mem_filter.mp kept
      cases works : cluster.fails .secrets with
      | true => exact absurd asks (faithful.secrets works secret inside current _ bad)
      | false =>
        obtain ⟨other, also, ⟨samePlace, sameName⟩, alsoAsks⟩ := faithful.read works secret inside current _ bad asks
        exact ⟨rfl, mem_releases.mpr ⟨other, also, place.trans samePlace.symm, by rw [origin, sameName], alsoAsks⟩⟩
    · right
      refine ⟨call, listed, ?_, member⟩
      by_contra fails
      rw [Bool.not_eq_false] at fails
      obtain ⟨object, inside, asked⟩ := List.mem_filterMap.mp member
      obtain ⟨manifest, applied, rfl⟩ := Option.map_eq_some_iff.mp asked
      have fine := faithful.objects call listed fails object inside manifest applied
      exact absurd bad (by rw [Use.affected, fine]; exact Bool.false_ne_true)

end

variable (env documents cluster)

/-- The report is as it should be exactly when the cluster is read faithfully. -/
theorem conserved_iff : Conserved env documents sorter cluster target ↔
    Faithful env documents cluster (targetMinor cluster target) := by
  rw [conserved_of_same]
  exact ⟨fun same => faithful_of_same same.1 same.2, same_of_faithful⟩

end

/-- A revision that was superseded asks for an API that its release has given up. -/
theorem superseded_reported :
    ¬∀ (env : Env) (documents : String → List (String × String)) (sorter : Sorter) (cluster : Cluster) (target : String),
      Conserved env documents sorter cluster target := by
  intro sound
  let cluster := holding [revision "superseded" oldRelease (by decide), revision "deployed" newRelease (by decide)]
  have faithful := (conserved_iff libraries manifestAPIVersions stableSorter cluster "1.25").mp (sound _ _ _ _ _)
  have old : Asks libraries manifestAPIVersions (revision "superseded" oldRelease (by decide)) ("batch/v1beta1", "CronJob") := by
    have decoded : decodeHelmManifest libraries oldRelease = some oldManifest := by decide +kernel
    have pairs : manifestAPIVersions oldManifest = [("batch/v1beta1", "CronJob")] := by decide +kernel
    exact ⟨rfl, oldManifest, decoded, by simp [pairs]⟩
  have new : ¬Asks libraries manifestAPIVersions (revision "deployed" newRelease (by decide)) ("batch/v1beta1", "CronJob") := by
    have decoded : decodeHelmManifest libraries newRelease = some newManifest := by decide +kernel
    have pairs : manifestAPIVersions newManifest = [("batch/v1", "CronJob")] := by decide +kernel
    simp [Asks, revision, decoded, pairs]
  have bad : affected (targetMinor cluster "1.25") ("batch/v1beta1", "CronJob") = true := by decide +kernel
  obtain ⟨other, member, current, _, asks⟩ := faithful.current rfl _ (List.mem_cons_self) _ bad old
  rcases List.mem_cons.mp member with rfl | member
  · simp [deployed, revision] at current
  · obtain rfl := List.mem_singleton.mp member
    exact new asks

end K8Sense.Doctor.Upgrade
