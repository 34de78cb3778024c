import K8Sense.Library.Distinct
import K8Sense.Stateless.Cached

/-! The names of stateless clusters: reported by the server for the kubeconfigs of the
browser, looked up in the browser, and looked up again by the server. Base64 and YAML
are read by other packages on both sides. -/

namespace K8Sense.Stateless.ClusterNames
open Kubeconfig

/-! What the server reports. -/

structure Cluster where
  name : String
  server : String
  authType : String
  source : String
deriving DecidableEq

inductive SetupError where
  | kubeconfig (err : String)
  | context (contextError : ContextLoadError)
  | customName (err : String)

/-- The contexts of a kubeconfig have no settings for OIDC of their own. -/
def authType (context : Context) : String :=
  if (context.authInfo.bind fun authInfo => authInfo.authProvider).isSome then "oidc" else ""

def parseCustomNameClusters : List Context → List Cluster × List SetupError
  | [] => ([], [])
  | context :: rest =>
    let (clusters, setupErrors) := parseCustomNameClusters rest
    match effectiveContextName context with
    | .error err => (clusters, .customName err :: setupErrors)
    | .ok name => (⟨name, context.cluster.server, authType context, "dynamic_cluster"⟩ :: clusters, setupErrors)

section
variable {Bytes : Type} (packages : Packages Bytes)

/-- Nothing where it panics. -/
def parseClusterFromKubeConfig : List String → Option (List Cluster × List SetupError)
  | [] => some ([], [])
  | kubeConfig :: rest =>
    match loadContextsFromBase64String packages kubeConfig dynamicClusterSource with
    | none => none
    | some (.error err) => (parseClusterFromKubeConfig rest).map fun (clusters, setupErrors) =>
      (clusters, .kubeconfig err :: setupErrors)
    | some (.ok (contexts, contextLoadErrors)) => (parseClusterFromKubeConfig rest).map fun (clusters, setupErrors) =>
      let (parsedClusters, parseErrs) := parseCustomNameClusters contexts
      (parsedClusters ++ clusters, contextLoadErrors.map .context ++ parseErrs ++ setupErrors)

def parseKubeConfig (kubeconfigs : List String) : Option (Except String (List Cluster)) :=
  if kubeconfigs = [] then some (.error "kubeconfigs is required")
  else (parseClusterFromKubeConfig packages kubeconfigs).map fun (clusters, setupErrors) =>
    if setupErrors.isEmpty = false ∧ clusters = [] then .error "setting up contexts from kubeconfig" else .ok clusters

end

/-! The search in the browser. Nothing stands for an exception, after which the promise is
never settled. -/

/-- How a value of nothing is shown. -/
def null : Yaml := .other "<nil>"

/-- A property of a value, where a value that is not there is `undefined`. -/
def property (name : String) : Option Yaml → Option (Option Yaml)
  | none => none
  | some (.other shown) => if shown = "<nil>" then none else some none
  | some (.fields rows) => some (Fields.get name rows)
  | some _ => some none

/-- `===` with a text. -/
def equals (text : String) : Option Yaml → Bool
  | some (.text value) => value = text
  | _ => false

/-- `find` of an array. -/
def find (test : Yaml → Option Bool) : List Yaml → Option (Option Yaml)
  | [] => some none
  | entry :: rest =>
    match test entry with
    | none => none
    | some true => some (some entry)
    | some false => find test rest

/-- The custom name in the extensions of an entry. -/
def customName (context : Yaml) : Option (Option Yaml) := do
  let data ← property "context" (some context)
  let extensions ← property "extensions" data
  match extensions with
  | none => some none
  | some (.other shown) => if shown = "<nil>" then some none else none
  | some (.items entries) =>
    let found ← find (fun extension => (property "name" (some extension)).map (equals "headlamp_info")) entries
    match found with
    | none => some none
    | some extension => do property "customName" (← property "extension" (some extension))
  | some _ => none

def isNamed (clusterName : String) (context : Yaml) : Option Bool :=
  (property "name" (some context)).map (equals clusterName)

/-- The name of an entry, or its custom name. -/
def isMatching (clusterName : String) (context : Yaml) : Option Bool := do
  if ← isNamed clusterName context then some true
  else (customName context).map (equals clusterName)

def hasID (clusterID : String) (context : Yaml) : Option Bool := do
  let data ← property "context" (some context)
  (property "clusterID" data).map (equals clusterID)

/-- The entries of `contexts`, which has to be an array. -/
def entriesOf (parsedKubeconfig : Yaml) : Option (List Yaml) :=
  match property "contexts" (some parsedKubeconfig) with
  | some (some (.items entries)) => some entries
  | _ => none

structure MatchingContexts where
  matchingKubeconfig : Option Yaml
  matchingContext : Option Yaml

def findMatchingContexts (clusterName : String) (parsedKubeconfig : Yaml) (clusterID : Option String) :
    Option MatchingContexts := do
  let contexts ← entriesOf parsedKubeconfig
  match clusterID.filter fun id => id ≠ "" with
  | some id =>
    match ← find (hasID id) contexts with
    | none => some ⟨none, none⟩
    | some context =>
      let source ← property "source" (← property "context" (some context))
      if equals "kubeconfig" source then return ⟨← find (hasID id) contexts, none⟩
      else some ⟨none, none⟩
  | none =>
    let matchingContext ← find (isMatching clusterName) contexts
    let matchingKubeconfig ← find (isNamed clusterName) contexts
    return ⟨matchingKubeconfig, matchingContext⟩

/-- Base64 and YAML, as they are read in the browser. -/
abbrev Browser := String → Option Yaml

/-- The loop over the kubeconfigs in the order in which they are stored. -/
def findKubeconfigByClusterName (browser : Browser) (clusterName : String) (clusterID : Option String) :
    List String → Option (Option String)
  | [] => some none
  | kubeconfig :: rest =>
    match (browser kubeconfig).bind fun parsedKubeconfig => findMatchingContexts clusterName parsedKubeconfig clusterID with
    | none => none
    | some found =>
      if found.matchingKubeconfig.isSome || found.matchingContext.isSome then some (some kubeconfig)
      else findKubeconfigByClusterName browser clusterName clusterID rest

/-! The agreement, and the condition for it. -/

section
variable {Bytes : Type} (packages : Packages Bytes) (browser : Browser)

/-- The contexts that the server finds in a kubeconfig. -/
def contextsOf (kubeconfig : String) : List Context :=
  match loadContextsFromBase64String packages kubeconfig dynamicClusterSource with
  | some (.ok (contexts, _)) => contexts
  | _ => []

/-- The cluster that is reported for a context. -/
def listed (context : Context) : Option Cluster :=
  (effectiveContextName context).toOption.map fun name => ⟨name, context.cluster.server, authType context, "dynamic_cluster"⟩

/-- For every user and whatever is in the store, the context is what is put there under the
key of the name, or refreshed. -/
def Selects (kubeconfig name : String) (context : Context) : Prop :=
  ∀ userID state, (cacheStatelessContext packages kubeconfig name userID state).1 = .ok (statelessContextKey name userID) ∧
    Put (name, userID) (statelessContextKey name userID) context state
      (cacheStatelessContext packages kubeconfig name userID state).2

/-- Each name leads to the kubeconfig, and there to the context, for which it was reported. -/
def Agree (stored : List String) (clusters : List Cluster) : Prop :=
  ∀ cluster ∈ clusters, ∃ kubeconfig ∈ stored, ∃ context ∈ contextsOf packages kubeconfig, listed context = some cluster ∧
    findKubeconfigByClusterName browser cluster.name none stored = some (some kubeconfig) ∧
      Selects packages kubeconfig cluster.name context

/-- In the browser every entry of the kubeconfig can be read, and none has the name. -/
def Silent (name kubeconfig : String) : Prop :=
  ∃ entries, (browser kubeconfig).bind entriesOf = some entries ∧ ∀ entry ∈ entries, isMatching name entry = some false

/-- In the browser an entry of the kubeconfig has the name, as its own or as its custom
name, those before it can be read, and none is null before the first of which it is the
own name. -/
structure Answers (name kubeconfig : String) (before : List Yaml) (entry : Yaml) (after : List Yaml) : Prop where
  entries : (browser kubeconfig).bind entriesOf = some (before ++ entry :: after)
  others : ∀ other ∈ before, isMatching name other = some false
  carries : isMatching name entry = some true
  present : null ∉ (before ++ entry :: after).takeWhile fun other => isNamed name other ≠ some true

/-- The kubeconfig answers to the name in the browser, none that is stored before it does,
and all custom names in it can be decoded by the server. -/
structure Reaches (stored : List String) (kubeconfig name : String) : Prop where
  own : ∃ before entry after, Answers browser name kubeconfig before entry after
  first : ∃ earlier later, stored = earlier ++ kubeconfig :: later ∧ ∀ other ∈ earlier, Silent browser name other
  decodes : ∀ context ∈ contextsOf packages kubeconfig, faulty context = false

end

section
variable {Bytes : Type} {packages : Packages Bytes} {browser : Browser}

theorem parseCustomNameClusters_listed (contexts : List Context) :
    (parseCustomNameClusters contexts).1 = contexts.filterMap listed := by
  induction contexts with
  | nil => rfl
  | cons context rest ih =>
    unfold parseCustomNameClusters
    cases effective : effectiveContextName context with
    | error err =>
      have skipped : listed context = none := by rw [listed, effective]; rfl
      rw [List.filterMap_cons_none skipped]
      exact ih
    | ok name =>
      have kept : listed context = some ⟨name, context.cluster.server, authType context, "dynamic_cluster"⟩ := by
        rw [listed, effective]
        rfl
      rw [List.filterMap_cons_some kept, ← ih]

theorem parseClusterFromKubeConfig_listed {kubeConfigs : List String} {clusters : List Cluster} {setupErrors : List SetupError}
    (parsed : parseClusterFromKubeConfig packages kubeConfigs = some (clusters, setupErrors)) :
    clusters = kubeConfigs.flatMap fun kubeconfig => (contextsOf packages kubeconfig).filterMap listed := by
  induction kubeConfigs generalizing clusters setupErrors with
  | nil =>
    cases parsed
    rfl
  | cons kubeConfig rest ih =>
    unfold parseClusterFromKubeConfig at parsed
    rw [List.flatMap_cons, contextsOf]
    split at parsed
    next => cases parsed
    next err loads =>
      obtain ⟨⟨others, errors⟩, more, same⟩ := Option.map_eq_some_iff.mp parsed
      cases same
      rw [loads, ih more]
      rfl
    next contexts contextLoadErrors loads =>
      obtain ⟨⟨others, errors⟩, more, same⟩ := Option.map_eq_some_iff.mp parsed
      cases same
      rw [loads, ← ih more, parseCustomNameClusters_listed]

theorem parseKubeConfig_listed {kubeconfigs : List String} {clusters : List Cluster}
    (reported : parseKubeConfig packages kubeconfigs = some (.ok clusters)) :
    clusters = kubeconfigs.flatMap fun kubeconfig => (contextsOf packages kubeconfig).filterMap listed := by
  unfold parseKubeConfig at reported
  split at reported
  next => cases reported
  next =>
    obtain ⟨⟨found, setupErrors⟩, parsed, same⟩ := Option.map_eq_some_iff.mp reported
    dsimp only at same
    split at same
    next => cases same
    next =>
      cases same
      exact parseClusterFromKubeConfig_listed parsed

theorem listed_name (context : Context) : (listed context).map Cluster.name = (effectiveContextName context).toOption := by
  rw [listed, Option.map_map]
  exact Option.map_id'

theorem listed_effective {context : Context} {cluster : Cluster} (reported : listed context = some cluster) :
    effectiveContextName context = .ok cluster.name := by
  have name := listed_name context
  rw [reported] at name
  cases effective : effectiveContextName context with
  | error err => rw [effective] at name; cases name
  | ok found =>
    rw [effective] at name
    exact congrArg Except.ok (Option.some.inj name).symm

/-! One kubeconfig in the browser. -/

theorem find_none {test : Yaml → Option Bool} {entries : List Yaml} :
    find test entries = some none ↔ ∀ entry ∈ entries, test entry = some false := by
  induction entries with
  | nil => simp [find]
  | cons entry rest ih =>
    rw [find, List.forall_mem_cons]
    cases here : test entry with
    | none => simp
    | some holds => cases holds <;> simp [ih]

theorem find_some {test : Yaml → Option Bool} {entries : List Yaml} {found : Yaml} : find test entries = some (some found) ↔
    ∃ before after, entries = before ++ found :: after ∧ (∀ other ∈ before, test other = some false) ∧
      test found = some true := by
  induction entries with
  | nil => simp [find]
  | cons entry rest ih =>
    rw [find]
    constructor
    · intro search
      cases here : test entry with
      | none => rw [here] at search; cases search
      | some holds =>
        cases holds with
        | true =>
          rw [here] at search
          cases search
          exact ⟨[], rest, rfl, nofun, here⟩
        | false =>
          rw [here] at search
          obtain ⟨before, after, rfl, others, is⟩ := ih.mp search
          exact ⟨entry :: before, after, rfl, List.forall_mem_cons.mpr ⟨here, others⟩, is⟩
    · rintro ⟨before, after, split, others, is⟩
      cases before with
      | nil =>
        obtain ⟨rfl, -⟩ := List.cons.inj split
        rw [is]
      | cons first before =>
        obtain ⟨rfl, rfl⟩ := List.cons.inj split
        rw [List.forall_mem_cons] at others
        rw [others.1]
        exact ih.mpr ⟨before, after, rfl, others.2, is⟩

theorem find_ends {test : Yaml → Option Bool} {entries : List Yaml} : (∃ found, find test entries = some found) ↔
    ∀ entry ∈ entries.takeWhile (fun entry => test entry ≠ some true), test entry ≠ none := by
  induction entries with
  | nil => simp [find]
  | cons entry rest ih =>
    rw [find]
    cases here : test entry with
    | none => simp [here]
    | some holds =>
      cases holds with
      | true => simp [here]
      | false => simp [here, ih]

theorem isNamed_none {name : String} {entry : Yaml} : isNamed name entry = none ↔ entry = null := by
  cases entry with
  | other shown =>
    by_cases empty : shown = "<nil>"
    · simp [isNamed, property, null, empty]
    · simp [isNamed, property, null, empty]
  | text value => simp [isNamed, property, null]
  | items entries => simp [isNamed, property, null]
  | fields rows => simp [isNamed, property, null]

theorem isNamed_false {name : String} {entry : Yaml} (other : isMatching name entry = some false) :
    isNamed name entry = some false := by
  unfold isMatching at other
  cases named : isNamed name entry with
  | none => rw [named] at other; cases other
  | some holds =>
    cases holds with
    | true => rw [named] at other; cases other
    | false => rfl

/-- What one turn of the loop looks at. -/
def searched (browser : Browser) (name kubeconfig : String) : Option MatchingContexts :=
  (browser kubeconfig).bind fun parsedKubeconfig => findMatchingContexts name parsedKubeconfig none

theorem searched_entries (name kubeconfig : String) : searched browser name kubeconfig =
    ((browser kubeconfig).bind entriesOf).bind fun entries => (find (isMatching name) entries).bind fun matchingContext =>
      (find (isNamed name) entries).map fun matchingKubeconfig => ⟨matchingKubeconfig, matchingContext⟩ := by
  rw [searched, Option.bind_assoc]
  congr 1
  funext parsedKubeconfig
  unfold findMatchingContexts
  cases entriesOf parsedKubeconfig with
  | none => rfl
  | some entries =>
    change (find (isMatching name) entries).bind _ = _
    congr 1
    funext matchingContext
    exact Option.map_eq_bind.symm

theorem silent_iff {name kubeconfig : String} :
    Silent browser name kubeconfig ↔ searched browser name kubeconfig = some ⟨none, none⟩ := by
  rw [searched_entries]
  constructor
  · rintro ⟨entries, reads, silent⟩
    have unnamed := find_none.mpr fun entry member => isNamed_false (silent entry member)
    rw [reads, Option.bind_some, find_none.mpr silent, Option.bind_some, unnamed]
    rfl
  · intro none
    obtain ⟨entries, reads, search⟩ := Option.bind_eq_some_iff.mp none
    obtain ⟨matchingContext, matching, named⟩ := Option.bind_eq_some_iff.mp search
    obtain ⟨matchingKubeconfig, -, same⟩ := Option.map_eq_some_iff.mp named
    cases same
    exact ⟨entries, reads, find_none.mp matching⟩

theorem answers_iff {name kubeconfig : String} : (∃ before entry after, Answers browser name kubeconfig before entry after) ↔
    ∃ found, searched browser name kubeconfig = some found ∧
      (found.matchingKubeconfig.isSome || found.matchingContext.isSome) = true := by
  rw [searched_entries]
  have readable : ∀ entries : List Yaml, null ∉ entries.takeWhile (fun other => isNamed name other ≠ some true) ↔
      ∃ found, find (isNamed name) entries = some found := by
    intro entries
    rw [find_ends]
    constructor
    · intro present entry member unread
      exact present (isNamed_none.mp unread ▸ member)
    · intro reads member
      exact reads null member (isNamed_none.mpr rfl)
  constructor
  · rintro ⟨before, entry, after, answers⟩
    obtain ⟨matchingKubeconfig, named⟩ := (readable _).mp answers.present
    refine ⟨⟨matchingKubeconfig, some entry⟩, ?_, Bool.or_true _⟩
    rw [answers.entries, Option.bind_some, find_some.mpr ⟨before, after, rfl, answers.others, answers.carries⟩,
      Option.bind_some, named]
    rfl
  · rintro ⟨found, search, some⟩
    obtain ⟨entries, reads, search⟩ := Option.bind_eq_some_iff.mp search
    obtain ⟨matchingContext, matching, search⟩ := Option.bind_eq_some_iff.mp search
    obtain ⟨matchingKubeconfig, named, same⟩ := Option.map_eq_some_iff.mp search
    cases same
    cases matchingContext with
    | none =>
      have unnamed := find_none.mpr fun entry member => isNamed_false (find_none.mp matching entry member)
      cases unnamed.symm.trans named
      cases some
    | some entry =>
      obtain ⟨before, after, rfl, others, carries⟩ := find_some.mp matching
      exact ⟨before, entry, after, reads, others, carries, (readable _).mpr ⟨matchingKubeconfig, named⟩⟩

theorem findKubeconfigByClusterName_iff {name kubeconfig : String} {stored : List String} :
    findKubeconfigByClusterName browser name none stored = some (some kubeconfig) ↔
      (∃ before entry after, Answers browser name kubeconfig before entry after) ∧
        ∃ earlier later, stored = earlier ++ kubeconfig :: later ∧ ∀ other ∈ earlier, Silent browser name other := by
  induction stored with
  | nil => simp [findKubeconfigByClusterName]
  | cons head rest ih =>
    have turn : findKubeconfigByClusterName browser name none (head :: rest) =
        (searched browser name head).bind fun found =>
          if found.matchingKubeconfig.isSome || found.matchingContext.isSome then some (some head)
          else findKubeconfigByClusterName browser name none rest := by
      rw [findKubeconfigByClusterName, searched]
      cases (browser head).bind fun parsedKubeconfig => findMatchingContexts name parsedKubeconfig none <;> rfl
    rw [turn]
    constructor
    · intro search
      obtain ⟨found, here, search⟩ := Option.bind_eq_some_iff.mp search
      split at search
      next some =>
        cases search
        exact ⟨answers_iff.mpr ⟨found, here, some⟩, [], rest, rfl, nofun⟩
      next missing =>
        obtain ⟨answers, earlier, later, rfl, silent⟩ := ih.mp search
        have quiet : Silent browser name head := by
          obtain ⟨matchingKubeconfig, matchingContext⟩ := found
          rw [Bool.not_eq_true, Bool.or_eq_false_iff, Option.isSome_eq_false_iff, Option.isSome_eq_false_iff,
            Option.isNone_iff_eq_none, Option.isNone_iff_eq_none] at missing
          obtain ⟨rfl, rfl⟩ := missing
          exact silent_iff.mpr here
        exact ⟨answers, head :: earlier, later, rfl, List.forall_mem_cons.mpr ⟨quiet, silent⟩⟩
    · rintro ⟨answers, earlier, later, split, silent⟩
      cases earlier with
      | nil =>
        obtain ⟨rfl, -⟩ := List.cons.inj split
        obtain ⟨found, here, some⟩ := answers_iff.mp answers
        rw [here, Option.bind_some, if_pos some]
      | cons first earlier =>
        obtain ⟨rfl, rfl⟩ := List.cons.inj split
        rw [List.forall_mem_cons] at silent
        rw [silent_iff.mp silent.1]
        exact ih.mpr ⟨answers, earlier, later, rfl, silent.2⟩

/-! One kubeconfig on the server. -/

theorem contextsOf_loaded {kubeconfig : String} {context : Context} (member : context ∈ contextsOf packages kubeconfig) :
    ∃ errors, loadContextsFromBase64String packages kubeconfig dynamicClusterSource =
      some (.ok (contextsOf packages kubeconfig, errors)) := by
  unfold contextsOf at member ⊢
  split
  next contexts errors loads => exact ⟨errors, loads⟩
  next other =>
    split at member
    next contexts errors loads => exact absurd loads (other contexts errors)
    next => cases member

theorem selects_iff {kubeconfig name : String} {context : Context} (member : context ∈ contextsOf packages kubeconfig)
    (alone : (contextsOf packages kubeconfig).filter (named name) = [context]) :
    Selects packages kubeconfig name context ↔ ∀ other ∈ contextsOf packages kubeconfig, faulty other = false := by
  obtain ⟨errors, loads⟩ := contextsOf_loaded member
  have loop := cacheStatelessContext_loaded loads (List.ne_nil_of_mem member) name
  constructor
  · intro selects other inside
    rw [Bool.eq_false_iff]
    intro bad
    obtain ⟨err, fails⟩ := cacheContexts_error name "" "" ⟨0, Cache.Store.empty, fun _ => none⟩ ⟨other, inside, bad⟩
    have served := (selects "" ⟨0, Cache.Store.empty, fun _ => none⟩).1
    rw [loop, fails] at served
    cases served
  · intro fine userID state
    have key := cacheContexts_ok name userID "" state fine
    have put := cacheContexts_put name userID (contextsOf packages kubeconfig) "" state
    rw [reachedOf_fine fine, alone] at put
    rw [loop]
    refine ⟨?_, put⟩
    rw [key, alone]
    rfl

/-! The agreement. -/

theorem named_effective {name : String} {context : Context} :
    named name context = decide ((effectiveContextName context).toOption = some name) := by
  unfold named
  cases effectiveContextName context with
  | error err => rfl
  | ok found => exact (decide_eq_decide.mpr Option.some_inj).symm

theorem reported_names {stored : List String} {clusters : List Cluster}
    (reported : parseKubeConfig packages stored = some (.ok clusters)) : clusters.map Cluster.name =
      stored.flatMap fun kubeconfig => (contextsOf packages kubeconfig).filterMap fun context =>
        (effectiveContextName context).toOption := by
  rw [parseKubeConfig_listed reported, List.map_flatMap]
  congr 1
  funext kubeconfig
  rw [List.map_filterMap]
  exact List.filterMap_congr fun context _ => listed_name context

/-- The names agree end to end exactly when each of them reaches its kubeconfig. -/
theorem names_agree_iff {stored : List String} {clusters : List Cluster}
    (reported : parseKubeConfig packages stored = some (.ok clusters)) (distinct : (clusters.map Cluster.name).Nodup) :
    Agree packages browser stored clusters ↔ ∀ kubeconfig ∈ stored, ∀ context ∈ contextsOf packages kubeconfig, ∀ name,
      effectiveContextName context = .ok name → Reaches packages browser stored kubeconfig name := by
  rw [reported_names reported] at distinct
  have inside : ∀ {kubeconfig context name}, context ∈ contextsOf packages kubeconfig → effectiveContextName context = .ok name →
      name ∈ (contextsOf packages kubeconfig).filterMap fun context => (effectiveContextName context).toOption :=
    fun member effective => List.mem_filterMap.mpr ⟨_, member, by rw [effective]; rfl⟩
  have alone : ∀ {kubeconfig context name}, kubeconfig ∈ stored → context ∈ contextsOf packages kubeconfig →
      effectiveContextName context = .ok name → (contextsOf packages kubeconfig).filter (named name) = [context] := by
    intro kubeconfig context name held member effective
    rw [← Distinct.filterMap_unique ((List.nodup_flatMap.mp distinct).1 kubeconfig held) member (by rw [effective]; rfl)]
    exact List.filter_congr fun other _ => named_effective
  constructor
  · intro agree kubeconfig held context member name effective
    have shown : listed context = some ⟨name, context.cluster.server, authType context, "dynamic_cluster"⟩ := by
      rw [listed, effective]
      rfl
    have among : (⟨name, context.cluster.server, authType context, "dynamic_cluster"⟩ : Cluster) ∈ clusters := by
      rw [parseKubeConfig_listed reported]
      exact List.mem_flatMap.mpr ⟨kubeconfig, held, List.mem_filterMap.mpr ⟨context, member, shown⟩⟩
    obtain ⟨other, there, second, inner, listedSecond, found, selects⟩ := agree _ among
    -- the name is reported once, so it is this kubeconfig that is found
    have again := listed_effective listedSecond
    cases Distinct.flatMap_unique distinct held there (inside member effective) (inside inner again)
    obtain ⟨answers, first⟩ := findKubeconfigByClusterName_iff.mp found
    exact ⟨answers, first, (selects_iff inner (alone there inner again)).mp selects⟩
  · intro reaches cluster among
    rw [parseKubeConfig_listed reported] at among
    obtain ⟨kubeconfig, held, among⟩ := List.mem_flatMap.mp among
    obtain ⟨context, member, shown⟩ := List.mem_filterMap.mp among
    have effective := listed_effective shown
    have reach := reaches kubeconfig held context member cluster.name effective
    refine ⟨kubeconfig, held, context, member, shown, findKubeconfigByClusterName_iff.mpr ⟨reach.own, reach.first⟩, ?_⟩
    exact (selects_iff member (alone held member effective)).mpr reach.decodes

end

/-! Kubeconfigs with one context. -/

private def entryOf (name : String) : Yaml := .fields [(.text "name", .text name),
  (.text "context", .fields [(.text "cluster", .text "c"), (.text "user", .text "u")])]

private def documentOf (name : String) : Document := [
  ("contexts", .items [entryOf name]),
  ("clusters", .items [.fields [(.text "name", .text "c"), (.text "cluster", .fields [])]]),
  ("users", .items [.fields [(.text "name", .text "u"), (.text "user", .fields [])]])]

private def configOf (name : String) : Config where
  contexts key := if key = name then some ⟨"c", "u", none⟩ else none
  clusters key := if key = "c" then some ⟨"https://c", "", false, "", "", ""⟩ else none
  authInfos _ := none

/-- A kubeconfig is written as the name of its context. -/
private def namePackages : Packages String where
  decodeString kubeconfig := .ok kubeconfig
  unmarshal name := .ok (documentOf name)
  marshal document :=
    match Keyed.lookup "current-context" document with
    | some (.text name) => .ok name
    | _ => .error "no current context"
  load name := .ok (configOf name)
  setupProxy _ := .ok ()

private def nameBrowser : Browser := fun name => some (.fields ((documentOf name).map fun row => (.text row.1, row.2)))

private def contextNamed (name : String) : Context :=
  ⟨name, some ⟨"c", "u", none⟩, ⟨"https://c", "", false, "", "", ""⟩, none, dynamicClusterSource, false, "", ""⟩

private theorem names_loaded : ∀ name ∈ ["prod", "staging"], contextsOf namePackages name = [contextNamed name] := by decide

private theorem name_reached (earlier later : List String) {stored : List String} {name : String} (plain : name ∈ ["prod", "staging"])
    (at' : stored = earlier ++ name :: later) (silent : ∀ other ∈ earlier, Silent nameBrowser name other) :
    Reaches namePackages nameBrowser stored name name := by
  have carries : ∀ name ∈ ["prod", "staging"], isMatching name (entryOf name) = some true ∧ isNamed name (entryOf name) = some true ∧
    faulty (contextNamed name) = false := by decide
  obtain ⟨matching, here, clear⟩ := carries name plain
  refine ⟨⟨[], entryOf name, [], rfl, nofun, matching, ?_⟩, ⟨earlier, later, at', silent⟩, ?_⟩
  · intro absent
    rw [List.nil_append, List.takeWhile_cons_of_neg (by rw [here]; decide)] at absent
    cases absent
  · rw [names_loaded name plain]
    intro context member
    rw [List.mem_singleton.mp member, clear]

theorem two_names_agree : Agree namePackages nameBrowser ["prod", "staging"]
    [⟨"prod", "https://c", "", "dynamic_cluster"⟩, ⟨"staging", "https://c", "", "dynamic_cluster"⟩] := by
  refine (names_agree_iff (by decide) (by decide)).mpr ?_
  intro kubeconfig held context member name effective
  have plain : ∀ name ∈ ["prod", "staging"], effectiveContextName (contextNamed name) = .ok name := by decide
  rw [names_loaded kubeconfig held, List.mem_singleton] at member
  rw [member, plain kubeconfig held] at effective
  cases effective
  rcases List.mem_pair.mp held with rfl | rfl
  · exact name_reached [] ["staging"] held rfl fun _ none => absurd none List.not_mem_nil
  · refine name_reached ["prod"] [] held rfl fun other earlier => ?_
    rw [List.mem_singleton.mp earlier]
    exact ⟨[entryOf "prod"], rfl, by decide⟩

/-- The name of a context with a slash is reported with dashes, and not found. -/
theorem slash_not_found : ¬∀ (Bytes : Type) (packages : Packages Bytes) (browser : Browser) (stored : List String)
    (clusters : List Cluster), parseKubeConfig packages stored = some (.ok clusters) → (clusters.map Cluster.name).Nodup →
      Agree packages browser stored clusters := by
  intro agrees
  have reported : parseKubeConfig namePackages ["team/prod"] =
      some (.ok [⟨"team--prod", "https://c", "", "dynamic_cluster"⟩]) := by decide
  obtain ⟨kubeconfig, -, -, -, -, found, -⟩ := agrees String namePackages nameBrowser _ _ reported (by decide) _ List.mem_cons_self
  have missing : findKubeconfigByClusterName nameBrowser "team--prod" none ["team/prod"] = some none := by decide
  cases missing.symm.trans found

end K8Sense.Stateless.ClusterNames
