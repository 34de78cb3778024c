import K8Sense.Kubeconfig.Context
import K8Sense.Library.Keyed

/-! Renaming a cluster: its custom name is written to the kubeconfig file, and all
contexts of the file are put into the store anew. -/

namespace K8Sense.Kubeconfig.Rename
open Cache (Store CacheValue)

structure RenameClusterRequest where
  newClusterName : String
  source : String

section
variable (config : Config)

/-- The context that an entry of the file gives, which has no source, no path and no
cluster id. -/
def contextOf (key : String) : Option Context :=
  (config.contexts key).bind fun context =>
    (clusterOf config key).map fun cluster =>
      ⟨nameOf config key, some context, cluster, authInfoOf config key, 0, false, "", ""⟩

/-- Of the entries stored under the name, the one that is visited last. -/
def lastNamed (order : List String) (name : String) : Option String :=
  order.reverse.find? fun key => nameOf config key = name

def checkUniqueName (order : List String) (newName : String) : Bool :=
  !(order ++ order.filterMap (customNameOf config)).contains newName

def findMatchingContextName (order : List String) (clusterName : String) : String :=
  match order.find? fun key => customNameOf config key = some clusterName with
  | some key => key
  | none =>
    if (config.contexts clusterName).isSome then clusterName
    else
      let matching := order.filter fun key => makeDNSFriendly key = clusterName
      (matching.mergeSort fun first second => decide (first ≤ second)).head?.getD clusterName

def setCustomName (contextName newClusterName : String) : Config :=
  { config with
    contexts := fun key =>
      if key = contextName then
        (config.contexts key).map fun context => { context with headlampInfo := some (.custom newClusterName) }
      else config.contexts key }

def customNameToExtensions (contextName newClusterName : String) (writeErr : Option String) : Except String Config :=
  match config.contexts contextName with
  | none => .error ("context " ++ contextName.quote ++ " not found in kubeconfig")
  | some _ =>
    match writeErr with
    | some err => .error err
    | none => .ok (setCustomName config contextName newClusterName)

end

/-- The loop over the loaded contexts, with the errors. -/
def replaceContexts (clusterName : String) : List Context → Store Context → List String × Store Context
  | [], store => ([], store)
  | context :: rest, store =>
    match addContext context (removeContext clusterName store) with
    | .error err =>
      let (errs, store) := replaceContexts clusterName rest (removeContext clusterName store)
      (err :: errs, store)
    | .ok store => replaceContexts clusterName rest store

section
variable (setupProxy : String → Except String Unit)

def updateCustomContextToCache (config : Config) (order : List String) (clusterName : String) (store : Store Context) :
    List String × Store Context :=
  match loadContextsFromAPIConfig setupProxy config false order with
  | ([], errs) => (errs ++ ["no contexts found in kubeconfig"], store)
  | (contexts, errs) =>
    let (more, store) := replaceContexts clusterName contexts store
    (errs ++ more, store)

/-- The status and the text of an error, with the store. The entries of the file are
visited in one order to find the cluster, and in one to load them. -/
def handleClusterRename (files : String → Except String Config) (finding loading : List String) (writeErr : Option String)
    (clusterName : String) (reqBody : RenameClusterRequest) (store : Store Context) : (Nat × String) × Store Context :=
  match files reqBody.source with
  | .error err => ((500, err), store)
  | .ok config =>
    if checkUniqueName config finding reqBody.newClusterName = false then ((400, "custom name already in use"), store)
    else
      match customNameToExtensions config (findMatchingContextName config finding clusterName) reqBody.newClusterName writeErr with
      | .error err => ((500, err), store)
      | .ok config =>
        match updateCustomContextToCache setupProxy config loading clusterName store with
        | ([], store) => ((201, ""), store)
        | (errs, store) => ((500, Text.concat "\n" errs), store)

end

/-- A context without a time after which it expires that has the cluster and the user
of the entry. -/
def Resolves (config : Config) (contextName : String) (found : Option (CacheValue Context)) : Prop :=
  ∃ context, found = some ⟨context, none⟩ ∧ clusterOf config contextName = some context.cluster ∧
    authInfoOf config contextName = context.authInfo

/-- Only the renamed cluster is touched, which is an entry of the file. -/
structure Framed (config : Config) (contextName clusterName newClusterName : String) (before after : Store Context) : Prop where
  others : ∀ name, name ≠ clusterName → name ≠ newClusterName → after name = before name
  old : after clusterName = none
  new : Resolves config contextName (after newClusterName)

/-- What is put into the store anew is there already, as it is read from the file, and
no entry that is visited later has one of the two names. -/
structure Undisturbed (config : Config) (order : List String) (contextName clusterName newClusterName : String)
    (before : Store Context) : Prop where
  names : newClusterName ≠ clusterName
  others : ∀ key name, lastNamed config order name = some key → name ≠ clusterName → name ≠ newClusterName →
    before name = (contextOf config key).map fun context => ⟨context, none⟩
  old : ∀ key ∈ order.getLast?, nameOf config key ≠ clusterName
  new : match lastNamed config order newClusterName with
    | some key => clusterOf config key = clusterOf config contextName ∧ authInfoOf config key = authInfoOf config contextName
    | none => Resolves config contextName (before newClusterName)

section
variable {setupProxy : String → Except String Unit} {config : Config} {order : List String} {clusterName : String}

/-- What is loaded of an entry, before it gets its custom name. -/
def loadedOf (config : Config) (key : String) : Option Context :=
  (contextOf config key).map fun context => { context with name := makeDNSFriendly key }

theorem loadedOf_ok {key : String} {context : ApiContext} {loaded : Context} (is : config.contexts key = some context)
    (loads : loadContext setupProxy config false key context = .ok loaded) : loadedOf config key = some loaded := by
  simp only [loadContext, Bool.false_eq_true, if_false] at loads
  split at loads
  next => cases loads
  next cluster found =>
    split at loads
    next => cases loads
    next =>
      rw [← Except.ok.inj loads]
      simp [loadedOf, contextOf, clusterOf, authInfoOf, is, found]

theorem load_ok (each : ∀ key ∈ order, config.contexts key ≠ none)
    (clean : (loadContextsFromAPIConfig setupProxy config false order).2 = []) :
    (∀ key ∈ order, contextOf config key ≠ none) ∧
      (loadContextsFromAPIConfig setupProxy config false order).1 = order.filterMap (loadedOf config) := by
  induction order with
  | nil => exact ⟨List.forall_mem_nil _, rfl⟩
  | cons key rest ih =>
    rw [List.forall_mem_cons] at each
    obtain ⟨context, is⟩ := Option.ne_none_iff_exists'.mp each.1
    simp only [loadContextsFromAPIConfig, is] at clean ⊢
    cases loads : loadContext setupProxy config false key context with
    | error err =>
      simp only [loads] at clean
      exact absurd clean (List.cons_ne_nil _ _)
    | ok loaded =>
      simp only [loads] at clean
      obtain ⟨found, same⟩ := ih each.2 clean
      have here := loadedOf_ok is loads
      refine ⟨?_, ?_⟩
      · rw [List.forall_mem_cons]
        refine ⟨fun missing => ?_, found⟩
        rw [loadedOf, missing] at here
        cases here
      · rw [List.filterMap_cons, here]
        exact congrArg (loaded :: ·) same

theorem replaceContexts_ok {contexts : List Context} {store : Store Context}
    (clean : (replaceContexts clusterName contexts store).1 = []) :
    (∀ context ∈ contexts, storedRow context ≠ none) ∧
      (replaceContexts clusterName contexts store).2 = Keyed.rewriteAll clusterName (contexts.filterMap storedRow) store := by
  induction contexts generalizing store with
  | nil => exact ⟨List.forall_mem_nil _, rfl⟩
  | cons context rest ih =>
    rw [replaceContexts, addContext] at clean ⊢
    cases named : context.storedName with
    | error err =>
      simp only [named] at clean
      exact absurd clean (List.cons_ne_nil _ _)
    | ok name =>
      simp only [named] at clean ⊢
      obtain ⟨found, same⟩ := ih clean
      have row : storedRow context = some (name, ⟨{ context with name }, none⟩) := by rw [storedRow, named]; rfl
      refine ⟨?_, ?_⟩
      · rw [List.forall_mem_cons, row]
        exact ⟨Option.some_ne_none _, found⟩
      · rw [List.filterMap_cons, row]
        exact same

def rowOf (config : Config) (key : String) : Option (String × CacheValue Context) :=
  ((contextOf config key).map fun context => ⟨context, none⟩).map fun value => (nameOf config key, value)

theorem storedRow_loaded {key : String} {loaded : Context} (found : loadedOf config key = some loaded)
    (stored : storedRow loaded ≠ none) : storedRow loaded = rowOf config key := by
  obtain ⟨context, is, rfl⟩ := Option.map_eq_some_iff.mp found
  rw [rowOf, is]
  obtain ⟨entry, there, made⟩ := Option.bind_eq_some_iff.mp is
  obtain ⟨cluster, -, rfl⟩ := Option.map_eq_some_iff.mp made
  cases info : entry.headlampInfo with
  | none => simp [storedRow, Context.storedName, nameIn, nameOf, customNameOf, there, info, Except.toOption]
  | some object =>
    cases object with
    | fault err =>
      simp [storedRow, Context.storedName, nameIn, info, Except.toOption] at stored
    | custom customName =>
      by_cases empty : customName = "" <;>
        simp [storedRow, Context.storedName, nameIn, nameOf, customNameOf, there, info, Except.toOption, empty]

theorem updateCustomContextToCache_ok {store after : Store Context} (each : ∀ key ∈ order, config.contexts key ≠ none)
    (done : updateCustomContextToCache setupProxy config order clusterName store = ([], after)) :
    order ≠ [] ∧ (∀ key ∈ order, contextOf config key ≠ none) ∧
      after = Keyed.rewriteAll clusterName (order.filterMap (rowOf config)) store := by
  unfold updateCustomContextToCache at done
  split at done
  next errs _ => exact absurd (congrArg Prod.fst done) (by simp)
  next contexts errs nonempty loads =>
    obtain ⟨clean, same⟩ := Prod.mk.inj done
    obtain ⟨rfl, put⟩ := List.append_eq_nil_iff.mp clean
    obtain ⟨found, loaded⟩ := load_ok each (congrArg Prod.snd loads)
    obtain ⟨stored, replaced⟩ := replaceContexts_ok put
    rw [loads] at loaded
    have given : contexts = order.filterMap (loadedOf config) := loaded
    refine ⟨?_, found, ?_⟩
    · rintro rfl
      exact nonempty given
    · rw [← same, replaced]
      congr 1
      rw [given, List.filterMap_filterMap]
      apply List.filterMap_congr
      intro key member
      cases is : loadedOf config key with
      | none => exact absurd is (mt Option.map_eq_none_iff.mp (found key member))
      | some context =>
        have inside : context ∈ contexts := given ▸ List.mem_filterMap.mpr ⟨key, member, is⟩
        exact storedRow_loaded is (stored context inside)

theorem setCustomName_contexts (contextName newClusterName key : String) :
    (setCustomName config contextName newClusterName).contexts key = none ↔ config.contexts key = none := by
  unfold setCustomName
  dsimp only
  split <;> simp

theorem handleClusterRename_ok {files : String → Except String Config} {finding : List String} {writeErr : Option String}
    {reqBody : RenameClusterRequest} {store : Store Context} (found : files reqBody.source = .ok config)
    (enumerates : Enumerates order config.contexts)
    (done : (handleClusterRename setupProxy files finding order writeErr clusterName reqBody store).1.1 = 201) :
    let renamed := setCustomName config (findMatchingContextName config finding clusterName) reqBody.newClusterName
    order ≠ [] ∧ (∀ key ∈ order, contextOf renamed key ≠ none) ∧
      (handleClusterRename setupProxy files finding order writeErr clusterName reqBody store).2 =
        Keyed.rewriteAll clusterName (order.filterMap (rowOf renamed)) store := by
  intro renamed
  have each : ∀ key ∈ order, renamed.contexts key ≠ none := fun key member =>
    (setCustomName_contexts _ _ key).not.mpr ((enumerates.mem key).mp member)
  unfold handleClusterRename at done ⊢
  simp only [found] at done ⊢
  split at done
  next => cases done
  next unique =>
    rw [if_neg unique]
    unfold customNameToExtensions at done ⊢
    cases there : config.contexts (findMatchingContextName config finding clusterName) with
    | none =>
      simp only [there] at done
      cases done
    | some context =>
      cases writeErr with
      | some err =>
        simp only [there] at done
        cases done
      | none =>
        simp only [there] at done ⊢
        cases updated : updateCustomContextToCache setupProxy renamed order clusterName store with
        | mk errs after =>
          cases errs with
          | nil => exact updateCustomContextToCache_ok each updated
          | cons err errs =>
            rw [updated] at done
            cases done

theorem rewritten_other (store : Store Context) (loaded : ∀ key ∈ order, contextOf config key ≠ none) {name : String}
    (other : name ≠ clusterName) : Keyed.rewriteAll clusterName (order.filterMap (rowOf config)) store name =
      ((lastNamed config order name).bind fun key => (contextOf config key).map fun context => ⟨context, none⟩).or
        (store name) := by
  have each : ∀ key ∈ order.reverse, ((contextOf config key).map fun context => (⟨context, none⟩ : CacheValue Context)) ≠ none :=
    fun key member => Option.map_eq_none_iff.not.mpr (loaded key (List.mem_reverse.mp member))
  rw [Keyed.rewriteAll_other clusterName _ store other, ← List.filterMap_reverse]
  exact congrArg (Option.or · (store name)) (Keyed.lookup_filterMap each name)

theorem lastNamed_mem {name key : String} (last : lastNamed config order name = some key) :
    key ∈ order ∧ nameOf config key = name :=
  ⟨List.mem_reverse.mp (List.mem_of_find?_eq_some last), by simpa using List.find?_some last⟩

theorem rowOf_some {key : String} {context : Context} (is : contextOf config key = some context) :
    rowOf config key = some (nameOf config key, ⟨context, none⟩) := by
  rw [rowOf, is]
  rfl

theorem rewritten_old (store : Store Context) (clusterName : String) {last : String} (loaded : ∀ key ∈ order, contextOf config key ≠ none)
    (ends : order.getLast? = some last) :
    Keyed.rewriteAll clusterName (order.filterMap (rowOf config)) store clusterName = none ↔ nameOf config last ≠ clusterName := by
  obtain ⟨before, rfl⟩ := List.getLast?_eq_some_iff.mp ends
  obtain ⟨context, is⟩ := Option.ne_none_iff_exists'.mp (loaded last (List.mem_append_right _ List.mem_cons_self))
  have row : ((before ++ [last]).filterMap (rowOf config)).getLast? = some (nameOf config last, ⟨context, none⟩) := by
    rw [List.filterMap_append, List.filterMap_cons, rowOf_some is]
    exact List.getLast?_concat
  rw [Keyed.rewriteAll_old clusterName row]
  split
  next same => exact iff_of_false (Option.some_ne_none _) (not_not_intro same)
  next different => exact iff_of_true rfl different

theorem contextOf_parts {key : String} {context : Context} (is : contextOf config key = some context) :
    clusterOf config key = some context.cluster ∧ authInfoOf config key = context.authInfo := by
  obtain ⟨entry, -, made⟩ := Option.bind_eq_some_iff.mp is
  obtain ⟨cluster, found, rfl⟩ := Option.map_eq_some_iff.mp made
  exact ⟨found, rfl⟩

theorem framed_rewritten {contextName newClusterName : String} {store : Store Context} (nonempty : order ≠ [])
    (loaded : ∀ key ∈ order, contextOf config key ≠ none) :
    Framed config contextName clusterName newClusterName store
        (Keyed.rewriteAll clusterName (order.filterMap (rowOf config)) store) ↔
      Undisturbed config order contextName clusterName newClusterName store := by
  obtain ⟨last, ends⟩ := Option.ne_none_iff_exists'.mp (mt List.getLast?_eq_none_iff.mp nonempty)
  have deleted := rewritten_old store clusterName loaded ends
  have read {name : String} (other : name ≠ clusterName) := rewritten_other store loaded other
  -- The new name is read alike once it is not the old one.
  have resolves (names : newClusterName ≠ clusterName) :
      Resolves config contextName (Keyed.rewriteAll clusterName (order.filterMap (rowOf config)) store newClusterName) ↔
      match lastNamed config order newClusterName with
      | some key => clusterOf config key = clusterOf config contextName ∧ authInfoOf config key = authInfoOf config contextName
      | none => Resolves config contextName (store newClusterName) := by
    rw [read names]
    cases named : lastNamed config order newClusterName with
    | none => exact Iff.rfl
    | some key =>
      obtain ⟨context, is⟩ := Option.ne_none_iff_exists'.mp (loaded key (lastNamed_mem named).1)
      obtain ⟨cluster, user⟩ := contextOf_parts is
      simp [Resolves, is, cluster, user, eq_comm]
  constructor
  · intro framed
    have names : newClusterName ≠ clusterName := by
      rintro rfl
      obtain ⟨context, found, -⟩ := framed.new
      rw [framed.old] at found
      cases found
    refine ⟨names, ?_, ?_, (resolves names).mp framed.new⟩
    · intro key name named old new
      obtain ⟨context, is⟩ := Option.ne_none_iff_exists'.mp (loaded key (lastNamed_mem named).1)
      rw [← framed.others name old new, read old, named, Option.bind_some, is]
      rfl
    · intro key ending
      cases ends.symm.trans ending
      exact deleted.mp framed.old
  · intro undisturbed
    refine ⟨?_, deleted.mpr (undisturbed.old last ends), (resolves undisturbed.names).mpr undisturbed.new⟩
    intro name old new
    rw [read old]
    cases named : lastNamed config order name with
    | none => rfl
    | some key =>
      obtain ⟨context, is⟩ := Option.ne_none_iff_exists'.mp (loaded key (lastNamed_mem named).1)
      rw [undisturbed.others key name named old new, Option.bind_some, is]
      rfl

end

/-- A successful rename touches the renamed cluster only, exactly when reloading the
file disturbs nothing. -/
theorem framed_iff {setupProxy : String → Except String Unit} {files : String → Except String Config} {config : Config}
    {finding loading : List String} {writeErr : Option String} {clusterName : String} {reqBody : RenameClusterRequest}
    {store : Store Context} (found : files reqBody.source = .ok config) (enumerates : Enumerates loading config.contexts)
    (done : (handleClusterRename setupProxy files finding loading writeErr clusterName reqBody store).1.1 = 201) :
    let contextName := findMatchingContextName config finding clusterName
    let renamed := setCustomName config contextName reqBody.newClusterName
    Framed renamed contextName clusterName reqBody.newClusterName store
        (handleClusterRename setupProxy files finding loading writeErr clusterName reqBody store).2 ↔
      Undisturbed renamed loading contextName clusterName reqBody.newClusterName store := by
  intro contextName renamed
  obtain ⟨nonempty, loaded, after⟩ := handleClusterRename_ok found enumerates done
  rw [after]
  exact framed_rewritten nonempty loaded

/-- A file with two clusters. -/
private def twoClusters : Config where
  contexts key := if key = "prod" ∨ key = "dev" then some ⟨key, "admin", none⟩ else none
  clusters key := if key = "prod" ∨ key = "dev" then some ⟨"https://" ++ key, "", false, "", "", ""⟩ else none
  authInfos _ := none

private def renameProd : RenameClusterRequest := ⟨"live", "dynamic_cluster"⟩

private theorem twoClusters_order : Enumerates ["prod", "dev"] twoClusters.contexts := by
  refine ⟨by decide, fun key => ?_⟩
  by_cases prod : key = "prod" <;> simp [twoClusters, prod]

/-- A store that the file was read into by an earlier rename. -/
private def reread : Store Context := fun name =>
  if name = "prod" ∨ name = "dev" then (contextOf twoClusters name).map fun context => ⟨context, none⟩ else none

/-- A store that the file was read into at the start. -/
private def readAtStart : Store Context := fun name =>
  if name = "prod" ∨ name = "dev" then
    (contextOf twoClusters name).map fun context =>
      ⟨{ context with source := dynamicClusterSource, kubeConfigPath := "config", clusterID := "config+" ++ name }, none⟩
  else none

theorem second_rename_framed :
    Framed (setCustomName twoClusters "prod" "live") "prod" "prod" "live" reread
      (handleClusterRename (fun _ => .ok ()) (fun _ => .ok twoClusters) ["prod", "dev"] ["prod", "dev"] none "prod" renameProd
        reread).2 := by
  have found : findMatchingContextName twoClusters ["prod", "dev"] "prod" = "prod" := by decide
  have exactly := @framed_iff (fun _ => .ok ()) (fun _ => .ok twoClusters) twoClusters ["prod", "dev"] ["prod", "dev"] none
    "prod" renameProd reread rfl twoClusters_order (by decide)
  dsimp only at exactly
  rw [found] at exactly
  refine exactly.mpr ⟨by decide, ?_, by decide, And.intro rfl rfl⟩
  intro key name last _ other
  obtain ⟨member, rfl⟩ := lastNamed_mem last
  rw [List.mem_cons, List.mem_singleton] at member
  rcases member with rfl | rfl
  · exact absurd (by decide) other
  · rfl

/-- The other cluster loses its source, its path and its cluster id. -/
theorem rename_disturbs : ¬∀ (setupProxy : String → Except String Unit) (files : String → Except String Config) (config : Config)
    (finding loading : List String) (writeErr : Option String) (clusterName : String) (reqBody : RenameClusterRequest)
    (store : Store Context), files reqBody.source = .ok config → Enumerates loading config.contexts →
      (handleClusterRename setupProxy files finding loading writeErr clusterName reqBody store).1.1 = 201 →
      Framed (setCustomName config (findMatchingContextName config finding clusterName) reqBody.newClusterName)
        (findMatchingContextName config finding clusterName) clusterName reqBody.newClusterName store
        (handleClusterRename setupProxy files finding loading writeErr clusterName reqBody store).2 := by
  intro framed
  have dev := (framed (fun _ => .ok ()) (fun _ => .ok twoClusters) twoClusters ["prod", "dev"] ["prod", "dev"] none "prod"
    renameProd readAtStart rfl twoClusters_order (by decide)).others "dev" (by decide) (by decide)
  have source := congrArg (Option.map fun found => found.value.source) dev
  revert source
  decide

end K8Sense.Kubeconfig.Rename
