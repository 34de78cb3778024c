import K8Sense.Stateless.ClusterNames

/-! The deletion of a stateless cluster from the kubeconfigs of the browser. -/

namespace K8Sense.Stateless.Deletion
open Kubeconfig

structure Extension where
  name : String
  customName : Option String
deriving DecidableEq

structure ContextData where
  cluster : String
  user : String
  clusterID : Option String
  source : Option String
  extensions : Option (List Extension)
deriving DecidableEq

/-- An entry of a list of a kubeconfig. -/
structure Named (α : Type) where
  name : String
  data : α
deriving DecidableEq

abbrev Context := Named ContextData

structure KubeconfigObject (Cluster User : Type) where
  clusters : Option (List (Named Cluster))
  users : Option (List (Named User))
  contexts : List Context
  currentContext : Option String
deriving DecidableEq

def customName (context : Context) : Option String :=
  ((context.data.extensions.getD []).find? fun extension => extension.name = "headlamp_info").bind Extension.customName

def isMatching (clusterName : String) (context : Context) : Bool :=
  context.name = clusterName ∨ customName context = some clusterName

def hasID (clusterID : String) (context : Context) : Bool := context.data.clusterID = some clusterID

structure MatchingContexts where
  matchingKubeconfig : Option Context
  matchingContext : Option Context

/-- The context of which the name is taken. -/
def MatchingContexts.context (found : MatchingContexts) : Option Context := found.matchingContext.or found.matchingKubeconfig

def findMatchingContexts (clusterName : String) (contexts : List Context) (clusterID : Option String) : MatchingContexts :=
  match clusterID.filter fun id => id ≠ "" with
  | some id =>
    let source := (contexts.find? (hasID id)).bind fun context => context.data.source
    if source = some "kubeconfig" then ⟨contexts.find? (hasID id), none⟩ else ⟨none, none⟩
  | none => ⟨contexts.find? fun context => context.name = clusterName, contexts.find? (isMatching clusterName)⟩

/-- The names of clusters and users are in one set. -/
def remainingRefs (contexts : List Context) : List String := contexts.flatMap fun context =>
  [context.data.cluster, context.data.user].filter fun name => name ≠ ""

/-- Base64 and YAML, which other packages write and read. -/
structure Codec (Text Cluster User : Type) where
  load : Text → KubeconfigObject Cluster User
  dump : KubeconfigObject Cluster User → Text
  load_dump : ∀ parsed, load (dump parsed) = parsed

/-- The rows of the object store, in the order of the cursor. -/
structure Store (Text : Type) where
  rows : List (Nat × Text)
  unique : Keyed.Unique rows

def Store.put {Text : Type} (key : Nat) (text : Text) (store : Store Text) : Store Text :=
  ⟨Keyed.upsert key text (fun _ => text) store.rows, Keyed.unique_upsert store.unique⟩

def Store.delete {Text : Type} (key : Nat) (store : Store Text) : Store Text :=
  ⟨Keyed.erase key store.rows, List.Nodup.sublist (List.Sublist.map _ List.filter_sublist) store.unique⟩

section
variable {Cluster User : Type}

/-- The kubeconfig without the contexts of a name and what the others do not refer to. -/
def without (contextName : String) (parsed : KubeconfigObject Cluster User) : KubeconfigObject Cluster User :=
  let contexts := parsed.contexts.filter fun context => context.name ≠ contextName
  { clusters := parsed.clusters.map fun clusters => clusters.filter fun entry => entry.name ∈ remainingRefs contexts
    users := parsed.users.map fun users => users.filter fun entry => entry.name ∈ remainingRefs contexts
    contexts := contexts
    currentContext :=
      if parsed.currentContext = some contextName then (contexts.head?.map Named.name).filter fun name => name ≠ ""
      else parsed.currentContext }

end

section
variable {Text Cluster User : Type} (codec : Codec Text Cluster User)

/-- A row without contexts is deleted. The requests to the store succeed. -/
def save (key : Nat) (parsed : KubeconfigObject Cluster User) (store : Store Text) : Store Text :=
  if parsed.contexts = [] then store.delete key else store.put key (codec.dump parsed)

/-- The rows are those that the cursor comes to. -/
def openCursor (clusterName : String) (clusterID : Option String) (store : Store Text) :
    List (Nat × Text) → Option Text × Store Text
  | [] => (none, store)
  | (key, kubeconfig64) :: rest =>
    let parsed := codec.load kubeconfig64
    match (findMatchingContexts clusterName parsed.contexts clusterID).context with
    | none => openCursor clusterName clusterID store rest
    | some context => (some kubeconfig64, save codec key (without context.name parsed) store)

def deleteClusterKubeconfig (clusterName : String) (clusterID : Option String) (store : Store Text) : Option Text × Store Text :=
  openCursor codec clusterName clusterID store store.rows

end

/-! What a deletion is for. -/

/-- The first context that the cluster is found with. -/
def resolved (clusterName : String) (clusterID : Option String) (contexts : List Context) : Option Context :=
  (findMatchingContexts clusterName contexts clusterID).context

/-- The context has the ID, or the name where there is no ID. -/
def carries (clusterName : String) (clusterID : Option String) (context : Context) : Bool :=
  match clusterID.filter fun id => id ≠ "" with
  | some id => hasID id context
  | none => isMatching clusterName context

/-- The cluster is found, and the context is one of those with its name. -/
def Meant (clusterName : String) (clusterID : Option String) (contexts : List Context) (context : Context) : Prop :=
  resolved clusterName clusterID contexts ≠ none ∧ carries clusterName clusterID context = true

/-- The entry that a context refers to. -/
def entry {α : Type} (name : String) (entries : Option (List (Named α))) : Option (Named α) :=
  (entries.getD []).find? fun entry => entry.name = name

/-- Contexts refer to the name, and all that do are meant. -/
def Orphaned (meant : Context → Prop) (ref : ContextData → String) (contexts : List Context) (name : String) : Prop :=
  (∃ context ∈ contexts, meant context ∧ ref context.data = name) ∧
    ∀ context ∈ contexts, ref context.data = name → meant context

section
variable {Text Cluster User : Type} (clusterName : String) (clusterID : Option String)

/-- What is stored in place of a kubeconfig, if anything: the cluster is not found in it, the
other contexts lead where they led, and what only the contexts of the cluster referred to is
gone. -/
structure Left (before : KubeconfigObject Cluster User) (after : Option (KubeconfigObject Cluster User)) : Prop where
  gone : ∀ parsed ∈ after, resolved clusterName clusterID parsed.contexts = none
  kept : ∀ context ∈ before.contexts, ¬Meant clusterName clusterID before.contexts context →
    ∃ parsed ∈ after, context ∈ parsed.contexts ∧
      entry context.data.cluster parsed.clusters = entry context.data.cluster before.clusters ∧
      entry context.data.user parsed.users = entry context.data.user before.users
  clusters : ∀ cluster ∈ before.clusters.getD [],
    Orphaned (Meant clusterName clusterID before.contexts) ContextData.cluster before.contexts cluster.name →
      ∀ parsed ∈ after, cluster ∉ parsed.clusters.getD []
  users : ∀ user ∈ before.users.getD [],
    Orphaned (Meant clusterName clusterID before.contexts) ContextData.user before.contexts user.name →
      ∀ parsed ∈ after, user ∉ parsed.users.getD []

structure Deleted (codec : Codec Text Cluster User) (before after : Store Text) : Prop where
  rows : ∀ row ∈ after.rows, row.1 ∈ before.rows.map Prod.fst
  left : ∀ row ∈ before.rows, Left clusterName clusterID (codec.load row.2) ((Keyed.lookup row.1 after.rows).map codec.load)

/-- The contexts with the own name of the found one are those that are meant, no entry with
an empty name is referred to by others, and what is referred to by those that are meant alone
does not have the name of a cluster or a user of the others. -/
structure Separate (parsed : KubeconfigObject Cluster User) (context : Context) : Prop where
  alone : resolved clusterName clusterID (parsed.contexts.filter fun other => other.name ≠ context.name) = none
  carried : ∀ other ∈ parsed.contexts, other.name = context.name → carries clusterName clusterID other = true
  named : ∀ other ∈ parsed.contexts, carries clusterName clusterID other ≠ true →
    (other.data.cluster = "" → ∀ cluster ∈ parsed.clusters.getD [], cluster.name ≠ "") ∧
      (other.data.user = "" → ∀ user ∈ parsed.users.getD [], user.name ≠ "")
  clusters : ∀ cluster ∈ parsed.clusters.getD [], cluster.name ≠ "" →
    Orphaned (carries clusterName clusterID · = true) ContextData.cluster parsed.contexts cluster.name →
      ∀ other ∈ parsed.contexts, other.name ≠ context.name →
        other.data.cluster ≠ cluster.name ∧ other.data.user ≠ cluster.name
  users : ∀ user ∈ parsed.users.getD [], user.name ≠ "" →
    Orphaned (carries clusterName clusterID · = true) ContextData.user parsed.contexts user.name →
      ∀ other ∈ parsed.contexts, other.name ≠ context.name →
        other.data.cluster ≠ user.name ∧ other.data.user ≠ user.name

end

theorem mem_remainingRefs {contexts : List Context} {name : String} : name ∈ remainingRefs contexts ↔
    name ≠ "" ∧ ∃ context ∈ contexts, context.data.cluster = name ∨ context.data.user = name := by
  simp only [remainingRefs, List.mem_flatMap, List.mem_filter, List.mem_cons, List.not_mem_nil, or_false, decide_eq_true_eq]
  constructor
  · intro ⟨context, member, either, present⟩
    exact ⟨present, context, member, either.imp Eq.symm Eq.symm⟩
  · intro ⟨present, context, member, either⟩
    exact ⟨context, member, either.imp Eq.symm Eq.symm, present⟩

section
variable {α : Type} {entries : Option (List (Named α))} {refs : List String}

theorem mem_swept {item : Named α} : item ∈ (entries.map fun entries => entries.filter fun entry => entry.name ∈ refs).getD [] ↔
    item ∈ entries.getD [] ∧ item.name ∈ refs := by
  cases entries <;> simp

theorem entry_swept {name : String} (referred : name ∈ refs) :
    entry name (entries.map fun entries => entries.filter fun entry => entry.name ∈ refs) = entry name entries := by
  cases entries with
  | none => rfl
  | some entries =>
    simp only [entry, Option.map_some, Option.getD_some, List.find?_filter]
    congr 1
    funext item
    by_cases same : item.name = name
    · simp [same, referred]
    · simp [same]

theorem entry_none {name : String} : entry name entries = none ↔ ∀ item ∈ entries.getD [], item.name ≠ name := by
  simp [entry]

theorem entry_unreferred {name : String} (unreferred : name ∉ refs) :
    entry name (entries.map fun entries => entries.filter fun entry => entry.name ∈ refs) = entry name entries ↔
      ∀ item ∈ entries.getD [], item.name ≠ name := by
  have none : entry name (entries.map fun entries => entries.filter fun entry => entry.name ∈ refs) = none := by
    rw [entry_none]
    intro item member same
    exact unreferred (same ▸ (mem_swept.mp member).2)
  rw [none, eq_comm, entry_none]

theorem entry_kept {name : String} (referred : name ∈ refs ↔ name ≠ "") :
    entry name (entries.map fun entries => entries.filter fun entry => entry.name ∈ refs) = entry name entries ↔
      (name = "" → ∀ item ∈ entries.getD [], item.name ≠ "") := by
  by_cases empty : name = ""
  · have unreferred : name ∉ refs := fun member => referred.mp member empty
    rw [entry_unreferred unreferred]
    simp [empty]
  · simp [entry_swept (referred.mpr empty), empty]

end

section
variable {clusterName : String} {clusterID : Option String} {contexts : List Context} {context : Context}

theorem resolved_some (found : resolved clusterName clusterID contexts = some context) : context ∈ contexts := by
  rcases Option.or_eq_some_iff.mp found with matching | ⟨_, named⟩
  · unfold findMatchingContexts at matching
    split at matching
    · dsimp only at matching
      split at matching <;> cases matching
    · exact List.mem_of_find?_eq_some matching
  · unfold findMatchingContexts at named
    split at named
    · dsimp only at named
      split at named
      · exact List.mem_of_find?_eq_some named
      · cases named
    · exact List.mem_of_find?_eq_some named

theorem meant_iff (found : resolved clusterName clusterID contexts = some context) :
    Meant clusterName clusterID contexts = (carries clusterName clusterID · = true) := by
  funext other
  simp [Meant, found]

end

/-! One kubeconfig. -/

section
variable {Cluster User : Type} {clusterName : String} {clusterID : Option String} {parsed : KubeconfigObject Cluster User}
  {context : Context}

def saved (parsed : KubeconfigObject Cluster User) : Option (KubeconfigObject Cluster User) :=
  if parsed.contexts = [] then none else some parsed

theorem mem_saved {parsed after : KubeconfigObject Cluster User} :
    after ∈ saved parsed ↔ parsed.contexts ≠ [] ∧ after = parsed := by
  unfold saved
  split
  next empty => simp [empty]
  next some => simp [some, eq_comm]

theorem mem_without {contextName : String} {other : Context} :
    other ∈ (without contextName parsed).contexts ↔ other ∈ parsed.contexts ∧ other.name ≠ contextName := by
  simp [without]

theorem resolved_nil : resolved clusterName clusterID [] = none := by
  cases found : resolved clusterName clusterID [] with
  | none => rfl
  | some context => cases resolved_some found

theorem gone_iff : (∀ after ∈ saved (without context.name parsed), resolved clusterName clusterID after.contexts = none) ↔
    resolved clusterName clusterID (parsed.contexts.filter fun other => other.name ≠ context.name) = none := by
  constructor
  · intro gone
    by_cases empty : (without context.name parsed).contexts = []
    · have none : parsed.contexts.filter (fun other => other.name ≠ context.name) = [] := empty
      rw [none, resolved_nil]
    · exact gone _ (mem_saved.mpr ⟨empty, rfl⟩)
  · intro alone after member
    rw [(mem_saved.mp member).2]
    exact alone

theorem refs_kept {contexts : List Context} {other : Context} (member : other ∈ contexts) :
    (other.data.cluster ∈ remainingRefs contexts ↔ other.data.cluster ≠ "") ∧
      (other.data.user ∈ remainingRefs contexts ↔ other.data.user ≠ "") := by
  have present {name : String} (referred : name ∈ remainingRefs contexts) : name ≠ "" := (mem_remainingRefs.mp referred).1
  constructor
  · exact ⟨present, fun some => mem_remainingRefs.mpr ⟨some, other, member, Or.inl rfl⟩⟩
  · exact ⟨present, fun some => mem_remainingRefs.mpr ⟨some, other, member, Or.inr rfl⟩⟩

theorem context_kept_iff {other : Context} (member : other ∈ parsed.contexts) :
    (∃ after ∈ saved (without context.name parsed), other ∈ after.contexts ∧
      entry other.data.cluster after.clusters = entry other.data.cluster parsed.clusters ∧
      entry other.data.user after.users = entry other.data.user parsed.users) ↔
    other.name ≠ context.name ∧ (other.data.cluster = "" → ∀ cluster ∈ parsed.clusters.getD [], cluster.name ≠ "") ∧
      (other.data.user = "" → ∀ user ∈ parsed.users.getD [], user.name ≠ "") := by
  constructor
  · intro ⟨after, stored, inside, cluster, user⟩
    obtain rfl := (mem_saved.mp stored).2
    have refs := refs_kept inside
    exact ⟨(mem_without.mp inside).2, (entry_kept refs.1).mp cluster, (entry_kept refs.2).mp user⟩
  · intro ⟨different, cluster, user⟩
    have inside : other ∈ (without context.name parsed).contexts := mem_without.mpr ⟨member, different⟩
    have refs := refs_kept inside
    exact ⟨_, mem_saved.mpr ⟨List.ne_nil_of_mem inside, rfl⟩, inside, (entry_kept refs.1).mpr cluster, (entry_kept refs.2).mpr user⟩

theorem swept_iff {α : Type} {ref : KubeconfigObject Cluster User → Option (List (Named α))} {item : Named α}
    (swept : ref (without context.name parsed) = (ref parsed).map fun entries =>
      entries.filter fun entry => entry.name ∈ remainingRefs (without context.name parsed).contexts)
    (member : item ∈ (ref parsed).getD []) :
    (∀ after ∈ saved (without context.name parsed), item ∉ (ref after).getD []) ↔
      (item.name ≠ "" → ∀ other ∈ parsed.contexts, other.name ≠ context.name →
        other.data.cluster ≠ item.name ∧ other.data.user ≠ item.name) := by
  constructor
  · intro gone present other inside different
    have remains : other ∈ (without context.name parsed).contexts := mem_without.mpr ⟨inside, different⟩
    have absent := gone _ (mem_saved.mpr ⟨List.ne_nil_of_mem remains, rfl⟩)
    rw [swept, mem_swept] at absent
    have unreferred := fun referred => absent ⟨member, mem_remainingRefs.mpr ⟨present, other, remains, referred⟩⟩
    exact not_or.mp unreferred
  · intro unreferred after stored inside
    obtain rfl := (mem_saved.mp stored).2
    rw [swept, mem_swept] at inside
    obtain ⟨present, other, remains, either⟩ := mem_remainingRefs.mp inside.2
    obtain ⟨there, different⟩ := mem_without.mp remains
    have neither := unreferred present other there different
    exact either.elim neither.1 neither.2

theorem left_iff (found : resolved clusterName clusterID parsed.contexts = some context) :
    Left clusterName clusterID parsed (saved (without context.name parsed)) ↔ Separate clusterName clusterID parsed context := by
  constructor
  · intro left
    refine ⟨gone_iff.mp left.gone, ?_, ?_, ?_, ?_⟩
    · intro other member same
      by_contra unmeant
      have kept := left.kept other member
      rw [meant_iff found, context_kept_iff member] at kept
      exact (kept unmeant).1 same
    · intro other member unmeant
      have kept := left.kept other member
      rw [meant_iff found, context_kept_iff member] at kept
      exact (kept unmeant).2
    · intro cluster member present orphaned
      have gone := left.clusters cluster member
      rw [meant_iff found] at gone
      exact (swept_iff rfl member).mp (gone orphaned) present
    · intro user member present orphaned
      have gone := left.users user member
      rw [meant_iff found] at gone
      exact (swept_iff rfl member).mp (gone orphaned) present
  · intro separate
    refine ⟨gone_iff.mpr separate.alone, ?_, ?_, ?_⟩
    · intro other member unmeant
      rw [meant_iff found] at unmeant
      have different : other.name ≠ context.name := fun same => unmeant (separate.carried other member same)
      exact (context_kept_iff member).mpr ⟨different, separate.named other member unmeant⟩
    · intro cluster member orphaned
      rw [meant_iff found] at orphaned
      exact (swept_iff rfl member).mpr fun present => separate.clusters cluster member present orphaned
    · intro user member orphaned
      rw [meant_iff found] at orphaned
      exact (swept_iff rfl member).mpr fun present => separate.users user member present orphaned

theorem left_same : Left clusterName clusterID parsed (some parsed) ↔ resolved clusterName clusterID parsed.contexts = none := by
  constructor
  · intro left
    exact left.gone parsed rfl
  · intro none
    refine ⟨?_, ?_, ?_, ?_⟩
    · intro after same
      cases same
      exact none
    · intro other member _
      exact ⟨parsed, rfl, member, rfl, rfl⟩
    · intro cluster _ orphaned
      obtain ⟨other, _, meant, _⟩ := orphaned.1
      exact absurd none meant.1
    · intro user _ orphaned
      obtain ⟨other, _, meant, _⟩ := orphaned.1
      exact absurd none meant.1

end

/-! The rows. -/

section
variable {Text Cluster User : Type} {codec : Codec Text Cluster User} {clusterName : String} {clusterID : Option String}
  {store : Store Text}

theorem openCursor_cases (rows : List (Nat × Text)) :
    (∀ row ∈ rows, resolved clusterName clusterID (codec.load row.2).contexts = none) ∧
        openCursor codec clusterName clusterID store rows = (none, store) ∨
      ∃ row ∈ rows, ∃ context, resolved clusterName clusterID (codec.load row.2).contexts = some context ∧
        openCursor codec clusterName clusterID store rows =
          (some row.2, save codec row.1 (without context.name (codec.load row.2)) store) := by
  induction rows with
  | nil => exact Or.inl ⟨nofun, rfl⟩
  | cons row rest ih =>
    cases here : resolved clusterName clusterID (codec.load row.2).contexts with
    | some context =>
      refine Or.inr ⟨row, List.mem_cons_self, context, here, ?_⟩
      unfold resolved at here
      rw [openCursor, here]
    | none =>
      have passed : openCursor codec clusterName clusterID store (row :: rest) = openCursor codec clusterName clusterID store rest := by
        unfold resolved at here
        rw [openCursor, here]
      rw [passed]
      rcases ih with ⟨nowhere, unchanged⟩ | ⟨later, member, found⟩
      · exact Or.inl ⟨List.forall_mem_cons.mpr ⟨here, nowhere⟩, unchanged⟩
      · exact Or.inr ⟨later, List.mem_cons_of_mem _ member, found⟩

theorem lookup_save (key : Nat) (parsed : KubeconfigObject Cluster User) (other : Nat) :
    (Keyed.lookup other (save codec key parsed store).rows).map codec.load =
      if other = key then saved parsed else (Keyed.lookup other store.rows).map codec.load := by
  unfold save saved
  by_cases empty : parsed.contexts = []
  · rw [if_pos empty, if_pos empty, Store.delete, Keyed.lookup_erase]
    split <;> rfl
  · rw [if_neg empty, if_neg empty, Store.put, Keyed.lookup_upsert]
    split
    · cases Keyed.lookup key store.rows <;> exact congrArg some (codec.load_dump parsed)
    · rfl

theorem save_keys {key : Nat} {parsed : KubeconfigObject Cluster User} (there : key ∈ store.rows.map Prod.fst) {row : Nat × Text}
    (member : row ∈ (save codec key parsed store).rows) : row.1 ∈ store.rows.map Prod.fst := by
  have inside : row.1 ∈ (save codec key parsed store).rows.map Prod.fst := List.mem_map_of_mem member
  unfold save at inside
  split at inside
  · exact (Keyed.mem_erase_keys.mp inside).1
  · have upserted : row.1 ∈ (Keyed.upsert key (codec.dump parsed) (fun _ => codec.dump parsed) store.rows).map Prod.fst := inside
    exact (Keyed.mem_upsert_keys.mp upserted).elim id fun same => same ▸ there

theorem lookup_row {row : Nat × Text} (member : row ∈ store.rows) : Keyed.lookup row.1 store.rows = some row.2 :=
  Keyed.lookup_mem store.unique member

theorem deleted_none (nowhere : ∀ row ∈ store.rows, resolved clusterName clusterID (codec.load row.2).contexts = none) :
    Deleted clusterName clusterID codec store store := by
  refine ⟨fun row member => List.mem_map_of_mem member, ?_⟩
  intro row member
  rw [lookup_row member]
  exact left_same.mpr (nowhere row member)

theorem deleted_save {row : Nat × Text} (member : row ∈ store.rows) {context : Context}
    (found : resolved clusterName clusterID (codec.load row.2).contexts = some context) :
    Deleted clusterName clusterID codec store (save codec row.1 (without context.name (codec.load row.2)) store) ↔
      (∀ other ∈ store.rows, other.1 ≠ row.1 → resolved clusterName clusterID (codec.load other.2).contexts = none) ∧
        Separate clusterName clusterID (codec.load row.2) context := by
  constructor
  · intro deleted
    constructor
    · intro other inside different
      have left := deleted.left other inside
      rw [lookup_save, if_neg different, lookup_row inside] at left
      exact left_same.mp left
    · have left := deleted.left row member
      rw [lookup_save, if_pos rfl] at left
      exact (left_iff found).mp left
  · intro ⟨nowhere, separate⟩
    refine ⟨fun other inside => save_keys (List.mem_map_of_mem member) inside, ?_⟩
    intro other inside
    rw [lookup_save]
    split
    next same =>
      obtain rfl : other = row := List.inj_on_of_nodup_map store.unique inside member same
      exact (left_iff found).mpr separate
    next different =>
      rw [lookup_row inside]
      exact left_same.mpr (nowhere other inside different)

/-- A cluster is deleted exactly if it is found in one row at most, and what belongs to it
there is separate from the rest. -/
theorem deleted_iff_separate (codec : Codec Text Cluster User) (clusterName : String) (clusterID : Option String) (store : Store Text) :
    Deleted clusterName clusterID codec store (deleteClusterKubeconfig codec clusterName clusterID store).2 ↔
      (∀ row ∈ store.rows, ∀ other ∈ store.rows, resolved clusterName clusterID (codec.load row.2).contexts ≠ none →
        resolved clusterName clusterID (codec.load other.2).contexts ≠ none → row = other) ∧
      ∀ row ∈ store.rows, ∀ context, resolved clusterName clusterID (codec.load row.2).contexts = some context →
        Separate clusterName clusterID (codec.load row.2) context := by
  unfold deleteClusterKubeconfig
  rcases openCursor_cases store.rows with ⟨nowhere, unchanged⟩ | ⟨row, member, context, found, changed⟩
  · rw [unchanged]
    refine iff_of_true (deleted_none nowhere) ⟨?_, ?_⟩
    · intro row member _ _ here _
      exact absurd (nowhere row member) here
    · intro row member context found
      cases (nowhere row member).symm.trans found
  · rw [changed, deleted_save member found]
    have here : resolved clusterName clusterID (codec.load row.2).contexts ≠ none := by simp [found]
    constructor
    · intro ⟨nowhere, separate⟩
      have only (other : Nat × Text) (inside : other ∈ store.rows)
          (there : resolved clusterName clusterID (codec.load other.2).contexts ≠ none) : other = row := by
        by_contra different
        have keys : other.1 ≠ row.1 := fun same => different (List.inj_on_of_nodup_map store.unique inside member same)
        exact there (nowhere other inside keys)
      constructor
      · intro first inside second also there alsoThere
        rw [only first inside there, only second also alsoThere]
      · intro other inside another there
        obtain rfl := only other inside (by simp [there])
        obtain rfl : context = another := Option.some.inj (found.symm.trans there)
        exact separate
    · intro ⟨only, separate⟩
      refine ⟨?_, separate row member context found⟩
      intro other inside different
      by_contra there
      exact different (congrArg Prod.fst (only other inside row member there here))

end

/-! A user with the name of a cluster of another context. -/

section
/-- A kubeconfig that is stored as it is. -/
def plain : Codec (KubeconfigObject Unit String) Unit String := ⟨id, id, fun _ => rfl⟩

def context (name cluster user : String) : Context := ⟨name, ⟨cluster, user, none, none, none⟩⟩

def shared : KubeconfigObject Unit String where
  clusters := some [⟨"main", ()⟩, ⟨"admin", ()⟩]
  users := some [⟨"admin", "token"⟩, ⟨"guest", ""⟩]
  contexts := [context "production" "main" "admin", context "test" "admin" "guest"]
  currentContext := some "production"

def stored : Store (KubeconfigObject Unit String) := ⟨[(1, shared)], List.nodup_singleton 1⟩

/-- The token of the deleted context stays. -/
theorem credentials_kept : ¬∀ (clusterName : String) (clusterID : Option String) (store : Store (KubeconfigObject Unit String)),
    Deleted clusterName clusterID plain store (deleteClusterKubeconfig plain clusterName clusterID store).2 := by
  intro deletes
  have left := (deletes "production" none stored).left (1, shared) List.mem_cons_self
  have orphaned : Orphaned (Meant "production" none shared.contexts) ContextData.user shared.contexts "admin" := by
    have meant : Meant "production" none shared.contexts (context "production" "main" "admin") :=
      ⟨by decide +kernel, by decide +kernel⟩
    refine ⟨⟨_, List.mem_cons_self, meant, rfl⟩, ?_⟩
    intro other member refers
    rcases List.mem_pair.mp member with rfl | rfl
    · exact meant
    · exact absurd refers (by decide)
  have after : without "production" shared ∈
      (Keyed.lookup 1 (deleteClusterKubeconfig plain "production" none stored).2.rows).map plain.load := by
    decide +kernel
  exact left.users ⟨"admin", "token"⟩ (by decide) orphaned _ after (by decide +kernel)

end

end K8Sense.Stateless.Deletion
