import K8Sense.Kubeconfig.Load
import K8Sense.Library.Transition
import K8Sense.Stateless.Keys

/-! Requests that carry a kubeconfig: the context that they name is kept in the store
for some time, under a key for the user. -/

namespace K8Sense.Stateless
open Cache (Store)
open Kubeconfig Transition

def contextCacheTTL : Nat := 300000000000

def contextUpdateCacheTTL : Nat := 20000000000

/-- For whom a context was put into the store: a cluster and a user id, which may be
empty. -/
abbrev Owner := String × String

/-- The store, with the owners of what requests have put into it, which the code does
not record. A context of the server's own kubeconfig has none. -/
structure Contexts where
  now : Nat
  store : Store Context
  owners : String → Option Owner

/-- `protocols` are those of a websocket, for an upgrade. -/
structure Request where
  clusterName : String
  kubeConfig : String
  carries : kubeConfig ≠ ""
  userID : String
  protocols : Option String

inductive Event where
  | request (request : Request)
  | elapse (duration : Nat)
  | cleanUp

def setKeyInCache (owner : Owner) (key : String) (context : Context) (state : Contexts) : Except String Contexts :=
  match state.store.get key state.now with
  | none =>
    .ok { state with
      store := addContextWithKeyAndTTL { context with internal := true } key contextCacheTTL state.now state.store
      owners := Function.update state.owners key (some owner) }
  | some _ => (state.store.updateTTL key contextUpdateCacheTTL state.now).map fun store => { state with store }

/-- The custom name, or the name. -/
def effectiveContextName (context : Context) : Except String String := context.storedName

/-- The loop over the contexts, with the key so far. -/
def cacheContexts (targetClusterName userID : String) : List Context → String → Contexts → Except String String × Contexts
  | [], contextKey, state => (.ok contextKey, state)
  | context :: rest, contextKey, state =>
    match effectiveContextName context with
    | .error err => (.error err, state)
    | .ok name =>
      if name ≠ targetClusterName then cacheContexts targetClusterName userID rest contextKey state
      else
        let cacheKey := statelessContextKey name userID
        match setKeyInCache (name, userID) cacheKey context state with
        | .error err => (.error err, state)
        | .ok state => cacheContexts targetClusterName userID rest cacheKey state

section
variable {Bytes : Type} (packages : Packages Bytes)

/-- A panic ends the request like an error. -/
def cacheStatelessContext (kubeConfig targetClusterName userID : String) (state : Contexts) : Except String String × Contexts :=
  match loadContextsFromBase64String packages kubeConfig dynamicClusterSource with
  | none => (.error "invalid memory address or nil pointer dereference", state)
  | some (.error _) => (.error "no contexts found in kubeconfig", state)
  | some (.ok ([], [])) => (.error "no contexts found in kubeconfig", state)
  | some (.ok ([], _)) => (.error "failed to load any valid contexts from kubeconfig", state)
  | some (.ok (contexts, _)) => cacheContexts targetClusterName userID contexts "" state

def getContextKeyForRequest (enableDynamicClusters : Bool) (request : Request) (state : Contexts) :
    Except String String × Contexts :=
  let (cached, state) :=
    if request.kubeConfig ≠ "" ∧ enableDynamicClusters = true then
      cacheStatelessContext packages request.kubeConfig request.clusterName request.userID state
    else (.ok request.clusterName, state)
  match cached, request.protocols with
  | .error err, _ => (.error err, state)
  | .ok contextKey, none => (.ok contextKey, state)
  | .ok _, some protocols => (.ok (websocketConnContextKey protocols request.clusterName).1, state)

def cleanUp (state : Contexts) : Contexts :=
  { state with
    store := fun key =>
      (state.store key).filter fun found => found.expiresAt.all fun expiresAt => state.now ≤ expiresAt }

def step (state : Contexts) : Event → Option Contexts
  | .request request => some (getContextKeyForRequest packages true request state).2
  | .elapse duration => some { state with now := state.now + duration }
  | .cleanUp => some (cleanUp state)

/-! What a request should get. -/

/-- The contexts of the kubeconfig of a request. -/
def Request.contexts (request : Request) : List Context :=
  match loadContextsFromBase64String packages request.kubeConfig dynamicClusterSource with
  | some (.ok (contexts, _)) => contexts
  | _ => []

def named (clusterName : String) (context : Context) : Bool :=
  match effectiveContextName context with
  | .ok name => name = clusterName
  | .error _ => false

/-- The custom name cannot be read. -/
def faulty (context : Context) : Bool :=
  match effectiveContextName context with
  | .ok _ => false
  | .error _ => true

/-- The contexts that the request names. -/
def Request.matching (request : Request) : List Context := (request.contexts packages).filter (named request.clusterName)

/-- Those of them that come before one whose custom name cannot be read. -/
def Request.reached (request : Request) : List Context :=
  ((request.contexts packages).takeWhile fun context => !faulty context).filter (named request.clusterName)

/-- There are contexts, and the custom names of all of them can be read. -/
def Request.Readable (request : Request) : Prop :=
  request.contexts packages ≠ [] ∧ ∀ context ∈ request.contexts packages, faulty context = false

/-- Neither the header nor the subprotocols have a user id. -/
def Request.Anonymous (request : Request) : Prop :=
  request.userID = "" ∧ ∀ protocols ∈ request.protocols, findUserID protocols.toList = []

/-- The context has the server, the certificates and the credentials of one that the
request names. -/
def Request.Agrees (request : Request) (context : Context) : Prop :=
  ∃ wanted ∈ request.matching packages, context.cluster = wanted.cluster ∧ context.authInfo = wanted.authInfo

/-- What is under the key, and what became of the contexts of others. -/
structure Served (state : Contexts) (request : Request) : Prop where
  own : ∀ key, (getContextKeyForRequest packages true request state).1 = .ok key → request.matching packages ≠ [] →
    ∃ context, (getContextKeyForRequest packages true request state).2.store.get key state.now = some context ∧
      request.Agrees packages context
  none : ∀ key, (getContextKeyForRequest packages true request state).1 = .ok key → request.matching packages = [] →
    (getContextKeyForRequest packages true request state).2.store.get key state.now = none
  uses : request.Anonymous → ∀ key, (getContextKeyForRequest packages true request state).1 = .ok key →
    request.matching packages ≠ [] →
      (getContextKeyForRequest packages true request state).2.owners key = some (request.clusterName, "")
  apart : request.Anonymous → ∀ key context, state.store.get key state.now = some context →
    state.owners key ≠ some (request.clusterName, "") →
      (getContextKeyForRequest packages true request state).2.store key = state.store key

/-- The key that a request gets whose kubeconfig is readable. -/
def Request.servedKey (request : Request) : String :=
  match request.protocols with
  | some protocols => (websocketConnContextKey protocols request.clusterName).1
  | none =>
    if request.matching packages = [] then "" else statelessContextKey request.clusterName request.userID

/-- What the store has under the key beforehand is right already, or it has nothing
and the context is put there. -/
def Fitting (state : Contexts) (request : Request) : Prop :=
  match state.store.get (request.servedKey packages) state.now with
  | some context => request.Agrees packages context ∧
      (request.Anonymous → state.owners (request.servedKey packages) = some (request.clusterName, ""))
  | none => request.matching packages ≠ [] →
      request.servedKey packages = statelessContextKey request.clusterName request.userID

/-- A request that fails has not refreshed a context of someone else, or to the time
that it has anyway. -/
def Harmless (state : Contexts) (request : Request) : Prop :=
  request.Anonymous → request.reached packages ≠ [] → ∀ found, state.store request.clusterName = some found →
    (state.store.get request.clusterName state.now).isSome → state.owners request.clusterName ≠ some (request.clusterName, "") →
      found.expiresAt = some (state.now + contextUpdateCacheTTL)

def Allowed (state : Contexts) : Event → Prop
  | .request request =>
    (request.Readable packages → Fitting packages state request) ∧ (¬request.Readable packages → Harmless packages state request)
  | _ => True

end

/-! What one request does to the store. -/

/-- A context is put under a key where nothing lives, and refreshed otherwise. -/
structure Put (owner : Owner) (key : String) (context : Context) (before after : Contexts) : Prop where
  now : after.now = before.now
  others : ∀ other, other ≠ key → after.store other = before.store other ∧ after.owners other = before.owners other
  kept : ∀ found, before.store.get key before.now = some found →
    after.store key = some ⟨found, some (before.now + contextUpdateCacheTTL)⟩ ∧ after.owners key = before.owners key
  added : before.store.get key before.now = none → ∃ expiresAt, before.now < expiresAt ∧
    after.store key = some ⟨{ context with internal := true, name := key }, some expiresAt⟩ ∧ after.owners key = some owner

theorem get_until {store : Store Context} {key : String} {now expiresAt : Nat} {context : Context}
    (found : store key = some ⟨context, some expiresAt⟩) (live : now < expiresAt) : store.get key now = some context := by
  rw [Store.get, found]
  exact if_pos live

theorem setKeyInCache_put (owner : Owner) (key : String) (context : Context) (state : Contexts) :
    ∃ after, setKeyInCache owner key context state = .ok after ∧ Put owner key context state after := by
  unfold setKeyInCache
  cases live : state.store.get key state.now with
  | none =>
    refine ⟨_, rfl, rfl, ?_, fun found is => absurd (live.symm.trans is) (Option.some_ne_none _).symm, fun _ => ?_⟩
    · intro other different
      exact ⟨Function.update_of_ne different _ _, Function.update_of_ne different _ _⟩
    · refine ⟨state.now + contextCacheTTL, Nat.lt_add_of_pos_right (by decide), ?_, Function.update_self _ _ _⟩
      exact Function.update_self _ _ _
  | some held =>
    obtain ⟨expiresAt, there⟩ := Store.holds_of_get live
    have updated : state.store.updateTTL key contextUpdateCacheTTL state.now =
        .ok (Function.update state.store key (some ⟨held, some (state.now + contextUpdateCacheTTL)⟩)) := by
      rw [Store.updateTTL, there, live]
      rfl
    simp only [updated]
    refine ⟨_, rfl, rfl, ?_, ?_, fun none => absurd (live.symm.trans none) (Option.some_ne_none _)⟩
    · intro other different
      exact ⟨Function.update_of_ne different _ _, rfl⟩
    · intro found is
      cases live.symm.trans is
      exact ⟨Function.update_self _ _ _, rfl⟩

theorem Put.trans {owner : Owner} {key : String} {first second : Context} {before middle after : Contexts}
    (earlier : Put owner key first before middle) (later : Put owner key second middle after) :
    Put owner key first before after := by
  refine ⟨later.now.trans earlier.now, ?_, ?_, ?_⟩
  · intro other different
    obtain ⟨store, owners⟩ := earlier.others other different
    obtain ⟨stored, owned⟩ := later.others other different
    exact ⟨stored.trans store, owned.trans owners⟩
  · intro found live
    obtain ⟨store, owners⟩ := earlier.kept found live
    have still : middle.store.get key middle.now = some found := by
      apply get_until store
      rw [earlier.now]
      exact Nat.lt_add_of_pos_right (by decide)
    obtain ⟨stored, owned⟩ := later.kept found still
    exact ⟨by rw [stored, earlier.now], owned.trans owners⟩
  · intro missing
    obtain ⟨expiresAt, live, store, owners⟩ := earlier.added missing
    have still : middle.store.get key middle.now = some { first with internal := true, name := key } :=
      get_until store (by rwa [earlier.now])
    obtain ⟨stored, owned⟩ := later.kept _ still
    refine ⟨middle.now + contextUpdateCacheTTL, ?_, stored, owned.trans owners⟩
    rw [earlier.now]
    exact Nat.lt_add_of_pos_right (by decide)

theorem named_iff {clusterName : String} {context : Context} :
    named clusterName context = true ↔ effectiveContextName context = .ok clusterName := by
  unfold named
  cases effectiveContextName context <;> simp

/-- The contexts of a list that are put or refreshed. -/
def reachedOf (clusterName : String) (contexts : List Context) : List Context :=
  (contexts.takeWhile fun context => !faulty context).filter (named clusterName)

/-- The key of a loop that comes to its end. -/
def keyAfter (clusterName userID contextKey : String) (reached : List Context) : String :=
  if reached = [] then contextKey else statelessContextKey clusterName userID

theorem reachedOf_fine {clusterName : String} {contexts : List Context} (fine : ∀ context ∈ contexts, faulty context = false) :
    reachedOf clusterName contexts = contexts.filter (named clusterName) := by
  have whole : contexts.takeWhile (fun context => !faulty context) = contexts := by
    rw [List.takeWhile_eq_self_iff]
    intro context member
    rw [fine context member]
    rfl
  rw [reachedOf, whole]

theorem cacheContexts_ok (clusterName userID : String) {contexts : List Context} (contextKey : String) (state : Contexts)
    (fine : ∀ context ∈ contexts, faulty context = false) : (cacheContexts clusterName userID contexts contextKey state).1 =
      .ok (keyAfter clusterName userID contextKey (contexts.filter (named clusterName))) := by
  induction contexts generalizing contextKey state with
  | nil => rfl
  | cons context rest ih =>
    rw [List.forall_mem_cons] at fine
    rw [cacheContexts]
    cases effective : effectiveContextName context with
    | error err => simp [faulty, effective] at fine
    | ok name =>
      by_cases other : name = clusterName
      · subst other
        obtain ⟨middle, put, -⟩ := setKeyInCache_put (name, userID) (statelessContextKey name userID) context state
        simp only [ne_eq, not_true_eq_false, if_false, put]
        rw [ih (statelessContextKey name userID) middle fine.2, List.filter_cons_of_pos (named_iff.mpr effective)]
        simp [keyAfter]
      · simp only [ne_eq, other, not_false_eq_true, if_true]
        rw [List.filter_cons_of_neg (by simp [named, effective, other])]
        exact ih contextKey state fine.2

theorem cacheContexts_error (clusterName userID : String) {contexts : List Context} (contextKey : String) (state : Contexts)
    (broken : ∃ context ∈ contexts, faulty context = true) :
    ∃ err, (cacheContexts clusterName userID contexts contextKey state).1 = .error err := by
  induction contexts generalizing contextKey state with
  | nil => simp at broken
  | cons context rest ih =>
    rw [cacheContexts]
    cases effective : effectiveContextName context with
    | error err => exact ⟨err, rfl⟩
    | ok name =>
      have later : ∃ context ∈ rest, faulty context = true := by simpa [faulty, effective] using broken
      by_cases other : name = clusterName
      · subst other
        obtain ⟨middle, put, -⟩ := setKeyInCache_put (name, userID) (statelessContextKey name userID) context state
        simp only [ne_eq, not_true_eq_false, if_false, put]
        exact ih _ middle later
      · simp only [ne_eq, other, not_false_eq_true, if_true]
        exact ih contextKey state later

theorem cacheContexts_put (clusterName userID : String) (contexts : List Context) (contextKey : String) (state : Contexts) :
    match reachedOf clusterName contexts with
    | [] => (cacheContexts clusterName userID contexts contextKey state).2 = state
    | first :: _ => Put (clusterName, userID) (statelessContextKey clusterName userID) first state
        (cacheContexts clusterName userID contexts contextKey state).2 := by
  induction contexts generalizing contextKey state with
  | nil => rfl
  | cons context rest ih =>
    rw [cacheContexts]
    cases effective : effectiveContextName context with
    | error err =>
      have stops : reachedOf clusterName (context :: rest) = [] := by simp [reachedOf, faulty, effective]
      rw [stops]
    | ok name =>
      by_cases other : name = clusterName
      · subst other
        have here : reachedOf name (context :: rest) = context :: reachedOf name rest := by
          simp [reachedOf, faulty, named, effective]
        obtain ⟨middle, put, holds⟩ := setKeyInCache_put (name, userID) (statelessContextKey name userID) context state
        simp only [here, ne_eq, not_true_eq_false, if_false, put]
        have later := ih (statelessContextKey name userID) middle
        cases found : reachedOf name rest with
        | nil =>
          rw [found] at later
          rw [later]
          exact holds
        | cons second more =>
          rw [found] at later
          exact holds.trans later
      · have skipped : reachedOf clusterName (context :: rest) = reachedOf clusterName rest := by
          simp [reachedOf, faulty, named, effective, other]
        simp only [skipped, ne_eq, other, not_false_eq_true, if_true]
        exact ih contextKey state

section
variable {Bytes : Type} {packages : Packages Bytes} {request : Request} {state : Contexts}

theorem cacheStatelessContext_loaded {kubeConfig : String} {contexts : List Context} {errors : List ContextLoadError}
    (loads : loadContextsFromBase64String packages kubeConfig dynamicClusterSource = some (.ok (contexts, errors)))
    (nonempty : contexts ≠ []) (targetClusterName userID : String) (state : Contexts) :
    cacheStatelessContext packages kubeConfig targetClusterName userID state =
      cacheContexts targetClusterName userID contexts "" state := by
  unfold cacheStatelessContext
  rw [loads]
  cases contexts with
  | nil => exact absurd rfl nonempty
  | cons context rest => rfl

theorem cacheStatelessContext_loop (nonempty : request.contexts packages ≠ []) :
    cacheStatelessContext packages request.kubeConfig request.clusterName request.userID state =
      cacheContexts request.clusterName request.userID (request.contexts packages) "" state := by
  unfold Request.contexts at nonempty ⊢
  split
  next contexts errors loads =>
    simp only [loads] at nonempty
    exact cacheStatelessContext_loaded loads nonempty request.clusterName request.userID state
  next => exact absurd (by simp) nonempty

theorem cacheStatelessContext_empty (state : Contexts) (empty : request.contexts packages = []) : ∃ err,
    cacheStatelessContext packages request.kubeConfig request.clusterName request.userID state = (.error err, state) := by
  unfold cacheStatelessContext
  unfold Request.contexts at empty
  split
  next => exact ⟨_, rfl⟩
  next => exact ⟨_, rfl⟩
  next => exact ⟨_, rfl⟩
  next => exact ⟨_, rfl⟩
  next nonempty loads =>
    rw [loads] at empty
    exact (nonempty empty).elim

theorem getContextKeyForRequest_cached : getContextKeyForRequest packages true request state =
    ((cacheStatelessContext packages request.kubeConfig request.clusterName request.userID state).1.map fun contextKey =>
      match request.protocols with
      | none => contextKey
      | some protocols => (websocketConnContextKey protocols request.clusterName).1,
    (cacheStatelessContext packages request.kubeConfig request.clusterName request.userID state).2) := by
  rw [getContextKeyForRequest, if_pos ⟨request.carries, rfl⟩]
  obtain ⟨cached, after⟩ := cacheStatelessContext packages request.kubeConfig request.clusterName request.userID state
  cases cached with
  | error err => rfl
  | ok contextKey => cases request.protocols <;> rfl

theorem readable_ok (state : Contexts) (readable : request.Readable packages) :
    (getContextKeyForRequest packages true request state).1 = .ok (request.servedKey packages) := by
  rw [getContextKeyForRequest_cached, cacheStatelessContext_loop readable.1, cacheContexts_ok _ _ _ _ readable.2]
  unfold Request.servedKey
  cases request.protocols <;> rfl

theorem unreadable_error (state : Contexts) (unreadable : ¬request.Readable packages) :
    ∃ err, (getContextKeyForRequest packages true request state).1 = .error err := by
  rw [getContextKeyForRequest_cached]
  by_cases empty : request.contexts packages = []
  · obtain ⟨err, fails⟩ := cacheStatelessContext_empty state empty
    exact ⟨err, by rw [fails]; rfl⟩
  · have broken : ∃ context ∈ request.contexts packages, faulty context = true := by
      by_contra none
      refine unreadable ⟨empty, fun context member => ?_⟩
      rw [Bool.eq_false_iff]
      exact fun bad => none ⟨context, member, bad⟩
    obtain ⟨err, fails⟩ := cacheContexts_error request.clusterName request.userID "" state broken
    exact ⟨err, by rw [cacheStatelessContext_loop empty, fails]; rfl⟩

theorem request_put (packages : Packages Bytes) (request : Request) (state : Contexts) : match request.reached packages with
    | [] => (getContextKeyForRequest packages true request state).2 = state
    | first :: _ => Put (request.clusterName, request.userID) (statelessContextKey request.clusterName request.userID) first
        state (getContextKeyForRequest packages true request state).2 := by
  rw [getContextKeyForRequest_cached]
  by_cases empty : request.contexts packages = []
  · obtain ⟨err, fails⟩ := cacheStatelessContext_empty state empty
    have none : request.reached packages = [] := by rw [Request.reached, empty]; rfl
    rw [none, fails]
  · rw [cacheStatelessContext_loop empty]
    exact cacheContexts_put request.clusterName request.userID (request.contexts packages) "" state

theorem reached_matching (readable : request.Readable packages) : request.reached packages = request.matching packages :=
  reachedOf_fine readable.2

theorem anonymous_key (packages : Packages Bytes) (anonymous : request.Anonymous) : statelessContextKey request.clusterName request.userID = request.clusterName ∧
    (request.matching packages ≠ [] → request.servedKey packages = request.clusterName) := by
  have own : statelessContextKey request.clusterName request.userID = request.clusterName := by rw [anonymous.1]; rfl
  refine ⟨own, fun some => ?_⟩
  unfold Request.servedKey
  cases asked : request.protocols with
  | none => rw [if_neg some, own]
  | some protocols =>
    have plain := anonymous.2 protocols asked
    simp [websocketConnContextKey, plain]

theorem Put.get_kept {owner : Owner} {key other : String} {first found : Context} {before after : Contexts}
    (put : Put owner key first before after) (live : before.store.get other before.now = some found) :
    after.store.get other before.now = some found ∧ after.owners other = before.owners other := by
  by_cases same : other = key
  · subst same
    obtain ⟨store, owners⟩ := put.kept found live
    exact ⟨get_until store (Nat.lt_add_of_pos_right (by decide)), owners⟩
  · obtain ⟨store, owners⟩ := put.others other same
    refine ⟨?_, owners⟩
    rw [Store.get, store]
    exact live

theorem served_unmatched (readable : request.Readable packages) (none : request.matching packages = []) :
    Served packages state request ↔ Fitting packages state request := by
  have result := readable_ok state readable
  have same := request_put packages request state
  rw [reached_matching readable, none] at same
  have fits : Fitting packages state request ↔ state.store.get (request.servedKey packages) state.now = Option.none := by
    unfold Fitting
    cases state.store.get (request.servedKey packages) state.now with
    | none => exact iff_of_true (fun some => absurd none some) rfl
    | some context =>
      refine iff_of_false (fun ⟨agrees, _⟩ => ?_) (Option.some_ne_none _)
      obtain ⟨wanted, member, -⟩ := agrees
      rw [none] at member
      cases member
  rw [fits]
  constructor
  · intro served
    have missing := served.none _ result none
    rwa [same] at missing
  · intro missing
    refine ⟨fun _ _ some => absurd none some, ?_, fun _ _ _ some => absurd none some, ?_⟩
    · intro key is _
      cases result.symm.trans is
      rw [same]
      exact missing
    · intro _ key context _ _
      rw [same]

theorem served_matched (readable : request.Readable packages) (some : request.matching packages ≠ []) :
    Served packages state request ↔ Fitting packages state request := by
  have result := readable_ok state readable
  have put := request_put packages request state
  obtain ⟨first, rest, matched⟩ := List.exists_cons_of_ne_nil some
  rw [reached_matching readable, matched] at put
  dsimp only at put
  have inside : first ∈ request.matching packages := by rw [matched]; exact List.mem_cons_self
  unfold Fitting
  cases live : state.store.get (request.servedKey packages) state.now with
  | some context =>
    obtain ⟨kept, owned⟩ := put.get_kept live
    constructor
    · intro served
      obtain ⟨found, there, agrees⟩ := served.own _ result some
      cases kept.symm.trans there
      exact ⟨agrees, fun anonymous => owned ▸ served.uses anonymous _ result some⟩
    · intro ⟨agrees, owner⟩
      refine ⟨?_, fun _ _ none => absurd none some, ?_, ?_⟩
      · intro key is _
        cases result.symm.trans is
        exact ⟨context, kept, agrees⟩
      · intro anonymous key is _
        cases result.symm.trans is
        rw [owned, owner anonymous]
      · intro anonymous key other _ foreign
        obtain ⟨here, served⟩ := anonymous_key packages anonymous
        apply (put.others key ?_).1
        rintro rfl
        rw [here, ← served some] at foreign
        exact foreign (served some ▸ owner anonymous)
  | none =>
    constructor
    · intro served _
      obtain ⟨found, there, -⟩ := served.own _ result some
      by_contra different
      rw [Store.get, (put.others _ different).1] at there
      exact absurd (live.symm.trans there) (Option.some_ne_none _).symm
    · intro same
      have key := same some
      rw [key] at live
      obtain ⟨expiresAt, later, stored, owned⟩ := put.added live
      refine ⟨?_, fun _ _ none => absurd none some, ?_, ?_⟩
      · intro key' is _
        cases result.symm.trans is
        rw [key]
        exact ⟨_, get_until stored later, first, inside, rfl, rfl⟩
      · intro anonymous key' is _
        cases result.symm.trans is
        rw [key, owned, anonymous.1]
      · intro _ key' other there _
        apply (put.others key' ?_).1
        rintro rfl
        exact absurd (live.symm.trans there) (Option.some_ne_none _).symm

theorem served_unreadable (unreadable : ¬request.Readable packages) :
    Served packages state request ↔ Harmless packages state request := by
  obtain ⟨err, fails⟩ := unreadable_error state unreadable
  have put := request_put packages request state
  have never : ∀ key, (getContextKeyForRequest packages true request state).1 ≠ .ok key := by
    intro key is
    cases fails.symm.trans is
  cases matched : request.reached packages with
  | nil =>
    rw [matched] at put
    refine iff_of_true ⟨fun key is => absurd is (never key), fun key is => absurd is (never key),
      fun _ key is => absurd is (never key), ?_⟩ (fun _ some => absurd matched some)
    intro _ key _ _ _
    rw [put]
  | cons first rest =>
    rw [matched] at put
    dsimp only at put
    have some : request.reached packages ≠ [] := by rw [matched]; exact List.cons_ne_nil _ _
    constructor
    · intro served anonymous _ found there live foreign
      obtain ⟨context, is⟩ := Option.isSome_iff_exists.mp live
      have same := served.apart anonymous _ context is foreign
      have here := (anonymous_key packages anonymous).1
      rw [here] at put
      rw [(put.kept context is).1, there] at same
      cases same
      rfl
    · intro harmless
      refine ⟨fun key is => absurd is (never key), fun key is => absurd is (never key),
        fun _ key is => absurd is (never key), ?_⟩
      intro anonymous key context live foreign
      have here := (anonymous_key packages anonymous).1
      rw [here] at put
      by_cases other : key = request.clusterName
      · subst other
        obtain ⟨expiresAt, there⟩ := Store.holds_of_get live
        rw [(put.kept context live).1, there]
        have same := harmless anonymous some _ there (by rw [live]; rfl) foreign
        rw [← same]
      · exact (put.others key other).1

theorem served_step (state : Contexts) (request : Request) :
    Served packages state request ↔ Allowed packages state (.request request) := by
  by_cases readable : request.Readable packages
  · have served : Served packages state request ↔ Fitting packages state request := by
      by_cases some : request.matching packages = []
      · exact served_unmatched readable some
      · exact served_matched readable some
    rw [served]
    exact ⟨fun fits => ⟨fun _ => fits, fun unreadable => absurd readable unreadable⟩, fun allowed => allowed.1 readable⟩
  · rw [served_unreadable readable]
    exact ⟨fun harmless => ⟨fun is => absurd is readable, fun _ => harmless⟩, fun allowed => allowed.2 readable⟩

end

/-- In a run every request is served with what it carries exactly when each of them
meets the condition in the state that it comes to. -/
theorem served_iff {Bytes : Type} (packages : Packages Bytes) (start : Contexts) (events : List Event) :
    (∀ before request after state, events = before ++ .request request :: after →
      run (step packages) start before = some state → Served packages state request) ↔
      Meets (step packages) (Allowed packages) start events := by
  rw [meets_iff_prefixes]
  constructor
  · intro served before event after state split ran
    cases event with
    | request request => exact (served_step state request).mp (served before request after state split ran)
    | elapse => trivial
    | cleanUp => trivial
  · intro allowed before request after state split ran
    exact (served_step state request).mpr (allowed before (.request request) after state split ran)

private def withToken (token : String) (carries : token ≠ "") : Request := ⟨"prod", token, carries, "alice", none⟩

/-- A user who replaces the token is served with the old one. -/
theorem old_token_served : ¬∀ (Bytes : Type) (packages : Packages Bytes) (start : Contexts) (events : List Event)
    (before : List Event) (request : Request) (after : List Event) (state : Contexts),
    events = before ++ .request request :: after → run (step packages) start before = some state →
      Served packages state request := by
  intro served
  have second := served String tokenPackages ⟨0, Store.empty, fun _ => none⟩ _ [.request (withToken "old" (by decide))]
    (withToken "new" (by decide)) [] _ rfl rfl
  obtain ⟨context, there, wanted, member, -, same⟩ := second.own _ rfl (by decide)
  have old := congrArg (Option.map fun context => context.authInfo.map AuthInfo.token) there
  have new : ∀ wanted ∈ (withToken "new" (by decide)).matching tokenPackages,
      wanted.authInfo.map AuthInfo.token = some "new" := by decide
  rw [Option.map_some, same, new wanted member] at old
  revert old
  decide

end K8Sense.Stateless
