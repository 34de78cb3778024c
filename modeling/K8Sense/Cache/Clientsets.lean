import K8Sense.Library.Keyed
import K8Sense.Library.Text
import K8Sense.Library.Transition

/-! The clientsets with which users are authorised, cached for each context and
token. All that the calls share is changed under one mutex; a clientset is created
outside of it. -/

namespace K8Sense.Cache.Clientsets
open Transition

def nul : Char := Char.ofNat 0

/-- A bearer token, which comes from a header and so has no NUL. -/
structure Token where
  text : String
  free : nul ∉ text.toList

/-- In seconds, as all times. -/
def clientsetTTL : Nat := 600

/-- Clientsets go by the number of the call that created them. -/
structure CachedClientSet where
  clientset : Nat
  lastUsed : Nat
deriving DecidableEq

/-- What became of the context while a clientset is created, which is not recorded. -/
inductive Mark where
  | clear
  | blocked
  /-- Blocked, and active again later. -/
  | lifted
deriving DecidableEq

inductive Phase where
  /-- Not found in the cache at first. -/
  | missed
  | waiting (creator : Nat)
  | creating (mark : Mark)
  /-- Not taken out of `inFlight` yet. -/
  | created (result : Except String Nat) (mark : Mark) (cached : Bool)
  | returned (result : Except String Nat)

/-- A call of `GetClientSet`. -/
structure Call where
  contextKey : String
  clusterID : String
  token : Token
  phase : Phase

structure State where
  now : Nat
  clientsetCache : List (String × CachedClientSet)
  blockedClientsetPrefixes : List (String × Nat)
  inFlight : List (String × Nat)
  calls : List Call

inductive Event where
  | getClientSet (contextKey clusterID : String) (token : Token)
  | recheck (id : Nat)
  | create (id : Nat) (err : Option String)
  | finish (id : Nat)
  | wake (id : Nat)
  | evict (clientsetCachePrefix : String)
  | clearBlocked (activeContexts : List String)
  | sweep
  | tick

def initial : State := ⟨0, [], [], [], []⟩

def cacheKey (contextKey : String) (token : Token) : String := contextKey ++ String.singleton nul ++ token.text

/-- Everything before the last NUL. -/
def clientsetCachePrefixFromCacheKey (key : String) : String :=
  if nul ∈ key.toList then String.ofList ((key.toList.reverse.dropWhile fun char => char ≠ nul).drop 1).reverse else key

def hasPrefix (start key : String) : Bool := (start ++ String.singleton nul).toList.isPrefixOf key.toList

def CachedClientSet.expired (now : Nat) (entry : CachedClientSet) : Bool := now - entry.lastUsed > clientsetTTL

def touch (now : Nat) (key : String) (cache : List (String × CachedClientSet)) : List (String × CachedClientSet) :=
  cache.map fun row => if row.1 = key then (row.1, { row.2 with lastUsed := now }) else row

/-- An entry that has not expired, which is what the cache is looked at for under
the mutex. -/
def fresh (now : Nat) (key : String) (cache : List (String × CachedClientSet)) : Option CachedClientSet :=
  (Keyed.lookup key cache).filter fun entry => !entry.expired now

def hasClientsetActivityForPrefix (start : String) (state : State) : Bool :=
  (state.clientsetCache.any fun row => hasPrefix start row.1) || state.inFlight.any fun row => hasPrefix start row.1

def pruneBlockedClientsetPrefixes (state : State) : State :=
  { state with blockedClientsetPrefixes := state.blockedClientsetPrefixes.filter fun row =>
      hasClientsetActivityForPrefix row.1 state || state.now - row.2 < clientsetTTL }

def evictExpiredClientsets (state : State) : State :=
  pruneBlockedClientsetPrefixes
    { state with clientsetCache := state.clientsetCache.filter fun row => !row.2.expired state.now }

def Call.key (call : Call) : String := cacheKey call.contextKey call.token

def Call.block (removed : String) (call : Call) : Call :=
  match call.phase with
  | .creating _ => if call.contextKey = removed then { call with phase := .creating .blocked } else call
  | _ => call

def Call.unblock (activeContexts : List String) (call : Call) : Call :=
  match call.phase with
  | .creating .blocked =>
    if activeContexts.contains call.contextKey then { call with phase := .creating .lifted } else call
  | _ => call

def evictClientsetsForCluster (clientsetCachePrefix : String) (state : State) : State :=
  if clientsetCachePrefix = "" then state
  else { state with
    blockedClientsetPrefixes :=
      Keyed.upsert clientsetCachePrefix state.now (fun _ => state.now) state.blockedClientsetPrefixes
    clientsetCache := state.clientsetCache.filter fun row => !hasPrefix clientsetCachePrefix row.1
    calls := state.calls.map (Call.block clientsetCachePrefix) }

def clearBlockedClientsetPrefixesForActiveContexts (activeContexts : List String) (state : State) : State :=
  { state with
    blockedClientsetPrefixes := state.blockedClientsetPrefixes.filter fun row => !activeContexts.contains row.1
    calls := state.calls.map (Call.unblock activeContexts) }

def getCachedClientSet (key : String) (state : State) : State × Option Nat :=
  match Keyed.lookup key state.clientsetCache with
  | none => (state, none)
  | some entry =>
    if entry.expired state.now then ({ state with clientsetCache := Keyed.erase key state.clientsetCache }, none)
    else ({ state with clientsetCache := touch state.now key state.clientsetCache }, some entry.clientset)

def State.addCall (call : Call) (state : State) : State := { state with calls := state.calls ++ [call] }

def State.setCall (id : Nat) (call : Call) (state : State) : State := { state with calls := state.calls.set id call }

/-- The call up to the second time that it takes the mutex. -/
def getClientSet (contextKey clusterID : String) (token : Token) (state : State) : State :=
  let call (phase : Phase) : Call := ⟨contextKey, clusterID, token, phase⟩
  if contextKey = "" then state.addCall (call (.returned (.error "empty headlamp context key in GetClientSet")))
  else if (Text.split '+' clusterID).length < 2 then
    state.addCall (call (.returned (.error ("unexpected ClusterID format in GetClientSet: " ++ clusterID.quote))))
  else match getCachedClientSet (cacheKey contextKey token) state with
  | (state, some clientset) => state.addCall (call (.returned (.ok clientset)))
  | (state, none) => state.addCall (call .missed)

def recheck (id : Nat) (call : Call) (state : State) : State :=
  match fresh state.now call.key state.clientsetCache with
  | some entry =>
    State.setCall id { call with phase := .returned (.ok entry.clientset) }
      { state with clientsetCache := touch state.now call.key state.clientsetCache }
  | none =>
    match Keyed.lookup call.key state.inFlight with
    | some creator => state.setCall id { call with phase := .waiting creator }
    | none =>
      State.setCall id { call with phase := .creating .clear } { state with inFlight := state.inFlight ++ [(call.key, id)] }

def createAndCacheClientSet (id : Nat) (call : Call) (mark : Mark) (err : Option String) (state : State) : State :=
  match err with
  | some err =>
    let text := "error while creating clientset for cluster " ++ (Text.split '+' call.clusterID).getD 1 "" ++ ": " ++ err
    state.setCall id { call with phase := .created (.error text) mark false }
  | none =>
    match fresh state.now call.key state.clientsetCache with
    | some entry =>
      State.setCall id { call with phase := .created (.ok entry.clientset) mark false }
        { state with clientsetCache := touch state.now call.key state.clientsetCache }
    | none =>
      if (state.blockedClientsetPrefixes.map Prod.fst).contains (clientsetCachePrefixFromCacheKey call.key) then
        state.setCall id { call with phase := .created (.ok id) mark false }
      else
        State.setCall id { call with phase := .created (.ok id) mark true }
          { state with clientsetCache := Keyed.upsert call.key ⟨id, state.now⟩ (fun _ => ⟨id, state.now⟩) state.clientsetCache }

def step (state : State) : Event → Option State
  | .getClientSet contextKey clusterID token => some (getClientSet contextKey clusterID token state)
  | .recheck id =>
    match state.calls[id]? with
    | some ⟨contextKey, clusterID, token, .missed⟩ => some (recheck id ⟨contextKey, clusterID, token, .missed⟩ state)
    | _ => none
  | .create id err =>
    match state.calls[id]? with
    | some ⟨contextKey, clusterID, token, .creating mark⟩ =>
      some (createAndCacheClientSet id ⟨contextKey, clusterID, token, .creating mark⟩ mark err state)
    | _ => none
  | .finish id =>
    match state.calls[id]? with
    | some ⟨contextKey, clusterID, token, .created result _ _⟩ =>
      some (State.setCall id ⟨contextKey, clusterID, token, .returned result⟩
        { state with inFlight := Keyed.erase (cacheKey contextKey token) state.inFlight })
    | _ => none
  | .wake id =>
    match state.calls[id]? with
    | some ⟨contextKey, clusterID, token, .waiting creator⟩ =>
      match state.calls[creator]? with
      | some ⟨_, _, _, .returned result⟩ => some (state.setCall id ⟨contextKey, clusterID, token, .returned result⟩)
      | _ => none
    | _ => none
  | .evict clientsetCachePrefix => some (evictClientsetsForCluster clientsetCachePrefix state)
  | .clearBlocked activeContexts => some (clearBlockedClientsetPrefixesForActiveContexts activeContexts state)
  | .sweep => some (evictExpiredClientsets state)
  | .tick => some { state with now := state.now + 1 }

/-- In flight, from the entry into the table to its deletion. -/
def Call.flying (call : Call) : Bool :=
  match call.phase with
  | .creating _ | .created .. => true
  | _ => false

def Each (calls : List Call) (holds : Nat → Call → Prop) : Prop := ∀ id call, calls[id]? = some call → holds id call

/-- A creation that was in flight when its context was blocked is not cached. -/
def Call.Discarded (call : Call) : Prop := ∀ result mark, call.phase = .created result mark true → mark = .clear

structure Sound (state : State) : Prop where
  evicted : ∀ contextKey ∈ state.blockedClientsetPrefixes.map Prod.fst, ∀ token,
    Keyed.lookup (cacheKey contextKey token) state.clientsetCache = none
  single : ∀ (first second : Nat) (left right : Call), state.calls[first]? = some left → state.calls[second]? = some right →
    left.flying = true → right.flying = true → left.key = right.key → first = second
  discarded : Each state.calls fun _ call => call.Discarded

/-- A creation whose context was blocked does not come back with a clientset after
the context was active again. -/
def Regular (state : State) : Event → Prop
  | .create id none => ∀ call ∈ state.calls[id]?, call.phase ≠ .creating .lifted
  | _ => True

/-! Keys. -/

theorem prefix_of_key (contextKey : String) (token : Token) :
    clientsetCachePrefixFromCacheKey (cacheKey contextKey token) = contextKey := by
  have chars : (cacheKey contextKey token).toList = contextKey.toList ++ nul :: token.text.toList := by
    simp [cacheKey]
  have last : ∀ char ∈ token.text.toList.reverse, decide (char ≠ nul) = true := by
    intro char member
    have inside := List.mem_reverse.mp member
    exact decide_eq_true fun same => token.free (same ▸ inside)
  have there : nul ∈ (cacheKey contextKey token).toList := by simp [chars]
  rw [clientsetCachePrefixFromCacheKey, if_pos there, chars, List.reverse_append, List.reverse_cons, List.append_assoc,
    List.dropWhile_append_of_pos last]
  simp

theorem hasPrefix_key (contextKey : String) (token : Token) : hasPrefix contextKey (cacheKey contextKey token) = true := by
  simp [hasPrefix, cacheKey]

/-! Tables. -/

theorem fresh_some {now : Nat} {key : String} {cache : List (String × CachedClientSet)} {entry : CachedClientSet}
    (found : fresh now key cache = some entry) : (key, entry) ∈ cache ∧ entry.expired now = false := by
  obtain ⟨looked, recent⟩ := Option.filter_eq_some_iff.mp found
  exact ⟨Keyed.mem_of_lookup looked, by simpa using recent⟩

theorem fresh_none {now : Nat} {key : String} {cache : List (String × CachedClientSet)} (unique : Keyed.Unique cache)
    (missing : fresh now key cache = none) : ∀ row ∈ cache, row.1 = key → row.2.expired now = true := by
  intro row member named
  have looked : Keyed.lookup key cache = some row.2 := Keyed.lookup_mem unique (by rw [← named]; exact member)
  simpa [fresh, looked] using missing

theorem touch_keys (now : Nat) (key : String) (cache : List (String × CachedClientSet)) :
    (touch now key cache).map Prod.fst = cache.map Prod.fst := by
  rw [touch, List.map_map]
  apply List.map_congr_left
  intro row _
  simp only [Function.comp]
  split <;> rfl

theorem mem_touch {now : Nat} {key : String} {cache : List (String × CachedClientSet)} {row : String × CachedClientSet}
    (member : row ∈ touch now key cache) (other : row.1 ≠ key) : row ∈ cache := by
  obtain ⟨old, inside, same⟩ := List.mem_map.mp member
  split at same
  next named =>
    subst same
    exact absurd named other
  next =>
    subst same
    exact inside

/-- What the cache may hold under the blocks. -/
structure Stored (cache : List (String × CachedClientSet)) (blocked : List (String × Nat)) : Prop where
  unique : Keyed.Unique cache
  keyed : ∀ key ∈ cache.map Prod.fst, ∃ contextKey token, key = cacheKey contextKey token
  unblocked : ∀ key ∈ cache.map Prod.fst, clientsetCachePrefixFromCacheKey key ∉ blocked.map Prod.fst

section
variable {cache after : List (String × CachedClientSet)} {blocked : List (String × Nat)}

theorem stored_keys (stored : Stored cache blocked) (keys : (after.map Prod.fst).Sublist (cache.map Prod.fst)) :
    Stored after blocked where
  unique := stored.unique.sublist keys
  keyed key member := stored.keyed key (keys.subset member)
  unblocked key member := stored.unblocked key (keys.subset member)

theorem stored_touch (stored : Stored cache blocked) (now : Nat) (key : String) : Stored (touch now key cache) blocked :=
  stored_keys stored (touch_keys now key cache ▸ List.Sublist.refl _)

theorem stored_filter (stored : Stored cache blocked) (kept : String × CachedClientSet → Bool) :
    Stored (cache.filter kept) blocked :=
  stored_keys stored (List.filter_sublist.map Prod.fst)

theorem stored_unblock (stored : Stored cache blocked) (kept : String × Nat → Bool) : Stored cache (blocked.filter kept) where
  unique := stored.unique
  keyed := stored.keyed
  unblocked key member again := stored.unblocked key member ((List.filter_sublist.map Prod.fst).subset again)

theorem stored_put (stored : Stored cache blocked) {contextKey : String} {token : Token} {entry : CachedClientSet}
    (free : contextKey ∉ blocked.map Prod.fst) :
    Stored (Keyed.upsert (cacheKey contextKey token) entry (fun _ => entry) cache) blocked := by
  refine ⟨Keyed.unique_upsert stored.unique, ?_, ?_⟩
  · intro key member
    rw [Keyed.upsert_keys] at member
    split at member
    next => exact stored.keyed key member
    next =>
      rcases List.mem_append.mp member with old | new
      · exact stored.keyed key old
      · exact ⟨contextKey, token, List.mem_singleton.mp new⟩
  · intro key member
    rw [Keyed.upsert_keys] at member
    split at member
    next => exact stored.unblocked key member
    next =>
      rcases List.mem_append.mp member with old | new
      · exact stored.unblocked key old
      · obtain rfl := List.mem_singleton.mp new
        rw [prefix_of_key]
        exact free

theorem stored_block (stored : Stored cache blocked) (contextKey : String) (now : Nat) :
    Stored (cache.filter fun row => !hasPrefix contextKey row.1) (Keyed.upsert contextKey now (fun _ => now) blocked) := by
  have kept := stored_filter stored fun row => !hasPrefix contextKey row.1
  refine ⟨kept.unique, kept.keyed, ?_⟩
  intro key member
  have old := kept.unblocked key member
  rw [Keyed.upsert_keys]
  split
  next => exact old
  next =>
    rw [List.mem_append, not_or, List.mem_singleton]
    refine ⟨old, ?_⟩
    rintro rfl
    obtain ⟨named, token, rfl⟩ := kept.keyed key member
    obtain ⟨row, inside, same⟩ := List.mem_map.mp member
    have left := (List.mem_filter.mp inside).2
    rw [same, prefix_of_key, hasPrefix_key] at left
    cases left

end

/-! Calls. -/

section
variable {calls : List Call} {holds other : Nat → Call → Prop} {id : Nat} {call : Call}

theorem each_set (others : ∀ index current, index ≠ id → calls[index]? = some current → holds index current)
    (new : holds id call) : Each (calls.set id call) holds := by
  intro index current there
  by_cases same : index = id
  · subst same
    rw [List.getElem?_set] at there
    simp only [if_true] at there
    split at there
    next =>
      cases there
      exact new
    next => cases there
  · have apart : id ≠ index := fun equal => same equal.symm
    rw [List.getElem?_set_ne apart] at there
    exact others index current same there

theorem each_append (each : Each calls holds) (new : ∀ id, holds id call) : Each (calls ++ [call]) holds := by
  intro index current there
  rw [List.getElem?_append] at there
  split at there
  next => exact each index current there
  next =>
    rw [List.getElem?_singleton] at there
    split at there
    next =>
      cases there
      exact new index
    next => cases there

theorem each_map (f : Call → Call) (each : Each calls fun id call => holds id (f call)) : Each (calls.map f) holds := by
  intro index current there
  rw [List.getElem?_map] at there
  obtain ⟨old, before, rfl⟩ := Option.map_eq_some_iff.mp there
  exact each index old before

end

/-- The parts of the state for the creations under way. -/
structure Underway (now : Nat) (cache : List (String × CachedClientSet)) (blocked inFlight : List (String × Nat))
    (id : Nat) (call : Call) : Prop where
  listed : call.flying = true → Keyed.lookup call.key inFlight = some id
  stale : ∀ mark, call.phase = .creating mark → ∀ row ∈ cache, row.1 = call.key → row.2.expired now = true
  marked : call.phase = .creating .blocked → call.contextKey ∈ blocked.map Prod.fst
  lifted : call.phase = .creating .lifted → call.contextKey ∉ blocked.map Prod.fst

structure Base (state : State) : Prop where
  stored : Stored state.clientsetCache state.blockedClientsetPrefixes
  calls : Each state.calls
    (Underway state.now state.clientsetCache state.blockedClientsetPrefixes state.inFlight)

section
variable {now id : Nat} {cache after : List (String × CachedClientSet)} {blocked inFlight : List (String × Nat)}
  {call : Call}

theorem underway_idle (idle : call.flying = false) : Underway now cache blocked inFlight id call := by
  have none : ∀ mark, call.phase ≠ .creating mark := by
    intro mark creating
    simp [Call.flying, creating] at idle
  exact ⟨fun flying => absurd flying (by simp [idle]), fun mark creating => absurd creating (none mark),
    fun creating => absurd creating (none _), fun creating => absurd creating (none _)⟩

theorem underway_cache (underway : Underway now cache blocked inFlight id call)
    (kept : ∀ mark, call.phase = .creating mark → ∀ row ∈ after, row.1 = call.key → row ∈ cache) :
    Underway now after blocked inFlight id call :=
  ⟨underway.listed, fun mark creating row member named =>
    underway.stale mark creating row (kept mark creating row member named) named, underway.marked, underway.lifted⟩

theorem underway_touch (underway : Underway now cache blocked inFlight id call) {key : String} {entry : CachedClientSet}
    (found : (key, entry) ∈ cache) (recent : entry.expired now = false) :
    Underway now (touch now key cache) blocked inFlight id call := by
  apply underway_cache underway
  intro mark creating row member named
  apply mem_touch member
  rintro rfl
  have old := underway.stale mark creating _ found named
  rw [recent] at old
  cases old

end

variable {state next : State}

theorem base_addCall {call : Call} (base : Base state) (idle : call.flying = false) : Base (state.addCall call) :=
  ⟨base.stored, each_append base.calls fun _ => underway_idle idle⟩

theorem base_setCall {id : Nat} {call : Call} (base : Base state)
    (new : Underway state.now state.clientsetCache state.blockedClientsetPrefixes state.inFlight id call) :
    Base (state.setCall id call) :=
  ⟨base.stored, each_set (fun index current _ there => base.calls index current there) new⟩

theorem base_touch (base : Base state) {key : String} {entry : CachedClientSet} (found : (key, entry) ∈ state.clientsetCache)
    (recent : entry.expired state.now = false) :
    Base { state with clientsetCache := touch state.now key state.clientsetCache } :=
  ⟨stored_touch base.stored _ _, fun id call there => underway_touch (base.calls id call there) found recent⟩

theorem base_getClientSet (base : Base state) (contextKey clusterID : String) (token : Token) :
    Base (getClientSet contextKey clusterID token state) := by
  unfold getClientSet
  split
  next => exact base_addCall base rfl
  next =>
    split
    next => exact base_addCall base rfl
    next =>
      unfold getCachedClientSet
      cases looked : Keyed.lookup (cacheKey contextKey token) state.clientsetCache with
      | none => exact base_addCall base rfl
      | some entry =>
        by_cases old : entry.expired state.now = true
        · simp only [old, if_true]
          apply base_addCall ?_ rfl
          refine ⟨stored_filter base.stored _, fun id call there => ?_⟩
          exact underway_cache (base.calls id call there) fun _ _ row member _ => (List.mem_filter.mp member).1
        · have recent : entry.expired state.now = false := by simpa using old
          simp only [recent, Bool.false_eq_true, if_false]
          exact base_addCall (base_touch base (Keyed.mem_of_lookup looked) recent) rfl

theorem base_recheck (base : Base state) (id : Nat) (call : Call) :
    Base (recheck id call state) := by
  unfold recheck
  split
  next entry found =>
    obtain ⟨member, recent⟩ := fresh_some found
    exact base_setCall (base_touch base member recent) (underway_idle rfl)
  next missing =>
    split
    next creator _ => exact base_setCall base (underway_idle rfl)
    next absent =>
      -- The key was not in the table, so that no other creation has it.
      have others : Each state.calls (Underway state.now state.clientsetCache state.blockedClientsetPrefixes
          (state.inFlight ++ [(call.key, id)])) := by
        intro index current found
        have underway := base.calls index current found
        refine ⟨fun flying => ?_, underway.stale, underway.marked, underway.lifted⟩
        rw [Keyed.lookup_append, underway.listed flying]
        rfl
      refine ⟨base.stored, each_set (fun index current _ found => others index current found) ⟨fun _ => ?_, ?_, nofun, nofun⟩⟩
      · show Keyed.lookup call.key (state.inFlight ++ [(call.key, id)]) = some id
        rw [Keyed.lookup_append, absent, Keyed.lookup_cons, if_pos rfl]
        rfl
      · intro _ _ row member named
        exact fresh_none base.stored.unique missing row member named

theorem never_existing (base : Base state) {id : Nat} {call : Call} {mark : Mark} (there : state.calls[id]? = some call)
    (creating : call.phase = .creating mark) : fresh state.now call.key state.clientsetCache = none := by
  cases found : fresh state.now call.key state.clientsetCache with
  | none => rfl
  | some entry =>
    obtain ⟨member, recent⟩ := fresh_some found
    have old := (base.calls id call there).stale mark creating _ member rfl
    rw [recent] at old
    cases old

theorem create_cases (base : Base state) {id : Nat} {call : Call} {mark : Mark} (there : state.calls[id]? = some call)
    (creating : call.phase = .creating mark) (err : Option String) :
    (∃ result, (err.isSome = true ∨ call.contextKey ∈ state.blockedClientsetPrefixes.map Prod.fst) ∧
      createAndCacheClientSet id call mark err state =
        state.setCall id { call with phase := .created result mark false }) ∨
    err = none ∧ call.contextKey ∉ state.blockedClientsetPrefixes.map Prod.fst ∧
      createAndCacheClientSet id call mark err state =
        State.setCall id { call with phase := .created (.ok id) mark true }
          { state with clientsetCache := Keyed.upsert call.key ⟨id, state.now⟩ (fun _ => ⟨id, state.now⟩) state.clientsetCache } := by
  cases err with
  | some err => exact Or.inl ⟨_, Or.inl rfl, rfl⟩
  | none =>
    have owner : clientsetCachePrefixFromCacheKey call.key = call.contextKey := prefix_of_key _ _
    simp only [createAndCacheClientSet, never_existing base there creating, owner, List.contains_iff_mem]
    by_cases blocked : call.contextKey ∈ state.blockedClientsetPrefixes.map Prod.fst
    · left
      exact ⟨.ok id, Or.inr blocked, by rw [if_pos blocked]⟩
    · right
      exact ⟨trivial, blocked, by rw [if_neg blocked]⟩

theorem base_create (base : Base state) {id : Nat} {call : Call} {mark : Mark} (there : state.calls[id]? = some call)
    (creating : call.phase = .creating mark) (err : Option String) :
    Base (createAndCacheClientSet id call mark err state) := by
  have listed : Keyed.lookup call.key state.inFlight = some id :=
    (base.calls id call there).listed (by simp [Call.flying, creating])
  rcases create_cases base there creating err with ⟨result, _, made⟩ | ⟨_, free, made⟩
  · rw [made]
    exact base_setCall base ⟨fun _ => listed, nofun, nofun, nofun⟩
  · rw [made]
    refine ⟨stored_put base.stored free, each_set ?_ ⟨fun _ => listed, nofun, nofun, nofun⟩⟩
    intro index current different found
    have underway := base.calls index current found
    apply underway_cache underway
    intro mark creating row member named
    -- Another creation has another key.
    have apart : current.key ≠ call.key := by
      intro same
      have other := underway.listed (by simp [Call.flying, creating])
      rw [same, listed] at other
      exact different (Option.some.inj other).symm
    have member : row ∈ Keyed.upsert call.key ⟨id, state.now⟩ (fun _ => ⟨id, state.now⟩) state.clientsetCache := member
    rcases Keyed.mem_upsert member with old | rfl | ⟨_, _, rfl⟩
    · exact old
    · exact absurd named.symm apart
    · exact absurd named.symm apart

theorem base_finish (base : Base state) {id : Nat} {call : Call} (there : state.calls[id]? = some call)
    (flying : call.flying = true) {result : Except String Nat} :
    Base (State.setCall id { call with phase := .returned result }
      { state with inFlight := Keyed.erase call.key state.inFlight }) := by
  have listed := (base.calls id call there).listed flying
  refine ⟨base.stored, each_set ?_ (underway_idle rfl)⟩
  intro index current different found
  have underway := base.calls index current found
  refine ⟨fun flies => ?_, underway.stale, underway.marked, underway.lifted⟩
  have other := underway.listed flies
  have apart : current.key ≠ call.key := by
    intro same
    rw [same, listed] at other
    exact different (Option.some.inj other).symm
  show Keyed.lookup current.key (Keyed.erase call.key state.inFlight) = some index
  rw [Keyed.lookup_erase, if_neg apart, other]

theorem block_cases (removed : String) (call : Call) :
    call.block removed = call ∧ (∀ mark, call.phase = .creating mark → call.contextKey ≠ removed) ∨
      (∃ mark, call.phase = .creating mark) ∧ call.contextKey = removed ∧
        call.block removed = { call with phase := .creating .blocked } := by
  obtain ⟨contextKey, clusterID, token, phase⟩ := call
  cases phase with
  | creating mark => by_cases same : contextKey = removed <;> simp [Call.block, same]
  | _ => simp [Call.block]

theorem unblock_cases (activeContexts : List String) (call : Call) :
    call.unblock activeContexts = call ∧ (call.phase = .creating .blocked → call.contextKey ∉ activeContexts) ∨
      call.phase = .creating .blocked ∧ call.contextKey ∈ activeContexts ∧
        call.unblock activeContexts = { call with phase := .creating .lifted } := by
  obtain ⟨contextKey, clusterID, token, phase⟩ := call
  cases phase with
  | creating mark =>
    cases mark with
    | blocked => by_cases active : contextKey ∈ activeContexts <;> simp [Call.unblock, active]
    | _ => simp [Call.unblock]
  | _ => simp [Call.unblock]

theorem base_evict (base : Base state) (clientsetCachePrefix : String) :
    Base (evictClientsetsForCluster clientsetCachePrefix state) := by
  unfold evictClientsetsForCluster
  split
  next => exact base
  next =>
    refine ⟨stored_block base.stored _ _, each_map _ ?_⟩
    intro id call there
    have underway := base.calls id call there
    have blocked : ∀ contextKey, contextKey ∈ (Keyed.upsert clientsetCachePrefix state.now (fun _ => state.now)
        state.blockedClientsetPrefixes).map Prod.fst ↔
        contextKey = clientsetCachePrefix ∨ contextKey ∈ state.blockedClientsetPrefixes.map Prod.fst := by
      intro contextKey
      rw [Keyed.upsert_keys]
      split
      next already =>
        constructor
        · exact Or.inr
        · rintro (rfl | old)
          · exact already
          · exact old
      next => simp [or_comm]
    rcases block_cases clientsetCachePrefix call with ⟨same, other⟩ | ⟨⟨mark, creating⟩, own, changed⟩
    · rw [same]
      refine ⟨underway.listed, ?_, ?_, ?_⟩
      · intro mark creating row member named
        exact underway.stale mark creating row (List.mem_filter.mp member).1 named
      · intro creating
        exact (blocked _).mpr (Or.inr (underway.marked creating))
      · intro creating again
        rcases (blocked _).mp again with equal | old
        · exact other _ creating equal
        · exact underway.lifted creating old
    · rw [changed]
      refine ⟨fun _ => underway.listed (by simp [Call.flying, creating]), ?_, fun _ => (blocked _).mpr (Or.inl own), nofun⟩
      intro _ _ row member named
      exact underway.stale mark creating row (List.mem_filter.mp member).1 named

theorem base_clearBlocked (base : Base state) (activeContexts : List String) :
    Base (clearBlockedClientsetPrefixesForActiveContexts activeContexts state) := by
  refine ⟨stored_unblock base.stored _, each_map _ ?_⟩
  intro id call there
  have underway := base.calls id call there
  have left : ∀ contextKey, contextKey ∈ ((state.blockedClientsetPrefixes.filter fun row =>
      !activeContexts.contains row.1).map Prod.fst) ↔
      contextKey ∈ state.blockedClientsetPrefixes.map Prod.fst ∧ contextKey ∉ activeContexts := by
    intro contextKey
    simp
  rcases unblock_cases activeContexts call with ⟨same, inactive⟩ | ⟨creating, active, changed⟩
  · rw [same]
    refine ⟨underway.listed, underway.stale, ?_, ?_⟩
    · intro creating
      exact (left _).mpr ⟨underway.marked creating, inactive creating⟩
    · intro creating again
      exact underway.lifted creating ((left _).mp again).1
  · rw [changed]
    refine ⟨fun _ => underway.listed (by simp [Call.flying, creating]), ?_, nofun, ?_⟩
    · intro _ _ row member named
      exact underway.stale _ creating row member named
    · intro _ again
      exact ((left _).mp again).2 active

theorem base_sweep (base : Base state) : Base (evictExpiredClientsets state) := by
  refine ⟨stored_unblock (stored_filter base.stored _) _, ?_⟩
  intro id call there
  have underway := base.calls id call there
  refine ⟨underway.listed, ?_, ?_, ?_⟩
  · intro mark creating row member named
    exact underway.stale mark creating row (List.mem_filter.mp member).1 named
  · intro creating
    obtain ⟨row, member, named⟩ := List.mem_map.mp (underway.marked creating)
    refine List.mem_map.mpr ⟨row, List.mem_filter.mpr ⟨member, ?_⟩, named⟩
    have inside := Keyed.mem_of_lookup (underway.listed (by simp [Call.flying, creating]))
    have active : hasPrefix row.1 call.key = true := by
      rw [named]
      exact hasPrefix_key _ _
    simp only [hasClientsetActivityForPrefix, Bool.or_eq_true, List.any_eq_true]
    exact Or.inl (Or.inr ⟨_, inside, active⟩)
  · intro creating again
    exact underway.lifted creating ((List.filter_sublist.map Prod.fst).subset again)

theorem base_tick (base : Base state) : Base { state with now := state.now + 1 } := by
  refine ⟨base.stored, ?_⟩
  intro id call there
  have underway := base.calls id call there
  refine ⟨underway.listed, ?_, underway.marked, underway.lifted⟩
  intro mark creating row member named
  have old := underway.stale mark creating row member named
  simp only [CachedClientSet.expired, gt_iff_lt, decide_eq_true_eq] at old ⊢
  omega

theorem base_step {event : Event} (base : Base state) (taken : step state event = some next) : Base next := by
  cases event with
  | getClientSet contextKey clusterID token =>
    cases taken
    exact base_getClientSet base contextKey clusterID token
  | recheck id =>
    delta step at taken
    dsimp only at taken
    split at taken
    next =>
      cases taken
      exact base_recheck base id _
    next => cases taken
  | create id err =>
    delta step at taken
    dsimp only at taken
    split at taken
    next there =>
      cases taken
      exact base_create base there rfl err
    next => cases taken
  | finish id =>
    delta step at taken
    dsimp only at taken
    split at taken
    next there =>
      cases taken
      exact base_finish base there rfl
    next => cases taken
  | wake id =>
    delta step at taken
    dsimp only at taken
    split at taken
    next =>
      split at taken
      next =>
        cases taken
        exact base_setCall base (underway_idle rfl)
      next => cases taken
    next => cases taken
  | evict clientsetCachePrefix =>
    cases taken
    exact base_evict base clientsetCachePrefix
  | clearBlocked activeContexts =>
    cases taken
    exact base_clearBlocked base activeContexts
  | sweep =>
    cases taken
    exact base_sweep base
  | tick =>
    cases taken
    exact base_tick base

/-! What holds in any state, and what a step decides. -/

theorem sound_iff (base : Base state) : Sound state ↔ Each state.calls fun _ call => call.Discarded := by
  constructor
  · exact fun sound => sound.discarded
  · intro discarded
    refine ⟨?_, ?_, discarded⟩
    · intro contextKey blocked token
      rw [Keyed.lookup_none]
      intro row member named
      apply base.stored.unblocked row.1 (List.mem_map_of_mem member)
      rw [named, prefix_of_key]
      exact blocked
    · intro first second left right there found flies flies' same
      have mine := (base.calls first left there).listed flies
      have yours := (base.calls second right found).listed flies'
      rw [same, yours] at mine
      exact (Option.some.inj mine).symm

section
variable {calls : List Call} {id : Nat} {call : Call}

theorem discarded_set (discarded : Each calls fun _ call => call.Discarded) (new : call.Discarded) :
    Each (calls.set id call) fun _ call => call.Discarded :=
  each_set (fun index current _ there => discarded index current there) new

theorem discarded_map {f : Call → Call} (discarded : Each calls fun _ call => call.Discarded)
    (kept : ∀ call : Call, call.Discarded → (f call).Discarded) : Each (calls.map f) fun _ call => call.Discarded :=
  each_map f fun index current there => kept current (discarded index current there)

end

theorem getClientSet_calls (contextKey clusterID : String) (token : Token) (state : State) :
    ∃ call, call.flying = false ∧ (getClientSet contextKey clusterID token state).calls = state.calls ++ [call] := by
  unfold getClientSet
  split
  next => exact ⟨_, rfl, rfl⟩
  next =>
    split
    next => exact ⟨_, rfl, rfl⟩
    next =>
      unfold getCachedClientSet
      cases Keyed.lookup (cacheKey contextKey token) state.clientsetCache with
      | none => exact ⟨_, rfl, rfl⟩
      | some entry => by_cases old : entry.expired state.now = true <;> simp only [old] <;> exact ⟨_, rfl, rfl⟩

theorem discarded_create (base : Base state) (discarded : Each state.calls fun _ call => call.Discarded) {id : Nat}
    {call : Call} {mark : Mark} (there : state.calls[id]? = some call) (creating : call.phase = .creating mark)
    (err : Option String) : (err = none → mark ≠ .lifted) ↔
      Each (createAndCacheClientSet id call mark err state).calls fun _ call => call.Discarded := by
  have underway := base.calls id call there
  rcases create_cases base there creating err with ⟨result, held, made⟩ | ⟨works, free, made⟩
  · rw [made]
    refine iff_of_true ?_ (discarded_set discarded nofun)
    rintro rfl rfl
    rcases held with failed | blocked
    · cases failed
    · exact underway.lifted creating blocked
  · rw [made]
    have inside : id < state.calls.length := (List.getElem?_eq_some_iff.mp there).1
    constructor
    · intro kept
      apply discarded_set discarded
      intro _ _ same
      cases same
      cases mark with
      | clear => rfl
      | blocked => exact absurd (underway.marked creating) free
      | lifted => exact absurd rfl (kept works)
    · intro discarded' _ lifted
      subst lifted
      have cached : ({ call with phase := .created (.ok id) .lifted true } : Call).Discarded :=
        discarded' id _ (List.getElem?_set_self inside)
      cases cached _ _ rfl

theorem regular_iff {event : Event} (base : Base state) (sound : Sound state) (taken : step state event = some next) :
    Regular state event ↔ Sound next := by
  rw [sound_iff (base_step base taken)]
  have discarded := sound.discarded
  cases event with
  | getClientSet contextKey clusterID token =>
    refine iff_of_true trivial ?_
    cases taken
    obtain ⟨call, idle, added⟩ := getClientSet_calls contextKey clusterID token state
    rw [added]
    apply each_append discarded
    intro _ result mark created
    simp [Call.flying, created] at idle
  | recheck id =>
    refine iff_of_true trivial ?_
    delta step at taken
    dsimp only at taken
    split at taken
    next =>
      cases taken
      unfold recheck
      split
      next => exact discarded_set discarded nofun
      next =>
        split
        next => exact discarded_set discarded nofun
        next => exact discarded_set discarded nofun
    next => cases taken
  | create id err =>
    delta step at taken
    dsimp only at taken
    split at taken
    next contextKey clusterID token mark there =>
      cases taken
      rw [← discarded_create base discarded there rfl err]
      cases err <;> simp [Regular, there]
    next => cases taken
  | finish id =>
    refine iff_of_true trivial ?_
    delta step at taken
    dsimp only at taken
    split at taken
    next there =>
      cases taken
      exact discarded_set discarded nofun
    next => cases taken
  | wake id =>
    refine iff_of_true trivial ?_
    delta step at taken
    dsimp only at taken
    split at taken
    next =>
      split at taken
      next =>
        cases taken
        exact discarded_set discarded nofun
      next => cases taken
    next => cases taken
  | evict clientsetCachePrefix =>
    refine iff_of_true trivial ?_
    cases taken
    unfold evictClientsetsForCluster
    split
    next => exact discarded
    next =>
      apply discarded_map discarded
      intro call kept
      rcases block_cases clientsetCachePrefix call with ⟨same, _⟩ | ⟨_, _, changed⟩
      · rw [same]
        exact kept
      · rw [changed]
        nofun
  | clearBlocked activeContexts =>
    refine iff_of_true trivial ?_
    cases taken
    apply discarded_map discarded
    intro call kept
    rcases unblock_cases activeContexts call with ⟨same, _⟩ | ⟨_, _, changed⟩
    · rw [same]
      exact kept
    · rw [changed]
      nofun
  | sweep =>
    cases taken
    exact iff_of_true trivial discarded
  | tick =>
    cases taken
    exact iff_of_true trivial discarded

theorem base_initial : Base initial := ⟨⟨List.nodup_nil, nofun, nofun⟩, nofun⟩

theorem sound_initial : Sound initial := (sound_iff base_initial).mpr nofun

/-- In every run the cache is sound throughout exactly when no creation comes back
after the block that it was to see was lifted. -/
theorem sound_iff_regular {events : List Event} {last : State} (ran : run step initial events = some last) :
    (∀ before after state, events = before ++ after → run step initial before = some state → Sound state) ↔
      Meets step Regular initial events := by
  apply throughout_iff Base Sound ?_ ?_ base_initial sound_initial ran
  · exact fun _ _ _ base _ taken => base_step base taken
  · exact fun _ _ _ base sound taken => regular_iff base sound taken

private def token : Token := ⟨"t", by decide⟩

/-- A creation is in flight when its context is removed. -/
private def removedContext : List Event := [.getClientSet "c" "k+c" token, .recheck 0, .evict "c"]

/-- The context comes back before the creation. -/
theorem revived_cached : ∃ last, run step initial (removedContext ++ [.clearBlocked ["c"], .create 0 none]) = some last ∧
    Keyed.lookup (cacheKey "c" token) last.clientsetCache = some ⟨0, 0⟩ ∧ ¬Sound last := by
  refine ⟨_, rfl, rfl, ?_⟩
  intro sound
  have kept := sound.discarded 0 _ rfl _ _ rfl
  cases kept

theorem removed_not_cached : ∃ last, run step initial (removedContext ++ [.create 0 none, .finish 0]) = some last ∧
    Sound last := by
  have ran : ∃ last, run step initial (removedContext ++ [Event.create 0 none, Event.finish 0]) = some last := ⟨_, rfl⟩
  obtain ⟨last, ran⟩ := ran
  refine ⟨last, ran, (sound_iff_regular ran).mpr ?_ _ [] last (by simp) ran⟩
  refine ⟨trivial, trivial, trivial, ?_, trivial, trivial⟩
  intro call there lifted
  cases there
  cases lifted

end K8Sense.Cache.Clientsets
