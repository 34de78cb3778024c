import K8Sense.Library.Transition
import K8Sense.Cache.Response

/-! The cache middleware under concurrent requests. A request is answered from
the store in one step. One that is forwarded goes through the API server in
further steps, so any number of requests interleave between them. -/

namespace K8Sense.Cache
open Text Transition

inductive Method where
  | get
  | head
  | post
  | put
  | patch
  | delete
  | options
  deriving DecidableEq

/-- A request to `/clusters/{clusterName}/{api:.*}`, with the key of the context
that it resolves to and its `Connection` header. -/
structure Request where
  method : Method
  connection : String
  context : String
  clusterName : String
  api : String
  rawQuery : String
  routed : clusterName ≠ "" ∧ '/' ∉ clusterName.toList
  deriving DecidableEq

def Request.path (request : Request) : String :=
  "/clusters/" ++ request.clusterName ++ "/" ++ request.api

/-- How the access review of a request ends. -/
inductive Review where
  | failed
  | denied
  | allowed
  deriving DecidableEq

/-- A cached response together with its origin: the request that was answered
with it, and the moment at which the API server produced it. -/
structure Entry where
  data : CachedResponseData
  source : Request
  producedAt : Nat

/-- Where a request stands after its first step. -/
inductive Phase where
  /-- The keys are purged and the mutation is on its way. -/
  | mutating
  /-- The mutation took effect and its answer is on the way back. -/
  | effective
  /-- A GET is on its way, for a mutation the one that follows its answer. -/
  | forwarding
  | fetched (response : ResponseCapture) (producedAt : Nat)
  | finished

structure Call where
  request : Request
  key : String
  phase : Phase
  committedAt : Option Nat
  answeredAt : Option Nat

structure Hit where
  request : Request
  entry : Entry
  servedAt : Nat

/-- `k8sResponseCache`, the forwarded requests and the answers given from the
cache. The clock counts steps. -/
structure State where
  store : Store Entry
  calls : List Call
  hits : List Hit
  clock : Nat

def State.initial : State := ⟨Store.empty, [], [], 0⟩

/-- The first step of a request. -/
inductive Answer where
  | forwarded
  | badKey
  | refused
  | served (entry : Entry)
  | missed (key : String)
  | purged (key : String)

def skipWebSocket (request : Request) : Bool :=
  contains (request.connection.toList.map Char.toLower) "upgrade".toList

def isAllowed (request : Request) (review : Review) : Except String Bool :=
  match getResourceAttributes request.api with
  | .error err => .error err
  | .ok _ =>
    match review with
    | .failed => .error "access review failed"
    | .denied => .ok false
    | .allowed => .ok true

def handleCacheAuthorization (store : Store Entry) (request : Request) (review : Review) (key : String) (now : Nat) : Answer :=
  match isAllowed request review with
  | .error _ =>
    -- `ServeFromCacheOrForwardToK8s` is told that the user is not allowed.
    match loadFromCache store false key now with
    | some entry => .served entry
    | none => .missed key
  | .ok allowed =>
    if !allowed && isAuthBypassURL request.path then .refused
    else match loadFromCache store allowed key now with
      | some entry => .served entry
      | none => .missed key

def cacheMiddlewareHandler (store : Store Entry) (request : Request) (review : Review) (now : Nat) : Store Entry × Answer :=
  if skipWebSocket request then (store, .forwarded)
  else if !isKubernetesAPIPath request.path || isSelfSubjectReviewAPIPath request.path then (store, .forwarded)
  else if request.method ≠ .get ∧ isAuthBypassURL request.path then
    match generateKey request.path request.context with
    | .error _ => (store, .forwarded)
    | .ok key => (deleteKeys key store, .purged key)
  else
    match generateKey request.path request.context with
    | .error _ => (store, .badKey)
    | .ok key => (store, handleCacheAuthorization store request review key now)

inductive Event where
  | arrive (request : Request) (review : Review) (now : Nat)
  /-- The mutation takes effect on the cluster. -/
  | commit (id : Nat)
  /-- The mutation has been answered, successfully if it took effect. -/
  | answer (id : Nat)
  /-- The API server produces the response to a forwarded GET. -/
  | produce (id : Nat) (response : ResponseCapture)
  | fill (id : Nat) (now : Nat)
  /-- The watcher or the clean-up removes an entry. -/
  | evict (key : String)

def arrive (request : Request) (review : Review) (now : Nat) (state : State) : State :=
  let (store, answer) := cacheMiddlewareHandler state.store request review now
  match answer with
  | .forwarded | .badKey | .refused =>
    { state with store, calls := state.calls ++ [⟨request, "", .finished, none, none⟩] }
  | .served entry =>
    { state with
      store
      calls := state.calls ++ [⟨request, "", .finished, none, none⟩]
      hits := state.hits ++ [⟨request, entry, state.clock⟩] }
  | .missed key => { state with store, calls := state.calls ++ [⟨request, key, .forwarding, none, none⟩] }
  | .purged key => { state with store, calls := state.calls ++ [⟨request, key, .mutating, none, none⟩] }

/-- The fresh request that follows a mutation asks for the same URL. -/
def Request.fresh (request : Request) : Request := { request with method := .get }

def State.update (id : Nat) (call : Call) (state : State) : State :=
  { state with calls := state.calls.set id call }

def commit (call : Call) (clock : Nat) : Option Call :=
  match call.phase with
  | .mutating => some { call with phase := .effective, committedAt := some clock }
  | _ => none

def answer (call : Call) (clock : Nat) : Option Call :=
  match call.phase with
  | .mutating | .effective => some { call with phase := .forwarding, answeredAt := some clock }
  | _ => none

def produce (response : ResponseCapture) (call : Call) (clock : Nat) : Option Call :=
  match call.phase with
  | .forwarding => some { call with phase := .fetched response clock }
  | _ => none

/-- The forwarding handler has by now reduced the URL path to the API path. A
response that cannot be decoded is only logged. -/
def fill (codec : Codec) (call : Call) (now : Nat) (store : Store Entry) : Option (Call × Store Entry) :=
  match call.phase with
  | .fetched response producedAt =>
    let entry := fun data => ⟨data, call.request.fresh, producedAt⟩
    match storeK8sResponseInCache codec entry call.request.api response call.key now store with
    | .ok filled => some ({ call with phase := .finished }, filled)
    | .error _ => some ({ call with phase := .finished }, store)
  | _ => none

def act (codec : Codec) (state : State) : Event → Option State
  | .arrive request review now => some (arrive request review now state)
  | .commit id => do
    let call ← state.calls[id]?
    return state.update id (← commit call state.clock)
  | .answer id => do
    let call ← state.calls[id]?
    return state.update id (← answer call state.clock)
  | .produce id response => do
    let call ← state.calls[id]?
    return state.update id (← produce response call state.clock)
  | .fill id now => do
    let call ← state.calls[id]?
    let (filled, store) ← fill codec call now state.store
    return { state.update id filled with store }
  | .evict key => some { state with store := state.store.delete key }

def step (codec : Codec) (state : State) (event : Event) : Option State :=
  (act codec state event).map fun next => { next with clock := state.clock + 1 }

/-- The middleware looks at the cache for this request. -/
def Request.reaches (request : Request) : Bool :=
  !skipWebSocket request && isKubernetesAPIPath request.path && !isSelfSubjectReviewAPIPath request.path

/-- A response to this request can be stored. -/
def Request.storable (request : Request) : Bool :=
  request.reaches && !isRulesReview request.api

/-- This request can be answered from the cache. -/
def Request.servable (request : Request) : Bool :=
  request.method = .get && request.reaches && (getResourceAttributes request.api).toBool

theorem isAllowed_attributes {request : Request} {review : Review} {allowed : Bool}
    (reviewed : isAllowed request review = .ok allowed) : (getResourceAttributes request.api).toBool = true := by
  unfold isAllowed at reviewed
  cases attributes : getResourceAttributes request.api with
  | error err => simp [attributes] at reviewed
  | ok resource => rfl

theorem authorization_cases (store : Store Entry) (request : Request) (review : Review) (key : String) (now : Nat) :
    handleCacheAuthorization store request review key now = .refused ∨
      handleCacheAuthorization store request review key now = .missed key ∨
      ∃ entry, handleCacheAuthorization store request review key now = .served entry ∧
        (getResourceAttributes request.api).toBool = true ∧ store.Holds key entry := by
  unfold handleCacheAuthorization
  split
  next err failed =>
    split
    next entry served => exact absurd (holds_of_load served).1 (by decide)
    next => exact Or.inr (Or.inl rfl)
  next allowed reviewed =>
    split
    next => exact Or.inl rfl
    next =>
      split
      next entry served => exact Or.inr (Or.inr ⟨entry, rfl, isAllowed_attributes reviewed, (holds_of_load served).2⟩)
      next => exact Or.inr (Or.inl rfl)

theorem Request.reaches_of_storable {request : Request} (storable : request.storable = true) :
    request.reaches = true := by
  simp only [Request.storable, Bool.and_eq_true] at storable
  exact storable.1

/-- Everything the first step of a request can do. -/
inductive Handled (store : Store Entry) (request : Request) : Store Entry → Answer → Prop where
  | forwarded : Handled store request store .forwarded
  | refused : Handled store request store .refused
  | served {key : String} {entry : Entry} (servable : request.servable = true)
      (keyed : generateKey request.path request.context = .ok key) (held : store.Holds key entry) :
      Handled store request store (.served entry)
  | missed {key : String} (reaches : request.reaches = true) (method : request.method = .get)
      (keyed : generateKey request.path request.context = .ok key) : Handled store request store (.missed key)
  | purged {key : String} (reaches : request.reaches = true) (method : request.method ≠ .get)
      (keyed : generateKey request.path request.context = .ok key) :
      Handled store request (deleteKeys key store) (.purged key)

theorem Request.reaches_iff {request : Request} :
    request.reaches = true ↔ skipWebSocket request = false ∧ isKubernetesAPIPath request.path = true ∧
      isSelfSubjectReviewAPIPath request.path = false := by
  simp [Request.reaches, and_assoc]

/-- A request that the middleware looks at purges its keys if it is a mutation,
and is reviewed if it is a GET. -/
theorem handler_of_reaches {request : Request} (reaches : request.reaches = true) {key : String}
    (keyed : generateKey request.path request.context = .ok key) (store : Store Entry) (review : Review) (now : Nat) :
    cacheMiddlewareHandler store request review now =
      if request.method = .get then (store, handleCacheAuthorization store request review key now)
      else (deleteKeys key store, .purged key) := by
  obtain ⟨plain, api, review'⟩ := Request.reaches_iff.mp reaches
  have bypass := isAuthBypassURL_of_api api review'
  by_cases method : request.method = .get <;>
    simp [cacheMiddlewareHandler, plain, api, review', bypass, method, keyed]

theorem handler_of_not_reaches {request : Request} (unreached : request.reaches = false) (store : Store Entry)
    (review : Review) (now : Nat) : cacheMiddlewareHandler store request review now = (store, .forwarded) := by
  unfold cacheMiddlewareHandler
  split
  next => rfl
  next plain =>
    split
    next => rfl
    next inside =>
      have reaches : request.reaches = true := by
        simp only [Request.reaches, plain]
        simpa using inside
      exact absurd reaches (by simp [unreached])

theorem handled (store : Store Entry) (request : Request) (review : Review) (now : Nat) :
    Handled store request (cacheMiddlewareHandler store request review now).1
      (cacheMiddlewareHandler store request review now).2 := by
  by_cases reaches : request.reaches = true
  · obtain ⟨key, keyed⟩ := generateKey_of_api (Request.reaches_iff.mp reaches).2.1 request.context
    rw [handler_of_reaches reaches keyed]
    split
    next method =>
      rcases authorization_cases store request review key now with refused | missed | ⟨entry, served, attributes, held⟩
      · simpa only [refused] using Handled.refused
      · simpa only [missed] using Handled.missed reaches method keyed
      · have servable : request.servable = true := by
          simp [Request.servable, method, reaches, attributes]
        simpa only [served] using Handled.served servable keyed held
    next method => exact Handled.purged reaches method keyed
  · rw [handler_of_not_reaches (Bool.eq_false_iff.mpr reaches)]
    exact Handled.forwarded

/-- Everything one step can do to the store, the calls and the hits. -/
inductive Moves (codec : Codec) (state : State) : Event → State → Prop where
  | passed {request : Request} {review : Review} {now : Nat} :
      Moves codec state (.arrive request review now)
        { state with calls := state.calls ++ [⟨request, "", .finished, none, none⟩], clock := state.clock + 1 }
  | served {request : Request} {review : Review} {now : Nat} {key : String} {entry : Entry}
      (servable : request.servable = true) (keyed : generateKey request.path request.context = .ok key)
      (held : state.store.Holds key entry) :
      Moves codec state (.arrive request review now)
        { state with
          calls := state.calls ++ [⟨request, "", .finished, none, none⟩]
          hits := state.hits ++ [⟨request, entry, state.clock⟩]
          clock := state.clock + 1 }
  | missed {request : Request} {review : Review} {now : Nat} {key : String} (reaches : request.reaches = true)
      (method : request.method = .get) (keyed : generateKey request.path request.context = .ok key) :
      Moves codec state (.arrive request review now)
        { state with
          calls := state.calls ++ [⟨request, key, .forwarding, none, none⟩]
          clock := state.clock + 1 }
  | purged {request : Request} {review : Review} {now : Nat} {key : String} (reaches : request.reaches = true)
      (method : request.method ≠ .get) (keyed : generateKey request.path request.context = .ok key) :
      Moves codec state (.arrive request review now)
        { state with
          store := deleteKeys key state.store
          calls := state.calls ++ [⟨request, key, .mutating, none, none⟩]
          clock := state.clock + 1 }
  | committed {id : Nat} {call : Call} (found : state.calls[id]? = some call) (phase : call.phase = .mutating) :
      Moves codec state (.commit id)
        { state with
          calls := state.calls.set id { call with phase := .effective, committedAt := some state.clock }
          clock := state.clock + 1 }
  | answered {id : Nat} {call : Call} (found : state.calls[id]? = some call)
      (phase : call.phase = .mutating ∨ call.phase = .effective) :
      Moves codec state (.answer id)
        { state with
          calls := state.calls.set id { call with phase := .forwarding, answeredAt := some state.clock }
          clock := state.clock + 1 }
  | produced {id : Nat} {response : ResponseCapture} {call : Call} (found : state.calls[id]? = some call)
      (phase : call.phase = .forwarding) :
      Moves codec state (.produce id response)
        { state with
          calls := state.calls.set id { call with phase := .fetched response state.clock }
          clock := state.clock + 1 }
  | dropped {id now producedAt : Nat} {response : ResponseCapture} {call : Call}
      (found : state.calls[id]? = some call) (phase : call.phase = .fetched response producedAt) :
      Moves codec state (.fill id now)
        { state with calls := state.calls.set id { call with phase := .finished }, clock := state.clock + 1 }
  | stored {id now producedAt : Nat} {response : ResponseCapture} {call : Call} {data : CachedResponseData}
      (found : state.calls[id]? = some call) (phase : call.phase = .fetched response producedAt)
      (kept : isKept codec call.request.api response = true) :
      Moves codec state (.fill id now)
        { state with
          store := state.store.setWithTTL call.key ⟨data, call.request.fresh, producedAt⟩ cacheTTL now
          calls := state.calls.set id { call with phase := .finished }
          clock := state.clock + 1 }
  | evicted {key : String} :
      Moves codec state (.evict key) { state with store := state.store.delete key, clock := state.clock + 1 }

private theorem moves_arrive (codec : Codec) (state : State) (request : Request) (review : Review) (now : Nat) :
    Moves codec state (.arrive request review now)
      { arrive request review now state with clock := state.clock + 1 } := by
  have first := handled state.store request review now
  simp only [arrive]
  generalize cacheMiddlewareHandler state.store request review now = result at first
  obtain ⟨store, answer⟩ := result
  cases first with
  | forwarded => exact Moves.passed
  | refused => exact Moves.passed
  | served servable keyed held => exact Moves.served servable keyed held
  | missed reaches method keyed => exact Moves.missed reaches method keyed
  | purged reaches method keyed => exact Moves.purged reaches method keyed

private theorem moves_fill {codec : Codec} {state next : State} {id now : Nat}
    (taken : step codec state (.fill id now) = some next) : Moves codec state (.fill id now) next := by
  simp only [step, act, Option.map_eq_some_iff, Option.bind_eq_bind, Option.bind_eq_some_iff, Option.pure_def,
    Option.some.injEq] at taken
  obtain ⟨_, ⟨call, found, ⟨filled, store⟩, filling, rfl⟩, rfl⟩ := taken
  cases phase : call.phase with
  | fetched response producedAt =>
    simp only [fill, phase] at filling
    split at filling
    next filledStore storing =>
      cases filling
      rcases store_cases storing with rfl | ⟨kept, data, rfl⟩
      · exact Moves.dropped found phase
      · exact Moves.stored found phase kept
    next =>
      cases filling
      exact Moves.dropped found phase
  | _ => simp [fill, phase] at filling

theorem step_moves {codec : Codec} {state next : State} {event : Event} (taken : step codec state event = some next) :
    Moves codec state event next := by
  cases event with
  | arrive request review now =>
    cases taken
    exact moves_arrive codec state request review now
  | fill id now => exact moves_fill taken
  | evict key =>
    cases taken
    exact Moves.evicted
  | commit id =>
    simp only [step, act, commit, Option.map_eq_some_iff, Option.bind_eq_bind, Option.bind_eq_some_iff, Option.pure_def,
      Option.some.injEq] at taken
    obtain ⟨_, ⟨call, found, updated, changed, rfl⟩, rfl⟩ := taken
    split at changed
    next phase => cases changed; exact Moves.committed found phase
    next => cases changed
  | answer id =>
    simp only [step, act, answer, Option.map_eq_some_iff, Option.bind_eq_bind, Option.bind_eq_some_iff, Option.pure_def,
      Option.some.injEq] at taken
    obtain ⟨_, ⟨call, found, updated, changed, rfl⟩, rfl⟩ := taken
    split at changed
    next phase => cases changed; exact Moves.answered found (Or.inl phase)
    next phase => cases changed; exact Moves.answered found (Or.inr phase)
    next => cases changed
  | produce id response =>
    simp only [step, act, produce, Option.map_eq_some_iff, Option.bind_eq_bind, Option.bind_eq_some_iff, Option.pure_def,
      Option.some.injEq] at taken
    obtain ⟨_, ⟨call, found, updated, changed, rfl⟩, rfl⟩ := taken
    split at changed
    next phase => cases changed; exact Moves.produced found phase
    next => cases changed

section
variable {codec : Codec} {request : Request} {key : String} {store : Store Entry} {calls : List Call} {hits : List Hit}
  {now clock : Nat}

theorem step_missed (reaches : request.reaches = true) (method : request.method = .get)
    (keyed : generateKey request.path request.context = .ok key) (absent : store.get key now = none) :
    step codec ⟨store, calls, hits, clock⟩ (.arrive request .allowed now) =
      some ⟨store, calls ++ [⟨request, key, .forwarding, none, none⟩], hits, clock + 1⟩ := by
  have missed : handleCacheAuthorization store request .allowed key now = .missed key := by
    unfold handleCacheAuthorization isAllowed
    cases getResourceAttributes request.api <;> simp [loadFromCache, absent]
  simp [step, act, arrive, handler_of_reaches reaches keyed, method, missed]

theorem step_purged (reaches : request.reaches = true) (method : request.method ≠ .get)
    (keyed : generateKey request.path request.context = .ok key) (review : Review) :
    step codec ⟨store, calls, hits, clock⟩ (.arrive request review now) =
      some ⟨deleteKeys key store, calls ++ [⟨request, key, .mutating, none, none⟩], hits, clock + 1⟩ := by
  simp [step, act, arrive, handler_of_reaches reaches keyed, method]

theorem step_committed {id : Nat} {committedAt answeredAt : Option Nat}
    (found : calls[id]? = some ⟨request, key, .mutating, committedAt, answeredAt⟩) :
    step codec ⟨store, calls, hits, clock⟩ (.commit id) =
      some ⟨store, calls.set id ⟨request, key, .effective, some clock, answeredAt⟩, hits, clock + 1⟩ := by
  simp [step, act, found, commit, State.update]

theorem step_answered {id : Nat} {phase : Phase} {committedAt answeredAt : Option Nat}
    (found : calls[id]? = some ⟨request, key, phase, committedAt, answeredAt⟩)
    (active : phase = .mutating ∨ phase = .effective) :
    step codec ⟨store, calls, hits, clock⟩ (.answer id) =
      some ⟨store, calls.set id ⟨request, key, .forwarding, committedAt, some clock⟩, hits, clock + 1⟩ := by
  rcases active with rfl | rfl <;> simp [step, act, found, answer, State.update]

theorem step_produced {id : Nat} {committedAt answeredAt : Option Nat}
    (found : calls[id]? = some ⟨request, key, .forwarding, committedAt, answeredAt⟩) (response : ResponseCapture) :
    step codec ⟨store, calls, hits, clock⟩ (.produce id response) =
      some ⟨store, calls.set id ⟨request, key, .fetched response clock, committedAt, answeredAt⟩, hits, clock + 1⟩ := by
  simp [step, act, found, produce, State.update]

/-- A servable request is answered with whatever is stored under its key. -/
theorem step_served (servable : request.servable = true) (keyed : generateKey request.path request.context = .ok key)
    {entry : Entry} (stored : store.get key now = some entry) :
    step codec ⟨store, calls, hits, clock⟩ (.arrive request .allowed now) =
      some ⟨store, calls ++ [⟨request, "", .finished, none, none⟩], hits ++ [⟨request, entry, clock⟩], clock + 1⟩ := by
  simp only [Request.servable, Bool.and_eq_true, decide_eq_true_eq] at servable
  obtain ⟨⟨method, reaches⟩, attributes⟩ := servable
  have allowed : isAllowed request .allowed = .ok true := by
    unfold isAllowed
    cases found : getResourceAttributes request.api with
    | error err => simp [found, Except.toBool] at attributes
    | ok resource => rfl
  simp [step, act, arrive, handler_of_reaches reaches keyed, method, handleCacheAuthorization, allowed, loadFromCache,
    stored]

/-- An empty body with status 200 is stored for every storable request. -/
def okResponse : ResponseCapture := ⟨200, [], []⟩

theorem step_stored (storable : request.storable = true) {id producedAt : Nat} {committedAt answeredAt : Option Nat}
    (found : calls[id]? = some ⟨request, key, .fetched okResponse producedAt, committedAt, answeredAt⟩) :
    step codec ⟨store, calls, hits, clock⟩ (.fill id now) =
      some ⟨store.setWithTTL key ⟨codec.json ⟨200, [], []⟩, request.fresh, producedAt⟩ cacheTTL now,
        calls.set id ⟨request, key, .finished, committedAt, answeredAt⟩, hits, clock + 1⟩ := by
  have unreviewed : isRulesReview request.api = false := by
    simp only [Request.storable, Bool.and_eq_true, Bool.not_eq_true'] at storable
    exact storable.2
  have clean : contains ([] : List UInt8) failureText = false := rfl
  have plain : getResponseBody codec [] (Header.get [] "Content-Encoding") = .ok [] := by
    simp [getResponseBody, Header.get, show ¬"" = gzipEncoding from by decide]
  simp [step, act, found, fill, okResponse, storeK8sResponseInCache, plain, filterHeaderForCache, unreviewed, clean,
    State.update]

end

end K8Sense.Cache
