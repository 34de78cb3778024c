import K8Sense.Cache.Middleware

/-! Soundness of the response cache: which sets of requests can be sent, in any
order and number, without one of them being answered with the response to
another. -/

namespace K8Sense.Cache
open Text Transition

/-- The answer came from a response to the same path and query of the same context. -/
def Hit.Sound (hit : Hit) : Prop :=
  hit.entry.source.context = hit.request.context ∧ hit.entry.source.path = hit.request.path ∧
    hit.entry.source.rawQuery = hit.request.rawQuery

/-- Requests of the run come from the set. -/
def Sent (requests : Request → Prop) (events : List Event) : Prop :=
  ∀ request review now, .arrive request review now ∈ events → requests request

variable {codec : Codec} {requests : Request → Prop}

/-- The entry is the response to a storable request with this key. -/
def Origin (requests : Request → Prop) (key : String) (source : Request) : Prop :=
  ∃ request, requests request ∧ request.storable = true ∧ source = request.fresh ∧
    generateKey request.path request.context = .ok key

def Pending (requests : Request → Prop) (call : Call) : Prop :=
  requests call.request ∧ call.request.reaches = true ∧ generateKey call.request.path call.request.context = .ok call.key

/-- Every entry and every answer goes back to a request of the run. -/
structure Traced (requests : Request → Prop) (state : State) : Prop where
  store : ∀ key entry, state.store.Holds key entry → Origin requests key entry.source
  calls : ∀ call ∈ state.calls, call.phase = .finished ∨ Pending requests call
  hits : ∀ hit ∈ state.hits, requests hit.request ∧ hit.request.servable = true ∧
    ∃ key, generateKey hit.request.path hit.request.context = .ok key ∧ Origin requests key hit.entry.source

theorem traced_initial : Traced requests State.initial := by
  constructor <;> simp [State.initial]

private theorem calls_append {state : State} (traced : Traced requests state) {call : Call}
    (fresh : call.phase = .finished ∨ Pending requests call) :
    ∀ other ∈ state.calls ++ [call], other.phase = .finished ∨ Pending requests other := by
  intro other member
  rcases List.mem_append.mp member with old | new
  · exact traced.calls other old
  · obtain rfl := List.mem_singleton.mp new
    exact fresh

private theorem calls_set {state : State} (traced : Traced requests state) {id : Nat} {call updated : Call}
    (found : state.calls[id]? = some call) (active : call.phase ≠ .finished) (request : updated.request = call.request)
    (key : updated.key = call.key) :
    ∀ other ∈ state.calls.set id updated, other.phase = .finished ∨ Pending requests other := by
  intro other member
  rcases List.mem_or_eq_of_mem_set member with old | rfl
  · exact traced.calls other old
  · apply Or.inr
    have pending := (traced.calls call (List.mem_of_getElem? found)).resolve_left active
    simpa only [Pending, request, key] using pending

theorem traced_step {state next : State} {event : Event} (traced : Traced requests state)
    (sent : ∀ request review now, event = .arrive request review now → requests request)
    (taken : step codec state event = some next) : Traced requests next := by
  cases step_moves taken with
  | passed => exact ⟨traced.store, calls_append traced (Or.inl rfl), traced.hits⟩
  | @served request _ _ key entry servable keyed held =>
    refine ⟨traced.store, calls_append traced (Or.inl rfl), ?_⟩
    intro hit member
    rcases List.mem_append.mp member with old | new
    · exact traced.hits hit old
    · obtain rfl := List.mem_singleton.mp new
      exact ⟨sent _ _ _ rfl, servable, key, keyed, traced.store key entry held⟩
  | missed reaches method keyed =>
    exact ⟨traced.store, calls_append traced (Or.inr ⟨sent _ _ _ rfl, reaches, keyed⟩), traced.hits⟩
  | purged reaches method keyed =>
    refine ⟨?_, calls_append traced (Or.inr ⟨sent _ _ _ rfl, reaches, keyed⟩), traced.hits⟩
    intro key entry held
    exact traced.store key entry (holds_deleteKeys.mp held).2
  | committed found phase => exact ⟨traced.store, calls_set traced found (by simp [phase]) rfl rfl, traced.hits⟩
  | answered found phase =>
    refine ⟨traced.store, calls_set traced found ?_ rfl rfl, traced.hits⟩
    rcases phase with phase | phase <;> simp [phase]
  | produced found phase => exact ⟨traced.store, calls_set traced found (by simp [phase]) rfl rfl, traced.hits⟩
  | dropped found phase => exact ⟨traced.store, calls_set traced found (by simp [phase]) rfl rfl, traced.hits⟩
  | @stored _ _ _ _ call data found phase kept =>
    refine ⟨?_, calls_set traced found (by simp [phase]) rfl rfl, traced.hits⟩
    intro key entry held
    rcases Store.holds_setWithTTL.mp held with ⟨rfl, rfl⟩ | ⟨_, held⟩
    · have pending := (traced.calls call (List.mem_of_getElem? found)).resolve_left (by simp [phase])
      have storable : call.request.storable = true := by
        simp [Request.storable, pending.2.1, isKept_unreviewed kept]
      exact ⟨call.request, pending.1, storable, rfl, pending.2.2⟩
    · exact traced.store key entry held
  | evicted =>
    refine ⟨?_, traced.calls, traced.hits⟩
    intro key entry held
    exact traced.store key entry (Store.holds_delete.mp held).2

theorem run_traced {events : List Event} {last : State} (sent : Sent requests events)
    (ran : run (step codec) State.initial events = some last) : Traced requests last := by
  refine run_induction (motive := fun events last => Sent requests events → Traced requests last) ?_ ?_ ran sent
  · exact fun _ => traced_initial
  · intro events state event after _ ih taken sent
    apply traced_step (ih fun request review now member => sent request review now (by simp [member])) _ taken
    rintro request review now rfl
    exact sent request review now (by simp)

/-- The run of one request alone, up to the storing of its response. -/
private def alone (request : Request) : List Event :=
  if request.method = .get then [.produce 0 okResponse, .fill 0 0]
  else [.answer 0, .produce 0 okResponse, .fill 0 0]

private theorem alone_quiet (stored : Request) :
    ∀ event ∈ alone stored, ∀ request review now, event ≠ .arrive request review now := by
  unfold alone
  split <;> simp

private theorem run_stores (codec : Codec) {request : Request} (storable : request.storable = true) {key : String}
    (keyed : generateKey request.path request.context = .ok key) :
    ∃ last producedAt, run (step codec) State.initial (.arrive request .allowed 0 :: alone request) = some last ∧
      last.store = Store.empty.setWithTTL key ⟨codec.json ⟨200, [], []⟩, request.fresh, producedAt⟩ cacheTTL 0 := by
  have reaches := Request.reaches_of_storable storable
  unfold alone State.initial
  by_cases method : request.method = .get
  · rw [if_pos method, run_step (step_missed reaches method keyed (Store.get_empty key 0)),
      run_step (step_produced rfl okResponse), run_step (step_stored storable rfl)]
    exact ⟨_, 1, rfl, rfl⟩
  · rw [if_neg method, run_step (step_purged reaches method keyed .allowed), deleteKeys_empty,
      run_step (step_answered rfl (Or.inl rfl)), run_step (step_produced rfl okResponse),
      run_step (step_stored storable rfl)]
    exact ⟨_, 2, rfl, rfl⟩

/-- Of two requests of one context that agree on group, namespace and last
segment, the second is answered with the response to the first. -/
theorem served_from_other (codec : Codec) {stored served : Request} (storable : stored.storable = true)
    (servable : served.servable = true) (context : stored.context = served.context)
    (parts : keyParts stored.path = keyParts served.path) :
    ∃ events last entry, run (step codec) State.initial events = some last ∧
      Sent (fun request => request = stored ∨ request = served) events ∧
      ⟨served, entry, last.clock - 1⟩ ∈ last.hits ∧ entry.source = stored.fresh := by
  have reaches := Request.reaches_iff.mp (Request.reaches_of_storable storable)
  obtain ⟨key, keyed⟩ := generateKey_of_api reaches.2.1 stored.context
  have shared : generateKey served.path served.context = .ok key := (generateKey_eq_iff keyed).mpr ⟨context, parts⟩
  obtain ⟨last, producedAt, ran, store⟩ := run_stores codec storable keyed
  have present : last.store.get key 0 = some ⟨codec.json ⟨200, [], []⟩, stored.fresh, producedAt⟩ := by
    rw [store]
    exact Store.get_setWithTTL (by decide)
  have extended : run (step codec) State.initial ((.arrive stored .allowed 0 :: alone stored) ++
      [.arrive served .allowed 0]) = _ := run_snoc _ _ _
  rw [ran, Option.bind_some, step_served servable shared present] at extended
  refine ⟨_, _, ⟨codec.json ⟨200, [], []⟩, stored.fresh, producedAt⟩, extended, ?_, ?_, rfl⟩
  · intro request review now member
    simp only [List.cons_append, List.mem_cons, List.mem_append, List.not_mem_nil, or_false] at member
    rcases member with first | middle | final
    · cases first
      exact Or.inl rfl
    · exact absurd rfl (alone_quiet stored _ middle request review now)
    · cases final
      exact Or.inr rfl
  · simp

/-- In every run of requests from a set each answer given from the cache is
sound, exactly when no two requests of the set agree on context, group,
namespace and last path segment and differ in path or query. -/
theorem hits_sound_iff (codec : Codec) (requests : Request → Prop) :
    (∀ events last, Sent requests events → run (step codec) State.initial events = some last →
      ∀ hit ∈ last.hits, hit.Sound) ↔
    ∀ stored served, requests stored → requests served → stored.storable = true → served.servable = true →
      stored.context = served.context → keyParts stored.path = keyParts served.path →
        stored.path = served.path ∧ stored.rawQuery = served.rawQuery := by
  constructor
  · intro sound stored served sentStored sentServed storable servable context parts
    obtain ⟨events, last, entry, ran, sent, member, source⟩ := served_from_other codec storable servable context parts
    have within : Sent requests events := by
      intro request review now arrived
      rcases sent request review now arrived with rfl | rfl
      · exact sentStored
      · exact sentServed
    have answered := (sound events last within ran _ member).2
    rw [source] at answered
    exact answered
  · intro apart events last sent ran hit member
    obtain ⟨sentServed, servable, key, keyed, stored, sentStored, storable, source, storedKey⟩ :=
      (run_traced sent ran).hits hit member
    obtain ⟨context, parts⟩ := (generateKey_eq_iff storedKey).mp keyed
    obtain ⟨path, query⟩ := apart stored hit.request sentStored sentServed storable servable context parts
    simp only [Hit.Sound, source]
    exact ⟨context, path, query⟩

private theorem routed_c : "c" ≠ "" ∧ '/' ∉ "c".toList := by decide

/-- A GET in the namespace `ns` of the cluster `c`. -/
private def getIn (resource : String) : Request :=
  ⟨.get, "", "c", "c", "api/v1/namespaces/ns/" ++ resource, "", routed_c⟩

/-- The Secret `web` is served to whoever asks for the Pod `web`. -/
theorem secret_served_for_pod :
    ¬ ∀ (codec : Codec) (events : List Event) (last : State),
      Sent (fun request => request.method = .get) events → run (step codec) State.initial events = some last →
        ∀ hit ∈ last.hits, hit.Sound := by
  intro sound
  have storable : (getIn "secrets/web").storable = true := by decide +kernel
  have servable : (getIn "pods/web").servable = true := by decide +kernel
  have secret : keyParts (getIn "secrets/web").path = some ("", "web", "ns") := by decide +kernel
  have pod : keyParts (getIn "pods/web").path = some ("", "web", "ns") := by decide +kernel
  have apart : (getIn "secrets/web").path ≠ (getIn "pods/web").path := by decide +kernel
  obtain ⟨events, last, entry, ran, sent, member, source⟩ :=
    served_from_other ⟨.ok, id⟩ storable servable rfl (secret.trans pod.symm)
  have gets : Sent (fun request => request.method = .get) events := by
    intro request review now arrived
    rcases sent request review now arrived with rfl | rfl <;> rfl
  have same := (sound ⟨.ok, id⟩ events last gets ran _ member).2.1
  rw [source] at same
  exact absurd same apart

end K8Sense.Cache
