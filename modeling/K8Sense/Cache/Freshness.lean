import K8Sense.Cache.Middleware

/-! Freshness of cached answers after a mutation. A stale entry survives a
mutation in two ways: its key is not among the purged ones, or it is stored
between the purge and the moment at which the mutation takes effect. -/

namespace K8Sense.Cache
open Text Transition

def Method.mutates : Method → Bool
  | .post | .put | .patch | .delete => true
  | _ => false

/-- A GET whose answer the mutation can change: of the object itself, of the
list of its namespace, or of the list of all namespaces. -/
def affects (mutation get : Request) : Bool :=
  mutation.method.mutates && get.method = .get && get.context = mutation.context &&
    match parseAPIResourceRequest mutation.api, parseAPIResourceRequest get.api with
    | some changed, some asked =>
      asked.group = changed.group ∧ asked.version = changed.version ∧ asked.resource = changed.resource ∧
        asked.subresource = "" ∧
        (asked.name = changed.name ∧ asked.namespace = changed.namespace ∨
          asked.name = "" ∧ (asked.namespace = changed.namespace ∨ asked.namespace = ""))
    | _, _ => false

/-- Asked after the mutation had been carried out and answered, and answered
with a response from before it took effect. -/
def Hit.Stale (hit : Hit) (mutation : Call) : Prop :=
  affects mutation.request hit.request = true ∧ ∃ took answered, mutation.committedAt = some took ∧
    mutation.answeredAt = some answered ∧ answered < hit.servedAt ∧ hit.entry.producedAt < took

/-- The key belongs to a GET that the mutation affects. -/
def Touches (mutation : Request) (key : String) : Prop :=
  ∃ get, affects mutation get = true ∧ generateKey get.path get.context = .ok key

/-- A mutation arrives when nothing is cached under the keys it touches but does
not purge, and no response is stored under a key that an earlier mutation
touches, unless it was produced after that mutation took effect. -/
def Covered (codec : Codec) (state : State) : Event → Prop
  | .arrive request _ _ =>
    ∀ key own entry, Touches request key → generateKey request.path request.context = .ok own →
      state.store.Holds key entry → key ∈ purgedKeys own
  | .fill id _ =>
    ∀ call response producedAt, state.calls[id]? = some call → call.phase = .fetched response producedAt →
      isKept codec call.request.api response = true →
        ∀ mutation ∈ state.calls, Touches mutation.request call.key →
          mutation.phase ≠ .mutating ∧ ∀ took, mutation.committedAt = some took → took ≤ producedAt
  | _ => True

/-- No entry is older than a mutation that touches its key. -/
structure UpToDate (state : State) : Prop where
  entries : ∀ mutation ∈ state.calls, ∀ key entry, Touches mutation.request key → state.store.Holds key entry →
    mutation.phase ≠ .mutating ∧ ∀ took, mutation.committedAt = some took → took ≤ entry.producedAt
  unanswered : ∀ call ∈ state.calls, call.phase = .mutating ∨ call.phase = .effective → call.answeredAt = none
  past : ∀ hit ∈ state.hits, hit.servedAt < state.clock
  hits : ∀ mutation ∈ state.calls, ∀ hit ∈ state.hits, ¬hit.Stale mutation

theorem upToDate_initial : UpToDate State.initial := by
  constructor <;> simp [State.initial]

theorem not_stale_of_uncommitted {mutation : Call} (uncommitted : mutation.committedAt = none) (hit : Hit) :
    ¬hit.Stale mutation := by
  rintro ⟨_, took, _, committed, _⟩
  simp [uncommitted] at committed

variable {codec : Codec}

private theorem upToDate_append {state : State} (current : UpToDate state) (call : Call)
    (idle : call.phase = .forwarding ∨ call.phase = .finished) (uncommitted : call.committedAt = none) :
    UpToDate { state with calls := state.calls ++ [call], clock := state.clock + 1 } := by
  constructor
  · intro mutation member key entry touches held
    rcases List.mem_append.mp member with old | new
    · exact current.entries mutation old key entry touches held
    · obtain rfl := List.mem_singleton.mp new
      refine ⟨?_, by simp [uncommitted]⟩
      rcases idle with idle | idle <;> simp [idle]
  · intro other member active
    rcases List.mem_append.mp member with old | new
    · exact current.unanswered other old active
    · obtain rfl := List.mem_singleton.mp new
      rcases idle with idle | idle <;> simp [idle] at active
  · intro hit member
    have before := current.past hit member
    dsimp only
    omega
  · intro mutation member hit answered
    rcases List.mem_append.mp member with old | new
    · exact current.hits mutation old hit answered
    · obtain rfl := List.mem_singleton.mp new
      exact not_stale_of_uncommitted uncommitted hit

private theorem upToDate_set {state : State} (current : UpToDate state) (id : Nat) (updated : Call)
    (entries : ∀ key entry, Touches updated.request key → state.store.Holds key entry →
      updated.phase ≠ .mutating ∧ ∀ took, updated.committedAt = some took → took ≤ entry.producedAt)
    (unanswered : updated.phase = .mutating ∨ updated.phase = .effective → updated.answeredAt = none)
    (hits : ∀ hit ∈ state.hits, ¬hit.Stale updated) :
    UpToDate { state with calls := state.calls.set id updated, clock := state.clock + 1 } := by
  constructor
  · intro mutation member key entry touches held
    rcases List.mem_or_eq_of_mem_set member with old | rfl
    · exact current.entries mutation old key entry touches held
    · exact entries key entry touches held
  · intro call member active
    rcases List.mem_or_eq_of_mem_set member with old | rfl
    · exact current.unanswered call old active
    · exact unanswered active
  · intro hit member
    have before := current.past hit member
    dsimp only
    omega
  · intro mutation member hit answered
    rcases List.mem_or_eq_of_mem_set member with old | rfl
    · exact current.hits mutation old hit answered
    · exact hits hit answered

private theorem upToDate_purged {state : State} (current : UpToDate state) {request : Request} {own : String}
    (purges : ∀ key entry, Touches request key → state.store.Holds key entry → key ∈ purgedKeys own) :
    UpToDate { state with
      store := deleteKeys own state.store
      calls := state.calls ++ [⟨request, own, .mutating, none, none⟩]
      clock := state.clock + 1 } := by
  constructor
  · intro mutation member key entry touches held
    obtain ⟨unpurged, held⟩ := holds_deleteKeys.mp held
    rcases List.mem_append.mp member with old | new
    · exact current.entries mutation old key entry touches held
    · obtain rfl := List.mem_singleton.mp new
      exact absurd (purges key entry touches held) unpurged
  · intro call member active
    rcases List.mem_append.mp member with old | new
    · exact current.unanswered call old active
    · obtain rfl := List.mem_singleton.mp new
      rfl
  · intro hit member
    have before := current.past hit member
    dsimp only
    omega
  · intro mutation member hit answered
    rcases List.mem_append.mp member with old | new
    · exact current.hits mutation old hit answered
    · obtain rfl := List.mem_singleton.mp new
      exact not_stale_of_uncommitted rfl hit

theorem upToDate_step {state next : State} {event : Event} (current : UpToDate state)
    (covered : Covered codec state event) (taken : step codec state event = some next) : UpToDate next := by
  cases step_moves taken with
  | passed => exact upToDate_append current _ (Or.inr rfl) rfl
  | @served request _ _ key entry servable keyed held =>
    have appended := upToDate_append current ⟨request, "", .finished, none, none⟩ (Or.inr rfl) rfl
    refine ⟨appended.entries, appended.unanswered, ?_, ?_⟩
    · intro hit member
      rcases List.mem_append.mp member with old | new
      · exact appended.past hit old
      · obtain rfl := List.mem_singleton.mp new
        exact Nat.lt_succ_self _
    · intro mutation member hit answered
      rcases List.mem_append.mp answered with old | new
      · exact appended.hits mutation member hit old
      · obtain rfl := List.mem_singleton.mp new
        rintro ⟨affected, took, _, committed, _, _, older⟩
        have produced := (appended.entries mutation member key entry ⟨request, affected, keyed⟩ held).2 took committed
        dsimp only at older
        omega
  | missed reaches method keyed => exact upToDate_append current _ (Or.inl rfl) rfl
  | @purged _ _ _ own reaches method keyed =>
    exact upToDate_purged current fun key entry touches held => covered key own entry touches keyed held
  | @committed _ call found phase =>
    have member := List.mem_of_getElem? found
    apply upToDate_set current
    · intro key entry touches held
      exact absurd phase (current.entries call member key entry touches held).1
    · exact fun _ => current.unanswered call member (Or.inl phase)
    · rintro hit _ ⟨_, _, _, _, answered, _⟩
      simp [current.unanswered call member (Or.inl phase)] at answered
  | @answered _ call found phase =>
    have member := List.mem_of_getElem? found
    apply upToDate_set current
    · intro key entry touches held
      exact ⟨by simp, (current.entries call member key entry touches held).2⟩
    · simp
    · rintro hit earlier ⟨_, _, answered, _, same, later, _⟩
      have before := current.past hit earlier
      cases same
      omega
  | @produced _ _ call found phase =>
    have member := List.mem_of_getElem? found
    apply upToDate_set current
    · intro key entry touches held
      exact ⟨by simp, (current.entries call member key entry touches held).2⟩
    · simp
    · exact fun hit earlier => current.hits call member hit earlier
  | @dropped _ _ _ _ call found phase =>
    have member := List.mem_of_getElem? found
    apply upToDate_set current
    · intro key entry touches held
      exact ⟨by simp, (current.entries call member key entry touches held).2⟩
    · simp
    · exact fun hit earlier => current.hits call member hit earlier
  | @stored id _ producedAt response call data found phase kept =>
    have member := List.mem_of_getElem? found
    have changed := upToDate_set current id { call with phase := .finished }
      (fun key entry touches held => ⟨by simp, (current.entries call member key entry touches held).2⟩)
      (by simp) (fun hit earlier => current.hits call member hit earlier)
    refine ⟨?_, changed.unanswered, changed.past, changed.hits⟩
    intro mutation present key entry touches held
    rcases Store.holds_setWithTTL.mp held with ⟨rfl, rfl⟩ | ⟨_, held⟩
    · rcases List.mem_or_eq_of_mem_set present with old | rfl
      · exact covered call response producedAt found phase kept mutation old touches
      · exact ⟨by simp, (covered call response producedAt found phase kept call member touches).2⟩
    · exact changed.entries mutation present key entry touches held
  | evicted =>
    refine ⟨?_, current.unanswered, ?_, current.hits⟩
    · intro mutation member key entry touches held
      exact current.entries mutation member key entry touches (Store.holds_delete.mp held).2
    · intro hit member
      have before := current.past hit member
      dsimp only
      omega

section
variable {asked mutation : Request} {own key : String}

theorem affects_methods (affected : affects mutation asked = true) : mutation.method ≠ .get ∧ asked.method = .get := by
  simp only [affects, Bool.and_eq_true, decide_eq_true_eq] at affected
  obtain ⟨⟨⟨mutates, get⟩, _⟩, _⟩ := affected
  refine ⟨?_, get⟩
  intro same
  simp [same, Method.mutates] at mutates

theorem served_after_mutation (codec : Codec) (storable : asked.storable = true) (servable : asked.servable = true)
    (reaches : mutation.reaches = true) (affected : affects mutation asked = true)
    (mutationKeyed : generateKey mutation.path mutation.context = .ok own)
    (askedKeyed : generateKey asked.path asked.context = .ok key) (unpurged : key ∉ purgedKeys own) :
    ∃ events last, run (step codec) State.initial events = some last ∧
      ∃ mutation ∈ last.calls, ∃ hit ∈ last.hits, hit.Stale mutation := by
  obtain ⟨changing, get⟩ := affects_methods affected
  have asks := Request.reaches_of_storable storable
  have cached : ∀ entry, (deleteKeys own ((Store.empty : Store Entry).setWithTTL key entry cacheTTL 0)).get key 0 =
      some entry := by
    intro entry
    rw [get_deleteKeys unpurged]
    exact Store.get_setWithTTL (by decide)
  have ran : run (step codec) State.initial [.arrive asked .allowed 0, .produce 0 okResponse, .fill 0 0,
      .arrive mutation .allowed 0, .commit 1, .answer 1, .arrive asked .allowed 0] =
      some ⟨deleteKeys own (Store.empty.setWithTTL key ⟨codec.json ⟨200, [], []⟩, asked.fresh, 1⟩ cacheTTL 0),
        [⟨asked, key, .finished, none, none⟩, ⟨mutation, own, .forwarding, some 4, some 5⟩,
          ⟨asked, "", .finished, none, none⟩],
        [⟨asked, ⟨codec.json ⟨200, [], []⟩, asked.fresh, 1⟩, 6⟩], 7⟩ := by
    unfold State.initial
    rw [run_step (step_missed asks get askedKeyed (Store.get_empty key 0)), run_step (step_produced rfl okResponse),
      run_step (step_stored storable rfl), run_step (step_purged reaches changing mutationKeyed .allowed),
      run_step (step_committed rfl), run_step (step_answered rfl (Or.inr rfl)),
      run_step (step_served servable askedKeyed (cached _))]
    rfl
  refine ⟨_, _, ran, ⟨mutation, own, .forwarding, some 4, some 5⟩, by simp,
    ⟨asked, ⟨codec.json ⟨200, [], []⟩, asked.fresh, 1⟩, 6⟩, by simp, affected, 4, 5, rfl, rfl, ?_, ?_⟩
  · exact Nat.lt_succ_self 5
  · exact (by decide : 1 < 4)

/-- A mutation on an empty cache, then a GET that fills it, then one that is
answered from it. -/
private def mutationThenGet (mutation asked : Request) : List Event :=
  [.arrive mutation .allowed 0, .commit 0, .answer 0, .arrive asked .allowed 0, .produce 1 okResponse, .fill 1 0,
    .arrive asked .allowed 0]

private theorem mutationThenGet_run (codec : Codec) (storable : asked.storable = true)
    (servable : asked.servable = true) (get : asked.method = .get) (reaches : mutation.reaches = true)
    (changing : mutation.method ≠ .get) (mutationKeyed : generateKey mutation.path mutation.context = .ok own)
    (askedKeyed : generateKey asked.path asked.context = .ok key) :
    Meets (step codec) (Covered codec) State.initial (mutationThenGet mutation asked) ∧
    run (step codec) State.initial (mutationThenGet mutation asked) =
      some ⟨Store.empty.setWithTTL key ⟨codec.json ⟨200, [], []⟩, asked.fresh, 4⟩ cacheTTL 0,
        [⟨mutation, own, .forwarding, some 1, some 2⟩, ⟨asked, key, .finished, none, none⟩,
          ⟨asked, "", .finished, none, none⟩],
        [⟨asked, ⟨codec.json ⟨200, [], []⟩, asked.fresh, 4⟩, 6⟩], 7⟩ := by
  have asks := Request.reaches_of_storable storable
  have harmless : ∀ key, ¬Touches asked key := by
    rintro key ⟨other, affected, _⟩
    exact (affects_methods affected).1 get
  have cached : ∀ entry, ((Store.empty : Store Entry).setWithTTL key entry cacheTTL 0).get key 0 = some entry :=
    fun entry => Store.get_setWithTTL (by decide)
  unfold mutationThenGet State.initial
  constructor
  · rw [meets_step (step_purged reaches changing mutationKeyed .allowed), deleteKeys_empty, meets_step (step_committed rfl),
      meets_step (step_answered rfl (Or.inr rfl)), meets_step (step_missed asks get askedKeyed (Store.get_empty key 0)),
      meets_step (step_produced rfl okResponse), meets_step (step_stored storable rfl),
      meets_step (step_served servable askedKeyed (cached _))]
    refine ⟨?_, trivial, trivial, ?_, trivial, ?_, ?_, trivial⟩
    · intro key own entry _ _ held
      exact absurd held (Store.not_holds_empty key entry)
    · exact fun key _ _ touches => absurd touches (harmless key)
    · intro call response producedAt found phase _ earlier member touches
      cases found
      cases phase
      simp only [List.nil_append, List.cons_append, List.set_cons_zero, List.set_cons_succ, List.mem_cons,
        List.not_mem_nil, or_false] at member
      rcases member with rfl | rfl
      · simp
      · exact absurd touches (harmless _)
    · exact fun key _ _ touches => absurd touches (harmless key)
  · rw [run_step (step_purged reaches changing mutationKeyed .allowed), deleteKeys_empty, run_step (step_committed rfl),
      run_step (step_answered rfl (Or.inr rfl)), run_step (step_missed asks get askedKeyed (Store.get_empty key 0)),
      run_step (step_produced rfl okResponse), run_step (step_stored storable rfl),
      run_step (step_served servable askedKeyed (cached _))]
    rfl

end

/-- A request for the Pods of the namespace `ns`, or for one of them. -/
private def pods (method : Method) (name : String) : Request :=
  ⟨method, "", "c", "c", "api/v1/namespaces/ns/pods" ++ name, "", by decide⟩

private theorem pods_storable : (pods .get "").storable = true := by decide +kernel

private theorem pods_servable : (pods .get "").servable = true := by decide +kernel

private theorem pods_keyed : generateKey (pods .get "").path "c" = .ok "+pods+ns+c" := by decide +kernel

/-- In a run whose mutations are all covered no answer from the cache is stale. -/
theorem covered_fresh (codec : Codec) (events : List Event) (last : State)
    (covered : Meets (step codec) (Covered codec) State.initial events)
    (ran : run (step codec) State.initial events = some last) :
    ∀ mutation ∈ last.calls, ∀ hit ∈ last.hits, ¬hit.Stale mutation := by
  refine (invariant UpToDate ?_ upToDate_initial covered ran).hits
  exact fun state event next current allowed taken => upToDate_step current allowed taken

theorem created_pod_listed : ∃ events last, run (step ⟨.ok, id⟩) State.initial events = some last ∧
    ∃ mutation ∈ last.calls, ∃ hit ∈ last.hits, affects mutation.request hit.request = true ∧
      mutation.committedAt = some 1 ∧ ¬hit.Stale mutation := by
  have reaches : (pods .post "").reaches = true := by decide +kernel
  have affected : affects (pods .post "") (pods .get "") = true := by decide +kernel
  obtain ⟨covered, ran⟩ := mutationThenGet_run ⟨.ok, id⟩ pods_storable pods_servable rfl reaches (by decide) pods_keyed pods_keyed
  have fresh := covered_fresh _ _ _ covered ran ⟨pods .post "", "+pods+ns+c", .forwarding, some 1, some 2⟩ (by simp)
    ⟨pods .get "", ⟨⟨200, [], []⟩, (pods .get "").fresh, 4⟩, 6⟩ (by simp)
  exact ⟨_, _, ran, _, by simp, _, by simp, affected, rfl, fresh⟩

/-- The list of Pods is served unchanged after one of them was deleted. -/
theorem deleted_pod_listed :
    ¬ ∀ (codec : Codec) (events : List Event) (last : State), run (step codec) State.initial events = some last →
      ∀ mutation ∈ last.calls, ∀ hit ∈ last.hits, ¬hit.Stale mutation := by
  intro fresh
  have reaches : (pods .delete "/web").reaches = true := by decide +kernel
  have affected : affects (pods .delete "/web") (pods .get "") = true := by decide +kernel
  have mutationKeyed : generateKey (pods .delete "/web").path "c" = .ok "+web+ns+c" := by decide +kernel
  obtain ⟨events, last, ran, mutation, member, hit, answered, stale⟩ :=
    served_after_mutation ⟨.ok, id⟩ pods_storable pods_servable reaches affected mutationKeyed pods_keyed (by decide +kernel)
  exact fresh ⟨.ok, id⟩ events last ran mutation member hit answered stale

end K8Sense.Cache
