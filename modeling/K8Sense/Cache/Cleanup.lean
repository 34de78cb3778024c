import Mathlib.Logic.Function.Basic
import K8Sense.Library.Transition

/-! The cleaning of a cache, next to the map with expiry times that the cache stands for.
Times are nanoseconds since the zero time, which is for a value that never expires. -/

namespace K8Sense.Cache.Cleanup

universe u
variable {α : Type u}

/-- `stored` is the number of the call that stored the value. Nothing reads it. -/
structure CacheValue (α : Type u) where
  value : α
  expiresAt : Int
  stored : Nat

abbrev Store (α : Type u) := String → Option (CacheValue α)

namespace CacheValue

def isPresent (now : Int) (value : CacheValue α) : Bool := value.expiresAt = 0 || now < value.expiresAt

def isExpired (now : Int) (value : CacheValue α) : Bool := value.expiresAt ≠ 0 && value.expiresAt < now

end CacheValue

inductive Call (α : Type u) where
  | set (key : String) (value : α)
  | setWithTTL (key : String) (value : α) (ttl : Int)
  | updateTTL (key : String) (ttl : Int)
  | delete (key : String)
  | get (key : String)
  /-- `selectFunc` is missing where every key matches. -/
  | getAll (selectFunc : Option (String → Bool))

/-- What a call returns. `none` stands for `ErrNotFound`. -/
inductive Result (α : Type u) where
  | done (error : Option String)
  | value (found : Option α)
  | values (found : String → Option α)

def errNotFound : String := "key not found"

namespace Store

def setWithTTL (key : String) (value : α) (ttl : Int) (now : Int) (stored : Nat) (store : Store α) : Store α :=
  Function.update store key (some ⟨value, if ttl = 0 then 0 else now + ttl, stored⟩)

def delete (key : String) (store : Store α) : Store α := Function.update store key none

def get (key : String) (now : Int) (store : Store α) : Option α :=
  match store key with
  | none => none
  | some value => if value.isPresent now then some value.value else none

def getAll (selectFunc : Option (String → Bool)) (now : Int) (store : Store α) (key : String) : Option α :=
  if selectFunc.all (· key) then store.get key now else none

def updateTTL (key : String) (ttl : Int) (now : Int) (store : Store α) : Option String × Store α :=
  match store key with
  | none => (some errNotFound, store)
  | some value =>
    if value.isPresent now then (none, Function.update store key (some { value with expiresAt := now + ttl }))
    else (none, store)

/-- One run of the loop, where the time was read before the lock was taken. -/
def cleanUp (now : Int) (store : Store α) : Store α := fun key => (store key).filter fun value => !value.isExpired now

/-- The call of a number, with what it returns. -/
def call (number : Nat) (now : Int) (store : Store α) : Call α → Result α × Store α
  | .set key value => (.done none, store.setWithTTL key value 0 now number)
  | .setWithTTL key value ttl => (.done none, store.setWithTTL key value ttl now number)
  | .updateTTL key ttl => (.done (store.updateTTL key ttl now).1, (store.updateTTL key ttl now).2)
  | .delete key => (.done none, store.delete key)
  | .get key => (.value (store.get key now), store)
  | .getAll selectFunc => (.values (store.getAll selectFunc now), store)

end Store

structure Timed (α : Type u) where
  call : Call α
  now : Int

inductive Event (α : Type u) where
  | call (timed : Timed α)
  | cleanUp (now : Int)

/-- `calls` is how many calls there have been. -/
structure State (α : Type u) where
  store : Store α
  calls : Nat
  results : List (Result α)

def initial : State α := ⟨fun _ => none, 0, []⟩

def step (state : State α) : Event α → State α
  | .call timed =>
    { store := (state.store.call state.calls timed.now timed.call).2
      calls := state.calls + 1
      results := state.results ++ [(state.store.call state.calls timed.now timed.call).1] }
  | .cleanUp now => { state with store := state.store.cleanUp now }

def run (events : List (Event α)) : State α := events.foldl step initial

def Event.call? : Event α → Option (Timed α)
  | .call timed => some timed
  | .cleanUp _ => none

def callsOf (events : List (Event α)) : List (Timed α) := events.filterMap Event.call?

def Event.now : Event α → Int
  | .call timed => timed.now
  | .cleanUp now => now

/-- No call is made before a time that has been read. -/
def Ordered (events : List (Event α)) : Prop :=
  events.Pairwise fun earlier event => event.call?.isSome → earlier.now ≤ event.now

/-! The map that a cache stands for. -/

/-- A map from keys to values with their expiry times: what is not present cannot be
prolonged. -/
def specCall (number : Nat) (now : Int) (store : Store α) : Call α → Result α × Store α
  | .updateTTL key ttl =>
    match (store key).filter fun value => value.isPresent now with
    | none => (.done (some errNotFound), store)
    | some value => (.done none, Function.update store key (some { value with expiresAt := now + ttl }))
  | other => store.call number now other

def specStep (state : State α) (timed : Timed α) : State α :=
  { store := (specCall state.calls timed.now state.store timed.call).2
    calls := state.calls + 1
    results := state.results ++ [(specCall state.calls timed.now state.store timed.call).1] }

def spec (calls : List (Timed α)) : State α := calls.foldl specStep initial

/-- No call prolongs a value that cannot be read any more. -/
def Proper (calls : List (Timed α)) : Prop :=
  ∀ before timed after, calls = before ++ timed :: after → ∀ key ttl, timed.call = .updateTTL key ttl →
    ∀ value, (spec before).store key = some value → value.isPresent timed.now = true

/-- A run of the loop after these events would collect the value. -/
def Evicts (events : List (Event α)) (now : Int) (key : String) (value : CacheValue α) : Prop :=
  (run events).store key = some value ∧ value.isExpired now = true

/-- Runs of the loop cannot be seen, calls return what the map returns, and what is collected
is a value of the map that has expired, and is collected once. -/
structure Refines (calls : List (Timed α)) : Prop where
  unobservable : ∀ events, Ordered events → callsOf events = calls → (run events).results = (run (calls.map Event.call)).results
  map : (run (calls.map Event.call)).results = (spec calls).results
  /-- The readings of the map agree on which keys are present. -/
  present : ∀ number now key ttl,
    ((specCall number now (spec calls).store (.updateTTL key ttl)).1 = .done none ↔ ((spec calls).store.get key now).isSome) ∧
    (spec calls).store.getAll none now key = (spec calls).store.get key now
  current : ∀ events, Ordered events → callsOf events = calls → ∀ now key value, Evicts events now key value →
    (spec calls).store key = some value ∧ value.expiresAt ≠ 0 ∧ value.expiresAt < now
  single : ∀ events, callsOf events = calls → ∀ now key other value found, Evicts events now key value → Evicts events now other found →
    value.stored = found.stored → key = other
  once : ∀ before now rest, callsOf (before ++ .cleanUp now :: rest) = calls → ∀ later key other value found, Evicts before now key value →
    Evicts (before ++ .cleanUp now :: rest) later other found → value.stored ≠ found.stored

/-! What a step can do with the values that are held. -/

section
variable {state : State α} {event : Event α} {events : List (Event α)} {calls : List (Timed α)} {key : String} {value : CacheValue α}

/-- The key that the call stores a value at. -/
def Event.stores : Event α → Option String
  | .call ⟨.set key _, _⟩ | .call ⟨.setWithTTL key _ _, _⟩ => some key
  | _ => none

theorem run_append (events : List (Event α)) (event : Event α) : run (events ++ [event]) = step (run events) event := List.foldl_append

theorem spec_append (calls : List (Timed α)) (timed : Timed α) : spec (calls ++ [timed]) = specStep (spec calls) timed :=
  List.foldl_append

theorem update_cases {store : Store α} {other : String} {entry : Option (CacheValue α)}
    (held : Function.update store other entry key = some value) : (key = other ∧ entry = some value) ∨ store key = some value := by
  by_cases same : key = other
  · subst same
    exact .inl ⟨rfl, (Function.update_self key entry store).symm.trans held⟩
  · exact .inr ((Function.update_of_ne same entry store).symm.trans held)

theorem held_step (held : (step state event).store key = some value) :
    (∃ old, state.store key = some old ∧ old.stored = value.stored) ∨ (event.stores = some key ∧ value.stored = state.calls) := by
  have stays (kept : state.store key = some value) : ∃ old, state.store key = some old ∧ old.stored = value.stored := ⟨value, kept, rfl⟩
  cases event with
  | cleanUp now => exact .inl (stays (Option.filter_eq_some_iff.mp held).1)
  | call timed =>
    obtain ⟨call, now⟩ := timed
    cases call with
    | set other stored =>
      obtain ⟨same, entry⟩ | kept := update_cases held
      · exact .inr ⟨congrArg some same.symm, (congrArg CacheValue.stored (Option.some.inj entry)).symm⟩
      · exact .inl (stays kept)
    | setWithTTL other stored ttl =>
      obtain ⟨same, entry⟩ | kept := update_cases held
      · exact .inr ⟨congrArg some same.symm, (congrArg CacheValue.stored (Option.some.inj entry)).symm⟩
      · exact .inl (stays kept)
    | updateTTL other ttl =>
      apply Or.inl
      change (state.store.updateTTL other ttl now).2 key = some value at held
      rw [Store.updateTTL] at held
      split at held
      · exact stays held
      · next old found =>
        split at held
        · obtain ⟨same, entry⟩ | kept := update_cases held
          · exact ⟨old, same ▸ found, by rw [← Option.some.inj entry]⟩
          · exact stays kept
        · exact stays held
    | delete other =>
      obtain ⟨_, entry⟩ | kept := update_cases held
      · exact nomatch entry
      · exact .inl (stays kept)
    | get | getAll => exact .inl (stays held)

variable (state event) in
theorem calls_le_step : state.calls ≤ (step state event).calls := by
  cases event with
  | cleanUp now => exact Nat.le_refl _
  | call timed => exact Nat.le_succ _

variable (state) in
theorem calls_lt_step (stores : event.stores = some key) : state.calls < (step state event).calls := by
  cases event with
  | cleanUp now => exact nomatch stores
  | call timed => exact Nat.lt_succ_self _

/-- The numbers of the values held are those of earlier calls, and no two are the same. -/
structure Numbered (state : State α) : Prop where
  earlier : ∀ key value, state.store key = some value → value.stored < state.calls
  distinct : ∀ key other value found, state.store key = some value → state.store other = some found → value.stored = found.stored → key = other

theorem Numbered.step (numbered : Numbered state) : Numbered (step state event) where
  earlier key value held := by
    obtain ⟨old, before, same⟩ | ⟨stores, number⟩ := held_step held
    · have := numbered.earlier key old before
      have := calls_le_step state event
      omega
    · have := calls_lt_step state stores
      omega
  distinct key other value found held also equal := by
    obtain ⟨old, before, same⟩ | ⟨stores, number⟩ := held_step held
    · have early := numbered.earlier key old before
      obtain ⟨old', before', same'⟩ | ⟨_, number'⟩ := held_step also
      · exact numbered.distinct key other old old' before before' (by omega)
      · omega
    · obtain ⟨old', before', same'⟩ | ⟨stores', _⟩ := held_step also
      · have := numbered.earlier other old' before'
        omega
      · exact Option.some.inj (stores.symm.trans stores')

theorem numbered_run (events : List (Event α)) : Numbered (run events) := by
  induction events using List.reverseRecOn with
  | nil => exact ⟨fun _ _ held => (nomatch held), fun _ _ _ _ held => (nomatch held)⟩
  | append_singleton events event ih =>
    rw [run_append]
    exact ih.step

/-- The value of an earlier call is held no more. -/
structure Gone (number : Nat) (state : State α) : Prop where
  earlier : number < state.calls
  absent : ∀ key value, state.store key = some value → value.stored ≠ number

theorem Gone.step {number : Nat} (gone : Gone number state) : Gone number (step state event) where
  earlier := Nat.lt_of_lt_of_le gone.earlier (calls_le_step _ _)
  absent key value held := by
    obtain ⟨old, before, same⟩ | ⟨_, later⟩ := held_step held
    · have := gone.absent key old before
      omega
    · have := gone.earlier
      omega

theorem Gone.run {number : Nat} (rest : List (Event α)) (gone : Gone number (run events)) : Gone number (run (events ++ rest)) := by
  induction rest using List.reverseRecOn with
  | nil => rwa [List.append_nil]
  | append_singleton rest event ih =>
    rw [← List.append_assoc, run_append]
    exact ih.step

theorem gone_cleanUp {now : Int} (evicts : Evicts events now key value) : Gone value.stored (run (events ++ [.cleanUp now])) := by
  have numbered := numbered_run events
  rw [run_append]
  refine ⟨numbered.earlier key value evicts.1, fun other found held same => ?_⟩
  obtain ⟨before, kept⟩ := Option.filter_eq_some_iff.mp held
  obtain rfl := numbered.distinct other key found value before evicts.1 same
  obtain rfl := Option.some.inj (before.symm.trans evicts.1)
  simp [evicts.2] at kept

theorem evicted_once {before rest : List (Event α)} {now later : Int} {other : String} {found : CacheValue α}
    (evicts : Evicts before now key value) (again : Evicts (before ++ .cleanUp now :: rest) later other found) :
    value.stored ≠ found.stored := by
  have gone := (gone_cleanUp evicts).run rest
  rw [List.append_assoc] at gone
  exact (gone.absent other found again.1).symm

end

/-! The map and the cache without the loop. -/

section
variable {calls : List (Timed α)} {timed : Timed α} {number : Nat} {now : Int} {store : Store α}

theorem specCall_store (number : Nat) (now : Int) (store : Store α) (call : Call α) :
    (specCall number now store call).2 = (store.call number now call).2 := by
  cases call
  case updateTTL key ttl =>
    simp only [specCall, Store.call, Store.updateTTL]
    cases store key with
    | none => rfl
    | some value => cases present : value.isPresent now <;> simp [Option.filter_some, present]
  all_goals rfl

/-- The call does not prolong a value that has expired. -/
def Permitted (store : Store α) (timed : Timed α) : Prop :=
  ∀ key ttl, timed.call = .updateTTL key ttl → ∀ value, store key = some value → value.isPresent timed.now = true

variable (number) in
theorem specCall_result : (store.call number timed.now timed.call).1 = (specCall number timed.now store timed.call).1 ↔ Permitted store timed := by
  obtain ⟨call, now⟩ := timed
  cases call
  case updateTTL key ttl =>
    have permitted : Permitted store ⟨.updateTTL key ttl, now⟩ ↔ ∀ value, store key = some value → value.isPresent now = true :=
      ⟨fun all => all key ttl rfl, fun all _ _ same => by cases same; exact all⟩
    rw [permitted]
    simp only [specCall, Store.call, Store.updateTTL]
    cases found : store key with
    | none => exact iff_of_true rfl fun _ held => nomatch held
    | some value => cases present : value.isPresent now <;> simp [Option.filter_some, present]
  all_goals exact iff_of_true rfl fun _ _ other => nomatch other

theorem present_agree (key : String) (ttl : Int) :
    (specCall number now store (.updateTTL key ttl)).1 = .done none ↔ (store.get key now).isSome := by
  simp only [specCall, Store.get]
  cases store key with
  | none => simp
  | some value => cases present : value.isPresent now <;> simp [Option.filter_some, present]

theorem run_calls_store (calls : List (Timed α)) :
    (run (calls.map Event.call)).store = (spec calls).store ∧ (run (calls.map Event.call)).calls = (spec calls).calls := by
  induction calls using List.reverseRecOn with
  | nil => exact ⟨rfl, rfl⟩
  | append_singleton calls timed ih =>
    obtain ⟨store, number⟩ := ih
    rw [List.map_append, List.map_singleton, run_append, spec_append]
    refine ⟨?_, congrArg (· + 1) number⟩
    change ((run (calls.map Event.call)).store.call _ _ _).2 = (specCall _ _ (spec calls).store _).2
    rw [specCall_store, store, number]

theorem proper_append : Proper (calls ++ [timed]) ↔ Proper calls ∧ Permitted (spec calls).store timed :=
  @Transition.each_snoc _ (fun before timed => Permitted (spec before).store timed) calls timed

/-- Calls without the loop return what the map returns while none of them prolongs a value
that has expired. -/
theorem run_calls_results (calls : List (Timed α)) : (run (calls.map Event.call)).results = (spec calls).results ↔ Proper calls := by
  induction calls using List.reverseRecOn with
  | nil => exact iff_of_true rfl fun before timed after same => by cases before <;> exact nomatch same
  | append_singleton calls timed ih =>
    obtain ⟨store, number⟩ := run_calls_store calls
    rw [proper_append, ← ih, List.map_append, List.map_singleton, run_append, spec_append]
    change _ ++ [((run (calls.map Event.call)).store.call _ _ _).1] = _ ++ [_] ↔ _
    rw [store, number, ← specCall_result (spec calls).calls]
    refine ⟨fun same => ?_, fun ⟨before, last⟩ => by rw [before, last]⟩
    obtain ⟨before, last⟩ := List.append_inj' same rfl
    exact ⟨before, List.singleton_inj.mp last⟩

end

/-! The cache and the map, where the loop may run at any point. -/

section
variable {events : List (Event α)} {event : Event α} {timed : Timed α}

theorem Ordered.init (ordered : Ordered (events ++ [event])) : Ordered events := (List.pairwise_append.mp ordered).1

theorem Ordered.last (ordered : Ordered (events ++ [.call timed])) : ∀ event ∈ events, event.now ≤ timed.now :=
  fun event member => (List.pairwise_append.mp ordered).2.2 event member _ (List.mem_singleton_self _) rfl

theorem callsOf_append (events : List (Event α)) (event : Event α) : callsOf (events ++ [event]) = callsOf events ++ event.call?.toList := by
  rw [callsOf, List.filterMap_append]
  cases event with
  | call timed => rfl
  | cleanUp now => rfl

/-- The stores hold the same at the key, or the value there has expired at this time and has
been collected. -/
def AgreesAt (now : Int) (key : String) (store clean : Store α) : Prop :=
  store key = clean key ∨ store key = none ∧ ∃ value, clean key = some value ∧ value.isExpired now = true

theorem AgreesAt.mono {now later : Int} {key : String} {store clean : Store α} (notBefore : now ≤ later)
    (agrees : AgreesAt now key store clean) : AgreesAt later key store clean := by
  obtain same | ⟨absent, value, held, expired⟩ := agrees
  · exact .inl same
  · refine .inr ⟨absent, value, held, ?_⟩
    simp only [CacheValue.isExpired, Bool.and_eq_true, decide_eq_true_eq] at expired ⊢
    exact ⟨expired.1, by omega⟩

theorem not_present {now : Int} {value : CacheValue α} (expired : value.isExpired now = true) : value.isPresent now = false := by
  simp only [CacheValue.isExpired, CacheValue.isPresent, Bool.and_eq_true, decide_eq_true_eq, Bool.or_eq_false_iff,
    decide_eq_false_iff_not] at expired ⊢
  exact ⟨expired.1, by omega⟩

theorem agrees_update {now : Int} {store clean : Store α} (agrees : ∀ key, AgreesAt now key store clean) (other : String)
    (entry : Option (CacheValue α)) (key : String) : AgreesAt now key (Function.update store other entry) (Function.update clean other entry) := by
  by_cases same : key = other
  · exact .inl (by rw [same, Function.update_self, Function.update_self])
  · unfold AgreesAt
    rw [Function.update_of_ne same, Function.update_of_ne same]
    exact agrees key

theorem agrees_get {now : Int} {key : String} {store clean : Store α} (agrees : AgreesAt now key store clean) :
    store.get key now = clean.get key now := by
  obtain same | ⟨absent, value, held, expired⟩ := agrees
  · rw [Store.get, Store.get, same]
  · rw [Store.get, Store.get, absent, held]
    simp [not_present expired]

theorem agrees_call {number : Nat} {store clean : Store α} (agrees : ∀ key, AgreesAt timed.now key store clean)
    (permitted : Permitted clean timed) :
    (store.call number timed.now timed.call).1 = (specCall number timed.now clean timed.call).1 := by
  obtain ⟨call, now⟩ := timed
  cases call with
  | set | setWithTTL | delete => rfl
  | get key => exact congrArg Result.value (agrees_get (agrees key))
  | getAll selectFunc =>
    apply congrArg Result.values
    funext key
    rw [Store.getAll, Store.getAll, agrees_get (agrees key)]
  | updateTTL key ttl =>
    obtain same | ⟨absent, value, held, expired⟩ := agrees key
    · have equal : Store.call number now store (.updateTTL key ttl) = (.done (store.updateTTL key ttl now).1, (store.updateTTL key ttl now).2) := rfl
      rw [equal, Store.updateTTL, same]
      simp only [specCall]
      cases found : clean key with
      | none => rfl
      | some value => simp [Option.filter_some, permitted key ttl rfl value found]
    · have unreadable : value.isPresent now = false := not_present expired
      simp [Store.call, Store.updateTTL, specCall, absent, held, Option.filter_some, unreadable]

theorem agrees_call_store {number : Nat} {store clean : Store α} (agrees : ∀ key, AgreesAt timed.now key store clean) (key : String) :
    AgreesAt timed.now key (store.call number timed.now timed.call).2 (specCall number timed.now clean timed.call).2 := by
  rw [specCall_store]
  obtain ⟨call, now⟩ := timed
  cases call with
  | set | setWithTTL | delete => exact agrees_update agrees _ _ key
  | get | getAll => exact agrees key
  | updateTTL other ttl =>
    simp only [Store.call, Store.updateTTL]
    obtain same | ⟨absent, value, held, expired⟩ := agrees other
    · rw [same]
      cases held : clean other with
      | none => exact agrees key
      | some value =>
        simp only
        split
        · exact agrees_update agrees _ _ key
        · exact agrees key
    · have unreadable : value.isPresent now = false := not_present expired
      simp only [absent, held, unreadable]
      exact agrees key

theorem agrees_cleanUp (now : Int) {later : Int} {store clean : Store α} {key : String} (agrees : AgreesAt later key store clean) :
    AgreesAt (max later now) key (store.cleanUp now) clean := by
  obtain same | absent := agrees.mono (Int.le_max_left later now)
  · rw [AgreesAt, Store.cleanUp, ← same]
    cases held : store key with
    | none => exact .inl rfl
    | some value =>
      cases expired : value.isExpired now with
      | false => exact .inl (by simp [Option.filter_some, expired])
      | true =>
        refine .inr ⟨by simp [Option.filter_some, expired], value, rfl, ?_⟩
        simp only [CacheValue.isExpired, Bool.and_eq_true, decide_eq_true_eq] at expired ⊢
        exact ⟨expired.1, by omega⟩
  · exact .inr ⟨by rw [Store.cleanUp, absent.1]; rfl, absent.2⟩

theorem run_calls (events : List (Event α)) : (run events).calls = (spec (callsOf events)).calls := by
  induction events using List.reverseRecOn with
  | nil => rfl
  | append_singleton events event ih =>
    rw [run_append, callsOf_append]
    cases event with
    | cleanUp now => rwa [Event.call?, Option.toList_none, List.append_nil]
    | call timed =>
      rw [Event.call?, Option.toList_some, spec_append]
      exact congrArg (· + 1) ih

theorem agrees_run (events : List (Event α)) (ordered : Ordered events) (later : Int) (past : ∀ event ∈ events, event.now ≤ later)
    (key : String) : AgreesAt later key (run events).store (spec (callsOf events)).store := by
  induction events using List.reverseRecOn generalizing later key with
  | nil => exact .inl rfl
  | append_singleton events event ih =>
    rw [List.forall_mem_append, List.forall_mem_singleton] at past
    rw [run_append, callsOf_append]
    cases event with
    | cleanUp now =>
      rw [Event.call?, Option.toList_none, List.append_nil]
      exact (Int.max_eq_left past.2) ▸ agrees_cleanUp now (ih ordered.init later past.1 key)
    | call timed =>
      rw [Event.call?, Option.toList_some, spec_append]
      apply AgreesAt.mono past.2
      have agrees := ih ordered.init timed.now ordered.last
      change AgreesAt _ key ((run events).store.call (run events).calls timed.now timed.call).2 _
      rw [run_calls]
      exact agrees_call_store agrees key

theorem results_run (events : List (Event α)) (ordered : Ordered events) (proper : Proper (callsOf events)) :
    (run events).results = (spec (callsOf events)).results := by
  induction events using List.reverseRecOn with
  | nil => rfl
  | append_singleton events event ih =>
    rw [callsOf_append] at proper
    rw [run_append, callsOf_append]
    cases event with
    | cleanUp now =>
      rw [Event.call?, Option.toList_none, List.append_nil] at proper ⊢
      exact ih ordered.init proper
    | call timed =>
      rw [Event.call?, Option.toList_some] at proper ⊢
      obtain ⟨before, permitted⟩ := proper_append.mp proper
      have agrees := agrees_run events ordered.init timed.now ordered.last
      rw [spec_append]
      change _ ++ [_] = _ ++ [_]
      rw [ih ordered.init before, agrees_call agrees permitted, run_calls]

theorem exists_past (events : List (Event α)) : ∃ later, ∀ event ∈ events, event.now ≤ later := by
  induction events with
  | nil => exact ⟨0, fun _ member => nomatch member⟩
  | cons event events ih =>
    obtain ⟨later, past⟩ := ih
    refine ⟨max event.now later, List.forall_mem_cons.mpr ⟨Int.le_max_left _ _, fun other member => ?_⟩⟩
    exact Int.le_trans (past other member) (Int.le_max_right _ _)

theorem evicts_current (ordered : Ordered events) {now : Int} {key : String} {value : CacheValue α} (evicts : Evicts events now key value) :
    (spec (callsOf events)).store key = some value ∧ value.expiresAt ≠ 0 ∧ value.expiresAt < now := by
  obtain ⟨held, expired⟩ := evicts
  obtain ⟨later, past⟩ := exists_past events
  simp only [CacheValue.isExpired, Bool.and_eq_true, decide_eq_true_eq] at expired
  obtain same | ⟨absent, _⟩ := agrees_run events ordered later past key
  · exact ⟨same ▸ held, expired⟩
  · exact nomatch absent.symm.trans held

end

/-- The loop cannot be seen, and what it collects has expired and is collected once, just while
no call prolongs a value that has expired: such a call succeeds before the loop has run, and
the key is not found afterwards. -/
theorem refines_iff (calls : List (Timed α)) : Refines calls ↔ Proper calls := by
  refine ⟨fun refines => (run_calls_results calls).mp refines.map, fun proper => ?_⟩
  have clean := (run_calls_results calls).mpr proper
  exact {
    unobservable := by
      rintro events ordered rfl
      rw [clean, results_run events ordered proper]
    map := clean
    present := fun _ _ key ttl => ⟨present_agree key ttl, rfl⟩
    current := by
      rintro events ordered rfl now key value evicts
      exact evicts_current ordered evicts
    single := fun events _ now key other value found evicts also =>
      (numbered_run events).distinct key other value found evicts.1 also.1
    once := fun before now rest _ later key other value found evicts again => evicted_once evicts again }

/-- A value for a nanosecond that is prolonged two nanoseconds later, with the loop in between. -/
theorem expired_prolonged :
    ¬ Refines [Timed.mk (.setWithTTL "context" "value" 1) 1, Timed.mk (.updateTTL "context" 5) 4] := by
  intro refines
  have same := refines.unobservable
    [.call ⟨.setWithTTL "context" "value" 1, 1⟩, .cleanUp 3, .call ⟨.updateTTL "context" 5, 4⟩] ?_ rfl
  · exact nomatch congrArg (·[1]?) same
  · simp [Ordered, Event.now]

end K8Sense.Cache.Cleanup
