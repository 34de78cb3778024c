import K8Sense.Multiplexer.Registry

/-! Runs without failing heartbeats, in which the connections of a key take turns. The
look-up of a REQUEST then keeps a second live connection from being set up. -/

namespace K8Sense.Multiplexer.Registry
open Transition

/-- The loop is about to enter a connection under the key. -/
def Socket.Opens (links : List Link) (key : String) : Socket → Prop
  | .dialing route => route.key = key
  | .dialed id => ∃ link ∈ links[id]?, link.key = key
  | _ => False

instance (links : List Link) (key : String) : ∀ socket : Socket, Decidable (socket.Opens links key)
  | .dialing route => inferInstanceAs (Decidable (route.key = key))
  | .dialed id => inferInstanceAs (Decidable (∃ link ∈ links[id]?, link.key = key))
  | .idle | .closing _ | .abandoning _ | .gone => isFalse not_false

def Socket.opening : Socket → Bool
  | .dialing _ | .dialed _ => true
  | _ => false

/-- The reader of the connection is reading or has to clean up. -/
def Link.Unfinished (link : Link) : Prop := ∃ reader ∈ link.reader, reader ≠ .finished

instance (link : Link) : Decidable link.Unfinished := inferInstanceAs (Decidable (∃ reader ∈ link.reader, reader ≠ .finished))

/-- A REQUEST comes while no other one of its key is under way, its connection is entered
after the readers of the key have cleaned up, and no heartbeat fails. -/
def InTurn (state : State) : Event → Prop
  | .request _ route => ∀ socket ∈ state.sockets, ¬ socket.Opens state.links route.key
  | .enter socket =>
    match state.sockets[socket]? with
    | some (.dialed id) => ∀ link ∈ state.links[id]?, ∀ other ∈ state.links, other.key = link.key → ¬ other.Unfinished
    | _ => True
  | .beat monitor _ =>
    match state.monitors[monitor]? with
    | some (.watching id) => ∀ link ∈ state.links[id]?, link.connection.closed = true
    | _ => True
  | _ => True

instance (state : State) : ∀ event, Decidable (InTurn state event)
  | .request _ route => inferInstanceAs (Decidable (∀ socket ∈ state.sockets, ¬ socket.Opens state.links route.key))
  | .enter socket => by
    unfold InTurn
    dsimp only
    split <;> infer_instance
  | .beat monitor _ => by
    unfold InTurn
    dsimp only
    split <;> infer_instance
  | .accept | .dialed .. | .close .. | .shut _ | .disconnect _ | .abandon _ | .leave _ | .cleanup _ | .unlist _ | .redialed .. |
    .reenter _ | .reassign _ | .stop _ => isTrue trivial

def Monitor.Idle (monitor : Monitor) : Prop := (∃ id, monitor = .watching id) ∨ monitor = .stopped

/-- At most one call of a key is under way, and only where the key has no entry. A reader
that has not cleaned up is that of the entry. -/
structure Turned (state : State) : Prop where
  alone : ∀ (place other : Nat) (first second : Socket) (key : String), state.sockets[place]? = some first →
    state.sockets[other]? = some second → first.Opens state.links key → second.Opens state.links key → place = other
  dialed : ∀ id, Socket.dialed id ∈ state.sockets → id < state.links.length
  missing : ∀ socket ∈ state.sockets, ∀ key, socket.Opens state.links key → state.connections key = none
  cleaned : ∀ (id : Nat) (link : Link), state.links[id]? = some link → link.Unfinished →
    ∀ other, state.connections link.key = some other → other = id
  shut : ∀ link ∈ state.links, link.reader = some .unlisting → link.connection.wsOpen = false
  monitors : ∀ monitor ∈ state.monitors, monitor.Idle

variable {state next : State} {id socket monitor : Nat}

/-- A call under way opens the key that it did before the connections changed. -/
theorem Socket.Opens.earlier {before links : List Link} {key : String} {phase : Socket} (opened : phase.Opens links key)
    (was : ∀ id, phase = .dialed id → ∀ link ∈ links[id]?, ∃ old ∈ before[id]?, old.key = link.key) : phase.Opens before key := by
  cases phase with
  | dialed id =>
    obtain ⟨link, there, named⟩ := opened
    obtain ⟨old, found, same⟩ := was id rfl link there
    exact ⟨old, found, same.trans named⟩
  | dialing => exact opened
  | _ => exact opened.elim

/-- What has been dialled has its key, and what has ended stays ended. -/
structure Link.Follows (old new : Link) : Prop where
  key : old.key = new.key
  unfinished : new.Unfinished → old.Unfinished
  shut : new.reader = some .unlisting → new.connection.wsOpen = false

theorem Turned.same (turned : Turned state) {id : Nat} {link : Link} (found : state.links[id]? = some link) : link.Follows link :=
  ⟨rfl, fun unfinished => unfinished, turned.shut link (List.mem_of_getElem? found)⟩

theorem Turned.set_links (turned : Turned state) {old new : Link} (found : state.links[id]? = some old) (follows : old.Follows new) {other : Nat}
    {link : Link} (stored : (state.links.set id new)[other]? = some link) :
    ∃ before, state.links[other]? = some before ∧ before.Follows link := by
  rcases set_cases stored with ⟨rfl, rfl⟩ | ⟨_, there⟩
  · exact ⟨old, found, follows⟩
  · exact ⟨link, there, turned.same there⟩

theorem Turned.keep (turned : Turned state) (entries : ∀ key id, next.connections key = some id → state.connections key = some id)
    (links : ∀ (id : Nat) (link : Link), next.links[id]? = some link →
      link.reader = none ∨ ∃ old : Link, state.links[id]? = some old ∧ old.Follows link)
    (dialed : ∀ id, Socket.dialed id ∈ next.sockets → id < next.links.length)
    (opens : ∀ (place : Nat) (socket : Socket) key, next.sockets[place]? = some socket → socket.Opens next.links key →
      ∃ old : Socket, state.sockets[place]? = some old ∧ old.Opens state.links key)
    (monitors : ∀ monitor ∈ next.monitors, monitor.Idle) : Turned next where
  alone place other first second key one two here there := by
    obtain ⟨old, before, opened⟩ := opens place first key one here
    obtain ⟨old', before', opened'⟩ := opens other second key two there
    exact turned.alone place other old old' key before before' opened opened'
  dialed := dialed
  missing socket member key opened := by
    obtain ⟨place, inside, rfl⟩ := List.getElem_of_mem member
    obtain ⟨old, before, opened⟩ := opens place _ key (List.getElem?_eq_getElem inside) opened
    have none := turned.missing old (List.mem_of_getElem? before) key opened
    cases entry : next.connections key with
    | none => rfl
    | some other => cases none.symm.trans (entries key other entry)
  cleaned id link found unfinished other entry := by
    rcases links id link found with unread | ⟨old, before, follows⟩
    · obtain ⟨reader, same, _⟩ := unfinished
      cases unread.symm.trans same
    · refine turned.cleaned id old before (follows.unfinished unfinished) other ?_
      rw [follows.key]
      exact entries link.key other entry
  shut link member unlisting := by
    obtain ⟨id, inside, rfl⟩ := List.getElem_of_mem member
    rcases links id _ (List.getElem?_eq_getElem inside) with unread | ⟨_, _, follows⟩
    · cases unread.symm.trans unlisting
    · exact follows.shut unlisting
  monitors := monitors

theorem Turned.free (turned : Turned state) (entries : ∀ key id, next.connections key = some id → state.connections key = some id)
    (links : ∀ (id : Nat) (link : Link), next.links[id]? = some link → ∃ old : Link, state.links[id]? = some old ∧ old.Follows link)
    (length : next.links.length = state.links.length)
    (sockets : ∀ (place : Nat) (socket : Socket), next.sockets[place]? = some socket → state.sockets[place]? = some socket ∨ socket.opening = false)
    (monitors : ∀ monitor ∈ next.monitors, monitor.Idle) : Turned next := by
  refine turned.keep entries (fun id link found => .inr (links id link found)) ?_ ?_ monitors
  · intro id member
    obtain ⟨place, found⟩ := List.mem_iff_getElem?.mp member
    rcases sockets place _ found with before | idle
    · rw [length]
      exact turned.dialed id (List.mem_of_getElem? before)
    · cases idle
  · intro place socket key found opened
    rcases sockets place socket found with before | idle
    · refine ⟨socket, before, opened.earlier fun id _ link there => ?_⟩
      obtain ⟨old, was, follows⟩ := links id link there
      exact ⟨old, was, follows.key⟩
    · cases socket <;> first | exact opened.elim | cases idle

theorem set_phase {sockets : List Socket} {place : Nat} {phase found : Socket} (idle : phase.opening = false)
    (stored : (sockets.set socket phase)[place]? = some found) : sockets[place]? = some found ∨ found.opening = false := by
  rcases set_cases stored with ⟨_, rfl⟩ | ⟨_, before⟩
  · exact .inr idle
  · exact .inl before

theorem Turned.phase {connections : String → Option Nat} {phase : Socket} (turned : Turned state) (idle : phase.opening = false)
    (entries : ∀ key id, connections key = some id → state.connections key = some id) :
    Turned (State.setSocket socket phase { state with connections }) :=
  turned.free entries (fun _ link found => ⟨link, found, turned.same found⟩) rfl (fun _ _ stored => set_phase idle stored) turned.monitors

theorem Turned.changes {old new : Link} {phase : Socket} (turned : Turned state) (found : state.links[id]? = some old)
    (follows : old.Follows new) (idle : phase.opening = false) : Turned ((state.setLink id new).setSocket socket phase) :=
  turned.free (fun _ _ entry => entry) (fun _ _ stored => turned.set_links found follows stored) List.length_set
    (fun _ _ stored => set_phase idle stored) turned.monitors

theorem Turned.reader {old new : Link} {connections : String → Option Nat} (turned : Turned state) (found : state.links[id]? = some old)
    (follows : old.Follows new) (entries : ∀ key id, connections key = some id → state.connections key = some id) :
    Turned (State.setLink id new { state with connections }) :=
  turned.free entries (fun _ _ stored => turned.set_links found follows stored) List.length_set (fun _ _ stored => .inl stored) turned.monitors

theorem Turned.stop (turned : Turned state) : Turned (state.setMonitor monitor .stopped) := by
  refine turned.free (fun _ _ entry => entry) (fun _ link found => ⟨link, found, turned.same found⟩) rfl (fun _ _ stored => .inl stored) ?_
  intro phase member
  rcases List.mem_or_eq_of_mem_set member with old | rfl
  · exact turned.monitors phase old
  · exact .inr rfl

theorem erased {connections : String → Option Nat} {key name : String} {id : Nat} (entry : Function.update connections key none name = some id) :
    connections name = some id := by
  by_cases same : name = key
  · rw [same, Function.update_self] at entry
    cases entry
  · rwa [Function.update_of_ne same] at entry

theorem Turned.accept (turned : Turned state) : Turned { state with sockets := state.sockets ++ [.idle] } := by
  refine turned.free (fun _ _ entry => entry) (fun _ link found => ⟨link, found, turned.same found⟩) rfl ?_ turned.monitors
  intro place phase stored
  rcases Nat.lt_or_ge place state.sockets.length with inside | outside
  · exact .inl ((List.getElem?_append_left inside).symm.trans stored)
  · rw [List.getElem?_append_right outside] at stored
    cases List.mem_singleton.mp (List.mem_of_getElem? stored)
    exact .inr rfl

theorem Turned.request {route : Route} (turned : Turned state)
    (alone : ∀ other ∈ state.sockets, ¬ other.Opens state.links route.key) (missing : state.connections route.key = none) :
    Turned (state.setSocket socket (.dialing route)) where
  alone place other first second key one two here there := by
    rcases set_cases one with ⟨rfl, rfl⟩ | ⟨_, before⟩ <;> rcases set_cases two with ⟨rfl, rfl⟩ | ⟨_, before'⟩
    · rfl
    · obtain rfl : route.key = key := here
      exact absurd there (alone second (List.mem_of_getElem? before'))
    · obtain rfl : route.key = key := there
      exact absurd here (alone first (List.mem_of_getElem? before))
    · exact turned.alone place other first second key before before' here there
  dialed id member := by
    rcases List.mem_or_eq_of_mem_set member with old | new
    · exact turned.dialed id old
    · cases new
  missing phase member key opened := by
    rcases List.mem_or_eq_of_mem_set member with old | rfl
    · exact turned.missing phase old key opened
    · obtain rfl : route.key = key := opened
      exact missing
  cleaned := turned.cleaned
  shut := turned.shut
  monitors := turned.monitors

theorem Turned.dial {route : Route} (turned : Turned state) (found : state.sockets[socket]? = some (.dialing route)) :
    Turned ((dial route (some socket) state).setSocket socket (.dialed state.links.length)) := by
  have grown : (Registry.dial route (some socket) state).links.length = state.links.length + 1 := List.length_append
  refine turned.keep (fun _ _ entry => entry) ?_ ?_ ?_ turned.monitors
  · intro id link stored
    rcases dial_links stored with before | rfl
    · exact .inr ⟨link, before, turned.same before⟩
    · cases List.getElem?_concat_length.symm.trans stored
      exact .inl rfl
  · intro id member
    rcases List.mem_or_eq_of_mem_set member with old | new
    · exact grown ▸ Nat.lt_succ_of_lt (turned.dialed id old)
    · cases new
      exact grown ▸ Nat.lt_succ_self _
  · intro place phase key stored opened
    rcases set_cases stored with ⟨rfl, rfl⟩ | ⟨_, before⟩
    · obtain ⟨link, there, named⟩ := opened
      cases List.getElem?_concat_length.symm.trans there
      exact ⟨.dialing route, found, named⟩
    · refine ⟨phase, before, opened.earlier ?_⟩
      rintro id rfl link there
      have inside := turned.dialed id (List.mem_of_getElem? before)
      exact ⟨link, (List.getElem?_append_left inside).symm.trans there, rfl⟩

theorem Turned.enter {link : Link} (turned : Turned state) (found : state.sockets[socket]? = some (.dialed id))
    (there : state.links[id]? = some link) (clean : ∀ other ∈ state.links, other.key = link.key → ¬ other.Unfinished) :
    Turned ((enter id link (some .reading) state).setSocket socket .idle) := by
  have earlier : ∀ place phase key, ((Registry.enter id link (some .reading) state).setSocket socket .idle).sockets[place]? = some phase →
      phase.Opens (state.links.set id { link with reader := some .reading }) key →
      place ≠ socket ∧ state.sockets[place]? = some phase ∧ phase.Opens state.links key := by
    intro place phase key stored opened
    have before : phase.Opens state.links key := by
      apply opened.earlier
      intro other _ new inside
      rcases set_cases inside with ⟨rfl, rfl⟩ | ⟨_, old⟩
      · exact ⟨link, there, rfl⟩
      · exact ⟨new, old, rfl⟩
    rcases set_cases stored with ⟨_, rfl⟩ | ⟨apart, was⟩
    · exact opened.elim
    · exact ⟨apart, was, before⟩
  have named : (Socket.dialed id).Opens state.links link.key := ⟨link, there, rfl⟩
  refine ⟨?_, ?_, ?_, ?_, ?_, ?_⟩
  · intro place other first second key one two here there
    obtain ⟨_, one, here⟩ := earlier place first key one here
    obtain ⟨_, two, there⟩ := earlier other second key two there
    exact turned.alone place other first second key one two here there
  · intro other member
    rw [show ((Registry.enter id link (some .reading) state).setSocket socket .idle).links.length = state.links.length from List.length_set]
    rcases List.mem_or_eq_of_mem_set member with old | new
    · exact turned.dialed other old
    · cases new
  · intro phase member key opened
    obtain ⟨place, stored⟩ := List.mem_iff_getElem?.mp member
    obtain ⟨apart, was, before⟩ := earlier place phase key stored opened
    have other : key ≠ link.key := by
      rintro rfl
      exact apart (turned.alone place socket phase _ _ was found before named)
    exact (Function.update_of_ne other ..).trans (turned.missing phase (List.mem_of_getElem? was) key before)
  · intro other new inside unfinished entry listed
    rcases set_cases inside with ⟨rfl, rfl⟩ | ⟨apart, old⟩
    · have entered : (Registry.enter other link (some .reading) state).connections link.key = some other := Function.update_self ..
      exact Option.some.inj (listed.symm.trans entered)
    · have key : new.key ≠ link.key := fun same => clean new (List.mem_of_getElem? old) same unfinished
      exact turned.cleaned other new old unfinished entry ((Function.update_of_ne key ..).symm.trans listed)
  · intro new member unlisting
    rcases List.mem_or_eq_of_mem_set member with old | rfl
    · exact turned.shut new old unlisting
    · cases unlisting
  · intro phase member
    rcases List.mem_append.mp member with old | new
    · exact turned.monitors phase old
    · exact .inl ⟨id, List.mem_singleton.mp new⟩

theorem turned_step {event : Event} (base : Base state) (turned : Turned state) (turn : InTurn state event)
    (taken : step state event = some next) : Turned next := by
  have before : ∀ {id : Nat} {link : Link}, state.links[id]? = some link → link.Sound :=
    fun found => base.sound _ (List.mem_of_getElem? found)
  cases event with
  | accept =>
    cases taken
    exact turned.accept
  | request socket route =>
    simp only [step] at taken
    split at taken
    next idle =>
      split at taken
      next =>
        cases taken
        exact turned
      next missing =>
        cases taken
        exact turned.request turn missing
    next => cases taken
  | dialed socket works =>
    simp only [step] at taken
    split at taken
    next route dialing =>
      cases taken
      cases works with
      | true => exact turned.dial dialing
      | false => exact turned.phase rfl fun _ _ entry => entry
    next => cases taken
  | enter socket =>
    simp only [step] at taken
    split at taken
    next id dialed =>
      obtain ⟨link, there, rfl⟩ := Option.map_eq_some_iff.mp taken
      simp only [InTurn, dialed] at turn
      exact turned.enter dialed there (turn link there)
    next => cases taken
  | close socket clusterID path userID =>
    simp only [step] at taken
    split at taken
    next idle =>
      split at taken
      next =>
        cases taken
        exact turned
      next id entry =>
        cases taken
        exact turned.phase rfl fun _ _ listed => erased listed
    next => cases taken
  | shut socket =>
    simp only [step] at taken
    split at taken
    next id closing =>
      obtain ⟨link, there, rfl⟩ := Option.map_eq_some_iff.mp taken
      have shut := shutLink_shut (before there)
      exact turned.changes there ⟨(shutLink_key link).symm, fun unfinished => unfinished, fun _ => shut⟩ rfl
    next => cases taken
  | disconnect socket =>
    simp only [step] at taken
    split at taken
    next idle =>
      cases taken
      exact turned.phase rfl fun _ _ entry => (Option.filter_eq_some_iff.mp entry).1
    next => cases taken
  | abandon socket =>
    simp only [step] at taken
    split at taken
    next abandoning =>
      cases taken
      exact turned.phase rfl fun _ _ entry => entry
    next id rest abandoning =>
      obtain ⟨link, there, rfl⟩ := Option.map_eq_some_iff.mp taken
      have shut := abandon_shut (before there)
      exact turned.changes there ⟨congrArg Route.key (abandon_route _).symm, fun unfinished => unfinished, fun _ => shut⟩ rfl
    next => cases taken
  | leave id =>
    simp only [step] at taken
    split at taken
    next connection there =>
      cases taken
      exact turned.reader there ⟨rfl, fun _ => ⟨.reading, rfl, by decide⟩, fun same => by cases same⟩ fun _ _ entry => entry
    next => cases taken
  | cleanup id =>
    simp only [step] at taken
    split at taken
    next connection there =>
      cases taken
      have follows : Link.Follows ⟨connection, some .leaving⟩ (cleanupLink ⟨connection, some .leaving⟩) :=
        ⟨(cleanupLink_key _).symm, fun _ => ⟨.leaving, rfl, by decide⟩, fun _ => cleanupLink_shut (before there)⟩
      exact turned.reader there follows fun _ _ entry => entry
    next => cases taken
  | unlist id =>
    simp only [step] at taken
    split at taken
    next connection there =>
      cases taken
      exact turned.reader there ⟨rfl, fun _ => ⟨.unlisting, rfl, by decide⟩, fun same => by cases same⟩ fun _ _ entry => erased entry
    next => cases taken
  | beat monitor err =>
    simp only [step] at taken
    split at taken
    next id watching =>
      obtain ⟨link, there, rfl⟩ := Option.map_eq_some_iff.mp taken
      simp only [InTurn, watching] at turn
      rw [if_pos (turn link there)]
      exact turned
    next => cases taken
  | redialed monitor works =>
    simp only [step] at taken
    split at taken
    next redialing =>
      rcases turned.monitors _ (List.mem_of_getElem? redialing) with ⟨_, other⟩ | other <;> cases other
    next => cases taken
  | reenter monitor =>
    simp only [step] at taken
    split at taken
    next redialed =>
      rcases turned.monitors _ (List.mem_of_getElem? redialed) with ⟨_, other⟩ | other <;> cases other
    next => cases taken
  | reassign monitor =>
    simp only [step] at taken
    split at taken
    next entered =>
      rcases turned.monitors _ (List.mem_of_getElem? entered) with ⟨_, other⟩ | other <;> cases other
    next => cases taken
  | stop monitor =>
    simp only [step] at taken
    split at taken
    next id watching =>
      split at taken
      next closed =>
        cases taken
        exact turned.stop
      next => cases taken
    next => cases taken

/-- The look-up has found no entry, and since then no other call has entered one. -/
theorem spares_of_turned {event : Event} (turned : Turned state) (taken : step state event = some next) : Spares state event := by
  rintro ⟨id, entry⟩ writes link there other held apart ⟨⟨found, stored, live⟩, _⟩
  cases event with
  | enter socket =>
    simp only [written] at writes
    split at writes
    next _ dialed =>
      cases writes
      have missing := turned.missing _ (List.mem_of_getElem? dialed) link.key ⟨link, there, rfl⟩
      cases missing.symm.trans held
    next => cases writes
  | reenter monitor =>
    simp only [written] at writes
    split at writes
    next redialed =>
      rcases turned.monitors _ (List.mem_of_getElem? redialed) with ⟨_, other⟩ | other <;> cases other
    next => cases writes
  | reassign monitor =>
    simp only [written] at writes
    split at writes
    next entered =>
      rcases turned.monitors _ (List.mem_of_getElem? entered) with ⟨_, other⟩ | other <;> cases other
    next => cases writes
  | unlist id =>
    cases writes
    simp only [step] at taken
    split at taken
    next connection unlisting =>
      cases there.symm.trans unlisting
      obtain rfl := turned.cleaned id _ unlisting ⟨.unlisting, rfl, by decide⟩ other held
      cases stored.symm.trans unlisting
      exact absurd live (Bool.eq_false_iff.mp (turned.shut _ (List.mem_of_getElem? unlisting) rfl))
    next => cases taken
  | _ => cases writes

theorem turned_initial : Turned initial :=
  ⟨(fun _ _ _ _ _ one => by cases one), nofun, nofun, (fun _ _ found => by cases found), nofun, nofun⟩

/-- In a run whose calls take turns, each live connection is the only one of its key and
the entry of it, after every step. -/
theorem tidy_in_turn {events : List Event} {last : State} (ran : run step initial events = some last)
    (turns : Meets step InTurn initial events) : Tidy last := by
  have kept : Base last ∧ Turned last ∧ Tidy last := by
    refine invariant (fun state => Base state ∧ Turned state ∧ Tidy state) ?_ ?_ turns ran
    · rintro state event next ⟨base, turned, tidy⟩ turn taken
      have steps := step_keeps base taken
      exact ⟨steps.1, turned_step base turned turn taken, tidy_iff.mpr (steps.2 (tidy_iff.mp tidy) (spares_of_turned turned taken))⟩
    · exact ⟨base_initial, turned_initial, tidy_iff.mpr nofun⟩
  exact kept.2.2

private def watched : Route := ⟨"prod", "/api/v1/pods", "watch=true", "alice"⟩

/-- A second client finds the entry. After a CLOSE the stream is asked for again, and
dialled while the first reader ends. -/
private def alternating : List Event :=
  [.accept, .accept, .request 0 watched, .dialed 0 true, .enter 0, .request 1 watched,
    .close 0 watched.clusterID watched.path watched.userID, .shut 0, .request 1 watched, .leave 0, .dialed 1 true, .cleanup 0,
    .unlist 0, .stop 0, .enter 1, .request 0 watched]

theorem alternating_tidy : ∃ last, run step initial alternating = some last ∧ Tidy last :=
  ⟨_, rfl, tidy_in_turn (show run step initial alternating = some _ from rfl) (by decide)⟩

end K8Sense.Multiplexer.Registry
