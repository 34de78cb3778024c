import K8Sense.Library.Transition
import Mathlib.Data.List.Nodup
import Mathlib.Logic.Function.Basic

/-! The websockets that components share by the address that they watch. One component
opens the socket of an address and others that come later find it in a map. -/

namespace K8Sense.Frontend.SharedSockets
open Transition

/-- `onMessage` says which function it is. -/
structure Connection where
  cluster : String
  url : String
  onMessage : Nat
deriving DecidableEq

def connectionKey (connection : Connection) : String := connection.cluster ++ connection.url

inductive Entry where
  | pending
  | socket (id : Nat)
deriving DecidableEq

/-- A connection of a component whose effect has run and has not been cleaned up. -/
structure Mount where
  component : Nat
  connection : Connection
deriving DecidableEq

def keyOf (mount : Mount) : String := connectionKey mount.connection

/-- A call of `openWebSocket` on its way. -/
structure Opening where
  id : Nat
  mount : Mount
deriving DecidableEq

/-- A socket calls the function with which it was opened. -/
structure Socket where
  id : Nat
  connection : Connection
deriving DecidableEq

/-- The two maps, and what else there is: the mounted connections, the openings on their
way and the open sockets. `closed` is history: the sockets that have been closed, with the
connections that were mounted then. -/
structure State where
  sockets : String → Option Entry
  listeners : String → List Nat
  mounted : List Mount
  openings : List Opening
  websockets : List Socket
  closed : List (Socket × List Mount)
  next : Nat

def start : State := ⟨fun _ => none, fun _ => [], [], [], [], [], 0⟩

inductive Event where
  | mount (connections : List Connection)
  | unmount (component : Nat)
  | opened (id : Nat)

def connect (component : Nat) (state : State) (connection : Connection) : State :=
  let key := connectionKey connection
  let state := { state with mounted := state.mounted ++ [Mount.mk component connection] }
  if (state.sockets key).isSome then state
  else { state with
    listeners := Function.update state.listeners key (state.listeners key ++ [connection.onMessage])
    sockets := Function.update state.sockets key (some .pending)
    openings := state.openings ++ [Opening.mk state.next ⟨component, connection⟩]
    next := state.next + 1 }

def close (state : State) (id component : Nat) : State := { state with
  websockets := state.websockets.filter (·.id ≠ id)
  closed := (state.websockets.filter (·.id = id)).map (fun socket => (socket, state.mounted.filter (·.component ≠ component))) ++
    state.closed }

/-- What `connect` returns for the cleanup. -/
def disconnect (state : State) (mount : Mount) : State :=
  let key := keyOf mount
  let newListeners := (state.listeners key).filter (· ≠ mount.connection.onMessage)
  let state := { state with
    mounted := state.mounted.filter (· ≠ mount)
    listeners := Function.update state.listeners key newListeners }
  if newListeners = [] then
    match state.sockets key with
    | none => state
    | some .pending => { state with sockets := Function.update state.sockets key none }
    | some (.socket id) => { close state id mount.component with sockets := Function.update state.sockets key none }
  else state

/-- The effect that made the call has not been cleaned up. -/
def isCurrent (state : State) (opening : Opening) : Bool := opening.mount ∈ state.mounted

def opened (state : State) (opening : Opening) : State :=
  let key := keyOf opening.mount
  let ws : Socket := ⟨opening.id, opening.mount.connection⟩
  let state := { state with openings := state.openings.filter (· ≠ opening) }
  if isCurrent state opening then
    { state with websockets := state.websockets ++ [ws], sockets := Function.update state.sockets key (some (.socket ws.id)) }
  else { state with closed := (ws, state.mounted) :: state.closed, sockets := Function.update state.sockets key none }

def step (state : State) : Event → Option State
  | .mount connections => some (connections.foldl (connect state.next) { state with next := state.next + 1 })
  | .unmount component => some ((state.mounted.filter (·.component = component)).foldl disconnect state)
  | .opened id => (state.openings.find? (·.id = id)).map (opened state)

/-- The connections are for the same address. -/
def Same (connection other : Connection) : Prop := connection.cluster = other.cluster ∧ connection.url = other.url

/-- A message of the address reaches the function of the connection as soon as there is a
socket for it, and one is there or on its way. -/
def Receives (state : State) (connection : Connection) : Prop :=
  (∃ socket ∈ state.websockets, Same socket.connection connection ∧ socket.connection.onMessage = connection.onMessage) ∨
    ((∀ socket ∈ state.websockets, ¬Same socket.connection connection) ∧
      ∃ opening ∈ state.openings, isCurrent state opening = true ∧ Same opening.mount.connection connection)

structure Shared (state : State) : Prop where
  receives : ∀ mount ∈ state.mounted, Receives state mount.connection
  closed : ∀ entry ∈ state.closed, ∀ mount ∈ entry.2, ¬Same entry.1.connection mount.connection
  kept : ∀ socket ∈ state.websockets, ∃ mount ∈ state.mounted, Same socket.connection mount.connection

/-- No connection joins what is in the map, and an opening whose component is gone is not
overtaken by another one. -/
def Apart (state : State) : Event → Prop
  | .mount connections => (connections.map connectionKey).Nodup ∧
      ∀ connection ∈ connections, state.sockets (connectionKey connection) = none
  | .unmount _ => True
  | .opened id => ∀ opening ∈ state.openings, opening.id = id → isCurrent state opening = false →
      state.sockets (keyOf opening.mount) = none

instance (connection other : Connection) : Decidable (Same connection other) := inferInstanceAs (Decidable (_ ∧ _))

instance (state : State) (connection : Connection) : Decidable (Receives state connection) := inferInstanceAs (Decidable (_ ∨ _))

instance (state : State) : (event : Event) → Decidable (Apart state event)
  | .mount _ => inferInstanceAs (Decidable (_ ∧ _))
  | .unmount _ => inferInstanceAs (Decidable True)
  | .opened id => inferInstanceAs (Decidable (∀ opening ∈ state.openings, opening.id = id → isCurrent state opening = false →
      state.sockets (keyOf opening.mount) = none))

/-- A mounted connection has the entry of its key to itself. -/
structure Inv (state : State) : Prop where
  served : ∀ mount ∈ state.mounted,
    (state.sockets (keyOf mount) = some .pending ∧ ∃ opening ∈ state.openings, opening.mount = mount) ∨
      ∃ id, state.sockets (keyOf mount) = some (.socket id) ∧ ⟨id, mount.connection⟩ ∈ state.websockets
  used : ∀ key, state.sockets key ≠ none → ∃ mount ∈ state.mounted, keyOf mount = key
  single : (state.mounted.map keyOf).Nodup
  openers : ∀ opening ∈ state.openings, opening.mount ∈ state.mounted → state.sockets (keyOf opening.mount) = some .pending
  once : ∀ opening ∈ state.openings, ∀ other ∈ state.openings, opening.mount = other.mount ∨ opening.id = other.id → opening = other
  websockets : ∀ socket ∈ state.websockets, state.sockets (connectionKey socket.connection) = some (.socket socket.id)
  ids : ∀ socket ∈ state.websockets, ∀ other ∈ state.websockets, socket.id = other.id → socket = other
  apart : ∀ opening ∈ state.openings, ∀ socket ∈ state.websockets, opening.id ≠ socket.id
  fresh : (∀ opening ∈ state.openings, opening.id < state.next ∧ opening.mount.component < state.next) ∧
    ∀ socket ∈ state.websockets, socket.id < state.next
  heard : ∀ mount ∈ state.mounted, state.listeners (keyOf mount) = [mount.connection.onMessage]
  silent : ∀ key, state.sockets key = none → state.listeners key = []
  closed : ∀ entry ∈ state.closed, ∀ mount ∈ entry.2, ¬Same entry.1.connection mount.connection

theorem key_of_same {connection other : Connection} (same : Same connection other) : connectionKey connection = connectionKey other := by
  rw [connectionKey, connectionKey, same.1, same.2]

theorem start_inv : Inv start := by
  constructor <;> simp [start]

theorem shared_of_inv {state : State} (inv : Inv state) : Shared state := by
  refine ⟨?_, inv.closed, ?_⟩
  · intro mount member
    rcases inv.served mount member with ⟨pending, opening, inside, rfl⟩ | ⟨id, entry, inside⟩
    · refine Or.inr ⟨?_, opening, inside, decide_eq_true member, rfl, rfl⟩
      intro socket found same
      have entry := inv.websockets socket found
      rw [key_of_same same] at entry
      cases pending.symm.trans entry
    · exact Or.inl ⟨_, inside, ⟨rfl, rfl⟩, rfl⟩
  · intro socket found
    have entry := inv.websockets socket found
    obtain ⟨mount, member, key⟩ := inv.used _ (by rw [entry]; simp)
    rcases inv.served mount member with ⟨pending, _⟩ | ⟨id, there, inside⟩
    · rw [key, entry] at pending
      cases pending
    · rw [key, entry, Option.some.injEq, Entry.socket.injEq] at there
      have whole := inv.ids socket found _ inside there
      exact ⟨mount, member, by rw [whole]; exact ⟨rfl, rfl⟩⟩

section
variable {state : State}

theorem mount_of_key (inv : Inv state) {mount other : Mount} (member : mount ∈ state.mounted) (there : other ∈ state.mounted)
    (key : keyOf mount = keyOf other) : mount = other := List.inj_on_of_nodup_map inv.single member there key

theorem entry_of_mounted (inv : Inv state) {mount : Mount} (member : mount ∈ state.mounted) : state.sockets (keyOf mount) ≠ none := by
  rcases inv.served mount member with ⟨entry, _⟩ | ⟨id, entry, _⟩ <;> simp [entry]

theorem connect_inv (inv : Inv state) {component : Nat} {connection : Connection}
    (free : state.sockets (connectionKey connection) = none) (known : component < state.next)
    (unopened : ∀ opening ∈ state.openings, opening.mount ≠ ⟨component, connection⟩) : Inv (connect component state connection) := by
  have other (mount : Mount) (member : mount ∈ state.mounted) : keyOf mount ≠ connectionKey connection := by
    intro key
    exact entry_of_mounted inv member (key ▸ free)
  have otherSocket (socket : Socket) (member : socket ∈ state.websockets) :
      connectionKey socket.connection ≠ connectionKey connection := by
    intro key
    have entry := inv.websockets socket member
    rw [key, free] at entry
    cases entry
  rw [connect]
  simp only [free, Option.isSome_none, Bool.false_eq_true, if_false]
  refine ⟨?_, ?_, ?_, ?_, ?_, ?_, inv.ids, ?_, ?_, ?_, ?_, inv.closed⟩
  all_goals dsimp only
  · intro mount member
    rcases List.mem_append.mp member with old | new
    · rw [Function.update_of_ne (other mount old)]
      rcases inv.served mount old with ⟨entry, opening, inside, same⟩ | found
      · exact Or.inl ⟨entry, opening, List.mem_append_left _ inside, same⟩
      · exact Or.inr found
    · obtain rfl := List.mem_singleton.mp new
      exact Or.inl ⟨Function.update_self .., _, List.mem_append_right _ (List.mem_singleton.mpr rfl), rfl⟩
  · intro key entry
    by_cases same : key = connectionKey connection
    · exact ⟨⟨component, connection⟩, by simp, same.symm⟩
    · rw [Function.update_of_ne same] at entry
      obtain ⟨mount, member, found⟩ := inv.used key entry
      exact ⟨mount, List.mem_append_left _ member, found⟩
  · rw [List.map_append, List.nodup_append]
    refine ⟨inv.single, List.nodup_singleton _, ?_⟩
    intro key inside new member same
    obtain ⟨mount, there, rfl⟩ := List.mem_map.mp inside
    rw [List.map_singleton, List.mem_singleton] at member
    exact other mount there (same.trans member)
  · intro opening inside member
    rcases List.mem_append.mp inside with old | new
    · rcases List.mem_append.mp member with mounted | same
      · rw [Function.update_of_ne (other _ mounted)]
        exact inv.openers opening old mounted
      · exact absurd (List.mem_singleton.mp same) (unopened opening old)
    · obtain rfl := List.mem_singleton.mp new
      exact Function.update_self ..
  · intro first inside second there same
    have differs (old : Opening) (present : old ∈ state.openings) : old.mount ≠ ⟨component, connection⟩ ∧ old.id ≠ state.next :=
      ⟨unopened old present, Nat.ne_of_lt (inv.fresh.1 old present).1⟩
    rcases List.mem_append.mp inside with old | new
    · rcases List.mem_append.mp there with alsoOld | alsoNew
      · exact inv.once first old second alsoOld same
      · obtain rfl := List.mem_singleton.mp alsoNew
        exact absurd same (not_or.mpr (differs first old))
    · obtain rfl := List.mem_singleton.mp new
      rcases List.mem_append.mp there with alsoOld | alsoNew
      · exact absurd (same.imp Eq.symm Eq.symm) (not_or.mpr (differs second alsoOld))
      · exact (List.mem_singleton.mp alsoNew).symm
  · intro socket member
    rw [Function.update_of_ne (otherSocket socket member)]
    exact inv.websockets socket member
  · intro opening inside socket member
    rcases List.mem_append.mp inside with old | new
    · exact inv.apart opening old socket member
    · obtain rfl := List.mem_singleton.mp new
      exact (Nat.ne_of_lt (inv.fresh.2 socket member)).symm
  · constructor
    · intro opening inside
      rcases List.mem_append.mp inside with old | new
      · have bound := inv.fresh.1 opening old
        exact ⟨Nat.lt_succ_of_lt bound.1, Nat.lt_succ_of_lt bound.2⟩
      · obtain rfl := List.mem_singleton.mp new
        exact ⟨Nat.lt_succ_self _, Nat.lt_succ_of_lt known⟩
    · intro socket member
      exact Nat.lt_succ_of_lt (inv.fresh.2 socket member)
  · intro mount member
    rcases List.mem_append.mp member with old | new
    · rw [Function.update_of_ne (other mount old)]
      exact inv.heard mount old
    · obtain rfl := List.mem_singleton.mp new
      rw [keyOf, Function.update_self, inv.silent _ free, List.nil_append]
  · intro key entry
    by_cases same : key = connectionKey connection
    · rw [same, Function.update_self] at entry
      cases entry
    · rw [Function.update_of_ne same] at entry ⊢
      exact inv.silent key entry

theorem released_inv (inv : Inv state) {mount : Mount} (member : mount ∈ state.mounted) {websockets : List Socket}
    {closed : List (Socket × List Mount)}
    (left : ∀ socket, socket ∈ websockets ↔ socket ∈ state.websockets ∧ connectionKey socket.connection ≠ keyOf mount)
    (fine : ∀ entry ∈ closed, ∀ mount ∈ entry.2, ¬Same entry.1.connection mount.connection) :
    Inv { state with
      mounted := state.mounted.filter (· ≠ mount)
      listeners := Function.update state.listeners (keyOf mount) []
      sockets := Function.update state.sockets (keyOf mount) none
      websockets := websockets
      closed := closed } := by
  have others (other : Mount) (kept : other ∈ state.mounted.filter (· ≠ mount)) : other ∈ state.mounted ∧ keyOf other ≠ keyOf mount := by
    obtain ⟨there, differs⟩ := List.mem_filter.mp kept
    refine ⟨there, fun key => ?_⟩
    rw [mount_of_key inv there member key] at differs
    simp at differs
  refine ⟨?_, ?_, ?_, ?_, inv.once, ?_, ?_, ?_, ?_, ?_, ?_, fine⟩
  all_goals dsimp only
  · intro other kept
    obtain ⟨there, key⟩ := others other kept
    rw [Function.update_of_ne key]
    rcases inv.served other there with found | ⟨id, entry, inside⟩
    · exact Or.inl found
    · exact Or.inr ⟨id, entry, (left _).mpr ⟨inside, key⟩⟩
  · intro key entry
    by_cases same : key = keyOf mount
    · simp [same] at entry
    · rw [Function.update_of_ne same] at entry
      obtain ⟨other, there, found⟩ := inv.used key entry
      refine ⟨other, List.mem_filter.mpr ⟨there, ?_⟩, found⟩
      apply decide_eq_true
      rintro rfl
      exact same found.symm
  · exact inv.single.sublist (List.filter_sublist.map keyOf)
  · intro opening inside kept
    obtain ⟨there, key⟩ := others _ kept
    rw [Function.update_of_ne key]
    exact inv.openers opening inside there
  · intro socket inside
    obtain ⟨there, key⟩ := (left socket).mp inside
    rw [Function.update_of_ne key]
    exact inv.websockets socket there
  · intro socket inside other there
    exact inv.ids socket ((left socket).mp inside).1 other ((left other).mp there).1
  · intro opening inside socket there
    exact inv.apart opening inside socket ((left socket).mp there).1
  · exact ⟨inv.fresh.1, fun socket inside => inv.fresh.2 socket ((left socket).mp inside).1⟩
  · intro other kept
    obtain ⟨there, key⟩ := others other kept
    rw [Function.update_of_ne key]
    exact inv.heard other there
  · intro key entry
    by_cases same : key = keyOf mount
    · rw [same, Function.update_self]
    · rw [Function.update_of_ne same] at entry ⊢
      exact inv.silent key entry

theorem disconnect_inv (inv : Inv state) {mount : Mount} (member : mount ∈ state.mounted) : Inv (disconnect state mount) := by
  have alone : (state.listeners (keyOf mount)).filter (· ≠ mount.connection.onMessage) = [] := by
    simp [inv.heard mount member]
  rcases inv.served mount member with ⟨entry, _⟩ | ⟨id, entry, inside⟩
  · simp only [disconnect, alone, if_true, entry]
    apply released_inv inv member
    · intro socket
      refine ⟨fun there => ⟨there, ?_⟩, And.left⟩
      intro same
      have found := inv.websockets socket there
      rw [same, entry] at found
      cases found
    · exact inv.closed
  · simp only [disconnect, alone, if_true, entry, close]
    apply released_inv inv member
    · intro socket
      rw [List.mem_filter]
      apply and_congr_right
      intro there
      rw [decide_eq_true_iff]
      apply not_congr
      constructor
      · intro same
        rw [inv.ids socket there _ inside same]
        rfl
      · intro same
        have found := inv.websockets socket there
        rw [same, entry] at found
        simpa using found.symm
    · intro closing listed other present same
      rcases List.mem_append.mp listed with new | old
      · obtain ⟨socket, found, rfl⟩ := List.mem_map.mp new
        obtain ⟨there, id⟩ := List.mem_filter.mp found
        obtain rfl := inv.ids socket there _ inside (by simpa using id)
        obtain ⟨kept, component⟩ := List.mem_filter.mp present
        have still := List.mem_of_mem_filter kept
        have equal := mount_of_key inv still member (key_of_same same).symm
        rw [equal] at component
        simp at component
      · exact inv.closed closing old other present same

theorem mem_remaining {opening other : Opening} (kept : other ∈ state.openings.filter (· ≠ opening)) :
    other ∈ state.openings ∧ other ≠ opening := by
  obtain ⟨there, differs⟩ := List.mem_filter.mp kept
  exact ⟨there, of_decide_eq_true differs⟩

theorem remaining {opening other : Opening} (there : other ∈ state.openings) (differs : other.mount ≠ opening.mount) :
    other ∈ state.openings.filter (· ≠ opening) := by
  refine List.mem_filter.mpr ⟨there, decide_eq_true ?_⟩
  rintro rfl
  exact differs rfl

theorem opened_current {opening : Opening} (current : isCurrent state opening = true) : opened state opening =
    { state with
      openings := state.openings.filter (· ≠ opening)
      websockets := state.websockets ++ [⟨opening.id, opening.mount.connection⟩]
      sockets := Function.update state.sockets (keyOf opening.mount) (some (.socket opening.id)) } := if_pos current

theorem opened_stale {opening : Opening} (stale : isCurrent state opening = false) : opened state opening =
    { state with
      openings := state.openings.filter (· ≠ opening)
      closed := (⟨opening.id, opening.mount.connection⟩, state.mounted) :: state.closed
      sockets := Function.update state.sockets (keyOf opening.mount) none } := if_neg (ne_true_of_eq_false stale)

theorem opened_current_inv (inv : Inv state) {opening : Opening} (inside : opening ∈ state.openings)
    (current : isCurrent state opening = true) : Inv (opened state opening) := by
  have member : opening.mount ∈ state.mounted := of_decide_eq_true current
  have pending := inv.openers opening inside member
  have otherSocket (socket : Socket) (there : socket ∈ state.websockets) :
      connectionKey socket.connection ≠ keyOf opening.mount := by
    intro key
    have entry := inv.websockets socket there
    rw [key, pending] at entry
    cases entry
  rw [opened_current current]
  refine ⟨?_, ?_, inv.single, ?_, ?_, ?_, ?_, ?_, ?_, inv.heard, ?_, inv.closed⟩
  all_goals dsimp only
  · intro mount there
    by_cases this : mount = opening.mount
    · subst this
      exact Or.inr ⟨opening.id, Function.update_self .., List.mem_append_right _ (List.mem_singleton.mpr rfl)⟩
    · have key : keyOf mount ≠ keyOf opening.mount := fun key => this (mount_of_key inv there member key)
      rw [Function.update_of_ne key]
      rcases inv.served mount there with ⟨entry, other, found, rfl⟩ | ⟨id, entry, found⟩
      · exact Or.inl ⟨entry, other, remaining found this, rfl⟩
      · exact Or.inr ⟨id, entry, List.mem_append_left _ found⟩
  · intro key entry
    by_cases this : key = keyOf opening.mount
    · exact ⟨opening.mount, member, this.symm⟩
    · rw [Function.update_of_ne this] at entry
      exact inv.used key entry
  · intro other kept mounted
    obtain ⟨there, differs⟩ := mem_remaining kept
    have key : keyOf other.mount ≠ keyOf opening.mount := by
      intro key
      exact differs (inv.once other there opening inside (Or.inl (mount_of_key inv mounted member key)))
    rw [Function.update_of_ne key]
    exact inv.openers other there mounted
  · intro first kept second alsoKept
    exact inv.once first (mem_remaining kept).1 second (mem_remaining alsoKept).1
  · intro socket found
    rcases List.mem_append.mp found with old | new
    · rw [Function.update_of_ne (otherSocket socket old)]
      exact inv.websockets socket old
    · obtain rfl := List.mem_singleton.mp new
      exact Function.update_self ..
  · intro first found second also id
    rcases List.mem_append.mp found with old | new
    · rcases List.mem_append.mp also with alsoOld | alsoNew
      · exact inv.ids first old second alsoOld id
      · obtain rfl := List.mem_singleton.mp alsoNew
        exact absurd id.symm (inv.apart opening inside first old)
    · obtain rfl := List.mem_singleton.mp new
      rcases List.mem_append.mp also with alsoOld | alsoNew
      · exact absurd id (inv.apart opening inside second alsoOld)
      · exact (List.mem_singleton.mp alsoNew).symm
  · intro other kept socket found
    obtain ⟨there, differs⟩ := mem_remaining kept
    rcases List.mem_append.mp found with old | new
    · exact inv.apart other there socket old
    · obtain rfl := List.mem_singleton.mp new
      exact fun id => differs (inv.once other there opening inside (Or.inr id))
  · refine ⟨fun other kept => inv.fresh.1 other (mem_remaining kept).1, ?_⟩
    intro socket found
    rcases List.mem_append.mp found with old | new
    · exact inv.fresh.2 socket old
    · obtain rfl := List.mem_singleton.mp new
      exact (inv.fresh.1 opening inside).1
  · intro key entry
    by_cases this : key = keyOf opening.mount
    · rw [this, Function.update_self] at entry
      cases entry
    · rw [Function.update_of_ne this] at entry
      exact inv.silent key entry

theorem opened_stale_inv (inv : Inv state) {opening : Opening} (current : isCurrent state opening = false)
    (free : state.sockets (keyOf opening.mount) = none) : Inv (opened state opening) := by
  have gone : opening.mount ∉ state.mounted := of_decide_eq_false current
  have unchanged : Function.update state.sockets (keyOf opening.mount) none = state.sockets :=
    (congrArg _ free.symm).trans (Function.update_eq_self ..)
  rw [opened_stale current, unchanged]
  refine ⟨?_, inv.used, inv.single, ?_, ?_, inv.websockets, inv.ids, ?_, ?_, inv.heard, inv.silent, ?_⟩
  all_goals dsimp only
  · intro mount there
    rcases inv.served mount there with ⟨entry, other, found, rfl⟩ | found
    · refine Or.inl ⟨entry, other, remaining found ?_, rfl⟩
      intro this
      exact gone (this ▸ there)
    · exact Or.inr found
  · intro other kept
    exact inv.openers other (mem_remaining kept).1
  · intro first kept second alsoKept
    exact inv.once first (mem_remaining kept).1 second (mem_remaining alsoKept).1
  · intro other kept
    exact inv.apart other (mem_remaining kept).1
  · exact ⟨fun other kept => inv.fresh.1 other (mem_remaining kept).1, inv.fresh.2⟩
  · intro closing listed mount there this
    rcases List.mem_cons.mp listed with rfl | old
    · exact entry_of_mounted inv there ((congrArg state.sockets (key_of_same this).symm).trans free)
    · exact inv.closed closing old mount there this

theorem opened_inv (inv : Inv state) {opening : Opening} (inside : opening ∈ state.openings)
    (free : isCurrent state opening = false → state.sockets (keyOf opening.mount) = none) : Inv (opened state opening) := by
  cases current : isCurrent state opening with
  | true => exact opened_current_inv inv inside current
  | false => exact opened_stale_inv inv current (free current)

theorem mount_inv {component : Nat} {connections : List Connection} (inv : Inv state) (known : component < state.next)
    (distinct : (connections.map connectionKey).Nodup)
    (free : ∀ connection ∈ connections, state.sockets (connectionKey connection) = none)
    (own : ∀ opening ∈ state.openings, opening.mount.component = component → opening.mount ∈ state.mounted) :
    Inv (connections.foldl (connect component) state) := by
  induction connections generalizing state with
  | nil => exact inv
  | cons connection connections ih =>
    rw [List.foldl_cons]
    rw [List.map_cons, List.nodup_cons] at distinct
    rw [List.forall_mem_cons] at free
    have absent : ⟨component, connection⟩ ∉ state.mounted := fun member => entry_of_mounted inv member free.1
    have unopened : ∀ opening ∈ state.openings, opening.mount ≠ ⟨component, connection⟩ := by
      intro opening inside same
      exact absent (same ▸ own opening inside (by rw [same]))
    have next : (connect component state connection).next = state.next + 1 ∧
        (connect component state connection).sockets = Function.update state.sockets (connectionKey connection) (some .pending) ∧
        (connect component state connection).openings = state.openings ++ [⟨state.next, component, connection⟩] ∧
        (connect component state connection).mounted = state.mounted ++ [⟨component, connection⟩] := by
      simp [connect, free.1]
    refine ih (connect_inv inv free.1 known unopened) (by omega) distinct.2 ?_ ?_
    · intro other later
      rw [next.2.1, Function.update_of_ne]
      · exact free.2 other later
      · intro key
        exact distinct.1 (List.mem_map.mpr ⟨other, later, key⟩)
    · intro opening inside component
      rw [next.2.2.1] at inside
      rw [next.2.2.2]
      rcases List.mem_append.mp inside with old | new
      · exact List.mem_append_left _ (own opening old component)
      · obtain rfl := List.mem_singleton.mp new
        exact List.mem_append_right _ (List.mem_singleton.mpr rfl)

theorem unmount_inv {mounts : List Mount} (inv : Inv state) (members : ∀ mount ∈ mounts, mount ∈ state.mounted) (distinct : mounts.Nodup) :
    Inv (mounts.foldl disconnect state) := by
  induction mounts generalizing state with
  | nil => exact inv
  | cons mount mounts ih =>
    rw [List.foldl_cons]
    rw [List.forall_mem_cons] at members
    rw [List.nodup_cons] at distinct
    have left : (disconnect state mount).mounted = state.mounted.filter (· ≠ mount) := by
      unfold disconnect
      dsimp only
      split
      · split <;> rfl
      · rfl
    refine ih (disconnect_inv inv members.1) ?_ distinct.2
    intro other later
    rw [left]
    refine List.mem_filter.mpr ⟨members.2 other later, decide_eq_true ?_⟩
    rintro rfl
    exact distinct.1 later

theorem step_inv {next : State} {event : Event} (inv : Inv state) (apart : Apart state event) (taken : step state event = some next) :
    Inv next := by
  cases event with
  | mount connections =>
    cases taken
    have later : Inv { state with next := state.next + 1 } := by
      refine { inv with fresh := ⟨?_, ?_⟩ }
      · intro opening inside
        have bound := inv.fresh.1 opening inside
        exact ⟨Nat.lt_succ_of_lt bound.1, Nat.lt_succ_of_lt bound.2⟩
      · exact fun socket inside => Nat.lt_succ_of_lt (inv.fresh.2 socket inside)
    refine mount_inv later (Nat.lt_succ_self _) apart.1 apart.2 ?_
    intro opening inside same
    exact absurd same (Nat.ne_of_lt (inv.fresh.1 opening inside).2)
  | unmount component =>
    cases taken
    refine unmount_inv inv ?_ (inv.single.of_map.filter _)
    exact fun mount member => List.mem_of_mem_filter member
  | opened id =>
    obtain ⟨opening, found, rfl⟩ := Option.map_eq_some_iff.mp taken
    have inside := List.mem_of_find?_eq_some found
    have same : opening.id = id := by simpa using List.find?_some found
    exact opened_inv inv inside (apart opening inside same)

/-- In every run in which no connection joins another one and no opening is overtaken, the
sockets are shared as they should be. -/
theorem run_shared {events : List Event} {last : State} (ran : run step start events = some last)
    (apart : Meets step Apart start events) : Shared last := by
  apply shared_of_inv
  exact invariant Inv (fun _ _ _ inv apart taken => step_inv inv apart taken) start_inv apart ran

end

section
def pods (onMessage : Nat) : Connection := ⟨"main", "/api/v1/pods", onMessage⟩

/-- A component goes away before its socket opens, and another one comes afterwards. -/
theorem one_after_another : ∃ last, run step start [.mount [pods 1], .unmount 0, .opened 1, .mount [pods 2], .opened 3] = some last ∧
    Shared last := by
  have runs : (run step start [.mount [pods 1], .unmount 0, .opened 1, .mount [pods 2], .opened 3]).isSome = true := by decide
  obtain ⟨last, ran⟩ := Option.isSome_iff_exists.mp runs
  exact ⟨last, ran, run_shared ran (by decide)⟩

/-- A component that finds a socket of its address in the map never hears from it. -/
theorem joiner_unheard : ¬∀ (events : List Event) (last : State), run step start events = some last → Shared last := by
  intro all
  have found : (run step start [.mount [pods 1], .mount [pods 2], .opened 1]).map (fun last =>
      (decide (⟨2, pods 2⟩ ∈ last.mounted), decide (Receives last (pods 2)))) = some (true, false) := by decide
  obtain ⟨last, ran, state⟩ := Option.map_eq_some_iff.mp found
  rw [Prod.mk.injEq] at state
  exact of_decide_eq_false state.2 ((all _ last ran).receives _ (of_decide_eq_true state.1))

end

end K8Sense.Frontend.SharedSockets
