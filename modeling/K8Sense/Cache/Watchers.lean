import Mathlib.Logic.Function.Basic
import K8Sense.Library.Transition

/-! The watchers that invalidate cached responses, one goroutine for a context, with
a step for each operation on the two maps that `CheckForChanges`, `SyncWatchers` and
the watchers share. -/

namespace K8Sense.Cache.Watchers
open Transition

/-- Where a call of `CheckForChanges` that started a watcher, and then its
goroutine, stands. -/
inductive Phase where
  /-- The context is registered, its cancel function not stored yet. -/
  | claimed
  /-- The informers are set up, which may fail. -/
  | preparing
  /-- Waiting for `ctx.Done()`. -/
  | watching
  /-- The deferred function is to delete both entries, -/
  | leaving
  /-- or one of them still. -/
  | unlisted
  | finished
deriving DecidableEq

/-- A watcher that was cancelled has the contexts that the call of `SyncWatchers`
which did so was given. -/
structure Watcher where
  contextKey : String
  phase : Phase
  cancelledBy : Option (List String)
deriving DecidableEq

/-- What is left to do of the function that `Range` calls. -/
inductive Stage where
  | loaded
  | cancelled
  | unregistered
deriving DecidableEq

structure Visit where
  contextKey : String
  watcher : Nat
  stage : Stage
deriving DecidableEq

/-- A call of `SyncWatchers`: the keys that `Range` still has to get to, and those it
has been at. -/
structure Sync where
  activeContexts : List String
  todo : List String
  visited : List String
  visit : Option Visit
  returned : Bool

/-- Entries go by the watcher they are of, which in `watcherRegistry` is not
recorded. Nor are the entries that an exit deleted, and whether the last step was
the return of `SyncWatchers`. -/
structure State where
  watcherRegistry : String → Option Nat
  contextCancel : String → Option Nat
  watchers : List Watcher
  syncs : List Sync
  removed : List (Nat × Nat)
  returned : Option (List String)

inductive Event where
  | checkForChanges (contextKey : String)
  | storeCancel (id : Nat)
  | prepared (id : Nat)
  | fail (id : Nat)
  | stop (id : Nat)
  | unregister (id : Nat)
  | forget (id : Nat)
  | syncWatchers (activeContexts : List String)
  | reach (sync : Nat) (contextKey : String)
  | pass (sync : Nat) (contextKey : String)
  | cancel (sync : Nat)
  | deleteRegistry (sync : Nat)
  | deleteCancel (sync : Nat)
  | finish (sync : Nat)

def initial : State := ⟨fun _ => none, fun _ => none, [], [], [], none⟩

def State.setWatcher (id : Nat) (watcher : Watcher) (state : State) : State :=
  { state with watchers := state.watchers.set id watcher }

def State.setSync (index : Nat) (sync : Sync) (state : State) : State :=
  { state with syncs := state.syncs.set index sync }

def State.setRegistry (contextKey : String) (entry : Option Nat) (state : State) : State :=
  { state with watcherRegistry := Function.update state.watcherRegistry contextKey entry }

def State.setCancel (contextKey : String) (entry : Option Nat) (state : State) : State :=
  { state with contextCancel := Function.update state.contextCancel contextKey entry }

def State.remove (id : Nat) (entry : Option Nat) (state : State) : State :=
  { state with removed := state.removed ++ entry.toList.map fun owner => (id, owner) }

/-- A step of a watcher that is in the phase. -/
def State.inPhase (id : Nat) (phase : Phase) (act : Watcher → State) (state : State) : Option State :=
  match state.watchers[id]? with
  | some watcher => if watcher.phase = phase then some (act watcher) else none
  | none => none

/-- A step of a call that has not returned. -/
def State.inCall (index : Nat) (act : Sync → Option State) (state : State) : Option State :=
  match state.syncs[index]? with
  | some sync => if sync.returned then none else act sync
  | none => none

/-- The contexts in `contextCancel`. -/
def State.cancelKeys (state : State) : List String :=
  (state.watchers.map Watcher.contextKey).filter fun key => (state.contextCancel key).isSome

/-- The first call counts. -/
def cancelAt (id : Nat) (activeContexts : List String) (watchers : List Watcher) : List Watcher :=
  watchers.modify id fun watcher => { watcher with cancelledBy := watcher.cancelledBy.or (some activeContexts) }

def advance (state : State) : Event → Option State
  | .checkForChanges key =>
    match state.watcherRegistry key with
    | some _ => some state
    | none =>
      some (State.setRegistry key (some state.watchers.length)
        { state with watchers := state.watchers ++ [⟨key, .claimed, none⟩] })
  | .storeCancel id => state.inPhase id .claimed fun watcher =>
      (state.setCancel watcher.contextKey (some id)).setWatcher id { watcher with phase := .preparing }
  | .prepared id => state.inPhase id .preparing fun watcher => state.setWatcher id { watcher with phase := .watching }
  | .fail id => state.inPhase id .preparing fun watcher => state.setWatcher id { watcher with phase := .leaving }
  | .stop id => (state.inPhase id .watching fun watcher => state.setWatcher id { watcher with phase := .leaving }).filter
      fun _ => state.watchers[id]?.any fun watcher => watcher.cancelledBy.isSome
  | .unregister id => state.inPhase id .leaving fun watcher =>
      ((state.remove id (state.watcherRegistry watcher.contextKey)).setRegistry watcher.contextKey none).setWatcher id
        { watcher with phase := .unlisted }
  | .forget id => state.inPhase id .unlisted fun watcher =>
      ((state.remove id (state.contextCancel watcher.contextKey)).setCancel watcher.contextKey none).setWatcher id
        { watcher with phase := .finished }
  | .syncWatchers activeContexts =>
    some { state with syncs := state.syncs ++ [⟨activeContexts, state.cancelKeys, [], none, false⟩] }
  | .reach index key => state.inCall index fun sync =>
      match state.contextCancel key with
      | some id =>
        if sync.visit.isSome || sync.visited.contains key then none
        else
          let visit := if sync.activeContexts.contains key then none else some ⟨key, id, .loaded⟩
          some (state.setSync index { sync with todo := sync.todo.filter (· ≠ key), visited := key :: sync.visited, visit })
      | none => none
  | .pass index key => state.inCall index fun sync =>
      if sync.visit.isSome || (state.contextCancel key).isSome then none
      else some (state.setSync index { sync with todo := sync.todo.filter (· ≠ key) })
  | .cancel index => state.inCall index fun sync =>
      match sync.visit with
      | some ⟨key, id, .loaded⟩ =>
        some (State.setSync index { sync with visit := some ⟨key, id, .cancelled⟩ }
          { state with watchers := cancelAt id sync.activeContexts state.watchers })
      | _ => none
  | .deleteRegistry index => state.inCall index fun sync =>
      match sync.visit with
      | some ⟨key, id, .cancelled⟩ =>
        some ((state.setRegistry key none).setSync index { sync with visit := some ⟨key, id, .unregistered⟩ })
      | _ => none
  | .deleteCancel index => state.inCall index fun sync =>
      match sync.visit with
      | some ⟨key, _, .unregistered⟩ => some ((state.setCancel key none).setSync index { sync with visit := none })
      | _ => none
  | .finish index => state.inCall index fun sync =>
      if sync.todo.isEmpty && sync.visit.isNone then
        some (State.setSync index { sync with returned := true } { state with returned := some sync.activeContexts })
      else none

def step (state : State) (event : Event) : Option State := advance { state with returned := none } event

def Watcher.runs (watcher : Watcher) : Bool :=
  (watcher.phase = .preparing || watcher.phase = .watching) && watcher.cancelledBy.isNone

/-- A watcher of the context of that kind. -/
def Is (kind : Watcher → Bool) (watchers : List Watcher) (id : Nat) (key : String) : Prop :=
  ∃ watcher, watchers[id]? = some watcher ∧ kind watcher = true ∧ watcher.contextKey = key

abbrev Runs := Is Watcher.runs

/-- Calls cancel watchers of contexts that they are not given only. -/
def Meant (watchers : List Watcher) : Prop :=
  ∀ watcher ∈ watchers, ∀ activeContexts, watcher.cancelledBy = some activeContexts → watcher.contextKey ∉ activeContexts

structure Orderly (state : State) : Prop where
  single : ∀ first second key, Runs state.watchers first key → Runs state.watchers second key → first = second
  listed : ∀ id key, Runs state.watchers id key → state.contextCancel key = some id
  /-- No exit deletes an entry of a newer watcher. -/
  spared : ∀ pair ∈ state.removed, ¬pair.1 < pair.2
  /-- After a call the watchers that run are for contexts that it was given. -/
  synced : ∀ activeContexts, state.returned = some activeContexts → ∀ id key, Runs state.watchers id key → key ∈ activeContexts
  meant : Meant state.watchers

/-- Cancelled, or on its way out, and its deferred function has not run yet. -/
def Watcher.outgoing (watcher : Watcher) : Bool :=
  watcher.phase = .leaving || watcher.phase = .unlisted || watcher.cancelledBy.isSome && watcher.phase ≠ .finished

/-- A context that is not registered is not claimed before its old watcher is
through, nor during a call of `SyncWatchers` that was not given it; and such a call
does not begin before the watcher's function is stored. -/
def Spaced (state : State) : Event → Prop
  | .checkForChanges key => state.watcherRegistry key = none →
      (∀ watcher ∈ state.watchers, watcher.contextKey = key → watcher.outgoing = false) ∧
        ∀ sync ∈ state.syncs, sync.returned = false → key ∈ sync.activeContexts
  | .syncWatchers activeContexts =>
      ∀ watcher ∈ state.watchers, watcher.phase = .claimed → watcher.contextKey ∈ activeContexts
  | _ => True

instance (state : State) (event : Event) : Decidable (Spaced state event) := by
  unfold Spaced
  split <;> exact inferInstance

variable {state next : State}

@[simp] theorem inPhase_eq_some {id : Nat} {phase : Phase} {act : Watcher → State} :
    state.inPhase id phase act = some next ↔
      ∃ watcher, state.watchers[id]? = some watcher ∧ watcher.phase = phase ∧ act watcher = next := by
  unfold State.inPhase
  cases state.watchers[id]? <;> simp

@[simp] theorem inCall_eq_some {index : Nat} {act : Sync → Option State} : state.inCall index act = some next ↔
    ∃ sync, state.syncs[index]? = some sync ∧ sync.returned = false ∧ act sync = some next := by
  unfold State.inCall
  cases state.syncs[index]? <;> simp

/-! The watchers. -/

/-- Not finished, -/
def Watcher.unfinished (watcher : Watcher) : Bool := watcher.phase ≠ .finished

/-- neither cancelled nor on its way out, -/
def Watcher.serves (watcher : Watcher) : Bool :=
  (watcher.phase = .claimed || watcher.phase = .preparing || watcher.phase = .watching) && watcher.cancelledBy.isNone

/-- perhaps with an entry in `watcherRegistry` still, -/
def Watcher.registered (watcher : Watcher) : Bool := watcher.phase ≠ .unlisted && watcher.phase ≠ .finished

/-- and perhaps with one in `contextCancel`. -/
def Watcher.held (watcher : Watcher) : Bool := watcher.phase ≠ .claimed && watcher.phase ≠ .finished

section
variable {watcher : Watcher}

theorem unfinished_of_serves (serves : watcher.serves = true) : watcher.unfinished = true := by
  cases phase : watcher.phase <;> simp_all [Watcher.serves, Watcher.unfinished]

theorem unfinished_of_registered (registered : watcher.registered = true) : watcher.unfinished = true := by
  simp_all [Watcher.registered, Watcher.unfinished]

theorem unfinished_of_held (held : watcher.held = true) : watcher.unfinished = true := by
  simp_all [Watcher.held, Watcher.unfinished]

theorem runs_iff : watcher.runs = true ↔ watcher.serves = true ∧ watcher.phase ≠ .claimed := by
  cases phase : watcher.phase <;> simp [Watcher.runs, Watcher.serves, phase]

theorem serves_of_unfinished (unfinished : watcher.unfinished = true) (staying : watcher.outgoing = false) :
    watcher.serves = true := by
  cases phase : watcher.phase <;> simp_all [Watcher.serves, Watcher.unfinished, Watcher.outgoing]

end

section
variable {kind : Watcher → Bool} {watchers : List Watcher} {id other : Nat} {watcher old : Watcher} {key : String}

theorem is_set (there : watchers[id]? = some old) : Is kind (watchers.set id watcher) other key ↔
    if other = id then kind watcher = true ∧ watcher.contextKey = key else Is kind watchers other key := by
  have inside : id < watchers.length := (List.getElem?_eq_some_iff.mp there).1
  unfold Is
  by_cases same : other = id
  · subst same
    simp [inside]
  · have apart : id ≠ other := fun equal => same equal.symm
    simp [same, apart]

theorem is_append : Is kind (watchers ++ [watcher]) other key ↔
    Is kind watchers other key ∨ other = watchers.length ∧ kind watcher = true ∧ watcher.contextKey = key := by
  unfold Is
  rcases Nat.lt_trichotomy other watchers.length with inside | same | outside
  · simp [List.getElem?_append_left inside, Nat.ne_of_lt inside]
  · subst same
    simp
  · have beyond : (watchers ++ [watcher])[other]? = none := by
      rw [List.getElem?_eq_none_iff, List.length_append, List.length_singleton]
      omega
    have absent : watchers[other]? = none := by
      rw [List.getElem?_eq_none_iff]
      omega
    simp [beyond, absent, Nat.ne_of_gt outside]

theorem is_cancel {activeContexts : List String} (uncancelled : ∀ watcher, kind watcher = true → watcher.cancelledBy = none)
    (is : Is kind (cancelAt id activeContexts watchers) other key) : other ≠ id ∧ Is kind watchers other key := by
  obtain ⟨watcher, held, holds, same⟩ := is
  rw [cancelAt, List.getElem?_modify] at held
  obtain ⟨old, there, made⟩ := Option.map_eq_some_iff.mp held
  split at made
  next =>
    have free := uncancelled watcher holds
    rw [← made] at free
    cases already : old.cancelledBy <;> simp [already] at free
  next different =>
    cases made
    exact ⟨fun equal => different equal.symm, watcher, there, holds, same⟩

/-- A table whose entries are of watchers of a kind, when one watcher changes and
with it at most the entry of its context. -/
theorem entries_set {table after : String → Option Nat} (there : watchers[id]? = some old)
    (same : watcher.contextKey = old.contextKey) (known : ∀ key other, table key = some other → Is kind watchers other key)
    (changed : ∀ key, after key = table key ∨ key = old.contextKey ∧ (after key = none ∨ after key = some id))
    (own : after old.contextKey = some id → kind watcher = true) (key : String) (other : Nat)
    (entry : after key = some other) : Is kind (watchers.set id watcher) other key := by
  rw [is_set there]
  rcases changed key with kept | ⟨rfl, gone | here⟩
  · have before := known key other (kept.symm.trans entry)
    split
    next is =>
      subst is
      obtain ⟨_, held, _, ours⟩ := before
      cases there.symm.trans held
      exact ⟨own (ours ▸ entry), same.trans ours⟩
    next => exact before
  · cases gone.symm.trans entry
  · rw [if_pos (Option.some.inj (entry.symm.trans here))]
    exact ⟨own here, same⟩

theorem Is.imp {more : Watcher → Bool} (implies : ∀ watcher : Watcher, kind watcher = true → more watcher = true)
    (is : Is kind watchers id key) : Is more watchers id key := by
  obtain ⟨watcher, there, holds, same⟩ := is
  exact ⟨watcher, there, implies watcher holds, same⟩

theorem Is.unfinished_of_runs (runs : Runs watchers id key) : Is Watcher.unfinished watchers id key :=
  runs.imp fun _ ran => unfinished_of_serves (runs_iff.mp ran).1

end

/-- A watcher keeps its context, and nothing about it is undone. -/
structure Follows (old watcher : Watcher) : Prop where
  contextKey : watcher.contextKey = old.contextKey
  unfinished : watcher.unfinished = true → old.unfinished = true
  serves : watcher.serves = true → old.serves = true
  stored : old.phase ≠ .claimed → watcher.phase ≠ .claimed
  meant : (∀ activeContexts, old.cancelledBy = some activeContexts → old.contextKey ∉ activeContexts) →
    ∀ activeContexts, watcher.cancelledBy = some activeContexts → watcher.contextKey ∉ activeContexts

structure Moves (before after : List Watcher) : Prop where
  length : after.length = before.length
  back : ∀ (id : Nat) (watcher : Watcher), after[id]? = some watcher → ∃ old, before[id]? = some old ∧ Follows old watcher

theorem follows_refl (watcher : Watcher) : Follows watcher watcher :=
  ⟨rfl, fun going => going, fun serves => serves, fun stored => stored, fun meant => meant⟩

section
variable {before after : List Watcher} {kind : Watcher → Bool} {id : Nat} {key : String}

theorem moves_refl (watchers : List Watcher) : Moves watchers watchers :=
  ⟨rfl, fun _ watcher there => ⟨watcher, there, follows_refl watcher⟩⟩

theorem moves_set {old watcher : Watcher} (there : before[id]? = some old) (follows : Follows old watcher) :
    Moves before (before.set id watcher) := by
  refine ⟨List.length_set, ?_⟩
  intro other current found
  rw [List.getElem?_set] at found
  split at found
  next same =>
    subst same
    split at found
    next =>
      cases found
      exact ⟨old, there, follows⟩
    next => cases found
  next => exact ⟨current, found, follows_refl current⟩

theorem moves_cancel {activeContexts : List String}
    (inactive : ∀ watcher, before[id]? = some watcher → watcher.contextKey ∉ activeContexts) :
    Moves before (cancelAt id activeContexts before) := by
  refine ⟨List.length_modify _ _ _, ?_⟩
  intro other current found
  rw [cancelAt, List.getElem?_modify] at found
  obtain ⟨old, there, rfl⟩ := Option.map_eq_some_iff.mp found
  refine ⟨old, there, ?_⟩
  split
  next same =>
    subst same
    refine ⟨rfl, fun going => going, ?_, fun stored => stored, ?_⟩
    · cases already : old.cancelledBy <;> simp [Watcher.serves, already]
    · intro meant others cancelled
      cases already : old.cancelledBy with
      | none =>
        simp only [already, Option.none_or, Option.some.injEq] at cancelled
        exact cancelled ▸ inactive old there
      | some earlier =>
        simp only [already, Option.some_or, Option.some.injEq] at cancelled
        exact meant others (by rw [already, cancelled])
  next => exact follows_refl old

theorem Moves.is (moves : Moves before after)
    (keeps : ∀ {old watcher}, Follows old watcher → kind watcher = true → kind old = true) (is : Is kind after id key) :
    Is kind before id key := by
  obtain ⟨watcher, there, holds, same⟩ := is
  obtain ⟨old, found, follows⟩ := moves.back id watcher there
  exact ⟨old, found, keeps follows holds, follows.contextKey.symm.trans same⟩

theorem Moves.forth (moves : Moves before after) (is : Is (fun _ => true) before id key) : Is (fun _ => true) after id key := by
  obtain ⟨old, there, _, same⟩ := is
  have inside : id < after.length := by
    rw [moves.length]
    exact (List.getElem?_eq_some_iff.mp there).1
  have now := List.getElem?_eq_getElem inside
  obtain ⟨other, found, follows⟩ := moves.back id _ now
  cases there.symm.trans found
  exact ⟨_, now, rfl, follows.contextKey.trans same⟩

end

/-! The one watcher of a context that has not finished. -/

/-- A call under way visits no context that it was given, each of the others has
its watcher's function stored, and a watcher that serves one is still to be
cancelled. -/
structure Apart (watchers : List Watcher) (sync : Sync) : Prop where
  inactive : ∀ visit, sync.visit = some visit → visit.contextKey ∉ sync.activeContexts
  visited : ∀ visit, sync.visit = some visit → Is (fun _ => true) watchers visit.watcher visit.contextKey
  only : ∀ visit, sync.visit = some visit → ∀ id, Is Watcher.unfinished watchers id visit.contextKey → id = visit.watcher
  done : ∀ visit, sync.visit = some visit → visit.stage ≠ .loaded → ∀ id, ¬Is Watcher.serves watchers id visit.contextKey
  covered : ∀ id key, Is Watcher.serves watchers id key → key ∉ sync.activeContexts →
    Runs watchers id key ∧ (key ∈ sync.todo ∨ sync.visit = some ⟨key, id, .loaded⟩)

structure Owned (state : State) : Prop where
  alone : ∀ first second key, Is Watcher.unfinished state.watchers first key →
    Is Watcher.unfinished state.watchers second key → first = second
  serving : ∀ id key, Is Watcher.serves state.watchers id key → state.watcherRegistry key = some id
  registry : ∀ key id, state.watcherRegistry key = some id → Is Watcher.registered state.watchers id key
  cancels : ∀ key id, state.contextCancel key = some id → Is Watcher.held state.watchers id key
  listed : ∀ id key, Runs state.watchers id key → state.contextCancel key = some id
  spared : ∀ pair ∈ state.removed, ¬pair.1 < pair.2
  synced : ∀ activeContexts, state.returned = some activeContexts → ∀ id key, Runs state.watchers id key → key ∈ activeContexts
  meant : Meant state.watchers
  apart : ∀ sync ∈ state.syncs, sync.returned = false → Apart state.watchers sync

theorem Owned.orderly (owned : Owned state) : Orderly state where
  single first second key left right := owned.alone first second key left.unfinished_of_runs right.unfinished_of_runs
  listed := owned.listed
  spared := owned.spared
  synced := owned.synced
  meant := owned.meant

theorem apart_moves {before after : List Watcher} {sync : Sync} (moves : Moves before after) (apart : Apart before sync) :
    Apart after sync := by
  refine ⟨apart.inactive, fun visit current => moves.forth (apart.visited visit current), ?_, ?_, ?_⟩
  · exact fun visit current id unfinished => apart.only visit current id (moves.is Follows.unfinished unfinished)
  · exact fun visit current later id serves => apart.done visit current later id (moves.is Follows.serves serves)
  · intro id key serves inactive
    obtain ⟨runs, waiting⟩ := apart.covered id key (moves.is Follows.serves serves) inactive
    refine ⟨?_, waiting⟩
    obtain ⟨watcher, there, serving, same⟩ := serves
    obtain ⟨old, found, follows⟩ := moves.back id watcher there
    obtain ⟨_, held, ran, _⟩ := runs
    cases found.symm.trans held
    exact ⟨watcher, there, runs_iff.mpr ⟨serving, follows.stored (runs_iff.mp ran).2⟩, same⟩

theorem owned_moves (owned : Owned state) (moves : Moves state.watchers next.watchers)
    (serving : ∀ id key, Is Watcher.serves next.watchers id key → next.watcherRegistry key = some id)
    (registry : ∀ key id, next.watcherRegistry key = some id → Is Watcher.registered next.watchers id key)
    (cancels : ∀ key id, next.contextCancel key = some id → Is Watcher.held next.watchers id key)
    (listed : ∀ id key, Runs next.watchers id key → next.contextCancel key = some id)
    (removed : ∀ pair ∈ next.removed, pair ∈ state.removed ∨ ¬pair.1 < pair.2)
    (synced : ∀ activeContexts, next.returned = some activeContexts → ∀ id key, Runs next.watchers id key →
      key ∈ activeContexts)
    (syncs : ∀ sync ∈ next.syncs, sync.returned = false → sync ∈ state.syncs ∨ Apart next.watchers sync) : Owned next := by
  refine ⟨?_, serving, registry, cancels, listed, ?_, synced, ?_, ?_⟩
  · intro first second key left right
    exact owned.alone first second key (moves.is Follows.unfinished left) (moves.is Follows.unfinished right)
  · intro pair member
    exact (removed pair member).elim (owned.spared pair) fun fine => fine
  · intro watcher member
    obtain ⟨id, there⟩ := List.mem_iff_getElem?.mp member
    obtain ⟨old, found, follows⟩ := moves.back id watcher there
    exact follows.meant (owned.meant old (List.mem_of_getElem? found))
  · intro sync member going
    exact (syncs sync member going).elim (fun before => apart_moves moves (owned.apart sync before going)) fun now => now

theorem owned_phase {id : Nat} {old : Watcher} (phase : Phase) (owned : Owned state) (there : state.watchers[id]? = some old)
    (going : old.phase ≠ .finished) (stored : phase ≠ .claimed)
    (watchers : next.watchers = state.watchers.set id { old with phase }) (syncs : next.syncs = state.syncs)
    (returned : next.returned = none) (removed : ∀ pair ∈ next.removed, pair ∈ state.removed ∨ ¬pair.1 < pair.2)
    (serving : ({ old with phase } : Watcher).serves = true → old.serves = true ∧ next.watcherRegistry = state.watcherRegistry)
    (registry : ∀ key, next.watcherRegistry key = state.watcherRegistry key ∨
      key = old.contextKey ∧ next.watcherRegistry key = none)
    (registered : next.watcherRegistry old.contextKey = some id → ({ old with phase } : Watcher).registered = true)
    (cancels : ∀ key, next.contextCancel key = state.contextCancel key ∨
      key = old.contextKey ∧ (next.contextCancel key = none ∨ next.contextCancel key = some id))
    (held : next.contextCancel old.contextKey = some id → ({ old with phase } : Watcher).held = true)
    (listed : ({ old with phase } : Watcher).runs = true → next.contextCancel old.contextKey = some id) : Owned next := by
  have mine : Is Watcher.unfinished state.watchers id old.contextKey := ⟨old, there, by simpa [Watcher.unfinished] using going, rfl⟩
  have follows : Follows old { old with phase } :=
    ⟨rfl, fun _ => by simpa [Watcher.unfinished] using going, fun serves => (serving serves).1, fun _ => stored, fun meant => meant⟩
  refine owned_moves owned (watchers ▸ moves_set there follows) ?_
    (watchers ▸ entries_set there rfl owned.registry (fun key => (registry key).imp_right fun gone => ⟨gone.1, Or.inl gone.2⟩)
      registered)
    (watchers ▸ entries_set there rfl owned.cancels cancels held) ?_ removed ?_ fun sync member _ => Or.inl (syncs ▸ member)
  · intro other key serves
    rw [watchers, is_set there] at serves
    split at serves
    next same =>
      subst same
      obtain ⟨before, kept⟩ := serving serves.1
      rw [kept]
      exact owned.serving other key ⟨old, there, before, serves.2⟩
    next different =>
      rcases registry key with kept | ⟨rfl, _⟩
      · exact kept.trans (owned.serving other key serves)
      · exact absurd (owned.alone other id _ (serves.imp fun _ => unfinished_of_serves) mine) different
  · intro other key runs
    change Is Watcher.runs _ _ _ at runs
    rw [watchers, is_set there] at runs
    split at runs
    next same =>
      subst same
      exact runs.2 ▸ listed runs.1
    next different =>
      rcases cancels key with kept | ⟨rfl, _⟩
      · exact kept.trans (owned.listed other key runs)
      · exact absurd (owned.alone other id _ (Is.unfinished_of_runs runs) mine) different
  · intro activeContexts last
    rw [returned] at last
    cases last

theorem owned_owner {id other : Nat} {old : Watcher} (owned : Owned state) (there : state.watchers[id]? = some old)
    (going : old.phase ≠ .finished) (unfinished : Is Watcher.unfinished state.watchers other old.contextKey) : other = id :=
  owned.alone other id _ unfinished ⟨old, there, by simpa [Watcher.unfinished] using going, rfl⟩

theorem owned_setSync {index : Nat} {after : Sync} (owned : Owned state) (watchers : next.watchers = state.watchers)
    (syncs : next.syncs = state.syncs.set index after) (removed : next.removed = state.removed)
    (registry : ∀ key, next.watcherRegistry key = state.watcherRegistry key ∨
      next.watcherRegistry key = none ∧ ∀ id, ¬Is Watcher.serves state.watchers id key)
    (cancels : ∀ key, next.contextCancel key = state.contextCancel key ∨
      next.contextCancel key = none ∧ ∀ id, ¬Is Watcher.serves state.watchers id key)
    (synced : ∀ activeContexts, next.returned = some activeContexts → ∀ id key, Runs state.watchers id key →
      key ∈ activeContexts)
    (apart : after.returned = false → Apart state.watchers after) : Owned next := by
  have served : ∀ {id key}, Runs state.watchers id key → Is Watcher.serves state.watchers id key :=
    fun runs => runs.imp fun _ ran => (runs_iff.mp ran).1
  refine owned_moves owned (watchers ▸ moves_refl _) ?_ ?_ ?_ ?_ (fun _ member => Or.inl (removed ▸ member))
    (watchers ▸ synced) ?_
  · intro id key serves
    rw [watchers] at serves
    rcases registry key with kept | ⟨_, none⟩
    · exact kept.trans (owned.serving id key serves)
    · exact absurd serves (none id)
  · intro key id entry
    rw [watchers]
    rcases registry key with kept | ⟨gone, _⟩
    · exact owned.registry key id (kept.symm.trans entry)
    · cases gone.symm.trans entry
  · intro key id entry
    rw [watchers]
    rcases cancels key with kept | ⟨gone, _⟩
    · exact owned.cancels key id (kept.symm.trans entry)
    · cases gone.symm.trans entry
  · intro id key runs
    rw [watchers] at runs
    rcases cancels key with kept | ⟨_, none⟩
    · exact kept.trans (owned.listed id key runs)
    · exact absurd (served runs) (none id)
  · intro other member open_
    rw [syncs] at member
    rcases List.mem_or_eq_of_mem_set member with before | rfl
    · exact Or.inl before
    · exact Or.inr (watchers ▸ apart open_)

theorem mem_remove {id : Nat} {entry : Option Nat} {pair : Nat × Nat} :
    pair ∈ (state.remove id entry).removed ↔ pair ∈ state.removed ∨ pair.1 = id ∧ entry = some pair.2 := by
  cases entry with
  | none => simp [State.remove]
  | some owner =>
    simp only [State.remove, Option.toList_some, List.map_cons, List.map_nil, List.mem_append, List.mem_singleton,
      Option.some.injEq]
    constructor
    · rintro (before | rfl)
      · exact Or.inl before
      · exact Or.inr ⟨rfl, rfl⟩
    · rintro (before | ⟨rfl, rfl⟩)
      · exact Or.inl before
      · exact Or.inr rfl

theorem update_none {table : String → Option Nat} {watchers : List Watcher} {key : String}
    (unserved : ∀ id, ¬Is Watcher.serves watchers id key) (other : String) : Function.update table key none other = table other ∨
      Function.update table key none other = none ∧ ∀ id, ¬Is Watcher.serves watchers id other := by
  by_cases same : other = key
  · subst same
    exact Or.inr ⟨Function.update_self _ _ _, unserved⟩
  · exact Or.inl (Function.update_of_ne same _ _)

theorem update_own {table : String → Option Nat} {own : String} {entry : Option Nat} (key : String) :
    Function.update table own entry key = table key ∨ key = own ∧ Function.update table own entry key = entry := by
  by_cases same : key = own
  · exact Or.inr ⟨same, same ▸ Function.update_self _ _ _⟩
  · exact Or.inl (Function.update_of_ne same _ _)

theorem apart_append {watchers : List Watcher} {sync : Sync} {watcher : Watcher} (apart : Apart watchers sync)
    (active : watcher.contextKey ∈ sync.activeContexts) : Apart (watchers ++ [watcher]) sync := by
  have own : ∀ {kind id key}, key ∉ sync.activeContexts → Is kind (watchers ++ [watcher]) id key → Is kind watchers id key := by
    intro kind id key inactive is
    rcases is_append.mp is with before | ⟨_, _, same⟩
    · exact before
    · exact absurd (same ▸ active) inactive
  refine ⟨apart.inactive, fun visit current => is_append.mpr (Or.inl (apart.visited visit current)), ?_, ?_, ?_⟩
  · exact fun visit current id is => apart.only visit current id (own (apart.inactive visit current) is)
  · exact fun visit current later id is => apart.done visit current later id (own (apart.inactive visit current) is)
  · intro id key serves inactive
    obtain ⟨runs, waiting⟩ := apart.covered id key (own inactive serves) inactive
    exact ⟨is_append.mpr (Or.inl runs), waiting⟩

theorem owned_claim {key : String} (owned : Owned state) (free : state.watcherRegistry key = none)
    (spaced : Spaced state (.checkForChanges key)) : Owned (State.setRegistry key (some state.watchers.length)
      { state with watchers := state.watchers ++ [⟨key, .claimed, none⟩], returned := none }) := by
  obtain ⟨through, given⟩ := spaced free
  have finished : ∀ id, ¬Is Watcher.unfinished state.watchers id key := by
    rintro id ⟨watcher, there, unfinished, same⟩
    have serves := serves_of_unfinished unfinished (through watcher (List.mem_of_getElem? there) same)
    rw [owned.serving id key ⟨watcher, there, serves, same⟩] at free
    cases free
  refine ⟨?_, ?_, ?_, ?_, ?_, owned.spared, nofun, ?_, ?_⟩
  · intro first second other left right
    rcases is_append.mp left with left | ⟨rfl, _, rfl⟩
    · rcases is_append.mp right with right | ⟨_, _, rfl⟩
      · exact owned.alone first second other left right
      · exact absurd left (finished first)
    · rcases is_append.mp right with right | ⟨rfl, _, _⟩
      · exact absurd right (finished second)
      · rfl
  · intro id other serves
    rcases is_append.mp serves with before | ⟨rfl, _, rfl⟩
    · have different : other ≠ key := by
        rintro rfl
        exact finished id (before.imp fun _ => unfinished_of_serves)
      exact (Function.update_of_ne different _ _).trans (owned.serving id other before)
    · exact Function.update_self _ _ _
  · intro other id entry
    by_cases same : other = key
    · subst same
      cases (Function.update_self _ _ _).symm.trans entry
      exact is_append.mpr (Or.inr ⟨rfl, by simp [Watcher.registered], rfl⟩)
    · exact is_append.mpr (Or.inl (owned.registry other id ((Function.update_of_ne same _ _).symm.trans entry)))
  · exact fun other id entry => is_append.mpr (Or.inl (owned.cancels other id entry))
  · intro id other runs
    rcases is_append.mp runs with before | ⟨_, impossible, _⟩
    · exact owned.listed id other before
    · simp [Watcher.runs] at impossible
  · intro watcher member activeContexts cancelled
    rcases List.mem_append.mp member with before | new
    · exact owned.meant watcher before activeContexts cancelled
    · obtain rfl := List.mem_singleton.mp new
      cases cancelled
  · exact fun sync member going => apart_append (owned.apart sync member going) (given sync member going)

theorem apart_begin {activeContexts : List String} (owned : Owned state) (spaced : Spaced state (.syncWatchers activeContexts)) :
    Apart state.watchers ⟨activeContexts, state.cancelKeys, [], none, false⟩ := by
  refine ⟨nofun, nofun, nofun, nofun, ?_⟩
  rintro id key ⟨watcher, there, serves, rfl⟩ inactive
  have member := List.mem_of_getElem? there
  have runs : Runs state.watchers id watcher.contextKey :=
    ⟨watcher, there, runs_iff.mpr ⟨serves, fun claimed => inactive (spaced watcher member claimed)⟩, rfl⟩
  refine ⟨runs, Or.inl (List.mem_filter.mpr ⟨List.mem_map_of_mem member, ?_⟩)⟩
  rw [owned.listed id _ runs]
  rfl

section
variable {index : Nat} {sync : Sync} {key : String} {id : Nat}

theorem apart_reach (owned : Owned state) (apart : Apart state.watchers sync) (entry : state.contextCancel key = some id)
    (idle : sync.visit = none) : Apart state.watchers { sync with
      todo := sync.todo.filter (· ≠ key)
      visited := key :: sync.visited
      visit := if sync.activeContexts.contains key then none else some ⟨key, id, .loaded⟩ } := by
  have held := owned.cancels key id entry
  have waiting : ∀ other found, Is Watcher.serves state.watchers other found → found ∉ sync.activeContexts → found ≠ key →
      found ∈ sync.todo.filter (· ≠ key) := by
    intro other found serves inactive different
    rcases (apart.covered other found serves inactive).2 with waiting | current
    · simp [waiting, different]
    · rw [idle] at current
      cases current
  by_cases active : key ∈ sync.activeContexts
  · simp only [List.contains_iff_mem, active, if_true]
    refine ⟨nofun, nofun, nofun, nofun, ?_⟩
    intro other found serves inactive
    have different : found ≠ key := fun same => inactive (same ▸ active)
    exact ⟨(apart.covered other found serves inactive).1, Or.inl (waiting other found serves inactive different)⟩
  · simp only [List.contains_iff_mem, active, if_false]
    refine ⟨?_, ?_, ?_, ?_, ?_⟩
    · rintro _ ⟨⟩
      exact active
    · rintro _ ⟨⟩
      exact held.imp fun _ _ => rfl
    · rintro _ ⟨⟩ other unfinished
      exact owned.alone other id key unfinished (held.imp fun _ => unfinished_of_held)
    · rintro _ ⟨⟩ later
      exact absurd rfl later
    · intro other found serves inactive
      refine ⟨(apart.covered other found serves inactive).1, ?_⟩
      by_cases same : found = key
      · subst same
        cases owned.alone other id found (serves.imp fun _ => unfinished_of_serves) (held.imp fun _ => unfinished_of_held)
        exact Or.inr rfl
      · exact Or.inl (waiting other found serves inactive same)

theorem apart_pass (owned : Owned state) (apart : Apart state.watchers sync) (gone : state.contextCancel key = none) :
    Apart state.watchers { sync with todo := sync.todo.filter (· ≠ key) } := by
  refine ⟨apart.inactive, apart.visited, apart.only, apart.done, ?_⟩
  intro id found serves inactive
  obtain ⟨runs, waiting | current⟩ := apart.covered id found serves inactive
  · have different : found ≠ key := by
      rintro rfl
      cases gone.symm.trans (owned.listed id found runs)
    exact ⟨runs, Or.inl (by simp [waiting, different])⟩
  · exact ⟨runs, Or.inr current⟩

theorem apart_visit {watchers : List Watcher} {visit : Visit} (apart : Apart watchers sync) (current : sync.visit = some visit)
    (none : ∀ id, ¬Is Watcher.serves watchers id visit.contextKey) {after : Option Visit}
    (same : ∀ later, after = some later → later.contextKey = visit.contextKey ∧ later.watcher = visit.watcher) :
    Apart watchers { sync with visit := after } := by
  refine ⟨?_, ?_, ?_, ?_, ?_⟩
  · intro later still
    exact (same later still).1 ▸ apart.inactive visit current
  · intro later still
    rw [(same later still).1, (same later still).2]
    exact apart.visited visit current
  · intro later still id unfinished
    rw [(same later still).1] at unfinished
    exact (apart.only visit current id unfinished).trans (same later still).2.symm
  · intro later still _
    exact (same later still).1 ▸ none
  · intro id key serves inactive
    obtain ⟨runs, waiting | loaded⟩ := apart.covered id key serves inactive
    · exact ⟨runs, Or.inl waiting⟩
    · cases current.symm.trans loaded
      exact absurd serves (none id)

theorem owned_cancel (owned : Owned state) (there : state.syncs[index]? = some sync) (going : sync.returned = false)
    (current : sync.visit = some ⟨key, id, .loaded⟩) (watchers : next.watchers = cancelAt id sync.activeContexts state.watchers)
    (syncs : next.syncs = state.syncs.set index { sync with visit := some ⟨key, id, .cancelled⟩ })
    (registry : next.watcherRegistry = state.watcherRegistry) (cancels : next.contextCancel = state.contextCancel)
    (removed : next.removed = state.removed) (returned : next.returned = none) : Owned next := by
  have apart := owned.apart sync (List.mem_of_getElem? there) going
  obtain ⟨visited, found, _, named⟩ := apart.visited _ current
  have moves : Moves state.watchers next.watchers := by
    rw [watchers]
    apply moves_cancel
    intro watcher held
    cases found.symm.trans held
    exact named ▸ apart.inactive _ current
  -- Neither the phases nor the contexts change.
  have phases : ∀ {kind : Watcher → Bool} {other : Nat} {key : String},
      (∀ (watcher : Watcher) by_, kind { watcher with cancelledBy := by_ } = kind watcher) →
        Is kind state.watchers other key → Is kind next.watchers other key := by
    rintro kind other key blind ⟨watcher, held, holds, same⟩
    rw [watchers]
    unfold Is cancelAt
    rw [List.getElem?_modify, held]
    split
    next => exact ⟨_, rfl, (blind _ _).trans holds, same⟩
    next => exact ⟨_, rfl, holds, same⟩
  have none : ∀ other, ¬Is Watcher.serves next.watchers other key := by
    intro other serves
    rw [watchers] at serves
    obtain ⟨different, before⟩ := is_cancel (by simp [Watcher.serves]) serves
    exact different (apart.only _ current other (before.imp fun _ => unfinished_of_serves))
  refine owned_moves owned moves ?_ ?_ ?_ ?_ (fun _ member => Or.inl (removed ▸ member)) ?_ ?_
  · exact fun other key serves => registry ▸ owned.serving other key (moves.is Follows.serves serves)
  · exact fun key other entry => phases (fun _ _ => rfl) (owned.registry key other (registry ▸ entry))
  · exact fun key other entry => phases (fun _ _ => rfl) (owned.cancels key other (cancels ▸ entry))
  · intro other key runs
    rw [watchers] at runs
    rw [cancels]
    exact owned.listed other key (is_cancel (by simp [Watcher.runs]) runs).2
  · intro activeContexts last
    rw [returned] at last
    cases last
  · intro other member _
    rw [syncs] at member
    rcases List.mem_or_eq_of_mem_set member with before | rfl
    · exact Or.inl before
    · exact Or.inr (apart_visit (apart_moves moves apart) current none (by simp))

end

theorem owned_step {event : Event} (owned : Owned state) (spaced : Spaced state event)
    (taken : step state event = some next) : Owned next := by
  unfold step at taken
  cases event with
  | checkForChanges key =>
    simp only [advance] at taken
    split at taken
    next =>
      cases taken
      exact ⟨owned.alone, owned.serving, owned.registry, owned.cancels, owned.listed, owned.spared, nofun, owned.meant,
        owned.apart⟩
    next free =>
      cases taken
      exact owned_claim owned free spaced
  | storeCancel id =>
    obtain ⟨watcher, there, phase, rfl⟩ := inPhase_eq_some.mp taken
    refine owned_phase .preparing owned there (by simp [phase]) (by simp) rfl rfl rfl (fun _ => Or.inl) ?_ (fun _ => Or.inl rfl)
      (fun _ => rfl) (fun key => (update_own key).imp_right fun own => ⟨own.1, Or.inr own.2⟩) (fun _ => rfl)
      (fun _ => Function.update_self _ _ _)
    intro serves
    exact ⟨by simpa [Watcher.serves, phase] using serves, rfl⟩
  | prepared id =>
    obtain ⟨watcher, there, phase, rfl⟩ := inPhase_eq_some.mp taken
    refine owned_phase .watching owned there (by simp [phase]) (by simp) rfl rfl rfl (fun _ => Or.inl) ?_ (fun _ => Or.inl rfl)
      (fun _ => rfl) (fun _ => Or.inl rfl) (fun _ => rfl) ?_
    · intro serves
      exact ⟨by simpa [Watcher.serves, phase] using serves, rfl⟩
    · intro runs
      exact owned.listed id _ ⟨watcher, there, by simpa [Watcher.runs, phase] using runs, rfl⟩
  | fail id =>
    obtain ⟨watcher, there, phase, rfl⟩ := inPhase_eq_some.mp taken
    exact owned_phase .leaving owned there (by simp [phase]) (by simp) rfl rfl rfl (fun _ => Or.inl) (by simp [Watcher.serves])
      (fun _ => Or.inl rfl) (fun _ => rfl) (fun _ => Or.inl rfl) (fun _ => rfl) (by simp [Watcher.runs])
  | stop id =>
    obtain ⟨taken, _⟩ := Option.filter_eq_some_iff.mp taken
    obtain ⟨watcher, there, phase, rfl⟩ := inPhase_eq_some.mp taken
    exact owned_phase .leaving owned there (by simp [phase]) (by simp) rfl rfl rfl (fun _ => Or.inl) (by simp [Watcher.serves])
      (fun _ => Or.inl rfl) (fun _ => rfl) (fun _ => Or.inl rfl) (fun _ => rfl) (by simp [Watcher.runs])
  | unregister id =>
    obtain ⟨watcher, there, phase, rfl⟩ := inPhase_eq_some.mp taken
    refine owned_phase .unlisted owned there (by simp [phase]) (by simp) rfl rfl rfl ?_ (by simp [Watcher.serves]) update_own
      ?_ (fun _ => Or.inl rfl) (fun _ => rfl) (by simp [Watcher.runs])
    · intro pair member
      refine (mem_remove.mp member).imp_right fun ⟨mine, entry⟩ => ?_
      rw [mine, owned_owner owned there (by simp [phase]) ((owned.registry _ _ entry).imp fun _ => unfinished_of_registered)]
      exact Nat.lt_irrefl id
    · intro entry
      cases (Function.update_self _ _ _).symm.trans entry
  | forget id =>
    obtain ⟨watcher, there, phase, rfl⟩ := inPhase_eq_some.mp taken
    refine owned_phase .finished owned there (by simp [phase]) (by simp) rfl rfl rfl ?_ (by simp [Watcher.serves])
      (fun _ => Or.inl rfl) ?_ (fun key => (update_own key).imp_right fun own => ⟨own.1, Or.inl own.2⟩) ?_ (by simp [Watcher.runs])
    · intro pair member
      refine (mem_remove.mp member).imp_right fun ⟨mine, entry⟩ => ?_
      rw [mine, owned_owner owned there (by simp [phase]) ((owned.cancels _ _ entry).imp fun _ => unfinished_of_held)]
      exact Nat.lt_irrefl id
    · intro entry
      obtain ⟨_, held, registered, _⟩ := owned.registry _ _ entry
      cases there.symm.trans held
      simp [Watcher.registered, phase] at registered
    · intro entry
      cases (Function.update_self _ _ _).symm.trans entry
  | syncWatchers activeContexts =>
    cases taken
    refine owned_moves owned (moves_refl _) owned.serving owned.registry owned.cancels owned.listed (fun _ => Or.inl) nofun ?_
    intro sync member _
    rcases List.mem_append.mp member with before | new
    · exact Or.inl before
    · obtain rfl := List.mem_singleton.mp new
      exact Or.inr (show Apart state.watchers ⟨activeContexts, state.cancelKeys, [], none, false⟩ from apart_begin owned spaced)
  | reach index key =>
    obtain ⟨sync, there, going, taken⟩ := inCall_eq_some.mp taken
    split at taken
    next id entry =>
      split at taken
      next => cases taken
      next free =>
        cases taken
        simp only [Bool.or_eq_true, not_or, Bool.not_eq_true, Option.isSome_eq_false_iff, Option.isNone_iff_eq_none] at free
        have apart := owned.apart sync (List.mem_of_getElem? there) going
        exact owned_setSync owned rfl rfl rfl (fun _ => Or.inl rfl) (fun _ => Or.inl rfl) nofun
          fun _ => apart_reach owned apart entry free.1
    next => cases taken
  | pass index key =>
    obtain ⟨sync, there, going, taken⟩ := inCall_eq_some.mp taken
    split at taken
    next => cases taken
    next free =>
      cases taken
      simp only [Bool.or_eq_true, not_or, Bool.not_eq_true, Option.isSome_eq_false_iff, Option.isNone_iff_eq_none] at free
      have apart := owned.apart sync (List.mem_of_getElem? there) going
      exact owned_setSync owned rfl rfl rfl (fun _ => Or.inl rfl) (fun _ => Or.inl rfl) nofun
        fun _ => apart_pass owned apart free.2
  | cancel index =>
    obtain ⟨sync, there, going, taken⟩ := inCall_eq_some.mp taken
    split at taken
    next key id current =>
      cases taken
      exact owned_cancel owned there going current rfl rfl rfl rfl rfl rfl
    next => cases taken
  | deleteRegistry index =>
    obtain ⟨sync, there, going, taken⟩ := inCall_eq_some.mp taken
    split at taken
    next key id current =>
      cases taken
      have apart := owned.apart sync (List.mem_of_getElem? there) going
      have none := apart.done _ current (by simp)
      exact owned_setSync owned rfl rfl rfl (update_none none) (fun _ => Or.inl rfl) nofun
        fun _ => apart_visit apart current none (by simp)
    next => cases taken
  | deleteCancel index =>
    obtain ⟨sync, there, going, taken⟩ := inCall_eq_some.mp taken
    split at taken
    next key id current =>
      cases taken
      have apart := owned.apart sync (List.mem_of_getElem? there) going
      have none := apart.done _ current (by simp)
      exact owned_setSync owned rfl rfl rfl (fun _ => Or.inl rfl) (update_none none) nofun
        fun _ => apart_visit apart current none (by simp)
    next => cases taken
  | finish index =>
    obtain ⟨sync, there, going, taken⟩ := inCall_eq_some.mp taken
    split at taken
    next through =>
      cases taken
      simp only [Bool.and_eq_true, List.isEmpty_iff, Option.isNone_iff_eq_none] at through
      refine owned_setSync owned rfl rfl rfl (fun _ => Or.inl rfl) (fun _ => Or.inl rfl) ?_ nofun
      rintro _ ⟨⟩ id key runs
      by_contra inactive
      have apart := owned.apart sync (List.mem_of_getElem? there) going
      rcases (apart.covered id key (runs.imp fun _ ran => (runs_iff.mp ran).1) inactive).2 with waiting | current
      · rw [through.1] at waiting
        cases waiting
      · cases through.2.symm.trans current
    next => cases taken

theorem owned_initial : Owned initial := by
  have none : ∀ {kind : Watcher → Bool} {id key}, ¬Is kind initial.watchers id key := by
    rintro kind id key ⟨watcher, there, _⟩
    simp [initial] at there
  exact ⟨fun _ _ _ is => absurd is none, fun _ _ is => absurd is none, nofun, nofun, fun _ _ is => absurd is none, nofun,
    nofun, nofun, nofun⟩

/-- In every run in which contexts are claimed with room between them the watchers
are in order. -/
theorem spaced_orderly {events : List Event} {last : State} (spaced : Meets step Spaced initial events)
    (ran : run step initial events = some last) : Orderly last := by
  have owned : Owned last := invariant Owned (fun _ _ _ => owned_step) owned_initial spaced ran
  exact owned.orderly

/-- A context is removed and its watcher, which has not stopped yet, cancelled. -/
private def removedContext : List Event := [
  .checkForChanges "c", .storeCancel 0, .prepared 0,
  .syncWatchers [], .reach 0 "c", .cancel 0, .deleteRegistry 0, .deleteCancel 0, .finish 0]

/-- The context comes back, and then the first watcher stops. -/
def lateExit : List Event :=
  removedContext ++
    [Event.checkForChanges "c", Event.storeCancel 1, Event.prepared 1, Event.stop 0, Event.unregister 0, Event.forget 0]

/-- Its exit deletes the entries of the second one, and a third starts beside that. -/
theorem late_exit_unlists : ∃ last, run step initial (lateExit ++ [.checkForChanges "c", .storeCancel 2]) = some last ∧
    (0, 1) ∈ last.removed ∧ Runs last.watchers 1 "c" ∧ Runs last.watchers 2 "c" ∧ ¬Orderly last := by
  refine ⟨_, rfl, by decide, ⟨_, rfl, rfl, rfl⟩, ⟨_, rfl, rfl, rfl⟩, ?_⟩
  intro orderly
  exact absurd (orderly.spared (0, 1) (by decide)) (by decide)

/-- The context comes back once the first watcher has stopped. During the call of
`SyncWatchers` the other context, which has a watcher, is claimed in vain. -/
private def returningContext : List Event := [
  .checkForChanges "c", .storeCancel 0, .checkForChanges "d", .prepared 0, .checkForChanges "c", .storeCancel 1,
  .syncWatchers ["d"], .reach 0 "c", .checkForChanges "d", .cancel 0, .deleteRegistry 0, .deleteCancel 0, .stop 0,
  .reach 0 "d", .finish 0, .unregister 0, .forget 0, .checkForChanges "c", .storeCancel 2, .syncWatchers ["c", "d"]]

theorem returning_context_orderly : ∃ last, run step initial returningContext = some last ∧ Orderly last ∧
    Runs last.watchers 1 "d" ∧ Runs last.watchers 2 "c" := by
  obtain ⟨last, ran⟩ : ∃ last, run step initial returningContext = some last := ⟨_, rfl⟩
  refine ⟨last, ran, spaced_orderly (by decide) ran, ?_⟩
  cases ran
  exact ⟨⟨_, rfl, rfl, rfl⟩, ⟨_, rfl, rfl, rfl⟩⟩

end K8Sense.Cache.Watchers
