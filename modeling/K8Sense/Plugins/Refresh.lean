import K8Sense.Library.Transition
import Mathlib.Logic.Function.Basic

/-! The list of plugins, and the flag that has clients reload it. The watcher of the plugin
directories sets the flag and then stores the list; requests read the flag and then clear
it, and read the list and then allow the flag. All of these are steps of their own. -/

namespace K8Sense.Plugins
open Transition

inductive PluginType where
  | development
  | user
  | shipped
deriving DecidableEq

structure PluginMetadata where
  path : String
  type : PluginType
  name : String
deriving DecidableEq

/-- What is in a plugin directory under a name. -/
structure Entry where
  name : String
  isDir : Bool
  /-- There is a `main.js`. -/
  main : Bool
  /-- The `package.json` says so. -/
  isManagedByHeadlampPlugin : Bool

/-- The directories at one moment; one that is not set or does not exist is empty. -/
structure Directories where
  staticPluginDir : Except String (List Entry)
  userPluginDir : Except String (List Entry)
  pluginDir : Except String (List Entry)

def pluginBasePathListForDir (entries : List Entry) : List Entry := entries.filter fun entry => entry.isDir && entry.main

def pluginsOf (baseURL : String) (pluginType : Entry → PluginType) (entries : List Entry) : List PluginMetadata :=
  (pluginBasePathListForDir entries).map fun entry => ⟨baseURL ++ "/" ++ entry.name, pluginType entry, entry.name⟩

def generatePluginPaths (directories : Directories) : Except String (List PluginMetadata) := do
  let staticPlugins ← directories.staticPluginDir
  let userPlugins ← directories.userPluginDir
  let devPlugins ← directories.pluginDir
  let devType := fun entry : Entry => if entry.isManagedByHeadlampPlugin then PluginType.user else .development
  return pluginsOf "static-plugins" (fun _ => .shipped) staticPlugins ++ pluginsOf "user-plugins" (fun _ => .user) userPlugins ++
    pluginsOf "plugins" devType devPlugins

/-- A list as it is stored, which is nil after an error. -/
abbrev PluginList := Option (List PluginMetadata)

structure Entries where
  refresh : Option Bool
  list : Option PluginList
  canSend : Option Bool

def canSendRefresh (entries : Entries) : Bool := entries.canSend.getD false

def populatePluginsCache (directories : Directories) (entries : Entries) : Entries :=
  { entries with refresh := some false, list := some (generatePluginPaths directories).toOption }

/-- Where the watcher is with an event. `lowered` says that a client has been told to
reload since the flag was set, which the code does not record. -/
inductive Watcher where
  | idle
  | found (allowed : Bool)
  | marked (allowed lowered : Bool)
  | generated (allowed lowered : Bool) (list : PluginList)
deriving DecidableEq

/-- A client is told to reload. -/
def Watcher.lower : Watcher → Watcher
  | .marked allowed _ => .marked allowed true
  | .generated allowed _ list => .generated allowed true list
  | other => other

/-- Where a request of a client is. The numbers are those of events: the one that had
raised the flag, the one whose list was read, and the one that was being handled. -/
inductive Phase where
  | idle
  | permitted
  | signalled (raised : Nat)
  | listed (stored : Nat) (handling : Option Nat)
deriving DecidableEq

/-- `due` is the event that had raised the flag when the client was last told to reload,
`got` the one whose list it has got since. -/
structure Client where
  phase : Phase
  due : Option Nat
  got : Option Nat

/-- The cache, the watcher and the requests. The rest is history: the number of the event
that came last, that which raised the flag, that whose list is stored, and whether the list
has changed since a client was last told to reload. -/
structure State where
  entries : Entries
  watcher : Watcher
  clients : Nat → Client
  handled : Nat
  raised : Nat
  stored : Nat
  changed : Bool

def start (entries : Entries) : State := ⟨entries, .idle, fun _ => ⟨.idle, none, none⟩, 0, 0, 0, false⟩

inductive Event where
  | notify (event : String)
  | setRefresh
  | generate (directories : Directories)
  | setList
  | reload (client : Nat)
  | readRefresh (client : Nat)
  | clearRefresh (client : Nat)
  | list (client : Nat)
  /-- The list is on its way, or cannot be written. -/
  | answer (client : Nat) (encoded : Bool)

def State.setClient (state : State) (client : Nat) (next : Client) : State :=
  { state with clients := Function.update state.clients client next }

/-- The event whose list is not stored yet. -/
def State.handling (state : State) : Option Nat := if state.watcher = .idle then none else some state.handled

/-! `HandlePluginEvents`, up to the next access to the cache. -/

def notify (state : State) (event : String) : Option State :=
  match state.watcher with
  | .idle =>
    if "CHMOD".toList.isSuffixOf event.toList then some state
    else some { state with watcher := .found (canSendRefresh state.entries), handled := state.handled + 1 }
  | _ => none

def setRefresh (state : State) : Option State :=
  match state.watcher with
  | .found allowed => some { state with
      entries := { state.entries with refresh := some allowed }
      watcher := .marked allowed false
      raised := if allowed then state.handled else state.raised }
  | _ => none

def generate (state : State) (directories : Directories) : Option State :=
  match state.watcher with
  | .marked allowed lowered => some { state with watcher := .generated allowed lowered (generatePluginPaths directories).toOption }
  | _ => none

def setList (state : State) : Option State :=
  match state.watcher with
  | .generated _ _ list => some { state with
      entries := { state.entries with list := some list }
      watcher := .idle
      stored := state.handled
      changed := state.changed || canSendRefresh state.entries && some list ≠ state.entries.list }
  | _ => none

/-! `HandlePluginReload`, in the same way. -/

def reload (state : State) (client : Nat) : Option State :=
  match (state.clients client).phase with
  | .idle =>
    if canSendRefresh state.entries then some (state.setClient client { state.clients client with phase := .permitted })
    else some state
  | _ => none

def readRefresh (state : State) (client : Nat) : Option State :=
  match (state.clients client).phase with
  | .permitted =>
    if state.entries.refresh = some true then
      some (state.setClient client { state.clients client with phase := .signalled state.raised })
    else some (state.setClient client { state.clients client with phase := .idle })
  | _ => none

def clearRefresh (state : State) (client : Nat) : Option State :=
  match (state.clients client).phase with
  | .signalled raised => some { state.setClient client ⟨.idle, some raised, none⟩ with
      entries := { state.entries with refresh := some false }
      watcher := state.watcher.lower
      changed := false }
  | _ => none

/-! The requests for the list. -/

def list (state : State) (client : Nat) : Option State :=
  match (state.clients client).phase with
  | .idle => some (state.setClient client { state.clients client with phase := .listed state.stored state.handling })
  | _ => none

def answer (state : State) (client : Nat) (encoded : Bool) : Option State :=
  match (state.clients client).phase with
  | .listed stored _ =>
    if encoded then some { state.setClient client ⟨.idle, (state.clients client).due, some stored⟩ with
      entries := { state.entries with canSend := some true } }
    else some (state.setClient client { state.clients client with phase := .idle })
  | _ => none

def step (state : State) : Event → Option State
  | .notify event => notify state event
  | .setRefresh => setRefresh state
  | .generate directories => generate state directories
  | .setList => setList state
  | .reload client => reload state client
  | .readRefresh client => readRefresh state client
  | .clearRefresh client => clearRefresh state client
  | .list client => list state client
  | .answer client encoded => answer state client encoded

/-! The law, and the condition for it. -/

/-- The list that the client has got since it was told to reload is as new as the signal. -/
def Client.Fresh (client : Client) : Prop := ∀ due ∈ client.due, ∀ got ∈ client.got, due ≤ got

/-- Where no event is being handled, a change of the list that came after the last request
that was told to reload has raised the flag; and after that signal a client gets a list as
new as the change that raised the flag. -/
structure Good (state : State) : Prop where
  kept : state.watcher = .idle → canSendRefresh state.entries = true → state.changed = true → state.entries.refresh = some true
  fresh : ∀ client, (state.clients client).Fresh

/-- While signals are enabled, an event that changes the list has found them enabled and no
client has been told to reload since it set the flag; and a client is not sent a list that
was read while the event for which it was told to reload was being handled. -/
def Allowed (state : State) : Event → Prop
  | .setList =>
    match state.watcher with
    | .generated allowed lowered list => canSendRefresh state.entries = true → some list ≠ state.entries.list →
      allowed = true ∧ lowered = false
    | _ => True
  | .answer client encoded =>
    match (state.clients client).phase with
    | .listed _ handling => encoded = true → ∀ number ∈ handling, number ∉ (state.clients client).due
    | _ => True
  | _ => True

/-! What holds in every run. -/

/-- How far the watcher is with the last event. -/
def Progress (state : State) : Prop :=
  match state.watcher with
  | .idle => state.stored = state.handled ∧ state.raised ≤ state.handled
  | .found allowed => state.stored + 1 = state.handled ∧ state.raised < state.handled ∧
      (state.changed = true → allowed = true ∧ state.entries.refresh = some true)
  | .marked allowed lowered | .generated allowed lowered _ => state.stored + 1 = state.handled ∧ state.raised ≤ state.handled ∧
      state.entries.refresh = some (allowed && !lowered) ∧ (state.changed = true → state.entries.refresh = some true)

/-- The numbers of a client are those of events that have been. -/
structure Tracked (raised : Nat) (client : Client) : Prop where
  due : ∀ due ∈ client.due, due ≤ raised
  signalled : ∀ number, client.phase = .signalled number → number ≤ raised
  listed : ∀ stored handling, client.phase = .listed stored handling → ∀ due ∈ client.due,
    (handling = none → due ≤ stored) ∧ ∀ number ∈ handling, due ≤ number ∧ stored + 1 = number

structure Inv (state : State) : Prop where
  enabled : state.changed = true → canSendRefresh state.entries = true
  progress : Progress state
  clients : ∀ client, Tracked state.raised (state.clients client)

theorem start_inv (entries : Entries) : Inv (start entries) := by
  refine ⟨nofun, ⟨rfl, Nat.le_refl 0⟩, fun client => ⟨nofun, nofun, nofun⟩⟩

theorem start_good (entries : Entries) : Good (start entries) := ⟨nofun, nofun⟩

theorem Tracked.mono {raised later : Nat} {client : Client} (tracked : Tracked raised client) (grows : raised ≤ later) :
    Tracked later client :=
  ⟨fun due is => Nat.le_trans (tracked.due due is) grows, fun number is => Nat.le_trans (tracked.signalled number is) grows, tracked.listed⟩

theorem Tracked.turn {raised : Nat} {client : Client} (tracked : Tracked raised client) {phase : Phase}
    (signalled : ∀ number, phase = .signalled number → number ≤ raised) (unlisted : ∀ stored handling, phase ≠ .listed stored handling) :
    Tracked raised { client with phase } :=
  ⟨tracked.due, signalled, fun stored handling is => absurd is (unlisted stored handling)⟩

theorem forall_update {α : Type} {holds : α → Prop} {table : Nat → α} {key : Nat} {value : α} (all : ∀ other, holds (table other))
    (here : holds value) (other : Nat) : holds (Function.update table key value other) := by
  by_cases same : other = key
  · rw [same, Function.update_self]
    exact here
  · rw [Function.update_of_ne same]
    exact all other

theorem raised_le {state : State} (inv : Inv state) : state.raised ≤ state.handled := by
  have progress := inv.progress
  unfold Progress at progress
  cases watching : state.watcher with
  | idle => rw [watching] at progress; exact progress.2
  | found allowed => rw [watching] at progress; exact Nat.le_of_lt progress.2.1
  | marked allowed lowered => rw [watching] at progress; exact progress.2.1
  | generated allowed lowered list => rw [watching] at progress; exact progress.2.1

theorem stored_handling {state : State} (inv : Inv state) :
    (state.handling = none → state.stored = state.handled) ∧ ∀ number ∈ state.handling, number = state.handled ∧ state.stored + 1 = number := by
  have progress := inv.progress
  unfold Progress at progress
  unfold State.handling
  cases watching : state.watcher with
  | idle => rw [watching] at progress; exact ⟨fun _ => progress.1, nofun⟩
  | found allowed => rw [watching] at progress; simp [progress.1]
  | marked allowed lowered => rw [watching] at progress; simp [progress.1]
  | generated allowed lowered list => rw [watching] at progress; simp [progress.1]

/-! The steps of the watcher. -/

theorem notify_step {state next : State} {event : String} (inv : Inv state) (good : Good state)
    (taken : notify state event = some next) : Inv next ∧ Good next := by
  have progress := inv.progress
  unfold Progress at progress
  unfold notify at taken
  split at taken
  next idle =>
    split at taken
    next =>
      cases taken
      exact ⟨inv, good⟩
    next =>
      cases taken
      rw [idle] at progress
      refine ⟨⟨inv.enabled, ⟨?_, ?_, ?_⟩, inv.clients⟩, ⟨nofun, good.fresh⟩⟩
      · exact congrArg Nat.succ progress.1
      · exact Nat.lt_succ_of_le progress.2
      · exact fun changed => ⟨inv.enabled changed, good.kept idle (inv.enabled changed) changed⟩
  next => cases taken

theorem setRefresh_step {state next : State} (inv : Inv state) (good : Good state) (taken : setRefresh state = some next) :
    Inv next ∧ Good next := by
  have progress := inv.progress
  unfold Progress at progress
  unfold setRefresh at taken
  split at taken
  next allowed found =>
    cases taken
    rw [found] at progress
    obtain ⟨stored, raised, changed⟩ := progress
    have grows : state.raised ≤ if allowed then state.handled else state.raised := by
      split
      next => exact Nat.le_of_lt raised
      next => exact Nat.le_refl _
    refine ⟨⟨inv.enabled, ⟨stored, ?_, ?_, ?_⟩, fun client => (inv.clients client).mono grows⟩, ⟨nofun, good.fresh⟩⟩
    · dsimp only
      split
      next => exact Nat.le_refl _
      next => exact Nat.le_of_lt raised
    · simp
    · exact fun is => congrArg some (changed is).1
  next => cases taken

theorem generate_step {state next : State} {directories : Directories} (inv : Inv state) (good : Good state)
    (taken : generate state directories = some next) : Inv next ∧ Good next := by
  have progress := inv.progress
  unfold Progress at progress
  unfold generate at taken
  split at taken
  next allowed lowered marked =>
    cases taken
    rw [marked] at progress
    exact ⟨⟨inv.enabled, progress, inv.clients⟩, ⟨nofun, good.fresh⟩⟩
  next => cases taken

theorem setList_step {state next : State} (inv : Inv state) (good : Good state) (taken : setList state = some next) :
    Inv next ∧ (Allowed state .setList ↔ Good next) := by
  have progress := inv.progress
  unfold Progress at progress
  unfold Allowed
  unfold setList at taken
  split at taken
  next allowed lowered list generated =>
    cases taken
    rw [generated] at progress
    obtain ⟨-, raised, refresh, changed⟩ := progress
    refine ⟨⟨?_, ⟨rfl, raised⟩, inv.clients⟩, ?_⟩
    · intro either
      rw [Bool.or_eq_true, Bool.and_eq_true] at either
      exact either.elim inv.enabled And.left
    · constructor
      · intro permitted
        refine ⟨fun _ enabled either => ?_, good.fresh⟩
        rw [Bool.or_eq_true, Bool.and_eq_true, decide_eq_true_eq] at either
        rcases either with before | ⟨_, differs⟩
        · exact changed before
        · obtain ⟨found, kept⟩ := permitted enabled differs
          exact refresh.trans (by rw [found, kept]; rfl)
      · intro fine enabled differs
        have raisedFlag : state.entries.refresh = some true := fine.kept rfl enabled (by simp [enabled, differs])
        rw [refresh, Option.some_inj, Bool.and_eq_true, Bool.not_eq_true'] at raisedFlag
        exact raisedFlag
  next => cases taken

/-! The steps of the requests. -/

theorem reload_step {state next : State} {client : Nat} (inv : Inv state) (good : Good state)
    (taken : reload state client = some next) : Inv next ∧ Good next := by
  unfold reload at taken
  split at taken
  next =>
    split at taken
    next =>
      cases taken
      refine ⟨⟨inv.enabled, inv.progress, forall_update inv.clients ?_⟩, ⟨good.kept, forall_update good.fresh (good.fresh client)⟩⟩
      exact (inv.clients client).turn nofun nofun
    next =>
      cases taken
      exact ⟨inv, good⟩
  next => cases taken

theorem readRefresh_step {state next : State} {client : Nat} (inv : Inv state) (good : Good state)
    (taken : readRefresh state client = some next) : Inv next ∧ Good next := by
  unfold readRefresh at taken
  split at taken
  next =>
    split at taken
    next =>
      cases taken
      refine ⟨⟨inv.enabled, inv.progress, forall_update inv.clients ?_⟩, ⟨good.kept, forall_update good.fresh (good.fresh client)⟩⟩
      refine (inv.clients client).turn ?_ nofun
      intro number is
      cases is
      exact Nat.le_refl _
    next =>
      cases taken
      refine ⟨⟨inv.enabled, inv.progress, forall_update inv.clients ?_⟩, ⟨good.kept, forall_update good.fresh (good.fresh client)⟩⟩
      exact (inv.clients client).turn nofun nofun
  next => cases taken

theorem lower_progress {state : State} (inv : Inv state) (clients : Nat → Client) : Progress { state with
    entries := { state.entries with refresh := some false }, watcher := state.watcher.lower, clients, changed := false } := by
  have progress := inv.progress
  unfold Progress at progress ⊢
  dsimp only
  cases watching : state.watcher with
  | idle => rw [watching] at progress; exact progress
  | found allowed => rw [watching] at progress; exact ⟨progress.1, progress.2.1, nofun⟩
  | marked allowed lowered => rw [watching] at progress; exact ⟨progress.1, progress.2.1, by simp, nofun⟩
  | generated allowed lowered list => rw [watching] at progress; exact ⟨progress.1, progress.2.1, by simp, nofun⟩

theorem clearRefresh_step {state next : State} {client : Nat} (inv : Inv state) (good : Good state)
    (taken : clearRefresh state client = some next) : Inv next ∧ Good next := by
  unfold clearRefresh at taken
  split at taken
  next raised signalled =>
    cases taken
    refine ⟨⟨nofun, lower_progress inv _, forall_update inv.clients ?_⟩, ⟨nofun, forall_update good.fresh nofun⟩⟩
    refine ⟨?_, nofun, nofun⟩
    intro due is
    cases is
    exact (inv.clients client).signalled raised signalled
  next => cases taken

theorem list_step {state next : State} {client : Nat} (inv : Inv state) (good : Good state)
    (taken : list state client = some next) : Inv next ∧ Good next := by
  unfold list at taken
  split at taken
  next =>
    cases taken
    refine ⟨⟨inv.enabled, inv.progress, forall_update inv.clients ?_⟩, ⟨good.kept, forall_update good.fresh (good.fresh client)⟩⟩
    refine ⟨(inv.clients client).due, nofun, ?_⟩
    intro stored handling is due known
    cases is
    have before := Nat.le_trans ((inv.clients client).due due known) (raised_le inv)
    obtain ⟨settled, ahead⟩ := stored_handling inv
    refine ⟨fun none => settled none ▸ before, fun number handled => ?_⟩
    obtain ⟨rfl, next⟩ := ahead number handled
    exact ⟨before, next⟩
  next => cases taken

/-- A list that was read while no event was handled, or another than that of the signal,
is as new as that. -/
theorem listed_fresh {raised stored : Nat} {handling : Option Nat} {client : Client} (tracked : Tracked raised client)
    (listed : client.phase = .listed stored handling) :
    (∀ number ∈ handling, number ∉ client.due) ↔ ∀ due ∈ client.due, due ≤ stored := by
  constructor
  · intro apart due known
    obtain ⟨settled, ahead⟩ := tracked.listed stored handling listed due known
    cases handling with
    | none => exact settled rfl
    | some number =>
      obtain ⟨before, next⟩ := ahead number rfl
      have different : due ≠ number := fun same => apart number rfl (same ▸ known)
      omega
  · intro fresh number handled known
    have next := ((tracked.listed stored handling listed number known).2 number handled).2
    have before := fresh number known
    omega

theorem answer_step {state next : State} {client : Nat} {encoded : Bool} (inv : Inv state) (good : Good state)
    (taken : answer state client encoded = some next) : Inv next ∧ (Allowed state (.answer client encoded) ↔ Good next) := by
  unfold answer at taken
  split at taken
  next stored handling listed =>
    have condition : Allowed state (.answer client encoded) ↔
        (encoded = true → ∀ number ∈ handling, number ∉ (state.clients client).due) := by
      unfold Allowed
      dsimp only
      rw [listed]
    rw [condition]
    split at taken
    next sent =>
      cases taken
      refine ⟨⟨fun _ => rfl, inv.progress, forall_update inv.clients ⟨(inv.clients client).due, nofun, nofun⟩⟩, ?_⟩
      simp only [sent, forall_true_left]
      rw [listed_fresh (inv.clients client) listed]
      constructor
      · intro fresh
        refine ⟨fun idle _ changed => good.kept idle (inv.enabled changed) changed, forall_update good.fresh ?_⟩
        intro due known got is
        cases is
        exact fresh due known
      · intro fine due known
        have here : (Function.update state.clients client ⟨.idle, (state.clients client).due, some stored⟩ client).Fresh :=
          fine.fresh client
        rw [Function.update_self] at here
        exact here due known stored rfl
    next unsent =>
      cases taken
      refine ⟨⟨inv.enabled, inv.progress, forall_update inv.clients ((inv.clients client).turn nofun nofun)⟩, ?_⟩
      exact iff_of_true (fun sent => absurd sent unsent) ⟨good.kept, forall_update good.fresh (good.fresh client)⟩
  next => cases taken

theorem step_decides {state next : State} {event : Event} (inv : Inv state) (good : Good state)
    (taken : step state event = some next) : Inv next ∧ (Allowed state event ↔ Good next) := by
  have plain : Inv next ∧ Good next → Inv next ∧ (True ↔ Good next) := fun both => ⟨both.1, iff_of_true trivial both.2⟩
  cases event with
  | notify event => exact plain (notify_step inv good taken)
  | setRefresh => exact plain (setRefresh_step inv good taken)
  | generate directories => exact plain (generate_step inv good taken)
  | setList => exact setList_step inv good taken
  | reload client => exact plain (reload_step inv good taken)
  | readRefresh client => exact plain (readRefresh_step inv good taken)
  | clearRefresh client => exact plain (clearRefresh_step inv good taken)
  | list client => exact plain (list_step inv good taken)
  | answer client encoded => exact answer_step inv good taken

/-- No change is lost in a run exactly when every step of it is allowed. -/
theorem no_change_lost_iff {entries : Entries} {events : List Event} {last : State} (ran : run step (start entries) events = some last) :
    (∀ before after state, events = before ++ after → run step (start entries) before = some state → Good state) ↔
      Meets step Allowed (start entries) events :=
  throughout_iff Inv Good (fun _ _ _ inv good taken => (step_decides inv good taken).1)
    (fun _ _ _ inv good taken => (step_decides inv good taken).2) (start_inv entries) (start_good entries) ran

/-! Two runs with one plugin that is put into the directory. -/

private def withPlugins (names : List String) : Directories :=
  ⟨.ok [], .ok [], .ok (names.map fun name => ⟨name, true, true, false⟩)⟩

/-- The list has been requested before, and no plugin is there. -/
private def enabledEntries : Entries := populatePluginsCache (withPlugins []) ⟨none, none, some true⟩

private def orderly : List Event := [.notify "plugins/flux: CREATE", .setRefresh, .generate (withPlugins ["flux"]), .setList,
  .reload 0, .readRefresh 0, .clearRefresh 0, .list 0, .answer 0 true]

theorem orderly_keeps : (run step (start enabledEntries) orderly).isSome = true ∧
    ∀ before after state, orderly = before ++ after → run step (start enabledEntries) before = some state → Good state := by
  refine ⟨rfl, (no_change_lost_iff rfl).mpr ?_⟩
  refine ⟨trivial, trivial, trivial, fun _ _ => ⟨rfl, rfl⟩, trivial, trivial, trivial, trivial, ?_, trivial⟩
  exact fun _ => nofun

/-- A client that is told to reload before the list is stored clears the flag for the
list. -/
private def early : List Event := [.notify "plugins/flux: CREATE", .setRefresh, .reload 0, .readRefresh 0, .clearRefresh 0,
  .list 0, .answer 0 true, .generate (withPlugins ["flux"]), .setList]

theorem early_reload_lost : ¬∀ (entries : Entries) (events : List Event) (state : State),
    run step (start entries) events = some state → Good state := by
  intro good
  have fine := good enabledEntries early _ rfl
  have lowered : some false = some true := fine.kept rfl rfl rfl
  cases lowered

end K8Sense.Plugins
