import K8Sense.App.McpSettings
import K8Sense.Library.Transition

/-! The client of the MCP servers in the desktop app. Its calls give way to one another wherever
they await something: an answer of the user, the closing of a client, or the tools of a new
one. -/

namespace K8Sense.App.McpClient
open McpSettings Transition

abbrev Clusters := Option (List String)

/-- A `MultiServerMCPClient`, with the settings that it was made from. -/
structure Client where
  servers : List (String × StdioServer)
  settings : Option MCPSettings
  isOpen : Bool

/-- The state of the promise of a `doInitializeClient`. -/
inductive Initialization where
  | pending
  | resolved
  | rejected
deriving DecidableEq

inductive Kind where
  /-- The `initialize` of the app. -/
  | launch
  /-- The number is that of the call among all of its kind. -/
  | change (newClusters oldClusters : Clusters) (number : Nat)
  | reset
  | update (mcpSettings : MCPSettings)

inductive Phase where
  | dialog
  | closing (client : Nat)
  /-- Without a promise where `initializeClient` has nothing to do. -/
  | initializing (promise : Option Nat)

structure Call where
  kind : Kind
  phase : Phase

structure State where
  initialized : Bool
  /-- What is in the file at `settingsPath`. -/
  settings : Option MCPSettings
  clusters : List String
  currentClusters : Clusters
  client : Option Nat
  isInitialized : Bool
  initializationPromise : Option Nat
  /-- All clients that have been made. -/
  clients : List Client
  promises : List Initialization
  /-- The calls that have not returned yet. -/
  calls : List Call
  /-- How many changes have been called. -/
  changes : Nat
  /-- The clusters of the last change unless it has failed, and whether it has returned. -/
  last : Option (Clusters × Bool)
  /-- Whether the change to these clusters that has returned last succeeded. -/
  outcomes : Clusters → Option Bool

def start (settings : Option MCPSettings) : State where
  initialized := false
  settings := settings
  clusters := []
  currentClusters := none
  client := none
  isInitialized := false
  initializationPromise := none
  clients := []
  promises := []
  calls := []
  changes := 0
  last := none
  outcomes _ := none

variable (computer : Computer)

/-- Up to the first `await`. -/
def doInitializeClient (state : State) : State :=
  let mcpServers := makeMcpServersFromSettings computer state.settings state.clusters
  if mcpServers.isEmpty then { state with isInitialized := true, promises := state.promises ++ [.resolved] }
  else
    { state with
      client := some state.clients.length
      clients := state.clients ++ [⟨mcpServers, state.settings, true⟩]
      promises := state.promises ++ [.pending] }

/-- The promise that a caller has to wait for is the one that is stored, if any. -/
def initializeClient (state : State) : State × Option Nat :=
  if state.isInitialized then (state, none)
  else
    match state.initializationPromise with
    | some promise => (state, some promise)
    | none => ({ doInitializeClient computer state with initializationPromise := some state.promises.length }, some state.promises.length)

def awaitClient (state : State) (kind : Kind) : State :=
  let (next, promise) := initializeClient computer state
  { next with calls := next.calls ++ [⟨kind, .initializing promise⟩] }

/-- What follows when the client has been closed. -/
def initializeAgain (state : State) (kind : Kind) : State :=
  awaitClient computer { state with client := none, isInitialized := false, initializationPromise := none } kind

def restart (state : State) (kind : Kind) : State :=
  match state.client with
  | some client => { state with calls := state.calls ++ [⟨kind, .closing client⟩] }
  | none => initializeAgain computer state kind

def settle (newClusters : Clusters) (number : Nat) (succeeded : Bool) (state : State) : State :=
  { state with
    last := if number = state.changes then (if succeeded then state.last.map fun last => (last.1, true) else none) else state.last
    outcomes := Function.update state.outcomes newClusters (some succeeded) }

/-- The call does nothing, as these are the clusters already. -/
def unchanged (state : State) (newClusters : Clusters) : Bool := state.initialized ∧ state.currentClusters = newClusters

def handleClustersChange (called : State) (newClusters : Clusters) : State :=
  let state := { called with changes := called.changes + 1, last := some (newClusters, false) }
  if !state.initialized then settle newClusters state.changes false state
  else if state.currentClusters = newClusters then settle newClusters state.changes true state
  else
    let changed := { state with currentClusters := newClusters }
    match hasClusterDependentServers state.settings with
    -- the error is thrown outside the block that restores the clusters
    | none => settle newClusters state.changes false changed
    | some false => settle newClusters state.changes true changed
    | some true => restart computer changed (.change newClusters state.currentClusters state.changes)

/-- The end of a call, after which it is no longer in the list. -/
def finish (kind : Kind) (succeeded : Bool) (state : State) : State :=
  match kind with
  | .launch => { state with initialized := state.initialized || succeeded }
  | .change newClusters oldClusters number =>
    settle newClusters number succeeded (if succeeded then state else { state with currentClusters := oldClusters })
  | _ => state

inductive Event where
  | launch
  | change (newClusters : Clusters)
  | reset
  | update (mcpSettings : MCPSettings)
  /-- The user answers the dialog of a call. -/
  | answered (call : Nat) (confirmed : Bool)
  /-- The client that a call closes is closed, or cannot be. -/
  | closed (call : Nat) (succeeded : Bool)
  /-- A new client has its tools, or fails. -/
  | tools (promise : Nat) (succeeded : Bool)
  /-- A call goes on after the promise it has waited for. -/
  | resume (call : Nat)

/-- How the wait of a call ends, if it does. -/
def settled (state : State) (promise : Option Nat) : Option Bool :=
  match promise with
  | none => some true
  | some promise =>
    match state.promises[promise]? with
    | some .resolved => some true
    | some .rejected => some false
    | _ => none

def step (state : State) (event : Event) : Option State :=
  match event with
  | .launch => some (if state.initialized then state else awaitClient computer state .launch)
  | .change newClusters => some (handleClustersChange computer state newClusters)
  | .reset => some { state with calls := state.calls ++ [⟨.reset, .dialog⟩] }
  | .update mcpSettings => some { state with calls := state.calls ++ [⟨.update mcpSettings, .dialog⟩] }
  | .answered call confirmed =>
    match state.calls[call]? with
    | some ⟨kind, .dialog⟩ =>
      let rest := { state with calls := state.calls.eraseIdx call }
      match kind with
      | .reset => some (if confirmed then restart computer rest kind else rest)
      | .update mcpSettings => some (if confirmed then restart computer { rest with settings := some mcpSettings } kind else rest)
      | _ => none
    | _ => none
  | .closed call succeeded =>
    match state.calls[call]? with
    | some ⟨kind, .closing client⟩ =>
      let rest := { state with calls := state.calls.eraseIdx call }
      some (if succeeded then
        initializeAgain computer { rest with clients := state.clients.modify client fun client => { client with isOpen := false } } kind
      else finish kind false rest)
    | _ => none
  | .tools promise succeeded =>
    match state.promises[promise]? with
    | some .pending =>
      some (if succeeded then { state with isInitialized := true, promises := state.promises.set promise .resolved }
      else
        { state with
          client := none
          isInitialized := false
          initializationPromise := none
          promises := state.promises.set promise .rejected })
    | _ => none
  | .resume call =>
    match state.calls[call]? with
    | some ⟨kind, .initializing promise⟩ =>
      (settled state promise).map fun succeeded => finish kind succeeded { state with calls := state.calls.eraseIdx call }
    | _ => none

/-! One client at most. -/

def IsOpen (state : State) (client : Nat) : Prop := ∃ entry, state.clients[client]? = some entry ∧ entry.isOpen = true

theorem IsOpen.lt_length {state : State} {client : Nat} (opened : IsOpen state client) : client < state.clients.length := by
  obtain ⟨_, found, _⟩ := opened
  exact (List.getElem?_eq_some_iff.mp found).choose

/-- What the fields of the client refer to. -/
structure Single (state : State) : Prop where
  /-- An open client is the one of the field. -/
  owned : ∀ client, IsOpen state client → state.client = some client
  /-- Without a promise there is no client. -/
  fresh : state.isInitialized = false → state.initializationPromise = none → state.client = none

/-- No client is given up before it is closed. -/
def KeepsClient (state : State) : Event → Prop
  | .closed call true => ∀ kind client, state.calls[call]? = some ⟨kind, .closing client⟩ → ∀ other, IsOpen state other → other = client
  | .tools promise false => state.promises[promise]? = some .pending → ∀ client, ¬IsOpen state client
  | _ => True

variable {computer}

theorem Single.of_closed {state : State} (closed : ∀ client, ¬IsOpen state client)
    (fresh : state.isInitialized = false → state.initializationPromise = none → state.client = none) : Single state :=
  ⟨fun client opened => absurd opened (closed client), fresh⟩

theorem Single.awaitClient {state : State} (single : Single state) (kind : Kind) : Single (awaitClient computer state kind) := by
  unfold McpClient.awaitClient initializeClient
  cases initialized : state.isInitialized with
  | true => exact ⟨single.owned, fun not => absurd (not.symm.trans initialized) Bool.false_ne_true⟩
  | false =>
    cases promised : state.initializationPromise with
    | some promise => exact ⟨single.owned, fun _ none => nomatch promised.symm.trans none⟩
    | none =>
      have closed : ∀ client, ¬IsOpen state client := fun client opened =>
        nomatch (single.owned client opened).symm.trans (single.fresh initialized promised)
      simp only [Bool.false_eq_true, if_false, doInitializeClient]
      split
      · exact Single.of_closed closed fun _ none => nomatch none
      · refine ⟨?_, fun _ none => nomatch none⟩
        intro client ⟨entry, found, opened⟩
        rw [List.getElem?_append] at found
        split at found
        next => exact absurd ⟨entry, found, opened⟩ (closed client)
        next beyond =>
          obtain ⟨zero, -⟩ := List.getElem?_eq_some_iff.mp found
          have only : client - state.clients.length < 1 := zero
          have same : client = state.clients.length := by omega
          rw [same]

theorem Single.initializeAgain {state : State} (closed : ∀ client, ¬IsOpen state client) (kind : Kind) :
    Single (initializeAgain computer state kind) := by
  apply Single.awaitClient
  exact Single.of_closed closed fun _ _ => rfl

theorem Single.restart {state : State} (single : Single state) (kind : Kind) : Single (restart computer state kind) := by
  unfold McpClient.restart
  split
  next => exact ⟨single.owned, single.fresh⟩
  next none => exact Single.initializeAgain (fun client opened => nomatch (single.owned client opened).symm.trans none) kind

theorem Single.finish {state : State} (single : Single state) (kind : Kind) (succeeded : Bool) : Single (finish kind succeeded state) := by
  cases kind <;> cases succeeded <;> exact ⟨single.owned, single.fresh⟩

theorem Single.handleClustersChange {state : State} (single : Single state) (newClusters : Clusters) :
    Single (handleClustersChange computer state newClusters) := by
  unfold McpClient.handleClustersChange
  simp only
  split
  · exact ⟨single.owned, single.fresh⟩
  · split
    · exact ⟨single.owned, single.fresh⟩
    · split
      · exact ⟨single.owned, single.fresh⟩
      · exact ⟨single.owned, single.fresh⟩
      · apply Single.restart
        exact ⟨single.owned, single.fresh⟩

theorem isOpen_closed {state : State} {client other : Nat}
    (opened : IsOpen { state with clients := state.clients.modify client fun client => { client with isOpen := false } } other) :
    IsOpen state other ∧ other ≠ client := by
  obtain ⟨entry, found, isOpen⟩ := opened
  rw [List.getElem?_modify] at found
  split at found
  next same =>
    obtain ⟨_, _, rfl⟩ := Option.map_eq_some_iff.mp found
    exact absurd isOpen Bool.false_ne_true
  next different => exact ⟨⟨entry, by simpa using found, isOpen⟩, fun same => different same.symm⟩

theorem step_single {state next : State} {event : Event} (single : Single state) (keeps : KeepsClient state event)
    (taken : step computer state event = some next) : Single next := by
  cases event with
  | launch =>
    cases Option.some.inj taken
    split
    · exact single
    · exact single.awaitClient _
  | change newClusters =>
    cases Option.some.inj taken
    exact single.handleClustersChange newClusters
  | reset =>
    cases Option.some.inj taken
    exact ⟨single.owned, single.fresh⟩
  | update mcpSettings =>
    cases Option.some.inj taken
    exact ⟨single.owned, single.fresh⟩
  | answered call confirmed =>
    simp only [step] at taken
    split at taken
    next kind _ =>
      cases kind <;> cases taken
      all_goals
        cases confirmed
        · exact ⟨single.owned, single.fresh⟩
        · apply Single.restart
          exact ⟨single.owned, single.fresh⟩
    next => cases taken
  | closed call succeeded =>
    simp only [step] at taken
    split at taken
    next kind client found =>
      cases Option.some.inj taken
      cases succeeded with
      | true =>
        apply Single.initializeAgain
        intro other opened
        obtain ⟨before, different⟩ := isOpen_closed opened
        exact different (keeps kind client found other before)
      | false =>
        apply Single.finish
        exact ⟨single.owned, single.fresh⟩
    next => cases taken
  | tools promise succeeded =>
    simp only [step] at taken
    split at taken
    next pending =>
      cases Option.some.inj taken
      cases succeeded with
      | true => exact ⟨single.owned, fun not => nomatch not⟩
      | false => exact Single.of_closed (fun client opened => keeps pending client opened) fun _ _ => rfl
    next => cases taken
  | resume call =>
    simp only [step] at taken
    split at taken
    next kind promise _ =>
      obtain ⟨succeeded, _, rfl⟩ := Option.map_eq_some_iff.mp taken
      apply Single.finish
      exact ⟨single.owned, single.fresh⟩
    next => cases taken

/-! A failed change can be repeated. -/

def Kind.ChangesTo (kind : Kind) (newClusters : Clusters) : Prop := ∃ oldClusters number, kind = .change newClusters oldClusters number

structure Retrying (state : State) : Prop where
  /-- The current clusters are not those of a failed change, unless it is being repeated. -/
  retried : ∀ newClusters, state.outcomes newClusters = some false → state.currentClusters = newClusters →
    ∃ call ∈ state.calls, call.kind.ChangesTo newClusters
  differ : ∀ call ∈ state.calls, ∀ newClusters oldClusters number, call.kind = .change newClusters oldClusters number →
    oldClusters ≠ newClusters

/-- What a call would restore are not the clusters of a failed change. -/
def Restorable (state : State) (call : Nat) : Prop :=
  ∀ newClusters oldClusters number phase, state.calls[call]? = some ⟨.change newClusters oldClusters number, phase⟩ →
    state.outcomes oldClusters = some false → ∃ other ∈ state.calls.eraseIdx call, other.kind.ChangesTo oldClusters

/-- No failure leaves the clusters of a failed change. -/
def Restores (state : State) : Event → Prop
  | .change newClusters =>
    (state.initialized = false → state.currentClusters ≠ newClusters) ∧
      (state.initialized = true → state.currentClusters ≠ newClusters → hasClusterDependentServers state.settings ≠ none)
  | .closed call false => Restorable state call
  | .resume call => ∀ kind promise, state.calls[call]? = some ⟨kind, .initializing promise⟩ → settled state promise = some false →
    Restorable state call
  | _ => True

/-- A call goes on to its next phase, and the records are the same. -/
structure Continues (before : State) (kind : Kind) (after : State) : Prop where
  calls : ∃ phase, after.calls = before.calls ++ [⟨kind, phase⟩]
  currentClusters : after.currentClusters = before.currentClusters
  outcomes : after.outcomes = before.outcomes

variable (computer) in
theorem awaitClient_continues (state : State) (kind : Kind) : Continues state kind (awaitClient computer state kind) := by
  unfold awaitClient initializeClient doInitializeClient
  dsimp only
  split
  · exact ⟨⟨_, rfl⟩, rfl, rfl⟩
  · split
    · exact ⟨⟨_, rfl⟩, rfl, rfl⟩
    · split <;> exact ⟨⟨_, rfl⟩, rfl, rfl⟩

theorem initializeAgain_continues (state : State) (kind : Kind) : Continues state kind (initializeAgain computer state kind) := by
  obtain ⟨calls, currentClusters, outcomes⟩ :=
    awaitClient_continues computer { state with client := none, isInitialized := false, initializationPromise := none } kind
  exact ⟨calls, currentClusters, outcomes⟩

variable (computer) in
theorem restart_continues (state : State) (kind : Kind) : Continues state kind (restart computer state kind) := by
  unfold restart
  split
  · exact ⟨⟨_, rfl⟩, rfl, rfl⟩
  · exact initializeAgain_continues state kind

theorem mem_eraseIdx {calls : List Call} {index : Nat} {erased call : Call} (found : calls[index]? = some erased) :
    call ∈ calls ↔ call = erased ∨ call ∈ calls.eraseIdx index := by
  constructor
  · intro member
    obtain ⟨place, there⟩ := List.mem_iff_getElem?.mp member
    by_cases same : place = index
    · exact .inl (Option.some.inj (there.symm.trans (same ▸ found)))
    · exact .inr (List.mem_eraseIdx_iff_getElem?.mpr ⟨place, same, there⟩)
  · intro member
    obtain rfl | member := member
    · exact List.mem_of_getElem? found
    · exact List.mem_of_mem_eraseIdx member

theorem Retrying.continues {state before after : State} {kind : Kind} (retrying : Retrying state) (continues : Continues before kind after)
    (clusters : before.currentClusters = state.currentClusters) (outcomes : before.outcomes = state.outcomes)
    (calls : ∀ call, call ∈ before.calls → call ∈ state.calls) (others : ∀ call ∈ state.calls, call.kind = kind ∨ call ∈ before.calls)
    (differ : ∀ newClusters oldClusters number, kind = .change newClusters oldClusters number → oldClusters ≠ newClusters) : Retrying after := by
  obtain ⟨phase, list⟩ := continues.calls
  constructor
  · intro newClusters failed current
    rw [continues.outcomes, outcomes] at failed
    rw [continues.currentClusters, clusters] at current
    obtain ⟨call, member, changes⟩ := retrying.retried newClusters failed current
    rw [list]
    obtain same | member := others call member
    · exact ⟨⟨kind, phase⟩, by simp, same ▸ changes⟩
    · exact ⟨call, List.mem_append_left _ member, changes⟩
  · intro call member
    rw [list, List.mem_append, List.mem_singleton] at member
    obtain member | rfl := member
    · exact retrying.differ call (calls call member)
    · exact differ

theorem Retrying.finish {state : State} {call : Nat} {kind : Kind} {phase : Phase} (retrying : Retrying state)
    (found : state.calls[call]? = some ⟨kind, phase⟩) {succeeded : Bool} (restorable : succeeded = false → Restorable state call) :
    Retrying (finish kind succeeded { state with calls := state.calls.eraseIdx call }) := by
  have differ : ∀ other ∈ state.calls.eraseIdx call, ∀ newClusters oldClusters number,
      other.kind = .change newClusters oldClusters number → oldClusters ≠ newClusters :=
    fun other member => retrying.differ other ((mem_eraseIdx found).mpr (.inr member))
  have others : ∀ newClusters, ¬kind.ChangesTo newClusters → (∃ other ∈ state.calls, other.kind.ChangesTo newClusters) →
      ∃ other ∈ state.calls.eraseIdx call, other.kind.ChangesTo newClusters := by
    intro newClusters not ⟨other, member, changes⟩
    obtain rfl | member := (mem_eraseIdx found).mp member
    · exact absurd changes not
    · exact ⟨other, member, changes⟩
  have unaffected : (∀ newClusters, ¬kind.ChangesTo newClusters) → Retrying { state with calls := state.calls.eraseIdx call } := fun not =>
    ⟨fun newClusters failed current => others newClusters (not newClusters) (retrying.retried newClusters failed current), differ⟩
  cases kind with
  | change newClusters oldClusters number =>
    refine ⟨?_, by cases succeeded <;> exact differ⟩
    intro clusters failed current
    by_cases same : clusters = newClusters
    · subst same
      cases succeeded with
      | true =>
        have is : (Function.update state.outcomes clusters (some true)) clusters = some false := failed
        rw [Function.update_self] at is
        exact absurd (Option.some.inj is) (by decide)
      | false =>
        have is : oldClusters = clusters := current
        exact absurd is (retrying.differ _ (List.mem_of_getElem? found) _ _ _ rfl)
    · cases succeeded with
      | true =>
        have before : state.outcomes clusters = some false := by
          rw [← failed]
          exact (Function.update_of_ne same (some true) state.outcomes).symm
        apply others clusters _ (retrying.retried clusters before current)
        intro ⟨_, _, is⟩
        exact same (Kind.change.inj is).1.symm
      | false =>
        have before : state.outcomes clusters = some false := by
          rw [← failed]
          exact (Function.update_of_ne same (some false) state.outcomes).symm
        have is : oldClusters = clusters := current
        subst is
        exact restorable rfl newClusters oldClusters number phase found before
  | launch =>
    have rest := unaffected fun _ ⟨_, _, is⟩ => nomatch is
    exact ⟨rest.retried, rest.differ⟩
  | reset =>
    have rest := unaffected fun _ ⟨_, _, is⟩ => nomatch is
    exact ⟨rest.retried, rest.differ⟩
  | update mcpSettings =>
    have rest := unaffected fun _ ⟨_, _, is⟩ => nomatch is
    exact ⟨rest.retried, rest.differ⟩

theorem Retrying.added {state before after : State} {kind : Kind} (retrying : Retrying state) (continues : Continues before kind after)
    (other : ∀ newClusters, ¬kind.ChangesTo newClusters) (clusters : before.currentClusters = state.currentClusters)
    (outcomes : before.outcomes = state.outcomes) (calls : before.calls = state.calls) : Retrying after := by
  apply retrying.continues continues clusters outcomes
  · exact fun call member => calls ▸ member
  · exact fun call member => .inr (calls ▸ member)
  · exact fun newClusters oldClusters number is => absurd ⟨oldClusters, number, is⟩ (other newClusters)

theorem Retrying.moved {state before after : State} {call : Nat} {kind : Kind} {phase : Phase} (retrying : Retrying state)
    (found : state.calls[call]? = some ⟨kind, phase⟩) (continues : Continues before kind after)
    (clusters : before.currentClusters = state.currentClusters) (outcomes : before.outcomes = state.outcomes)
    (calls : before.calls = state.calls.eraseIdx call) : Retrying after := by
  apply retrying.continues continues clusters outcomes
  · exact fun other member => List.mem_of_mem_eraseIdx (calls ▸ member)
  · intro other member
    rw [calls]
    obtain rfl | member := (mem_eraseIdx found).mp member
    · exact .inl rfl
    · exact .inr member
  · exact fun newClusters oldClusters number is => retrying.differ _ (List.mem_of_getElem? found) newClusters oldClusters number is

theorem Retrying.settled {state after : State} {newClusters : Clusters} {succeeded : Bool} (retrying : Retrying state)
    (outcomes : after.outcomes = Function.update state.outcomes newClusters (some succeeded)) (calls : after.calls = state.calls)
    (clusters : after.currentClusters = state.currentClusters ∨ after.currentClusters = newClusters)
    (apart : succeeded = false → after.currentClusters ≠ newClusters) : Retrying after := by
  refine ⟨?_, calls ▸ retrying.differ⟩
  intro others failed current
  rw [outcomes] at failed
  by_cases same : others = newClusters
  · subst same
    rw [Function.update_self] at failed
    exact absurd current (apart (Option.some.inj failed))
  · rw [Function.update_of_ne same] at failed
    rw [calls]
    obtain kept | new := clusters
    · exact retrying.retried others failed (kept.symm.trans current)
    · exact absurd (current.symm.trans new) same

theorem Retrying.handleClustersChange {state : State} (retrying : Retrying state) {newClusters : Clusters}
    (restores : Restores state (.change newClusters)) : Retrying (handleClustersChange computer state newClusters) := by
  unfold McpClient.handleClustersChange
  simp only
  split
  next off => exact retrying.settled rfl rfl (.inl rfl) fun _ => restores.1 (by simpa using off)
  next on =>
    have initialized : state.initialized = true := by simpa using on
    split
    next => exact retrying.settled rfl rfl (.inl rfl) fun failed => nomatch failed
    next changed =>
      split
      next thrown => exact absurd thrown (restores.2 initialized changed)
      next => exact retrying.settled rfl rfl (.inr rfl) fun failed => nomatch failed
      next =>
        -- the failure of these clusters is being repeated by the new call
        obtain ⟨⟨phase, list⟩, clusters, outcomes⟩ := restart_continues computer
          { state with currentClusters := newClusters, changes := state.changes + 1, last := some (newClusters, false) }
          (.change newClusters state.currentClusters (state.changes + 1))
        constructor
        · intro others failed current
          refine ⟨_, by rw [list]; exact List.mem_append_right _ (List.mem_singleton.mpr rfl), state.currentClusters, state.changes + 1, ?_⟩
          rw [← current, clusters]
        · intro call member
          rw [list, List.mem_append, List.mem_singleton] at member
          obtain member | rfl := member
          · exact retrying.differ call member
          · intro _ _ _ is
            cases is
            exact changed

theorem step_retrying {state next : State} {event : Event} (retrying : Retrying state) (restores : Restores state event)
    (taken : step computer state event = some next) : Retrying next := by
  cases event with
  | launch =>
    cases Option.some.inj taken
    split
    · exact retrying
    · exact retrying.added (awaitClient_continues computer state .launch) (fun _ ⟨_, _, is⟩ => nomatch is) rfl rfl rfl
  | change newClusters =>
    cases Option.some.inj taken
    exact retrying.handleClustersChange restores
  | reset =>
    cases Option.some.inj taken
    exact @Retrying.added state state _ _ retrying ⟨⟨_, rfl⟩, rfl, rfl⟩ (fun _ ⟨_, _, is⟩ => nomatch is) rfl rfl rfl
  | update mcpSettings =>
    cases Option.some.inj taken
    exact @Retrying.added state state _ _ retrying ⟨⟨_, rfl⟩, rfl, rfl⟩ (fun _ ⟨_, _, is⟩ => nomatch is) rfl rfl rfl
  | answered call confirmed =>
    simp only [step] at taken
    split at taken
    next kind found =>
      cases kind <;> cases taken
      all_goals
        cases confirmed
        · have rest := @Retrying.finish _ _ _ _ retrying found true fun failed => nomatch failed
          exact ⟨rest.retried, rest.differ⟩
        · exact retrying.moved found (restart_continues computer _ _) rfl rfl rfl
    next => cases taken
  | closed call succeeded =>
    simp only [step] at taken
    split at taken
    next kind client found =>
      cases Option.some.inj taken
      cases succeeded with
      | true => exact retrying.moved found (initializeAgain_continues _ _) rfl rfl rfl
      | false => exact retrying.finish found fun _ => restores
    next => cases taken
  | tools promise succeeded =>
    simp only [step] at taken
    split at taken
    next =>
      cases Option.some.inj taken
      cases succeeded <;> exact ⟨retrying.retried, retrying.differ⟩
    next => cases taken
  | resume call =>
    simp only [step] at taken
    split at taken
    next kind promise found =>
      obtain ⟨succeeded, ended, rfl⟩ := Option.map_eq_some_iff.mp taken
      exact retrying.finish found fun failed => restores kind promise found (failed ▸ ended)
    next => cases taken

/-! The servers of the current clusters. -/

variable (computer)

/-- The settings start the same for the clusters as for none. -/
def Alike (settings : Option MCPSettings) (clusters : Clusters) : Prop :=
  makeMcpServersFromSettings computer settings (clusters.getD []) = makeMcpServersFromSettings computer settings []

/-- The field refers to the client. -/
def Running (state : State) (client : Client) : Prop := ∃ index, state.client = some index ∧ state.clients[index]? = some client

/-- The call closes the client for a change with this number. -/
def Call.ClosesFor (call : Call) (number : Nat) : Prop :=
  ∃ newClusters oldClusters client, call = ⟨.change newClusters oldClusters number, .closing client⟩

/-- What servers are started, and that the last change makes no difference to them. -/
structure Started (state : State) : Prop where
  clusters : state.clusters = []
  made : ∀ client ∈ state.clients, client.servers = makeMcpServersFromSettings computer client.settings []
  alike : ∀ newClusters ended, state.last = some (newClusters, ended) → Alike computer state.settings newClusters

/-- The running client serves the clusters of the last change, or is going to be closed for it. -/
structure Serving (state : State) : Prop where
  started : Started computer state
  running : ∀ newClusters ended, state.last = some (newClusters, ended) → ∀ client, Running state client →
    Alike computer client.settings newClusters ∨ ∃ call ∈ state.calls, call.ClosesFor state.changes

/-- The clusters of changes make no difference to the servers. -/
def SameServers (state : State) : Event → Prop
  | .change newClusters => state.initialized = true → Alike computer state.settings newClusters ∧
      (state.currentClusters = newClusters ∨ hasClusterDependentServers state.settings = some false →
        ∀ client, Running state client → Alike computer client.settings newClusters)
  | .answered call true => ∀ mcpSettings phase, state.calls[call]? = some ⟨.update mcpSettings, phase⟩ →
      ∀ newClusters ended, state.last = some (newClusters, ended) → Alike computer (some mcpSettings) newClusters
  | _ => True

variable {computer}

theorem Serving.awaitClient {state : State} (serving : Serving computer state) (kind : Kind) : Serving computer (awaitClient computer state kind) := by
  have kept : ∀ phase newClusters ended, state.last = some (newClusters, ended) → ∀ client, Running state client →
      Alike computer client.settings newClusters ∨ ∃ call ∈ state.calls ++ [⟨kind, phase⟩], call.ClosesFor state.changes := by
    intro phase newClusters ended last client running
    exact (serving.running newClusters ended last client running).imp_right fun ⟨call, member, closes⟩ =>
      ⟨call, List.mem_append_left _ member, closes⟩
  unfold McpClient.awaitClient initializeClient doInitializeClient
  dsimp only
  split
  · exact ⟨⟨serving.started.clusters, serving.started.made, serving.started.alike⟩, kept _⟩
  · split
    · exact ⟨⟨serving.started.clusters, serving.started.made, serving.started.alike⟩, kept _⟩
    · split
      · exact ⟨⟨serving.started.clusters, serving.started.made, serving.started.alike⟩, kept _⟩
      · refine ⟨⟨serving.started.clusters, ?_, serving.started.alike⟩, ?_⟩
        · intro client member
          rw [List.mem_append, List.mem_singleton] at member
          obtain member | rfl := member
          · exact serving.started.made client member
          · simp only [serving.started.clusters]
        · intro newClusters ended last client ⟨index, held, found⟩
          -- the running client is the one that has just been made
          obtain rfl := Option.some.inj held
          rw [List.getElem?_append_right (Nat.le_refl _), Nat.sub_self] at found
          obtain rfl := Option.some.inj found
          exact .inl (serving.started.alike newClusters ended last)

theorem Serving.initializeAgain {state : State} (started : Started computer state) (kind : Kind) :
    Serving computer (initializeAgain computer state kind) := by
  apply Serving.awaitClient
  exact ⟨⟨started.clusters, started.made, started.alike⟩, fun _ _ _ _ ⟨_, held, _⟩ => nomatch held⟩

theorem Serving.restart {state : State} (started : Started computer state) (kind : Kind)
    (running : ∀ newClusters ended, state.last = some (newClusters, ended) → ∀ client, Running state client →
      Alike computer client.settings newClusters ∨ (∃ call ∈ state.calls, call.ClosesFor state.changes) ∨
        ∃ newClusters oldClusters, kind = .change newClusters oldClusters state.changes) :
    Serving computer (restart computer state kind) := by
  unfold McpClient.restart
  split
  next held _ =>
    refine ⟨⟨started.clusters, started.made, started.alike⟩, ?_⟩
    intro newClusters ended last client runs
    refine (running newClusters ended last client runs).imp_right fun others => ?_
    obtain ⟨call, member, closes⟩ | ⟨clusters, oldClusters, rfl⟩ := others
    · exact ⟨call, List.mem_append_left _ member, closes⟩
    · exact ⟨_, List.mem_append_right _ (List.mem_singleton.mpr rfl), clusters, oldClusters, held, rfl⟩
  next => exact Serving.initializeAgain started kind

theorem Serving.settled {state after : State} {newClusters : Clusters} {succeeded : Bool} (started : Started computer state)
    (settings : after.settings = state.settings) (clusters : after.clusters = state.clusters) (clients : after.clients = state.clients)
    (client : after.client = state.client) (last : after.last = if succeeded then some (newClusters, true) else none)
    (alike : succeeded = true → Alike computer state.settings newClusters ∧
      ∀ client, Running state client → Alike computer client.settings newClusters) : Serving computer after := by
  cases succeeded with
  | false =>
    have nothing : after.last = none := last
    exact ⟨⟨clusters.trans started.clusters, clients ▸ started.made, fun _ _ is => nomatch nothing.symm.trans is⟩,
      fun _ _ is => nomatch nothing.symm.trans is⟩
  | true =>
    have same : ∀ others ended, after.last = some (others, ended) → others = newClusters :=
      fun others ended is => (congrArg Prod.fst (Option.some.inj (last.symm.trans is))).symm
    refine ⟨⟨clusters.trans started.clusters, clients ▸ started.made, fun others ended is => ?_⟩, fun others ended is running runs => .inl ?_⟩
    · rw [same others ended is, settings]
      exact (alike rfl).1
    · rw [same others ended is]
      obtain ⟨index, held, found⟩ := runs
      exact (alike rfl).2 running ⟨index, client ▸ held, clients ▸ found⟩

theorem Serving.handleClustersChange {state : State} (serving : Serving computer state) {newClusters : Clusters}
    (same : SameServers computer state (.change newClusters)) : Serving computer (handleClustersChange computer state newClusters) := by
  have started := serving.started
  unfold McpClient.handleClustersChange
  simp only
  split
  next =>
    refine @Serving.settled _ state _ newClusters false started rfl rfl rfl rfl ?_ fun failed => nomatch failed
    simp [settle]
  next on =>
    have initialized : state.initialized = true := by simpa using on
    obtain ⟨alike, running⟩ := same initialized
    split
    next unchanged =>
      refine @Serving.settled _ state _ newClusters true started rfl rfl rfl rfl ?_ fun _ => ⟨alike, running (.inl unchanged)⟩
      simp [settle]
    next =>
      split
      next =>
        refine @Serving.settled _ state _ newClusters false started rfl rfl rfl rfl ?_ fun failed => nomatch failed
        simp [settle]
      next independent =>
        refine @Serving.settled _ state _ newClusters true started rfl rfl rfl rfl ?_ fun _ => ⟨alike, running (.inr independent)⟩
        simp [settle]
      next =>
        apply Serving.restart
        · refine ⟨started.clusters, started.made, fun others ended last => ?_⟩
          have is : others = newClusters := (congrArg Prod.fst (Option.some.inj last)).symm
          rw [is]
          exact alike
        · exact fun _ _ _ _ _ => .inr (.inr ⟨newClusters, state.currentClusters, rfl⟩)

theorem Serving.erased {state after : State} {call : Nat} {erased : Call} (serving : Serving computer state)
    (found : state.calls[call]? = some erased) (other : ¬erased.ClosesFor state.changes) (settings : after.settings = state.settings)
    (clusters : after.clusters = state.clusters) (clients : after.clients = state.clients) (client : after.client = state.client)
    (changes : after.changes = state.changes) (calls : after.calls = state.calls.eraseIdx call)
    (last : ∀ newClusters ended, after.last = some (newClusters, ended) → ∃ before, state.last = some (newClusters, before)) :
    Serving computer after := by
  refine ⟨⟨clusters.trans serving.started.clusters, clients ▸ serving.started.made, ?_⟩, ?_⟩
  · intro newClusters ended is
    obtain ⟨before, was⟩ := last newClusters ended is
    exact settings ▸ serving.started.alike newClusters before was
  · intro newClusters ended is running ⟨index, held, here⟩
    obtain ⟨before, was⟩ := last newClusters ended is
    rw [changes, calls]
    refine (serving.running newClusters before was running ⟨index, client ▸ held, clients ▸ here⟩).imp_right ?_
    intro ⟨closing, member, closes⟩
    obtain rfl | member := (mem_eraseIdx found).mp member
    · exact absurd closes other
    · exact ⟨closing, member, closes⟩

theorem Serving.finish {state : State} {call : Nat} {kind : Kind} {phase : Phase} (serving : Serving computer state)
    (found : state.calls[call]? = some ⟨kind, phase⟩) {succeeded : Bool} (open' : succeeded = true → ∀ client, phase ≠ .closing client) :
    Serving computer (finish kind succeeded { state with calls := state.calls.eraseIdx call }) := by
  have other : (∀ newClusters oldClusters, kind ≠ .change newClusters oldClusters state.changes) →
      ¬(Call.mk kind phase).ClosesFor state.changes := by
    intro different ⟨newClusters, oldClusters, _, is⟩
    exact different newClusters oldClusters (congrArg Call.kind is)
  cases kind with
  | change newClusters oldClusters number =>
    by_cases recent : number = state.changes
    · subst recent
      cases succeeded with
      | false =>
        have nothing : (McpClient.finish (.change newClusters oldClusters state.changes) false
            { state with calls := state.calls.eraseIdx call }).last = none := by simp [McpClient.finish, settle]
        exact ⟨⟨serving.started.clusters, serving.started.made, fun _ _ is => nomatch nothing.symm.trans is⟩,
          fun _ _ is => nomatch nothing.symm.trans is⟩
      | true =>
        refine serving.erased found (fun ⟨_, _, client, is⟩ => open' rfl client (congrArg Call.phase is)) rfl rfl rfl rfl rfl rfl ?_
        intro clusters ended is
        have recorded : state.last.map (fun last => (last.1, true)) = some (clusters, ended) := by
          simpa [McpClient.finish, settle] using is
        obtain ⟨before, was, same⟩ := Option.map_eq_some_iff.mp recorded
        have fst : before.1 = clusters := congrArg Prod.fst same
        exact ⟨before.2, was.trans (congrArg some (Prod.ext fst rfl))⟩
    · have kept : (McpClient.finish (.change newClusters oldClusters number) succeeded
          { state with calls := state.calls.eraseIdx call }).last = state.last := by
        cases succeeded <;> simp [McpClient.finish, settle, recent]
      have different := other fun _ _ is => recent (Kind.change.inj is).2.2
      cases succeeded <;>
        exact serving.erased found different rfl rfl rfl rfl rfl rfl fun clusters ended is => ⟨ended, kept.symm.trans is⟩
  | launch => exact serving.erased found (other nofun) rfl rfl rfl rfl rfl rfl fun _ ended is => ⟨ended, is⟩
  | reset => exact serving.erased found (other nofun) rfl rfl rfl rfl rfl rfl fun _ ended is => ⟨ended, is⟩
  | update mcpSettings => exact serving.erased found (other nofun) rfl rfl rfl rfl rfl rfl fun _ ended is => ⟨ended, is⟩

theorem step_serving {state next : State} {event : Event} (serving : Serving computer state) (same : SameServers computer state event)
    (taken : step computer state event = some next) : Serving computer next := by
  have started := serving.started
  cases event with
  | launch =>
    cases Option.some.inj taken
    split
    · exact serving
    · exact serving.awaitClient _
  | change newClusters =>
    cases Option.some.inj taken
    exact serving.handleClustersChange same
  | reset =>
    cases Option.some.inj taken
    exact ⟨⟨started.clusters, started.made, started.alike⟩, fun newClusters ended last client running =>
      (serving.running newClusters ended last client running).imp_right fun ⟨call, member, closes⟩ => ⟨call, List.mem_append_left _ member, closes⟩⟩
  | update mcpSettings =>
    cases Option.some.inj taken
    exact ⟨⟨started.clusters, started.made, started.alike⟩, fun newClusters ended last client running =>
      (serving.running newClusters ended last client running).imp_right fun ⟨call, member, closes⟩ => ⟨call, List.mem_append_left _ member, closes⟩⟩
  | answered call confirmed =>
    simp only [step] at taken
    split at taken
    next kind found =>
      have rest : Serving computer { state with calls := state.calls.eraseIdx call } :=
        serving.erased found (fun ⟨_, _, _, is⟩ => nomatch congrArg Call.phase is) rfl rfl rfl rfl rfl rfl fun _ ended is => ⟨ended, is⟩
      cases kind with
      | reset =>
        cases taken
        cases confirmed with
        | false => exact rest
        | true =>
          apply Serving.restart
          · exact ⟨started.clusters, started.made, started.alike⟩
          · exact fun newClusters ended last client running => (rest.running newClusters ended last client running).imp_right .inl
      | update mcpSettings =>
        cases taken
        cases confirmed with
        | false => exact rest
        | true =>
          apply Serving.restart
          · exact ⟨started.clusters, started.made, same mcpSettings _ found⟩
          · exact fun newClusters ended last client running => (rest.running newClusters ended last client running).imp_right .inl
      | launch => cases taken
      | change newClusters oldClusters number => cases taken
    next => cases taken
  | closed call succeeded =>
    simp only [step] at taken
    split at taken
    next kind client found =>
      cases Option.some.inj taken
      cases succeeded with
      | true =>
        apply Serving.initializeAgain
        refine ⟨started.clusters, ?_, started.alike⟩
        intro closed member
        obtain ⟨index, there⟩ := List.mem_iff_getElem?.mp member
        rw [List.getElem?_modify] at there
        obtain ⟨entry, was, rfl⟩ := Option.map_eq_some_iff.mp there
        have made := started.made entry (List.mem_of_getElem? was)
        split <;> exact made
      | false => exact serving.finish found fun is => nomatch is
    next => cases taken
  | tools promise succeeded =>
    simp only [step] at taken
    split at taken
    next =>
      cases Option.some.inj taken
      cases succeeded with
      | true => exact ⟨⟨started.clusters, started.made, started.alike⟩, serving.running⟩
      | false => exact ⟨⟨started.clusters, started.made, started.alike⟩, fun _ _ _ _ ⟨_, held, _⟩ => nomatch held⟩
    next => cases taken
  | resume call =>
    simp only [step] at taken
    split at taken
    next kind promise found =>
      obtain ⟨succeeded, _, rfl⟩ := Option.map_eq_some_iff.mp taken
      exact serving.finish found fun _ _ => nofun
    next => cases taken

/-! The claim for every run. -/

/-- What holds when no call is pending. -/
structure Follows (computer : Computer) (state : State) : Prop where
  single : state.calls = [] → ∀ client other, IsOpen state client → IsOpen state other → client = other
  served : state.calls = [] → ∀ newClusters, state.last = some (newClusters, true) → hasClusterDependentServers state.settings = some true →
    ∀ client, Running state client → client.servers = makeMcpServersFromSettings computer client.settings (newClusters.getD [])
  /-- A change to clusters for which the last one has failed is not passed over. -/
  retried : state.calls = [] → ∀ newClusters, state.outcomes newClusters = some false → unchanged state newClusters = false

/-- The steps that do not reach a defect. -/
structure Allowed (computer : Computer) (state : State) (event : Event) : Prop where
  keeps : KeepsClient state event
  same : SameServers computer state event
  restores : Restores state event

theorem follows {state : State} (single : Single state) (serving : Serving computer state) (retrying : Retrying state) : Follows computer state := by
  refine ⟨?_, ?_, ?_⟩
  · intro _ client other opened also
    exact Option.some.inj ((single.owned client opened).symm.trans (single.owned other also))
  · intro idle newClusters last _ client running
    obtain ⟨index, held, found⟩ := running
    rw [serving.started.made client (List.mem_of_getElem? found)]
    obtain alike | ⟨call, member, _⟩ := serving.running newClusters true last client ⟨index, held, found⟩
    · exact alike.symm
    · rw [idle] at member
      cases member
  · intro idle newClusters failed
    refine decide_eq_false fun same => ?_
    obtain ⟨call, member, _⟩ := retrying.retried newClusters failed same.2
    rw [idle] at member
    cases member

/-- In a run whose steps are all allowed the servers follow the clusters in every state that is reached. -/
theorem follows_of_allowed {settings : Option MCPSettings} {events : List Event}
    (allowed : Meets (step computer) (Allowed computer) (start settings) events) :
    ∀ before after state, events = before ++ after → run (step computer) (start settings) before = some state → Follows computer state := by
  intro before after state split reached
  subst split
  have all : Single state ∧ Serving computer state ∧ Retrying state := by
    apply invariant (fun state => Single state ∧ Serving computer state ∧ Retrying state) ?_ ?_ (meets_before allowed) reached
    · intro state event next ⟨single, serving, retrying⟩ allowed taken
      exact ⟨step_single single allowed.keeps taken, step_serving serving allowed.same taken, step_retrying retrying allowed.restores taken⟩
    · refine ⟨⟨?_, fun _ _ => rfl⟩, ⟨⟨rfl, ?_, nofun⟩, nofun⟩, ⟨nofun, ?_⟩⟩
      · intro client ⟨entry, found, _⟩
        cases found
      · intro client member
        cases member
      · intro call member
        cases member
  exact follows all.1 all.2.1 all.2.2

private def desktop : Computer := ⟨"/home/user", "", "", false, id, fun _ => none⟩

private def contextServer : Option MCPSettings :=
  some ⟨true, some [⟨"kubernetes", "kubectl-mcp", some ["--context", "K8SENSE_CURRENT_CLUSTER"], true, none⟩]⟩

/-- A launch, and a change to no cluster at all. -/
private def session : List Event :=
  [.launch, .tools 0 true, .resume 0, .change (some []), .closed 0 true, .tools 1 true, .resume 0]

/-- Where no cluster is chosen, the placeholder is rightly replaced by nothing. -/
theorem follows_session : ∃ state, run (step desktop) (start contextServer) session = some state ∧ state.calls = [] ∧
    state.last = some (some [], true) ∧ hasClusterDependentServers state.settings = some true ∧ Follows desktop state := by
  have follows : ∀ state, run (step desktop) (start contextServer) session = some state → Follows desktop state := by
    intro state
    refine follows_of_allowed ?_ _ [] state (List.append_nil _).symm
    refine ⟨⟨trivial, trivial, trivial⟩, ⟨trivial, trivial, trivial⟩, ⟨trivial, trivial, ?_⟩, ⟨trivial, ?_, ?_⟩, ⟨?_, trivial, trivial⟩,
      ⟨trivial, trivial, trivial⟩, ⟨trivial, trivial, ?_⟩, trivial⟩
    · intro kind promise found failed
      cases found
      cases failed
    · exact fun _ => ⟨rfl, fun _ _ _ => rfl⟩
    · exact ⟨nofun, fun _ _ => by decide +kernel⟩
    · intro kind client found other opened
      cases found
      have inside := opened.lt_length
      exact Nat.lt_one_iff.mp inside
    · intro kind promise found failed
      cases found
      cases failed
  exact ⟨_, rfl, rfl, rfl, by decide +kernel, follows _ rfl⟩

/-- The placeholder is replaced by nothing when the cluster is changed. -/
theorem placeholder_emptied : ∃ events state,
    run (step ⟨"/home/user", "", "", false, id, fun _ => none⟩)
      (start (some ⟨true, some [⟨"kubernetes", "kubectl-mcp", some ["--context", "K8SENSE_CURRENT_CLUSTER"], true, none⟩]⟩)) events =
        some state ∧ ¬Follows ⟨"/home/user", "", "", false, id, fun _ => none⟩ state := by
  refine ⟨[.launch, .tools 0 true, .resume 0, .change (some ["prod"]), .closed 0 true, .tools 1 true, .resume 0], _, rfl, ?_⟩
  intro follows
  have served := follows.served rfl (some ["prod"]) rfl (by decide +kernel) _ ⟨1, rfl, rfl⟩
  have args := congrArg (fun servers => servers.map fun server => server.2.args) served
  exact absurd args (by decide +kernel)

end K8Sense.App.McpClient
