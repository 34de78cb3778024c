import K8Sense.Library.Keyed
import K8Sense.Library.Text
import K8Sense.Library.Transition

/-! The tools of MCP servers in the desktop app, and which of them the user has disabled.
The state of the tools is looked up under the server and the tool that the full name of a
tool is split into. It is written to a file, too, which nothing reads again. -/

namespace K8Sense.App.ToolState
open Transition

universe u v
variable {Schema : Type u} {Args : Type v}

structure MCPToolState (Schema : Type u) where
  enabled : Bool
  usageCount : Nat
  inputSchema : Option Schema
  description : String

/-- The objects of the configuration, as maps. -/
abbrev MCPToolsConfig (Schema : Type u) := String → String → Option (MCPToolState Schema)

structure Tool (Schema : Type u) where
  serverName : String
  toolName : String
  schema : Option Schema
  description : String

/-- The client puts the name of the server before the name of the tool. -/
def fullName (serverName toolName : String) : String := serverName ++ "__" ++ toolName

def Tool.name (tool : Tool Schema) : String := fullName tool.serverName tool.toolName

def parseServerNameToolName (fullToolName : String) : String × String :=
  match Text.splitText fullToolName "__" with
  | serverName :: part :: parts => (serverName, Text.concat "__" (part :: parts))
  | _ => ("default", fullToolName)

namespace MCPToolsConfig

def put (serverName toolName : String) (toolState : MCPToolState Schema) (config : MCPToolsConfig Schema) : MCPToolsConfig Schema :=
  fun server tool => if server = serverName ∧ tool = toolName then some toolState else config server tool

variable (config : MCPToolsConfig Schema)

def isToolEnabled (serverName toolName : String) : Bool :=
  match config serverName toolName with
  | none => true
  | some toolState => toolState.enabled

def setToolEnabled (serverName toolName : String) (enabled : Bool) : MCPToolsConfig Schema :=
  put serverName toolName { (config serverName toolName).getD ⟨true, 0, none, ""⟩ with enabled } config

def recordToolUsage (serverName toolName : String) : MCPToolsConfig Schema :=
  let toolState := (config serverName toolName).getD ⟨true, 0, none, ""⟩
  put serverName toolName { toolState with usageCount := toolState.usageCount + 1 } config

/-- A tool that is offered keeps whether it is enabled and how often it has been used. -/
def offeredState (tool : Tool Schema) : MCPToolState Schema :=
  let oldToolState := config (parseServerNameToolName tool.name).1 (parseServerNameToolName tool.name).2
  ⟨(oldToolState.map MCPToolState.enabled).getD true, (oldToolState.map MCPToolState.usageCount).getD 0, tool.schema, tool.description⟩

/-- Only the tools offered are left. -/
def replaceToolsConfig (tools : List (Tool Schema)) : MCPToolsConfig Schema :=
  tools.foldl (fun newConfig tool =>
    put (parseServerNameToolName tool.name).1 (parseServerNameToolName tool.name).2 (config.offeredState tool) newConfig) fun _ _ => none

def initConfigFromClientTools (clientTools : List (Tool Schema)) : MCPToolsConfig Schema :=
  if clientTools.isEmpty then fun _ _ => none else config.replaceToolsConfig clientTools

end MCPToolsConfig

/-- A configuration as the renderer sends it. -/
abbrev Rows (Schema : Type u) := List ((String × String) × MCPToolState Schema)

def Rows.config (rows : Rows Schema) : MCPToolsConfig Schema := fun serverName toolName => Keyed.lookup (serverName, toolName) rows

/-- What the user has chosen once the configuration is confirmed. -/
def Rows.choices (rows : Rows Schema) (choice : String → String → Option Bool) (serverName toolName : String) : Option Bool :=
  match rows.config serverName toolName with
  | some toolState => some toolState.enabled
  | none => choice serverName toolName

structure State (Schema : Type u) where
  config : MCPToolsConfig Schema
  client : Bool
  clientTools : List (Tool Schema)
  isInitialized : Bool
  initializationPromise : Bool
  /-- Initialisations that wait for the tools of the servers. -/
  waiting : Nat
  /-- Tools that run, under the names that their full names are split into. -/
  running : List (String × String)
  /-- What the user has chosen last for a tool of a server. -/
  choice : String → String → Option Bool

def start (choice : String → String → Option Bool) : State Schema :=
  ⟨fun _ _ => none, false, [], false, false, 0, [], choice⟩

/-- What happens to the client, up to where it waits for something. -/
inductive Event (Schema : Type u) (Args : Type v) where
  /-- A call of `initializeClient`, with whether any server is enabled. -/
  | initializeClient (servers : Bool)
  /-- The servers have answered, or failed. -/
  | tools (clientTools : Option (List (Tool Schema)))
  /-- The client is taken away for a reset, new settings or other clusters. -/
  | reset
  | cleanup
  | setToolEnabled (serverName toolName : String) (enabled : Bool)
  | updateToolsConfig (userConfirmed : Bool) (toolsConfig : Rows Schema)
  | executeTool (toolName : String) (args : Args)
  /-- A tool that runs has ended without an error. -/
  | executed (serverName toolName : String)
  | restart

/-- The objects of the configuration are maps for the names of the event. -/
def Event.plain : Event Schema Args → Bool
  | .tools (some clientTools) => clientTools.all fun tool =>
    (parseServerNameToolName tool.name).1 ∉ Keyed.inherited ∧ (parseServerNameToolName tool.name).2 ∉ Keyed.inherited
  | .setToolEnabled serverName toolName _ => serverName ∉ Keyed.inherited ∧ toolName ∉ Keyed.inherited
  | .updateToolsConfig _ toolsConfig => toolsConfig.all fun row => row.1.1 ∉ Keyed.inherited ∧ row.1.2 ∉ Keyed.inherited
  | _ => true

section
variable (validateToolArgs : Option Schema → Args → Bool)

/-- The tool that is invoked, if there is one. -/
def mcpExecuteTool (state : State Schema) (toolName : String) (args : Args) : Option (Tool Schema) :=
  if state.client = false ∨ state.clientTools.isEmpty then none
  else if state.config.isToolEnabled (parseServerNameToolName toolName).1 (parseServerNameToolName toolName).2 then
    match state.clientTools.find? fun tool => tool.name = toolName with
    | some tool => if validateToolArgs tool.schema args then some tool else none
    | none => none
  else none

def step (state : State Schema) (event : Event Schema Args) : Option (State Schema) :=
  if event.plain = false then none
  else match event with
  | .initializeClient servers =>
    if state.isInitialized ∨ state.initializationPromise then some state
    else if servers then some { state with client := true, initializationPromise := true, waiting := state.waiting + 1 }
    else some { state with isInitialized := true, initializationPromise := true }
  | .tools clientTools =>
    if state.waiting = 0 then none
    else match clientTools with
    | some clientTools => some { state with
        clientTools, config := state.config.initConfigFromClientTools clientTools, isInitialized := true, waiting := state.waiting - 1 }
    | none => some { state with client := false, isInitialized := false, initializationPromise := false, waiting := state.waiting - 1 }
  | .reset => some { state with client := false, isInitialized := false, initializationPromise := false }
  | .cleanup => some { state with client := false, clientTools := [], isInitialized := false, initializationPromise := false }
  | .setToolEnabled serverName toolName enabled => some { state with
      config := state.config.setToolEnabled serverName toolName enabled
      choice := fun server tool => if server = serverName ∧ tool = toolName then some enabled else state.choice server tool }
  | .updateToolsConfig userConfirmed toolsConfig =>
    if userConfirmed then some { state with config := toolsConfig.config, choice := toolsConfig.choices state.choice }
    else some state
  | .executeTool toolName args =>
    match mcpExecuteTool validateToolArgs state toolName args with
    | some _ => some { state with running := parseServerNameToolName toolName :: state.running }
    | none => some state
  | .executed serverName toolName =>
    if (serverName, toolName) ∈ state.running then some { state with
      config := state.config.recordToolUsage serverName toolName
      running := state.running.erase (serverName, toolName) }
    else none
  | .restart => some (start state.choice)

end

/-- A tool that the user has disabled is disabled under the names that its full name is
split into. -/
def Refused (state : State Schema) : Prop :=
  ∀ serverName toolName, state.choice serverName toolName = some false →
    state.config.isToolEnabled (parseServerNameToolName (fullName serverName toolName)).1
      (parseServerNameToolName (fullName serverName toolName)).2 = false

/-- A disabled tool stays disabled in a run, and is never invoked. -/
structure Stays (validateToolArgs : Option Schema → Args → Bool) (events : List (Event Schema Args)) : Prop where
  refused : ∀ before after state, events = before ++ after →
    run (step validateToolArgs) (start fun _ _ => none) before = some state → Refused state
  invoked : ∀ before after state toolName args tool, events = before ++ .executeTool toolName args :: after →
    run (step validateToolArgs) (start fun _ _ => none) before = some state →
      mcpExecuteTool validateToolArgs state toolName args = some tool → state.choice tool.serverName tool.toolName ≠ some false

/-- Nothing that is disabled gets lost: the servers offer every disabled tool whenever
their tools are read, a confirmed configuration has every disabled tool as it is chosen,
and the app is not started again while one is disabled. A tool is disabled and enabled
under the names that its full name is split into. -/
def Keeps (state : State Schema) : Event Schema Args → Prop
  | .tools (some clientTools) => ∀ serverName toolName, state.choice serverName toolName = some false →
    ∃ tool ∈ clientTools, parseServerNameToolName tool.name = parseServerNameToolName (fullName serverName toolName)
  | .setToolEnabled serverName toolName false =>
    parseServerNameToolName (fullName serverName toolName) = (serverName, toolName) ∨
      state.config.isToolEnabled (parseServerNameToolName (fullName serverName toolName)).1
        (parseServerNameToolName (fullName serverName toolName)).2 = false
  | .setToolEnabled serverName toolName true => ∀ otherServer otherTool, state.choice otherServer otherTool = some false →
    parseServerNameToolName (fullName otherServer otherTool) = (serverName, toolName) →
      otherServer = serverName ∧ otherTool = toolName
  | .updateToolsConfig true toolsConfig => ∀ serverName toolName, toolsConfig.choices state.choice serverName toolName = some false →
    ∃ toolState, toolsConfig.config (parseServerNameToolName (fullName serverName toolName)).1
      (parseServerNameToolName (fullName serverName toolName)).2 = some toolState ∧ toolState.enabled = false
  | .restart => ∀ serverName toolName, state.choice serverName toolName ≠ some false
  | _ => True

/-! The configuration. -/

namespace MCPToolsConfig

variable {config : MCPToolsConfig Schema} {serverName toolName : String}

theorem disabled_iff (server tool : String) :
    config.isToolEnabled server tool = false ↔ ∃ toolState, config server tool = some toolState ∧ toolState.enabled = false := by
  unfold isToolEnabled
  cases config server tool <;> simp

theorem enabled_put {toolState : MCPToolState Schema} (server tool : String) :
    (put serverName toolName toolState config).isToolEnabled server tool =
      if server = serverName ∧ tool = toolName then toolState.enabled else config.isToolEnabled server tool := by
  unfold isToolEnabled put
  by_cases same : server = serverName ∧ tool = toolName
  · rw [if_pos same, if_pos same]
  · rw [if_neg same, if_neg same]

theorem enabled_set (enabled : Bool) (server tool : String) :
    (config.setToolEnabled serverName toolName enabled).isToolEnabled server tool =
      if server = serverName ∧ tool = toolName then enabled else config.isToolEnabled server tool :=
  enabled_put server tool

theorem enabled_record (server tool : String) :
    (config.recordToolUsage serverName toolName).isToolEnabled server tool = config.isToolEnabled server tool := by
  rw [recordToolUsage, enabled_put]
  split
  next same =>
    obtain ⟨rfl, rfl⟩ := same
    rw [isToolEnabled]
    cases config server tool <;> rfl
  next => rfl

theorem enabled_offered (tool : Tool Schema) : (config.offeredState tool).enabled =
    config.isToolEnabled (parseServerNameToolName tool.name).1 (parseServerNameToolName tool.name).2 := by
  unfold offeredState isToolEnabled
  cases config (parseServerNameToolName tool.name).1 (parseServerNameToolName tool.name).2 <;> rfl

theorem enabled_fold (tools : List (Tool Schema)) {server tool : String} {newConfig : MCPToolsConfig Schema}
    (inside : newConfig.isToolEnabled server tool = false → config.isToolEnabled server tool = false) :
    (tools.foldl (fun newConfig tool => put (parseServerNameToolName tool.name).1 (parseServerNameToolName tool.name).2
      (config.offeredState tool) newConfig) newConfig).isToolEnabled server tool = false ↔
    newConfig.isToolEnabled server tool = false ∨
      config.isToolEnabled server tool = false ∧ ∃ offered ∈ tools, parseServerNameToolName offered.name = (server, tool) := by
  induction tools generalizing newConfig with
  | nil => simp
  | cons offered rest ih =>
    have next : (put (parseServerNameToolName offered.name).1 (parseServerNameToolName offered.name).2 (config.offeredState offered)
        newConfig).isToolEnabled server tool =
          if parseServerNameToolName offered.name = (server, tool) then config.isToolEnabled server tool
          else newConfig.isToolEnabled server tool := by
      rw [enabled_put, enabled_offered]
      by_cases here : parseServerNameToolName offered.name = (server, tool)
      · rw [here, if_pos ⟨rfl, rfl⟩, if_pos rfl]
      · rw [if_neg fun same => here (Prod.ext same.1.symm same.2.symm), if_neg here]
    rw [List.foldl_cons, ih]
    · rw [next, List.exists_mem_cons_iff]
      split
      next here =>
        constructor
        · rintro (off | ⟨off, -⟩)
          · exact .inr ⟨off, .inl here⟩
          · exact .inr ⟨off, .inl here⟩
        · rintro (off | ⟨off, -⟩)
          · exact .inl (inside off)
          · exact .inl off
      next here => simp [here]
    · rw [next]
      intro off
      split at off
      · exact off
      · exact inside off

theorem enabled_replace (tools : List (Tool Schema)) (server tool : String) :
    (config.replaceToolsConfig tools).isToolEnabled server tool = false ↔
      config.isToolEnabled server tool = false ∧ ∃ offered ∈ tools, parseServerNameToolName offered.name = (server, tool) := by
  have empty : ¬(MCPToolsConfig.isToolEnabled (fun _ _ => none : MCPToolsConfig Schema) server tool = false) := nofun
  rw [replaceToolsConfig, enabled_fold tools fun off => absurd off empty]
  exact ⟨fun either => either.resolve_left empty, .inr⟩

theorem enabled_init (clientTools : List (Tool Schema)) (server tool : String) :
    (config.initConfigFromClientTools clientTools).isToolEnabled server tool = false ↔
      config.isToolEnabled server tool = false ∧ ∃ offered ∈ clientTools, parseServerNameToolName offered.name = (server, tool) := by
  unfold initConfigFromClientTools
  split
  next empty =>
    rw [List.isEmpty_iff.mp empty]
    exact ⟨nofun, fun off => by simpa using off.2⟩
  next => exact enabled_replace clientTools server tool

end MCPToolsConfig

/-! Runs. -/

section
variable {validateToolArgs : Option Schema → Args → Bool} {state next : State Schema}

theorem keeps_disable (refused : Refused state) {serverName toolName : String} :
    Keeps state (.setToolEnabled serverName toolName false : Event Schema Args) ↔
      Refused { state with
        config := state.config.setToolEnabled serverName toolName false
        choice := fun server tool => if server = serverName ∧ tool = toolName then some false else state.choice server tool } := by
  unfold Keeps Refused
  simp only [MCPToolsConfig.enabled_set]
  constructor
  · intro keeps server tool disabled
    split
    next => rfl
    next elsewhere =>
      split at disabled
      next same =>
        obtain ⟨rfl, rfl⟩ := same
        exact keeps.resolve_left fun same => elsewhere (by rw [same]; exact ⟨rfl, rfl⟩)
      next => exact refused server tool disabled
  · intro refused
    have own := refused serverName toolName (if_pos ⟨rfl, rfl⟩)
    split at own
    next same => exact .inl (Prod.ext same.1 same.2)
    next => exact .inr own

theorem keeps_enable (refused : Refused state) {serverName toolName : String} :
    Keeps state (.setToolEnabled serverName toolName true : Event Schema Args) ↔
      Refused { state with
        config := state.config.setToolEnabled serverName toolName true
        choice := fun server tool => if server = serverName ∧ tool = toolName then some true else state.choice server tool } := by
  unfold Keeps Refused
  simp only [MCPToolsConfig.enabled_set]
  constructor
  · intro keeps server tool disabled
    split at disabled
    next => cases disabled
    next other =>
      rw [if_neg fun same => other (keeps server tool disabled (Prod.ext same.1 same.2))]
      exact refused server tool disabled
  · intro refused server tool disabled same
    by_contra other
    have off := refused server tool (by rw [if_neg other]; exact disabled)
    rw [same, if_pos ⟨rfl, rfl⟩] at off
    cases off

theorem keeps_iff {event : Event Schema Args} (refused : Refused state) (taken : step validateToolArgs state event = some next) :
    Keeps state event ↔ Refused next := by
  unfold step at taken
  split at taken
  next => cases taken
  next =>
    cases event with
    | initializeClient servers =>
      refine iff_of_true trivial ?_
      dsimp only at taken
      split at taken
      · cases taken; exact refused
      · split at taken <;> cases taken <;> exact refused
    | tools clientTools =>
      dsimp only at taken
      split at taken
      next => cases taken
      next =>
        cases clientTools with
        | none =>
          cases taken
          exact iff_of_true trivial refused
        | some clientTools =>
          cases taken
          refine forall_congr' fun serverName => forall_congr' fun toolName => forall_congr' fun disabled => ?_
          rw [MCPToolsConfig.enabled_init]
          exact ⟨fun offered => ⟨refused serverName toolName disabled, offered⟩, fun off => off.2⟩
    | reset => cases taken; exact iff_of_true trivial refused
    | cleanup => cases taken; exact iff_of_true trivial refused
    | setToolEnabled serverName toolName enabled =>
      cases taken
      cases enabled with
      | false => exact keeps_disable refused
      | true => exact keeps_enable refused
    | updateToolsConfig userConfirmed toolsConfig =>
      cases userConfirmed with
      | false =>
        cases taken
        exact iff_of_true trivial refused
      | true =>
        cases taken
        refine forall_congr' fun serverName => forall_congr' fun toolName => forall_congr' fun _ => ?_
        exact (MCPToolsConfig.disabled_iff _ _).symm
    | executeTool toolName args =>
      refine iff_of_true trivial ?_
      dsimp only at taken
      split at taken <;> cases taken <;> exact refused
    | executed serverName toolName =>
      refine iff_of_true trivial ?_
      dsimp only at taken
      split at taken
      · cases taken
        intro server tool disabled
        rw [MCPToolsConfig.enabled_record]
        exact refused server tool disabled
      · cases taken
    | restart =>
      cases taken
      constructor
      · intro none server tool disabled
        exact absurd disabled (none server tool)
      · intro refused server tool disabled
        exact nomatch refused server tool disabled

theorem mcpExecuteTool_invoked {toolName : String} {args : Args} {tool : Tool Schema}
    (invoked : mcpExecuteTool validateToolArgs state toolName args = some tool) :
    tool.name = toolName ∧
      state.config.isToolEnabled (parseServerNameToolName toolName).1 (parseServerNameToolName toolName).2 = true := by
  unfold mcpExecuteTool at invoked
  split at invoked
  next => cases invoked
  next =>
    split at invoked
    next enabled =>
      split at invoked
      next found is =>
        split at invoked
        next =>
          cases invoked
          exact ⟨of_decide_eq_true (List.find?_eq_some_iff_append.mp is).1, enabled⟩
        next => cases invoked
      next => cases invoked
    next => cases invoked

theorem refused_invoked (refused : Refused state) {toolName : String} {args : Args} {tool : Tool Schema}
    (invoked : mcpExecuteTool validateToolArgs state toolName args = some tool) :
    state.choice tool.serverName tool.toolName ≠ some false := by
  obtain ⟨rfl, enabled⟩ := mcpExecuteTool_invoked invoked
  intro disabled
  exact Bool.false_ne_true ((refused tool.serverName tool.toolName disabled).symm.trans enabled)

/-- Disabled tools stay disabled exactly when no step loses what the user has chosen. -/
theorem stays_iff {events : List (Event Schema Args)} {last : State Schema}
    (ran : run (step validateToolArgs) (start fun _ _ => none) events = some last) :
    Stays validateToolArgs events ↔ Meets (step validateToolArgs) Keeps (start fun _ _ => none) events := by
  have initial : Refused (start fun _ _ => none : State Schema) := nofun
  have throughout : (∀ before after state, events = before ++ after →
      run (step validateToolArgs) (start fun _ _ => none) before = some state → Refused state) ↔
        Meets (step validateToolArgs) Keeps (start fun _ _ => none) events :=
    throughout_iff (fun _ => True) Refused (fun _ _ _ _ _ _ => trivial) (fun _ _ _ _ refused taken => keeps_iff refused taken)
      trivial initial ran
  rw [← throughout]
  refine ⟨Stays.refused, fun refused => ⟨refused, ?_⟩⟩
  intro before after state toolName args tool split reached invoked
  exact refused_invoked (refused before (.executeTool toolName args :: after) state split reached) invoked

end

private def anyArgs (_ : Option Unit) (_ : Unit) : Bool := true

private def deleteTool : Tool Unit := ⟨"k8s", "delete", none, ""⟩

private def disableDelete : List (Event Unit Unit) :=
  [.initializeClient true, .tools (some [deleteTool]), .setToolEnabled "k8s" "delete" false]

private theorem deleteTool_parsed : parseServerNameToolName (fullName "k8s" "delete") = ("k8s", "delete") := by decide

/-- The servers are restarted and offer the tool again. -/
theorem disabled_after_reset : Stays anyArgs
    (disableDelete ++ [.reset, .initializeClient true, .tools (some [deleteTool]), .executeTool "k8s__delete" ()]) := by
  apply (stays_iff rfl).mpr
  refine ⟨trivial, nofun, .inl deleteTool_parsed, trivial, trivial, ?_, trivial, trivial⟩
  intro serverName toolName disabled
  refine ⟨deleteTool, List.mem_singleton.mpr rfl, ?_⟩
  by_cases same : serverName = "k8s" ∧ toolName = "delete"
  · obtain ⟨rfl, rfl⟩ := same
    rfl
  · have untouched : (if serverName = "k8s" ∧ toolName = "delete" then some false else none) = some false := disabled
    rw [if_neg same] at untouched
    cases untouched

/-- After the app is started again the disabled tool is invoked. -/
theorem restart_enables : ¬∀ (Schema Args : Type) (validateToolArgs : Option Schema → Args → Bool) (events : List (Event Schema Args))
    (last : State Schema), run (step validateToolArgs) (start fun _ _ => none) events = some last → Stays validateToolArgs events := by
  intro every
  have stays := every Unit Unit anyArgs (disableDelete ++ [Event.restart, Event.initializeClient true,
    Event.tools (some [deleteTool]), Event.executeTool "k8s__delete" ()]) _ rfl
  exact stays.invoked (disableDelete ++ [Event.restart, Event.initializeClient true, Event.tools (some [deleteTool])]) [] _
    "k8s__delete" ()
    deleteTool rfl rfl rfl rfl

end K8Sense.App.ToolState
