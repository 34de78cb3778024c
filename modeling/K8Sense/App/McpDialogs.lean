import K8Sense.App.McpSettings
import K8Sense.App.ToolState

/-! What the user is asked before settings of MCP servers or the configuration of their tools
are changed, and what would change. -/

namespace K8Sense.App.McpDialogs
open McpSettings ToolState

universe u
variable {Schema : Type u}

/-- The objects of the configuration, as rows. No key is one that every object inherits a member under. -/
structure ToolsConfig (Schema : Type u) where
  rows : List (String × List (String × MCPToolState Schema))
  plain : ∀ server ∈ rows, server.1 ∉ Keyed.inherited ∧ ∀ tool ∈ server.2, tool.1 ∉ Keyed.inherited

/-- Under these names an object without such a key has nothing. -/
def Plain (serverName toolName : String) : Prop := serverName ∉ Keyed.inherited ∧ toolName ∉ Keyed.inherited

def toolAt (config : ToolsConfig Schema) (serverName toolName : String) : Option (MCPToolState Schema) :=
  (Keyed.lookup serverName config.rows).bind (Keyed.lookup toolName)

def isToolEnabled (config : ToolsConfig Schema) (serverName toolName : String) : Bool :=
  match Keyed.lookup serverName config.rows with
  | none => true
  | some serverConfig =>
    match Keyed.lookup toolName serverConfig with
    | none => true
    | some toolState => toolState.enabled

def displayName (serverName toolName : String) : String := toolName ++ " (" ++ serverName ++ ")"

/-- The keys of the first object, and those that only the second one has. -/
def allKeys {α : Type u} (first second : List (String × α)) : List String :=
  first.map Prod.fst ++ (second.map Prod.fst).filter fun key => key ∉ first.map Prod.fst

section
variable (currentConfig newConfig : ToolsConfig Schema)

/-- The tools of all servers, in the order of the loops. -/
def allTools : List (String × String) :=
  (allKeys currentConfig.rows newConfig.rows).flatMap fun serverName =>
    (allKeys ((Keyed.lookup serverName currentConfig.rows).getD []) ((Keyed.lookup serverName newConfig.rows).getD [])).map fun toolName =>
      (serverName, toolName)

def isAdded (serverName toolName : String) : Bool :=
  (toolAt currentConfig serverName toolName).isNone && (toolAt newConfig serverName toolName).isSome

def isRemoved (serverName toolName : String) : Bool :=
  (toolAt currentConfig serverName toolName).isSome && (toolAt newConfig serverName toolName).isNone

/-- The tool is listed with the state: it is new, or has had the other state. -/
def turns (enabled : Bool) (serverName toolName : String) : Bool :=
  match toolAt currentConfig serverName toolName, toolAt newConfig serverName toolName with
  | none, some newTool => newTool.enabled = enabled
  | some currentTool, some newTool => currentTool.enabled ≠ newTool.enabled && newTool.enabled = enabled
  | _, none => false

def listed (is : String → String → Bool) : List String :=
  ((allTools currentConfig newConfig).filter fun tool => is tool.1 tool.2).map fun tool => displayName tool.1 tool.2

def enabledTools : List String := listed currentConfig newConfig (turns currentConfig newConfig true)

def disabledTools : List String := listed currentConfig newConfig (turns currentConfig newConfig false)

def addedTools : List String := listed currentConfig newConfig (isAdded currentConfig newConfig)

def removedTools : List String := listed currentConfig newConfig (isRemoved currentConfig newConfig)

def totalChanges : Nat :=
  (enabledTools currentConfig newConfig).length + (disabledTools currentConfig newConfig).length +
    (addedTools currentConfig newConfig).length + (removedTools currentConfig newConfig).length

/-- A heading with the names below it, if there are any. -/
def summaryPart (heading : String) (names : List String) : List String :=
  if names.length > 0 then [heading ++ " (" ++ toString names.length ++ "): " ++ Text.concat ", " names] else []

/-- What is added or removed is counted, but has no heading. -/
def summarizeMcpToolStateChanges : Nat × String :=
  (totalChanges currentConfig newConfig,
    Text.concat "\n\n" (summaryPart "✓ ENABLE" (enabledTools currentConfig newConfig) ++
      summaryPart "✗ DISABLE" (disabledTools currentConfig newConfig)))

end

/-! What should hold of the dialogs. -/

/-- The command line that is started under a name. -/
def started (computer : Computer) (clusters : List String) (settings : Option MCPSettings) (name : String) : Option (String × List String) :=
  (Keyed.lookup name (makeMcpServersFromSettings computer settings clusters)).map fun server => (server.command, server.args)

section
variable (computer : Computer) (clusters : List String) (current next other : Option MCPSettings) (currentConfig newConfig : ToolsConfig Schema)

/-- An entry named `__proto__` is none of the object of servers but sets its prototype, and is not started. -/
structure Complete : Prop where
  noticed : (∃ name, name ≠ "__proto__" ∧ started computer clusters current name ≠ started computer clusters next name) →
    settingsChanges current next ≠ []
  distinct : (∃ name, name ≠ "__proto__" ∧ started computer clusters next name ≠ started computer clusters other name) →
    settingsChanges current next ≠ settingsChanges current other
  /-- The names that the text has under the heading. -/
  named : ∀ serverName toolName, Plain serverName toolName →
    isToolEnabled currentConfig serverName toolName ≠ isToolEnabled newConfig serverName toolName →
    displayName serverName toolName ∈
      if isToolEnabled newConfig serverName toolName then enabledTools currentConfig newConfig else disabledTools currentConfig newConfig
  counted : (∃ serverName toolName, Plain serverName toolName ∧
    isToolEnabled currentConfig serverName toolName ≠ isToolEnabled newConfig serverName toolName) →
    (summarizeMcpToolStateChanges currentConfig newConfig).1 ≠ 0

def names (settings : Option MCPSettings) : List String := (servers settings).map MCPServer.name

/-- Each entry of the request is like the first current entry of its name, and there are the same names. -/
structure Unmodified : Prop where
  flag : isEnabled current = isEnabled next
  kept : ∀ name, name ∈ names next ↔ name ∈ names current
  same : ∀ server ∈ servers next, ∀ first, (servers current).find? (fun entry => entry.name = server.name) = some first →
    first.enabled = server.enabled ∧ first.command = server.command ∧ first.args.getD [] = server.args.getD [] ∧
      JsonText.stringifyObject (first.env.getD []) = JsonText.stringifyObject (server.env.getD [])

/-- What the list of changes has of an added server: the name and the command. -/
def addedLabel (server : MCPServer) : String := server.name ++ "\" (" ++ server.command

def modifiedLabel (modification : String × List String) : String := modification.1 ++ "\": " ++ Text.concat ", " modification.2

/-- The requests agree on whether the servers are enabled, on which current servers are left, and on the texts
of the added servers and of the modified ones. -/
structure Alike : Prop where
  flag : isEnabled next = isEnabled other
  added : (added (servers current) (servers next)).map addedLabel = (added (servers current) (servers other)).map addedLabel
  kept : ∀ name ∈ names current, name ∈ names next ↔ name ∈ names other
  modified : (modified (servers current) (servers next)).map modifiedLabel = (modified (servers current) (servers other)).map modifiedLabel

structure Revealing : Prop where
  /-- Of several current entries of a name the first one, which the request is compared with, starts what is started. -/
  first : Unmodified current next → isEnabled current = true → ∀ first ∈ servers current, first.name ≠ "__proto__" →
    (servers current).find? (fun entry => entry.name = first.name) = some first →
    started computer clusters current first.name =
      if first.startable then some (first.command, expandEnvAndResolvePaths computer (first.args.getD []) (firstCluster clusters)) else none
  /-- What is not in the texts does not matter: the arguments of an added server and whether it is enabled, and which
  of several entries of a name comes last. -/
  hidden : Alike current next other → ∀ name, name ≠ "__proto__" → started computer clusters next name = started computer clusters other name
  /-- No disabled tool is left out, but for one that is shown under the name of another. -/
  removed : ∀ serverName toolName toolState, toolAt currentConfig serverName toolName = some toolState → toolState.enabled = false →
    toolAt newConfig serverName toolName = none →
    ∃ otherServer otherTool newTool, displayName otherServer otherTool = displayName serverName toolName ∧
      toolAt newConfig otherServer otherTool = some newTool ∧ newTool.enabled = true ∧
      ∀ currentTool, toolAt currentConfig otherServer otherTool = some currentTool → currentTool.enabled = false

end

/-! Tools. -/

section
variable {currentConfig newConfig config : ToolsConfig Schema} {serverName toolName : String} {enabled : Bool}

theorem isToolEnabled_eq : isToolEnabled config serverName toolName = ((toolAt config serverName toolName).map MCPToolState.enabled).getD true := by
  unfold isToolEnabled toolAt
  cases Keyed.lookup serverName config.rows with
  | none => rfl
  | some serverConfig =>
    simp only [Option.bind_some]
    cases Keyed.lookup toolName serverConfig with
    | none => rfl
    | some toolState => rfl

theorem plain_of_toolAt {toolState : MCPToolState Schema} (found : toolAt config serverName toolName = some toolState) :
    Plain serverName toolName := by
  obtain ⟨serverConfig, server, tool⟩ := Option.bind_eq_some_iff.mp found
  obtain ⟨plain, tools⟩ := config.plain _ (Keyed.mem_of_lookup server)
  exact ⟨plain, tools _ (Keyed.mem_of_lookup tool)⟩

theorem mem_allKeys {α : Type u} {first second : List (String × α)} {key : String} :
    key ∈ allKeys first second ↔ key ∈ first.map Prod.fst ∨ key ∈ second.map Prod.fst := by
  rw [allKeys, List.mem_append, List.mem_filter]
  constructor
  · rintro (inFirst | ⟨inSecond, _⟩)
    · exact .inl inFirst
    · exact .inr inSecond
  · intro either
    by_cases inFirst : key ∈ first.map Prod.fst
    · exact .inl inFirst
    · exact .inr ⟨either.resolve_left inFirst, by simpa using inFirst⟩

theorem mem_keys {α : Type u} {key : String} {value : α} {rows : List (String × α)} (found : Keyed.lookup key rows = some value) :
    key ∈ rows.map Prod.fst :=
  List.mem_map.mpr ⟨(key, value), Keyed.mem_of_lookup found, rfl⟩

theorem mem_allTools (known : (toolAt currentConfig serverName toolName).isSome ∨ (toolAt newConfig serverName toolName).isSome) :
    (serverName, toolName) ∈ allTools currentConfig newConfig := by
  rw [allTools, List.mem_flatMap]
  refine ⟨serverName, mem_allKeys.mpr ?_, List.mem_map.mpr ⟨toolName, mem_allKeys.mpr ?_, rfl⟩⟩
  · refine known.imp (fun some => ?_) fun some => ?_
    all_goals
      obtain ⟨toolState, found⟩ := Option.isSome_iff_exists.mp some
      obtain ⟨serverConfig, server, _⟩ := Option.bind_eq_some_iff.mp found
      exact mem_keys server
  · refine known.imp (fun some => ?_) fun some => ?_
    all_goals
      obtain ⟨toolState, found⟩ := Option.isSome_iff_exists.mp some
      obtain ⟨serverConfig, server, tool⟩ := Option.bind_eq_some_iff.mp found
      rw [server]
      exact mem_keys tool

theorem turns_iff : turns currentConfig newConfig enabled serverName toolName = true ↔
    ∃ newTool, toolAt newConfig serverName toolName = some newTool ∧ newTool.enabled = enabled ∧
      ∀ currentTool, toolAt currentConfig serverName toolName = some currentTool → currentTool.enabled = !enabled := by
  unfold turns
  cases toolAt currentConfig serverName toolName with
  | none => cases toolAt newConfig serverName toolName <;> simp
  | some currentTool =>
    cases toolAt newConfig serverName toolName with
    | none => simp
    | some newTool => cases enabled <;> cases here : currentTool.enabled <;> cases there : newTool.enabled <;> simp [here, there]

theorem listed_of {is : String → String → Bool}
    (known : (toolAt currentConfig serverName toolName).isSome ∨ (toolAt newConfig serverName toolName).isSome)
    (holds : is serverName toolName = true) : displayName serverName toolName ∈ listed currentConfig newConfig is :=
  List.mem_map.mpr ⟨(serverName, toolName), List.mem_filter.mpr ⟨mem_allTools known, holds⟩, rfl⟩

theorem changes_cases (changes : isToolEnabled currentConfig serverName toolName ≠ isToolEnabled newConfig serverName toolName) :
    turns currentConfig newConfig (isToolEnabled newConfig serverName toolName) serverName toolName = true ∨
      (isRemoved currentConfig newConfig serverName toolName = true ∧ isToolEnabled newConfig serverName toolName = true ∧
        ∃ toolState, toolAt currentConfig serverName toolName = some toolState ∧ toolState.enabled = false) := by
  rw [isToolEnabled_eq, isToolEnabled_eq] at *
  rw [turns_iff]
  unfold isRemoved
  cases current : toolAt currentConfig serverName toolName with
  | none =>
    cases new : toolAt newConfig serverName toolName with
    | none => simp [current, new] at changes
    | some newTool => exact .inl ⟨newTool, rfl, rfl, fun _ other => nomatch other⟩
  | some currentTool =>
    simp only [current, Option.map_some, Option.getD_some] at changes
    cases new : toolAt newConfig serverName toolName with
    | none =>
      simp only [new, Option.map_none, Option.getD_none] at changes
      exact .inr ⟨rfl, rfl, currentTool, rfl, Bool.eq_false_iff.mpr changes⟩
    | some newTool =>
      simp only [new, Option.map_some, Option.getD_some] at changes
      refine .inl ⟨newTool, rfl, rfl, fun other same => ?_⟩
      rw [← Option.some.inj same]
      exact Bool.eq_not.mpr changes

end

theorem named_iff {currentConfig newConfig : ToolsConfig Schema} :
    (∀ serverName toolName, Plain serverName toolName →
      isToolEnabled currentConfig serverName toolName ≠ isToolEnabled newConfig serverName toolName →
      displayName serverName toolName ∈
        if isToolEnabled newConfig serverName toolName then enabledTools currentConfig newConfig else disabledTools currentConfig newConfig) ↔
    ∀ serverName toolName toolState, toolAt currentConfig serverName toolName = some toolState → toolState.enabled = false →
      toolAt newConfig serverName toolName = none →
      ∃ otherServer otherTool newTool, displayName otherServer otherTool = displayName serverName toolName ∧
        toolAt newConfig otherServer otherTool = some newTool ∧ newTool.enabled = true ∧
        ∀ currentTool, toolAt currentConfig otherServer otherTool = some currentTool → currentTool.enabled = false := by
  constructor
  · intro named serverName toolName toolState found disabled left
    have before : isToolEnabled currentConfig serverName toolName = false := by rw [isToolEnabled_eq, found]; exact disabled
    have after : isToolEnabled newConfig serverName toolName = true := by rw [isToolEnabled_eq, left]; rfl
    have shown := named serverName toolName (plain_of_toolAt found) (by rw [before, after]; exact Bool.false_ne_true)
    rw [after, if_pos rfl] at shown
    obtain ⟨⟨otherServer, otherTool⟩, inside, same⟩ := List.mem_map.mp shown
    obtain ⟨newTool, new, enabled, current⟩ := turns_iff.mp (List.mem_filter.mp inside).2
    exact ⟨otherServer, otherTool, newTool, same, new, enabled, current⟩
  · intro removed serverName toolName _ changes
    obtain turned | ⟨left, after, toolState, found, disabled⟩ := changes_cases changes
    · have known : (toolAt newConfig serverName toolName).isSome := by
        obtain ⟨newTool, new, _⟩ := turns_iff.mp turned
        rw [new]
        rfl
      cases after : isToolEnabled newConfig serverName toolName with
      | true =>
        rw [after] at turned
        exact listed_of (.inr known) turned
      | false =>
        rw [after] at turned
        exact listed_of (.inr known) turned
    · rw [after, if_pos rfl]
      have missing : toolAt newConfig serverName toolName = none := by
        rw [isRemoved, Bool.and_eq_true] at left
        exact Option.isNone_iff_eq_none.mp left.2
      obtain ⟨otherServer, otherTool, newTool, same, new, enabled, current⟩ := removed serverName toolName toolState found disabled missing
      rw [← same]
      exact listed_of (.inr (by rw [new]; rfl)) (turns_iff.mpr ⟨newTool, new, enabled, current⟩)

theorem counts {currentConfig newConfig : ToolsConfig Schema} {serverName toolName : String}
    (changes : isToolEnabled currentConfig serverName toolName ≠ isToolEnabled newConfig serverName toolName) :
    (summarizeMcpToolStateChanges currentConfig newConfig).1 ≠ 0 := by
  have counted (is : String → String → Bool) (known : (toolAt currentConfig serverName toolName).isSome ∨ (toolAt newConfig serverName toolName).isSome)
      (holds : is serverName toolName = true) : 0 < (listed currentConfig newConfig is).length := List.length_pos_of_mem (listed_of known holds)
  change totalChanges currentConfig newConfig ≠ 0
  unfold totalChanges enabledTools disabledTools addedTools removedTools
  obtain turned | ⟨left, _, toolState, found, _⟩ := changes_cases changes
  · have known : (toolAt newConfig serverName toolName).isSome := by
      obtain ⟨newTool, new, _⟩ := turns_iff.mp turned
      rw [new]
      rfl
    cases after : isToolEnabled newConfig serverName toolName with
    | true =>
      have := counted (turns currentConfig newConfig true) (.inr known) (after ▸ turned)
      omega
    | false =>
      have := counted (turns currentConfig newConfig false) (.inr known) (after ▸ turned)
      omega
  · have := counted (isRemoved currentConfig newConfig) (.inl (by rw [found]; rfl)) left
    omega

/-! Servers. -/

theorem serverChanges_nil {first server : MCPServer} : serverChanges first server = [] ↔
    first.enabled = server.enabled ∧ first.command = server.command ∧ first.args.getD [] = server.args.getD [] ∧
      JsonText.stringifyObject (first.env.getD []) = JsonText.stringifyObject (server.env.getD []) := by
  simp only [serverChanges, List.append_eq_nil_iff, ite_eq_right_iff, List.cons_ne_nil, imp_false, not_not, ne_eq, and_assoc,
    JsonText.stringifyArray_injective.eq_iff]

theorem modified_nil {current next : List MCPServer} : modified current next = [] ↔
    ∀ server ∈ next, ∀ first, current.find? (fun entry => entry.name = server.name) = some first → serverChanges first server = [] := by
  rw [modified, List.filterMap_eq_nil_iff]
  refine forall₂_congr fun server _ => ?_
  cases current.find? fun entry => entry.name = server.name with
  | none => simp
  | some first =>
    simp only [ite_eq_left_iff, reduceCtorEq, imp_false, not_not, Option.some.injEq]
    exact ⟨fun same other equal => equal ▸ same, fun every => every first rfl⟩

theorem filter_absent_nil {servers others : List MCPServer} :
    (servers.filter fun server => server.name ∉ others.map MCPServer.name) = [] ↔
      ∀ name ∈ servers.map MCPServer.name, name ∈ others.map MCPServer.name := by
  simp only [List.filter_eq_nil_iff, decide_eq_true_eq, not_not, List.forall_mem_map]

theorem settingsChanges_nil {current next : Option MCPSettings} : settingsChanges current next = [] ↔ Unmodified current next := by
  have flag : (if isEnabled current ≠ isEnabled next then ["• MCP will be " ++ if isEnabled next then "ENABLED" else "DISABLED"] else []) = [] ↔
      isEnabled current = isEnabled next := by simp
  rw [settingsChanges, List.append_eq_nil_iff, List.append_eq_nil_iff, List.append_eq_nil_iff, flag, List.map_eq_nil_iff, List.map_eq_nil_iff,
    List.map_eq_nil_iff, added, filter_absent_nil, removed, filter_absent_nil, modified_nil]
  simp only [serverChanges_nil]
  constructor
  · intro ⟨⟨⟨enabled, fromNext⟩, fromCurrent⟩, same⟩
    exact ⟨enabled, fun name => ⟨fromNext name, fromCurrent name⟩, same⟩
  · intro unmodified
    exact ⟨⟨⟨unmodified.flag, fun name => (unmodified.kept name).mp⟩, fun name => (unmodified.kept name).mpr⟩, unmodified.same⟩

/-- What a change is begins the text. -/
def kind (text : String) : List Char := text.toList.take 4

theorem filter_kind {texts : List String} {which : List Char} (all : ∀ text ∈ texts, kind text = which) (other : List Char) :
    texts.filter (fun text => kind text = other) = if which = other then texts else [] := by
  split
  · next same => exact List.filter_eq_self.mpr fun text member => decide_eq_true (same ▸ all text member)
  · next differ => exact List.filter_eq_nil_iff.mpr fun text member => by simpa [all text member] using differ

theorem map_label {α : Type u} {text label : α → String} {before after : String} (shape : ∀ item, text item = before ++ label item ++ after)
    {items others : List α} : items.map text = others.map text ↔ items.map label = others.map label := by
  have wrap : Function.Injective fun inner : String => before ++ inner ++ after := by
    intro inner other same
    have chars := congrArg String.toList same
    simp only [String.toList_append, List.append_cancel_right_eq, List.append_cancel_left_eq] at chars
    exact String.toList_injective chars
  have wrapped (items : List α) : items.map text = (items.map label).map fun inner => before ++ inner ++ after := by
    rw [List.map_map]
    exact List.map_congr_left fun item _ => shape item
  rw [wrapped, wrapped, (List.map_injective_iff.mpr wrap).eq_iff]

theorem removeText_eq (server : MCPServer) : removeText server = "• REMOVE server: \"" ++ server.name ++ "\"" := rfl

theorem removed_eq {current next other : List MCPServer} :
    (removed current next).map removeText = (removed current other).map removeText ↔
      ∀ name ∈ current.map MCPServer.name, name ∈ next.map MCPServer.name ↔ name ∈ other.map MCPServer.name := by
  rw [map_label removeText_eq]
  constructor
  · intro same name member
    have left (others : List MCPServer) : name ∈ (removed current others).map MCPServer.name ↔ name ∉ others.map MCPServer.name := by
      simp only [removed, List.mem_map, List.mem_filter, decide_eq_true_eq]
      constructor
      · rintro ⟨server, ⟨_, absent⟩, rfl⟩
        exact absent
      · intro absent
        obtain ⟨server, inside, rfl⟩ := List.mem_map.mp member
        exact ⟨server, ⟨inside, by simpa using absent⟩, rfl⟩
    have agree := left next
    rw [same, left other] at agree
    exact (not_iff_not.mp agree).symm
  · intro kept
    congr 1
    apply List.filter_congr
    intro server inside
    simp only [decide_eq_decide]
    exact not_congr (kept server.name (List.mem_map_of_mem inside))

def flagTexts (current next : Bool) : List String :=
  if current ≠ next then ["• MCP will be " ++ if next then "ENABLED" else "DISABLED"] else []

theorem kind_append {start : String} (rest : String) (long : 4 ≤ start.toList.length) : kind (start ++ rest) = kind start := by
  rw [kind, String.toList_append, List.take_append_of_le_length long]
  rfl

theorem kind_flag {current next : Bool} : ∀ text ∈ flagTexts current next, kind text = ['•', ' ', 'M', 'C'] := by
  intro text member
  unfold flagTexts at member
  split at member
  · rw [List.mem_singleton.mp member, kind_append _ (by decide)]
    rfl
  · exact nomatch member

theorem addText_eq (server : MCPServer) : addText server = "• ADD server: \"" ++ addedLabel server ++ ")" := by
  unfold addText addedLabel
  congr 1

theorem modifyText_eq (modification : String × List String) :
    modifyText modification = "• MODIFY server \"" ++ modifiedLabel modification ++ "" := by
  unfold modifyText modifiedLabel
  rw [String.append_empty, String.append_assoc, String.append_assoc, String.append_assoc]

theorem kind_add {servers : List MCPServer} : ∀ text ∈ servers.map addText, kind text = ['•', ' ', 'A', 'D'] := by
  refine List.forall_mem_map.mpr fun server _ => ?_
  rw [addText_eq, String.append_assoc, kind_append _ (by decide)]
  rfl

theorem kind_remove {servers : List MCPServer} : ∀ text ∈ servers.map removeText, kind text = ['•', ' ', 'R', 'E'] := by
  refine List.forall_mem_map.mpr fun server _ => ?_
  rw [removeText_eq, String.append_assoc, kind_append _ (by decide)]
  rfl

theorem kind_modify {modifications : List (String × List String)} :
    ∀ text ∈ modifications.map modifyText, kind text = ['•', ' ', 'M', 'O'] := by
  refine List.forall_mem_map.mpr fun modification _ => ?_
  rw [modifyText_eq, String.append_assoc, kind_append _ (by decide)]
  rfl

theorem filter_changes (current next : Option MCPSettings) (which : List Char) :
    (settingsChanges current next).filter (fun text => kind text = which) =
      (if ['•', ' ', 'M', 'C'] = which then flagTexts (isEnabled current) (isEnabled next) else []) ++
      (if ['•', ' ', 'A', 'D'] = which then (added (servers current) (servers next)).map addText else []) ++
      (if ['•', ' ', 'R', 'E'] = which then (removed (servers current) (servers next)).map removeText else []) ++
      (if ['•', ' ', 'M', 'O'] = which then (modified (servers current) (servers next)).map modifyText else []) := by
  change (flagTexts (isEnabled current) (isEnabled next) ++ _ ++ _ ++ _).filter _ = _
  rw [List.filter_append, List.filter_append, List.filter_append, filter_kind kind_flag, filter_kind kind_add, filter_kind kind_remove,
    filter_kind kind_modify]

theorem flagTexts_nil {current next : Bool} : flagTexts current next = [] ↔ current = next := by
  unfold flagTexts
  split
  · next differ => exact iff_of_false (List.cons_ne_nil _ _) differ
  · next same => exact iff_of_true rfl (not_not.mp same)

theorem flagTexts_eq {current next other : Bool} : flagTexts current next = flagTexts current other ↔ next = other := by
  refine ⟨fun same => ?_, fun same => by rw [same]⟩
  by_cases stays : current = next
  · rw [flagTexts_nil.mpr stays] at same
    exact stays.symm.trans (flagTexts_nil.mp same.symm)
  · have moves : current ≠ other := fun kept => stays (flagTexts_nil.mp (same.trans (flagTexts_nil.mpr kept)))
    exact (Bool.eq_not.mpr (Ne.symm stays)).trans (Bool.eq_not.mpr (Ne.symm moves)).symm

theorem settingsChanges_eq {current next other : Option MCPSettings} :
    settingsChanges current next = settingsChanges current other ↔ Alike current next other := by
  constructor
  · intro same
    have parts (which : List Char) := congrArg (List.filter fun text => kind text = which) same
    simp only [filter_changes] at parts
    have flag := parts ['•', ' ', 'M', 'C']
    have added := parts ['•', ' ', 'A', 'D']
    have removed := parts ['•', ' ', 'R', 'E']
    have modified := parts ['•', ' ', 'M', 'O']
    simp at flag added removed modified
    exact ⟨flagTexts_eq.mp flag, (map_label addText_eq).mp added, removed_eq.mp removed, (map_label modifyText_eq).mp modified⟩
  · intro alike
    change flagTexts _ _ ++ _ ++ _ ++ _ = flagTexts _ _ ++ _ ++ _ ++ _
    rw [flagTexts_eq.mpr alike.flag, (map_label addText_eq).mpr alike.added, removed_eq.mpr alike.kept,
      (map_label modifyText_eq).mpr alike.modified]

section
variable {computer : Computer} {clusters : List String} {current next other : Option MCPSettings} {name : String}

def commandLine (computer : Computer) (clusters : List String) (server : MCPServer) : String × List String :=
  (server.command, expandEnvAndResolvePaths computer (server.args.getD []) (firstCluster clusters))

theorem started_eq (settings : Option MCPSettings) : started computer clusters settings name =
    if isEnabled settings then
      (((servers settings).filter MCPServer.startable).filter fun server => server.name = name).getLast?.map (commandLine computer clusters)
    else none := by
  cases settings with
  | none => rfl
  | some settings =>
    rw [started, lookup_makeMcpServers]
    change Option.map _ (if settings.enabled then _ else none) = if settings.enabled then _ else none
    split
    · rw [Option.map_map]
      rfl
    · rfl

theorem find_name {servers : List MCPServer} {first : MCPServer} (found : servers.find? (fun entry => entry.name = name) = some first) :
    first.name = name ∧ first ∈ servers :=
  ⟨by simpa using List.find?_some found, List.mem_of_find?_eq_some found⟩

theorem started_unmodified (unmodified : Unmodified current next) {first : MCPServer}
    (found : (servers current).find? (fun entry => entry.name = name) = some first) : started computer clusters next name =
      if isEnabled next ∧ first.startable then some (commandLine computer clusters first) else none := by
  obtain ⟨named, inside⟩ := find_name found
  have alike : ∀ server ∈ servers next, server.name = name →
      server.startable = first.startable ∧ commandLine computer clusters server = commandLine computer clusters first := by
    intro server member same
    subst same
    obtain ⟨enabled, command, args, _⟩ := unmodified.same server member first found
    rw [MCPServer.startable, MCPServer.startable, commandLine, commandLine, enabled, command, args, named]
    exact ⟨rfl, rfl⟩
  rw [started_eq]
  by_cases enabled : isEnabled next = true
  · by_cases startable : first.startable = true
    · rw [if_pos enabled, if_pos ⟨enabled, startable⟩]
      obtain ⟨server, member, same⟩ := List.mem_map.mp ((unmodified.kept name).mpr (List.mem_map.mpr ⟨first, inside, named⟩))
      have candidate : server ∈ ((servers next).filter MCPServer.startable).filter fun server => server.name = name :=
        List.mem_filter.mpr ⟨List.mem_filter.mpr ⟨member, (alike server member same).1.trans startable⟩, decide_eq_true same⟩
      obtain ⟨last, ends⟩ := Option.isSome_iff_exists.mp (List.getLast?_isSome.mpr (List.ne_nil_of_mem candidate))
      obtain ⟨isStartable, isNamed⟩ := List.mem_filter.mp (List.mem_of_getLast? ends)
      rw [ends, Option.map_some, (alike last (List.mem_filter.mp isStartable).1 (of_decide_eq_true isNamed)).2]
    · rw [if_pos enabled, if_neg fun both => startable both.2]
      have nothing : ((servers next).filter MCPServer.startable).filter (fun server => server.name = name) = [] := by
        rw [List.filter_eq_nil_iff]
        intro server member same
        obtain ⟨member, isStartable⟩ := List.mem_filter.mp member
        exact startable ((alike server member (of_decide_eq_true same)).1.symm.trans isStartable)
      rw [nothing]
      rfl
  · rw [if_neg enabled, if_neg fun both => enabled both.1]

theorem started_absent {settings : Option MCPSettings} (absent : name ∉ names settings) : started computer clusters settings name = none := by
  rw [started_eq]
  split
  · have nothing : ((servers settings).filter MCPServer.startable).filter (fun server => server.name = name) = [] := by
      rw [List.filter_eq_nil_iff]
      intro server member same
      exact absent (List.mem_map.mpr ⟨server, (List.mem_filter.mp member).1, of_decide_eq_true same⟩)
    rw [nothing]
    rfl
  · rfl

theorem started_disabled {settings : Option MCPSettings} (disabled : isEnabled settings = false) : started computer clusters settings name = none := by
  rw [started_eq, disabled]
  rfl

theorem noticed_iff : ((∃ name, name ≠ "__proto__" ∧ started computer clusters current name ≠ started computer clusters next name) →
      settingsChanges current next ≠ []) ↔
    (Unmodified current next → isEnabled current = true → ∀ first ∈ servers current, first.name ≠ "__proto__" →
      (servers current).find? (fun entry => entry.name = first.name) = some first →
      started computer clusters current first.name =
        if first.startable then some (first.command, expandEnvAndResolvePaths computer (first.args.getD []) (firstCluster clusters)) else none) := by
  rw [ne_eq, settingsChanges_nil, imp_not_comm, not_exists]
  simp only [ne_eq, not_and, not_not]
  refine imp_congr_ctx Iff.rfl fun unmodified => ⟨fun same enabled first _ own found => ?_, fun starts name own => ?_⟩
  · rw [same first.name own, started_unmodified unmodified found, ← unmodified.flag, enabled]
    simp [commandLine]
  · cases enabled : isEnabled current with
    | false => rw [started_disabled enabled, started_disabled (unmodified.flag ▸ enabled)]
    | true =>
      cases found : (servers current).find? fun entry => entry.name = name with
      | none =>
        have absent : name ∉ names current := by
          intro member
          obtain ⟨server, inside, same⟩ := List.mem_map.mp member
          exact List.find?_eq_none.mp found server inside (decide_eq_true same)
        rw [started_absent absent, started_absent (mt (unmodified.kept name).mp absent)]
      | some first =>
        obtain ⟨rfl, inside⟩ := find_name found
        rw [starts enabled first inside own found, started_unmodified unmodified found, ← unmodified.flag, enabled]
        simp [commandLine]

end

end K8Sense.App.McpDialogs
