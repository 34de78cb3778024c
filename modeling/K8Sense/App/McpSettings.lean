import K8Sense.Library.JsonText
import K8Sense.Library.Keyed
import K8Sense.Library.Text

/-! The settings of MCP servers in the desktop app: which servers they start, and how a change
of them is described to the user. -/

namespace K8Sense.App.McpSettings

structure MCPServer where
  name : String
  command : String
  args : Option (List String)
  enabled : Bool
  env : Option (List (String × String))

/-- The servers are missing in a file that has been written by hand. -/
structure MCPSettings where
  enabled : Bool
  servers : Option (List MCPServer)

structure Computer where
  homedir : String
  appData : String
  localAppData : String
  win32 : Bool
  resolve : String → String
  env : String → Option String

def placeholder : String := "K8SENSE_CURRENT_CLUSTER"

/-- The text that takes the place of a match, by what stands before and after the match. -/
def substitution (matched before after : List Char) : List Char → List Char
  | '$' :: '$' :: rest => '$' :: substitution matched before after rest
  | '$' :: '&' :: rest => matched ++ substitution matched before after rest
  | '$' :: '`' :: rest => before ++ substitution matched before after rest
  | '$' :: '\'' :: rest => after ++ substitution matched before after rest
  | char :: rest => char :: substitution matched before after rest
  | [] => []

/-- `skip` is how much of the last match is still to be passed over. -/
def replaceFrom (pattern replacement before : List Char) : Nat → List Char → List Char
  | _, [] => []
  | skip + 1, char :: rest => replaceFrom pattern replacement (before ++ [char]) skip rest
  | 0, char :: rest =>
    if pattern.isPrefixOf (char :: rest) then
      substitution pattern before ((char :: rest).drop pattern.length) replacement ++
        replaceFrom pattern replacement (before ++ [char]) (pattern.length - 1) rest
    else char :: replaceFrom pattern replacement (before ++ [char]) 0 rest

/-- `replace` of all matches of a pattern that is a plain text. -/
def replace (pattern replacement text : String) : String :=
  String.ofList (replaceFrom pattern.toList replacement.toList [] 0 text.toList)

def includes (text part : String) : Bool := Text.contains text.toList part.toList

def isLineTerminator (char : Char) : Bool := char = '\n' || char = '\r' || char.toNat = 0x2028 || char.toNat = 0x2029

/-- The groups `(.+?),dst=(.+)`, with what the first one has already. -/
def bindGroups (src : List Char) : List Char → Option (List Char × List Char)
  | [] => none
  | char :: rest =>
    if isLineTerminator char then none
    else
      let dst := (rest.drop 5).takeWhile (!isLineTerminator ·)
      if ",dst=".toList.isPrefixOf rest ∧ dst ≠ [] then some (src ++ [char], dst) else bindGroups (src ++ [char]) rest

/-- The first match of `type=bind,src=(.+?),dst=(.+)`. -/
def matchBind : List Char → Option (List Char × List Char)
  | [] => none
  | char :: rest =>
    let found := if "type=bind,src=".toList.isPrefixOf (char :: rest) then bindGroups [] ((char :: rest).drop 14) else none
    found.or (matchBind rest)

def toSlashes (text : String) : String := replace "\\" "/" text

/-- A drive becomes a directory. -/
def mountPath (srcPath : String) : String :=
  match srcPath.toList with
  | drive :: ':' :: rest => if drive.isAlpha then String.ofList ('/' :: drive.toLower :: (toSlashes (String.ofList rest)).toList) else srcPath
  | _ => srcPath

/-- The rewriting of one argument. -/
def expandArg (computer : Computer) (cluster : Option String) (arg : String) : String :=
  let expandedArg := if includes arg placeholder then replace placeholder (cluster.getD "") arg else arg
  let expandedArg := if includes expandedArg "%USERPROFILE%" then replace "%USERPROFILE%" computer.homedir expandedArg else expandedArg
  let expandedArg := if includes expandedArg "%APPDATA%" then replace "%APPDATA%" computer.appData expandedArg else expandedArg
  let expandedArg :=
    if includes expandedArg "%LOCALAPPDATA%" then replace "%LOCALAPPDATA%" computer.localAppData expandedArg else expandedArg
  let expandedArg := if computer.win32 ∧ includes expandedArg "\\" then toSlashes expandedArg else expandedArg
  if includes expandedArg "type=bind,src=" then
    match matchBind expandedArg.toList with
    | none => expandedArg
    | some (src, dst) =>
      let srcPath := if computer.win32 then mountPath (computer.resolve (String.ofList src)) else String.ofList src
      "type=bind,src=" ++ srcPath ++ ",dst=" ++ String.ofList dst
  else expandedArg

def expandEnvAndResolvePaths (computer : Computer) (args : List String) (cluster : Option String) : List String :=
  args.map (expandArg computer cluster)

structure StdioServer where
  command : String
  args : List String
  env : String → Option String

def MCPServer.startable (server : MCPServer) : Bool := server.enabled && server.name ≠ "" && server.command ≠ ""

/-- An empty name of a cluster counts as none. -/
def firstCluster (clusters : List String) : Option String := clusters.head?.filter (· ≠ "")

def startServer (computer : Computer) (clusters : List String) (server : MCPServer) : StdioServer where
  command := server.command
  args := expandEnvAndResolvePaths computer (server.args.getD []) (firstCluster clusters)
  env key := (server.env.bind (Keyed.lookup key)).or (computer.env key)

def makeMcpServersFromSettings (computer : Computer) (mcpSettings : Option MCPSettings) (clusters : List String) : List (String × StdioServer) :=
  match mcpSettings with
  | none => []
  | some settings =>
    if settings.enabled then
      ((settings.servers.getD []).filter MCPServer.startable).foldl
        (fun mcpServers server => Keyed.upsert server.name (startServer computer clusters server) (fun _ => startServer computer clusters server) mcpServers) []
    else []

/-- `none` where the settings have no servers, which is an error. -/
def hasClusterDependentServers (mcpSettings : Option MCPSettings) : Option Bool :=
  match mcpSettings with
  | none => some false
  | some settings => settings.servers.map fun servers =>
    servers.any fun server => server.enabled && (server.args.getD []).any fun arg => includes arg placeholder

/-! The description of a change. -/

def servers (mcpSettings : Option MCPSettings) : List MCPServer := (mcpSettings.bind MCPSettings.servers).getD []

def isEnabled (mcpSettings : Option MCPSettings) : Bool := (mcpSettings.map MCPSettings.enabled).getD false

def serverChanges (currentServer nextServer : MCPServer) : List String :=
  (if currentServer.enabled ≠ nextServer.enabled then [if nextServer.enabled then "enable" else "disable"] else []) ++
  (if currentServer.command ≠ nextServer.command then
    ["change command: \"" ++ currentServer.command ++ "\" → \"" ++ nextServer.command ++ "\""] else []) ++
  (if JsonText.stringifyArray (currentServer.args.getD []) ≠ JsonText.stringifyArray (nextServer.args.getD []) then
    ["change arguments: " ++ JsonText.stringifyArray (currentServer.args.getD []) ++ " → " ++
      JsonText.stringifyArray (nextServer.args.getD [])] else []) ++
  (if JsonText.stringifyObject (currentServer.env.getD []) ≠ JsonText.stringifyObject (nextServer.env.getD []) then
    ["change environment variables"] else [])

section
variable (current next : List MCPServer)

def added : List MCPServer := next.filter fun server => server.name ∉ current.map MCPServer.name

def removed : List MCPServer := current.filter fun server => server.name ∉ next.map MCPServer.name

/-- The entries of the request that are described as modified, with what is modified. -/
def modified : List (String × List String) :=
  next.filterMap fun nextServer =>
    match current.find? fun server => server.name = nextServer.name with
    | none => none
    | some currentServer =>
      if serverChanges currentServer nextServer = [] then none else some (nextServer.name, serverChanges currentServer nextServer)

end

def addText (server : MCPServer) : String := "• ADD server: \"" ++ server.name ++ "\" (" ++ server.command ++ ")"

def removeText (server : MCPServer) : String := "• REMOVE server: \"" ++ server.name ++ "\""

def modifyText (modification : String × List String) : String :=
  "• MODIFY server \"" ++ modification.1 ++ "\": " ++ Text.concat ", " modification.2

def settingsChanges (currentSettings nextSettings : Option MCPSettings) : List String :=
  (if isEnabled currentSettings ≠ isEnabled nextSettings then
    ["• MCP will be " ++ if isEnabled nextSettings then "ENABLED" else "DISABLED"] else []) ++
  (added (servers currentSettings) (servers nextSettings)).map addText ++
  (removed (servers currentSettings) (servers nextSettings)).map removeText ++
  (modified (servers currentSettings) (servers nextSettings)).map modifyText

/-! Which servers are started. -/

variable {computer : Computer} {clusters : List String}

theorem lookup_makeMcpServers (settings : MCPSettings) (name : String) :
    Keyed.lookup name (makeMcpServersFromSettings computer (some settings) clusters) =
      if settings.enabled then
        ((((settings.servers.getD []).filter MCPServer.startable).filter fun server => server.name = name).getLast?).map (startServer computer clusters)
      else none := by
  unfold makeMcpServersFromSettings
  simp only
  split
  · generalize (settings.servers.getD []).filter MCPServer.startable = startable
    induction startable using List.reverseRecOn with
    | nil => rfl
    | append_singleton startable server ih =>
      rw [List.foldl_append, List.foldl_cons, List.foldl_nil, Keyed.lookup_upsert, ih, List.filter_append]
      by_cases named : name = server.name
      · subst named
        rw [if_pos rfl]
        have last : [server].filter (fun other => decide (other.name = server.name)) = [server] := by simp
        rw [last, List.getLast?_concat]
        cases Keyed.lookup server.name _ <;> rfl
      · have none : [server].filter (fun other => decide (other.name = name)) = [] := by simp [Ne.symm named]
        rw [if_neg named, none, List.append_nil]
  · rfl

end K8Sense.App.McpSettings
