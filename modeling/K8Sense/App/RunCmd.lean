import K8Sense.Library.Keyed
import K8Sense.Library.Transition

/-! Local commands of the desktop app. A message from the renderer has to carry a secret
that the main process has given out, and the user is asked for consent, once for each
command and first argument. What the user answers is kept in the settings file. -/

namespace K8Sense.App.RunCmd
open Transition

/-- A value of a message. Secrets are the numbers. -/
inductive Value (Secret : Type) where
  | undefined
  | null
  | number (value : Secret)
  | text (value : String)
  | array (items : List (Value Secret))
  | object (rows : List (String × Value Secret))
  | other (type shown : String)

structure CommandData (Secret : Type) where
  command : String
  args : List (Value Secret)
  permissionSecrets : List (String × Value Secret)

/-- What the runtime and the machine provide. -/
structure System (Secret : Type) where
  /-- The text of a value in a template. -/
  shown : Value Secret → String
  execPath : String
  getPluginsScriptPath : String → String
  development : Bool

structure Spawned (Secret : Type) where
  command : String
  args : List (Value Secret)

variable {Secret : Type}

namespace Value

def typeOf : Value Secret → String
  | .undefined => "undefined"
  | .null => "object"
  | .number _ => "number"
  | .text _ => "string"
  | .array _ => "object"
  | .object _ => "object"
  | .other type _ => type

def field (name : String) : Value Secret → Value Secret
  | .object rows => (Keyed.lookup name rows).getD .undefined
  | _ => .undefined

/-- The entries of what is an object and not null. -/
def entries : Value Secret → Option (List (String × Value Secret))
  | .object rows => some rows
  | .array items => some (items.zipIdx.map fun item => (toString item.2, item.1))
  | _ => none

def isNumber : Value Secret → Bool
  | .number _ => true
  | _ => false

end Value

section
variable (system : System Secret)

def validCommands : List String := ["minikube", "az", "scriptjs", "gh"]

def validateCommandData (eventData : Value Secret) : Except String (CommandData Secret) :=
  match eventData.entries with
  | none => .error ("Invalid eventData data received: " ++ system.shown eventData)
  | some _ =>
    match eventData.field "command" with
    | .text command =>
      if command = "" then .error "Invalid eventData.command: "
      else match eventData.field "args" with
      | .array args =>
        match (eventData.field "options").entries with
        | none => .error ("Invalid eventData.options: " ++ system.shown (eventData.field "options"))
        | some _ =>
          match (eventData.field "permissionSecrets").entries with
          | none =>
            .error ("Invalid permission secrets, it is not an object: " ++ (eventData.field "permissionSecrets").typeOf)
          | some permissionSecrets =>
            match permissionSecrets.find? fun row => !row.2.isNumber with
            | some (key, value) => .error ("Invalid permission secret for " ++ key ++ ": " ++ value.typeOf)
            | none =>
              if command ∈ validCommands then .ok ⟨command, args, permissionSecrets⟩
              else .error ("Invalid command: " ++ command ++
                ", only valid commands are: [\"minikube\",\"az\",\"scriptjs\",\"gh\"]")
      | args => .error ("Invalid eventData.args: " ++ system.shown args)
    | command => .error ("Invalid eventData.command: " ++ system.shown command)

/-- The first `plugins/` or `plugins\` is written with a slash. -/
def normalizePlugins : List Char → List Char
  | [] => []
  | char :: rest =>
    if "plugins/".toList.isPrefixOf (char :: rest) ∨ "plugins\\".toList.isPrefixOf (char :: rest) then
      "plugins/".toList ++ rest.drop 7
    else char :: normalizePlugins rest

/-- The permission for the command and the path of a script. Nothing where the first
argument has no `replace`, which throws. -/
def permissionName (command : String) (args : List (Value Secret)) : Option String :=
  if command = "scriptjs" then
    match args.headD .undefined with
    | .undefined | .null => some "runCmd-scriptjs-undefined"
    | .text path => some ("runCmd-scriptjs-" ++ String.ofList (normalizePlugins path.toList))
    | _ => none
  else some ("runCmd-" ++ command)

/-- The error, if there is one. -/
def checkPermissionSecret [DecidableEq Secret] (commandData : CommandData Secret) (permissionSecrets : String → Option Secret) :
    Option (Option String) :=
  (permissionName commandData.command commandData.args).map fun name =>
    match permissionSecrets name, Keyed.lookup name commandData.permissionSecrets with
    | some secret, some (.number given) =>
      if secret = given then none else some ("No permission secret found for command: " ++ name ++ ", cannot run command")
    | _, _ => some ("No permission secret found for command: " ++ name ++ ", cannot run command")

end

/-! Consent. -/

/-- The confirmed commands of the settings, or nothing where there are none. -/
abbrev Settings := Option (String → Option Bool)

/-- How it ends that the settings are written: they may be left as they are, or in a state
in which they cannot be read. Both throw. -/
inductive Save where
  | done
  | refused
  | broken
deriving DecidableEq

def saveSettings (save : Save) (before settings : Settings) : Settings :=
  match save with
  | .done => settings
  | .refused => before
  | .broken => none

/-- What the user has done about consent. -/
inductive Act where
  | answered (consentKey : String) (allowed : Bool)
  | installed (commands : List String)
  | removed (commands : List String)

structure Consent where
  proceeds : Bool
  settings : Settings
  acts : List Act

/-- The first of the two buttons. -/
def confirmCommandDialog (mainWindow : Bool) (resp : Nat) : Bool := mainWindow && decide (resp = 0)

def consentKeyOf (system : System Secret) (command : String) (args : List (Value Secret)) : String :=
  match args with
  | [] => command
  | .text first :: _ => command ++ " " ++ first
  | first :: _ => command ++ " " ++ system.shown first

def checkCommandConsent (consentKey : String) (mainWindow : Bool) (settings : Settings) (resp : Nat) (save : Save) : Consent :=
  match settings.bind fun confirmedCommands => confirmedCommands consentKey with
  | some false => ⟨false, settings, []⟩
  | some true => ⟨true, settings, []⟩
  | none =>
    let commandChoice := confirmCommandDialog mainWindow resp
    let confirmedCommands := Function.update (settings.getD fun _ => none) consentKey (some commandChoice)
    ⟨decide (save = .done), saveSettings save settings (some confirmedCommands), [.answered consentKey commandChoice]⟩

def headlampMinikube : List String := ["minikube start", "minikube stop", "minikube delete", "minikube status",
  "minikube service", "minikube logs", "minikube addons", "minikube ssh",
  "scriptjs headlamp_minikubeprerelease/manage-minikube.js", "scriptjs headlamp_minikube/manage-minikube.js",
  "scriptjs minikube/manage-minikube.js"]

def headlampAiAssistant : List String := ["gh auth", "az account", "az cognitiveservices"]

/-- The commands that installing a plugin gives consent to. -/
def installedCommands (development : Bool) (name : String) : List String :=
  if name = "headlamp_ai-assistant" ∨ name = "headlamp_ai-assistantprerelease" ∨ development ∧ name = "ai-assistant" then
    headlampAiAssistant
  else if name = "headlamp_minikube" ∨ name = "headlamp_minikubeprerelease" ∨ development ∧ name = "minikube" then
    headlampMinikube
  else []

def addRunCmdConsent (development : Bool) (name : String) (settings : Settings) (save : Save) : Settings × List Act :=
  let commands := installedCommands development name
  let confirmedCommands := commands.foldl
    (fun confirmed command => if confirmed command = some true then confirmed else Function.update confirmed command (some true))
    (settings.getD fun _ => none)
  (saveSettings save settings (some confirmedCommands), if save = .done then [.installed commands] else [])

def removedCommands (pluginName : String) : List String :=
  if pluginName = "@headlamp-k8s/ai-assistant" ∨ pluginName = "@headlamp-k8s/ai-assistantprerelease" then headlampAiAssistant
  else if pluginName = "@headlamp-k8s/minikubeprerelease" ∨ pluginName = "@headlamp-k8s/minikube" then headlampMinikube
  else []

def removeRunCmdConsent (pluginName : String) (settings : Settings) (save : Save) : Settings × List Act :=
  match settings with
  | none => (none, [])
  | some confirmedCommands =>
    let commands := removedCommands pluginName
    let left := commands.foldl (fun confirmed command => Function.update confirmed command none) confirmedCommands
    (saveSettings save settings (some left), if save = .done then [.removed commands] else [])

/-! Messages and plugins. -/

structure Outcome (Secret : Type) where
  settings : Settings
  acts : List Act
  spawned : Option (Spawned Secret)

section
variable (system : System Secret)

def spawn (commandData : CommandData Secret) : Spawned Secret :=
  if commandData.command = "scriptjs" then
    ⟨system.execPath, match commandData.args with
      | .text path :: rest => .text (system.getPluginsScriptPath path) :: rest
      | args => args⟩
  else ⟨commandData.command, commandData.args⟩

def handleRunCommand [DecidableEq Secret] (eventData : Value Secret) (mainWindow : Bool) (permissionSecrets : String → Option Secret)
    (settings : Settings) (resp : Nat) (save : Save) : Outcome Secret :=
  if mainWindow = false then ⟨settings, [], none⟩
  else match validateCommandData system eventData with
  | .error _ => ⟨settings, [], none⟩
  | .ok commandData =>
    match checkPermissionSecret commandData permissionSecrets with
    | some none =>
      let consent := checkCommandConsent (consentKeyOf system commandData.command commandData.args) mainWindow settings resp save
      ⟨consent.settings, consent.acts, if consent.proceeds then some (spawn system commandData) else none⟩
    | _ => ⟨settings, [], none⟩

/-- The name of the plugin, where its information can be fetched, and what the user
chooses, where the dialog can be shown. -/
def handleInstall (mainWindow : Bool) (url : String) (fetched : Option String) (userChoice : Option Nat) (settings : Settings)
    (save : Save) : Settings × List Act :=
  if mainWindow = false ∨ url = "" then (settings, [])
  else match fetched, userChoice with
  | some name, some choice => if choice = 1 then (settings, []) else addRunCmdConsent system.development name settings save
  | _, _ => (settings, [])

def handleUninstall (pluginName : String) (settings : Settings) (save : Save) : Settings × List Act :=
  if pluginName = "" then (settings, []) else removeRunCmdConsent pluginName settings save

end

/-- The permissions that a handler has secrets for. -/
def permissionNames : List String := ["runCmd-minikube", "runCmd-scriptjs-minikube/manage-minikube.js",
  "runCmd-scriptjs-headlamp_minikube/manage-minikube.js", "runCmd-scriptjs-headlamp_minikubeprerelease/manage-minikube.js",
  "runCmd-gh", "runCmd-az"]

/-- What happens to the main process. Each window that is opened adds a handler with
secrets of its own, and each of the handlers gets every message. -/
inductive Event (Secret : Type) where
  | setup (mainWindow : Bool) (secrets : String → Secret)
  | runCommand (handler : Nat) (eventData : Value Secret) (resp : Nat) (save : Save)
  | install (mainWindow : Bool) (url : String) (fetched : Option String) (userChoice : Option Nat) (save : Save)
  | uninstall (pluginName : String) (save : Save)
  | restart

structure State (Secret : Type) where
  handlers : List (String → Option Secret)
  settings : Settings
  /-- What the user has done, the latest first. -/
  history : List Act

def fresh : State Secret := ⟨[], none, []⟩

section
variable (system : System Secret) [DecidableEq Secret]

def step (state : State Secret) : Event Secret → Option (State Secret)
  | .setup mainWindow secrets =>
    if mainWindow then
      some { state with handlers := state.handlers ++ [fun name => if name ∈ permissionNames then some (secrets name) else none] }
    else some state
  | .runCommand handler eventData resp save =>
    (state.handlers[handler]?).map fun permissionSecrets =>
      let outcome := handleRunCommand system eventData true permissionSecrets state.settings resp save
      { state with settings := outcome.settings, history := outcome.acts ++ state.history }
  | .install mainWindow url fetched userChoice save =>
    let (settings, acts) := handleInstall system mainWindow url fetched userChoice state.settings save
    some { state with settings, history := acts ++ state.history }
  | .uninstall pluginName save =>
    let (settings, acts) := handleUninstall pluginName state.settings save
    some { state with settings, history := acts ++ state.history }
  | .restart => some { state with handlers := [] }

end

/-! What consent is. -/

/-- The latest decision for a command. Removing the consents takes away what has been
allowed. -/
def decision (consentKey : String) : List Act → Option Bool
  | [] => none
  | .answered answered allowed :: earlier => if answered = consentKey then some allowed else decision consentKey earlier
  | .installed commands :: earlier => if consentKey ∈ commands then some true else decision consentKey earlier
  | .removed commands :: earlier =>
    if consentKey ∈ commands ∧ decision consentKey earlier = some true then none else decision consentKey earlier

/-- The message has the secret of the permission for its command. -/
def Carries (commandData : CommandData Secret) (permissionSecrets : String → Option Secret) : Prop :=
  ∃ name secret, permissionName commandData.command commandData.args = some name ∧ permissionSecrets name = some secret ∧
    Keyed.lookup name commandData.permissionSecrets = some (.number secret)

/-- A message for which a process is spawned carries the secret, and the latest decision,
which can be the answer to it, allows its command. -/
def Consented [DecidableEq Secret] (system : System Secret) (state : State Secret) : Event Secret → Prop
  | .runCommand handler eventData resp save => ∀ permissionSecrets, state.handlers[handler]? = some permissionSecrets →
    (handleRunCommand system eventData true permissionSecrets state.settings resp save).spawned ≠ none →
    ∃ commandData, validateCommandData system eventData = .ok commandData ∧ Carries commandData permissionSecrets ∧
      decision (consentKeyOf system commandData.command commandData.args)
        ((handleRunCommand system eventData true permissionSecrets state.settings resp save).acts ++ state.history) = some true
  | _ => True

/-- The dialog is shown for the message. -/
def Asks [DecidableEq Secret] (system : System Secret) (eventData : Value Secret) (permissionSecrets : String → Option Secret)
    (settings : Settings) : Prop :=
  ∃ commandData, validateCommandData system eventData = .ok commandData ∧
    checkPermissionSecret commandData permissionSecrets = some none ∧
      settings.bind (fun confirmedCommands => confirmedCommands (consentKeyOf system commandData.command commandData.args)) = none

/-- No dialog is answered with Deny, unless the answer cannot be saved. -/
def Granted [DecidableEq Secret] (system : System Secret) (state : State Secret) : Event Secret → Prop
  | .runCommand handler eventData resp save => ∀ permissionSecrets, state.handlers[handler]? = some permissionSecrets →
    Asks system eventData permissionSecrets state.settings → resp = 0 ∨ save ≠ .done
  | _ => True

/-! What the settings say. -/

/-- What is stored is what the user has decided last. -/
def Recorded (settings : Settings) (history : List Act) : Prop :=
  ∀ confirmedCommands consentKey choice, settings = some confirmedCommands → confirmedCommands consentKey = some choice →
    decision consentKey history = some choice

theorem recorded_none (history : List Act) : Recorded none history := nofun

variable {settings : Settings} {history : List Act}

theorem recorded_stored (recorded : Recorded settings history) {consentKey : String} {choice : Bool}
    (stored : settings.bind (fun confirmedCommands => confirmedCommands consentKey) = some choice) :
    decision consentKey history = some choice := by
  obtain ⟨confirmedCommands, is, has⟩ := Option.bind_eq_some_iff.mp stored
  exact recorded confirmedCommands consentKey choice is has

theorem getD_stored {consentKey : String} {choice : Bool} (stored : (settings.getD fun _ => none) consentKey = some choice) :
    settings.bind (fun confirmedCommands => confirmedCommands consentKey) = some choice := by
  cases settings with
  | none => cases stored
  | some confirmedCommands => exact stored

theorem recorded_answer (recorded : Recorded settings history) (consentKey : String) (choice : Bool) :
    Recorded (some (Function.update (settings.getD fun _ => none) consentKey (some choice))) (.answered consentKey choice :: history) := by
  intro confirmedCommands other found is has
  cases is
  rw [decision]
  by_cases same : consentKey = other
  · subst same
    rw [Function.update_self] at has
    rw [if_pos rfl, has]
  · rw [Function.update_of_ne (Ne.symm same)] at has
    rw [if_neg same]
    exact recorded_stored recorded (getD_stored has)

theorem recorded_unsaved (recorded : Recorded settings history) {consentKey : String}
    (missing : settings.bind (fun confirmedCommands => confirmedCommands consentKey) = none) (choice : Bool) :
    Recorded settings (.answered consentKey choice :: history) := by
  intro confirmedCommands other found is has
  rw [decision]
  by_cases same : consentKey = other
  · subst same
    rw [is, Option.bind_some, has] at missing
    cases missing
  · rw [if_neg same]
    exact recorded confirmedCommands other found is has

theorem recorded_consent (recorded : Recorded settings history) (consentKey : String) (mainWindow : Bool) (resp : Nat) (save : Save) :
    Recorded (checkCommandConsent consentKey mainWindow settings resp save).settings
      ((checkCommandConsent consentKey mainWindow settings resp save).acts ++ history) := by
  unfold checkCommandConsent
  split
  next => exact recorded
  next => exact recorded
  next missing =>
    cases save with
    | done => exact recorded_answer recorded consentKey _
    | refused => exact recorded_unsaved recorded missing _
    | broken => exact recorded_none _

theorem addConsents_apply (commands : List String) (confirmed : String → Option Bool) (consentKey : String) :
    commands.foldl (fun confirmed command => if confirmed command = some true then confirmed
      else Function.update confirmed command (some true)) confirmed consentKey =
        if consentKey ∈ commands then some true else confirmed consentKey := by
  induction commands generalizing confirmed with
  | nil => rfl
  | cons command rest ih =>
    rw [List.foldl_cons, ih]
    by_cases later : consentKey ∈ rest
    · rw [if_pos later, if_pos (List.mem_cons_of_mem _ later)]
    · rw [if_neg later]
      by_cases same : consentKey = command
      · subst same
        rw [if_pos List.mem_cons_self]
        by_cases allowed : confirmed consentKey = some true
        · rw [if_pos allowed, allowed]
        · rw [if_neg allowed, Function.update_self]
      · rw [if_neg fun member => (List.mem_cons.mp member).elim same later]
        by_cases allowed : confirmed command = some true
        · rw [if_pos allowed]
        · rw [if_neg allowed, Function.update_of_ne same]

theorem removeConsents_apply (commands : List String) (confirmed : String → Option Bool) (consentKey : String) :
    commands.foldl (fun confirmed command => Function.update confirmed command none) confirmed consentKey =
      if consentKey ∈ commands then none else confirmed consentKey := by
  induction commands generalizing confirmed with
  | nil => rfl
  | cons command rest ih =>
    rw [List.foldl_cons, ih]
    by_cases later : consentKey ∈ rest
    · rw [if_pos later, if_pos (List.mem_cons_of_mem _ later)]
    · rw [if_neg later]
      by_cases same : consentKey = command
      · subst same
        rw [if_pos List.mem_cons_self, Function.update_self]
      · rw [if_neg fun member => (List.mem_cons.mp member).elim same later, Function.update_of_ne same]

theorem recorded_install (recorded : Recorded settings history) (development : Bool) (name : String) (save : Save) :
    Recorded (addRunCmdConsent development name settings save).1 ((addRunCmdConsent development name settings save).2 ++ history) := by
  cases save with
  | done =>
    intro confirmedCommands consentKey choice is has
    cases is
    rw [addConsents_apply] at has
    simp only [addRunCmdConsent, if_true, List.singleton_append, decision]
    split at has
    next given => rw [if_pos given, has]
    next other =>
      rw [if_neg other]
      exact recorded_stored recorded (getD_stored has)
  | refused => exact recorded
  | broken => exact recorded_none _

theorem recorded_remove (recorded : Recorded settings history) (pluginName : String) (save : Save) :
    Recorded (removeRunCmdConsent pluginName settings save).1 ((removeRunCmdConsent pluginName settings save).2 ++ history) := by
  cases settings with
  | none => exact recorded_none _
  | some stored =>
    cases save with
    | done =>
      intro confirmedCommands consentKey choice is has
      cases is
      rw [removeConsents_apply] at has
      simp only [removeRunCmdConsent, if_true, List.singleton_append, decision]
      split at has
      next => cases has
      next other =>
        rw [if_neg fun gone => other gone.1]
        exact recorded stored consentKey choice rfl has
    | refused => exact recorded
    | broken => exact recorded_none _

section
variable {system : System Secret} [DecidableEq Secret]

theorem recorded_message (recorded : Recorded settings history) (eventData : Value Secret) (mainWindow : Bool)
    (permissionSecrets : String → Option Secret) (resp : Nat) (save : Save) :
    Recorded (handleRunCommand system eventData mainWindow permissionSecrets settings resp save).settings
      ((handleRunCommand system eventData mainWindow permissionSecrets settings resp save).acts ++ history) := by
  unfold handleRunCommand
  split
  · exact recorded
  · split
    · exact recorded
    · split
      · exact recorded_consent recorded _ mainWindow resp save
      · exact recorded

omit [DecidableEq Secret] in
theorem recorded_handleInstall (recorded : Recorded settings history) (mainWindow : Bool) (url : String) (fetched : Option String)
    (userChoice : Option Nat) (save : Save) :
    Recorded (handleInstall system mainWindow url fetched userChoice settings save).1
      ((handleInstall system mainWindow url fetched userChoice settings save).2 ++ history) := by
  unfold handleInstall
  split
  · exact recorded
  · split
    next name choice =>
      split
      · exact recorded
      · exact recorded_install recorded system.development name save
    next => exact recorded

theorem recorded_handleUninstall (recorded : Recorded settings history) (pluginName : String) (save : Save) :
    Recorded (handleUninstall pluginName settings save).1 ((handleUninstall pluginName settings save).2 ++ history) := by
  unfold handleUninstall
  split
  · exact recorded
  · exact recorded_remove recorded pluginName save

theorem recorded_step {state next : State Secret} {event : Event Secret} (recorded : Recorded state.settings state.history)
    (taken : step system state event = some next) : Recorded next.settings next.history := by
  cases event with
  | setup mainWindow secrets =>
    rw [step] at taken
    split at taken <;> cases taken <;> exact recorded
  | runCommand handler eventData resp save =>
    obtain ⟨permissionSecrets, -, rfl⟩ := Option.map_eq_some_iff.mp taken
    exact recorded_message recorded eventData true permissionSecrets resp save
  | install mainWindow url fetched userChoice save =>
    obtain rfl := Option.some.inj taken
    exact recorded_handleInstall recorded mainWindow url fetched userChoice save
  | uninstall pluginName save =>
    obtain rfl := Option.some.inj taken
    exact recorded_handleUninstall recorded pluginName save
  | restart =>
    obtain rfl := Option.some.inj taken
    exact recorded

/-! A message. -/

theorem carries_permitted {commandData : CommandData Secret} {permissionSecrets : String → Option Secret}
    (permitted : checkPermissionSecret commandData permissionSecrets = some none) : Carries commandData permissionSecrets := by
  obtain ⟨name, is, checked⟩ := Option.map_eq_some_iff.mp permitted
  split at checked
  next secret given has carried =>
    split at checked
    next same =>
      subst same
      exact ⟨name, secret, is, has, carried⟩
    next => cases checked
  next => cases checked

theorem handleRunCommand_permitted {eventData : Value Secret} {permissionSecrets : String → Option Secret}
    {commandData : CommandData Secret} (valid : validateCommandData system eventData = .ok commandData)
    (permitted : checkPermissionSecret commandData permissionSecrets = some none) (resp : Nat) (save : Save) :
    handleRunCommand system eventData true permissionSecrets settings resp save =
      let consent := checkCommandConsent (consentKeyOf system commandData.command commandData.args) true settings resp save
      ⟨consent.settings, consent.acts, if consent.proceeds then some (spawn system commandData) else none⟩ := by
  simp only [handleRunCommand, Bool.true_eq_false, if_false, valid, permitted]

theorem handleRunCommand_spawned {eventData : Value Secret} {permissionSecrets : String → Option Secret} {resp : Nat} {save : Save}
    (spawns : (handleRunCommand system eventData true permissionSecrets settings resp save).spawned ≠ none) :
    ∃ commandData, validateCommandData system eventData = .ok commandData ∧
      checkPermissionSecret commandData permissionSecrets = some none ∧
        (checkCommandConsent (consentKeyOf system commandData.command commandData.args) true settings resp save).proceeds = true := by
  simp only [handleRunCommand, Bool.true_eq_false, if_false] at spawns
  split at spawns
  next => exact absurd rfl spawns
  next commandData valid =>
    split at spawns
    next permitted =>
      refine ⟨commandData, valid, permitted, ?_⟩
      by_contra stopped
      exact spawns (if_neg stopped)
    next => exact absurd rfl spawns

theorem checkCommandConsent_asked {consentKey : String}
    (missing : settings.bind (fun confirmedCommands => confirmedCommands consentKey) = none) (resp : Nat) (save : Save) :
    (checkCommandConsent consentKey true settings resp save).proceeds = decide (save = .done) ∧
      (checkCommandConsent consentKey true settings resp save).acts = [.answered consentKey (decide (resp = 0))] := by
  unfold checkCommandConsent
  rw [missing]
  exact ⟨rfl, rfl⟩

theorem checkCommandConsent_known {consentKey : String} {choice : Bool}
    (stored : settings.bind (fun confirmedCommands => confirmedCommands consentKey) = some choice) (resp : Nat) (save : Save) :
    (checkCommandConsent consentKey true settings resp save).proceeds = choice ∧
      (checkCommandConsent consentKey true settings resp save).acts = [] := by
  unfold checkCommandConsent
  rw [stored]
  cases choice <;> exact ⟨rfl, rfl⟩

theorem consented_iff {state : State Secret} (recorded : Recorded state.settings state.history) (event : Event Secret) :
    Consented system state event ↔ Granted system state event := by
  cases event with
  | runCommand handler eventData resp save =>
    refine forall_congr' fun permissionSecrets => forall_congr' fun _ => ?_
    constructor
    · rintro consented ⟨commandData, valid, permitted, missing⟩
      by_contra denied
      obtain ⟨deny, saved⟩ := not_or.mp denied
      obtain ⟨proceeds, acts⟩ := checkCommandConsent_asked missing resp save
      rw [handleRunCommand_permitted valid permitted] at consented
      dsimp only at consented
      rw [if_pos (proceeds.trans (decide_eq_true (not_not.mp saved)))] at consented
      obtain ⟨other, also, -, allowed⟩ := consented (Option.some_ne_none _)
      cases valid.symm.trans also
      rw [acts, List.singleton_append, decision, if_pos rfl, decide_eq_false deny] at allowed
      cases allowed
    · intro granted spawns
      obtain ⟨commandData, valid, permitted, proceeds⟩ := handleRunCommand_spawned spawns
      refine ⟨commandData, valid, carries_permitted permitted, ?_⟩
      rw [handleRunCommand_permitted valid permitted]
      cases stored : state.settings.bind
          (fun confirmedCommands => confirmedCommands (consentKeyOf system commandData.command commandData.args)) with
      | none =>
        obtain ⟨saves, acts⟩ := checkCommandConsent_asked stored resp save
        have saved : save = .done := of_decide_eq_true (saves.symm.trans proceeds)
        have allow : resp = 0 := (granted ⟨commandData, valid, permitted, stored⟩).resolve_right fun other => other saved
        dsimp only
        rw [acts, List.singleton_append, decision, if_pos rfl, decide_eq_true allow]
      | some choice =>
        obtain ⟨chosen, acts⟩ := checkCommandConsent_known stored resp save
        dsimp only
        rw [acts, List.nil_append, recorded_stored recorded stored, ← chosen, proceeds]
  | setup mainWindow secrets => exact Iff.rfl
  | install mainWindow url fetched userChoice save => exact Iff.rfl
  | uninstall pluginName save => exact Iff.rfl
  | restart => exact Iff.rfl

/-- From the first start on, processes are spawned with consent alone exactly when no
dialog is answered with Deny. -/
theorem consented_throughout (system : System Secret) (events : List (Event Secret)) :
    Meets (step system) (Consented system) fresh events ↔ Meets (step system) (Granted system) fresh events :=
  meets_congr (fun state => Recorded state.settings state.history) (fun _ _ _ recorded taken => recorded_step recorded taken)
    (fun _ event recorded => consented_iff recorded event) (recorded_none []) events

end

private def anySystem : System Nat := ⟨fun _ => "", "headlamp", id, false⟩

/-- The start of minikube, with the secret. -/
private def startMinikube : Value Nat := .object [("command", .text "minikube"), ("args", .array [.text "start"]),
  ("options", .object []), ("permissionSecrets", .object [("runCmd-minikube", .number 7)])]

/-- A command whose first dialog is answered with Deny is run. -/
theorem denied_command_runs : ¬∀ (Secret : Type) (_ : DecidableEq Secret) (system : System Secret) (events : List (Event Secret)),
    Meets (step system) (Consented system) fresh events := by
  intro every
  have granted := (consented_throughout anySystem _).mp
    (every Nat inferInstance anySystem [.setup true fun _ => 7, .runCommand 0 startMinikube 1 .done])
  have asks : Asks anySystem startMinikube (fun name => if name ∈ permissionNames then some 7 else none) none :=
    ⟨⟨"minikube", [.text "start"], [("runCmd-minikube", .number 7)]⟩, rfl, by decide, rfl⟩
  exact absurd (granted.2.1 _ rfl asks) (by decide)

end K8Sense.App.RunCmd
