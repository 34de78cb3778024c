import K8Sense.Frontend.ValidationErrors
import K8Sense.Library.Transition

/-! One cluster action, which the user can cancel until its grace period ends. A timer,
the continuation of a promise that is settled, a dispatch and the end of the callback
are one step each. -/

namespace K8Sense.Frontend.ClusterActionSlice
open Transition

inductive ActionState where
  | start
  | complete
  | error
deriving DecidableEq

structure ClusterActionButton where
  label : String
  actionToDispatch : String
deriving DecidableEq

abbrev SnackbarProps := List (String × String)

/-- What the slice has for an action. -/
structure ClusterAction where
  id : String
  key : Option String := none
  autoHideDuration : Option Nat := none
  message : Option String := none
  url : Option String := none
  state : Option ActionState := none
  buttons : Option (List ClusterActionButton) := none
  dismissSnackbar : Option String := none
  snackbarProps : Option SnackbarProps := none
deriving DecidableEq

/-- What the caller gives, without the callback. Of a `cancelCallback` only
whether there is one matters here. -/
structure CallbackAction where
  startUrl : Option String := none
  cancelUrl : Option String := none
  errorUrl : Option String := none
  successUrl : Option String := none
  startMessage : Option String := none
  cancelledMessage : Option String := none
  errorMessage : Option String := none
  successMessage : Option String := none
  startOptions : SnackbarProps := []
  cancelledOptions : SnackbarProps := []
  successOptions : SnackbarProps := [("variant", "success")]
  errorOptions : SnackbarProps := [("variant", "error")]
  cancelCallback : Bool := false

/-! The message of an error. -/

/-- A character of `\s`. -/
def isSpace (ch : Char) : Bool :=
  ch.toNat ∈ [9, 10, 11, 12, 13, 0x20, 0xa0, 0x1680, 0x2028, 0x2029, 0x202f, 0x205f, 0x3000, 0xfeff] ||
    (0x2000 ≤ ch.toNat && ch.toNat ≤ 0x200a)

def dropPrefix : List Char → List Char → Option (List Char)
  | [], text => some text
  | _ :: _, [] => none
  | want :: wanted, ch :: text => if want = ch then dropPrefix wanted text else none

/-- What follows a match of `/,?\s*regex used for validation is '[^']*'/` at the start. -/
def afterRegexNote (text : List Char) : Option (List Char) :=
  let text := match text with
    | ',' :: rest => rest
    | _ => text
  match dropPrefix "regex used for validation is '".toList (text.dropWhile isSpace) with
  | none => none
  | some rest =>
    match rest.dropWhile (· ≠ '\'') with
    | [] => none
    | _ :: after => some after

/-- `replace` with the global flag; a match is never empty. -/
def cleaned : Nat → List Char → List Char
  | 0, text => text
  | _ + 1, [] => []
  | fuel + 1, ch :: rest =>
    match afterRegexNote (ch :: rest) with
    | some after => cleaned fuel after
    | none => ch :: cleaned fuel rest

/-- What the brackets of `/\s*\[(.+)\]\s*$/s` enclose, at the start of the text. -/
def bracketed (text : List Char) : Option (List Char) :=
  match text.dropWhile isSpace with
  | '[' :: rest =>
    match rest.reverse.dropWhile isSpace with
    | ']' :: inner => if inner = [] then none else some inner.reverse
    | _ => none
  | _ => none

/-- `/^(.*?is invalid:)\s*\[(.+)\]\s*$/s`, with what was read before the text. -/
def multiError (before : List Char) : List Char → Option (List Char × List Char)
  | [] => none
  | ch :: rest =>
    match (dropPrefix "is invalid:".toList (ch :: rest)).bind bracketed with
    | some inner => some (before ++ "is invalid:".toList, inner)
    | none => multiError (before ++ [ch]) rest

def trim (text : List Char) : List Char := ((text.dropWhile isSpace).reverse.dropWhile isSpace).reverse

def originalMessage (rawMessage : String) : String :=
  let text := cleaned rawMessage.length rawMessage.toList
  match multiError [] text with
  | some (start, inner) =>
    let bullets := (ValidationErrors.splitK8sValidationErrors inner).map fun part => "• ".toList ++ trim part
    String.ofList (trim (start ++ '\n' :: ['\n'].intercalate bullets))
  | none => String.ofList (trim text)

def CallbackAction.message (action : CallbackAction) (rawMessage : String) : String :=
  let message := action.errorMessage.getD ""
  let original := if rawMessage = "" then "" else originalMessage rawMessage
  if original = "" then message
  else
    let separator := if message = "" then "" else if message.endsWith "." then " " else ". "
    message ++ separator ++ original

/-! The action. -/

inductive Final where
  | success
  | error (message : String)
  | cancelled
deriving DecidableEq

/-- Where `cancellableActionLogic` stands. A promise that is settled is not yet acted on. -/
inductive Phase where
  | waiting
  | resolved
  | rejected
  | running
  | settled (failure : Option String)
  | finished
deriving DecidableEq

/-- `registered` is whether `controllers` has the key, `entry` what the slice has for it.
`ran`, `recorded` and `undone` say what was done so far and are not read. -/
structure State where
  phase : Phase
  aborted : Bool
  registered : Bool
  entry : Option ClusterAction
  closing : Bool
  ran : Nat
  recorded : List Final
  undone : Nat

inductive Event where
  /-- The grace period ends. -/
  | timer
  /-- The user cancels, which the reducer handles at once. -/
  | cancel
  /-- The callback is done, or has failed with the message. -/
  | settle (failure : Option String)
  /-- The logic goes on after the promise that it awaits. -/
  | resume
  | close
deriving DecidableEq

section
variable (action : CallbackAction) (actionKey : String)

/-- `updateClusterAction` with more than the id. -/
def State.update (change : ClusterAction → ClusterAction) (state : State) : State :=
  { state with entry := some (change (state.entry.getD { id := actionKey })) }

def dispatchStart : State → State := State.update actionKey fun entry =>
  { entry with
    key := some actionKey
    message := action.startMessage
    state := some .start
    url := action.startUrl
    buttons := some [⟨"Cancel", "clusterAction/cancel/" ++ actionKey⟩]
    snackbarProps := some action.startOptions }

def dispatchSuccess (state : State) : State :=
  { State.update actionKey (fun entry => { entry with
      buttons := none
      dismissSnackbar := some actionKey
      message := action.successMessage
      state := some .complete
      snackbarProps := some action.successOptions
      url := action.successUrl }) state with
    recorded := state.recorded ++ [.success] }

def dispatchCancelled (state : State) : State :=
  { State.update actionKey (fun entry => { entry with
      buttons := none
      message := action.cancelledMessage
      state := some .complete
      dismissSnackbar := some actionKey
      url := action.cancelUrl
      snackbarProps := some action.cancelledOptions
      autoHideDuration := some 3000 }) state with
    recorded := state.recorded ++ [.cancelled] }

def dispatchError (rawMessage : String) (state : State) : State :=
  { State.update actionKey (fun entry => { entry with
      buttons := none
      dismissSnackbar := some actionKey
      message := some (action.message rawMessage)
      state := some .error
      snackbarProps := some action.errorOptions
      url := action.errorUrl }) state with
    recorded := state.recorded ++ [.error (action.message rawMessage)] }

def dispatchClose (state : State) : State := { state with entry := none }

/-- The `finally` block. -/
def finish (state : State) : State := { state with phase := .finished, registered := false, closing := true }

/-- The `catch` block. -/
def failed (message : String) (state : State) : State :=
  if message = "Action cancelled" ∨ state.aborted then
    let state := dispatchCancelled action actionKey state
    if action.cancelCallback then { state with undone := state.undone + 1 } else state
  else dispatchError action actionKey message state

def cancelClusterAction (state : State) : State :=
  let state := if state.registered then
    { state with
      aborted := true
      registered := false
      phase := if state.phase = .waiting then .rejected else state.phase }
  else state
  { state with entry := none }

def initial : State := dispatchStart action actionKey ⟨.waiting, false, true, none, false, 0, [], 0⟩

/-- `none` where there is nothing to resume, no timer runs or the callback is not at work. -/
def step (state : State) : Event → Option State
  | .timer => if state.phase = .waiting then some { state with phase := .resolved } else none
  | .cancel => some (cancelClusterAction state)
  | .settle failure => if state.phase = .running then some { state with phase := .settled failure } else none
  | .close => if state.closing then some (dispatchClose { state with closing := false }) else none
  | .resume =>
    match state.phase with
    | .resolved =>
      if state.aborted then some (finish state)
      else some { state with phase := .running, ran := state.ran + 1 }
    | .rejected => some (finish (failed action actionKey "Action cancelled" state))
    | .settled none => some (finish (dispatchSuccess action actionKey state))
    | .settled (some message) => some (finish (failed action actionKey message state))
    | _ => none

structure Course where
  events : List Event
  last : State
  ran : run (step action actionKey) (initial action actionKey) events = some last

end

/-- A cancel comes before the end of the grace period. -/
def CancelledInTime : List Event → Prop
  | [] => False
  | .cancel :: _ => True
  | .timer :: _ => False
  | _ :: rest => CancelledInTime rest

/-- What the state is to say of the action after the events. -/
structure Exclusive (events : List Event) (state : State) : Prop where
  once : state.ran ≤ 1
  prevented : CancelledInTime events → state.ran = 0
  atMostOne : state.recorded.length ≤ 1
  exactlyOne : state.phase = .finished → state.recorded.length = 1
  notRun : .cancelled ∈ state.recorded → state.ran = 0

/-- The logic does not go on to the callback after a cancel, and neither is a failed
callback taken for a cancelled one. -/
def Proper (state : State) : Event → Prop
  | .resume =>
    match state.phase with
    | .resolved => state.aborted = false
    | .settled (some message) => state.aborted = false ∧ message ≠ "Action cancelled"
    | _ => True
  | _ => True

/-! What has been done in a phase. -/

/-- What was recorded and run so far, by the phase. -/
def Consistent (state : State) : Prop :=
  match state.phase with
  | .waiting => state.ran = 0 ∧ state.recorded = [] ∧ state.registered = true
  | .resolved => state.ran = 0 ∧ state.recorded = []
  | .rejected => state.ran = 0 ∧ state.recorded = [] ∧ state.aborted = true
  | .running => state.ran = 1 ∧ state.recorded = []
  | .settled _ => state.ran = 1 ∧ state.recorded = []
  | .finished => state.ran ≤ 1 ∧ state.recorded.length ≤ 1

/-- What the state alone is to say. -/
structure Good (state : State) : Prop where
  exactlyOne : state.phase = .finished → state.recorded.length = 1
  notRun : .cancelled ∈ state.recorded → state.ran = 0

section
variable {action : CallbackAction} {actionKey : String}

theorem Consistent.once {state : State} (consistent : Consistent state) : state.ran ≤ 1 := by
  unfold Consistent at consistent
  split at consistent <;> omega

theorem Consistent.atMostOne {state : State} (consistent : Consistent state) : state.recorded.length ≤ 1 := by
  unfold Consistent at consistent
  split at consistent
  case h_6 => exact consistent.2
  all_goals simp [consistent.2]

theorem Consistent.good {state : State} (consistent : Consistent state) (unfinished : state.phase ≠ .finished) : Good state := by
  have nothing : state.recorded = [] := by
    unfold Consistent at consistent
    split at consistent
    case h_6 finished => exact absurd finished unfinished
    case h_1 => exact consistent.2.1
    case h_3 => exact consistent.2.1
    all_goals exact consistent.2
  refine ⟨fun finished => absurd finished unfinished, ?_⟩
  simp [nothing]

theorem failed_recorded (message : String) (state : State) :
    (finish (failed action actionKey message state)).recorded = state.recorded ++
      [if message = "Action cancelled" ∨ state.aborted then .cancelled else .error (action.message message)] := by
  unfold failed
  split
  · cases action.cancelCallback <;> rfl
  · rfl

theorem failed_ran (message : String) (state : State) :
    (finish (failed action actionKey message state)).ran = state.ran := by
  unfold failed
  split
  · cases action.cancelCallback <;> rfl
  · rfl

theorem resume_cases {state next : State} (taken : step action actionKey state .resume = some next) :
    (state.phase = .resolved ∧ state.aborted = true ∧ next = finish state) ∨
    (state.phase = .resolved ∧ state.aborted = false ∧ next = { state with phase := .running, ran := state.ran + 1 }) ∨
    (state.phase = .rejected ∧ next = finish (failed action actionKey "Action cancelled" state)) ∨
    (state.phase = .settled none ∧ next = finish (dispatchSuccess action actionKey state)) ∨
    ∃ message, state.phase = .settled (some message) ∧ next = finish (failed action actionKey message state) := by
  unfold step at taken
  cases phase : state.phase with
  | resolved =>
    simp only [phase] at taken
    cases aborted : state.aborted <;> simp [aborted] at taken <;> simp [← taken]
  | rejected => simp only [phase, Option.some.injEq] at taken; simp [taken]
  | settled failure =>
    cases failure <;> simp only [phase, Option.some.injEq] at taken <;> simp [← taken]
  | waiting => simp [phase] at taken
  | running => simp [phase] at taken
  | finished => simp [phase] at taken

theorem cancel_phase (state : State) : (cancelClusterAction state).phase = state.phase ∨
    (state.phase = .waiting ∧ (cancelClusterAction state).phase = .rejected) := by
  unfold cancelClusterAction
  cases state.registered
  · exact Or.inl rfl
  · by_cases waiting : state.phase = .waiting <;> simp [waiting]

theorem cancel_recorded (state : State) : (cancelClusterAction state).recorded = state.recorded := by
  unfold cancelClusterAction
  cases state.registered <;> rfl

theorem cancel_ran (state : State) : (cancelClusterAction state).ran = state.ran := by
  unfold cancelClusterAction
  cases state.registered <;> rfl

theorem cancel_consistent {state : State} (consistent : Consistent state) : Consistent (cancelClusterAction state) := by
  unfold Consistent at *
  unfold cancelClusterAction
  cases phase : state.phase <;> cases registered : state.registered <;> simp_all

theorem step_consistent {state next : State} {event : Event} (consistent : Consistent state)
    (taken : step action actionKey state event = some next) : Consistent next := by
  cases event with
  | timer =>
    simp only [step, Option.ite_none_right_eq_some, Option.some.injEq] at taken
    obtain ⟨phase, rfl⟩ := taken
    simp only [Consistent, phase] at consistent ⊢
    exact ⟨consistent.1, consistent.2.1⟩
  | cancel =>
    cases taken
    exact cancel_consistent consistent
  | settle failure =>
    simp only [step, Option.ite_none_right_eq_some, Option.some.injEq] at taken
    obtain ⟨phase, rfl⟩ := taken
    simpa only [Consistent, phase] using consistent
  | close =>
    simp only [step, Option.ite_none_right_eq_some, Option.some.injEq] at taken
    obtain ⟨-, rfl⟩ := taken
    exact consistent
  | resume =>
    have once := consistent.once
    rcases resume_cases taken with ⟨phase, -, rfl⟩ | ⟨phase, -, rfl⟩ | ⟨phase, rfl⟩ | ⟨phase, rfl⟩ | ⟨message, phase, rfl⟩
    all_goals simp only [Consistent, phase] at consistent
    · exact ⟨once, by simp [finish, consistent.2]⟩
    · exact ⟨by simp [consistent.1], consistent.2⟩
    · refine ⟨by rw [failed_ran]; exact once, ?_⟩
      rw [failed_recorded, consistent.2.1]
      simp
    · refine ⟨once, ?_⟩
      simp [finish, dispatchSuccess, consistent.2]
    · refine ⟨by rw [failed_ran]; exact once, ?_⟩
      rw [failed_recorded, consistent.2]
      simp

theorem proper_iff {state next : State} {event : Event} (consistent : Consistent state) (good : Good state)
    (taken : step action actionKey state event = some next) : Proper state event ↔ Good next := by
  have after := step_consistent consistent taken
  cases event with
  | timer =>
    simp only [step, Option.ite_none_right_eq_some, Option.some.injEq] at taken
    obtain ⟨-, rfl⟩ := taken
    exact iff_of_true trivial (after.good (by simp))
  | cancel =>
    cases taken
    refine iff_of_true trivial ⟨fun finished => ?_, ?_⟩
    · rw [cancel_recorded]
      rcases cancel_phase state with same | ⟨-, stopped⟩
      · exact good.exactlyOne (same.symm.trans finished)
      · cases stopped.symm.trans finished
    · rw [cancel_recorded, cancel_ran]
      exact good.notRun
  | settle failure =>
    simp only [step, Option.ite_none_right_eq_some, Option.some.injEq] at taken
    obtain ⟨-, rfl⟩ := taken
    exact iff_of_true trivial (after.good (by simp))
  | close =>
    simp only [step, Option.ite_none_right_eq_some, Option.some.injEq] at taken
    obtain ⟨-, rfl⟩ := taken
    exact iff_of_true trivial ⟨good.exactlyOne, good.notRun⟩
  | resume =>
    rcases resume_cases taken with ⟨phase, aborted, rfl⟩ | ⟨phase, aborted, rfl⟩ | ⟨phase, rfl⟩ | ⟨phase, rfl⟩ | ⟨message, phase, rfl⟩
    all_goals simp only [Consistent, phase] at consistent
    all_goals simp only [Proper, phase]
    · refine iff_of_false (by simp [aborted]) fun fine => ?_
      have one := fine.exactlyOne rfl
      simp [finish, consistent.2] at one
    · exact iff_of_true aborted (after.good (by simp))
    · refine iff_of_true trivial ⟨fun _ => ?_, fun _ => ?_⟩
      · simp [failed_recorded, consistent.2.1]
      · rw [failed_ran, consistent.1]
    · refine iff_of_true trivial ⟨fun _ => ?_, fun member => ?_⟩
      · simp [finish, dispatchSuccess, consistent.2]
      · simp [finish, dispatchSuccess, consistent.2] at member
    · constructor
      · intro ⟨alive, other⟩
        refine ⟨fun _ => ?_, fun member => ?_⟩
        · simp [failed_recorded, consistent.2]
        · simp [failed_recorded, consistent.2, alive, other] at member
      · intro fine
        have ran := fine.notRun
        rw [failed_ran, failed_recorded, consistent.1, consistent.2] at ran
        by_cases taken : message = "Action cancelled" ∨ state.aborted = true
        · simp [taken] at ran
        · simpa [and_comm] using taken

theorem initial_consistent : Consistent (initial action actionKey) := ⟨rfl, rfl, rfl⟩

/-! A cancel in time. -/

/-- The callback is not run any more. -/
def Stopped (state : State) : Prop := state.ran = 0 ∧ (state.phase = .rejected ∨ state.phase = .finished)

theorem step_stopped {state next : State} {event : Event} (stopped : Stopped state)
    (taken : step action actionKey state event = some next) : Stopped next := by
  obtain ⟨never, phase⟩ := stopped
  cases event with
  | timer =>
    simp only [step, Option.ite_none_right_eq_some] at taken
    rcases phase with phase | phase <;> cases phase.symm.trans taken.1
  | cancel =>
    cases taken
    refine ⟨by rw [cancel_ran, never], ?_⟩
    rcases cancel_phase state with same | ⟨-, rejected⟩
    · rw [same]
      exact phase
    · exact Or.inl rejected
  | settle failure =>
    simp only [step, Option.ite_none_right_eq_some] at taken
    rcases phase with phase | phase <;> cases phase.symm.trans taken.1
  | close =>
    simp only [step, Option.ite_none_right_eq_some, Option.some.injEq] at taken
    obtain ⟨-, rfl⟩ := taken
    exact ⟨never, phase⟩
  | resume =>
    rcases resume_cases taken with ⟨-, -, rfl⟩ | ⟨resolved, -, -⟩ | ⟨-, rfl⟩ | ⟨-, rfl⟩ | ⟨message, -, rfl⟩
    · exact ⟨never, Or.inr rfl⟩
    · rcases phase with phase | phase <;> cases phase.symm.trans resolved
    · exact ⟨by rw [failed_ran, never], Or.inr rfl⟩
    · exact ⟨never, Or.inr rfl⟩
    · exact ⟨by rw [failed_ran, never], Or.inr rfl⟩

theorem cancelled_in_time {events : List Event} (inTime : CancelledInTime events) {start last : State}
    (waiting : start.phase = .waiting) (registered : start.registered = true) (never : start.ran = 0)
    (ran : run (step action actionKey) start events = some last) : last.ran = 0 := by
  induction events generalizing start with
  | nil => exact absurd inTime not_false
  | cons event rest ih =>
    rw [run_cons, Option.bind_eq_some_iff] at ran
    obtain ⟨next, taken, ran⟩ := ran
    cases event with
    | timer => exact absurd inTime not_false
    | cancel =>
      cases taken
      have stopped : Stopped (cancelClusterAction start) := by
        refine ⟨by rw [cancel_ran, never], Or.inl ?_⟩
        simp [cancelClusterAction, registered, waiting]
      exact (always Stopped (fun _ _ _ => step_stopped) stopped ran).1
    | settle failure => simp [step, waiting] at taken
    | resume => simp [step, waiting] at taken
    | close =>
      simp only [step, Option.ite_none_right_eq_some, Option.some.injEq] at taken
      obtain ⟨-, rfl⟩ := taken
      refine ih inTime ?_ ?_ ?_ ran
      · exact waiting
      · exact registered
      · exact never

end

/-- At each moment of the course of an action its callback has run at most once, and not
after a cancel in time, and one outcome at most is recorded, which is the cancelled one
only where the callback has not run, exactly when each step of the course is proper. -/
theorem exclusive_iff_proper {action : CallbackAction} {actionKey : String} (course : Course action actionKey) :
    (∀ before after state, course.events = before ++ after →
        run (step action actionKey) (initial action actionKey) before = some state → Exclusive before state) ↔
      Meets (step action actionKey) Proper (initial action actionKey) course.events := by
  rw [← throughout_iff Consistent Good (fun _ _ _ consistent _ => step_consistent consistent)
    (fun _ _ _ consistent good taken => proper_iff consistent good taken)
    initial_consistent (initial_consistent.good (by rw [initial]; simp [dispatchStart, State.update])) course.ran]
  constructor
  · intro every before after state split reached
    have exclusive := every before after state split reached
    exact ⟨exclusive.exactlyOne, exclusive.notRun⟩
  · intro every before after state split reached
    have good := every before after state split reached
    have consistent := always Consistent (fun _ _ _ => step_consistent) initial_consistent reached
    exact ⟨consistent.once, fun inTime => cancelled_in_time inTime rfl rfl rfl reached, consistent.atMostOne,
      good.exactlyOne, good.notRun⟩

/-- The user cancels while the callback is at work, and the callback fails. -/
def cancelledTooLate : Course {} "1" :=
  ⟨[.timer, .resume, .cancel, .settle (some "timeout"), .resume], _, rfl⟩

/-- It is recorded as cancelled, though it has run. -/
theorem ran_and_cancelled : ¬ ∀ (action : CallbackAction) (actionKey : String) (course : Course action actionKey),
    Exclusive course.events course.last := by
  intro every
  have notRun := (every {} "1" cancelledTooLate).notRun
  exact absurd (notRun (by decide)) (by decide)

end K8Sense.Frontend.ClusterActionSlice
