import K8Sense.Library.TextDecoder
import Mathlib.Data.List.Infix

/-! What a terminal shows of the frames that a container's stream delivers. -/

namespace K8Sense.Frontend.TerminalStream
open TextDecoder

namespace Channel

def stdOut : Int := 1
def stdErr : Int := 2
def serverError : Int := 3

end Channel

/-- The channels that a container writes to. -/
inductive Output where
  | stdOut
  | stdErr
deriving DecidableEq

def Output.byte : Output → UInt8
  | .stdOut => 1
  | .stdErr => 2

def Output.channel : Output → Int
  | .stdOut => Channel.stdOut
  | .stdErr => Channel.stdErr

/-- What the user of the hook gives for errors. What is taken for one of a container's
output is a message in which ASCII characters occur. The channel of a frame without
bytes is undefined. -/
structure ErrorHandlers where
  isSuccessfulExit : Option Int → Text → Bool
  isShellNotFound : Option Int → Text → Bool
  speaks : ∀ (output : Output) text,
    (isSuccessfulExit (some output.channel) text || isShellNotFound (some output.channel) text) = true →
      ∃ ch : UInt8, ch < 0x80 ∧ [ch] ∈ text

/-- `writes` are the texts written to the terminal, with the channel of each. -/
structure State where
  connected : Bool
  cleared : Nat
  resizes : Nat
  closed : Bool
  failures : Nat
  writes : List (Option Int × Text)

def initial : State := ⟨false, 0, 0, false, 0, []⟩

/-- The byte as an `Int8`. -/
def signed (byte : UInt8) : Int := if byte < 0x80 then byte.toNat else byte.toNat - 256

/-- The channel is not shown. Comparisons with an undefined one are false. -/
def hidden (channel : Option Int) : Bool := channel.any fun channel => channel < Channel.stdOut || Channel.serverError < channel

/-- The first data clear the terminal and ask for its size. -/
def connect (channel : Option Int) (state : State) : State :=
  if state.connected then state else
    { state with
      cleared := state.cleared + 1
      resizes := state.resizes + 1
      connected := channel ≠ some Channel.serverError }

section
variable (handlers : ErrorHandlers)

def taken (channel : Option Int) (text : Text) : Bool := handlers.isSuccessfulExit channel text || handlers.isShellNotFound channel text

def onData (state : State) (bytes : Bytes) : State :=
  let channel := bytes.head?.map signed
  if hidden channel then state
  else
    let text := decode (bytes.drop 1)
    let state := connect channel state
    if handlers.isSuccessfulExit channel text then { state with closed := true }
    else if handlers.isShellNotFound channel text then { state with failures := state.failures + 1 }
    else { state with writes := state.writes ++ [(channel, text)] }

def receive (frames : List Bytes) : State := frames.foldl (onData handlers) initial

end

def State.written (output : Output) (state : State) : Text :=
  (state.writes.filter fun write => write.1 = some output.channel).flatMap (·.2)

/-- What the container writes to a channel, frame by frame. -/
def payloads (output : Output) (frames : List Bytes) : List Bytes :=
  (frames.filter fun frame => frame.head? = some output.byte).map (·.drop 1)

/-! Handlers of the shells. -/

/-- What is read of the status that the server sends at the end. -/
structure Status where
  metadataEmpty : Bool
  status : Option String
  code : Option Nat
  reason : Option String

def notFoundMessage : Text := "The system cannot find the file specified".toList.map fun ch => [UInt8.ofNat ch.toNat]

/-- The handlers of the node shell and of the debug shell. `parse` is `JSON.parse`, with
`none` where it throws. -/
def shellHandlers (parse : Text → Option Status) : ErrorHandlers where
  isSuccessfulExit channel text := channel = some Channel.serverError &&
    (parse text).any fun error => error.metadataEmpty && error.status = some "Success"
  isShellNotFound channel text := (channel = some Channel.serverError &&
      (parse text).any fun error => error.code = some 500 && error.status = some "Failure" && error.reason = some "InternalError") ||
    (channel = some Channel.stdOut && decide (notFoundMessage <:+: text))
  speaks output text found := by
    have message : notFoundMessage <:+: text := by
      cases output <;> simp_all [Output.channel, Channel.stdOut, Channel.stdErr, Channel.serverError]
    exact ⟨84, by decide, message.subset (by decide)⟩

def noHandlers : ErrorHandlers where
  isSuccessfulExit _ _ := false
  isShellNotFound _ _ := false
  speaks _ _ found := by cases found

/-! What is written for a channel. -/

theorem signed_byte (output : Output) : signed output.byte = output.channel := by
  cases output <;> rfl

theorem signed_injective {first second : UInt8} (same : signed first = signed second) : first = second := by
  unfold signed at same
  apply UInt8.toNat_inj.mp
  have firstBound := first.toNat_lt
  have secondBound := second.toNat_lt
  split at same <;> split at same <;> simp only [UInt8.lt_iff_toNat_lt] at * <;> omega

section
variable (handlers : ErrorHandlers)

theorem onData_writes (state : State) (bytes : Bytes) : (onData handlers state bytes).writes = state.writes ++
    if hidden (bytes.head?.map signed) || taken handlers (bytes.head?.map signed) (decode (bytes.drop 1)) then []
    else [(bytes.head?.map signed, decode (bytes.drop 1))] := by
  unfold onData
  generalize bytes.head?.map signed = channel
  cases skipped : hidden channel with
  | true => simp [skipped]
  | false =>
    simp only [skipped, Bool.false_or, taken]
    have kept : (connect channel state).writes = state.writes := by
      unfold connect
      split <;> rfl
    cases handlers.isSuccessfulExit channel (decode (bytes.drop 1)) with
    | true => simpa using kept
    | false =>
      cases handlers.isShellNotFound channel (decode (bytes.drop 1)) with
      | true => simpa using kept
      | false => simp [kept]

theorem onData_written (output : Output) (state : State) (frame : Bytes) :
    (onData handlers state frame).written output = state.written output ++
      ((payloads output [frame]).filter fun payload => !taken handlers (some output.channel) (decode payload)).flatMap decode := by
  rw [State.written, State.written, onData_writes, List.filter_append, List.flatMap_append, List.append_cancel_left_eq]
  by_cases own : frame.head? = some output.byte
  · have channel : frame.head?.map signed = some output.channel := by rw [own, Option.map_some, signed_byte]
    have shown : hidden (some output.channel) = false := by cases output <;> rfl
    have single : payloads output [frame] = [frame.drop 1] := by simp [payloads, own]
    rw [channel, shown, Bool.false_or, single, List.filter_singleton]
    cases taken handlers (some output.channel) (decode (frame.drop 1)) <;> simp
  · have other : frame.head?.map signed ≠ some output.channel := by
      intro same
      obtain ⟨byte, first, equal⟩ := Option.map_eq_some_iff.mp same
      rw [← signed_byte] at equal
      exact own (by rw [first, signed_injective equal])
    have none : payloads output [frame] = [] := by simp [payloads, own]
    rw [none]
    split <;> simp [other]

theorem receive_written (output : Output) (frames : List Bytes) : (receive handlers frames).written output =
    ((payloads output frames).filter fun payload => !taken handlers (some output.channel) (decode payload)).flatMap decode := by
  induction frames using List.reverseRecOn with
  | nil => rfl
  | append_singleton frames frame ih =>
    have split : payloads output (frames ++ [frame]) = payloads output frames ++ payloads output [frame] := by
      simp [payloads]
    rw [receive, List.foldl_append, List.foldl_cons, List.foldl_nil, ← receive, onData_written, ih, split, List.filter_append, List.flatMap_append]

theorem count_filter (keeps : Bytes → Bool) {ch : UInt8} (ascii : ch < 0x80) (frames : List Bytes) :
    ((frames.filter keeps).flatMap decode).count [ch] + ((frames.filter fun frame => !keeps frame).flatMap decode).count [ch] =
      frames.flatten.count ch := by
  have text : ∀ frame, (decode frame).count [ch] = frame.count ch := by
    intro frame
    rw [decode, strip_count (by simp [mark]), decodeAll, count_ascii ascii]
  induction frames with
  | nil => rfl
  | cons frame rest ih =>
    rw [List.flatten_cons, List.count_append]
    cases kept : keeps frame with
    | true =>
      rw [List.filter_cons_of_pos kept, List.filter_cons_of_neg (by simp [kept]), List.flatMap_cons, List.count_append, text]
      omega
    | false =>
      rw [List.filter_cons_of_neg (by simp [kept]), List.filter_cons_of_pos (by simp [kept]), List.flatMap_cons, List.count_append, text]
      omega

theorem untaken_of_decoded {output : Output} {frames : List Bytes}
    (decoded : (receive handlers frames).written output = decode (payloads output frames).flatten) :
    ∀ payload ∈ payloads output frames, taken handlers (some output.channel) (decode payload) = false := by
  intro payload member
  by_contra gone
  rw [Bool.not_eq_false] at gone
  obtain ⟨ch, ascii, inside⟩ := handlers.speaks output (decode payload) gone
  have counted := count_filter (fun payload => !taken handlers (some output.channel) (decode payload)) ascii (payloads output frames)
  rw [← receive_written, decoded, decode, strip_count (by simp [mark]), decodeAll, count_ascii ascii] at counted
  have missing : [ch] ∉ (List.filter (fun payload => !!taken handlers (some output.channel) (decode payload)) (payloads output frames)).flatMap decode :=
    List.count_eq_zero.mp (by omega)
  refine missing (List.mem_flatMap.mpr ⟨payload, List.mem_filter.mpr ⟨member, ?_⟩, inside⟩)
  rw [gone]
  rfl

/-- The text written for a channel is that of all bytes that the container writes to it
exactly when no frame ends inside a character, no later frame begins with a mark and no
frame is taken for an error. -/
theorem written_decoded_iff (output : Output) (frames : List Bytes) :
    (receive handlers frames).written output = decode (payloads output frames).flatten ↔
      TextDecoder.Clean (payloads output frames) ∧ Unmarked (payloads output frames) ∧
        ∀ payload ∈ payloads output frames, taken handlers (some output.channel) (decode payload) = false := by
  have all : (∀ payload ∈ payloads output frames, taken handlers (some output.channel) (decode payload) = false) →
      (receive handlers frames).written output = (payloads output frames).flatMap decode := by
    intro untaken
    rw [receive_written, List.filter_eq_self.mpr]
    intro payload member
    rw [untaken payload member]
    rfl
  constructor
  · intro decoded
    have untaken := untaken_of_decoded handlers decoded
    rw [all untaken, frames_decoded_iff] at decoded
    exact ⟨decoded.1, decoded.2, untaken⟩
  · intro ⟨clean, unmarked, untaken⟩
    rw [all untaken, frames_decoded_iff]
    exact ⟨clean, unmarked⟩

end

/-- The euro sign in two frames. -/
def cutCharacter : List Bytes := [[1, 0xe2, 0x82], [1, 0xac]]

theorem character_cut : ¬ ∀ (handlers : ErrorHandlers) (output : Output) (frames : List Bytes),
    (receive handlers frames).written output = decode (payloads output frames).flatten := by
  intro every
  exact absurd (every noHandlers .stdOut cutCharacter) (by decide)

end K8Sense.Frontend.TerminalStream
