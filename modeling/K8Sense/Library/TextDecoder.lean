import K8Sense.Library.Utf8
import Mathlib.Algebra.GroupWithZero.Nat
import Mathlib.Data.List.Count

/-! A decoder of UTF-8 that puts U+FFFD for what is no character, one for as many bytes
as could have begun one. A character is given by its UTF-8 form. -/

namespace K8Sense.TextDecoder
open Utf8

abbrev Bytes := List UInt8

abbrev Text := List Bytes

/-- U+FEFF. -/
def mark : Bytes := [0xef, 0xbb, 0xbf]

/-- How many bytes the character has that begins with the byte. -/
def size (first : UInt8) : Nat := if first ≤ 0xdf then 2 else if first ≤ 0xef then 3 else 4

def isLead (byte : UInt8) : Bool := 0xc2 ≤ byte && byte ≤ 0xf4

/-- The byte goes on with the character of which some bytes were read. -/
def accepts : Bytes → UInt8 → Bool
  | [], _ => false
  | [first], byte => isSecond first byte
  | _, byte => isContinuation byte

/-- What is put for a character that is not gone on with. -/
def flush (read : Bytes) : Text := if read = [] then [] else [replacement]

/-- The bytes of a character that are read so far, and what is put out. -/
def start (byte : UInt8) : Bytes × Text :=
  if byte < 0x80 then ([], [[byte]])
  else if isLead byte then ([byte], [])
  else ([], [replacement])

def step (read : Bytes) (byte : UInt8) : Bytes × Text :=
  if accepts read byte then
    if read.length + 1 = size (read.headD 0) then ([], [read ++ [byte]]) else (read ++ [byte], [])
  else ((start byte).1, flush read ++ (start byte).2)

def after (read : Bytes) (bytes : Bytes) : Bytes := bytes.foldl (fun read byte => (step read byte).1) read

def decodeFrom : Bytes → Bytes → Text
  | read, [] => flush read
  | read, byte :: rest => (step read byte).2 ++ decodeFrom (step read byte).1 rest

/-- The text of the bytes with a mark at the start left in. -/
def decodeAll (bytes : Bytes) : Text := decodeFrom [] bytes

def strip : Text → Text
  | [] => []
  | first :: rest => if first = mark then rest else first :: rest

/-- The text of the bytes, read to their end. -/
def decode (bytes : Bytes) : Text := strip (decodeAll bytes)

/-! A text is in the middle of a character. -/

theorem accepts_continuation {read : Bytes} {byte : UInt8} (accepted : accepts read byte = true) : isContinuation byte = true := by
  unfold accepts at accepted
  split at accepted
  · cases accepted
  · unfold isSecond at accepted
    simp only [Bool.and_eq_true] at accepted
    exact accepted.1.1.1.1
  · exact accepted

theorem start_continuation {byte : UInt8} (continuation : isContinuation byte = true) : start byte = ([], [replacement]) := by
  simp only [isContinuation, Bool.and_eq_true, decide_eq_true_eq] at continuation
  have low : ¬ byte < 0x80 := UInt8.not_lt.mpr continuation.1
  have lead : isLead byte = false := by
    simp only [isLead, Bool.and_eq_false_iff, decide_eq_false_iff_not]
    have bound := UInt8.le_iff_toNat_le.mp continuation.2
    refine Or.inl fun more => ?_
    have bound' := UInt8.le_iff_toNat_le.mp more
    have numbers : (0xbf : UInt8).toNat = 191 ∧ (0xc2 : UInt8).toNat = 194 := ⟨rfl, rfl⟩
    omega
  rw [start, if_neg low, lead]
  rfl

theorem step_refused {read : Bytes} {byte : UInt8} (refused : accepts read byte = false) :
    step read byte = ((start byte).1, flush read ++ (start byte).2) := by
  rw [step, refused]
  rfl

theorem step_idle (byte : UInt8) : step [] byte = start byte := by
  rw [step_refused rfl]
  rfl

/-- A byte that is accepted goes on with the character or ends it. -/
theorem step_accepted {read : Bytes} {byte : UInt8} (accepted : accepts read byte = true) :
    step read byte = ([], [read ++ [byte]]) ∨ step read byte = (read ++ [byte], []) := by
  rw [step, accepted, if_pos rfl]
  split
  · exact Or.inl rfl
  · exact Or.inr rfl

/-- A character that is not gone on with is replaced, and the rest is read anew. -/
theorem decodeFrom_refused {read bytes : Bytes} (refused : ∀ byte ∈ bytes.head?, accepts read byte = false) :
    decodeFrom read bytes = flush read ++ decodeFrom [] bytes := by
  cases bytes with
  | nil => simp [decodeFrom, flush]
  | cons byte rest =>
    rw [decodeFrom, decodeFrom, step_refused (refused byte rfl), step_idle, List.append_assoc]

theorem decodeFrom_continuation {byte : UInt8} (continuation : isContinuation byte = true) (rest : Bytes) :
    decodeFrom [] (byte :: rest) = replacement :: decodeFrom [] rest := by
  rw [decodeFrom, step_idle, start_continuation continuation]
  rfl

theorem flush_length (read : Bytes) : (flush read).length ≤ 1 := by
  unfold flush
  split <;> simp

/-- Bytes that go on with a character give no more text than they give after its
replacement, and less where the first of them is accepted. -/
theorem decodeFrom_length {read : Bytes} (inside : read ≠ []) (bytes : Bytes) :
    (decodeFrom read bytes).length ≤ (decodeFrom [] bytes).length + 1 ∧
      ((∃ byte ∈ bytes.head?, accepts read byte = true) → (decodeFrom read bytes).length ≤ (decodeFrom [] bytes).length) := by
  induction bytes generalizing read with
  | nil =>
    refine ⟨?_, by simp⟩
    have := flush_length read
    simp only [decodeFrom]
    omega
  | cons byte rest ih =>
    cases accepted : accepts read byte with
    | false =>
      rw [decodeFrom_refused (by simpa using accepted)]
      have := flush_length read
      refine ⟨by rw [List.length_append]; omega, by simp [accepted]⟩
    | true =>
      have fresh := decodeFrom_continuation (accepts_continuation accepted) rest
      have bound : (decodeFrom read (byte :: rest)).length ≤ (decodeFrom [] (byte :: rest)).length := by
        rw [fresh, decodeFrom]
        rcases step_accepted accepted with ended | more
        · simp [ended]
        · have later := (@ih (read ++ [byte]) (by simp)).1
          simpa [more] using later
      exact ⟨by omega, fun _ => bound⟩

theorem count_flush {ch : Bytes} (other : replacement ≠ ch) (read : Bytes) : (flush read).count ch = 0 := by
  unfold flush
  split
  · rfl
  · exact List.count_eq_zero.mpr (by simpa using other.symm)

/-- No mark comes from reading anew in the middle of a character. -/
theorem decodeFrom_marks (read bytes : Bytes) : (decodeFrom [] bytes).count mark ≤ (decodeFrom read bytes).count mark := by
  induction bytes generalizing read with
  | nil => exact Nat.zero_le _
  | cons byte rest ih =>
    cases accepted : accepts read byte with
    | false =>
      have reread := @decodeFrom_refused read (byte :: rest) (by simpa using accepted)
      rw [reread, List.count_append]
      omega
    | true =>
      have other : [replacement].count mark = 0 := by decide
      rw [decodeFrom_continuation (accepts_continuation accepted), decodeFrom, ← List.singleton_append, List.count_append, List.count_append,
        other]
      have later := ih (step read byte).1
      omega

theorem start_cases (byte : UInt8) : (byte < 0x80 ∧ start byte = ([], [[byte]])) ∨
    (¬ byte < 0x80 ∧ (start byte = ([byte], []) ∨ start byte = ([], [replacement]))) := by
  unfold start
  split
  next low => exact Or.inl ⟨low, rfl⟩
  next high =>
    refine Or.inr ⟨high, ?_⟩
    split
    · exact Or.inl rfl
    · exact Or.inr rfl

theorem continuation_high {byte : UInt8} (continuation : isContinuation byte = true) : ¬ byte < 0x80 := by
  simp only [isContinuation, Bool.and_eq_true, decide_eq_true_eq] at continuation
  exact UInt8.not_lt.mpr continuation.1

/-- Bytes below 0x80 are put out as they are, wherever they come. -/
theorem count_ascii {ch : UInt8} (ascii : ch < 0x80) (read bytes : Bytes) : (decodeFrom read bytes).count [ch] = bytes.count ch := by
  have other : replacement ≠ [ch] := by simp [replacement]
  have differs : ∀ byte, ¬ byte < 0x80 → byte ≠ ch := by
    rintro byte high rfl
    exact high ascii
  have replaced : [replacement].count [ch] = 0 := by
    rw [List.count_singleton]
    simpa using other
  induction bytes generalizing read with
  | nil => exact count_flush other read
  | cons byte rest ih =>
    rw [decodeFrom, List.count_append, ih, List.count_cons]
    have put : (step read byte).2.count [ch] = if byte == ch then 1 else 0 := by
      cases accepted : accepts read byte with
      | true =>
        have high := differs byte (continuation_high (accepts_continuation accepted))
        have longer : read ++ [byte] ≠ [ch] := by
          cases read with
          | nil => cases accepted
          | cons first more => cases more <;> simp
        rw [if_neg (by simpa using high)]
        rcases step_accepted accepted with ended | more
        · rw [ended, List.count_singleton]
          simpa using longer
        · rw [more]
          rfl
      | false =>
        rw [step_refused accepted, List.count_append, count_flush other, Nat.zero_add]
        rcases start_cases byte with ⟨low, plain⟩ | ⟨high, lead | none⟩
        · rw [plain, List.count_singleton]
          simp
        · rw [lead, if_neg (by simpa using differs byte high)]
          rfl
        · rw [none, replaced, if_neg (by simpa using differs byte high)]
    rw [put]
    omega

theorem decodeFrom_eq_nil {read bytes : Bytes} (empty : decodeFrom read bytes = []) : read = [] ∧ bytes = [] := by
  induction bytes generalizing read with
  | nil =>
    refine ⟨?_, rfl⟩
    simpa [decodeFrom, flush] using empty
  | cons byte rest ih =>
    obtain ⟨nothing, later⟩ := List.append_eq_nil_iff.mp empty
    have idle := (ih later).1
    cases accepted : accepts read byte with
    | true =>
      rcases step_accepted accepted with ended | more
      · rw [ended] at nothing
        cases nothing
      · rw [more] at idle
        simp at idle
    | false =>
      rw [step_refused accepted] at nothing idle
      rcases start_cases byte with ⟨-, plain⟩ | ⟨-, lead | none⟩
      · rw [plain] at nothing
        simp at nothing
      · rw [lead] at idle
        cases idle
      · rw [none] at nothing
        simp at nothing

theorem decodeAll_ne_nil {bytes : Bytes} (nonempty : bytes ≠ []) : decodeAll bytes ≠ [] :=
  fun empty => nonempty (decodeFrom_eq_nil empty).2

theorem mark_of_head {read bytes : Bytes} (begins : (decodeFrom read bytes).head? = some mark) : mark <+: read ++ bytes := by
  have other : replacement ≠ mark := by decide
  have flushed : ∀ {read : Bytes} {rest : Text}, (flush read ++ rest).head? = some mark → read = [] ∧ rest.head? = some mark := by
    intro read rest head
    unfold flush at head
    split at head
    next empty => exact ⟨empty, head⟩
    next => exact absurd (Option.some.inj head) other
  induction bytes generalizing read with
  | nil =>
    have head := flushed (by simpa [decodeFrom] using begins : (flush read ++ []).head? = some mark)
    cases head.2
  | cons byte rest ih =>
    rw [decodeFrom] at begins
    cases accepted : accepts read byte with
    | true =>
      rcases step_accepted accepted with ended | more
      · rw [ended] at begins
        have same := Option.some.inj begins
        exact ⟨rest, by rw [← same, List.append_assoc]; rfl⟩
      · rw [more] at begins
        have later := ih begins
        rwa [List.append_assoc] at later
    | false =>
      rw [step_refused accepted, List.append_assoc] at begins
      obtain ⟨rfl, begins⟩ := flushed begins
      rcases start_cases byte with ⟨-, plain⟩ | ⟨-, lead | none⟩
      · rw [plain] at begins
        have same := Option.some.inj begins
        simp [mark] at same
      · rw [lead] at begins
        exact ih begins
      · rw [none] at begins
        exact absurd (Option.some.inj begins) other

theorem head_mark_iff {bytes : Bytes} : (decodeAll bytes).head? = some mark ↔ mark <+: bytes := by
  refine ⟨mark_of_head, ?_⟩
  rintro ⟨rest, rfl⟩
  rfl

/-! Bytes in frames that are each read to their end. -/

/-- What is put out before the end of the bytes. -/
def emitted (read : Bytes) : Bytes → Text
  | [] => []
  | byte :: rest => (step read byte).2 ++ emitted (step read byte).1 rest

theorem decodeFrom_append (read bytes more : Bytes) :
    decodeFrom read (bytes ++ more) = emitted read bytes ++ decodeFrom (after read bytes) more := by
  induction bytes generalizing read with
  | nil => rfl
  | cons byte rest ih =>
    rw [List.cons_append, decodeFrom, ih, emitted, List.append_assoc]
    rfl

/-- The bytes end in a character that the next ones go on with. -/
def EndsInside (bytes more : Bytes) : Prop := ∃ byte ∈ more.head?, accepts (after [] bytes) byte = true

instance (bytes more : Bytes) : Decidable (EndsInside bytes more) := by
  unfold EndsInside
  cases more.head? with
  | none => exact isFalse (by simp)
  | some byte => exact decidable_of_iff (accepts (after [] bytes) byte = true) (by simp)

theorem decodeAll_eq (bytes : Bytes) : decodeAll bytes = emitted [] bytes ++ flush (after [] bytes) := by
  have whole := decodeFrom_append [] bytes []
  rwa [List.append_nil] at whole

/-- Two parts give their texts one after the other, unless the first ends inside a
character that the second goes on with. -/
theorem decodeAll_append {bytes more : Bytes} (apart : ¬ EndsInside bytes more) :
    decodeAll (bytes ++ more) = decodeAll bytes ++ decodeAll more := by
  have refused : ∀ byte ∈ more.head?, accepts (after [] bytes) byte = false := by
    intro byte first
    rw [← Bool.not_eq_true]
    exact fun accepted => apart ⟨byte, first, accepted⟩
  rw [decodeAll, decodeFrom_append, decodeFrom_refused refused, decodeAll_eq bytes, List.append_assoc]
  rfl

theorem decodeAll_append_length (bytes more : Bytes) :
    (decodeAll (bytes ++ more)).length ≤ (decodeAll bytes).length + (decodeAll more).length ∧
      (EndsInside bytes more → (decodeAll (bytes ++ more)).length < (decodeAll bytes).length + (decodeAll more).length) := by
  by_cases inside : EndsInside bytes more
  · have reading : after [] bytes ≠ [] := by
      intro idle
      obtain ⟨byte, -, accepted⟩ := inside
      rw [idle] at accepted
      cases accepted
    have shorter := (decodeFrom_length reading more).2 inside
    have flushed : (flush (after [] bytes)).length = 1 := by rw [flush, if_neg reading]; rfl
    rw [decodeAll, decodeFrom_append, decodeAll_eq bytes, List.length_append, List.length_append, flushed]
    rw [decodeAll]
    exact ⟨by omega, fun _ => by omega⟩
  · rw [decodeAll_append inside, List.length_append]
    exact ⟨Nat.le_refl _, fun ends => absurd ends inside⟩

theorem decodeAll_append_marks (bytes more : Bytes) :
    (decodeAll bytes).count mark + (decodeAll more).count mark ≤ (decodeAll (bytes ++ more)).count mark := by
  rw [decodeAll, decodeAll, decodeAll, decodeFrom_append, ← decodeAll, decodeAll_eq bytes, List.count_append, List.count_append,
    count_flush (by decide)]
  have later := decodeFrom_marks (after [] bytes) more
  omega

/-- No frame ends inside a character that the next bytes go on with. -/
def Clean : List Bytes → Prop
  | [] => True
  | frame :: rest => ¬ EndsInside frame rest.flatten ∧ Clean rest

/-- Only the first frame with any bytes may begin with a mark. -/
def Unmarked : List Bytes → Prop
  | [] => True
  | [] :: rest => Unmarked rest
  | _ :: rest => ∀ frame ∈ rest, ¬ mark <+: frame

theorem clean_text {frames : List Bytes} (clean : Clean frames) : frames.flatMap decodeAll = decodeAll frames.flatten := by
  induction frames with
  | nil => rfl
  | cons frame rest ih => rw [List.flatMap_cons, List.flatten_cons, decodeAll_append clean.1, ih clean.2]

theorem frames_length (frames : List Bytes) : (decodeAll frames.flatten).length ≤ (frames.flatMap decodeAll).length ∧
    ((frames.flatMap decodeAll).length ≤ (decodeAll frames.flatten).length → Clean frames) := by
  induction frames with
  | nil => exact ⟨Nat.le_refl _, fun _ => trivial⟩
  | cons frame rest ih =>
    obtain ⟨bound, clean⟩ := ih
    obtain ⟨joined, shorter⟩ := decodeAll_append_length frame rest.flatten
    rw [List.flatMap_cons, List.flatten_cons, List.length_append]
    refine ⟨by omega, fun same => ⟨fun inside => ?_, clean (by omega)⟩⟩
    have := shorter inside
    omega

theorem frames_marks (frames : List Bytes) : (frames.flatMap decodeAll).count mark ≤ (decodeAll frames.flatten).count mark := by
  induction frames with
  | nil => exact Nat.le_refl _
  | cons frame rest ih =>
    have joined := decodeAll_append_marks frame rest.flatten
    rw [List.flatMap_cons, List.flatten_cons, List.count_append]
    omega

/-! Marks at the start of frames. -/

def marked (text : Text) : Nat := if text.head? = some mark then 1 else 0

theorem strip_length (text : Text) : (strip text).length + marked text = text.length := by
  cases text with
  | nil => rfl
  | cons first rest =>
    by_cases same : first = mark
    · simp [strip, marked, same]
    · simp [strip, marked, same]

theorem strip_marks (text : Text) : (strip text).count mark + marked text = text.count mark := by
  cases text with
  | nil => rfl
  | cons first rest =>
    by_cases same : first = mark
    · simp [strip, marked, same]
    · simp [strip, marked, same]

theorem strip_count {ch : Bytes} (other : ch ≠ mark) (text : Text) : (strip text).count ch = text.count ch := by
  cases text with
  | nil => rfl
  | cons first rest =>
    by_cases same : first = mark
    · rw [strip, if_pos same, same, List.count_cons_of_ne other.symm]
    · rw [strip, if_neg same]

theorem strip_append {first : Text} (nonempty : first ≠ []) (second : Text) : strip (first ++ second) = strip first ++ second := by
  cases first with
  | nil => exact absurd rfl nonempty
  | cons ch rest =>
    by_cases same : ch = mark
    · simp [strip, same]
    · simp [strip, same]

theorem decode_unmarked {bytes : Bytes} (plain : ¬ mark <+: bytes) : decode bytes = decodeAll bytes := by
  rw [← head_mark_iff] at plain
  unfold decode strip
  split
  next empty => exact empty.symm
  next first rest text =>
    rw [text] at plain
    rw [if_neg (by simpa using plain), text]

/-- How many of the frames begin with a mark. -/
def markedFrames (frames : List Bytes) : Nat := (frames.map fun frame => marked (decodeAll frame)).sum

theorem frames_strip_length (frames : List Bytes) :
    (frames.flatMap decode).length + markedFrames frames = (frames.flatMap decodeAll).length := by
  induction frames with
  | nil => rfl
  | cons frame rest ih =>
    have here := strip_length (decodeAll frame)
    rw [markedFrames] at ih ⊢
    rw [List.flatMap_cons, List.flatMap_cons, List.length_append, List.length_append, List.map_cons, List.sum_cons, decode]
    omega

theorem frames_strip_marks (frames : List Bytes) :
    (frames.flatMap decode).count mark + markedFrames frames = (frames.flatMap decodeAll).count mark := by
  induction frames with
  | nil => rfl
  | cons frame rest ih =>
    have here := strip_marks (decodeAll frame)
    rw [markedFrames] at ih ⊢
    rw [List.flatMap_cons, List.flatMap_cons, List.count_append, List.count_append, List.map_cons, List.sum_cons, decode]
    omega

theorem markedFrames_cons (frame : Bytes) (rest : List Bytes) :
    markedFrames (frame :: rest) = marked (decodeAll frame) + markedFrames rest := by
  rw [markedFrames, List.map_cons, List.sum_cons, ← markedFrames]

theorem markedFrames_eq_zero {frames : List Bytes} (none : markedFrames frames = 0) : ∀ frame ∈ frames, ¬ mark <+: frame := by
  induction frames with
  | nil => exact fun frame member => absurd member List.not_mem_nil
  | cons first rest ih =>
    rw [markedFrames_cons] at none
    intro frame member begins
    rcases List.mem_cons.mp member with rfl | later
    · rw [marked, if_pos (head_mark_iff.mpr begins)] at none
      omega
    · exact ih (by omega) frame later begins

/-- Where the frames have the marks that all bytes have, only the first begins with one. -/
theorem unmarked_of_eq {frames : List Bytes} (text : frames.flatMap decodeAll = decodeAll frames.flatten)
    (marks : markedFrames frames = marked (decodeAll frames.flatten)) : Unmarked frames := by
  match frames with
  | [] => trivial
  | [] :: rest =>
    have restText : rest.flatMap decodeAll = decodeAll rest.flatten := text
    have empty : marked (decodeAll []) = 0 := rfl
    rw [markedFrames_cons, empty, Nat.zero_add] at marks
    exact @unmarked_of_eq rest restText marks
  | (byte :: frame) :: rest =>
    have given := decodeAll_ne_nil (List.cons_ne_nil byte frame)
    have first : marked (decodeAll ((byte :: frame) :: rest).flatten) = marked (decodeAll (byte :: frame)) := by
      rw [← text, List.flatMap_cons, marked, marked, List.head?_append_of_ne_nil _ given]
    rw [markedFrames_cons, first] at marks
    exact markedFrames_eq_zero (by omega)

theorem decoded_of_unmarked {frames : List Bytes} (text : frames.flatMap decodeAll = decodeAll frames.flatten)
    (unmarked : Unmarked frames) : frames.flatMap decode = decode frames.flatten := by
  match frames with
  | [] => rfl
  | [] :: rest =>
    have restText : rest.flatMap decodeAll = decodeAll rest.flatten := text
    exact @decoded_of_unmarked rest restText unmarked
  | (byte :: frame) :: rest =>
    have given := decodeAll_ne_nil (List.cons_ne_nil byte frame)
    have plain : rest.flatMap decode = rest.flatMap decodeAll := List.flatMap_congr fun other member => decode_unmarked (unmarked other member)
    rw [decode, ← text, List.flatMap_cons, List.flatMap_cons, strip_append given, plain]
    rfl

/-- The texts of the frames, one after the other, are the text of all bytes exactly when
no frame ends inside a character and no later frame begins with a mark. -/
theorem frames_decoded_iff (frames : List Bytes) :
    frames.flatMap decode = decode frames.flatten ↔ Clean frames ∧ Unmarked frames := by
  constructor
  · intro same
    have length := frames_strip_length frames
    have marks := frames_strip_marks frames
    rw [same, decode] at length marks
    have wholeLength := strip_length (decodeAll frames.flatten)
    have wholeMarks := strip_marks (decodeAll frames.flatten)
    obtain ⟨shorter, clean⟩ := frames_length frames
    have fewer := frames_marks frames
    -- The marks bound the frames that begin with one from above, the lengths from below.
    have equal : markedFrames frames = marked (decodeAll frames.flatten) := by omega
    have cleanFrames := clean (by omega)
    exact ⟨cleanFrames, unmarked_of_eq (clean_text cleanFrames) equal⟩
  · intro ⟨clean, unmarked⟩
    exact decoded_of_unmarked (clean_text clean) unmarked

end K8Sense.TextDecoder
