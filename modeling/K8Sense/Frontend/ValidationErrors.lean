import Mathlib.Data.List.Basic

/-! The body of an error that names several invalid fields, split into one part a field. -/

namespace K8Sense.Frontend.ValidationErrors

/-- What the scanner knows before a character, with whether the one before is a backslash. -/
structure Reading where
  depth : Nat
  inString : Bool
  backslash : Bool
deriving DecidableEq

namespace Reading

def start : Reading := ⟨0, false, false⟩

def next (reading : Reading) (ch : Char) : Reading :=
  if ch = '"' ∧ reading.backslash = false then ⟨reading.depth, !reading.inString, false⟩
  else if reading.inString then ⟨reading.depth, true, ch = '\\'⟩
  else if ch = '{' ∨ ch = '[' then ⟨reading.depth + 1, false, false⟩
  else if ch = '}' ∨ ch = ']' then ⟨reading.depth - 1, false, false⟩
  else ⟨reading.depth, false, ch = '\\'⟩

def after (reading : Reading) (text : List Char) : Reading := text.foldl next reading

end Reading

/-- A character of `[\w./[\]-]`. -/
def isFieldChar (ch : Char) : Bool := ch.isAlphanum || ch ∈ "_./[]-".toList

/-- The text matches `/^[a-z][\w./[\]-]*:/`. -/
def startsField : List Char → Bool
  | [] => false
  | ch :: rest => ch.isLower && (rest.dropWhile isFieldChar).head? == some ':'

def startsPart : List Char → Bool
  | ' ' :: more => startsField more
  | _ => false

def separates (reading : Reading) (ch : Char) (rest : List Char) : Bool :=
  !reading.inString && reading.depth == 0 && ch == ',' && startsPart rest

/-- `skip` is how far the start of the part is ahead. -/
def scan (reading : Reading) (skip : Nat) (part : List Char) : List Char → List (List Char)
  | [] => [part]
  | ch :: rest =>
    if separates reading ch rest then part :: scan (reading.next ch) 1 [] rest
    else scan (reading.next ch) (skip - 1) (if skip = 0 then part ++ [ch] else part) rest

def splitK8sValidationErrors (inner : List Char) : List (List Char) := scan .start 0 [] inner

def separator : List Char := [',', ' ']

def joined (errors : List (List Char)) : List Char := separator.intercalate errors

/-! What the scanner does with the first part. -/

/-- Outside of strings and brackets, as the scanner sees it. -/
def Reading.Top (reading : Reading) : Prop := reading.depth = 0 ∧ reading.inString = false

/-- The scanner finds no separator in the text. -/
def Whole : Reading → List Char → Prop
  | _, [] => True
  | reading, ch :: rest => separates reading ch rest = false ∧ Whole (reading.next ch) rest

theorem separates_iff {reading : Reading} {ch : Char} {rest : List Char} : separates reading ch rest = true ↔
    reading.Top ∧ ch = ',' ∧ ∃ more, rest = ' ' :: more ∧ startsField more = true := by
  have part : startsPart rest = true ↔ ∃ more, rest = ' ' :: more ∧ startsField more = true := by
    unfold startsPart
    split <;> simp_all
  unfold separates Reading.Top
  rw [Bool.and_eq_true, Bool.and_eq_true, Bool.and_eq_true, part]
  simp [and_comm, and_assoc, and_left_comm]

theorem scan_separator {reading : Reading} (top : reading.Top) {more : List Char} (starts : startsField more = true) (skip : Nat) (part : List Char) :
    scan reading skip part (',' :: ' ' :: more) = part :: scan .start 0 [] more := by
  obtain ⟨depth, inString, backslash⟩ := reading
  obtain ⟨rfl, rfl⟩ := top
  have here : separates ⟨0, false, backslash⟩ ',' (' ' :: more) = true := separates_iff.mpr ⟨⟨rfl, rfl⟩, rfl, more, rfl, starts⟩
  rw [scan, if_pos here, scan]
  rfl

theorem startsField_append {text : List Char} (starts : startsField text = true) (more : List Char) : startsField (text ++ more) = true := by
  cases text with
  | nil => cases starts
  | cons ch rest =>
    simp only [startsField, Bool.and_eq_true, beq_iff_eq, List.cons_append] at starts ⊢
    refine ⟨starts.1, ?_⟩
    rw [List.dropWhile_append]
    cases left : rest.dropWhile isFieldChar with
    | nil => rw [left] at starts; cases starts.2
    | cons first others => rw [left] at starts; simpa using starts.2

theorem startsField_comma (text more : List Char) : startsField (text ++ ',' :: more) = startsField text := by
  cases text with
  | nil => rfl
  | cons ch rest =>
    simp only [startsField, List.cons_append]
    rw [List.dropWhile_append]
    cases left : rest.dropWhile isFieldChar with
    | nil =>
      have stops : isFieldChar ',' = false := by decide
      simp [stops]
    | cons first others => rfl

theorem separates_comma (reading : Reading) (ch : Char) (rest more : List Char) :
    separates reading ch (rest ++ ',' :: more) = separates reading ch rest := by
  have part : startsPart (rest ++ ',' :: more) = startsPart rest := by
    match rest with
    | [] => rfl
    | first :: rest =>
      by_cases space : first = ' '
      · subst space
        exact startsField_comma rest more
      · simp [startsPart, space]
  unfold separates
  rw [part]

theorem scan_whole {reading : Reading} {text : List Char} (whole : Whole reading text) (part : List Char) :
    scan reading 0 part text = [part ++ text] := by
  induction text generalizing reading part with
  | nil => rw [scan, List.append_nil]
  | cons ch rest ih =>
    obtain ⟨here, later⟩ := whole
    rw [scan, here]
    exact (ih later _).trans (by simp)

theorem scan_part {reading : Reading} {text : List Char} (whole : Whole reading text) (top : (reading.after text).Top) {more : List Char}
    (starts : startsField more = true) (part : List Char) :
    scan reading 0 part (text ++ ',' :: ' ' :: more) = (part ++ text) :: scan .start 0 [] more := by
  induction text generalizing reading part with
  | nil =>
    rw [List.append_nil, List.nil_append]
    exact scan_separator top starts 0 part
  | cons ch rest ih =>
    obtain ⟨here, later⟩ := whole
    rw [List.cons_append, scan, separates_comma, here]
    exact (ih later top _).trans (by simp)

theorem scan_cases (reading : Reading) (part text : List Char) :
    (Whole reading text ∧ scan reading 0 part text = [part ++ text]) ∨
      ∃ first more, text = first ++ ',' :: ' ' :: more ∧ Whole reading first ∧ (reading.after first).Top ∧ startsField more = true ∧
        scan reading 0 part text = (part ++ first) :: scan .start 0 [] more := by
  induction text generalizing reading part with
  | nil => exact .inl ⟨trivial, by rw [scan, List.append_nil]⟩
  | cons ch rest ih =>
    cases here : separates reading ch rest with
    | true =>
      obtain ⟨top, rfl, more, rfl, starts⟩ := separates_iff.mp here
      exact .inr ⟨[], more, rfl, trivial, top, starts, by rw [scan_separator top starts, List.append_nil]⟩
    | false =>
      rcases ih (reading.next ch) (part ++ [ch]) with ⟨whole, scanned⟩ | ⟨first, more, rfl, whole, top, starts, scanned⟩
      · refine .inl ⟨⟨here, whole⟩, ?_⟩
        rw [scan, here]
        exact scanned.trans (by simp)
      · rw [separates_comma] at here
        refine .inr ⟨ch :: first, more, rfl, ⟨here, whole⟩, top, starts, ?_⟩
        rw [scan, separates_comma, here]
        exact scanned.trans (by simp)

theorem scan_ne_nil (reading : Reading) (part text : List Char) : scan reading 0 part text ≠ [] := by
  rcases scan_cases reading part text with ⟨_, scanned⟩ | ⟨_, _, _, _, _, _, scanned⟩
  · simp [scanned]
  · simp [scanned]

theorem joined_scan (text : List Char) : joined (scan .start 0 [] text) = text := by
  rcases scan_cases .start [] text with ⟨_, scanned⟩ | ⟨first, more, split, _, _, _, scanned⟩
  · rw [scanned, joined, List.intercalate_singleton, List.nil_append]
  · have later := joined_scan more
    rw [scanned, joined, List.intercalate_cons_of_ne_nil (scan_ne_nil _ _ _)]
    unfold joined at later
    rw [later, split]
    simp [separator]
termination_by text.length
decreasing_by
  have longer := congrArg List.length split
  simp only [List.length_append, List.length_cons] at longer
  omega

/-- A text that ends outside of strings and brackets, where a quote right after a
backslash is no quote. -/
def Closed (text : List Char) : Prop := (Reading.start.after text).Top

/-- No comma and space outside of strings and brackets, in the same sense, stand before
a field. -/
def Undivided (text : List Char) : Prop :=
  ∀ before more, text = before ++ ',' :: ' ' :: more → Closed before → startsField more = false

theorem whole_iff {reading : Reading} {text : List Char} : Whole reading text ↔
    ∀ before more, text = before ++ ',' :: ' ' :: more → (reading.after before).Top → startsField more = false := by
  induction text generalizing reading with
  | nil => exact iff_of_true trivial fun before more split => absurd split.symm (by simp)
  | cons ch rest ih =>
    constructor
    · intro ⟨here, later⟩ before more split top
      cases before with
      | nil =>
        obtain ⟨rfl, rfl⟩ := List.cons.inj split
        by_contra starts
        have separated : separates reading ',' (' ' :: more) = true := separates_iff.mpr ⟨top, rfl, more, rfl, Bool.not_eq_false _ ▸ starts⟩
        exact Bool.false_ne_true (here.symm.trans separated)
      | cons first before =>
        obtain ⟨rfl, rest⟩ := List.cons.inj split
        exact ih.mp later before more rest top
    · intro none
      constructor
      · by_contra separated
        obtain ⟨top, rfl, more, rfl, starts⟩ := separates_iff.mp (Bool.not_eq_false _ ▸ separated)
        rw [none [] more rfl top] at starts
        cases starts
      · exact ih.mpr fun before more split top => none (ch :: before) more (congrArg (ch :: ·) split) top

/-- The split of the joined errors gives them back where each is closed before the next
one, and none is divided. -/
theorem split_joined {errors : List (List Char)} (fields : ∀ error ∈ errors, startsField error = true) :
    splitK8sValidationErrors (joined errors) = errors ↔
      errors ≠ [] ∧ (∀ error ∈ errors.dropLast, Closed error) ∧ ∀ error ∈ errors, Undivided error := by
  induction errors with
  | nil => exact iff_of_false nofun fun right => right.1 rfl
  | cons error rest ih =>
    rw [and_iff_right (List.cons_ne_nil _ _)]
    cases rest with
    | nil =>
      have same : joined [error] = error := List.intercalate_singleton
      rw [same, List.forall_mem_singleton]
      refine Iff.trans ⟨fun right => whole_iff.mp ?_, fun whole => scan_whole (whole_iff.mpr whole) []⟩ (and_iff_right nofun).symm
      rcases scan_cases .start [] error with ⟨whole, _⟩ | ⟨_, more, _, _, _, _, scanned⟩
      · exact whole
      · have two := scanned.symm.trans right
        exact absurd (List.cons.inj two).2 (scan_ne_nil _ _ _)
    | cons other rest =>
      obtain ⟨_, later⟩ := List.forall_mem_cons.mp fields
      have split : joined (error :: other :: rest) = error ++ ',' :: ' ' :: joined (other :: rest) := by
        rw [joined, List.intercalate_cons_cons, separator, List.append_assoc]
        rfl
      have starts : startsField (joined (other :: rest)) = true := by
        have first := later other (.head _)
        cases rest with
        | nil => rwa [joined, List.intercalate_singleton]
        | cons another rest =>
          rw [joined, List.intercalate_cons_cons, List.append_assoc]
          exact startsField_append first _
      have again := (ih later).trans (and_iff_right (List.cons_ne_nil _ _))
      rw [List.dropLast_cons_cons, List.forall_mem_cons, List.forall_mem_cons, split]
      constructor
      · intro right
        rcases scan_cases .start [] (error ++ ',' :: ' ' :: joined (other :: rest)) with ⟨_, scanned⟩ | ⟨first, more, same, whole, top, _, scanned⟩
        · exact absurd (List.cons.inj (scanned.symm.trans right)).2 (List.cons_ne_nil _ _).symm
        · obtain ⟨head, tail⟩ := List.cons.inj (scanned.symm.trans right)
          rw [List.nil_append] at head
          subst head
          have equal := List.append_cancel_left same
          simp only [List.cons.injEq, true_and] at equal
          rw [← equal] at tail
          obtain ⟨closed, wholes⟩ := again.mp tail
          exact ⟨⟨top, closed⟩, whole_iff.mp whole, wholes⟩
      · intro ⟨⟨top, closed⟩, whole, wholes⟩
        exact (scan_part (whole_iff.mpr whole) top starts []).trans (congrArg (error :: ·) (again.mpr ⟨closed, wholes⟩))

/-! The errors themselves, by the rules for quoted strings and nested brackets. -/

inductive Mode where
  | outside
  | string
  | escape
deriving DecidableEq

/-- The closing brackets that are awaited. -/
structure Lexer where
  stack : List Char
  mode : Mode
deriving DecidableEq

namespace Lexer

def top : Lexer := ⟨[], .outside⟩

def next (lexer : Lexer) (ch : Char) : Option Lexer :=
  match lexer.mode with
  | .escape => some ⟨lexer.stack, .string⟩
  | .string => some ⟨lexer.stack, if ch = '"' then .outside else if ch = '\\' then .escape else .string⟩
  | .outside =>
    if ch = '"' then some ⟨lexer.stack, .string⟩
    else if ch = '{' then some ⟨'}' :: lexer.stack, .outside⟩
    else if ch = '[' then some ⟨']' :: lexer.stack, .outside⟩
    else if ch = '}' ∨ ch = ']' then
      match lexer.stack with
      | awaited :: stack => if ch = awaited then some ⟨stack, .outside⟩ else none
      | [] => none
    else some lexer

def after : Lexer → List Char → Option Lexer
  | lexer, [] => some lexer
  | lexer, ch :: rest => (lexer.next ch).bind fun lexer => after lexer rest

/-- A quote that begins or ends a string stands right after a backslash. -/
def hiddenQuote : Lexer → Bool → List Char → Bool
  | _, _, [] => false
  | lexer, backslash, ch :: rest =>
    (ch = '"' && lexer.mode != .escape && backslash) ||
      match lexer.next ch with
      | some lexer => hiddenQuote lexer (ch = '\\') rest
      | none => false

end Lexer

/-- One field error: its path, balanced brackets, well-formed strings, and no separator
outside of them. -/
structure FieldError where
  text : List Char
  path : startsField text = true
  balanced : Lexer.top.after text = some .top
  single : ∀ before more, text = before ++ ',' :: ' ' :: more → Lexer.top.after before = some .top → startsField more = false

/-- The scanner is where the rules are. -/
structure Agrees (lexer : Lexer) (reading : Reading) : Prop where
  depth : reading.depth = lexer.stack.length
  inString : reading.inString = decide (lexer.mode ≠ .outside)
  escape : lexer.mode = .escape → reading.backslash = true

theorem Reading.next_backslash (reading : Reading) (ch : Char) : (reading.next ch).backslash = decide (ch = '\\') := by
  unfold Reading.next
  split
  next quote => simp [quote.1]
  split
  next => rfl
  split
  next opens => rcases opens with rfl | rfl <;> rfl
  split
  next closes => rcases closes with rfl | rfl <;> rfl
  next => rfl

theorem Agrees.next {lexer lexer' : Lexer} {reading : Reading} {ch : Char} (agrees : Agrees lexer reading) (step : lexer.next ch = some lexer')
    (seen : ¬(ch = '"' ∧ lexer.mode ≠ .escape ∧ reading.backslash = true)) : Agrees lexer' (reading.next ch) := by
  obtain ⟨stack, mode⟩ := lexer
  obtain ⟨depth, inString, backslash⟩ := reading
  obtain ⟨rfl, isInString, escaped⟩ := agrees
  cases mode with
  | escape =>
    obtain rfl : true = backslash := (escaped rfl).symm
    obtain rfl : inString = true := isInString
    obtain rfl : ⟨stack, .string⟩ = lexer' := Option.some.inj step
    have stays : Reading.next ⟨stack.length, true, true⟩ ch = ⟨stack.length, true, ch = '\\'⟩ := by simp [Reading.next]
    rw [stays]
    exact ⟨rfl, rfl, nofun⟩
  | string =>
    obtain rfl : inString = true := isInString
    obtain rfl := Option.some.inj step
    by_cases quote : ch = '"'
    · subst quote
      obtain rfl : backslash = false := by simpa using seen
      exact ⟨rfl, rfl, nofun⟩
    · have stays : Reading.next ⟨stack.length, true, backslash⟩ ch = ⟨stack.length, true, ch = '\\'⟩ := by simp [Reading.next, quote]
      rw [stays]
      refine ⟨rfl, ?_, ?_⟩
      · by_cases slash : ch = '\\' <;> simp [quote, slash]
      · by_cases slash : ch = '\\' <;> simp [quote, slash]
  | outside =>
    obtain rfl : inString = false := isInString
    by_cases quote : ch = '"'
    · subst quote
      obtain rfl : backslash = false := by simpa using seen
      obtain rfl := Option.some.inj step
      exact ⟨rfl, rfl, nofun⟩
    by_cases brace : ch = '{'
    · subst brace
      obtain rfl := Option.some.inj step
      exact ⟨rfl, rfl, nofun⟩
    by_cases bracket : ch = '['
    · subst bracket
      obtain rfl := Option.some.inj step
      exact ⟨rfl, rfl, nofun⟩
    by_cases closes : ch = '}' ∨ ch = ']'
    · have reads : Reading.next ⟨stack.length, false, backslash⟩ ch = ⟨stack.length - 1, false, false⟩ := by
        simp [Reading.next, quote, brace, bracket, closes]
      rw [reads]
      cases stack with
      | nil => simp [Lexer.next, quote, brace, bracket, closes] at step
      | cons awaited stack =>
        simp only [Lexer.next, quote, brace, bracket, closes, if_false, if_true] at step
        split at step
        · obtain rfl := Option.some.inj step
          exact ⟨rfl, rfl, nofun⟩
        · cases step
    · have reads : Reading.next ⟨stack.length, false, backslash⟩ ch = ⟨stack.length, false, ch = '\\'⟩ := by
        simp [Reading.next, quote, brace, bracket, closes]
      simp only [Lexer.next, quote, brace, bracket, closes, if_false] at step
      obtain rfl := Option.some.inj step
      rw [reads]
      exact ⟨rfl, rfl, nofun⟩

theorem Agrees.after {text : List Char} {lexer lexer' : Lexer} {reading : Reading} (agrees : Agrees lexer reading)
    (lexed : lexer.after text = some lexer') (seen : lexer.hiddenQuote reading.backslash text = false) : Agrees lexer' (reading.after text) := by
  induction text generalizing lexer reading with
  | nil =>
    obtain rfl := Option.some.inj lexed
    exact agrees
  | cons ch rest ih =>
    obtain ⟨stepped, step, lexed⟩ := Option.bind_eq_some_iff.mp lexed
    simp only [Lexer.hiddenQuote, step, Bool.or_eq_false_iff] at seen
    have visible : ¬(ch = '"' ∧ lexer.mode ≠ .escape ∧ reading.backslash = true) := by
      rintro ⟨quote, mode, backslash⟩
      simp [quote, mode, backslash] at seen
    refine ih (agrees.next step visible) lexed ?_
    rw [Reading.next_backslash]
    exact seen.2

theorem Agrees.whole {text : List Char} {lexer lexer' : Lexer} {reading : Reading} (agrees : Agrees lexer reading)
    (lexed : lexer.after text = some lexer') (seen : lexer.hiddenQuote reading.backslash text = false)
    (single : ∀ before more, text = before ++ ',' :: ' ' :: more → lexer.after before = some .top → startsField more = false) :
    Whole reading text := by
  induction text generalizing lexer reading with
  | nil => trivial
  | cons ch rest ih =>
    obtain ⟨stepped, step, lexed⟩ := Option.bind_eq_some_iff.mp lexed
    simp only [Lexer.hiddenQuote, step, Bool.or_eq_false_iff] at seen
    have visible : ¬(ch = '"' ∧ lexer.mode ≠ .escape ∧ reading.backslash = true) := by
      rintro ⟨quote, mode, backslash⟩
      simp [quote, mode, backslash] at seen
    constructor
    · by_contra separated
      obtain ⟨top, rfl, more, rfl, starts⟩ := separates_iff.mp (Bool.not_eq_false _ ▸ separated)
      have here : lexer = .top := by
        obtain ⟨stack, mode⟩ := lexer
        have empty : stack = [] := List.eq_nil_of_length_eq_zero (agrees.depth.symm.trans top.1)
        have outside : mode = .outside := by simpa [top.2] using agrees.inString
        rw [empty, outside]
        rfl
      have none' := single [] more rfl (congrArg some here)
      rw [starts] at none'
      cases none'
    · refine ih (agrees.next step visible) lexed ?_ ?_
      · rw [Reading.next_backslash]
        exact seen.2
      · intro before more split lexedBefore
        refine single (ch :: before) more (congrArg (ch :: ·) split) ?_
        rw [Lexer.after, step]
        exact lexedBefore

theorem agrees_start : Agrees .top .start := ⟨rfl, rfl, nofun⟩

theorem FieldError.read (error : FieldError) (seen : Lexer.top.hiddenQuote false error.text = false) :
    Closed error.text ∧ Undivided error.text := by
  have agrees := agrees_start.after error.balanced seen
  exact ⟨⟨agrees.depth, agrees.inString⟩, whole_iff.mp (agrees_start.whole error.balanced seen error.single)⟩

/-- The parts of any text make it up again. The split of joined errors gives them back
where each of them is closed and undivided, if a quote right after a backslash is no
quote, as they are where no string begins or ends after a backslash. -/
theorem validation_errors_split_iff (inner : List Char) (errors : List FieldError) :
    joined (splitK8sValidationErrors inner) = inner ∧
      (splitK8sValidationErrors (joined (errors.map FieldError.text)) = errors.map FieldError.text ↔
        errors ≠ [] ∧ (∀ error ∈ errors.dropLast, Closed error.text) ∧ ∀ error ∈ errors, Undivided error.text) ∧
      ∀ error ∈ errors, Lexer.top.hiddenQuote false error.text = false → Closed error.text ∧ Undivided error.text := by
  refine ⟨joined_scan inner, ?_, fun error _ => error.read⟩
  have fields : ∀ text ∈ errors.map FieldError.text, startsField text = true := by
    intro text member
    obtain ⟨error, _, rfl⟩ := List.mem_map.mp member
    exact error.path
  rw [split_joined fields, ← List.map_dropLast]
  simp only [List.forall_mem_map, ne_eq, List.map_eq_nil_iff]

theorem single_of_no_comma {text : List Char} (free : ',' ∉ text) (before more : List Char) (split : text = before ++ ',' :: ' ' :: more) :
    Lexer.top.after before = some .top → startsField more = false := by
  subst split
  exact absurd (List.mem_append_right _ (.head _)) free

/-- A field whose value is a path that ends with a backslash, and a field that is missing. -/
def trailingBackslash : List FieldError :=
  [{ text := "spec.path: Invalid value: \"C:\\\\\": must be relative".toList
     path := by decide +kernel
     balanced := by decide +kernel
     single := single_of_no_comma (by decide +kernel) },
   { text := "spec.name: Required value".toList
     path := by decide +kernel
     balanced := by decide +kernel
     single := single_of_no_comma (by decide +kernel) }]

/-- The second error stays in the part of the first. -/
theorem trailing_backslash_joined : ¬∀ (inner : List Char) (errors : List FieldError), errors ≠ [] →
    joined (splitK8sValidationErrors inner) = inner ∧
      splitK8sValidationErrors (joined (errors.map FieldError.text)) = errors.map FieldError.text := by
  intro right
  exact absurd (congrArg List.length (right [] trailingBackslash (List.cons_ne_nil _ _)).2) (by decide +kernel)

end K8Sense.Frontend.ValidationErrors
