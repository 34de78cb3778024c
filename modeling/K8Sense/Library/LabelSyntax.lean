import Mathlib.Data.List.Basic

/-! The syntax of label selectors in a query parameter, as the API server documents it:
requirements that are separated by commas, each a key with what is asked of its value.
Where a value is expected there may be none, which is the empty value. -/

namespace K8Sense.LabelSyntax

abbrev Text := List Char

/-! Keys and values. -/

/-- A character of `[-A-Za-z0-9_.]`. -/
def isNameChar (ch : Char) : Bool := ch.isAlphanum || ch ∈ ['-', '_', '.']

/-- `([A-Za-z0-9][-A-Za-z0-9_.]*)?[A-Za-z0-9]`, up to the longest name. -/
def validName (text : Text) : Bool :=
  text.length ≤ 63 && text.all isNameChar && text.head?.any Char.isAlphanum && text.getLast?.any Char.isAlphanum

def validValue (text : Text) : Bool := text.isEmpty || validName text

def isLabelChar (ch : Char) : Bool := ch.isLower || ch.isDigit || ch == '-'

def validLabel (text : Text) : Bool :=
  text.all isLabelChar && text.head?.any (fun ch => ch.isAlphanum) && text.getLast?.any (fun ch => ch.isAlphanum)

/-- The domain before the slash of a key. -/
def validSubdomain (text : Text) : Bool :=
  text.length ≤ 253 && text.all (fun ch => isLabelChar ch || ch == '.') && (text.splitOn '.').all validLabel

def validKey (text : Text) : Bool :=
  match text.dropWhile (· ≠ '/') with
  | [] => validName text
  | _ :: name => validSubdomain (text.takeWhile (· ≠ '/')) && validName name

/-! Tokens. -/

inductive Token where
  | word (text : Text)
  | comma
  | opening
  | closing
  | bang
  | equals
  | doubleEquals
  | notEquals
  | greater
  | less
deriving DecidableEq

def isSpace (ch : Char) : Bool := ch ∈ [' ', '\t', '\r', '\n']

def symbol (ch : Char) : Option Token :=
  match ch with
  | ',' => some .comma
  | '(' => some .opening
  | ')' => some .closing
  | '!' => some .bang
  | '=' => some .equals
  | '>' => some .greater
  | '<' => some .less
  | _ => none

def flush : Text → List Token
  | [] => []
  | text => [.word text]

/-- The tokens of a text after a part of a word. -/
def lex (read : Text) : Text → List Token
  | [] => flush read
  | '=' :: '=' :: rest => flush read ++ .doubleEquals :: lex [] rest
  | '!' :: '=' :: rest => flush read ++ .notEquals :: lex [] rest
  | ch :: rest =>
    match symbol ch with
    | some token => flush read ++ token :: lex [] rest
    | none => if isSpace ch then flush read ++ lex [] rest else lex (read ++ [ch]) rest

/-! Requirements. -/

/-- What is asked of the value of a key. -/
inductive Demand where
  | among (values : List Text)
  | outside (values : List Text)
  | present
  | absent
deriving DecidableEq

structure Requirement where
  key : Text
  demand : Demand
deriving DecidableEq

/-- The values up to the closing parenthesis. -/
def values : List Token → Option (List Text × List Token)
  | .closing :: rest => some ([[]], rest)
  | .comma :: rest => (values rest).map fun (others, rest) => ([] :: others, rest)
  | .word text :: .closing :: rest => some ([text], rest)
  | .word text :: .comma :: rest => (values rest).map fun (others, rest) => (text :: others, rest)
  | _ => none

def exactValue : List Token → Text × List Token
  | .word text :: rest => (text, rest)
  | rest => ([], rest)

/-- The next requirement, before its key and values are validated. -/
def shape : List Token → Option (Requirement × List Token)
  | .bang :: .word key :: rest => some (⟨key, .absent⟩, rest)
  | .word key :: .word operator :: .opening :: rest =>
    if operator = "in".toList then (values rest).map fun (texts, rest) => (⟨key, .among texts⟩, rest)
    else if operator = "notin".toList then (values rest).map fun (texts, rest) => (⟨key, .outside texts⟩, rest)
    else none
  | .word key :: .equals :: rest => some (⟨key, .among [(exactValue rest).1]⟩, (exactValue rest).2)
  | .word key :: .doubleEquals :: rest => some (⟨key, .among [(exactValue rest).1]⟩, (exactValue rest).2)
  | .word key :: .notEquals :: rest => some (⟨key, .outside [(exactValue rest).1]⟩, (exactValue rest).2)
  | .word key :: rest => some (⟨key, .present⟩, rest)
  | _ => none

def Demand.valid : Demand → Bool
  | .among texts => texts.all validValue
  | .outside texts => texts.all validValue
  | _ => true

def Requirement.valid (requirement : Requirement) : Bool := validKey requirement.key && requirement.demand.valid

def requirement (tokens : List Token) : Option (Requirement × List Token) :=
  (shape tokens).filter fun (next, _) => next.valid

/-- One requirement takes a token or more, so there is fuel for all of them. -/
def requirements : Nat → List Token → Option (List Requirement)
  | 0, _ => none
  | fuel + 1, tokens =>
    match requirement tokens with
    | some (first, []) => some [first]
    | some (first, .comma :: rest) => (requirements fuel rest).map (first :: ·)
    | _ => none

/-- The requirements of a selector; the empty one has none. -/
def parse (text : Text) : Option (List Requirement) :=
  match lex [] text with
  | [] => some []
  | tokens => requirements tokens.length tokens

/-! Meaning. -/

abbrev Labels := Text → Option Text

def Demand.Met : Demand → Option Text → Prop
  | .among texts, value => ∃ text ∈ texts, value = some text
  | .outside texts, value => ∀ text ∈ texts, value ≠ some text
  | .present, value => value ≠ none
  | .absent, value => value = none

def Requirement.Met (requirement : Requirement) (labels : Labels) : Prop :=
  requirement.demand.Met (labels requirement.key)

def Selects (all : List Requirement) (labels : Labels) : Prop := ∀ requirement ∈ all, requirement.Met labels

/-! How a requirement is written. -/

def separated (texts : List Text) : Text := [','].intercalate texts

def set (operator : String) (texts : List Text) : Text := ' ' :: operator.toList ++ ' ' :: '(' :: separated texts ++ [')']

inductive States : Text → Requirement → Prop
  | exact (key value : Text) : States (key ++ '=' :: value) ⟨key, .among [value]⟩
  | among (key : Text) {texts : List Text} (nonempty : texts ≠ []) : States (key ++ set "in" texts) ⟨key, .among texts⟩
  | outside (key : Text) {texts : List Text} (nonempty : texts ≠ []) : States (key ++ set "notin" texts) ⟨key, .outside texts⟩
  | present (key : Text) : States key ⟨key, .present⟩
  | absent (key : Text) : States ('!' :: key) ⟨key, .absent⟩

/-! What is read of it: tokens first. -/

def IsWordChar (ch : Char) : Prop := symbol ch = none ∧ isSpace ch = false

/-- The text is a word or, as a value can be, empty. -/
def IsWord (text : Text) : Prop := ∀ ch ∈ text, IsWordChar ch

theorem isWordChar_of_alphanum {ch : Char} (alphanum : ch.isAlphanum = true) : IsWordChar ch := by
  have differs : ∀ other : Char, other.isAlphanum = false → ch ≠ other := by
    intro other symbolic same
    rw [same, symbolic] at alphanum
    cases alphanum
  refine ⟨?_, ?_⟩
  · unfold symbol
    split
    case h_8 => rfl
    all_goals exact absurd rfl (differs _ (by decide))
  · simp only [isSpace, List.mem_cons, List.not_mem_nil, or_false, decide_eq_false_iff_not, not_or]
    exact ⟨differs _ (by decide), differs _ (by decide), differs _ (by decide), differs _ (by decide)⟩

theorem isNameChar_iff {ch : Char} : isNameChar ch = true ↔ ch.isAlphanum = true ∨ ch = '-' ∨ ch = '_' ∨ ch = '.' := by
  simp [isNameChar]

/-- A character of a key or of a value. -/
def IsLabelText (ch : Char) : Prop := isNameChar ch = true ∨ ch = '/'

theorem IsLabelText.isWordChar {ch : Char} (ofLabel : IsLabelText ch) : IsWordChar ch := by
  rcases ofLabel with name | rfl
  · rcases isNameChar_iff.mp name with alphanum | rfl | rfl | rfl
    · exact isWordChar_of_alphanum alphanum
    all_goals exact ⟨by decide, by decide⟩
  · exact ⟨by decide, by decide⟩

theorem chars_of_name {text : Text} (valid : validName text = true) : ∀ ch ∈ text, IsLabelText ch := by
  simp only [validName, Bool.and_eq_true, List.all_eq_true] at valid
  exact fun ch member => Or.inl (valid.1.1.2 ch member)

theorem chars_of_value {text : Text} (valid : validValue text = true) : ∀ ch ∈ text, IsLabelText ch := by
  rcases Bool.or_eq_true _ _ ▸ valid with empty | name
  · rw [List.isEmpty_iff.mp empty]
    exact fun ch member => absurd member List.not_mem_nil
  · exact chars_of_name name

theorem isNameChar_of_label {ch : Char} (label : isLabelChar ch = true) : isNameChar ch = true := by
  simp only [isLabelChar, Bool.or_eq_true, beq_iff_eq] at label
  have alphanum : ch.isAlphanum = ((ch.isUpper || ch.isLower) || ch.isDigit) := rfl
  rw [isNameChar_iff, alphanum, Bool.or_eq_true, Bool.or_eq_true]
  rcases label with (lower | digit) | dash
  · exact Or.inl (Or.inl (Or.inr lower))
  · exact Or.inl (Or.inr digit)
  · exact Or.inr (Or.inl dash)

theorem chars_of_key {key : Text} (valid : validKey key = true) : ∀ ch ∈ key, IsLabelText ch := by
  unfold validKey at valid
  split at valid
  next => exact chars_of_name valid
  next slash name tail =>
    simp only [Bool.and_eq_true, validSubdomain, List.all_eq_true] at valid
    have isSlash : slash = '/' := by
      have first := List.head?_dropWhile_not (· ≠ '/') key
      rw [tail] at first
      simpa using first
    have whole : key = key.takeWhile (· ≠ '/') ++ slash :: name := by rw [← tail, List.takeWhile_append_dropWhile]
    intro ch member
    rw [whole, List.mem_append, List.mem_cons, isSlash] at member
    rcases member with before | rfl | after
    · have ofDomain := valid.1.1.2 ch before
      simp only [Bool.or_eq_true, beq_iff_eq] at ofDomain
      rcases ofDomain with label | rfl
      · exact Or.inl (isNameChar_of_label label)
      · exact Or.inl (isNameChar_iff.mpr (Or.inr (Or.inr (Or.inr rfl))))
    · exact Or.inr rfl
    · exact chars_of_name valid.2 ch after

theorem isWord_of_key {key : Text} (valid : validKey key = true) : IsWord key :=
  fun ch member => (chars_of_key valid ch member).isWordChar

theorem isWord_of_value {text : Text} (valid : validValue text = true) : IsWord text :=
  fun ch member => (chars_of_value valid ch member).isWordChar

theorem validName_nonempty {text : Text} (valid : validName text = true) : text ≠ [] := by
  rintro rfl
  simp [validName] at valid

theorem validKey_nonempty {key : Text} (valid : validKey key = true) : key ≠ [] := by
  rintro rfl
  exact validName_nonempty valid rfl

theorem flush_word {text : Text} (nonempty : text ≠ []) : flush text = [.word text] := by
  cases text with
  | nil => exact absurd rfl nonempty
  | cons ch rest => rfl

theorem lex_char {ch : Char} (word : IsWordChar ch) (read rest : Text) : lex read (ch :: rest) = lex (read ++ [ch]) rest := by
  conv => lhs; unfold lex
  split
  next equal => cases equal
  next equal => cases equal; cases word.1
  next equal => cases equal; cases word.1
  next first others _ _ equal =>
    cases equal
    rw [word.1]
    simp [word.2]

theorem lex_word {text : Text} (word : IsWord text) (read rest : Text) : lex read (text ++ rest) = lex (read ++ text) rest := by
  induction text generalizing read with
  | nil => rw [List.nil_append, List.append_nil]
  | cons ch text ih =>
    rw [List.cons_append, lex_char (word ch List.mem_cons_self), ih (fun other member => word other (List.mem_cons_of_mem ch member)),
      List.append_assoc, List.singleton_append]

/-- A symbol that does not form a longer one with what follows. -/
theorem lex_symbol {ch : Char} {token : Token} (symbolic : symbol ch = some token) (read : Text) {rest : Text}
    (alone : ch = '=' ∨ ch = '!' → rest.head? ≠ some '=') : lex read (ch :: rest) = flush read ++ token :: lex [] rest := by
  conv => lhs; unfold lex
  split
  next equal => cases equal
  next equal => cases equal; exact absurd rfl (alone (Or.inl rfl))
  next equal => cases equal; exact absurd rfl (alone (Or.inr rfl))
  next first others _ _ equal =>
    cases equal
    rw [symbolic]

theorem lex_single {ch : Char} {token : Token} (symbolic : symbol ch = some token) (single : ch ≠ '=' ∧ ch ≠ '!') (read rest : Text) :
    lex read (ch :: rest) = flush read ++ token :: lex [] rest := by
  apply lex_symbol symbolic
  intro double
  rcases double with equals | bang
  · exact absurd equals single.1
  · exact absurd bang single.2

theorem lex_space (read rest : Text) : lex read (' ' :: rest) = flush read ++ lex [] rest := by
  conv => lhs; unfold lex
  split
  next equal => cases equal
  next equal => cases equal
  next equal => cases equal
  next first others _ _ equal =>
    cases equal
    rfl

/-- The requirement that was read is the last one or is followed by a comma. -/
def Ends (rest : Text) : Prop := rest = [] ∨ ∃ more, rest = ',' :: more

/-- What the tokens after a requirement begin with. -/
def EndsTokens (rest : List Token) : Prop := rest = [] ∨ ∃ more, rest = .comma :: more

theorem lex_comma (read rest : Text) : lex read (',' :: rest) = flush read ++ .comma :: lex [] rest :=
  lex_single rfl (by decide) read rest

theorem lex_end {rest : Text} (ends : Ends rest) (read : Text) : lex read rest = flush read ++ lex [] rest := by
  rcases ends with rfl | ⟨more, rfl⟩
  · simp [lex, flush]
  · rw [lex_comma, lex_comma, flush, List.nil_append]

/-- A symbol is the next token where a word or the end follows it. -/
theorem head_ne_equals {text rest : Text} (word : IsWord text) (ends : Ends rest) : (text ++ rest).head? ≠ some '=' := by
  cases text with
  | nil => rcases ends with rfl | ⟨more, rfl⟩ <;> simp
  | cons ch text =>
    intro first
    simp only [List.cons_append, List.head?_cons, Option.some.injEq] at first
    have symbolic := (word ch List.mem_cons_self).1
    rw [first] at symbolic
    cases symbolic

/-- The tokens of the values between the parentheses. -/
def valueTokens (texts : List Text) : List Token := [Token.comma].intercalate (texts.map flush)

theorem lex_values {texts : List Text} (words : ∀ text ∈ texts, IsWord text) (rest : Text) :
    lex [] (separated texts ++ ')' :: rest) = valueTokens texts ++ .closing :: lex [] rest := by
  have closing : ∀ read : Text, lex read (')' :: rest) = flush read ++ .closing :: lex [] rest :=
    fun read => lex_single rfl (by decide) read rest
  match texts with
  | [] => exact closing []
  | [text] =>
    rw [separated, valueTokens, List.map_singleton, List.intercalate_singleton, List.intercalate_singleton]
    rw [lex_word (words text List.mem_cons_self), List.nil_append, closing]
  | text :: next :: texts =>
    have words' : ∀ other ∈ next :: texts, IsWord other := fun other member => words other (List.mem_cons_of_mem text member)
    have others := lex_values words' rest
    rw [separated, valueTokens] at others ⊢
    rw [List.map_cons, List.map_cons, List.intercalate_cons_cons, List.intercalate_cons_cons, ← List.map_cons]
    rw [List.append_assoc, List.append_assoc, lex_word (words text List.mem_cons_self), List.nil_append, List.singleton_append,
      lex_comma, others, List.append_assoc, List.append_assoc, List.singleton_append]

theorem values_valueTokens {texts : List Text} (nonempty : texts ≠ []) (rest : List Token) :
    values (valueTokens texts ++ .closing :: rest) = some (texts, rest) := by
  match texts with
  | [] => exact absurd rfl nonempty
  | [text] =>
    rw [valueTokens, List.map_singleton, List.intercalate_singleton]
    cases text <;> rfl
  | text :: next :: texts =>
    have others := @values_valueTokens (next :: texts) (List.cons_ne_nil next texts) rest
    rw [valueTokens] at others ⊢
    rw [List.map_cons, List.map_cons, List.intercalate_cons_cons, ← List.map_cons, List.append_assoc, List.append_assoc, List.singleton_append]
    cases text with
    | nil =>
      rw [flush, List.nil_append, values, others]
      rfl
    | cons ch text =>
      rw [flush_word (List.cons_ne_nil ch text), List.singleton_append, values, others]
      rfl

/-- The tokens of the text are read as the requirement, whatever follows. -/
def ReadAs (text : Text) (requirement : Requirement) : Prop :=
  ∃ tokens, tokens ≠ [] ∧ (∀ rest, Ends rest → lex [] (text ++ rest) = tokens ++ lex [] rest) ∧
    ∀ after, EndsTokens after → shape (tokens ++ after) = some (requirement, after)

theorem exactValue_flush (value : Text) {after : List Token} (ends : EndsTokens after) : exactValue (flush value ++ after) = (value, after) := by
  cases value with
  | nil => rcases ends with rfl | ⟨more, rfl⟩ <;> rfl
  | cons ch value => rfl

section
variable {key : Text} (word : IsWord key) (nonempty : key ≠ [])

include word nonempty

theorem readAs_exact {value : Text} (ofValue : IsWord value) : ReadAs (key ++ '=' :: value) ⟨key, .among [value]⟩ := by
  refine ⟨.word key :: .equals :: flush value, List.cons_ne_nil _ _, ?_, ?_⟩
  · intro rest ends
    rw [List.append_assoc, lex_word word, List.nil_append, List.cons_append, lex_symbol rfl key (fun _ => head_ne_equals ofValue ends),
      lex_word ofValue, List.nil_append, lex_end ends value, flush_word nonempty]
    rfl
  · intro after ends
    simp only [List.cons_append, shape, exactValue_flush value ends]

theorem lex_set {operator : String} (keyword : IsWord operator.toList) (given : operator.toList ≠ []) {texts : List Text}
    (words : ∀ text ∈ texts, IsWord text) (rest : Text) :
    lex [] (key ++ set operator texts ++ rest) =
      (.word key :: .word operator.toList :: .opening :: (valueTokens texts ++ [.closing])) ++ lex [] rest := by
  have opening : ∀ more, lex [] ('(' :: more) = .opening :: lex [] more := fun more => lex_single rfl (by decide) [] more
  rw [List.append_assoc, lex_word word, List.nil_append, set]
  simp only [List.cons_append, List.append_assoc]
  rw [lex_space, lex_word keyword, List.nil_append, lex_space, opening, List.nil_append, List.nil_append, lex_values words, flush_word nonempty,
    flush_word given]
  rfl

theorem readAs_among {texts : List Text} (words : ∀ text ∈ texts, IsWord text) (given : texts ≠ []) :
    ReadAs (key ++ set "in" texts) ⟨key, .among texts⟩ := by
  have keyword : IsWord "in".toList := by
    intro ch member
    exact isWordChar_of_alphanum (List.all_eq_true.mp (show "in".toList.all Char.isAlphanum = true by decide) ch member)
  refine ⟨_, List.cons_ne_nil _ _, fun rest _ => lex_set word nonempty keyword (by decide) words rest, ?_⟩
  intro after _
  simp only [List.cons_append, List.append_assoc, List.nil_append, shape, values_valueTokens given, if_true, Option.map_some]

theorem readAs_outside {texts : List Text} (words : ∀ text ∈ texts, IsWord text) (given : texts ≠ []) :
    ReadAs (key ++ set "notin" texts) ⟨key, .outside texts⟩ := by
  have keyword : IsWord "notin".toList := by
    intro ch member
    exact isWordChar_of_alphanum (List.all_eq_true.mp (show "notin".toList.all Char.isAlphanum = true by decide) ch member)
  have other : "notin".toList ≠ "in".toList := by decide
  refine ⟨_, List.cons_ne_nil _ _, fun rest _ => lex_set word nonempty keyword (by decide) words rest, ?_⟩
  intro after _
  simp only [List.cons_append, List.append_assoc, List.nil_append, shape, values_valueTokens given, if_neg other, if_true, Option.map_some]

theorem readAs_present : ReadAs key ⟨key, .present⟩ := by
  refine ⟨[.word key], List.cons_ne_nil _ _, ?_, ?_⟩
  · intro rest ends
    rw [lex_word word, List.nil_append, lex_end ends, flush_word nonempty]
  · intro after ends
    rcases ends with rfl | ⟨more, rfl⟩ <;> rfl

theorem readAs_absent : ReadAs ('!' :: key) ⟨key, .absent⟩ := by
  refine ⟨[.bang, .word key], List.cons_ne_nil _ _, ?_, ?_⟩
  · intro rest ends
    rw [List.cons_append, lex_symbol rfl [] (fun _ => head_ne_equals word ends), lex_word word, List.nil_append, lex_end ends,
      flush_word nonempty]
    rfl
  · intro after ends
    rcases ends with rfl | ⟨more, rfl⟩ <;> rfl

end

/-- A text that states a valid requirement is read as it. -/
theorem States.readAs {text : Text} {requirement : Requirement} (states : States text requirement)
    (valid : requirement.valid = true) : ReadAs text requirement := by
  obtain ⟨validKey, validDemand⟩ := Bool.and_eq_true_iff.mp valid
  have word := isWord_of_key validKey
  have nonempty := validKey_nonempty validKey
  cases states with
  | exact key value =>
    simp only [Demand.valid, List.all_cons, List.all_nil, Bool.and_true] at validDemand
    exact readAs_exact word nonempty (isWord_of_value validDemand)
  | among key given =>
    simp only [Demand.valid, List.all_eq_true] at validDemand
    exact readAs_among word nonempty (fun text member => isWord_of_value (validDemand text member)) given
  | outside key given =>
    simp only [Demand.valid, List.all_eq_true] at validDemand
    exact readAs_outside word nonempty (fun text member => isWord_of_value (validDemand text member)) given
  | present => exact readAs_present word nonempty
  | absent => exact readAs_absent word nonempty

/-- The requirement is valid, so it is read off the tokens. -/
theorem requirement_eq {tokens rest : List Token} {next : Requirement} (shaped : shape tokens = some (next, rest))
    (valid : next.valid = true) : requirement tokens = some (next, rest) := by
  rw [requirement, shaped, Option.filter_some, if_pos valid]

/-- The tokens of texts that state valid requirements, one each. -/
theorem requirements_separated {texts : List Text} {all : List Requirement} (states : List.Forall₂ States texts all)
    (valid : ∀ requirement ∈ all, requirement.valid = true) (nonempty : all ≠ []) :
    all.length ≤ (lex [] (separated texts)).length ∧
      ∀ fuel, all.length ≤ fuel → requirements fuel (lex [] (separated texts)) = some all := by
  induction states with
  | nil => exact absurd rfl nonempty
  | @cons text first texts others stated rest ih =>
    obtain ⟨tokens, given, lexed, shaped⟩ := stated.readAs (valid first List.mem_cons_self)
    have length := List.length_pos_of_ne_nil given
    have enough : ∀ fuel, others.length + 1 ≤ fuel → ∃ more, fuel = more + 1 ∧ others.length ≤ more := by
      intro fuel bound
      exact ⟨fuel - 1, by omega, by omega⟩
    cases rest with
    | nil =>
      have alone : lex [] text = tokens := by simpa [lex, flush] using lexed [] (Or.inl rfl)
      rw [separated, List.intercalate_singleton, alone]
      refine ⟨length, fun fuel bound => ?_⟩
      obtain ⟨more, rfl, -⟩ := enough fuel bound
      have read := requirement_eq (shaped [] (Or.inl rfl)) (valid first List.mem_cons_self)
      rw [List.append_nil] at read
      rw [requirements, read]
    | @cons text' second texts others stated' rest =>
      obtain ⟨longer, ran⟩ := ih (fun other member => valid other (List.mem_cons_of_mem first member)) (List.cons_ne_nil _ _)
      have split : lex [] (separated (text :: text' :: texts)) = tokens ++ .comma :: lex [] (separated (text' :: texts)) := by
        rw [separated, List.intercalate_cons_cons, List.append_assoc, List.singleton_append, lexed _ (Or.inr ⟨_, rfl⟩), lex_comma]
        rfl
      rw [split]
      refine ⟨?_, fun fuel bound => ?_⟩
      · simp only [List.length_append, List.length_cons] at longer ⊢
        omega
      · obtain ⟨more, rfl, left⟩ := enough fuel bound
        have read := requirement_eq (shaped _ (Or.inr ⟨lex [] (separated (text' :: texts)), rfl⟩)) (valid first List.mem_cons_self)
        rw [requirements, read]
        simp only [ran more left, Option.map_some]

/-- What states a list of valid requirements, one each, is read as the list. -/
theorem parse_separated {texts : List Text} {all : List Requirement} (states : List.Forall₂ States texts all)
    (valid : ∀ requirement ∈ all, requirement.valid = true) : parse (separated texts) = some all := by
  by_cases empty : all = []
  · subst empty
    cases states
    rfl
  · obtain ⟨length, ran⟩ := requirements_separated states valid empty
    unfold parse
    split
    next none =>
      rw [none] at length
      exact absurd (List.length_eq_zero_iff.mp (Nat.le_zero.mp length)) empty
    next => exact ran _ length

/-! The characters that requirements are written with. -/

theorem mem_separated {ch : Char} {texts : List Text} (member : ch ∈ separated texts) : ch = ',' ∨ ∃ text ∈ texts, ch ∈ text := by
  induction texts with
  | nil => exact absurd member List.not_mem_nil
  | cons text texts ih =>
    cases texts with
    | nil =>
      rw [separated, List.intercalate_singleton] at member
      exact Or.inr ⟨text, List.mem_cons_self, member⟩
    | cons next texts =>
      rw [separated, List.intercalate_cons_cons, List.append_assoc, List.mem_append, List.singleton_append, List.mem_cons] at member
      rcases member with here | rfl | later
      · exact Or.inr ⟨text, List.mem_cons_self, here⟩
      · exact Or.inl rfl
      · rcases ih later with comma | ⟨other, inside, here⟩
        · exact Or.inl comma
        · exact Or.inr ⟨other, List.mem_cons_of_mem text inside, here⟩

/-- A character of a requirement as it is written. -/
def IsWritten (ch : Char) : Prop := IsLabelText ch ∨ ch ∈ [' ', '!', '(', ')', ',', '=']

theorem chars_of_set {operator : String} (keyword : operator.toList.all Char.isAlphanum = true) {texts : List Text}
    (valid : texts.all validValue = true) : ∀ ch ∈ set operator texts, IsWritten ch := by
  intro ch member
  simp only [set, List.cons_append, List.mem_cons, List.mem_append, List.not_mem_nil, or_false] at member
  rcases member with rfl | (ofKeyword | rfl | rfl | ofValues) | rfl
  · exact Or.inr (by decide)
  · exact Or.inl (Or.inl (isNameChar_iff.mpr (Or.inl (List.all_eq_true.mp keyword ch ofKeyword))))
  · exact Or.inr (by decide)
  · exact Or.inr (by decide)
  · rcases mem_separated ofValues with rfl | ⟨text, inside, here⟩
    · exact Or.inr (by decide)
    · exact Or.inl (chars_of_value (List.all_eq_true.mp valid text inside) ch here)
  · exact Or.inr (by decide)

theorem States.chars {text : Text} {requirement : Requirement} (states : States text requirement)
    (valid : requirement.valid = true) : ∀ ch ∈ text, IsWritten ch := by
  obtain ⟨validKey, validDemand⟩ := Bool.and_eq_true_iff.mp valid
  have ofKey := chars_of_key validKey
  intro ch member
  cases states with
  | exact key value =>
    simp only [Demand.valid, List.all_cons, List.all_nil, Bool.and_true] at validDemand
    rcases List.mem_append.mp member with inKey | later
    · exact Or.inl (ofKey ch inKey)
    · rcases List.mem_cons.mp later with rfl | inValue
      · exact Or.inr (by decide)
      · exact Or.inl (chars_of_value validDemand ch inValue)
  | among key given =>
    rcases List.mem_append.mp member with inKey | later
    · exact Or.inl (ofKey ch inKey)
    · exact chars_of_set (by decide) validDemand ch later
  | outside key given =>
    rcases List.mem_append.mp member with inKey | later
    · exact Or.inl (ofKey ch inKey)
    · exact chars_of_set (by decide) validDemand ch later
  | present => exact Or.inl (ofKey ch member)
  | absent =>
    rcases List.mem_cons.mp member with rfl | inKey
    · exact Or.inr (by decide)
    · exact Or.inl (ofKey ch inKey)

theorem chars_of_separated {texts : List Text} {all : List Requirement} (states : List.Forall₂ States texts all)
    (valid : ∀ requirement ∈ all, requirement.valid = true) : ∀ ch ∈ separated texts, IsWritten ch := by
  intro ch member
  rcases mem_separated member with rfl | ⟨text, inside, here⟩
  · exact Or.inr (by decide)
  · obtain ⟨requirement, stated, states⟩ : ∃ requirement ∈ all, States text requirement := by
      clear valid member
      induction states with
      | nil => exact absurd inside List.not_mem_nil
      | @cons first requirement rest others stated _ ih =>
        rcases List.mem_cons.mp inside with rfl | later
        · exact ⟨requirement, List.mem_cons_self, stated⟩
        · obtain ⟨other, member, states⟩ := ih later
          exact ⟨other, List.mem_cons_of_mem requirement member, states⟩
    exact states.chars (valid requirement stated) ch here

/-! Meaning of equal demands. -/

theorem Demand.met_among_perm {texts others : List Text} (perm : texts.Perm others) (value : Option Text) :
    (Demand.among texts).Met value ↔ (Demand.among others).Met value := by
  simp only [Demand.Met, perm.mem_iff]

theorem Demand.met_outside_perm {texts others : List Text} (perm : texts.Perm others) (value : Option Text) :
    (Demand.outside texts).Met value ↔ (Demand.outside others).Met value := by
  simp only [Demand.Met, perm.mem_iff]

end K8Sense.LabelSyntax
