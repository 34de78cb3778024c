import K8Sense.Library.Utf16

/-! Types of JSON values as TypeScript writes them: the part of the syntax that describes
data, what a type says of a value, and when it is well formed. Literals and keys are
tokens, which say what they are read as. -/

namespace K8Sense.DataTypes

abbrev Text := List Char

/-- The fields of an object are in the order in which `for ... in` visits them. -/
inductive Value where
  | null
  | bool (value : Bool)
  | number (text : Text)
  | string (text : Text)
  | array (items : List Value)
  | object (fields : List (Text × Value))

/-- No object has a key twice. -/
inductive Value.Proper : Value → Prop
  | null : Proper .null
  | bool (value : Bool) : Proper (.bool value)
  | number (text : Text) : Proper (.number text)
  | string (text : Text) : Proper (.string text)
  | array {items : List Value} (each : ∀ item ∈ items, Proper item) : Proper (.array items)
  | object {fields : List (Text × Value)} (distinct : (fields.map Prod.fst).Nodup) (each : ∀ field ∈ fields, Proper field.2) :
    Proper (.object fields)

namespace Value

def text? : Value → Option Text
  | .string text => some text
  | _ => none

def items? : Value → Option (List Value)
  | .array items => some items
  | _ => none

def fields? : Value → Option (List (Text × Value))
  | .object fields => some fields
  | _ => none

end Value

inductive DataType where
  | any
  | null
  | number
  | boolean
  | string
  /-- `Record<string, any>`. -/
  | record
  | literal (token : Text)
  /-- Each member is a key, whether it is optional, and its type. -/
  | object (members : List (Text × Bool × DataType))
  /-- `grouped` is whether the type of the items stands in parentheses. -/
  | array (grouped : Bool) (element : DataType)
  | union (parts : List DataType)

/-! Tokens. -/

def isLineBreak (ch : Char) : Bool := ch = '\n' || ch = '\r'

/-- What an escape stands for. Those that go on with digits are left out. -/
def escaped (ch : Char) : Option Text :=
  if ch = 'n' then some ['\n']
  else if ch = 't' then some ['\t']
  else if ch = 'r' then some ['\r']
  else if ch = 'b' then some [Char.ofNat 8]
  else if ch = 'v' then some [Char.ofNat 11]
  else if ch = 'f' then some [Char.ofNat 12]
  else if isLineBreak ch then some []
  else if ch.isDigit || ch = 'x' || ch = 'u' then none
  else some [ch]

/-- What is read up to the quote that ends the token. -/
def readBody : Text → Option Text
  | [] => none
  | '\\' :: ch :: rest => (escaped ch).bind fun read => (readBody rest).map (read ++ ·)
  | ch :: rest =>
    if ch = '"' then (if rest = [] then some [] else none)
    else if ch = '\\' || isLineBreak ch then none
    else (readBody rest).map (ch :: ·)

def readString : Text → Option Text
  | '"' :: rest => readBody rest
  | _ => none

def isIdentifierStart (ch : Char) : Bool := ch.isAlpha || ch = '_' || ch = '$'

def isIdentifier : Text → Bool
  | [] => false
  | ch :: rest => isIdentifierStart ch && rest.all fun ch => isIdentifierStart ch || ch.isDigit

def readKey (token : Text) : Option Text := if isIdentifier token then some token else readString token

/-- The words that the grammar does not take for a name. -/
def reservedWords : List Text :=
  ["break", "case", "catch", "class", "const", "continue", "debugger", "default", "delete", "do", "else", "enum", "export", "extends",
    "false", "finally", "for", "function", "if", "import", "in", "instanceof", "new", "null", "return", "super", "switch", "this", "throw",
    "true", "try", "typeof", "var", "void", "while", "with"].map String.toList

/-! Meaning. -/

def keys (fields : List (Text × Value)) : List Text := fields.map Prod.fst

/-- A value of the type. What the type of an object does not declare it does not have. -/
inductive DataType.Member : DataType → Value → Prop
  | any (value : Value) : Member .any value
  | null : Member .null .null
  | number (text : Text) : Member .number (.number text)
  | boolean (value : Bool) : Member .boolean (.bool value)
  | string (text : Text) : Member .string (.string text)
  | record (fields : List (Text × Value)) : Member .record (.object fields)
  | literal {token text : Text} (read : readString token = some text) : Member (.literal token) (.string text)
  | object {members : List (Text × Bool × DataType)} {fields : List (Text × Value)}
    (typed : ∀ member ∈ members, ∀ field ∈ fields, readKey member.1 = some field.1 → Member member.2.2 field.2)
    (required : ∀ member ∈ members, member.2.1 = false → ∃ key ∈ keys fields, readKey member.1 = some key)
    (declared : ∀ key ∈ keys fields, ∃ member ∈ members, readKey member.1 = some key) : Member (.object members) (.object fields)
  | array {grouped : Bool} {element : DataType} {items : List Value} (each : ∀ item ∈ items, Member element item) :
    Member (.array grouped element) (.array items)
  | union {parts : List DataType} {part : DataType} {value : Value} (inside : part ∈ parts) (member : Member part value) :
    Member (.union parts) value

def DataType.isUnion : DataType → Bool
  | .union _ => true
  | _ => false

/-- The tokens can be read, no key is declared twice, and what an array is made of does
not fall apart. -/
inductive DataType.WellFormed : DataType → Prop
  | any : WellFormed .any
  | null : WellFormed .null
  | number : WellFormed .number
  | boolean : WellFormed .boolean
  | string : WellFormed .string
  | record : WellFormed .record
  | literal {token : Text} (readable : readString token ≠ none) : WellFormed (.literal token)
  | object {members : List (Text × Bool × DataType)} (readable : ∀ member ∈ members, readKey member.1 ≠ none)
    (distinct : (members.map fun member => readKey member.1).Nodup) (each : ∀ member ∈ members, WellFormed member.2.2) :
    WellFormed (.object members)
  | array {grouped : Bool} {element : DataType} (whole : element.isUnion = true → grouped = true) (inside : WellFormed element) :
    WellFormed (.array grouped element)
  | union {parts : List DataType} (several : 2 ≤ parts.length) (each : ∀ part ∈ parts, WellFormed part) : WellFormed (.union parts)

/-- The kinds of values that have types of their own. -/
inductive Kind where
  | simple
  | text
  | object
  | array
deriving DecidableEq

def Value.kind : Value → Kind
  | .null | .bool _ | .number _ => .simple
  | .string _ => .text
  | .array _ => .array
  | .object _ => .object

/-- The kind of the values of the type, where that is one. -/
def DataType.kind : DataType → Option Kind
  | .any | .union _ => none
  | .null | .number | .boolean => some .simple
  | .string | .literal _ => some .text
  | .record | .object _ => some .object
  | .array _ _ => some .array

theorem DataType.member_kind {type : DataType} {value : Value} {kind : Kind} (member : type.Member value) (single : type.kind = some kind) :
    value.kind = kind := by
  cases member
  all_goals cases single
  all_goals rfl

/-! The text of a type. -/

def lines (texts : List Text) : Text := ['\n'].intercalate texts

mutual

/-- The text of a type in a line that is indented so far. -/
def DataType.print (indentation : Text) : DataType → Text
  | .any => "any".toList
  | .null => "null".toList
  | .number => "number".toList
  | .boolean => "boolean".toList
  | .string => "string".toList
  | .record => "Record<string, any>".toList
  | .literal token => token
  | .object members => '{' :: '\n' :: lines (printMembers (indentation ++ [' ', ' ']) members) ++ '\n' :: indentation ++ ['}']
  | .array grouped element =>
    (if grouped then '(' :: element.print indentation ++ [')'] else element.print indentation) ++ ['[', ']']
  | .union parts => [' ', '|', ' '].intercalate (printParts indentation parts)
termination_by structural type => type

def printMembers (indentation : Text) : List (Text × Bool × DataType) → List Text
  | [] => []
  | (token, isOptional, type) :: rest =>
    (indentation ++ token ++ (if isOptional then ['?'] else []) ++ ':' :: ' ' :: type.print indentation ++ [';']) ::
      printMembers indentation rest
termination_by structural members => members

def printParts (indentation : Text) : List DataType → List Text
  | [] => []
  | type :: rest => type.print indentation :: printParts indentation rest
termination_by structural parts => parts

end

theorem DataType.print_union (indentation : Text) (parts : List DataType) :
    (DataType.union parts).print indentation = [' ', '|', ' '].intercalate (printParts indentation parts) := rfl

theorem DataType.print_object (indentation : Text) (members : List (Text × Bool × DataType)) :
    (DataType.object members).print indentation =
      '{' :: '\n' :: lines (printMembers (indentation ++ [' ', ' ']) members) ++ '\n' :: indentation ++ ['}'] := rfl

theorem DataType.print_array (indentation : Text) (grouped : Bool) (element : DataType) :
    (DataType.array grouped element).print indentation =
      (if grouped then '(' :: element.print indentation ++ [')'] else element.print indentation) ++ ['[', ']'] := rfl

theorem printParts_eq (indentation : Text) (parts : List DataType) : printParts indentation parts = parts.map (DataType.print indentation) := by
  induction parts with
  | nil => rw [printParts, List.map_nil]
  | cons part rest ih => rw [printParts, ih, List.map_cons]

def printMember (indentation : Text) (member : Text × Bool × DataType) : Text :=
  indentation ++ member.1 ++ (if member.2.1 then ['?'] else []) ++ ':' :: ' ' :: member.2.2.print indentation ++ [';']

theorem printMembers_eq (indentation : Text) (members : List (Text × Bool × DataType)) :
    printMembers indentation members = members.map (printMember indentation) := by
  induction members with
  | nil => rw [printMembers, List.map_nil]
  | cons member rest ih =>
    rw [List.map_cons, ← ih]
    rfl

/-! Quoted texts. -/

def quote (text : Text) : Text := '"' :: text ++ ['"']

/-- The text stands for itself between quotes. -/
def Plain (text : Text) : Prop := ∀ ch ∈ text, ch ≠ '"' ∧ ch ≠ '\\' ∧ isLineBreak ch = false

instance (text : Text) : Decidable (Plain text) := inferInstanceAs (Decidable (∀ ch ∈ text, _))

theorem readBody_char {ch : Char} (notQuote : ch ≠ '"') (notEscape : ch ≠ '\\') (rest : Text) :
    readBody (ch :: rest) = if isLineBreak ch then none else (readBody rest).map (ch :: ·) := by
  conv => lhs; unfold readBody
  split
  next equal => cases equal
  next equal => cases equal; exact absurd rfl notEscape
  next equal =>
    cases equal
    simp [notQuote, notEscape]

theorem readBody_plain {text : Text} (plain : Plain text) : readBody (text ++ ['"']) = some text := by
  induction text with
  | nil => rfl
  | cons ch rest ih =>
    obtain ⟨notQuote, notEscape, line⟩ := plain ch List.mem_cons_self
    rw [List.cons_append, readBody_char notQuote notEscape, line, ih fun other member => plain other (List.mem_cons_of_mem ch member)]
    rfl

theorem escaped_length {ch : Char} {text : Text} (read : escaped ch = some text) : text.length ≤ 1 := by
  unfold escaped at read
  repeat' split at read
  all_goals cases read
  all_goals simp

theorem readBody_cases {body text : Text} (read : readBody body = some text) :
    (body = text ++ ['"'] ∧ Plain text) ∨ text.length + 1 < body.length := by
  fun_induction readBody body generalizing text with
  | case1 => cases read
  | case2 ch rest ih =>
    obtain ⟨first, isFirst, later⟩ := Option.bind_eq_some_iff.mp read
    obtain ⟨others, isOthers, rfl⟩ := Option.map_eq_some_iff.mp later
    have short := escaped_length isFirst
    have bound : others.length + 1 ≤ rest.length := by
      rcases ih isOthers with ⟨rfl, -⟩ | shorter
      · simp
      · omega
    refine Or.inr ?_
    simp only [List.length_append, List.length_cons]
    omega
  | case3 =>
    cases read
    exact Or.inl ⟨rfl, fun ch member => absurd member List.not_mem_nil⟩
  | case4 => cases read
  | case5 => cases read
  | case6 ch rest _ notQuote other ih =>
    obtain ⟨others, isOthers, rfl⟩ := Option.map_eq_some_iff.mp read
    simp only [Bool.or_eq_true, decide_eq_true_eq, not_or, Bool.not_eq_true] at other
    rcases ih isOthers with ⟨rfl, plain⟩ | shorter
    · refine Or.inl ⟨rfl, ?_⟩
      intro char member
      rcases List.mem_cons.mp member with rfl | later
      · exact ⟨notQuote, other.1, other.2⟩
      · exact plain char later
    · refine Or.inr ?_
      simp only [List.length_cons]
      omega

/-- A quoted text is read as itself, where it is plain, or else as a shorter text. -/
theorem readString_quote {text read : Text} (isRead : readString (quote text) = some read) :
    (read = text ∧ Plain text) ∨ read.length < text.length := by
  rcases readBody_cases isRead with ⟨same, plain⟩ | shorter
  · have equal : text = read := List.append_cancel_right same
    rw [equal]
    exact Or.inl ⟨rfl, plain⟩
  · refine Or.inr ?_
    simpa using shorter

theorem readString_plain {text : Text} (plain : Plain text) : readString (quote text) = some text := readBody_plain plain

def replaceAll (ch : Char) (replacement text : Text) : Text := text.flatMap fun other => if other = ch then replacement else [other]

/-- Backslashes are escaped first, then quotes. -/
def escape (text : Text) : Text := replaceAll '"' ['\\', '"'] (replaceAll '\\' ['\\', '\\'] text)

def escapeChar (ch : Char) : Text :=
  if ch = '\\' then ['\\', '\\'] else if ch = '"' then ['\\', '"'] else [ch]

theorem escape_cons (ch : Char) (rest : Text) : escape (ch :: rest) = escapeChar ch ++ escape rest := by
  simp only [escape, replaceAll, List.flatMap_cons, List.flatMap_append]
  congr 1
  by_cases slash : ch = '\\'
  · subst slash
    rfl
  · rw [if_neg slash, List.flatMap_singleton, escapeChar, if_neg slash]

/-- Quotes and backslashes are read as themselves behind a backslash. -/
theorem readBody_escapeChar {ch : Char} (special : ch = '\\' ∨ ch = '"') (rest : Text) :
    readBody (escapeChar ch ++ rest) = (readBody rest).map (ch :: ·) := by
  rcases special with rfl | rfl
  all_goals
    change readBody ('\\' :: _ :: rest) = _
    rw [readBody]
    rfl

theorem readBody_escape (text : Text) : readBody (escape text ++ ['"']) = if text.any isLineBreak then none else some text := by
  induction text with
  | nil => rfl
  | cons ch rest ih =>
    rw [escape_cons, List.append_assoc, List.any_cons]
    by_cases special : ch = '\\' ∨ ch = '"'
    · have line : isLineBreak ch = false := by
        rcases special with rfl | rfl
        all_goals rfl
      rw [readBody_escapeChar special, ih, line, Bool.false_or]
      cases rest.any isLineBreak
      all_goals rfl
    · have other : escapeChar ch = [ch] := by
        rw [escapeChar, if_neg fun same => special (Or.inl same), if_neg fun same => special (Or.inr same)]
      rw [other, List.cons_append, List.nil_append, readBody_char (fun same => special (Or.inr same)) fun same => special (Or.inl same), ih]
      cases isLineBreak ch
      all_goals cases rest.any isLineBreak
      all_goals rfl

/-- An escaped text is read as itself unless it has a line break. -/
theorem readString_escape (text : Text) :
    readString (quote (escape text)) = if text.any isLineBreak then none else some text := readBody_escape text

/-! Keys. -/

/-- A key is written as it is where that is possible, and else between quotes. -/
def keyToken (key : Text) : Text := if isIdentifier key then key else quote key

/-- The token of the key is read as the key. -/
def Writable (key : Text) : Prop := isIdentifier key = true ∨ Plain key

theorem readKey_quote (text : Text) : readKey (quote text) = readString (quote text) := rfl

theorem readKey_writable {key : Text} (writable : Writable key) : readKey (keyToken key) = some key := by
  by_cases identifier : isIdentifier key = true
  · rw [keyToken, if_pos identifier, readKey, if_pos identifier]
  · rw [keyToken, if_neg identifier, readKey_quote]
    exact readString_plain (writable.resolve_left identifier)

theorem readKey_cases {key read : Text} (isRead : readKey (keyToken key) = some read) :
    (read = key ∧ Writable key) ∨ read.length < key.length := by
  by_cases identifier : isIdentifier key = true
  · rw [readKey_writable (Or.inl identifier)] at isRead
    cases isRead
    exact Or.inl ⟨rfl, Or.inl identifier⟩
  · rw [keyToken, if_neg identifier, readKey_quote] at isRead
    rcases readString_quote isRead with ⟨same, plain⟩ | shorter
    · exact Or.inl ⟨same, Or.inr plain⟩
    · exact Or.inr shorter

/-- Where each key is what the token of some key is read as, no token is read as anything
but its key: the longest key for which it is would not be read from any. -/
theorem writable_of_covered {keys : List Text} (covered : ∀ key ∈ keys, ∃ other ∈ keys, readKey (keyToken other) = some key) :
    ∀ key ∈ keys, Writable key := by
  intro key member
  obtain ⟨bound, lengths⟩ : ∃ bound, ∀ key ∈ keys, key.length ≤ bound :=
    ⟨keys.flatten.length, fun key member => (List.sublist_flatten_of_mem member).length_le⟩
  -- The induction is on how much longer than the key another one can be.
  induction gap : bound - key.length using Nat.strongRecOn generalizing key with
  | ind gap ih =>
    obtain ⟨other, inside, read⟩ := covered key member
    rcases readKey_cases read with ⟨rfl, writable⟩ | longer
    · exact writable
    · have within := lengths other inside
      have writable := ih (bound - other.length) (by omega) other inside rfl
      rw [readKey_writable writable] at read
      cases read
      exact writable

/-! Unions. -/

namespace DataType

theorem member_union {parts : List DataType} {value : Value} : Member (.union parts) value ↔ ∃ part ∈ parts, Member part value := by
  refine ⟨fun member => ?_, fun ⟨part, inside, member⟩ => .union inside member⟩
  cases member with
  | union inside member => exact ⟨_, inside, member⟩

theorem wellFormed_union {parts : List DataType} :
    WellFormed (.union parts) ↔ 2 ≤ parts.length ∧ ∀ part ∈ parts, WellFormed part := by
  refine ⟨fun wellFormed => ?_, fun ⟨several, each⟩ => .union several each⟩
  cases wellFormed with
  | union several each => exact ⟨several, each⟩

theorem bar_mem_print (indentation : Text) {parts : List DataType} (several : 2 ≤ parts.length) :
    '|' ∈ (DataType.union parts).print indentation := by
  obtain ⟨first, parts, rfl⟩ := List.exists_cons_of_length_pos (show 0 < parts.length by omega)
  obtain ⟨second, rest, rfl⟩ := List.exists_cons_of_length_pos (show 0 < parts.length by rw [List.length_cons] at several; omega)
  rw [print_union, printParts, printParts, List.intercalate_cons_cons]
  exact List.mem_append_left _ (List.mem_append_right _ (List.mem_cons_of_mem _ List.mem_cons_self))

end DataType

end K8Sense.DataTypes
