import Mathlib.Data.List.Basic
import Mathlib.Logic.Function.Basic

/-! JSON documents, pointers into them and patches. The fields of an object have no
order, so equal objects are equal functions. -/

namespace K8Sense.JsonPatch

abbrev Token := List Char

abbrev Pointer := List Token

inductive Json where
  | null
  | bool (value : Bool)
  | number (text : List Char)
  | string (text : List Char)
  | array (items : List Json)
  | object (fields : Token → Option Json)

/-! The text of a pointer. -/

def escapeChar (ch : Char) : List Char := if ch = '~' then ['~', '0'] else if ch = '/' then ['~', '1'] else [ch]

def escape (token : Token) : List Char := token.flatMap escapeChar

def unescape : List Char → Token
  | [] => []
  | '~' :: '0' :: rest => '~' :: unescape rest
  | '~' :: '1' :: rest => '/' :: unescape rest
  | ch :: rest => ch :: unescape rest

def text (pointer : Pointer) : List Char := pointer.flatMap fun token => '/' :: escape token

/-! Values in a document. -/

/-- The token as an index of an array. -/
def index (token : Token) : Option Nat :=
  if token = ['0'] ∨ (token ≠ [] ∧ token.head? ≠ some '0' ∧ token.all Char.isDigit) then
    some (token.foldl (fun value ch => 10 * value + (ch.toNat - 48)) 0)
  else none

/-- A token that names no place of an array. -/
def IsKey (token : Token) : Prop := index token = none ∧ token ≠ ['-']

instance (token : Token) : Decidable (IsKey token) := inferInstanceAs (Decidable (_ ∧ _))

def Json.child : Json → Token → Option Json
  | .object fields, token => fields token
  | .array items, token => (index token).bind fun position => items[position]?
  | _, _ => none

def Json.get : Pointer → Json → Option Json
  | [], document => some document
  | token :: rest, document => (document.child token).bind (Json.get rest)

/-! Patches. -/

inductive Change where
  | add (value : Json)
  | replace (value : Json)
  | remove

namespace Change

def value : Change → Option Json
  | .add value => some value
  | .replace value => some value
  | .remove => none

/-- The field of an object after the change, if it can be made. -/
def field (change : Change) (old : Option Json) : Option (Option Json) :=
  match change with
  | .add value => some (some value)
  | .replace value => if old.isSome then some (some value) else none
  | .remove => if old.isSome then some none else none

/-- The items of an array after a change at the token. -/
def items (change : Change) (token : Token) (old : List Json) : Option (List Json) :=
  match change with
  | .add value =>
    if token = ['-'] then some (old ++ [value])
    else (index token).bind fun position => if position ≤ old.length then some (old.insertIdx position value) else none
  | .replace value => (index token).bind fun position => if position < old.length then some (old.set position value) else none
  | .remove => (index token).bind fun position => if position < old.length then some (old.eraseIdx position) else none

end Change

def edit (change : Change) : Pointer → Json → Option Json
  | [], _ => change.value
  | token :: rest, .object fields =>
    (match rest with
      | [] => change.field (fields token)
      | _ :: _ => (fields token).bind fun child => (edit change rest child).map some).map
      fun new => .object (Function.update fields token new)
  | token :: rest, .array items =>
    (match rest with
      | [] => change.items token items
      | _ :: _ => (index token).bind fun position => (items[position]?).bind fun child =>
        (edit change rest child).map fun new => items.set position new).map .array
  | _ :: _, _ => none

/-- The operations of a patch, and one that only reads. -/
inductive Operation where
  | add (path : Pointer) (value : Json)
  | remove (path : Pointer)
  | replace (path : Pointer) (value : Json)
  | move (source path : Pointer)
  | copy (source path : Pointer)
  | test (path : Pointer) (value : Json)
  | get (path : Pointer)

def Operation.path : Operation → Pointer
  | .add path _ | .remove path | .replace path _ | .move _ path | .copy _ path | .test path _ | .get path => path

/-- The change of an operation that makes one at its path only. -/
def Operation.change? : Operation → Option Change
  | .add _ value => some (.add value)
  | .remove _ => some .remove
  | .replace _ value => some (.replace value)
  | _ => none

open Classical in
noncomputable def Operation.apply (document : Json) : Operation → Option Json
  | .add path value => edit (.add value) path document
  | .remove path => edit .remove path document
  | .replace path value => edit (.replace value) path document
  | .move source path => (document.get source).bind fun value => (edit .remove source document).bind (edit (.add value) path)
  | .copy source path => (document.get source).bind fun value => edit (.add value) path document
  | .test path value => if document.get path = some value then some document else none
  | .get path => (document.get path).map fun _ => document

noncomputable def applyAll : List Operation → Json → Option Json
  | [], document => some document
  | operation :: rest, document => (operation.apply document).bind (applyAll rest)

/-! Parts of a document that are left out of a comparison. -/

/-- The document without the field at the pointer. -/
def Json.erase : Pointer → Json → Json
  | [token], .object fields => .object (Function.update fields token none)
  | token :: rest, .object fields => .object (Function.update fields token ((fields token).map (Json.erase rest)))
  | _, document => document

/-- The document without the fields at the pointers. -/
def Json.mask (pointers : List Pointer) (document : Json) : Json := pointers.foldl (fun document pointer => document.erase pointer) document

/-- Neither pointer leads to the other. -/
def Apart (first second : Pointer) : Prop := ¬ first <+: second ∧ ¬ second <+: first

/-! The difference of two documents. -/

def SameKind : Option Json → Option Json → Prop
  | some (.object _), some (.object _) => True
  | some (.array _), some (.array _) => True
  | _, _ => False

/-- The values differ at the pointer and not only in what they contain, and on the way
to it both have the same kind of container. -/
def Diverge : Pointer → Option Json → Option Json → Prop
  | [], first, second => first ≠ second ∧ ¬ SameKind first second
  | token :: rest, first, second =>
    SameKind first second ∧ Diverge rest (first.bind (·.child token)) (second.bind (·.child token))

/-- A patch as a comparison makes it, container by container: it changes the one document
to the other, each time at a place where they diverge. -/
structure Difference (original edited : Json) (operations : List Operation) : Prop where
  correct : applyAll operations original = some edited
  place : ∀ operation ∈ operations, operation.change? ≠ none ∧ Diverge operation.path (some original) (some edited)

theorem Diverge.ne {path : Pointer} {first second : Option Json} (diverge : Diverge path first second) : first ≠ second := by
  induction path generalizing first second with
  | nil => exact diverge.1
  | cons token rest ih =>
    intro same
    exact ih diverge.2 (by rw [same])

/-- Where the documents diverge below a pointer, their values at it diverge. -/
theorem Diverge.below {path rest : Pointer} {first second : Option Json} (diverge : Diverge (path ++ rest) first second) :
    Diverge rest (first.bind (Json.get path)) (second.bind (Json.get path)) := by
  induction path generalizing first second with
  | nil =>
    have same : ∀ value : Option Json, value.bind (Json.get []) = value := by
      intro value
      cases value <;> rfl
    rw [same, same]
    exact diverge
  | cons token path ih =>
    have later := ih diverge.2
    rw [Option.bind_assoc, Option.bind_assoc] at later
    exact later

/-- What lies below the first of two pointers that are apart is apart from the second. -/
theorem Apart.below {first second path : Pointer} (apart : Apart first second) (under : first <+: path) : Apart path second := by
  refine ⟨fun leads => apart.1 (under.trans leads), fun leads => ?_⟩
  rcases List.prefix_or_prefix_of_prefix under leads with before | after
  · exact apart.1 before
  · exact apart.2 after

theorem apart_cons {token : Token} {first second : Pointer} : Apart (token :: first) (token :: second) ↔ Apart first second := by
  simp [Apart]

theorem Apart.ne_nil {first second : Pointer} (apart : Apart first second) : first ≠ [] ∧ second ≠ [] := by
  refine ⟨?_, ?_⟩
  · rintro rfl
    exact apart.1 List.nil_prefix
  · rintro rfl
    exact apart.2 List.nil_prefix

theorem Operation.apply_eq {operation : Operation} {change : Change} (made : operation.change? = some change) (document : Json) :
    operation.apply document = edit change operation.path document := by
  cases operation <;> cases made <;> rfl

/-! An array has no fields. -/

theorem items_key {token : Token} (key : IsKey token) (change : Change) (old : List Json) : change.items token old = none := by
  cases change <;> simp [Change.items, key.1, key.2]

theorem edit_array_key {token : Token} (key : IsKey token) (change : Change) (rest : Pointer) (items : List Json) :
    edit change (token :: rest) (.array items) = none := by
  cases rest <;> simp [edit, items_key key, key.1]

theorem erase_array (pointer : Pointer) (items : List Json) : (Json.array items).erase pointer = .array items := by
  match pointer with
  | [] => rfl
  | [_] => rfl
  | _ :: _ :: _ => rfl

theorem edit_array {change : Change} {token : Token} {rest : Pointer} {items : List Json} {new : Json}
    (made : edit change (token :: rest) (.array items) = some new) : ∃ others, new = .array others := by
  unfold edit at made
  obtain ⟨others, -, rfl⟩ := Option.map_eq_some_iff.mp made
  exact ⟨others, rfl⟩

theorem child_array_key {token : Token} (key : IsKey token) (items : List Json) : (Json.array items).child token = none := by
  rw [Json.child, key.1, Option.bind_none]

/-! A change at one place and a field at another. -/

section
variable {change : Change}

theorem edit_field (token : Token) {rest : Pointer} (deeper : rest ≠ []) (fields : Token → Option Json) :
    edit change (token :: rest) (.object fields) = ((fields token).bind (edit change rest)).map
      fun new => .object (Function.update fields token (some new)) := by
  cases rest with
  | nil => exact absurd rfl deeper
  | cons next rest =>
    conv => lhs; unfold edit
    cases fields token with
    | none => rfl
    | some child => simp [Option.map_map, Function.comp_def]

theorem erase_field (token : Token) {rest : Pointer} (deeper : rest ≠ []) (fields : Token → Option Json) :
    (Json.object fields).erase (token :: rest) = .object (Function.update fields token ((fields token).map (Json.erase rest))) := by
  cases rest with
  | nil => exact absurd rfl deeper
  | cons next rest => rfl

/-- Erasing a field of an object depends on that field only. -/
theorem erase_object (token : Token) (rest : Pointer) : ∃ new : Option Json → Option Json, ∀ fields,
    (Json.object fields).erase (token :: rest) = .object (Function.update fields token (new (fields token))) := by
  cases rest with
  | nil => exact ⟨fun _ => none, fun _ => rfl⟩
  | cons next rest => exact ⟨Option.map (Json.erase (next :: rest)), fun _ => rfl⟩

/-- A change of a field of an object depends on that field only. -/
theorem edit_object (token : Token) (rest : Pointer) :
    ∃ new : Option Json → Option (Option Json), ∀ fields, edit change (token :: rest) (.object fields) =
      (new (fields token)).map fun value => .object (Function.update fields token value) := by
  cases rest with
  | nil => exact ⟨change.field, fun _ => rfl⟩
  | cons next rest => exact ⟨fun old => old.bind fun child => (edit change (next :: rest) child).map some, fun _ => rfl⟩

theorem edit_erase {path pointer : Pointer} (apart : Apart path pointer) (keys : ∀ token ∈ pointer, IsKey token) (document : Json) :
    edit change path (document.erase pointer) = (edit change path document).map (Json.erase pointer) := by
  induction path generalizing pointer document with
  | nil => exact absurd rfl apart.ne_nil.1
  | cons token rest ih =>
    cases pointer with
    | nil => exact absurd rfl apart.ne_nil.2
    | cons key pointer =>
      match document with
      | .null | .bool _ | .number _ | .string _ => cases pointer <;> rfl
      | .array items =>
        rw [erase_array]
        cases made : edit change (token :: rest) (.array items) with
        | none => rfl
        | some new =>
          obtain ⟨others, rfl⟩ := edit_array made
          rw [Option.map_some, erase_array]
      | .object fields =>
        by_cases same : token = key
        · subst same
          have deeper := apart_cons.mp apart
          rw [edit_field token deeper.ne_nil.1, erase_field token deeper.ne_nil.2, edit_field token deeper.ne_nil.1]
          rw [Function.update_self]
          cases fields token with
          | none => rfl
          | some child =>
            rw [Option.map_some, Option.bind_some, Option.bind_some, ih deeper (fun other member => keys other (List.mem_cons_of_mem token member))]
            cases edit change rest child with
            | none => rfl
            | some new => simp [erase_field token deeper.ne_nil.2, Function.update_idem]
        · obtain ⟨new, erased⟩ := erase_object key pointer
          obtain ⟨made, edited⟩ := @edit_object change token rest
          rw [erased, edited, edited, Function.update_of_ne same]
          cases made (fields token) with
          | none => rfl
          | some value =>
            simp only [Option.map_some, erased, Function.update_of_ne (Ne.symm same), Function.update_comm same]

/-- A change below a field is not seen without the field. -/
theorem erase_edit {path pointer : Pointer} (under : pointer <+: path) (nonempty : pointer ≠ []) (keys : ∀ token ∈ pointer, IsKey token)
    {document new : Json} (made : edit change path document = some new) : new.erase pointer = document.erase pointer := by
  induction pointer generalizing path document new with
  | nil => exact absurd rfl nonempty
  | cons key pointer ih =>
    obtain ⟨rest, rfl⟩ : ∃ rest, path = key :: rest := by
      obtain ⟨tail, rfl⟩ := under
      exact ⟨pointer ++ tail, rfl⟩
    have deeper := (List.cons_prefix_cons.mp under).2
    match document with
    | .null | .bool _ | .number _ | .string _ => cases made
    | .array items =>
      rw [edit_array_key (keys key List.mem_cons_self)] at made
      cases made
    | .object fields =>
      by_cases last : pointer = []
      · subst last
        obtain ⟨changed, edited⟩ := @edit_object change key rest
        rw [edited, Option.map_eq_some_iff] at made
        obtain ⟨value, -, rfl⟩ := made
        simp only [Json.erase, Function.update_idem]
      · have more : rest ≠ [] := by
          rintro rfl
          exact last (List.prefix_nil.mp deeper)
        rw [edit_field key more, Option.map_eq_some_iff] at made
        obtain ⟨child, made, rfl⟩ := made
        obtain ⟨old, found, made⟩ := Option.bind_eq_some_iff.mp made
        have same := ih deeper last (fun other member => keys other (List.mem_cons_of_mem key member)) made
        rw [erase_field key last, erase_field key last, Function.update_self, found, Option.map_some, Option.map_some, same, Function.update_idem]

theorem get_edit {path pointer : Pointer} (apart : Apart path pointer) (keys : ∀ token ∈ pointer, IsKey token)
    {document new : Json} (made : edit change path document = some new) : new.get pointer = document.get pointer := by
  induction pointer generalizing path document new with
  | nil => exact absurd rfl apart.ne_nil.2
  | cons key pointer ih =>
    cases path with
    | nil => exact absurd rfl apart.ne_nil.1
    | cons token rest =>
      have ofArray := child_array_key (keys key List.mem_cons_self)
      match document with
      | .null | .bool _ | .number _ | .string _ => cases made
      | .array items =>
        obtain ⟨others, rfl⟩ := edit_array made
        simp only [Json.get, ofArray]
      | .object fields =>
        by_cases same : token = key
        · subst same
          have deeper := apart_cons.mp apart
          rw [edit_field token deeper.ne_nil.1, Option.map_eq_some_iff] at made
          obtain ⟨child, made, rfl⟩ := made
          obtain ⟨old, found, made⟩ := Option.bind_eq_some_iff.mp made
          have kept := ih deeper (fun other member => keys other (List.mem_cons_of_mem token member)) made
          simp only [Json.get, Json.child, Function.update_self, found, Option.bind_some, kept]
        · obtain ⟨changed, edited⟩ := @edit_object change token rest
          rw [edited, Option.map_eq_some_iff] at made
          obtain ⟨value, -, rfl⟩ := made
          simp only [Json.get, Json.child, Function.update_of_ne (Ne.symm same)]

/-- The pointers are to fields of objects. -/
def Fields (pointers : List Pointer) : Prop := ∀ pointer ∈ pointers, pointer ≠ [] ∧ ∀ token ∈ pointer, IsKey token

theorem edit_mask {path : Pointer} {pointers : List Pointer} (fields : Fields pointers) (apart : ∀ pointer ∈ pointers, Apart path pointer)
    (document : Json) : edit change path (document.mask pointers) = (edit change path document).map (Json.mask pointers) := by
  induction pointers generalizing document with
  | nil => exact (Option.map_id_apply (x := edit change path document)).symm
  | cons pointer pointers ih =>
    rw [Json.mask, List.foldl_cons, ← Json.mask]
    rw [ih (fun other member => fields other (List.mem_cons_of_mem pointer member)) (fun other member => apart other (List.mem_cons_of_mem pointer member)),
      edit_erase (apart pointer List.mem_cons_self) (fields pointer List.mem_cons_self).2, Option.map_map]
    rfl

/-- A change below one of the fields is not seen without them. -/
theorem mask_edit {path : Pointer} {pointers : List Pointer} (fields : Fields pointers)
    (each : ∀ pointer ∈ pointers, pointer <+: path ∨ Apart path pointer) (under : ∃ pointer ∈ pointers, pointer <+: path)
    {document new : Json} (made : edit change path document = some new) : new.mask pointers = document.mask pointers := by
  induction pointers generalizing document new with
  | nil => exact absurd under (by simp)
  | cons pointer pointers ih =>
    have here := fields pointer List.mem_cons_self
    rw [Json.mask, Json.mask, List.foldl_cons, List.foldl_cons, ← Json.mask, ← Json.mask]
    rcases each pointer List.mem_cons_self with below | apart
    · rw [erase_edit below here.1 here.2 made]
    · have made' : edit change path (document.erase pointer) = some (new.erase pointer) := by
        rw [edit_erase apart here.2, made, Option.map_some]
      refine ih (fun other member => fields other (List.mem_cons_of_mem pointer member))
        (fun other member => each other (List.mem_cons_of_mem pointer member)) ?_ made'
      obtain ⟨other, member, below⟩ := under
      rcases List.mem_cons.mp member with rfl | later
      · exact absurd below apart.2
      · exact ⟨other, later, below⟩

end

/-! Runs of operations that each make one change. -/

/-- A value that no operation leads to or into stays as it is. -/
theorem applyAll_get {operations : List Operation} {pointer : Pointer} (keys : ∀ token ∈ pointer, IsKey token)
    (changes : ∀ operation ∈ operations, operation.change? ≠ none) (apart : ∀ operation ∈ operations, Apart operation.path pointer)
    {document new : Json} (applied : applyAll operations document = some new) : new.get pointer = document.get pointer := by
  induction operations generalizing document with
  | nil =>
    cases applied
    rfl
  | cons operation rest ih =>
    obtain ⟨middle, made, applied⟩ := Option.bind_eq_some_iff.mp applied
    obtain ⟨change, isChange⟩ := Option.ne_none_iff_exists'.mp (changes operation List.mem_cons_self)
    rw [Operation.apply_eq isChange] at made
    rw [ih (fun other member => changes other (List.mem_cons_of_mem operation member))
      (fun other member => apart other (List.mem_cons_of_mem operation member)) applied]
    exact get_edit (apart operation List.mem_cons_self) keys made

/-- Leave out of a patch what it does below some fields: it still makes the rest of the
changes and leaves these fields as they are. -/
theorem applyAll_filter {operations : List Operation} {pointers : List Pointer} {keeps : Operation → Bool} (fields : Fields pointers)
    (changes : ∀ operation ∈ operations, operation.change? ≠ none)
    (kept : ∀ operation ∈ operations, keeps operation = true → ∀ pointer ∈ pointers, Apart operation.path pointer)
    (left : ∀ operation ∈ operations, keeps operation = false →
      (∀ pointer ∈ pointers, pointer <+: operation.path ∨ Apart operation.path pointer) ∧ ∃ pointer ∈ pointers, pointer <+: operation.path)
    {document other new : Json} (same : other.mask pointers = document.mask pointers) (applied : applyAll operations document = some new) :
    ∃ result, applyAll (operations.filter keeps) other = some result ∧ result.mask pointers = new.mask pointers ∧
      ∀ pointer ∈ pointers, result.get pointer = other.get pointer := by
  induction operations generalizing document other with
  | nil =>
    cases applied
    exact ⟨other, rfl, same, fun _ _ => rfl⟩
  | cons operation rest ih =>
    obtain ⟨middle, made, applied⟩ := Option.bind_eq_some_iff.mp applied
    obtain ⟨change, isChange⟩ := Option.ne_none_iff_exists'.mp (changes operation List.mem_cons_self)
    rw [Operation.apply_eq isChange] at made
    have changes' := fun other member => changes other (List.mem_cons_of_mem operation member)
    have kept' := fun other member => kept other (List.mem_cons_of_mem operation member)
    have left' := fun other member => left other (List.mem_cons_of_mem operation member)
    cases keeping : keeps operation with
    | false =>
      rw [List.filter_cons_of_neg (by simp [keeping])]
      obtain ⟨each, under⟩ := left operation List.mem_cons_self keeping
      exact ih changes' kept' left' (same.trans (mask_edit fields each under made).symm) applied
    | true =>
      rw [List.filter_cons_of_pos keeping]
      have apart := kept operation List.mem_cons_self keeping
      have masked := @edit_mask change _ _ fields apart document
      rw [made, ← same, edit_mask fields apart other, Option.map_some, Option.map_eq_some_iff] at masked
      obtain ⟨next, made', same'⟩ := masked
      obtain ⟨result, ran, equal, unchanged⟩ := ih changes' kept' left' same' applied
      refine ⟨result, ?_, equal, ?_⟩
      · rw [applyAll, Operation.apply_eq isChange, made', Option.bind_some, ran]
      · intro pointer member
        rw [unchanged pointer member]
        exact get_edit (apart pointer member) (fields pointer member).2 made'

/-! Texts of pointers. -/

theorem slash_not_mem_escape (token : Token) : '/' ∉ escape token := by
  intro member
  obtain ⟨ch, -, inside⟩ := List.mem_flatMap.mp member
  unfold escapeChar at inside
  split at inside
  · simp at inside
  · split at inside
    · simp at inside
    next other =>
      rw [List.mem_singleton] at inside
      exact other inside.symm

theorem unescape_char {ch : Char} (plain : ch ≠ '~') (rest : List Char) : unescape (ch :: rest) = ch :: unescape rest := by
  conv => lhs; unfold unescape
  split
  next equal => cases equal
  next equal => cases equal; exact absurd rfl plain
  next equal => cases equal; exact absurd rfl plain
  next equal => cases equal; rfl

theorem unescape_escape (token : Token) : unescape (escape token) = token := by
  induction token with
  | nil => rfl
  | cons ch rest ih =>
    rw [escape, List.flatMap_cons, ← escape, escapeChar]
    split
    next tilde => rw [tilde, List.cons_append, List.singleton_append, unescape, ih]
    next plain =>
      split
      next slash => rw [slash, List.cons_append, List.singleton_append, unescape, ih]
      next =>
        rw [List.singleton_append, unescape_char plain, ih]

theorem escape_injective : Function.Injective escape := Function.LeftInverse.injective unescape_escape

/-- The text ends or goes on with a slash. -/
def Slashed (text : List Char) : Prop := text = [] ∨ text.head? = some '/'

theorem text_slashed (pointer : Pointer) : Slashed (text pointer) := by
  cases pointer with
  | nil => exact Or.inl rfl
  | cons token rest => exact Or.inr rfl

theorem takeWhile_escape (token : Token) {rest : List Char} (slashed : Slashed rest) :
    (escape token ++ rest).takeWhile (· ≠ '/') = escape token := by
  have none : ∀ ch ∈ escape token, decide (ch ≠ '/') = true := by
    intro ch member
    rw [decide_eq_true_eq]
    rintro rfl
    exact slash_not_mem_escape token member
  rw [List.takeWhile_append_of_pos none]
  rcases slashed with rfl | slash
  · simp
  · obtain ⟨more, rfl⟩ := List.head?_eq_some_iff.mp slash
    simp

/-- A pointer whose text begins with that of another goes on from it. -/
theorem text_append {first second : Pointer} {more : List Char} (slashed : Slashed more) (same : text first ++ more = text second) :
    ∃ rest, second = first ++ rest ∧ more = text rest := by
  induction first generalizing second with
  | nil => exact ⟨second, rfl, same⟩
  | cons token first ih =>
    cases second with
    | nil => cases same
    | cons other second =>
      simp only [text, List.flatMap_cons, List.cons_append, List.cons.injEq, true_and, List.append_assoc] at same
      rw [← text, ← text] at same
      have slashed' : Slashed (text first ++ more) := by
        cases first with
        | nil => exact slashed
        | cons next first => exact Or.inr rfl
      have equal : escape token = escape other := by
        rw [← takeWhile_escape token slashed', same, takeWhile_escape other (text_slashed second)]
      rw [equal, List.append_cancel_left_eq] at same
      obtain ⟨rest, rfl, tail⟩ := ih same
      exact ⟨rest, by rw [escape_injective equal, List.cons_append], tail⟩

theorem text_eq_iff {first second : Pointer} : text second = text first ↔ second = first := by
  constructor
  · intro same
    obtain ⟨rest, rfl, empty⟩ := @text_append first second [] (Or.inl rfl) (by rw [same, List.append_nil])
    cases rest with
    | nil => rw [List.append_nil]
    | cons token rest => cases empty
  · rintro rfl
    rfl

/-- The text of a pointer with a slash begins the texts of the pointers below it. -/
theorem text_prefix_iff {first second : Pointer} : text first ++ ['/'] <+: text second ↔ first <+: second ∧ second ≠ first := by
  constructor
  · rintro ⟨more, same⟩
    rw [List.append_assoc, List.singleton_append] at same
    obtain ⟨rest, rfl, tail⟩ := text_append (Or.inr rfl) same
    refine ⟨List.prefix_append first rest, ?_⟩
    intro equal
    have empty : rest = [] := by simpa using equal
    rw [empty] at tail
    cases tail
  · rintro ⟨⟨rest, rfl⟩, longer⟩
    cases rest with
    | nil => exact absurd (List.append_nil first) longer
    | cons token rest =>
      refine ⟨escape token ++ text rest, ?_⟩
      simp [text]

end K8Sense.JsonPatch
