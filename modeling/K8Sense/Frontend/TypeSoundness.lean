import K8Sense.Frontend.SearchTypes
import Mathlib.Data.List.ReduceOption

/-! When the declarations for the objects of a search are sound, in terms of the values
that occur in the objects. -/

namespace K8Sense.Frontend.InferTypes
open DataTypes Grouping Keyed LimitedSet

/-! Texts. -/

def isShort (text : Text) : Bool := Utf16.length text < maxStringLiteralLength

/-- Some texts are each held as a literal in one line, or else none of them is, or as many
as are too many. What is held is from the last run, which begins behind a text that
found too many. -/
def TextsFit (texts : List Text) : Prop :=
  (∀ text ∈ texts, isShort text = true ∧ text.any isLineBreak = false) ∧ (distinct isShort texts).length < maxStringLiterals ∨
    distinct isShort (lastRun maxStringLiterals isShort texts) = [] ∨
      maxStringLiterals ≤ (distinct isShort (lastRun maxStringLiterals isShort texts)).length

theorem heldLiterals_eq (texts : List Text) : heldLiterals texts = held maxStringLiterals isShort texts := by
  have same : TypeInfoNode.holdLiteral = hold maxStringLiterals isShort := by
    funext literals text
    simp only [TypeInfoNode.holdLiteral, hold, isShort, decide_eq_true_eq]
  rw [heldLiterals, same]
  rfl

section
variable {indentation : Text} {maxKeysPerObject : Nat} {values : List Value}

theorem readable_literal {text : Text} : (DataType.literal (quote (escape text))).WellFormed ↔ text.any isLineBreak = false := by
  constructor
  · intro wellFormed
    cases wellFormed with
    | literal readable =>
      rw [readString_escape] at readable
      simpa using readable
  · intro oneLine
    refine .literal ?_
    rw [readString_escape, oneLine]
    simp

theorem member_literal {text other : Text} (oneLine : text.any isLineBreak = false) :
    (DataType.literal (quote (escape text))).Member (.string other) ↔ text = other := by
  have read : readString (quote (escape text)) = some text := by
    rw [readString_escape, oneLine]
    rfl
  constructor
  · intro member
    cases member with
    | literal isRead => exact Option.some.inj (read.symm.trans isRead)
  · rintro rfl
    exact .literal read

theorem mem_part {β : Type} {part : Value → Option β} {one : β} {whole : Value} (inverse : ∀ value, part value = some one ↔ value = whole) :
    one ∈ values.filterMap part ↔ whole ∈ values := by
  simp only [List.mem_filterMap, inverse]
  constructor
  · rintro ⟨value, occurs, rfl⟩
    exact occurs
  · intro occurs
    exact ⟨whole, occurs, rfl⟩

theorem kind_text {value : Value} (text : value.kind = .text) : ∃ chars, value = .string chars := by
  cases value
  case string chars => exact ⟨chars, rfl⟩
  all_goals cases text

theorem mem_texts {text : Text} : text ∈ texts values ↔ Value.string text ∈ values := by
  apply mem_part
  intro value
  cases value
  all_goals simp [Value.text?]

theorem soundFor_literals (occur : texts values ≠ []) (uses : usesLiterals (heldLiterals (texts values)) = true) :
    SoundFor indentation maxKeysPerObject values .text ↔
      (∀ literal ∈ heldLiterals (texts values), literal.any isLineBreak = false) ∧
        ∀ text ∈ texts values, text ∈ heldLiterals (texts values) := by
  have parts : partsOf indentation maxKeysPerObject values .text =
      (heldLiterals (texts values)).map fun literal => .literal (quote (escape literal)) := by
    simp only [partsOf, stringParts, (describe_hasString values).mpr occur, describe_literals, uses, if_true]
  constructor
  · rintro ⟨wellFormed, typed⟩
    rw [parts] at wellFormed typed
    have oneLine : ∀ literal ∈ heldLiterals (texts values), literal.any isLineBreak = false := by
      intro literal inside
      exact readable_literal.mp (wellFormed _ (List.mem_map_of_mem inside))
    refine ⟨oneLine, ?_⟩
    intro text occurs
    obtain ⟨part, inside, member⟩ := typed _ (mem_texts.mp occurs) rfl
    obtain ⟨literal, isHeld, rfl⟩ := List.mem_map.mp inside
    rw [member_literal (oneLine literal isHeld)] at member
    exact member ▸ isHeld
  · rintro ⟨oneLine, all⟩
    refine ⟨?_, ?_⟩
    · intro part inside
      rw [parts] at inside
      obtain ⟨literal, isHeld, rfl⟩ := List.mem_map.mp inside
      exact readable_literal.mpr (oneLine literal isHeld)
    · intro value occurs isText
      obtain ⟨text, rfl⟩ := kind_text isText
      have isHeld := all text (mem_texts.mpr occurs)
      rw [parts]
      exact ⟨_, List.mem_map_of_mem isHeld, (member_literal (oneLine text isHeld)).mpr rfl⟩

theorem soundFor_text : SoundFor indentation maxKeysPerObject values .text ↔ TextsFit (texts values) := by
  by_cases occur : texts values = []
  · have fits : TextsFit (texts values) := Or.inl ⟨by simp [occur], by rw [occur]; decide⟩
    refine iff_of_true ⟨?_, ?_⟩ fits
    · intro part inside
      have unset : (describe values).hasStringType = false := by
        rw [Bool.eq_false_iff, ne_eq, describe_hasString]
        exact not_not_intro occur
      simp [partsOf, stringParts, unset] at inside
    · intro value occurs isText
      obtain ⟨text, rfl⟩ := kind_text isText
      exact absurd (mem_texts.mpr occurs) (occur ▸ List.not_mem_nil)
  · by_cases uses : usesLiterals (heldLiterals (texts values)) = true
    · rw [soundFor_literals occur uses]
      simp only [usesLiterals, Bool.and_eq_true, decide_eq_true_eq, heldLiterals_eq] at uses
      rw [heldLiterals_eq]
      constructor
      · rintro ⟨oneLine, all⟩
        obtain ⟨short, few⟩ := (holds_all_iff uses.2).mp all
        exact Or.inl ⟨fun text occurs => ⟨short text occurs, oneLine text (all text occurs)⟩, few⟩
      · rintro (⟨each, few⟩ | none | full)
        · refine ⟨?_, (holds_all_iff uses.2).mpr ⟨fun text occurs => (each text occurs).1, few⟩⟩
          intro literal isHeld
          rw [held_eq, lastRun_few few] at isHeld
          exact (each literal (mem_distinct.mp isHeld).1).2
        · rw [← held_eq] at none
          rw [none] at uses
          exact absurd uses.1 (Nat.lt_irrefl 0)
        · rw [← held_eq] at full
          omega
    · have fits : TextsFit (texts values) := by
        simp only [usesLiterals, Bool.and_eq_true, decide_eq_true_eq, heldLiterals_eq, held_eq, not_and_or, Nat.not_lt] at uses
        exact Or.inr (uses.imp_left fun none => List.eq_nil_of_length_eq_zero (by omega))
      refine iff_of_true ⟨?_, ?_⟩ fits
      · intro part inside
        simp only [partsOf, stringParts, (describe_hasString values).mpr occur, describe_literals, uses, if_true] at inside
        cases List.mem_singleton.mp inside
        exact .string
      · intro value occurs isText
        obtain ⟨text, rfl⟩ := kind_text isText
        refine ⟨.string, ?_, .string text⟩
        simp only [partsOf, stringParts, (describe_hasString values).mpr occur, describe_literals, uses, if_true]
        exact List.mem_singleton_self _

/-! Values without parts, and arrays. -/

theorem soundFor_simple : SoundFor indentation maxKeysPerObject values .simple := by
  refine ⟨?_, ?_⟩
  · intro part inside
    obtain ⟨type, _, rfl⟩ := List.mem_map.mp inside
    cases type with
    | null => exact .null
    | string => exact .string
    | number => exact .number
    | boolean => exact .boolean
  · intro value occurs isSimple
    cases value
    case null => exact ⟨_, primitive_part occurs rfl (by simp), .null⟩
    case bool value => exact ⟨_, primitive_part occurs rfl (by simp), .boolean value⟩
    case number text => exact ⟨_, primitive_part occurs rfl (by simp), .number text⟩
    all_goals cases isSimple

theorem kind_array {value : Value} (array : value.kind = .array) : ∃ items, value = .array items := by
  cases value
  case array items => exact ⟨items, rfl⟩
  all_goals cases array

theorem mem_arrays {items : List Value} : items ∈ arrays values ↔ Value.array items ∈ values := by
  apply mem_part
  intro value
  cases value
  all_goals simp [Value.items?]

theorem recorded_iff (items : List Value) : (describe items).isRecorded = true ↔ items ≠ [] := by
  constructor
  · rintro recorded rfl
    cases recorded
  · intro occur
    have positive := List.length_pos_iff.mpr occur
    simp [TypeInfoNode.isRecorded, describe_presence, positive]

theorem elementOf_describe (occur : arrays values ≠ []) : elementOf (describe values).arrayElementInfo indentation =
    if itemsOf values = [] then none else some (typeOfAll indentation defaultMaxKeys (itemsOf values)) := by
  have element := describe_element values
  rw [if_neg occur] at element
  obtain ⟨node, is, summary⟩ := Option.map_eq_some_iff.mp element
  have recorded : node.isRecorded = true ↔ itemsOf values ≠ [] := by
    rw [← recorded_iff, ← summary]
    rfl
  rw [is, elementOf, typeOfAll, ← summary, typeOf_inParent]
  by_cases empty : itemsOf values = []
  · rw [if_neg (mt recorded.mp (not_not_intro empty)), if_pos empty]
  · rw [if_pos (recorded.mpr empty), if_neg empty]

theorem isComplex_union {type : DataType} (wellFormed : type.WellFormed) (isUnion : type.isUnion = true) :
    isComplex (type.print indentation) = true := by
  cases wellFormed with
  | union several each =>
    have bar := DataType.bar_mem_print indentation several
    simp [isComplex, bar]
  | _ => cases isUnion

theorem soundFor_array : SoundFor indentation maxKeysPerObject values .array ↔
    (itemsOf values ≠ [] → Sound indentation defaultMaxKeys (itemsOf values)) := by
  by_cases occur : arrays values = []
  · have unset : (describe values).isArray = false := by
      rw [Bool.eq_false_iff, ne_eq, describe_isArray]
      exact not_not_intro occur
    refine iff_of_true ⟨?_, ?_⟩ ?_
    · intro part inside
      simp [partsOf, arrayParts, unset] at inside
    · intro value occurs isArray
      obtain ⟨items, rfl⟩ := kind_array isArray
      exact absurd (mem_arrays.mpr occurs) (occur ▸ List.not_mem_nil)
    · intro items
      rw [itemsOf, occur] at items
      exact absurd rfl items
  · by_cases empty : itemsOf values = []
    · have parts : partsOf indentation maxKeysPerObject values .array = [.array false .any] := by
        simp only [partsOf, arrayParts, (describe_isArray values).mpr occur, elementOf_describe occur, empty, if_true]
      refine iff_of_true ⟨?_, ?_⟩ fun items => absurd empty items
      · intro part inside
        rw [parts] at inside
        cases List.mem_singleton.mp inside
        exact .array (by rintro ⟨⟩) .any
      · intro value occurs isArray
        obtain ⟨items, rfl⟩ := kind_array isArray
        rw [parts]
        exact ⟨_, List.mem_singleton_self _, .array fun item _ => .any item⟩
    · have parts : partsOf indentation maxKeysPerObject values .array =
          [.array (isComplex ((typeOfAll indentation defaultMaxKeys (itemsOf values)).print indentation))
            (typeOfAll indentation defaultMaxKeys (itemsOf values))] := by
        simp only [partsOf, arrayParts, (describe_isArray values).mpr occur, elementOf_describe occur, empty, if_true, if_false]
      constructor
      · rintro ⟨wellFormed, typed⟩ _
        rw [parts] at wellFormed typed
        refine ⟨?_, ?_⟩
        · cases wellFormed _ (List.mem_singleton_self _) with
          | array _ inside => exact inside
        · intro item occurs
          obtain ⟨items, isArray, inside⟩ := List.mem_flatten.mp occurs
          obtain ⟨part, isPart, member⟩ := typed _ (mem_arrays.mp isArray) rfl
          cases List.mem_singleton.mp isPart
          cases member with
          | array each => exact each item inside
      · intro sound
        obtain ⟨wellFormed, typed⟩ := sound empty
        refine ⟨?_, ?_⟩
        · intro part inside
          rw [parts] at inside
          cases List.mem_singleton.mp inside
          exact .array (isComplex_union wellFormed) wellFormed
        · intro value occurs isArray
          obtain ⟨items, rfl⟩ := kind_array isArray
          rw [parts]
          refine ⟨_, List.mem_singleton_self _, .array fun item inside => typed item ?_⟩
          exact List.mem_flatten.mpr ⟨items, mem_arrays.mpr occurs, inside⟩

/-! Objects. -/

theorem kind_object {value : Value} (object : value.kind = .object) : ∃ fields, value = .object fields := by
  cases value
  case object fields => exact ⟨fields, rfl⟩
  all_goals cases object

theorem mem_objects {fields : List (Text × Value)} : fields ∈ objects values ↔ Value.object fields ∈ values := by
  apply mem_part
  intro value
  cases value
  all_goals simp [Value.fields?]

theorem mem_valuesAt {key : Text} {value : Value} : value ∈ valuesAt key values ↔ ∃ fields ∈ objects values, (key, value) ∈ fields := by
  simp only [valuesAt, valuesOf, entriesOf, List.mem_map, List.mem_filter, List.mem_flatten, decide_eq_true_eq]
  constructor
  · rintro ⟨entry, ⟨⟨fields, isObject, inside⟩, rfl⟩, rfl⟩
    exact ⟨fields, isObject, inside⟩
  · rintro ⟨fields, isObject, inside⟩
    exact ⟨(key, value), ⟨⟨fields, isObject, inside⟩, rfl⟩, rfl⟩

/-- The keys of the objects are listed. -/
def Listed (maxKeysPerObject : Nat) (values : List Value) : Prop := 0 < (keysOf values).length ∧ (keysOf values).length < maxKeysPerObject

theorem listsKeys_describe :
    listsKeys (describe values).isObject (describe values).objectProperties.length maxKeysPerObject = true ↔ Listed maxKeysPerObject values := by
  simp only [listsKeys, Bool.and_eq_true, decide_eq_true_eq, describe_isObject, properties_length, and_assoc]
  refine and_iff_right_of_imp fun listed => ?_
  obtain ⟨key, inside⟩ := List.exists_mem_of_length_pos listed.1
  obtain ⟨fields, isObject, _⟩ := mem_keysOf.mp inside
  exact List.ne_nil_of_mem isObject

variable (indentation maxKeysPerObject values) in
/-- The members of the type of the objects. -/
def members : List (Text × Bool × DataType) :=
  sortedByKey (membersOf (describe values).objectProperties (nextIndentation indentation) maxKeysPerObject)

theorem members_perm : (members indentation maxKeysPerObject values).Perm ((describe values).objectProperties.map fun row =>
    (keyToken row.1, row.2.isOptional, typeOf row.2 (nextIndentation indentation) maxKeysPerObject)) := by
  have plain : ∀ properties : List (Text × TypeInfoNode),
      (membersOf properties (nextIndentation indentation) maxKeysPerObject).map Prod.snd = properties.map fun row =>
        (keyToken row.1, row.2.isOptional, typeOf row.2 (nextIndentation indentation) maxKeysPerObject) := by
    intro properties
    induction properties with
    | nil => rfl
    | cons row rest ih => exact congrArg (_ :: ·) ih
  rw [members, sortedByKey, ← plain]
  exact (List.mergeSort_perm _ _).map Prod.snd

theorem property_type {row : Text × TypeInfoNode} (inside : row ∈ (describe values).objectProperties) :
    typeOf row.2 (nextIndentation indentation) maxKeysPerObject =
      typeOfAll (nextIndentation indentation) maxKeysPerObject (valuesAt row.1 values) := by
  rw [typeOfAll, ← property_describe inside, typeOf_inParent]

theorem member_of {member : Text × Bool × DataType} (inside : member ∈ members indentation maxKeysPerObject values) :
    ∃ key ∈ keysOf values, member.1 = keyToken key ∧
      member.2.2 = typeOfAll (nextIndentation indentation) maxKeysPerObject (valuesAt key values) ∧
        (member.2.1 = false → (objects values).length ≤ (valuesAt key values).length) := by
  obtain ⟨row, isProperty, rfl⟩ := List.mem_map.mp (members_perm.mem_iff.mp inside)
  refine ⟨row.1, properties_keys values ▸ List.mem_map_of_mem isProperty, rfl, property_type isProperty, ?_⟩
  intro required
  have parents := describe_parents values row isProperty
  have presence : row.2.presenceCount = (valuesAt row.1 values).length := by
    rw [← describe_presence, ← property_describe isProperty]
    rfl
  simp only [TypeInfoNode.isOptional, Bool.and_eq_false_iff, decide_eq_false_iff_not] at required
  omega

theorem member_for {key : Text} (listed : key ∈ keysOf values) : ∃ isOptional,
    (keyToken key, isOptional, typeOfAll (nextIndentation indentation) maxKeysPerObject (valuesAt key values)) ∈
      members indentation maxKeysPerObject values := by
  rw [← properties_keys, List.mem_map] at listed
  obtain ⟨row, isProperty, rfl⟩ := listed
  refine ⟨row.2.isOptional, members_perm.mem_iff.mpr (List.mem_map.mpr ⟨row, isProperty, ?_⟩)⟩
  rw [property_type isProperty]

theorem valuesOf_length (key : Text) (fields : List (Text × Value)) : (valuesOf key fields).length = (keys fields).count key := by
  rw [valuesOf, List.length_map, keys, List.count, List.countP_map, List.countP_eq_length_filter]
  refine congrArg List.length (List.filter_congr fun field _ => ?_)
  rw [Function.comp_apply, beq_eq_decide]

theorem valuesOf_flatten {key : Text} {objects : List (List (Text × Value))} (distinct : ∀ fields ∈ objects, (keys fields).Nodup) :
    (valuesOf key objects.flatten).length ≤ objects.length ∧
      ∀ fields ∈ objects, key ∉ keys fields → (valuesOf key objects.flatten).length < objects.length := by
  induction objects with
  | nil => exact ⟨Nat.le_refl 0, fun fields inside => absurd inside List.not_mem_nil⟩
  | cons first rest ih =>
    obtain ⟨atMost, fewer⟩ := ih fun fields inside => distinct fields (List.mem_cons_of_mem first inside)
    have one := List.nodup_iff_count_le_one.mp (distinct first List.mem_cons_self) key
    rw [List.flatten_cons, valuesOf_append, List.length_append, valuesOf_length, List.length_cons]
    refine ⟨by omega, ?_⟩
    intro fields inside absent
    rcases List.mem_cons.mp inside with rfl | later
    · rw [List.count_eq_zero_of_not_mem absent]
      omega
    · have less := fewer fields later absent
      omega

theorem member_object_inv {tokens : List (Text × Bool × DataType)} {fields : List (Text × Value)}
    (member : (DataType.object tokens).Member (.object fields)) :
    (∀ token ∈ tokens, ∀ field ∈ fields, readKey token.1 = some field.1 → token.2.2.Member field.2) ∧
      ∀ key ∈ keys fields, ∃ token ∈ tokens, readKey token.1 = some key := by
  cases member with
  | object typed required declared => exact ⟨typed, declared⟩

theorem writable_of_sound
    (typed : ∀ fields ∈ objects values, (DataType.object (members indentation maxKeysPerObject values)).Member (.object fields)) :
    ∀ key ∈ keysOf values, Writable key := by
  apply writable_of_covered
  intro key listed
  obtain ⟨fields, isObject, inside⟩ := mem_keysOf.mp listed
  obtain ⟨member, isMember, read⟩ := (member_object_inv (typed fields isObject)).2 key inside
  obtain ⟨other, otherListed, token, _⟩ := member_of isMember
  exact ⟨other, otherListed, token ▸ read⟩

theorem wellFormed_members (writable : ∀ key ∈ keysOf values, Writable key)
    (each : ∀ key ∈ keysOf values, (typeOfAll (nextIndentation indentation) maxKeysPerObject (valuesAt key values)).WellFormed) :
    (DataType.object (members indentation maxKeysPerObject values)).WellFormed := by
  refine .object ?_ ?_ ?_
  · intro member inside
    obtain ⟨key, listed, token, _⟩ := member_of inside
    rw [token, readKey_writable (writable key listed)]
    simp
  · have reads : ((describe values).objectProperties.map fun row => readKey (keyToken row.1)) = (keysOf values).map some := by
      rw [← properties_keys, List.map_map]
      apply List.map_congr_left
      intro row inside
      exact readKey_writable (writable row.1 (properties_keys values ▸ List.mem_map_of_mem inside))
    have perm := (@members_perm indentation maxKeysPerObject values).map fun member => readKey member.1
    rw [List.map_map] at perm
    refine perm.nodup_iff.mpr ?_
    change ((describe values).objectProperties.map fun row => readKey (keyToken row.1)).Nodup
    rw [reads]
    exact (firstSeen_nodup _ _).map fun _ _ => Option.some.inj
  · intro member inside
    obtain ⟨key, listed, _, type, _⟩ := member_of inside
    rw [type]
    exact each key listed

theorem member_members {fields : List (Text × Value)} (distinct : ∀ fields ∈ objects values, (keys fields).Nodup)
    (writable : ∀ key ∈ keysOf values, Writable key)
    (each : ∀ key ∈ keysOf values, ∀ value ∈ valuesAt key values,
      (typeOfAll (nextIndentation indentation) maxKeysPerObject (valuesAt key values)).Member value)
    (isObject : fields ∈ objects values) : (DataType.object (members indentation maxKeysPerObject values)).Member (.object fields) := by
  refine .object ?_ ?_ ?_
  · intro member inside field isField read
    obtain ⟨key, listed, token, type, _⟩ := member_of inside
    rw [token, readKey_writable (writable key listed), Option.some.injEq] at read
    subst read
    rw [type]
    exact each _ listed _ (mem_valuesAt.mpr ⟨fields, isObject, isField⟩)
  · intro member inside required
    obtain ⟨key, listed, token, _, count⟩ := member_of inside
    refine ⟨key, ?_, by rw [token, readKey_writable (writable key listed)]⟩
    by_contra absent
    have fewer := (valuesOf_flatten distinct).2 fields isObject absent
    exact absurd (count required) (Nat.not_le_of_lt fewer)
  · intro key inside
    have listed : key ∈ keysOf values := mem_keysOf.mpr ⟨fields, isObject, inside⟩
    obtain ⟨isOptional, isMember⟩ := @member_for indentation maxKeysPerObject values key listed
    exact ⟨_, isMember, readKey_writable (writable key listed)⟩

theorem partsOf_listed (listed : Listed maxKeysPerObject values) :
    partsOf indentation maxKeysPerObject values .object = [.object (members indentation maxKeysPerObject values)] := by
  simp only [partsOf, objectParts, listsKeys_describe.mpr listed, if_true]
  rfl

theorem partsOf_notListed (notListed : ¬Listed maxKeysPerObject values) :
    partsOf indentation maxKeysPerObject values .object = if (describe values).isObject then [.record] else [] := by
  rw [← listsKeys_describe] at notListed
  rw [partsOf, objectParts, if_neg notListed]

theorem soundFor_object (distinct : ∀ fields ∈ objects values, (keys fields).Nodup) :
    SoundFor indentation maxKeysPerObject values .object ↔ (Listed maxKeysPerObject values →
      (∀ key ∈ keysOf values, Writable key) ∧
        ∀ key ∈ keysOf values, Sound (nextIndentation indentation) maxKeysPerObject (valuesAt key values)) := by
  by_cases listed : Listed maxKeysPerObject values
  · have parts := @partsOf_listed indentation maxKeysPerObject values listed
    constructor
    · intro ⟨wellFormed, typed⟩ _
      rw [parts] at wellFormed typed
      have members : ∀ fields ∈ objects values, (DataType.object (members indentation maxKeysPerObject values)).Member (.object fields) := by
        intro fields isObject
        obtain ⟨part, isPart, member⟩ := typed _ (mem_objects.mp isObject) rfl
        cases List.mem_singleton.mp isPart
        exact member
      have writable := writable_of_sound members
      refine ⟨writable, ?_⟩
      intro key inside
      obtain ⟨isOptional, isMember⟩ := @member_for indentation maxKeysPerObject values key inside
      refine ⟨?_, ?_⟩
      · cases wellFormed _ (List.mem_singleton_self _) with
        | object _ _ each => exact each _ isMember
      · intro value occurs
        obtain ⟨fields, isObject, isField⟩ := mem_valuesAt.mp occurs
        exact (member_object_inv (members fields isObject)).1 _ isMember _ isField (readKey_writable (writable key inside))
    · intro sound
      obtain ⟨writable, each⟩ := sound listed
      refine ⟨?_, ?_⟩
      · intro part inside
        rw [parts] at inside
        cases List.mem_singleton.mp inside
        exact wellFormed_members writable fun key inside => (each key inside).wellFormed
      · intro value occurs isObject
        obtain ⟨fields, rfl⟩ := kind_object isObject
        rw [parts]
        refine ⟨_, List.mem_singleton_self _, ?_⟩
        exact member_members distinct writable (fun key inside => (each key inside).typed) (mem_objects.mpr occurs)
  · have parts := @partsOf_notListed indentation maxKeysPerObject values listed
    refine iff_of_true ⟨?_, ?_⟩ fun isListed => absurd isListed listed
    · intro part inside
      rw [parts] at inside
      split at inside
      · cases List.mem_singleton.mp inside
        exact .record
      · cases inside
    · intro value occurs isObject
      obtain ⟨fields, rfl⟩ := kind_object isObject
      have flag := (describe_isObject values).mpr (List.ne_nil_of_mem (mem_objects.mpr occurs))
      rw [parts, if_pos flag]
      exact ⟨_, List.mem_singleton_self _, .record fields⟩

/-! All kinds. -/

/-- Sound types are written for the values at every place below: their texts fit, and the
keys that are listed can be written. The items of arrays have the default limit. -/
inductive Fits : Nat → List Value → Prop
  | intro {maxKeysPerObject : Nat} {values : List Value} (fit : TextsFit (texts values))
    (writable : Listed maxKeysPerObject values → ∀ key ∈ keysOf values, Writable key)
    (properties : Listed maxKeysPerObject values → ∀ key ∈ keysOf values, Fits maxKeysPerObject (valuesAt key values))
    (items : itemsOf values ≠ [] → Fits defaultMaxKeys (itemsOf values)) : Fits maxKeysPerObject values

def AllProper (values : List Value) : Prop := ∀ value ∈ values, value.Proper

theorem proper_fields (proper : AllProper values) {fields : List (Text × Value)} (isObject : fields ∈ objects values) :
    (keys fields).Nodup ∧ ∀ field ∈ fields, field.2.Proper := by
  cases proper _ (mem_objects.mp isObject) with
  | object distinct each => exact ⟨distinct, each⟩

theorem proper_valuesAt (proper : AllProper values) (key : Text) : AllProper (valuesAt key values) := by
  intro value occurs
  obtain ⟨fields, isObject, inside⟩ := mem_valuesAt.mp occurs
  exact (proper_fields proper isObject).2 _ inside

theorem proper_itemsOf (proper : AllProper values) : AllProper (itemsOf values) := by
  intro item occurs
  obtain ⟨items, isArray, inside⟩ := List.mem_flatten.mp occurs
  cases proper _ (mem_arrays.mp isArray) with
  | array each => exact each item inside

theorem sound_iff_below (proper : AllProper values) : Sound indentation maxKeysPerObject values ↔
    TextsFit (texts values) ∧
      (Listed maxKeysPerObject values → (∀ key ∈ keysOf values, Writable key) ∧
        ∀ key ∈ keysOf values, Sound (nextIndentation indentation) maxKeysPerObject (valuesAt key values)) ∧
          (itemsOf values ≠ [] → Sound indentation defaultMaxKeys (itemsOf values)) := by
  have object := @soundFor_object indentation maxKeysPerObject values fun fields isObject => (proper_fields proper isObject).1
  rw [sound_iff_kinds, ← @soundFor_text indentation maxKeysPerObject, ← object, ← @soundFor_array indentation maxKeysPerObject]
  constructor
  · intro each
    exact ⟨each .text, each .object, each .array⟩
  · intro ⟨text, object, array⟩ kind
    cases kind with
    | simple => exact soundFor_simple
    | text => exact text
    | object => exact object
    | array => exact array

theorem values_of_key {key : Text} (listed : key ∈ keysOf values) : values ≠ [] := by
  obtain ⟨fields, isObject, _⟩ := mem_keysOf.mp listed
  exact List.ne_nil_of_mem (mem_objects.mp isObject)

theorem fits_of_sound (proper : AllProper values) (sound : Sound indentation maxKeysPerObject values) : Fits maxKeysPerObject values := by
  -- The values at the places below weigh less.
  induction size : weight values using Nat.strongRecOn generalizing values indentation maxKeysPerObject with
  | ind size ih =>
    subst size
    obtain ⟨text, object, array⟩ := (sound_iff_below proper).mp sound
    refine .intro text (fun listed => (object listed).1) ?_ ?_
    · intro listed key inside
      exact ih _ (weight_valuesAt key (values_of_key inside)) (proper_valuesAt proper key) ((object listed).2 key inside) rfl
    · intro items
      have occur : values ≠ [] := by
        rintro rfl
        exact items rfl
      exact ih _ (weight_itemsOf occur) (proper_itemsOf proper) (array items) rfl

theorem sound_of_fits (proper : AllProper values) (fits : Fits maxKeysPerObject values) : Sound indentation maxKeysPerObject values := by
  induction fits generalizing indentation with
  | intro fit writable properties items ihProperties ihItems =>
    refine (sound_iff_below proper).mpr ⟨fit, fun listed => ⟨writable listed, ?_⟩, ?_⟩
    · intro key inside
      exact ihProperties listed key inside (proper_valuesAt proper key)
    · intro occur
      exact ihItems occur (proper_itemsOf proper)

end

/-! The declarations. -/

def declaredType (maxKeysPerObject : Option Nat) (row : Text × TypeInfoNode) : Option (Text × DataType) :=
  if isIdentifier row.1 then some (row.1, typeOf row.2 [] (maxKeysPerObject.getD defaultMaxKeys)) else none

/-- The names that are declared, with their types. -/
def declaredTypes (objects : List Value) (maxKeysPerObject : Option Nat) : List (Text × DataType) :=
  (sortedByKey ((topLevelPropertyNodes objects).map fun row => (row.1, declaredType maxKeysPerObject row))).reduceOption

theorem topLevel_append (objects : List Value) (object : Value) : topLevelPropertyNodes (objects ++ [object]) =
    aggregateFields (object.fields?.getD []) (topLevelPropertyNodes objects) 1 := by
  rw [topLevelPropertyNodes, List.foldl_append]
  cases object
  all_goals rfl

theorem topLevel_describe (objects : List Value) : (topLevelPropertyNodes objects).map withoutParent = describeEntries (entriesOf objects) := by
  induction objects using List.reverseRecOn with
  | nil => rfl
  | append_singleton objects object ih =>
    have more : entriesOf (objects ++ [object]) = entriesOf objects ++ object.fields?.getD [] := by
      rw [entriesOf, InferTypes.objects, List.filterMap_append, List.flatten_append]
      cases object
      all_goals simp [Value.fields?, entriesOf, InferTypes.objects]
    rw [topLevel_append, more]
    exact aggregateFields_describe ih _ 1

theorem topLevel_keys (objects : List Value) : (topLevelPropertyNodes objects).map Prod.fst = keysOf objects :=
  keys_of_summary (topLevel_describe objects)

theorem topLevel_property {objects : List Value} {row : Text × TypeInfoNode} (inside : row ∈ topLevelPropertyNodes objects) :
    row.2.inParent 0 = describe (valuesAt row.1 objects) := node_of_summary (topLevel_describe objects) inside

theorem topLevel_presence {objects : List Value} {row : Text × TypeInfoNode} (inside : row ∈ topLevelPropertyNodes objects) :
    0 < row.2.presenceCount := by
  have presence : row.2.presenceCount = (valuesAt row.1 objects).length := by
    rw [← describe_presence, ← topLevel_property inside]
    rfl
  have listed : row.1 ∈ keysOf objects := topLevel_keys objects ▸ List.mem_map_of_mem inside
  obtain ⟨fields, isObject, isKey⟩ := mem_keysOf.mp listed
  obtain ⟨⟨_, value⟩, isField, rfl⟩ := List.mem_map.mp isKey
  rw [presence]
  exact List.length_pos_of_mem (mem_valuesAt.mpr ⟨fields, isObject, isField⟩)

theorem topLevel_nil {objects : List Value} (none : validObjectCount objects = 0) : topLevelPropertyNodes objects = [] := by
  have keys := topLevel_keys objects
  have empty : InferTypes.objects objects = [] := by
    rw [InferTypes.objects, List.filterMap_eq_nil_iff]
    intro object inside
    have invalid := List.countP_eq_zero.mp none object inside
    simpa using invalid
  rw [keysOf, entriesOf, empty] at keys
  exact List.map_eq_nil_iff.mp keys

theorem declaredTypes_nil {objects : List Value} (none : validObjectCount objects = 0) (maxKeysPerObject : Option Nat) :
    declaredTypes objects maxKeysPerObject = [] := by
  rw [declaredTypes, topLevel_nil none]
  simp [sortedByKey]

def declarationText (declared : Text × DataType) : Text := declaration declared.1 (declared.2.print [])

theorem declarationOf_print {objects : List Value} {row : Text × TypeInfoNode} (inside : row ∈ topLevelPropertyNodes objects)
    (maxKeysPerObject : Option Nat) :
    declarationOf (maxKeysPerObject.getD defaultMaxKeys) row.1 row.2 = (declaredType maxKeysPerObject row).map declarationText := by
  rw [declarationOf, declaredType]
  by_cases identifier : isIdentifier row.1 = true
  · rw [if_pos identifier, if_pos identifier]
    refine (if_pos (Or.inr (topLevel_presence inside))).trans ?_
    rw [generateTypeString_print, typeOf_inParent]
    rfl
  · rw [if_neg identifier, if_neg identifier]
    rfl

theorem generate_print (objects : List Value) (maxKeysPerObject : Option Nat) : generateGlobalVarDeclarations objects maxKeysPerObject =
    ['\n', '\n'].intercalate ((declaredTypes objects maxKeysPerObject).map declarationText) := by
  have rows : ((topLevelPropertyNodes objects).map fun row => (row.1, declarationOf (maxKeysPerObject.getD defaultMaxKeys) row.1 row.2)) =
      ((topLevelPropertyNodes objects).map fun row => (row.1, declaredType maxKeysPerObject row)).map fun row =>
        (row.1, row.2.map declarationText) := by
    rw [List.map_map]
    apply List.map_congr_left
    intro row inside
    rw [declarationOf_print inside]
    rfl
  rw [generateGlobalVarDeclarations]
  split
  next empty =>
    cases List.eq_nil_of_length_eq_zero empty
    rw [declaredTypes_nil rfl]
    rfl
  next =>
    split
    next none =>
      rw [declaredTypes_nil none]
      rfl
    next => rw [rows, sortedByKey_map, List.reduceOption_map, declaredTypes]

theorem declaredTypes_perm (objects : List Value) (maxKeysPerObject : Option Nat) :
    (declaredTypes objects maxKeysPerObject).Perm ((topLevelPropertyNodes objects).filterMap (declaredType maxKeysPerObject)) := by
  have sorted := ((List.mergeSort_perm ((topLevelPropertyNodes objects).map fun row => (row.1, declaredType maxKeysPerObject row))
    fun first second => Utf16.le first.1 second.1).map Prod.snd).filterMap id
  rw [declaredTypes]
  refine sorted.trans ?_
  rw [List.map_map, List.filterMap_map]
  rfl

/-- Objects as they are parsed. -/
structure JsonObject where
  fields : List (Text × Value)
  proper : (Value.object fields).Proper

def JsonObject.value (object : JsonObject) : Value := .object object.fields

/-- The declarations are well formed, and what the objects have for a declared name is of
its type. -/
structure SoundDeclarations (objects : List JsonObject) (declarations : List (Text × DataType)) : Prop where
  named : ∀ declared ∈ declarations, isIdentifier declared.1 = true ∧ declared.1 ∉ reservedWords
  distinct : (declarations.map Prod.fst).Nodup
  wellFormed : ∀ declared ∈ declarations, declared.2.WellFormed
  typed : ∀ declared ∈ declarations, ∀ object ∈ objects, ∀ field ∈ object.fields, field.1 = declared.1 → declared.2.Member field.2

/-- Of the keys that are declared none is reserved, and their values fit. -/
def ObjectsFit (objects : List JsonObject) (maxKeysPerObject : Option Nat) : Prop :=
  ∀ key ∈ keysOf (objects.map JsonObject.value), isIdentifier key = true →
    key ∉ reservedWords ∧ Fits (maxKeysPerObject.getD defaultMaxKeys) (valuesAt key (objects.map JsonObject.value))

theorem mem_declaredTypes {objects : List Value} {maxKeysPerObject : Option Nat} {declared : Text × DataType} :
    declared ∈ declaredTypes objects maxKeysPerObject ↔ declared.1 ∈ keysOf objects ∧ isIdentifier declared.1 = true ∧
      declared.2 = typeOfAll [] (maxKeysPerObject.getD defaultMaxKeys) (valuesAt declared.1 objects) := by
  have type : ∀ row ∈ topLevelPropertyNodes objects, typeOf row.2 [] (maxKeysPerObject.getD defaultMaxKeys) =
      typeOfAll [] (maxKeysPerObject.getD defaultMaxKeys) (valuesAt row.1 objects) := by
    intro row inside
    rw [typeOfAll, ← topLevel_property inside, typeOf_inParent]
  rw [(declaredTypes_perm objects maxKeysPerObject).mem_iff, List.mem_filterMap]
  constructor
  · rintro ⟨row, inside, is⟩
    simp only [declaredType, Option.ite_none_right_eq_some, Option.some.injEq] at is
    obtain ⟨identifier, rfl⟩ := is
    exact ⟨topLevel_keys objects ▸ List.mem_map_of_mem inside, identifier, type row inside⟩
  · obtain ⟨key, written⟩ := declared
    intro ⟨listed, identifier, is⟩
    dsimp only at listed identifier is
    subst is
    rw [← topLevel_keys, List.mem_map] at listed
    obtain ⟨row, inside, rfl⟩ := listed
    refine ⟨row, inside, ?_⟩
    rw [declaredType, if_pos identifier, type row inside]

theorem declared_distinct (objects : List Value) (maxKeysPerObject : Option Nat) :
    ((declaredTypes objects maxKeysPerObject).map Prod.fst).Nodup := by
  have names : ∀ rows : List (Text × TypeInfoNode),
      (rows.filterMap (declaredType maxKeysPerObject)).map Prod.fst = (rows.map Prod.fst).filter isIdentifier := by
    intro rows
    induction rows with
    | nil => rfl
    | cons row rest ih =>
      rw [List.filterMap_cons, declaredType, List.map_cons, List.filter_cons]
      by_cases identifier : isIdentifier row.1 = true
      · rw [if_pos identifier, if_pos identifier, List.map_cons, ih]
      · rw [if_neg identifier, if_neg identifier, ih]
  rw [((declaredTypes_perm objects maxKeysPerObject).map Prod.fst).nodup_iff, names, topLevel_keys]
  exact (firstSeen_nodup _ _).filter _

theorem proper_objects (objects : List JsonObject) : AllProper (objects.map JsonObject.value) := by
  intro value occurs
  obtain ⟨object, _, rfl⟩ := List.mem_map.mp occurs
  exact object.proper

theorem mem_objects_value {objects : List JsonObject} {fields : List (Text × Value)} :
    fields ∈ InferTypes.objects (objects.map JsonObject.value) ↔ ∃ object ∈ objects, object.fields = fields := by
  rw [mem_objects, List.mem_map]
  simp [JsonObject.value]

theorem sound_iff_objectsFit (objects : List JsonObject) (maxKeysPerObject : Option Nat) :
    SoundDeclarations objects (declaredTypes (objects.map JsonObject.value) maxKeysPerObject) ↔ ObjectsFit objects maxKeysPerObject := by
  have proper := fun key => proper_valuesAt (proper_objects objects) key
  constructor
  · intro sound key listed identifier
    have declared := (@mem_declaredTypes _ maxKeysPerObject
      (key, typeOfAll [] (maxKeysPerObject.getD defaultMaxKeys) (valuesAt key (objects.map JsonObject.value)))).mpr ⟨listed, identifier, rfl⟩
    refine ⟨(sound.named _ declared).2, fits_of_sound (proper key) ⟨sound.wellFormed _ declared, ?_⟩⟩
    intro value occurs
    obtain ⟨fields, isObject, inside⟩ := mem_valuesAt.mp occurs
    obtain ⟨object, given, rfl⟩ := mem_objects_value.mp isObject
    exact sound.typed _ declared object given _ inside rfl
  · intro fit
    refine ⟨?_, declared_distinct _ _, ?_, ?_⟩
    · intro declared inside
      obtain ⟨listed, identifier, _⟩ := mem_declaredTypes.mp inside
      exact ⟨identifier, (fit _ listed identifier).1⟩
    · intro declared inside
      obtain ⟨listed, identifier, type⟩ := mem_declaredTypes.mp inside
      rw [type]
      exact (sound_of_fits (proper _) (fit _ listed identifier).2).wellFormed
    · intro declared inside object given field isField same
      obtain ⟨listed, identifier, type⟩ := mem_declaredTypes.mp inside
      have occurs : field.2 ∈ valuesAt declared.1 (objects.map JsonObject.value) :=
        mem_valuesAt.mpr ⟨object.fields, mem_objects_value.mpr ⟨object, given, rfl⟩, same ▸ isField⟩
      rw [type]
      exact (sound_of_fits (proper _) (fit _ listed identifier).2).typed _ occurs

/-- What is declared of some objects is sound just if they fit: at each place, the strings
are all short, of one line and few, or are held as no literals or too many, and the keys
can be written. -/
theorem declarations_sound_iff (objects : List JsonObject) (maxKeysPerObject : Option Nat) :
    generateGlobalVarDeclarations (objects.map JsonObject.value) maxKeysPerObject =
        ['\n', '\n'].intercalate ((declaredTypes (objects.map JsonObject.value) maxKeysPerObject).map declarationText) ∧
      (SoundDeclarations objects (declaredTypes (objects.map JsonObject.value) maxKeysPerObject) ↔ ObjectsFit objects maxKeysPerObject) :=
  ⟨generate_print _ _, sound_iff_objectsFit objects maxKeysPerObject⟩

def named (name : String) : JsonObject where
  fields := [("name".toList, .string name.toList)]
  proper := .object (List.nodup_singleton _) fun field inside => by
    cases List.mem_singleton.mp inside
    exact .string _

/-- The short name is all that is declared of two. -/
theorem long_name_lost :
    generateGlobalVarDeclarations ([named "kube-proxy", named "kube-controller-manager"].map JsonObject.value) none =
        "declare var name: \"kube-proxy\";".toList ∧
      ¬SoundDeclarations [named "kube-proxy", named "kube-controller-manager"]
        (declaredTypes ([named "kube-proxy", named "kube-controller-manager"].map JsonObject.value) none) := by
  refine ⟨by decide +kernel, ?_⟩
  rw [sound_iff_objectsFit]
  intro fit
  obtain ⟨-, fits⟩ := fit "name".toList (by decide +kernel) (by decide +kernel)
  cases fits with
  | intro texts =>
    revert texts
    unfold TextsFit
    decide +kernel

end K8Sense.Frontend.InferTypes
