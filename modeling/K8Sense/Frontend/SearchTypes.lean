import K8Sense.Frontend.TypeSummary
import K8Sense.Library.LimitedSet

/-! The declarations of the inferred types, as types rather than as texts, and when they
are sound: well formed, and true of every value of every object. -/

namespace K8Sense.Frontend.InferTypes
open DataTypes Grouping Keyed

/-! The types whose texts are written. -/

def primitiveType : Primitive → DataType
  | .null => .null
  | .string => .string
  | .number => .number
  | .boolean => .boolean

def primitiveParts (primitiveTypes : List Primitive) : List DataType := (primitiveTypes.filter (· ≠ .string)).map primitiveType

def stringParts (hasStringType : Bool) (stringLiterals : List Text) : List DataType :=
  if hasStringType then
    if usesLiterals stringLiterals then stringLiterals.map fun literal => .literal (quote (escape literal)) else [.string]
  else []

def objectParts (isObject lists : Bool) (members : List (Text × Bool × DataType)) : List DataType :=
  if lists then [.object members] else if isObject then [.record] else []

def arrayParts (isArray : Bool) (element : Option DataType) (indentation : Text) : List DataType :=
  if isArray then
    match element with
    | some type => [.array (isComplex (type.print indentation)) type]
    | none => [.array false .any]
  else []

def sortedTypes (indentation : Text) (types : List DataType) : List DataType :=
  types.mergeSort fun first second => Utf16.le (first.print indentation) (second.print indentation)

def oneOf (indentation : Text) : List DataType → DataType
  | [] => .any
  | [type] => type
  | types => .union (sortedTypes indentation types)

mutual

def typeOf (node : TypeInfoNode) (indentation : Text) (maxKeysPerObject : Nat) : DataType :=
  match node with
  | ⟨primitiveTypes, stringLiterals, hasStringType, isArray, arrayElementInfo, isObject, objectProperties, _, _⟩ =>
    oneOf indentation (primitiveParts primitiveTypes ++ stringParts hasStringType stringLiterals ++
      objectParts isObject (listsKeys isObject objectProperties.length maxKeysPerObject)
        (sortedByKey (membersOf objectProperties (nextIndentation indentation) maxKeysPerObject)) ++
      arrayParts isArray (elementOf arrayElementInfo indentation) indentation)
termination_by structural node

def membersOf (objectProperties : List (Text × TypeInfoNode)) (indentation : Text) (maxKeysPerObject : Nat) :
    List (Text × Text × Bool × DataType) :=
  match objectProperties with
  | [] => []
  | (key, node) :: rest =>
    (key, formattedKey key, node.isOptional, typeOf node indentation maxKeysPerObject) :: membersOf rest indentation maxKeysPerObject
termination_by structural objectProperties

def elementOf (arrayElementInfo : Option TypeInfoNode) (indentation : Text) : Option DataType :=
  match arrayElementInfo with
  | none => none
  | some node => if node.isRecorded then some (typeOf node indentation defaultMaxKeys) else none
termination_by structural arrayElementInfo

end

theorem print_primitiveParts (primitiveTypes : List Primitive) (indentation : Text) :
    (primitiveParts primitiveTypes).map (DataType.print indentation) = primitiveTypeStrings primitiveTypes := by
  rw [primitiveParts, List.map_map, primitiveTypeStrings]
  apply List.map_congr_left
  intro type _
  cases type
  all_goals rfl

theorem print_stringParts (hasStringType : Bool) (stringLiterals : List Text) (indentation : Text) :
    (stringParts hasStringType stringLiterals).map (DataType.print indentation) = stringTypeStrings hasStringType stringLiterals := by
  rw [stringParts, stringTypeStrings]
  split
  · split
    · rw [List.map_map]
      rfl
    · rfl
  · rfl

theorem sortedByKey_map {α β : Type} (f : α → β) (rows : List (Text × α)) :
    sortedByKey (rows.map fun row => (row.1, f row.2)) = (sortedByKey rows).map f := by
  have sorted := List.map_mergeSort (r := fun first second : Text × α => Utf16.le first.1 second.1)
    (s := fun first second : Text × β => Utf16.le first.1 second.1) (f := fun row : Text × α => (row.1, f row.2))
    (fun first (_ : first ∈ rows) second _ => rfl)
  rw [sortedByKey, ← sorted, List.map_map, sortedByKey, List.map_map]
  rfl

theorem print_sortedTypes (types : List DataType) (indentation : Text) :
    (sortedTypes indentation types).map (DataType.print indentation) = Utf16.sort (types.map (DataType.print indentation)) := by
  rw [sortedTypes, Utf16.sort]
  apply List.map_mergeSort
  intro first _ second _
  rfl

theorem oneOf_several (first second : DataType) (rest : List DataType) (indentation : Text) :
    oneOf indentation (first :: second :: rest) = .union (sortedTypes indentation (first :: second :: rest)) := rfl

theorem print_oneOf (types : List DataType) (indentation : Text) :
    (oneOf indentation types).print indentation = joinTypes (types.map (DataType.print indentation)) := by
  match types with
  | [] => rfl
  | [type] => rfl
  | first :: second :: rest =>
    rw [oneOf_several, DataType.print_union, printParts_eq, print_sortedTypes]
    rfl

theorem print_objectParts {members : List (Text × Bool × DataType)} {isObject lists : Bool} (some : lists = true → members ≠ [])
    (indentation : Text) :
    (objectParts isObject lists members).map (DataType.print indentation) =
      objectTypeStrings isObject lists (members.map (printMember (nextIndentation indentation))) indentation := by
  rw [objectParts, objectTypeStrings]
  cases lists
  · cases isObject
    all_goals rfl
  · have positive : 0 < (members.map (printMember (nextIndentation indentation))).length := by
      rw [List.length_map]
      exact List.length_pos_iff.mpr (some rfl)
    rw [if_pos rfl, if_pos rfl, if_pos positive, List.map_singleton, DataType.print_object, printMembers_eq]
    rfl

theorem print_arrayParts (isArray : Bool) (element : Option DataType) (indentation : Text) :
    (arrayParts isArray element indentation).map (DataType.print indentation) =
      arrayTypeStrings isArray (element.map (DataType.print indentation)) := by
  cases isArray
  · rfl
  · cases element with
    | none => rfl
    | some type =>
      change [(DataType.array (isComplex (type.print indentation)) type).print indentation] = if isComplex (type.print indentation) then _ else _
      rw [DataType.print_array]
      cases isComplex (type.print indentation)
      all_goals rfl

theorem membersOf_length (properties : List (Text × TypeInfoNode)) (indentation : Text) (maxKeysPerObject : Nat) :
    (membersOf properties indentation maxKeysPerObject).length = properties.length := by
  induction properties with
  | nil => rfl
  | cons row rest ih => exact congrArg Nat.succ ih

theorem sortedByKey_length {α : Type} (rows : List (Text × α)) : (sortedByKey rows).length = rows.length := by
  rw [sortedByKey, List.length_map, List.length_mergeSort]

mutual

theorem generateTypeString_print (node : TypeInfoNode) (indentation : Text) (maxKeysPerObject : Nat) :
    generateTypeString node indentation maxKeysPerObject = (typeOf node indentation maxKeysPerObject).print indentation := by
  match node with
  | ⟨primitiveTypes, stringLiterals, hasStringType, isArray, arrayElementInfo, isObject, objectProperties, _, _⟩ =>
    have nonempty : listsKeys isObject objectProperties.length maxKeysPerObject = true →
        sortedByKey (membersOf objectProperties (nextIndentation indentation) maxKeysPerObject) ≠ [] := by
      intro lists
      have positive : 0 < objectProperties.length := by
        simp only [listsKeys, Bool.and_eq_true, decide_eq_true_eq] at lists
        exact lists.1.2
      apply List.length_pos_iff.mp
      rwa [sortedByKey_length, membersOf_length]
    rw [generateTypeString, typeOf, print_oneOf, List.map_append, List.map_append, List.map_append, print_primitiveParts, print_stringParts,
      print_objectParts nonempty, print_arrayParts, elementTypeString_print, propertyLines_print, sortedByKey_map]
termination_by structural node

theorem propertyLines_print (properties : List (Text × TypeInfoNode)) (indentation : Text) (maxKeysPerObject : Nat) :
    propertyLines properties indentation maxKeysPerObject =
      (membersOf properties indentation maxKeysPerObject).map fun member => (member.1, printMember indentation member.2) := by
  match properties with
  | [] => rfl
  | (key, node) :: rest =>
    rw [propertyLines, membersOf, List.map_cons, generateTypeString_print node, propertyLines_print rest]
    rfl
termination_by structural properties

theorem elementTypeString_print (element : Option TypeInfoNode) (indentation : Text) :
    elementTypeString element indentation = (elementOf element indentation).map (DataType.print indentation) := by
  match element with
  | none => rfl
  | some node =>
    rw [elementTypeString, elementOf, generateTypeString_print node]
    split
    all_goals rfl
termination_by structural element

end

/-! The parts of a type by the kind of their values. -/

theorem typeOf_eq (node : TypeInfoNode) (indentation : Text) (maxKeysPerObject : Nat) :
    typeOf node indentation maxKeysPerObject =
      oneOf indentation (primitiveParts node.primitiveTypes ++ stringParts node.hasStringType node.stringLiterals ++
        objectParts node.isObject (listsKeys node.isObject node.objectProperties.length maxKeysPerObject)
          (sortedByKey (membersOf node.objectProperties (nextIndentation indentation) maxKeysPerObject)) ++
        arrayParts node.isArray (elementOf node.arrayElementInfo indentation) indentation) := by
  cases node
  rfl

theorem typeOf_inParent (node : TypeInfoNode) (count : Nat) (indentation : Text) (maxKeysPerObject : Nat) :
    typeOf (node.inParent count) indentation maxKeysPerObject = typeOf node indentation maxKeysPerObject := by
  cases node
  rfl

section
variable (indentation : Text) (maxKeysPerObject : Nat) (values : List Value)

/-- The parts of the type of some values. -/
def partsOf : Kind → List DataType
  | .simple => primitiveParts (describe values).primitiveTypes
  | .text => stringParts (describe values).hasStringType (describe values).stringLiterals
  | .object =>
    objectParts (describe values).isObject (listsKeys (describe values).isObject (describe values).objectProperties.length maxKeysPerObject)
      (sortedByKey (membersOf (describe values).objectProperties (nextIndentation indentation) maxKeysPerObject))
  | .array => arrayParts (describe values).isArray (elementOf (describe values).arrayElementInfo indentation) indentation

def allParts : List DataType :=
  partsOf indentation maxKeysPerObject values .simple ++ partsOf indentation maxKeysPerObject values .text ++
    partsOf indentation maxKeysPerObject values .object ++ partsOf indentation maxKeysPerObject values .array

def typeOfAll : DataType := typeOf (describe values) indentation maxKeysPerObject

/-- The type is well formed and the values are of it. -/
structure Sound : Prop where
  wellFormed : (typeOfAll indentation maxKeysPerObject values).WellFormed
  typed : ∀ value ∈ values, (typeOfAll indentation maxKeysPerObject values).Member value

/-- The same of one kind of values. -/
structure SoundFor (kind : Kind) : Prop where
  wellFormed : ∀ part ∈ partsOf indentation maxKeysPerObject values kind, part.WellFormed
  typed : ∀ value ∈ values, value.kind = kind → ∃ part ∈ partsOf indentation maxKeysPerObject values kind, part.Member value

end

section
variable {indentation : Text} {maxKeysPerObject : Nat} {values : List Value}

theorem typeOfAll_eq : typeOfAll indentation maxKeysPerObject values = oneOf indentation (allParts indentation maxKeysPerObject values) :=
  typeOf_eq (describe values) indentation maxKeysPerObject

theorem mem_sortedTypes {types : List DataType} {type : DataType} : type ∈ sortedTypes indentation types ↔ type ∈ types :=
  (List.mergeSort_perm types _).mem_iff

theorem wellFormed_oneOf {types : List DataType} : (oneOf indentation types).WellFormed ↔ ∀ type ∈ types, type.WellFormed := by
  match types with
  | [] => exact ⟨fun _ type inside => absurd inside List.not_mem_nil, fun _ => .any⟩
  | [type] => rw [List.forall_mem_singleton]; rfl
  | first :: second :: rest =>
    have several : 2 ≤ (sortedTypes indentation (first :: second :: rest)).length := by
      rw [sortedTypes, List.length_mergeSort, List.length_cons, List.length_cons]
      omega
    rw [oneOf_several, DataType.wellFormed_union, and_iff_right several]
    simp only [mem_sortedTypes]

theorem member_oneOf {types : List DataType} (some : types ≠ []) {value : Value} :
    (oneOf indentation types).Member value ↔ ∃ type ∈ types, type.Member value := by
  match types with
  | [] => exact absurd rfl some
  | [type] => simp [oneOf]
  | first :: second :: rest =>
    rw [oneOf_several, DataType.member_union]
    simp only [mem_sortedTypes]

theorem mem_allParts {part : DataType} :
    part ∈ allParts indentation maxKeysPerObject values ↔ ∃ kind, part ∈ partsOf indentation maxKeysPerObject values kind := by
  simp only [allParts, List.mem_append]
  constructor
  · rintro (((simple | text) | object) | array)
    · exact ⟨.simple, simple⟩
    · exact ⟨.text, text⟩
    · exact ⟨.object, object⟩
    · exact ⟨.array, array⟩
  · rintro ⟨kind, inside⟩
    cases kind with
    | simple => exact Or.inl (Or.inl (Or.inl inside))
    | text => exact Or.inl (Or.inl (Or.inr inside))
    | object => exact Or.inl (Or.inr inside)
    | array => exact Or.inr inside

theorem part_kind {kind : Kind} {part : DataType} (inside : part ∈ partsOf indentation maxKeysPerObject values kind) :
    part.kind = some kind := by
  cases kind with
  | simple =>
    obtain ⟨type, listed, rfl⟩ := List.mem_map.mp inside
    cases type
    case string => simp at listed
    all_goals rfl
  | text =>
    simp only [partsOf, stringParts] at inside
    split at inside
    · split at inside
      · obtain ⟨literal, _, rfl⟩ := List.mem_map.mp inside
        rfl
      · cases List.mem_singleton.mp inside
        rfl
    · cases inside
  | object =>
    simp only [partsOf, objectParts] at inside
    split at inside
    · cases List.mem_singleton.mp inside
      rfl
    · split at inside
      · cases List.mem_singleton.mp inside
        rfl
      · cases inside
  | array =>
    simp only [partsOf, arrayParts] at inside
    split at inside
    · split at inside
      all_goals
        cases List.mem_singleton.mp inside
        rfl
    · cases inside

theorem primitive_part {value : Value} {type : Primitive} (occurs : value ∈ values) (typed : primitive? value = some type)
    (other : type ≠ .string) : primitiveType type ∈ partsOf indentation maxKeysPerObject values .simple := by
  refine List.mem_map_of_mem (List.mem_filter.mpr ⟨?_, by simpa using other⟩)
  rw [describe_primitives, mem_firstSeen, List.map_id]
  exact List.mem_filterMap.mpr ⟨value, occurs, typed⟩

theorem part_exists {value : Value} (occurs : value ∈ values) : partsOf indentation maxKeysPerObject values value.kind ≠ [] := by
  have found : ∀ {β : Type} {part : Value → Option β} {one : β}, part value = some one → values.filterMap part ≠ [] := by
    intro β part one is
    exact List.ne_nil_of_mem (List.mem_filterMap.mpr ⟨value, occurs, is⟩)
  cases value with
  | null => exact List.ne_nil_of_mem (primitive_part occurs rfl (by simp))
  | bool => exact List.ne_nil_of_mem (primitive_part occurs rfl (by simp))
  | number => exact List.ne_nil_of_mem (primitive_part occurs rfl (by simp))
  | string text =>
    have flag := (describe_hasString values).mpr (found rfl)
    simp only [Value.kind, partsOf, stringParts, flag, if_true]
    split
    next uses =>
      simp only [usesLiterals, Bool.and_eq_true, decide_eq_true_eq] at uses
      simpa using List.length_pos_iff.mp uses.1
    next => simp
  | array items =>
    have flag := (describe_isArray values).mpr (found rfl)
    simp only [Value.kind, partsOf, arrayParts, flag, if_true]
    split
    all_goals simp
  | object fields =>
    have flag := (describe_isObject values).mpr (found rfl)
    simp only [Value.kind, partsOf, objectParts, flag, if_true]
    split
    all_goals simp

theorem sound_iff_kinds : Sound indentation maxKeysPerObject values ↔ ∀ kind, SoundFor indentation maxKeysPerObject values kind := by
  constructor
  · intro ⟨wellFormed, typed⟩ kind
    rw [typeOfAll_eq, wellFormed_oneOf] at wellFormed
    refine ⟨fun part inside => wellFormed part (mem_allParts.mpr ⟨kind, inside⟩), ?_⟩
    intro value occurs same
    have nonempty : allParts indentation maxKeysPerObject values ≠ [] := by
      obtain ⟨part, inside⟩ := List.exists_mem_of_ne_nil _ (@part_exists indentation maxKeysPerObject values value occurs)
      exact List.ne_nil_of_mem (mem_allParts.mpr ⟨_, inside⟩)
    have member := typed value occurs
    rw [typeOfAll_eq, member_oneOf nonempty] at member
    obtain ⟨part, inside, member⟩ := member
    obtain ⟨other, ofKind⟩ := mem_allParts.mp inside
    have found := DataType.member_kind member (part_kind ofKind)
    rw [same] at found
    subst found
    exact ⟨part, ofKind, member⟩
  · intro each
    refine ⟨?_, ?_⟩
    · rw [typeOfAll_eq, wellFormed_oneOf]
      intro part inside
      obtain ⟨kind, ofKind⟩ := mem_allParts.mp inside
      exact (each kind).wellFormed part ofKind
    · intro value occurs
      obtain ⟨part, ofKind, member⟩ := (each value.kind).typed value occurs rfl
      have inside := mem_allParts.mpr ⟨_, ofKind⟩
      rw [typeOfAll_eq, member_oneOf (List.ne_nil_of_mem inside)]
      exact ⟨part, inside, member⟩

end

end K8Sense.Frontend.InferTypes
