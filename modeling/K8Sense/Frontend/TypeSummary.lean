import Mathlib.Algebra.GroupWithZero.Nat
import K8Sense.Frontend.InferTypes

/-! What a node holds after the values of a field have been aggregated: a summary of the
values, whose nested nodes are summaries of the values one level below. -/

namespace K8Sense.Frontend.InferTypes
open DataTypes Grouping Keyed

/-- The node of a field with these values, apart from the count of its parent. -/
def describe (values : List Value) : TypeInfoNode :=
  values.foldl (fun node value => aggregateTypeInfo value node 0) createTypeInfoNode

theorem describe_append (values : List Value) (value : Value) :
    describe (values ++ [value]) = aggregateTypeInfo value (describe values) 0 := by
  rw [describe, List.foldl_append]
  rfl

theorem aggregate_inParent (value : Value) (node : TypeInfoNode) (old new : Nat) :
    aggregateTypeInfo value (node.inParent old) new = (aggregateTypeInfo value node 0).inParent new := by
  cases value
  all_goals rfl

theorem aggregateElements_inParent (items : List Value) (node : TypeInfoNode) (old count new : Nat) :
    (aggregateElements items (node.inParent old) count).inParent new =
      (items.foldl (fun node value => aggregateTypeInfo value node 0) node).inParent new := by
  induction items generalizing node old with
  | nil => rfl
  | cons item rest ih =>
    rw [aggregateElements, aggregate_inParent, ih, List.foldl_cons]

theorem describe_field {σ β : Type} (field : TypeInfoNode → σ) (part : Value → Option β) (step : σ → β → σ)
    (each : ∀ value node, field (aggregateTypeInfo value node 0) = (part value).elim (field node) (step (field node)))
    (values : List Value) : field (describe values) = (values.filterMap part).foldl step (field createTypeInfoNode) := by
  induction values using List.reverseRecOn with
  | nil => rfl
  | append_singleton values value ih =>
    rw [describe_append, each, ih, List.filterMap_append, List.foldl_append, List.filterMap_cons]
    cases part value
    all_goals rfl

theorem aggregate_presence (value : Value) (node : TypeInfoNode) (count : Nat) :
    (aggregateTypeInfo value node count).presenceCount = node.presenceCount + 1 := by
  cases value
  all_goals rfl

theorem describe_presence (values : List Value) : (describe values).presenceCount = values.length := by
  induction values using List.reverseRecOn with
  | nil => rfl
  | append_singleton values value ih => rw [describe_append, aggregate_presence, ih, List.length_append, List.length_singleton]

/-- The primitive type of a value. -/
def primitive? : Value → Option Primitive
  | .null => some .null
  | .bool _ => some .boolean
  | .number _ => some .number
  | .string _ => some .string
  | _ => none

theorem describe_primitives (values : List Value) :
    (describe values).primitiveTypes = firstSeen id (values.filterMap primitive?) := by
  apply describe_field TypeInfoNode.primitiveTypes
  intro value node
  cases value
  all_goals rfl

/-- The literals that are left of some texts. -/
def heldLiterals (texts : List Text) : List Text := texts.foldl TypeInfoNode.holdLiteral []

def texts (values : List Value) : List Text := values.filterMap Value.text?

theorem describe_literals (values : List Value) : (describe values).stringLiterals = heldLiterals (texts values) := by
  apply describe_field TypeInfoNode.stringLiterals
  intro value node
  cases value
  all_goals rfl

theorem describe_flag {β : Type} (flag : TypeInfoNode → Bool) (part : Value → Option β) (unset : flag createTypeInfoNode = false)
    (each : ∀ value node, flag (aggregateTypeInfo value node 0) = (part value).elim (flag node) fun _ => true)
    (values : List Value) : flag (describe values) = true ↔ values.filterMap part ≠ [] := by
  have stays : ∀ parts : List β, parts.foldl (fun _ _ => true) true = true := by
    intro parts
    induction parts with
    | nil => rfl
    | cons part rest ih => exact ih
  rw [describe_field flag part (fun _ _ => true) each, unset]
  cases values.filterMap part with
  | nil => simp
  | cons part rest => simp [stays]

theorem describe_hasString (values : List Value) : (describe values).hasStringType = true ↔ texts values ≠ [] := by
  apply describe_flag TypeInfoNode.hasStringType _ rfl
  intro value node
  cases value
  all_goals rfl

/-! Arrays. -/

def arrays (values : List Value) : List (List Value) := values.filterMap Value.items?

/-- The items of the arrays among the values. -/
def itemsOf (values : List Value) : List Value := (arrays values).flatten

theorem describe_isArray (values : List Value) : (describe values).isArray = true ↔ arrays values ≠ [] := by
  apply describe_flag TypeInfoNode.isArray _ rfl
  intro value node
  cases value
  all_goals rfl

theorem inParent_self (node : TypeInfoNode) : node.inParent node.parentObjectCount = node := by
  cases node
  rfl

theorem inParent_inParent (node : TypeInfoNode) (old new : Nat) : (node.inParent old).inParent new = node.inParent new := rfl

theorem describe_inParent (values : List Value) : (describe values).inParent 0 = describe values := by
  induction values using List.reverseRecOn with
  | nil => rfl
  | append_singleton values value ih =>
    rw [describe_append]
    cases value
    all_goals rfl

theorem describe_more (values more : List Value) :
    more.foldl (fun node value => aggregateTypeInfo value node 0) (describe values) = describe (values ++ more) := by
  rw [describe, describe, List.foldl_append]

theorem aggregateElements_describe {node : TypeInfoNode} {values : List Value} (summary : node.inParent 0 = describe values)
    (items : List Value) (count : Nat) : (aggregateElements items node count).inParent 0 = describe (values ++ items) := by
  have same : node = (describe values).inParent node.parentObjectCount := by rw [← summary, inParent_inParent, inParent_self]
  rw [same, aggregateElements_inParent, describe_more, describe_inParent]

theorem describe_element (values : List Value) :
    (describe values).arrayElementInfo.map (TypeInfoNode.inParent 0) =
      if arrays values = [] then none else some (describe (itemsOf values)) := by
  induction values using List.reverseRecOn with
  | nil => rfl
  | append_singleton values value ih =>
    rw [describe_append]
    cases itemsFound : value.items? with
    | none =>
      have same : arrays (values ++ [value]) = arrays values := by simp [arrays, itemsFound]
      rw [itemsOf, same, ← itemsOf, ← ih]
      cases value
      case array => cases itemsFound
      all_goals rfl
    | some items =>
      have more : arrays (values ++ [value]) = arrays values ++ [items] := by simp [arrays, itemsFound]
      have flat : itemsOf (values ++ [value]) = itemsOf values ++ items := by simp [itemsOf, more]
      rw [more, flat, if_neg (by simp)]
      cases value
      case array =>
        cases itemsFound
        have summary : ((describe values).arrayElementInfo.getD createTypeInfoNode).inParent 0 = describe (itemsOf values) := by
          cases element : (describe values).arrayElementInfo with
          | none =>
            rw [element] at ih
            have none : arrays values = [] := by
              by_contra some
              rw [if_neg some] at ih
              cases ih
            rw [itemsOf, none]
            rfl
          | some node =>
            rw [element] at ih
            split at ih
            next => cases ih
            next => exact Option.some.inj ih
        exact congrArg some (aggregateElements_describe summary items _)
      all_goals cases itemsFound

/-! Objects. -/

def objects (values : List Value) : List (List (Text × Value)) := values.filterMap Value.fields?

/-- The fields of the objects among the values. -/
def entriesOf (values : List Value) : List (Text × Value) := (objects values).flatten

def valuesOf (key : Text) (entries : List (Text × Value)) : List Value := (entries.filter (·.1 = key)).map Prod.snd

/-- The keys of the objects among the values, each once. -/
def keysOf (values : List Value) : List Text := firstSeen Prod.fst (entriesOf values)

/-- What the objects among the values have for a key. -/
def valuesAt (key : Text) (values : List Value) : List Value := valuesOf key (entriesOf values)

theorem describe_isObject (values : List Value) : (describe values).isObject = true ↔ objects values ≠ [] := by
  apply describe_flag TypeInfoNode.isObject _ rfl
  intro value node
  cases value
  all_goals rfl

def withoutParent (row : Text × TypeInfoNode) : Text × TypeInfoNode := (row.1, row.2.inParent 0)

/-- The nodes of the keys of some entries. -/
def describeEntries (entries : List (Text × Value)) : List (Text × TypeInfoNode) :=
  (firstSeen Prod.fst entries).map fun key => (key, describe (valuesOf key entries))

theorem valuesOf_append (key : Text) (entries more : List (Text × Value)) :
    valuesOf key (entries ++ more) = valuesOf key entries ++ valuesOf key more := by
  rw [valuesOf, List.filter_append, List.map_append]
  rfl

theorem valuesOf_single (key other : Text) (value : Value) : valuesOf other [(key, value)] = if key = other then [value] else [] := by
  rw [valuesOf, List.filter_cons]
  by_cases same : key = other <;> simp [same]

theorem valuesOf_absent {key : Text} {entries : List (Text × Value)} (absent : key ∉ firstSeen Prod.fst entries) :
    valuesOf key entries = [] := by
  rw [mem_firstSeen] at absent
  rw [valuesOf, List.filter_eq_nil_iff.mpr, List.map_nil]
  intro entry inside
  simpa using fun same => absent (List.mem_map.mpr ⟨entry, inside, same⟩)

theorem aggregate_withoutParent (value : Value) (node : TypeInfoNode) (count : Nat) :
    (aggregateTypeInfo value node count).inParent 0 = aggregateTypeInfo value (node.inParent 0) 0 := by
  cases value
  all_goals rfl

theorem firstSeen_append (entries : List (Text × Value)) (entry : Text × Value) :
    firstSeen Prod.fst (entries ++ [entry]) = note (firstSeen Prod.fst entries) entry.1 := by
  rw [firstSeen, List.foldl_append]
  rfl

theorem keys_of_summary {rows : List (Text × TypeInfoNode)} {entries : List (Text × Value)}
    (summary : rows.map withoutParent = describeEntries entries) : rows.map Prod.fst = firstSeen Prod.fst entries := by
  have mapped := congrArg (List.map Prod.fst) summary
  simpa [describeEntries, withoutParent, Function.comp_def] using mapped

theorem node_of_summary {rows : List (Text × TypeInfoNode)} {entries : List (Text × Value)}
    (summary : rows.map withoutParent = describeEntries entries) {row : Text × TypeInfoNode} (inside : row ∈ rows) :
    row.2.inParent 0 = describe (valuesOf row.1 entries) := by
  have mapped := List.mem_map_of_mem inside (f := withoutParent)
  rw [summary] at mapped
  obtain ⟨key, _, same⟩ := List.mem_map.mp mapped
  have named : key = row.1 := congrArg Prod.fst same
  subst named
  exact (congrArg Prod.snd same).symm

theorem upsert_describe {rows : List (Text × TypeInfoNode)} {entries : List (Text × Value)}
    (summary : rows.map withoutParent = describeEntries entries) (key : Text) (value : Value) (count : Nat) :
    (upsert key (aggregateTypeInfo value createTypeInfoNode count) (fun node => aggregateTypeInfo value node count) rows).map withoutParent =
      describeEntries (entries ++ [(key, value)]) := by
  have there : (rows.any fun row => decide (row.1 = key)) = true ↔ key ∈ firstSeen Prod.fst entries := by
    rw [← keys_of_summary summary]
    simp
  rw [describeEntries, firstSeen_append, upsert, note]
  by_cases present : key ∈ firstSeen Prod.fst entries
  · let one : Text × TypeInfoNode → Text × TypeInfoNode := fun row => if row.1 = key then (row.1, aggregateTypeInfo value row.2 0) else row
    have updated : ∀ row ∈ rows,
        (withoutParent ∘ fun row => if row.1 = key then (row.1, aggregateTypeInfo value row.2 count) else row) row = (one ∘ withoutParent) row := by
      intro row _
      rw [Function.comp_apply, Function.comp_apply]
      by_cases same : row.1 = key
      · rw [if_pos same, withoutParent, aggregate_withoutParent]
        exact (if_pos same).symm
      · rw [if_neg same]
        exact (if_neg same).symm
    rw [if_pos (there.mpr present), if_pos present, List.map_map, List.map_congr_left updated, ← List.map_map, summary, describeEntries,
      List.map_map]
    apply List.map_congr_left
    intro other _
    rw [valuesOf_append, valuesOf_single]
    by_cases same : key = other
    · rw [if_pos same, describe_append]
      exact if_pos same.symm
    · rw [if_neg same, List.append_nil]
      exact if_neg (Ne.symm same)
  · rw [if_neg (mt there.mp present), if_neg present, List.map_append, List.map_append, summary, describeEntries]
    congr 1
    · apply List.map_congr_left
      intro other inside
      have different : key ≠ other := fun same => present (same ▸ inside)
      rw [valuesOf_append, valuesOf_single, if_neg different, List.append_nil]
    · rw [List.map_singleton, List.map_singleton, valuesOf_append, valuesOf_single, if_pos rfl, valuesOf_absent present, List.nil_append,
        withoutParent, aggregate_withoutParent]
      rfl

theorem aggregateFields_describe {rows : List (Text × TypeInfoNode)} {entries : List (Text × Value)}
    (summary : rows.map withoutParent = describeEntries entries) (fields : List (Text × Value)) (count : Nat) :
    (aggregateFields fields rows count).map withoutParent = describeEntries (entries ++ fields) := by
  induction fields generalizing rows entries with
  | nil => rw [aggregateFields, summary, List.append_nil]
  | cons field rest ih =>
    rw [aggregateFields, ih (upsert_describe summary field.1 field.2 count), List.append_assoc]
    rfl

theorem countMissing_withoutParent (currentKeys : List Text) (node : TypeInfoNode) :
    (node.countMissing currentKeys).objectProperties.map withoutParent = node.objectProperties.map withoutParent := by
  rw [TypeInfoNode.countMissing, List.map_map]
  apply List.map_congr_left
  intro row _
  rw [Function.comp_apply]
  split
  all_goals rfl

theorem describe_properties (values : List Value) :
    (describe values).objectProperties.map withoutParent = describeEntries (entriesOf values) := by
  induction values using List.reverseRecOn with
  | nil => rfl
  | append_singleton values value ih =>
    rw [describe_append]
    cases found : value.fields? with
    | none =>
      have same : entriesOf (values ++ [value]) = entriesOf values := by simp [entriesOf, objects, found]
      rw [same, ← ih]
      cases value
      case object => cases found
      all_goals rfl
    | some fields =>
      have more : entriesOf (values ++ [value]) = entriesOf values ++ fields := by simp [entriesOf, objects, found]
      rw [more]
      cases value
      case object =>
        cases found
        rw [aggregateTypeInfo, countMissing_withoutParent]
        exact aggregateFields_describe ih fields _
      all_goals cases found

theorem properties_keys (values : List Value) : (describe values).objectProperties.map Prod.fst = keysOf values :=
  keys_of_summary (describe_properties values)

theorem properties_length (values : List Value) : (describe values).objectProperties.length = (keysOf values).length := by
  rw [← properties_keys, List.length_map]

theorem property_describe {values : List Value} {row : Text × TypeInfoNode} (inside : row ∈ (describe values).objectProperties) :
    row.2.inParent 0 = describe (valuesAt row.1 values) := node_of_summary (describe_properties values) inside

theorem mem_keysOf {key : Text} {values : List Value} : key ∈ keysOf values ↔ ∃ fields ∈ objects values, key ∈ keys fields := by
  rw [keysOf, mem_firstSeen, entriesOf, List.map_flatten, List.mem_flatten]
  simp [keys]

/-! How often a key is present. -/

theorem present_parent {value : Value} {node : TypeInfoNode} {count : Nat} :
    (aggregateTypeInfo value node count).parentObjectCount = count := by
  cases value
  all_goals rfl

theorem aggregateFields_parent {rows : List (Text × TypeInfoNode)} {done : List Text} {count : Nat}
    (counted : ∀ row ∈ rows, row.1 ∈ done → row.2.parentObjectCount = count) (fields : List (Text × Value)) :
    ∀ row ∈ aggregateFields fields rows count, row.1 ∈ done ++ keys fields → row.2.parentObjectCount = count := by
  induction fields generalizing rows done with
  | nil =>
    intro row inside listed
    exact counted row inside (by simpa [keys] using listed)
  | cons field rest ih =>
    intro row inside listed
    have sooner : row.1 ∈ (done ++ [field.1]) ++ keys rest := by simpa [keys] using listed
    refine ih ?_ row inside sooner
    intro row inside listed
    rcases mem_upsert_cases inside with ⟨old, other⟩ | rfl | ⟨node, _, rfl⟩
    · refine counted row old ?_
      rcases List.mem_append.mp listed with earlier | this
      · exact earlier
      · exact absurd (List.mem_singleton.mp this) other
    · exact present_parent
    · exact present_parent

theorem describe_parents (values : List Value) :
    ∀ row ∈ (describe values).objectProperties, (objects values).length ≤ row.2.parentObjectCount := by
  induction values using List.reverseRecOn with
  | nil =>
    intro row inside
    cases inside
  | append_singleton values value ih =>
    rw [describe_append]
    cases found : value.fields? with
    | none =>
      have same : objects (values ++ [value]) = objects values := by simp [objects, found]
      rw [same]
      cases value
      case object => cases found
      all_goals exact ih
    | some fields =>
      have bound : (objects (values ++ [value])).length ≤ (describe values).presenceCount + 1 := by
        rw [describe_presence, ← List.length_singleton (a := value), ← List.length_append]
        exact List.length_filterMap_le Value.fields? (values ++ [value])
      cases value
      case object =>
        cases found
        intro row inside
        obtain ⟨old, oldInside, rfl⟩ := List.mem_map.mp inside
        split
        next current =>
          rw [@aggregateFields_parent _ [] _ (by simp) fields old oldInside (by simpa using current)]
          exact bound
        next => exact bound
      all_goals cases found

/-! Sizes. -/

noncomputable def weight (values : List Value) : Nat := (values.map sizeOf).sum

theorem sizeOf_pos (value : Value) : 0 < sizeOf value := by
  cases value
  all_goals
    simp only [Value.null.sizeOf_spec, Value.bool.sizeOf_spec, Value.number.sizeOf_spec, Value.string.sizeOf_spec, Value.array.sizeOf_spec,
      Value.object.sizeOf_spec]
    omega

theorem weight_lt (values : List Value) : weight values < sizeOf values := by
  induction values with
  | nil => simp [weight]
  | cons value rest ih =>
    simp only [weight, List.map_cons, List.sum_cons, List.cons.sizeOf_spec] at ih ⊢
    omega

theorem weight_append (values more : List Value) : weight (values ++ more) = weight values + weight more := by
  rw [weight, List.map_append, List.sum_append]
  rfl

theorem weight_valuesOf (key : Text) (fields : List (Text × Value)) : weight (valuesOf key fields) < sizeOf fields := by
  induction fields with
  | nil => simp [weight, valuesOf]
  | cons field rest ih =>
    obtain ⟨name, value⟩ := field
    rw [← List.singleton_append, valuesOf_append, weight_append, valuesOf_single]
    have one : weight (if name = key then [value] else []) ≤ sizeOf value := by
      split
      all_goals simp [weight]
    simp only [List.cons_append, List.nil_append, List.cons.sizeOf_spec, Prod.mk.sizeOf_spec]
    omega

theorem weight_flatMap {part : Value → List Value} (smaller : ∀ value, weight (part value) < sizeOf value) {values : List Value}
    (some : values ≠ []) : weight (values.flatMap part) < weight values := by
  have bound : ∀ values : List Value, weight (values.flatMap part) + values.length ≤ weight values := by
    intro values
    induction values with
    | nil => simp [weight]
    | cons value rest ih =>
      have one := smaller value
      have head : weight (value :: rest) = sizeOf value + weight rest := rfl
      rw [List.flatMap_cons, weight_append, List.length_cons, head]
      omega
  have whole := bound values
  have positive := List.length_pos_iff.mpr some
  omega

theorem flatten_filterMap {β : Type} (part : Value → Option (List β)) (values : List Value) :
    (values.filterMap part).flatten = values.flatMap fun value => (part value).getD [] := by
  induction values with
  | nil => rfl
  | cons value rest ih =>
    rw [List.filterMap_cons, List.flatMap_cons, ← ih]
    cases part value
    all_goals rfl

theorem weight_itemsOf {values : List Value} (some : values ≠ []) : weight (itemsOf values) < weight values := by
  rw [itemsOf, arrays, flatten_filterMap]
  refine weight_flatMap ?_ some
  intro value
  cases value
  case array items =>
    have bound := weight_lt items
    simp only [Value.items?, Option.getD_some, Value.array.sizeOf_spec]
    omega
  all_goals exact sizeOf_pos _

theorem valuesAt_eq (key : Text) (values : List Value) :
    valuesAt key values = values.flatMap fun value => valuesOf key (value.fields?.getD []) := by
  rw [valuesAt, entriesOf, objects, flatten_filterMap]
  induction values with
  | nil => rfl
  | cons value rest ih => rw [List.flatMap_cons, valuesOf_append, ih, List.flatMap_cons]

theorem weight_valuesAt (key : Text) {values : List Value} (some : values ≠ []) : weight (valuesAt key values) < weight values := by
  rw [valuesAt_eq]
  refine weight_flatMap ?_ some
  intro value
  cases value
  case object fields =>
    have bound := weight_valuesOf key fields
    simp only [Value.fields?, Option.getD_some, Value.object.sizeOf_spec]
    omega
  all_goals exact sizeOf_pos _

end K8Sense.Frontend.InferTypes
