import K8Sense.Library.Ranked
import K8Sense.Kubeconfig.Rename

/-! The names that contexts are known by: which of them lead back to their context, and
which new names leave them apart. -/

namespace K8Sense.Kubeconfig.Rename

/-- No two contexts are known by one name. -/
def Distinct (config : Config) (order : List String) : Prop :=
  ∀ key ∈ order, ∀ other ∈ order, nameOf config key = nameOf config other → key = other

/-- The name of each context leads back to it. -/
def Invertible (config : Config) (order : List String) : Prop :=
  ∀ key ∈ order, findMatchingContextName config order (nameOf config key) = key

/-- Of the contexts with this DNS-friendly form, this is the one that the lookup takes. -/
structure Preferred (order : List String) (key : String) : Prop where
  absent : makeDNSFriendly key ∉ order
  first : ∀ other ∈ order, makeDNSFriendly other = makeDNSFriendly key → key ≤ other

section
variable {config : Config} {order : List String} {key : String}

theorem nameOf_custom {name : String} (custom : customNameOf config key = some name) : nameOf config key = name := by
  rw [nameOf, custom, Option.getD_some]

theorem nameOf_plain (plain : customNameOf config key = none) : nameOf config key = makeDNSFriendly key := by
  rw [nameOf, plain, Option.getD_none]

theorem find_custom (distinct : Distinct config order) (member : key ∈ order) {name : String}
    (custom : customNameOf config key = some name) : findMatchingContextName config order (nameOf config key) = key := by
  rw [nameOf_custom custom]
  unfold findMatchingContextName
  cases found : order.find? fun key => customNameOf config key = some name with
  | none =>
    have none := List.find?_eq_none.mp found key member
    simp [custom] at none
  | some other =>
    have named : customNameOf config other = some name := by simpa using List.find?_some found
    exact distinct other (List.mem_of_find?_eq_some found) key member
      ((nameOf_custom named).trans (nameOf_custom custom).symm)

theorem head_names {names : List String} (member : key ∈ names) :
    (names.mergeSort fun first second => decide (first ≤ second)).head? = some key ↔ ∀ other ∈ names, key ≤ other := by
  have least {name : String} (first : (names.mergeSort fun first second => decide (first ≤ second)).head? = some name) :
      name ∈ names ∧ ∀ other ∈ names, name ≤ other := by
    refine Ranked.head_sorted ?_ ?_ first
    · exact fun _ _ _ => String.le_trans
    · exact String.le_total
  constructor
  · intro first
    exact (least first).2
  · intro below
    cases first : (names.mergeSort fun first second => decide (first ≤ second)).head? with
    | none =>
      have empty := List.mergeSort_perm names fun first second => decide (first ≤ second)
      rw [List.head?_eq_none_iff.mp first] at empty
      rw [← empty.nil_eq] at member
      cases member
    | some name =>
      obtain ⟨inside, others⟩ := least first
      rw [String.le_antisymm (others key member) (below name inside)]

/-- A DNS-friendly form leads back to its context if it is that of this context as it
stands, or this context is preferred. -/
theorem find_plain (enumerates : Enumerates order config.contexts) (distinct : Distinct config order) (member : key ∈ order)
    (plain : customNameOf config key = none) : findMatchingContextName config order (nameOf config key) = key ↔
      makeDNSFriendly key = key ∨ Preferred order key := by
  rw [nameOf_plain plain]
  unfold findMatchingContextName
  have free : order.find? (fun other => customNameOf config other = some (makeDNSFriendly key)) = none := by
    rw [List.find?_eq_none]
    intro other present named
    have custom : customNameOf config other = some (makeDNSFriendly key) := by simpa using named
    obtain rfl := distinct other present key member ((nameOf_custom custom).trans (nameOf_plain plain).symm)
    simp [plain] at custom
  rw [free]
  have listed : (config.contexts (makeDNSFriendly key)).isSome = true ↔ makeDNSFriendly key ∈ order := by
    rw [enumerates.mem, Option.isSome_iff_ne_none]
  by_cases taken : makeDNSFriendly key ∈ order
  · simp only [listed.mpr taken, if_true]
    constructor
    · exact Or.inl
    · rintro (same | preferred)
      · exact same
      · exact absurd taken preferred.absent
  · have untaken : (config.contexts (makeDNSFriendly key)).isSome = false := by
      rw [Bool.eq_false_iff]
      exact mt listed.mp taken
    have inside : key ∈ order.filter fun other => makeDNSFriendly other = makeDNSFriendly key :=
      List.mem_filter.mpr ⟨member, by simp⟩
    have moved : makeDNSFriendly key ≠ key := by
      intro same
      rw [same] at taken
      exact taken member
    simp only [untaken, Bool.false_eq_true, if_false, moved, false_or]
    have chosen : (((order.filter fun other => makeDNSFriendly other = makeDNSFriendly key).mergeSort fun first second =>
        decide (first ≤ second)).head?.getD (makeDNSFriendly key) = key) ↔
        ((order.filter fun other => makeDNSFriendly other = makeDNSFriendly key).mergeSort fun first second =>
          decide (first ≤ second)).head? = some key := by
      cases (List.mergeSort _ _).head? with
      | none => simp [moved]
      | some first => simp
    rw [chosen, head_names inside]
    constructor
    · intro first
      refine ⟨taken, ?_⟩
      intro other present same
      exact first other (List.mem_filter.mpr ⟨present, by simpa using same⟩)
    · intro preferred other member
      obtain ⟨present, same⟩ := List.mem_filter.mp member
      exact preferred.first other present (by simpa using same)

theorem invertible_iff (enumerates : Enumerates order config.contexts) (distinct : Distinct config order) :
    Invertible config order ↔
      ∀ key ∈ order, customNameOf config key = none → makeDNSFriendly key = key ∨ Preferred order key := by
  constructor
  · intro invertible key member plain
    exact (find_plain enumerates distinct member plain).mp (invertible key member)
  · intro condition key member
    cases custom : customNameOf config key with
    | none => exact (find_plain enumerates distinct member custom).mpr (condition key member custom)
    | some name => exact find_custom distinct member custom

variable {contextName newName : String}

theorem customNameOf_set (present : config.contexts contextName ≠ none) : customNameOf (setCustomName config contextName newName) key =
    if key = contextName then (if newName = "" then none else some newName) else customNameOf config key := by
  unfold customNameOf setCustomName
  by_cases same : key = contextName
  · subst same
    obtain ⟨context, is⟩ := Option.ne_none_iff_exists'.mp present
    simp [is]
  · simp [same]

/-- The name that a context is known by after it has been given a new one. -/
def renamed (contextName newName : String) : String := if newName = "" then makeDNSFriendly contextName else newName

theorem nameOf_set (present : config.contexts contextName ≠ none) : nameOf (setCustomName config contextName newName) key =
    if key = contextName then renamed contextName newName else nameOf config key := by
  unfold nameOf
  rw [customNameOf_set present]
  unfold renamed
  by_cases same : key = contextName
  · subst same
    by_cases empty : newName = "" <;> simp [empty]
  · simp [same]

theorem distinct_set (distinct : Distinct config order) (member : contextName ∈ order) (present : config.contexts contextName ≠ none) :
    Distinct (setCustomName config contextName newName) order ↔
      ∀ other ∈ order, other ≠ contextName → nameOf config other ≠ renamed contextName newName := by
  constructor
  · intro after other inside different same
    apply different
    apply after other inside contextName member
    rw [nameOf_set present, nameOf_set present, if_neg different, if_pos rfl, same]
  · intro apart key inside other there same
    rw [nameOf_set present, nameOf_set present] at same
    by_cases first : key = contextName
    · by_cases second : other = contextName
      · rw [first, second]
      · rw [if_pos first, if_neg second] at same
        exact absurd same.symm (apart other there second)
    · by_cases second : other = contextName
      · rw [if_neg first, if_pos second] at same
        exact absurd same (apart key inside first)
      · rw [if_neg first, if_neg second] at same
        exact distinct key inside other there same

theorem accepted_free (accepted : checkUniqueName config order newName = true) (member : key ∈ order) :
    customNameOf config key ≠ some newName := by
  intro custom
  unfold checkUniqueName at accepted
  have listed : newName ∈ order ++ order.filterMap (customNameOf config) :=
    List.mem_append_right _ (List.mem_filterMap.mpr ⟨key, member, custom⟩)
  simp [listed] at accepted

/-- The new name is not the DNS-friendly form of another context that has no custom
name; a context that loses its custom name must find its own form free. -/
structure Free (config : Config) (order : List String) (contextName newName : String) : Prop where
  form : newName ≠ "" → ∀ other ∈ order, other ≠ contextName → customNameOf config other = none → makeDNSFriendly other ≠ newName
  reset : newName = "" → ∀ other ∈ order, other ≠ contextName → nameOf config other ≠ makeDNSFriendly contextName

theorem free_iff (accepted : checkUniqueName config order newName = true) : Free config order contextName newName ↔
    ∀ other ∈ order, other ≠ contextName → nameOf config other ≠ renamed contextName newName := by
  unfold renamed
  constructor
  · intro free other member different
    by_cases empty : newName = ""
    · rw [if_pos empty]
      exact free.reset empty other member different
    · rw [if_neg empty]
      cases custom : customNameOf config other with
      | none =>
        rw [nameOf_plain custom]
        exact free.form empty other member different custom
      | some name =>
        rw [nameOf_custom custom]
        rintro rfl
        exact accepted_free accepted member custom
  · intro apart
    refine ⟨?_, ?_⟩
    · intro given other member different plain
      have other := apart other member different
      rwa [if_neg given, nameOf_plain plain] at other
    · intro empty other member different
      have other := apart other member different
      rwa [if_pos empty] at other

end

/-- Names lead back to their contexts exactly if each context without a custom name is
preferred for its DNS-friendly form, and an accepted new name leaves the names distinct
exactly if it is free also of DNS-friendly forms. -/
theorem names_iff {config : Config} {order : List String} (enumerates : Enumerates order config.contexts)
    (distinct : Distinct config order) :
    (Invertible config order ↔
      ∀ key ∈ order, customNameOf config key = none → makeDNSFriendly key = key ∨ Preferred order key) ∧
    ∀ contextName ∈ order, ∀ newName, checkUniqueName config order newName = true →
      (Distinct (setCustomName config contextName newName) order ↔ Free config order contextName newName) := by
  refine ⟨invertible_iff enumerates distinct, ?_⟩
  intro contextName member newName accepted
  rw [distinct_set distinct member ((enumerates.mem contextName).mp member), free_iff accepted]

/-- A file with two contexts, of which the second has a custom name or none. -/
private def twoContexts (first second : String) (custom : Option CustomObject) : Config where
  contexts key := if key = first then some ⟨"cluster", "user", none⟩ else if key = second then some ⟨"cluster", "user", custom⟩ else none
  clusters _ := none
  authInfos _ := none

private theorem twoContexts_order {first second : String} {custom : Option CustomObject} (different : first ≠ second) :
    Enumerates [first, second] (twoContexts first second custom).contexts := by
  refine ⟨by simpa using different, ?_⟩
  intro key
  unfold twoContexts
  by_cases isFirst : key = first
  · simp [isFirst]
  · by_cases isSecond : key = second <;> simp [isFirst, isSecond, different.symm]

theorem plain_names_kept : Invertible (twoContexts "prod" "dev/eu" none) ["prod", "dev/eu"] ∧
    Distinct (setCustomName (twoContexts "prod" "dev/eu" none) "prod" "live") ["prod", "dev/eu"] := by
  have exactly := names_iff (twoContexts_order (by decide)) (show Distinct (twoContexts "prod" "dev/eu" none) ["prod", "dev/eu"] by
    unfold Distinct; decide)
  refine ⟨exactly.1.mpr ?_, (exactly.2 "prod" (by decide) "live" (by decide)).mpr ⟨?_, ?_⟩⟩
  · intro key member _
    rcases List.mem_pair.mp member with rfl | rfl
    · exact Or.inl (by decide)
    · exact Or.inr ⟨by decide, by decide⟩
  · decide
  · decide

/-- The DNS-friendly form of a context leads to another one, which is known by a custom
name; and a context can be given the DNS-friendly form of another. -/
theorem friendly_name_taken :
    (Distinct (twoContexts "a/b" "a--b" (some (.custom "other"))) ["a/b", "a--b"] ∧
      findMatchingContextName (twoContexts "a/b" "a--b" (some (.custom "other"))) ["a/b", "a--b"]
        (nameOf (twoContexts "a/b" "a--b" (some (.custom "other"))) "a/b") = "a--b") ∧
    (Distinct (twoContexts "a/b" "c" none) ["a/b", "c"] ∧
      checkUniqueName (twoContexts "a/b" "c" none) ["a/b", "c"] "a--b" = true ∧
        ¬Distinct (setCustomName (twoContexts "a/b" "c" none) "c" "a--b") ["a/b", "c"]) := by
  unfold Distinct
  decide

end K8Sense.Kubeconfig.Rename
