import Mathlib.Logic.Function.Basic
import Mathlib.Data.List.Nodup
import Mathlib.Data.List.Induction
import Mathlib.Order.Lattice

/-! Finite tables read through a function from keys to optional values, and the
loop that updates the values of a list of distinct keys one after another. -/

namespace K8Sense.Keyed

/-- The names under which every object of JavaScript inherits a member: an object
is a table of its own keys for the other names only. -/
def inherited : List String := ["constructor", "__defineGetter__", "__defineSetter__", "hasOwnProperty", "__lookupGetter__",
  "__lookupSetter__", "isPrototypeOf", "propertyIsEnumerable", "toString", "valueOf", "__proto__", "toLocaleString"]

universe u v
variable {κ : Type u} [DecidableEq κ] {α β : Type v} {E : Type}

/-- Loop over the keys, replacing the value of each by what `body` returns.
A key without a value is passed over; the first error ends the loop. -/
def forEach (body : α → Except E α) : List κ → (κ → Option α) → Except E (κ → Option α)
  | [], table => .ok table
  | key :: rest, table =>
    match table key with
    | none => forEach body rest table
    | some value =>
      match body value with
      | .ok updated => forEach body rest (Function.update table key (some updated))
      | .error fault => .error fault

/-- The table with the values of the given keys replaced. -/
def mapAt (f : α → α) (keys : List κ) (table : κ → Option α) : κ → Option α :=
  fun key => if key ∈ keys then (table key).map f else table key

@[simp] theorem mapAt_nil (f : α → α) (table : κ → Option α) : mapAt f [] table = table := by
  funext key
  simp [mapAt]

theorem update_eq_some {table : κ → Option α} {key other : κ} {value found : α} :
    Function.update table key (some value) other = some found ↔
      other = key ∧ found = value ∨ other ≠ key ∧ table other = some found := by
  by_cases same : other = key
  · subst same
    simp [eq_comm]
  · simp [same]

theorem mapAt_eq_some {f : α → α} {keys : List κ} {table : κ → Option α} {key : κ} {value : α} :
    mapAt f keys table key = some value ↔
      ∃ before, table key = some before ∧ value = if key ∈ keys then f before else before := by
  unfold mapAt
  split
  · simp only [Option.map_eq_some_iff, eq_comm]
  · constructor
    · exact fun found => ⟨value, found, rfl⟩
    · rintro ⟨_, found, rfl⟩
      exact found

/-- When no iteration fails, a loop over distinct keys changes exactly those
keys, and each of them once. -/
theorem forEach_ok (body : α → Except E α) (result : α → α) {keys : List κ} {table : κ → Option α}
    (distinct : keys.Nodup)
    (succeeds : ∀ key ∈ keys, ∀ value, table key = some value → body value = .ok (result value)) :
    forEach body keys table = .ok (mapAt result keys table) := by
  induction keys generalizing table with
  | nil => simp [forEach]
  | cons first rest ih =>
    obtain ⟨fresh, distinct⟩ := List.nodup_cons.mp distinct
    cases found : table first with
    | none =>
      simp only [forEach, found]
      rw [ih distinct fun key member => succeeds key (List.mem_cons_of_mem _ member)]
      congr 1
      funext key
      by_cases same : key = first
      · subst same
        simp [mapAt, fresh, found]
      · simp [mapAt, same]
    | some value =>
      simp only [forEach, found, succeeds first List.mem_cons_self value found]
      rw [ih distinct]
      · congr 1
        funext key
        by_cases same : key = first
        · subst same
          simp [mapAt, fresh, found]
        · simp [mapAt, same]
      · intro key member held looked
        have other : key ≠ first := fun same => fresh (same ▸ member)
        rw [Function.update_of_ne other] at looked
        exact succeeds key (List.mem_cons_of_mem _ member) held looked

/-- Rewriting the rows of a table changes nothing exactly when it changes no row. -/
theorem map_unchanged {f : α → α} {rows : List α} : rows.map f = rows ↔ ∀ row ∈ rows, f row = row := by
  conv_lhs => rhs; rw [← List.map_id rows]
  exact List.map_inj_left

/-- The value of a key in a table of rows. -/
def lookup (key : κ) (rows : List (κ × α)) : Option α := (rows.find? fun row => row.1 = key).map Prod.snd

/-- Update the row of a key, or insert one. -/
def upsert (key : κ) (insert : α) (update : α → α) (rows : List (κ × α)) : List (κ × α) :=
  if rows.any fun row => row.1 = key then rows.map fun row => if row.1 = key then (row.1, update row.2) else row
  else rows ++ [(key, insert)]

def Unique (rows : List (κ × α)) : Prop := (rows.map Prod.fst).Nodup

theorem lookup_cons {key other : κ} {value : α} {rows : List (κ × α)} :
    lookup other ((key, value) :: rows) = if key = other then some value else lookup other rows := by
  unfold lookup
  by_cases same : key = other <;> simp [same]

theorem lookup_none {key : κ} {rows : List (κ × α)} : lookup key rows = none ↔ ∀ row ∈ rows, row.1 ≠ key := by
  simp [lookup]

theorem lookup_mem {key : κ} {value : α} {rows : List (κ × α)} (unique : Unique rows) (member : (key, value) ∈ rows) :
    lookup key rows = some value := by
  induction rows with
  | nil => cases member
  | cons row rest ih =>
    obtain ⟨fresh, distinct⟩ := List.nodup_cons.mp unique
    rw [lookup_cons]
    rcases List.mem_cons.mp member with rfl | inside
    · rw [if_pos rfl]
    · have other : row.1 ≠ key := by
        intro same
        exact fresh (List.mem_map.mpr ⟨_, inside, same.symm⟩)
      rw [if_neg other]
      exact ih distinct inside

theorem mem_of_lookup {key : κ} {value : α} {rows : List (κ × α)} (found : lookup key rows = some value) :
    (key, value) ∈ rows := by
  obtain ⟨row, sought, rfl⟩ := Option.map_eq_some_iff.mp found
  have named : row.1 = key := by simpa using List.find?_some sought
  rw [← named]
  exact List.mem_of_find?_eq_some sought

def erase (key : κ) (rows : List (κ × α)) : List (κ × α) := rows.filter fun row => row.1 ≠ key

theorem lookup_erase {key : κ} {rows : List (κ × α)} (other : κ) :
    lookup other (erase key rows) = if other = key then none else lookup other rows := by
  split
  next same =>
    rw [lookup_none]
    intro row member
    rw [same]
    simpa using (List.mem_filter.mp member).2
  next different =>
    induction rows with
    | nil => rfl
    | cons row rest ih =>
      unfold erase at ih ⊢
      by_cases named : row.1 = key
      · have skipped : row.1 ≠ other := fun same => different (same.symm.trans named)
        rw [List.filter_cons_of_neg (by simp [named]), ih, lookup_cons, if_neg skipped]
      · rw [List.filter_cons_of_pos (by simp [named]), lookup_cons, lookup_cons, ih]

theorem upsert_keys {key : κ} {insert : α} {update : α → α} {rows : List (κ × α)} :
    (upsert key insert update rows).map Prod.fst =
      if key ∈ rows.map Prod.fst then rows.map Prod.fst else rows.map Prod.fst ++ [key] := by
  have there : (rows.any fun row => decide (row.1 = key)) = true ↔ key ∈ rows.map Prod.fst := by simp
  unfold upsert
  by_cases found : key ∈ rows.map Prod.fst
  · rw [if_pos (there.mpr found), if_pos found, List.map_map]
    apply List.map_congr_left
    intro row _
    by_cases same : row.1 = key <;> simp [same]
  · rw [if_neg (mt there.mp found), if_neg found, List.map_append]
    rfl

theorem mem_upsert_keys {key other : κ} {insert : α} {update : α → α} {rows : List (κ × α)} :
    other ∈ (upsert key insert update rows).map Prod.fst ↔ other ∈ rows.map Prod.fst ∨ other = key := by
  rw [upsert_keys]
  split
  next present => exact ⟨.inl, fun either => either.elim id fun same => same ▸ present⟩
  next => simp

theorem mem_erase_keys {key other : κ} {rows : List (κ × α)} :
    other ∈ (erase key rows).map Prod.fst ↔ other ∈ rows.map Prod.fst ∧ other ≠ key := by
  simp only [erase, List.mem_map, List.mem_filter, decide_eq_true_eq]
  constructor
  · rintro ⟨row, ⟨member, different⟩, is⟩
    exact ⟨⟨row, member, is⟩, is ▸ different⟩
  · rintro ⟨⟨row, member, is⟩, different⟩
    exact ⟨row, ⟨member, is ▸ different⟩, is⟩

theorem unique_upsert {key : κ} {insert : α} {update : α → α} {rows : List (κ × α)} (unique : Unique rows) :
    Unique (upsert key insert update rows) := by
  unfold Unique
  rw [upsert_keys]
  split
  next => exact unique
  next absent =>
    rw [List.nodup_append]
    refine ⟨unique, List.nodup_singleton key, ?_⟩
    intro old inside new same
    cases List.mem_singleton.mp same
    rintro rfl
    exact absent inside

theorem mem_upsert_cases {key : κ} {insert : α} {update : α → α} {rows : List (κ × α)} {row : κ × α}
    (member : row ∈ upsert key insert update rows) :
    (row ∈ rows ∧ row.1 ≠ key) ∨ row = (key, insert) ∨ ∃ old, (key, old) ∈ rows ∧ row = (key, update old) := by
  unfold upsert at member
  split at member
  next =>
    obtain ⟨old, inside, rfl⟩ := List.mem_map.mp member
    split
    next same => exact Or.inr (Or.inr ⟨old.2, same ▸ inside, by rw [same]⟩)
    next other => exact Or.inl ⟨inside, other⟩
  next absent =>
    rcases List.mem_append.mp member with old | new
    · refine Or.inl ⟨old, fun same => absent (List.any_eq_true.mpr ⟨row, old, decide_eq_true same⟩)⟩
    · exact Or.inr (Or.inl (List.mem_singleton.mp new))

theorem mem_upsert {key : κ} {insert : α} {update : α → α} {rows : List (κ × α)} {row : κ × α}
    (member : row ∈ upsert key insert update rows) :
    row ∈ rows ∨ row = (key, insert) ∨ ∃ old, (key, old) ∈ rows ∧ row = (key, update old) :=
  (mem_upsert_cases member).imp_left And.left

theorem lookup_map {update : α → α} {key : κ} {rows : List (κ × α)} (other : κ) :
    lookup other (rows.map fun row => if row.1 = key then (row.1, update row.2) else row) =
      if other = key then (lookup key rows).map update else lookup other rows := by
  induction rows with
  | nil => split <;> rfl
  | cons row rest ih =>
    obtain ⟨name, value⟩ := row
    by_cases named : name = key
    · subst named
      by_cases same : other = name
      · subst same
        simp [lookup_cons]
      · simp only [List.map_cons, if_true, lookup_cons, Ne.symm same, if_false, ih, same]
    · by_cases same : other = key
      · subst same
        simp only [List.map_cons, named, if_false, lookup_cons, if_true, ih]
      · simp only [List.map_cons, named, if_false, lookup_cons, ih, same]

theorem lookup_append {key : κ} {rows more : List (κ × α)} :
    lookup key (rows ++ more) = (lookup key rows).or (lookup key more) := by
  unfold lookup
  rw [List.find?_append]
  cases rows.find? fun row => decide (row.1 = key) <;> rfl

/-- Of a table in which a key has one row at most, a part is read. -/
theorem lookup_filter {kept : α → Bool} {rows : List (κ × α)} (unique : Unique rows) (key : κ) :
    lookup key (rows.filter fun row => kept row.2) = (lookup key rows).filter kept := by
  apply Option.ext
  intro value
  have fewer : Unique (rows.filter fun row => kept row.2) := unique.sublist (List.filter_sublist.map _)
  constructor
  · intro found
    obtain ⟨inside, passes⟩ := List.mem_filter.mp (mem_of_lookup found)
    exact Option.filter_eq_some_iff.mpr ⟨lookup_mem unique inside, passes⟩
  · intro found
    obtain ⟨found, passes⟩ := Option.filter_eq_some_iff.mp found
    exact lookup_mem fewer (List.mem_filter.mpr ⟨mem_of_lookup found, passes⟩)

/-- What is read of a table in which one row was updated or inserted. -/
theorem lookup_upsert {key : κ} {insert : α} {update : α → α} {rows : List (κ × α)} (other : κ) :
    lookup other (upsert key insert update rows) =
      if other = key then some (((lookup key rows).map update).getD insert) else lookup other rows := by
  unfold upsert
  split
  next found =>
    rw [lookup_map]
    split
    next =>
      obtain ⟨row, inside, named⟩ := List.any_eq_true.mp found
      cases looked : lookup key rows with
      | none => exact absurd (of_decide_eq_true named) (lookup_none.mp looked row inside)
      | some value => rfl
    next => rfl
  next absent =>
    rw [lookup_append, lookup_cons]
    have none : lookup key rows = none := by
      rw [lookup_none]
      intro row inside named
      exact absent (List.any_eq_true.mpr ⟨row, inside, decide_eq_true named⟩)
    by_cases same : other = key
    · subst same
      simp [none]
    · rw [if_neg (Ne.symm same), if_neg same]
      cases lookup other rows <;> rfl

def writeAll (rows : List (κ × α)) (table : κ → Option α) : κ → Option α :=
  rows.foldl (fun table row => Function.update table row.1 (some row.2)) table

/-- Write the rows one after another, and delete one key before each. -/
def rewriteAll (old : κ) (rows : List (κ × α)) (table : κ → Option α) : κ → Option α :=
  rows.foldl (fun table row => Function.update (Function.update table old none) row.1 (some row.2)) table

theorem writeAll_apply (rows : List (κ × α)) (table : κ → Option α) (key : κ) :
    writeAll rows table key = (lookup key rows.reverse).or (table key) := by
  induction rows using List.reverseRecOn with
  | nil => rfl
  | append_singleton rows row ih =>
    obtain ⟨name, value⟩ := row
    unfold writeAll at ih ⊢
    rw [List.foldl_append, List.foldl_cons, List.foldl_nil, List.reverse_append, List.reverse_singleton,
      List.singleton_append, lookup_cons]
    by_cases same : name = key
    · subst same
      rw [Function.update_self, if_pos rfl]
      rfl
    · rw [Function.update_of_ne (Ne.symm same), if_neg same, ih]

theorem rewriteAll_other (old : κ) (rows : List (κ × α)) (table : κ → Option α) {key : κ} (other : key ≠ old) :
    rewriteAll old rows table key = (lookup key rows.reverse).or (table key) := by
  rw [← writeAll_apply]
  unfold rewriteAll writeAll
  induction rows using List.reverseRecOn with
  | nil => rfl
  | append_singleton rows row ih =>
    rw [List.foldl_append, List.foldl_append, List.foldl_cons, List.foldl_nil, List.foldl_cons, List.foldl_nil]
    by_cases same : key = row.1
    · rw [same, Function.update_self, Function.update_self]
    · rw [Function.update_of_ne same, Function.update_of_ne same, Function.update_of_ne other, ih]

/-- Of the deleted key only what is written last is left. -/
theorem rewriteAll_old (old : κ) {rows : List (κ × α)} {row : κ × α} (last : rows.getLast? = some row)
    (table : κ → Option α) : rewriteAll old rows table old = if row.1 = old then some row.2 else none := by
  obtain ⟨before, rfl⟩ := List.getLast?_eq_some_iff.mp last
  unfold rewriteAll
  rw [List.foldl_append, List.foldl_cons, List.foldl_nil]
  split
  next same => rw [same, Function.update_self]
  next different => rw [Function.update_of_ne (Ne.symm different), Function.update_self]

theorem lookup_filterMap {ι : Type v} {name : ι → κ} {value : ι → Option α} {items : List ι}
    (each : ∀ item ∈ items, value item ≠ none) (key : κ) :
    lookup key (items.filterMap fun item => (value item).map fun value => (name item, value)) =
      (items.find? fun item => name item = key).bind value := by
  induction items with
  | nil => rfl
  | cons item rest ih =>
    rw [List.forall_mem_cons] at each
    obtain ⟨found, is⟩ := Option.ne_none_iff_exists'.mp each.1
    rw [List.filterMap_cons, is, Option.map_some, lookup_cons, List.find?_cons]
    by_cases named : name item = key
    · simp [named, is]
    · simpa [named] using ih each.2

/-- Of rows made in an ascending order, the one of the greatest item counts. -/
theorem lookup_last {ι : Type v} [LinearOrder ι] {row : ι → Option (κ × α)} {order : List ι}
    (sorted : order.Pairwise fun first second => first < second) {key : κ} {value : α} :
    lookup key (order.filterMap row).reverse = some value ↔
      ∃ item ∈ order, row item = some (key, value) ∧ ∀ other ∈ order, ∀ more, row other = some (key, more) → other ≤ item := by
  induction order using List.reverseRecOn with
  | nil => simp [lookup]
  | append_singleton order last ih =>
    rw [List.pairwise_append] at sorted
    have below : ∀ item ∈ order, item < last := fun item member => sorted.2.2 item member last List.mem_cons_self
    -- The last item counts where it has the key, and is passed over otherwise.
    by_cases named : ∃ found, row last = some (key, found)
    · obtain ⟨found, is⟩ := named
      rw [List.filterMap_append, List.filterMap_cons, is, List.reverse_append]
      simp only [List.filterMap_nil, List.reverse_singleton, List.singleton_append, lookup_cons, if_true, Option.some.injEq]
      constructor
      · rintro rfl
        refine ⟨last, List.mem_append_right _ List.mem_cons_self, is, fun other member _ _ => ?_⟩
        rcases List.mem_append.mp member with inside | final
        · exact (below other inside).le
        · exact (List.mem_singleton.mp final).le
      · intro greatest
        obtain ⟨item, member, given, greatest⟩ := greatest
        have same : item = last := by
          rcases List.mem_append.mp member with inside | final
          · exact absurd (greatest last (List.mem_append_right _ List.mem_cons_self) found is) (below item inside).not_ge
          · exact List.mem_singleton.mp final
        rw [same, is] at given
        exact (Prod.mk.inj (Option.some.inj given)).2
    · have skipped : lookup key ((order ++ [last]).filterMap row).reverse = lookup key (order.filterMap row).reverse := by
        rw [List.filterMap_append, List.filterMap_cons, List.reverse_append]
        cases is : row last with
        | none => rfl
        | some pair =>
          obtain ⟨name, found⟩ := pair
          have other : name ≠ key := by
            rintro rfl
            exact named ⟨found, is⟩
          simp [lookup_cons, other]
      rw [skipped, ih sorted.1]
      constructor
      · intro greatest
        obtain ⟨item, member, given, greatest⟩ := greatest
        refine ⟨item, List.mem_append_left _ member, given, fun other inside more has => ?_⟩
        rcases List.mem_append.mp inside with before | final
        · exact greatest other before more has
        · rw [List.mem_singleton.mp final] at has
          exact absurd ⟨more, has⟩ named
      · intro greatest
        obtain ⟨item, member, given, greatest⟩ := greatest
        rcases List.mem_append.mp member with before | final
        · exact ⟨item, before, given, fun other inside => greatest other (List.mem_append_left _ inside)⟩
        · rw [List.mem_singleton.mp final] at given
          exact absurd ⟨value, given⟩ named

end K8Sense.Keyed
