import Mathlib.Data.List.Nodup

/-! Keeping the first item for each key, as a loop with a seen set does, and changing
the item of a key where there is at most one. -/

namespace K8Sense.Distinct

universe u v w
variable {α : Type u} {κ : Type v} [DecidableEq κ] {key : α → κ}

/-- The items whose key has neither been seen before nor on an earlier item. -/
def firsts (key : α → κ) : List κ → List α → List α
  | _, [] => []
  | seen, item :: rest =>
    if key item ∈ seen then firsts key seen rest else item :: firsts key (key item :: seen) rest

theorem firsts_sublist (seen : List κ) (items : List α) : (firsts key seen items).Sublist items := by
  induction items generalizing seen with
  | nil => exact List.Sublist.refl _
  | cons item rest ih =>
    unfold firsts
    split
    next => exact (ih seen).cons item
    next => exact (ih (key item :: seen)).cons_cons item

/-- What is kept is the first item for its key, and only for keys not seen
before. -/
theorem mem_firsts {seen : List κ} {items : List α} {item : α} : item ∈ firsts key seen items ↔
    key item ∉ seen ∧ items.find? (fun other => key other = key item) = some item := by
  induction items generalizing seen with
  | nil => simp [firsts]
  | cons head rest ih =>
    by_cases old : key head ∈ seen
    · simp only [firsts, if_pos old, ih]
      by_cases same : key head = key item
      · rw [same] at old
        simp [old]
      · simp [same]
    · simp only [firsts, if_neg old, List.mem_cons, ih]
      by_cases same : key head = key item
      · rw [same] at old
        simp only [same, decide_true, List.find?_cons_of_pos, Option.some.injEq]
        constructor
        · rintro (rfl | ⟨fresh, -⟩)
          · exact ⟨old, rfl⟩
          · simp at fresh
        · intro ⟨_, first⟩
          exact Or.inl first.symm
      · have different : ¬key item = key head := fun equal => same equal.symm
        have other : item ≠ head := fun equal => same (by rw [equal])
        simp [same, different, other]

theorem firsts_nodup (seen : List κ) (items : List α) : ((firsts key seen items).map key).Nodup := by
  induction items generalizing seen with
  | nil => exact List.nodup_nil
  | cons item rest ih =>
    unfold firsts
    split
    next => exact ih seen
    next =>
      rw [List.map_cons, List.nodup_cons]
      refine ⟨?_, ih _⟩
      intro again
      obtain ⟨other, kept, same⟩ := List.mem_map.mp again
      apply (mem_firsts.mp kept).1
      simp [same]

theorem exists_firsts {items : List α} {sought : κ} :
    (∃ item ∈ firsts key [] items, key item = sought) ↔ ∃ item ∈ items, key item = sought := by
  constructor
  · intro ⟨item, kept, same⟩
    exact ⟨item, (firsts_sublist [] items).subset kept, same⟩
  · intro ⟨item, member, same⟩
    have found : (items.find? fun other => key other = sought).isSome = true := by
      rw [List.find?_isSome]
      exact ⟨item, member, by simpa using same⟩
    obtain ⟨first, isFirst⟩ := Option.isSome_iff_exists.mp found
    have keyed : key first = sought := by simpa using List.find?_some isFirst
    exact ⟨first, mem_firsts.mpr ⟨List.not_mem_nil, by rw [keyed]; exact isFirst⟩, keyed⟩

private theorem filter_seen {kept : α → Bool} {items : List α} {seen others : List κ}
    (decided : ∀ first ∈ items, ∀ second ∈ items, key first = key second → kept first = kept second)
    (agree : ∀ item ∈ items, kept item = true → (key item ∈ seen ↔ key item ∈ others)) :
    (firsts key seen items).filter kept = firsts key others (items.filter kept) := by
  induction items generalizing seen others with
  | nil => rfl
  | cons head rest ih =>
    have decidedRest : ∀ first ∈ rest, ∀ second ∈ rest, key first = key second → kept first = kept second :=
      fun first left second right => decided first (List.mem_cons_of_mem _ left) second (List.mem_cons_of_mem _ right)
    cases keep : kept head with
    | true =>
      rw [List.filter_cons_of_pos keep]
      have here := agree head List.mem_cons_self keep
      by_cases old : key head ∈ seen
      · rw [firsts, if_pos old, firsts, if_pos (here.mp old)]
        exact ih decidedRest fun item member => agree item (List.mem_cons_of_mem _ member)
      · have fresh : key head ∉ others := fun again => old (here.mpr again)
        rw [firsts, if_neg old, firsts, if_neg fresh, List.filter_cons_of_pos keep]
        congr 1
        apply ih decidedRest
        intro item member good
        simp [agree item (List.mem_cons_of_mem _ member) good]
    | false =>
      have dropped : ¬kept head = true := by simp [keep]
      rw [List.filter_cons_of_neg dropped]
      by_cases old : key head ∈ seen
      · rw [firsts, if_pos old]
        exact ih decidedRest fun item member => agree item (List.mem_cons_of_mem _ member)
      · rw [firsts, if_neg old, List.filter_cons_of_neg dropped]
        apply ih decidedRest
        intro item member good
        have different : key item ≠ key head := by
          intro same
          have equal := decided item (List.mem_cons_of_mem _ member) head List.mem_cons_self same
          rw [good, keep] at equal
          cases equal
        simp [different, agree item (List.mem_cons_of_mem _ member) good]

/-- A property that the key decides may be filtered for before or after. -/
theorem filter_firsts {kept : α → Bool} {items : List α}
    (decided : ∀ first ∈ items, ∀ second ∈ items, key first = key second → kept first = kept second) :
    (firsts key [] items).filter kept = firsts key [] (items.filter kept) :=
  filter_seen decided fun _ _ _ => Iff.rfl

private theorem congr_seen {μ : Type w} [DecidableEq μ] {other : α → μ} {items : List α} {seen : List κ} {others : List μ}
    (agree : ∀ first ∈ items, ∀ second ∈ items, key first = key second ↔ other first = other second)
    (old : ∀ item ∈ items, key item ∈ seen ↔ other item ∈ others) :
    firsts key seen items = firsts other others items := by
  induction items generalizing seen others with
  | nil => rfl
  | cons head rest ih =>
    have agreeRest : ∀ first ∈ rest, ∀ second ∈ rest, key first = key second ↔ other first = other second :=
      fun first left second right => agree first (List.mem_cons_of_mem _ left) second (List.mem_cons_of_mem _ right)
    have here := old head List.mem_cons_self
    have there : ∀ item ∈ rest, key item ∈ seen ↔ other item ∈ others :=
      fun item member => old item (List.mem_cons_of_mem _ member)
    by_cases seenHead : key head ∈ seen
    · rw [firsts, if_pos seenHead, firsts, if_pos (here.mp seenHead)]
      exact ih agreeRest there
    · have fresh : other head ∉ others := fun again => seenHead (here.mpr again)
      rw [firsts, if_neg seenHead, firsts, if_neg fresh]
      congr 1
      apply ih agreeRest
      intro item member
      simp [there item member, agree item (List.mem_cons_of_mem _ member) head List.mem_cons_self]

/-- Keys that tell the same items apart keep the same items. -/
theorem firsts_congr {μ : Type w} [DecidableEq μ] {other : α → μ} {items : List α}
    (agree : ∀ first ∈ items, ∀ second ∈ items, key first = key second ↔ other first = other second) :
    firsts key [] items = firsts other [] items :=
  congr_seen agree fun _ _ => by simp

theorem firsts_seen (seen : List κ) (items : List α) : firsts key seen items = (firsts key [] items).filter (key · ∉ seen) := by
  have decided : ∀ first ∈ items, ∀ second ∈ items, key first = key second → decide (key first ∉ seen) = decide (key second ∉ seen) :=
    fun first _ second _ same => by rw [same]
  have whole : (firsts key seen items).filter (key · ∉ seen) = firsts key seen items :=
    List.filter_eq_self.mpr fun item kept => decide_eq_true (mem_firsts.mp kept).1
  rw [← whole, @filter_seen _ _ _ key _ items seen seen decided fun _ _ _ => Iff.rfl]
  rw [@filter_seen _ _ _ key _ items [] seen decided fun item _ fresh => iff_of_false List.not_mem_nil (of_decide_eq_true fresh)]

theorem firsts_append (seen : List κ) (items more : List α) :
    firsts key seen (items ++ more) = firsts key seen items ++ firsts key (items.map key ++ seen) more := by
  induction items generalizing seen with
  | nil => rfl
  | cons item rest ih =>
    have old : ∀ first second : List κ, (∀ sought, sought ∈ first ↔ sought ∈ second) → firsts key first more = firsts key second more :=
      fun _ _ same => congr_seen (fun _ _ _ _ => Iff.rfl) fun _ _ => same _
    rw [List.cons_append, firsts, firsts]
    split
    next known =>
      rw [ih, old (rest.map key ++ seen) ((item :: rest).map key ++ seen)]
      intro sought
      rw [List.map_cons, List.cons_append, List.mem_cons, iff_or_self]
      rintro rfl
      exact List.mem_append_right _ known
    · rw [ih, List.cons_append, old (rest.map key ++ key item :: seen) ((item :: rest).map key ++ seen)]
      intro sought
      simp only [List.map_cons, List.cons_append, List.mem_append, List.mem_cons]
      tauto

/-- What has been seen is what is left out of items with different keys. -/
theorem firsts_unique {seen : List κ} {items : List α} (unique : (items.map key).Nodup) :
    firsts key seen items = items.filter (key · ∉ seen) := by
  induction items generalizing seen with
  | nil => rfl
  | cons item rest ih =>
    rw [List.map_cons, List.nodup_cons] at unique
    by_cases known : key item ∈ seen
    · rw [firsts, if_pos known, List.filter_cons_of_neg (by simpa using known), ih unique.2]
    · rw [firsts, if_neg known, List.filter_cons_of_pos (by simpa using known), ih unique.2]
      congr 1
      apply List.filter_congr
      intro other member
      have different : key other ≠ key item := fun same => unique.1 (same ▸ List.mem_map_of_mem member)
      simp [different]

theorem map_firsts (seen : List κ) (items : List α) : (firsts key seen items).map key = firsts id seen (items.map key) := by
  induction items generalizing seen with
  | nil => rfl
  | cons item rest ih =>
    rw [List.map_cons, firsts, firsts, id_eq]
    split
    · exact ih seen
    · rw [List.map_cons, ih]

/-! Lists without two items of one key. -/

/-- Put the item at the place of the one with its key, or at the end. -/
def put (key : α → κ) (item : α) (items : List α) : List α :=
  if key item ∈ items.map key then items.map fun other => if key other = key item then item else other else items ++ [item]

def without (key : α → κ) (sought : κ) (items : List α) : List α := items.filter fun item => key item ≠ sought

theorem findIdx_none {items : List α} {sought : κ} (found : items.findIdx? (fun item => key item = sought) = none) :
    sought ∉ items.map key := by
  simpa using found

theorem findIdx_unique {items : List α} (unique : (items.map key).Nodup) {sought : κ} {index : Nat}
    (found : items.findIdx? (fun item => key item = sought) = some index) :
    index < items.length ∧ ∀ other, (inside : other < items.length) → (key items[other] = sought ↔ other = index) := by
  obtain ⟨inside, is, -⟩ := List.findIdx?_eq_some_iff_getElem.mp found
  refine ⟨inside, fun other within => ⟨fun same => ?_, fun same => ?_⟩⟩
  · have keys : (items.map key).get ⟨other, by simpa⟩ = (items.map key).get ⟨index, by simpa⟩ := by
      simpa using same.trans (of_decide_eq_true is).symm
    exact congrArg Fin.val (unique.get_inj_iff.mp keys)
  · subst same
    exact of_decide_eq_true is

theorem find_unique {items : List α} (unique : (items.map key).Nodup) {item : α} (member : item ∈ items) :
    items.find? (fun other => key other = key item) = some item := by
  cases found : items.find? fun other => key other = key item with
  | none => exact absurd (decide_eq_true rfl) (List.find?_eq_none.mp found item member)
  | some other =>
    have same := List.find?_some found
    rw [List.inj_on_of_nodup_map unique (List.mem_of_find?_eq_some found) member (of_decide_eq_true same)]

theorem put_set {item : α} {items : List α} (unique : (items.map key).Nodup) {index : Nat}
    (found : items.findIdx? (fun other => key other = key item) = some index) : items.set index item = put key item items := by
  obtain ⟨inside, only⟩ := findIdx_unique unique found
  have present : key item ∈ items.map key := List.mem_map.mpr ⟨items[index], List.getElem_mem inside, (only index inside).mpr rfl⟩
  rw [put, if_pos present]
  apply List.ext_getElem (by simp)
  intro other left right
  rw [List.getElem_set, List.getElem_map]
  have within : other < items.length := by simpa using right
  by_cases same : index = other
  · rw [if_pos same, if_pos ((only other within).mpr same.symm)]
  · rw [if_neg same, if_neg fun is => same ((only other within).mp is).symm]

theorem put_append {item : α} {items : List α} (found : items.findIdx? (fun other => key other = key item) = none) :
    items ++ [item] = put key item items := by
  rw [put, if_neg (findIdx_none found)]

theorem without_eraseIdx {items : List α} (unique : (items.map key).Nodup) {sought : κ} {index : Nat}
    (found : items.findIdx? (fun item => key item = sought) = some index) :
    items.eraseIdx index = without key sought items := by
  induction items generalizing index with
  | nil => cases found
  | cons head rest ih =>
    rw [List.map_cons, List.nodup_cons] at unique
    rw [List.findIdx?_cons] at found
    by_cases first : key head = sought
    · rw [if_pos (decide_eq_true first)] at found
      cases found
      have others : without key sought rest = rest := by
        rw [without, List.filter_eq_self]
        intro item member
        apply decide_eq_true
        intro same
        exact unique.1 (List.mem_map.mpr ⟨item, member, same.trans first.symm⟩)
      rw [without] at others ⊢
      rw [List.filter_cons_of_neg (by simpa using first), others]
      rfl
    · rw [if_neg (by simpa using first), Option.map_eq_some_iff] at found
      obtain ⟨position, found, rfl⟩ := found
      simpa [without, first] using ih unique.2 found

theorem without_absent {items : List α} {sought : κ} (absent : sought ∉ items.map key) : without key sought items = items := by
  simpa [without] using absent

theorem put_keys {item : α} {items : List α} :
    (put key item items).map key = if key item ∈ items.map key then items.map key else items.map key ++ [key item] := by
  unfold put
  split
  · rw [List.map_map]
    apply List.map_congr_left
    intro other _
    simp only [Function.comp_apply]
    split
    next same => exact same.symm
    next => rfl
  · simp

theorem put_nodup {item : α} {items : List α} (unique : (items.map key).Nodup) : ((put key item items).map key).Nodup := by
  rw [put_keys]
  split
  · exact unique
  next absent => exact List.Nodup.append unique (List.nodup_singleton _) (by simpa using absent)

theorem without_nodup {items : List α} {sought : κ} (unique : (items.map key).Nodup) :
    ((without key sought items).map key).Nodup :=
  unique.sublist (List.filter_sublist.map key)

theorem mem_put_keys {item : α} {items : List α} {sought : κ} :
    sought ∈ (put key item items).map key ↔ sought ∈ items.map key ∨ sought = key item := by
  rw [put_keys]
  split
  next present => exact ⟨.inl, fun either => either.elim id fun same => same ▸ present⟩
  · simp

theorem mem_without_keys {items : List α} {other sought : κ} :
    sought ∈ (without key other items).map key ↔ sought ∈ items.map key ∧ sought ≠ other := by
  simp only [without, List.mem_map, List.mem_filter, decide_eq_true_eq]
  constructor
  · rintro ⟨item, ⟨member, different⟩, is⟩
    exact ⟨⟨item, member, is⟩, is ▸ different⟩
  · rintro ⟨⟨item, member, is⟩, different⟩
    exact ⟨item, ⟨member, is ▸ different⟩, is⟩

/-- Where all values are different, one item makes each of them. -/
theorem filterMap_unique {value : α → Option κ} {items : List α} (unique : (items.filterMap value).Nodup) {item : α} {sought : κ}
    (member : item ∈ items) (makes : value item = some sought) : (items.filter fun other => value other = some sought) = [item] := by
  induction items with
  | nil => cases member
  | cons head rest ih =>
    rcases List.mem_cons.mp member with rfl | later
    · rw [List.filterMap_cons_some makes, List.nodup_cons] at unique
      rw [List.filter_cons_of_pos (by simpa using makes), List.filter_eq_nil_iff.mpr]
      intro other inside
      rw [decide_eq_true_eq]
      exact fun again => unique.1 (List.mem_filterMap.mpr ⟨other, inside, again⟩)
    · have inside : sought ∈ rest.filterMap value := List.mem_filterMap.mpr ⟨item, later, makes⟩
      cases first : value head with
      | none =>
        rw [List.filterMap_cons_none first] at unique
        rw [List.filter_cons_of_neg (by simp [first])]
        exact ih unique later
      | some other =>
        rw [List.filterMap_cons_some first, List.nodup_cons] at unique
        have different : other ≠ sought := fun same => unique.1 (same ▸ inside)
        rw [List.filter_cons_of_neg (by simp [first, different])]
        exact ih unique.2 later

omit [DecidableEq κ] in
theorem flatMap_unique {ι : Type u} {values : ι → List κ} {groups : List ι} (unique : (groups.flatMap values).Nodup)
    {first second : ι} {sought : κ} (left : first ∈ groups) (right : second ∈ groups) (here : sought ∈ values first)
    (there : sought ∈ values second) : first = second := by
  have apart : groups.Pairwise fun first second => sought ∈ values first → sought ∈ values second → first = second :=
    (List.nodup_flatMap.mp unique).2.imp fun disjoint here there => (disjoint here there).elim
  have flipped : groups.Pairwise (flip fun first second => sought ∈ values first → sought ∈ values second → first = second) :=
    apart.imp fun same there here => (same here there).symm
  exact List.Pairwise.forall_of_forall_of_flip (fun _ _ _ _ => rfl) apart flipped left right here there

end K8Sense.Distinct
