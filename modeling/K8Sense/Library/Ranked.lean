import Mathlib.Data.List.Sort

/-! Stable sorting, above all by a rank. -/

namespace K8Sense.Ranked

universe u
variable {α : Type u} {rank : α → Nat} {items : List α}

section
variable {upto : α → α → Prop} [DecidableRel upto] (trans : ∀ first second third, upto first second → upto second third → upto first third)
  (total : ∀ first second, upto first second ∨ upto second first)
include trans total

/-- Sorting by a relation that compares any two items puts them in its order. -/
theorem pairwise_sorted (items : List α) : (items.mergeSort fun item other => upto item other).Pairwise upto := by
  have transitive : IsTrans α upto := ⟨trans⟩
  have comparable : Std.Total upto := ⟨total⟩
  exact List.pairwise_mergeSort' upto items

/-- What a sorted list begins with comes before all items. -/
theorem head_sorted {item : α} (first : (items.mergeSort fun item other => upto item other).head? = some item) :
    item ∈ items ∧ ∀ other ∈ items, upto item other := by
  have sorted := pairwise_sorted trans total items
  have permuted := List.mergeSort_perm items fun item other => upto item other
  obtain ⟨rest, whole⟩ := List.head?_eq_some_iff.mp first
  rw [whole] at sorted permuted
  refine ⟨permuted.mem_iff.mp List.mem_cons_self, ?_⟩
  intro other member
  rcases List.mem_cons.mp (permuted.mem_iff.mpr member) with rfl | later
  · exact (total other other).elim id id
  · exact (List.pairwise_cons.mp sorted).1 other later

theorem last_sorted {item : α} (last : (items.mergeSort fun item other => upto item other).getLast? = some item) :
    item ∈ items ∧ ∀ other ∈ items, upto other item := by
  have sorted := pairwise_sorted trans total items
  have permuted := List.mergeSort_perm items fun item other => upto item other
  obtain ⟨before, whole⟩ := List.getLast?_eq_some_iff.mp last
  rw [whole] at sorted permuted
  refine ⟨permuted.mem_iff.mp (List.mem_append_right _ List.mem_cons_self), ?_⟩
  intro other member
  rcases List.mem_append.mp (permuted.mem_iff.mpr member) with earlier | final
  · exact (List.pairwise_append.mp sorted).2.2 other earlier item List.mem_cons_self
  · rw [List.mem_singleton.mp final]
    exact (total item item).elim id id

end

/-- Items of one rank stay in their order. -/
def stableSort (rank : α → Nat) (items : List α) : List α :=
  items.mergeSort fun item other => rank item ≤ rank other

private theorem rank_trans (first second third : α) : decide (rank first ≤ rank second) = true →
    decide (rank second ≤ rank third) = true → decide (rank first ≤ rank third) = true := by
  simp only [decide_eq_true_eq]
  omega

private theorem rank_total (first second : α) : (decide (rank first ≤ rank second) || decide (rank second ≤ rank first)) = true := by
  simp only [Bool.or_eq_true, decide_eq_true_eq]
  omega

theorem stableSort_perm (rank : α → Nat) (items : List α) : (stableSort rank items).Perm items :=
  List.mergeSort_perm items _

theorem stableSort_sorted (rank : α → Nat) (items : List α) :
    (stableSort rank items).Pairwise fun item other => rank item ≤ rank other := by
  apply pairwise_sorted
  · exact fun _ _ _ => Nat.le_trans
  · exact fun _ _ => Nat.le_total _ _

/-- The items of one rank are the same before and after. -/
theorem stableSort_filter (rank : α → Nat) (items : List α) (value : Nat) :
    (stableSort rank items).filter (rank · = value) = items.filter (rank · = value) := by
  have equal : (items.filter (rank · = value)).Pairwise fun item other => decide (rank item ≤ rank other) = true := by
    rw [List.pairwise_filter]
    apply List.pairwise_of_forall
    intro item other here there
    simp only [decide_eq_true_eq] at *
    omega
  have inside : (items.filter (rank · = value)).Sublist (stableSort rank items) :=
    List.sublist_mergeSort rank_trans rank_total equal List.filter_sublist
  have filtered := inside.filter (rank · = value)
  rw [List.filter_filter] at filtered
  simp only [Bool.and_self] at filtered
  have length := ((stableSort_perm rank items).filter (rank · = value)).length_eq
  exact (filtered.eq_of_length length.symm).symm

/-- A sorted list begins with its items of the least rank. -/
theorem filter_append_of_sorted (sorted : items.Pairwise fun item other => rank item ≤ rank other) {low high : Nat} (apart : low < high)
    (ranks : ∀ item ∈ items, rank item = low ∨ rank item = high) :
    items = items.filter (rank · = low) ++ items.filter (rank · = high) := by
  induction items with
  | nil => rfl
  | cons item rest ih =>
    obtain ⟨least, sortedRest⟩ := List.pairwise_cons.mp sorted
    have tail := ih sortedRest fun other member => ranks other (List.mem_cons_of_mem _ member)
    rcases ranks item List.mem_cons_self with isLow | isHigh
    · have different : ¬rank item = high := by omega
      rw [List.filter_cons_of_pos (by simpa using isLow), List.filter_cons_of_neg (by simpa using different), List.cons_append, ← tail]
    · have none : rest.filter (rank · = low) = [] := by
        rw [List.filter_eq_nil_iff]
        intro other member
        have bound := least other member
        simp only [decide_eq_true_eq]
        omega
      have different : ¬rank item = low := by omega
      rw [none, List.nil_append] at tail
      rw [List.filter_cons_of_neg (by simpa using different), List.filter_cons_of_pos (by simpa using isHigh), none, List.nil_append,
        ← tail]

/-- With two ranks, sorting puts the items of the one before those of the other. -/
theorem stableSort_two {low high : Nat} (apart : low < high) (ranks : ∀ item ∈ items, rank item = low ∨ rank item = high) :
    stableSort rank items = items.filter (rank · = low) ++ items.filter (rank · = high) := by
  rw [← stableSort_filter rank items low, ← stableSort_filter rank items high]
  apply filter_append_of_sorted (stableSort_sorted rank items) apart
  intro item member
  exact ranks item ((stableSort_perm rank items).mem_iff.mp member)

/-- Either no item qualifies, or the list splits at the first that does. -/
theorem split_first (qualifies : α → Bool) (items : List α) :
    (items.dropWhile (!qualifies ·) = [] ∧ items.takeWhile (!qualifies ·) = items ∧ ∀ item ∈ items, qualifies item = false) ∨
    ∃ before first after, items.takeWhile (!qualifies ·) = before ∧ items.dropWhile (!qualifies ·) = first :: after ∧
      items = before ++ first :: after ∧ (∀ item ∈ before, qualifies item = false) ∧ qualifies first = true := by
  induction items with
  | nil => exact .inl ⟨rfl, rfl, fun _ member => absurd member List.not_mem_nil⟩
  | cons item rest ih =>
    cases decided : qualifies item with
    | true => exact .inr ⟨[], item, rest, by simp [decided], by simp [decided], rfl, fun _ member => absurd member List.not_mem_nil, decided⟩
    | false =>
      obtain ⟨dropped, taken, none⟩ | ⟨before, first, after, taken, dropped, parts, none, qualified⟩ := ih
      · refine .inl ⟨by simp [decided, dropped], by simp [decided, taken], ?_⟩
        exact List.forall_mem_cons.mpr ⟨decided, none⟩
      · refine .inr ⟨item :: before, first, after, by simp [decided, taken], by simp [decided, dropped], by rw [parts]; rfl, ?_, qualified⟩
        exact List.forall_mem_cons.mpr ⟨decided, none⟩

/-- In a sorted list the first item that qualifies has the least rank of those that do. -/
theorem first_least {qualifies : α → Bool} {before after : List α} {first : α}
    (sorted : (before ++ first :: after).Pairwise fun item other => rank item ≤ rank other)
    (none : ∀ item ∈ before, qualifies item = false) {other : α} (member : other ∈ before ++ first :: after) (qualified : qualifies other = true) :
    rank first ≤ rank other := by
  rw [List.mem_append, List.mem_cons] at member
  obtain early | rfl | late := member
  · exact absurd qualified (by simp [none other early])
  · exact Nat.le_refl _
  · exact (List.pairwise_cons.mp (List.pairwise_append.mp sorted).2.1).1 other late

end K8Sense.Ranked
