import K8Sense.Library.Ranked

/-! Records in the order of their times, newest first, as a query that orders by
a time column returns them. -/

namespace K8Sense.Recency

universe u
variable {α : Type u} {time : α → Nat}

/-- Records of one time stay in the order in which they are stored. -/
def newestFirst (time : α → Nat) (items : List α) : List α :=
  items.mergeSort fun item other => time other ≤ time item

/-- Each record is later than all before it. -/
def Rising (time : α → Nat) (items : List α) : Prop :=
  items.Pairwise fun earlier later => time earlier < time later

theorem newestFirst_perm (time : α → Nat) (items : List α) : (newestFirst time items).Perm items :=
  List.mergeSort_perm items _

@[simp] theorem mem_newestFirst {items : List α} {item : α} : item ∈ newestFirst time items ↔ item ∈ items :=
  (newestFirst_perm time items).mem_iff

theorem newestFirst_sorted (time : α → Nat) (items : List α) :
    (newestFirst time items).Pairwise fun item other => time other ≤ time item := by
  apply Ranked.pairwise_sorted
  · exact fun _ _ _ upper lower => Nat.le_trans lower upper
  · exact fun _ _ => Nat.le_total _ _

/-- A record that is stored first, and than which none is later, is the newest. -/
theorem newest_head {item : α} {rest : List α} (top : ∀ other ∈ rest, time other ≤ time item) :
    (newestFirst time (item :: rest)).head? = some item := by
  have trans : ∀ first second third : α, decide (time second ≤ time first) = true → decide (time third ≤ time second) = true →
      decide (time third ≤ time first) = true := by
    intro first second third upper lower
    simp only [decide_eq_true_eq] at *
    omega
  have total : ∀ first second : α, (decide (time second ≤ time first) || decide (time first ≤ time second)) = true := by
    intro first second
    simp only [Bool.or_eq_true, decide_eq_true_eq]
    omega
  obtain ⟨before, after, sorted, parts, later⟩ := List.mergeSort_cons trans total item rest
  have none : before = [] := by
    rw [List.eq_nil_iff_forall_not_mem]
    intro other member
    have inside : other ∈ rest := by
      apply mem_newestFirst.mp
      rw [newestFirst, parts]
      exact List.mem_append_left _ member
    simpa [top other inside] using later other member
  rw [newestFirst, sorted, none]
  rfl

/-- When the records beyond a number are taken away, that number is left, or all if
there are fewer. -/
theorem countP_notMem_drop [DecidableEq α] {items ranked : List α} (perm : ranked.Perm items) (distinct : items.Nodup)
    (keep : Nat) : (items.countP fun item => item ∉ ranked.drop keep) = min keep items.length := by
  have apart : ∀ item ∈ ranked.take keep, item ∉ ranked.drop keep := by
    have halves : (ranked.take keep ++ ranked.drop keep).Nodup := by
      rw [List.take_append_drop]
      exact perm.nodup_iff.mpr distinct
    exact fun item left right => (List.nodup_append.mp halves).2.2 item left item right rfl
  calc (items.countP fun item => item ∉ ranked.drop keep)
      = ranked.countP fun item => item ∉ ranked.drop keep := (perm.countP_eq _).symm
    _ = (ranked.take keep ++ ranked.drop keep).countP fun item => item ∉ ranked.drop keep := by rw [List.take_append_drop]
    _ = (ranked.take keep).length := by
      rw [List.countP_append, List.countP_eq_length.mpr, List.countP_eq_zero.mpr, Nat.add_zero]
      · exact fun item right => by simp [right]
      · exact fun item left => by simp [apart item left]
    _ = min keep items.length := by rw [List.length_take, perm.length_eq]

/-- None of the records that are taken away is later than one that is left. -/
theorem drop_not_later {ranked : List α} (sorted : ranked.Pairwise fun item other => time other ≤ time item) {keep : Nat}
    {kept removed : α} (left : kept ∈ ranked) (stays : kept ∉ ranked.drop keep) (goes : removed ∈ ranked.drop keep) :
    time removed ≤ time kept := by
  rw [← List.take_append_drop keep ranked, List.pairwise_append] at sorted
  have front : kept ∈ ranked.take keep := by
    rw [← List.take_append_drop keep ranked, List.mem_append] at left
    exact left.resolve_right stays
  exact sorted.2.2 kept front removed goes

/-- Two records of a rising list with one time are the same. -/
theorem rising_unique {items : List α} (rising : Rising time items) {first second : α} (left : first ∈ items)
    (right : second ∈ items) (same : time first = time second) : first = second := by
  induction items with
  | nil => cases left
  | cons item rest ih =>
    obtain ⟨before, rising⟩ := List.pairwise_cons.mp rising
    rcases List.mem_cons.mp left with rfl | inside
    · rcases List.mem_cons.mp right with rfl | later
      · rfl
      · exact absurd (before second later) (by omega)
    · rcases List.mem_cons.mp right with rfl | later
      · exact absurd (before first inside) (by omega)
      · exact ih rising inside later

theorem newestFirst_rising {items : List α} (rising : Rising time items) : newestFirst time items = items.reverse := by
  refine List.Perm.eq_of_pairwise ?_ (newestFirst_sorted time items) ?_ ?_
  · intro first second left right upper lower
    exact rising_unique rising (mem_newestFirst.mp left) (List.mem_reverse.mp right) (Nat.le_antisymm lower upper)
  · rw [List.pairwise_reverse]
    exact rising.imp Nat.le_of_lt
  · exact (newestFirst_perm time items).trans (List.reverse_perm items).symm

theorem newest_of_rising {items : List α} (rising : Rising time items) : (newestFirst time items).head? = items.getLast? := by
  rw [newestFirst_rising rising, List.head?_reverse]

theorem last_newest {items : List α} (rising : Rising time items) {item other : α} (last : items.getLast? = some item)
    (member : other ∈ items) : time other ≤ time item := by
  obtain ⟨before, rfl⟩ := List.getLast?_eq_some_iff.mp last
  obtain ⟨_, _, later⟩ := List.pairwise_append.mp rising
  rcases List.mem_append.mp member with old | same
  · exact Nat.le_of_lt (later other old item List.mem_cons_self)
  · obtain rfl := List.mem_singleton.mp same
    exact Nat.le_refl _

theorem getLast_filter {items : List α} {item : α} {kept : α → Bool} (last : items.getLast? = some item)
    (passes : kept item = true) : (items.filter kept).getLast? = some item := by
  obtain ⟨before, rfl⟩ := List.getLast?_eq_some_iff.mp last
  simp [passes]

/-! Parts of a list in the order of the times. -/

/-- Each record is at least as late as all after it. -/
def Falling (time : α → Nat) (items : List α) : Prop := items.Pairwise fun item other => time other ≤ time item

theorem sublist_newestFirst {items part : List α} (falling : Falling time part) (inside : part.Sublist items) :
    part.Sublist (newestFirst time items) := by
  refine List.sublist_mergeSort ?_ ?_ (falling.imp decide_eq_true) inside
  · intro first second third upper lower
    exact decide_eq_true (Nat.le_trans (of_decide_eq_true lower) (of_decide_eq_true upper))
  · intro first second
    rw [Bool.or_eq_true, decide_eq_true_eq, decide_eq_true_eq]
    exact Nat.le_total _ _

/-- A part whose records fall in the list as it is stays as it is. -/
theorem filter_newestFirst {items : List α} {kept : α → Bool} (falling : Falling time (items.filter kept)) :
    (newestFirst time items).filter kept = items.filter kept := by
  have inside := (sublist_newestFirst falling List.filter_sublist).filter kept
  rw [List.filter_filter] at inside
  simp only [Bool.and_self] at inside
  have lengths := ((newestFirst_perm time items).filter kept).length_eq
  exact (inside.eq_of_length lengths.symm).symm

theorem newestFirst_falling {items : List α} (falling : Falling time items) : newestFirst time items = items := by
  have inside := sublist_newestFirst falling (List.Sublist.refl items)
  exact (inside.eq_of_length (newestFirst_perm time items).length_eq.symm).symm

theorem newestFirst_at (items : List α) (moment : Nat) :
    (newestFirst time items).filter (time · = moment) = items.filter (time · = moment) := by
  apply filter_newestFirst
  unfold Falling
  rw [List.pairwise_filter]
  refine List.pairwise_of_forall fun item other here there => ?_
  rw [of_decide_eq_true here, of_decide_eq_true there]

/-- A falling list is known by its records at each time. -/
theorem falling_ext {items others : List α} (falling : Falling time items) (also : Falling time others)
    (same : ∀ moment, items.filter (time · = moment) = others.filter (time · = moment)) : items = others := by
  have mem_of_same : ∀ {item : α} {left right : List α}, left.filter (time · = time item) = right.filter (time · = time item) →
      item ∈ left → item ∈ right := by
    intro item left right equal member
    have inside : item ∈ left.filter (time · = time item) := by simpa using member
    rw [equal] at inside
    exact (List.mem_filter.mp inside).1
  induction items generalizing others with
  | nil =>
    cases others with
    | nil => rfl
    | cons other rest => exact absurd (mem_of_same (same (time other)).symm List.mem_cons_self) List.not_mem_nil
  | cons item items ih =>
    cases others with
    | nil => exact absurd (mem_of_same (same (time item)) List.mem_cons_self) List.not_mem_nil
    | cons other rest =>
      obtain ⟨top, fallingRest⟩ := List.pairwise_cons.mp falling
      obtain ⟨first, alsoRest⟩ := List.pairwise_cons.mp also
      have upper : time other ≤ time item := by
        rcases List.mem_cons.mp (mem_of_same (same (time other)).symm List.mem_cons_self) with rfl | later
        · exact Nat.le_refl _
        · exact top other later
      have lower : time item ≤ time other := by
        rcases List.mem_cons.mp (mem_of_same (same (time item)) List.mem_cons_self) with rfl | later
        · exact Nat.le_refl _
        · exact first item later
      have heads := same (time item)
      simp only [List.filter_cons, Nat.le_antisymm upper lower, decide_true, if_true] at heads
      obtain rfl := (List.cons.inj heads).1
      refine congrArg (item :: ·) (ih fallingRest alsoRest fun moment => ?_)
      have here := same moment
      rw [List.filter_cons, List.filter_cons] at here
      split at here
      · exact (List.cons.inj here).2
      · exact here

theorem newestFirst_filter (items : List α) (kept : α → Bool) :
    (newestFirst time items).filter kept = newestFirst time (items.filter kept) := by
  refine falling_ext ((newestFirst_sorted time items).filter kept) (newestFirst_sorted time _) fun moment => ?_
  rw [newestFirst_at, List.filter_comm, newestFirst_at, List.filter_comm]

theorem filter_eq_take {items : List α} (falling : Falling time items) {late : α → Bool}
    (upward : ∀ item ∈ items, ∀ other ∈ items, late other = true → time other ≤ time item → late item = true) :
    items.filter late = items.take (items.countP late) := by
  induction items with
  | nil => rfl
  | cons item rest ih =>
    obtain ⟨top, falling⟩ := List.pairwise_cons.mp falling
    cases isLate : late item with
    | true =>
      rw [List.filter_cons_of_pos isLate, List.countP_cons_of_pos isLate, List.take_succ_cons, ← ih falling]
      exact fun one member other also => upward one (List.mem_cons_of_mem _ member) other (List.mem_cons_of_mem _ also)
    | false =>
      have none : ∀ other ∈ item :: rest, ¬late other = true := by
        intro other member late'
        have bound : time other ≤ time item := (List.mem_cons.mp member).elim (fun same => same ▸ Nat.le_refl _) (top other)
        rw [upward item List.mem_cons_self other member late' bound] at isLate
        cases isLate
      rw [List.filter_eq_nil_iff.mpr none, List.countP_eq_zero.mpr none, List.take_zero]

/-- The records from a moment on are the newer ones and then those of the moment. -/
theorem filter_from {items : List α} (falling : Falling time items) (moment : Nat) :
    items.filter (moment ≤ time ·) = items.filter (moment < time ·) ++ items.filter (time · = moment) := by
  induction items with
  | nil => rfl
  | cons item rest ih =>
    obtain ⟨top, falling⟩ := List.pairwise_cons.mp falling
    rcases Nat.lt_trichotomy moment (time item) with above | same | below
    · simp only [List.filter_cons, above, above.le, above.ne', decide_true, decide_false, if_true, Bool.false_eq_true, if_false, ih falling,
        List.cons_append]
    · have none : rest.filter (moment < time ·) = [] := by
        rw [List.filter_eq_nil_iff]
        intro other member later
        exact absurd (of_decide_eq_true later) (Nat.not_lt.mpr (same ▸ top other member))
      rw [none] at ih
      simp only [List.filter_cons, same, Nat.le_refl, Nat.lt_irrefl, decide_true, decide_false, if_true, Bool.false_eq_true, if_false] at ih none ⊢
      rw [ih falling, none, List.nil_append, List.nil_append]
    · simp only [List.filter_cons, below.ne, Nat.not_le.mpr below, Nat.not_lt.mpr below.le, decide_false, Bool.false_eq_true, if_false]
      exact ih falling

end K8Sense.Recency
