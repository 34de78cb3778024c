import Mathlib.Data.Finset.Card
import Mathlib.Data.Finset.Lattice.Fold
import Mathlib.Data.List.TakeWhile
import Mathlib.Logic.Function.Iterate
import K8Sense.Library.Distinct
import K8Sense.Library.Recency

/-! A list with limited room, to which the same items are offered again and again, and that
keeps the newest. Whether this comes to an end. -/

namespace K8Sense.Feed
open Recency Distinct

universe u
variable {κ : Type u} [DecidableEq κ] {time : κ → Nat} {room : Nat} {offered kept : List κ}

/-- What is offered and is not in the list comes before all of its time that is. -/
def ranked (time : κ → Nat) (offered kept : List κ) : List κ := newestFirst time (offered.filter (· ∉ kept) ++ kept)

/-- Only the newest are kept. -/
def next (time : κ → Nat) (room : Nat) (offered kept : List κ) : List κ := (ranked time offered kept).take room

theorem ranked_falling (time : κ → Nat) (offered kept : List κ) : Falling time (ranked time offered kept) := newestFirst_sorted time _

structure Kept (time : κ → Nat) (room : Nat) (kept : List κ) : Prop where
  nodup : kept.Nodup
  falling : Falling time kept
  fits : kept.length ≤ room

theorem all_nodup (unique : offered.Nodup) (nodup : kept.Nodup) : (offered.filter (· ∉ kept) ++ kept).Nodup := by
  refine List.nodup_append.mpr ⟨unique.filter _, nodup, ?_⟩
  rintro item fresh _ old rfl
  exact of_decide_eq_true (List.mem_filter.mp fresh).2 old

theorem next_kept (unique : offered.Nodup) (valid : Kept time room kept) : Kept time room (next time room offered kept) where
  nodup := ((newestFirst_perm time _).nodup_iff.mpr (all_nodup unique valid.nodup)).sublist (List.take_sublist ..)
  falling := (newestFirst_sorted time _).sublist (List.take_sublist ..)
  fits := List.length_take_le ..

theorem mem_of_next {item : κ} (member : item ∈ next time room offered kept) : item ∈ offered ∨ item ∈ kept := by
  have inside := mem_newestFirst.mp (List.mem_of_mem_take member)
  exact (List.mem_append.mp inside).imp_left fun fresh => (List.mem_filter.mp fresh).1

theorem mem_all {item : κ} : item ∈ ranked time offered kept ↔ item ∈ offered ∨ item ∈ kept := by
  rw [ranked, mem_newestFirst, List.mem_append, List.mem_filter, decide_eq_true_eq]
  tauto

/-- The items that are newer than a moment. -/
def newer (time : κ → Nat) (items : Finset κ) (moment : Nat) : Finset κ := items.filter (moment < time ·)

omit [DecidableEq κ] in
theorem mem_newer {items : Finset κ} {moment : Nat} {item : κ} : item ∈ newer time items moment ↔ item ∈ items ∧ moment < time item :=
  Finset.mem_filter

theorem countP_eq_card {items : List κ} (nodup : items.Nodup) (holds : κ → Prop) [DecidablePred holds] :
    items.countP (fun item => holds item) = (items.toFinset.filter holds).card := by
  rw [List.countP_eq_length_filter, ← List.toFinset_card_of_nodup (nodup.filter _), List.toFinset_filter]
  simp only [decide_eq_true_eq]

theorem all_toFinset : (ranked time offered kept).toFinset = offered.toFinset ∪ kept.toFinset := by
  ext item
  rw [List.mem_toFinset, mem_all, Finset.mem_union, List.mem_toFinset, List.mem_toFinset]

theorem ranked_nodup (unique : offered.Nodup) (nodup : kept.Nodup) : (ranked time offered kept).Nodup :=
  (newestFirst_perm time _).nodup_iff.mpr (all_nodup unique nodup)

/-- The items that are late enough come first, in a number that does not depend on the order. -/
theorem filter_late (unique : offered.Nodup) (nodup : kept.Nodup) (late : κ → Prop) [DecidablePred late]
    (upward : ∀ item other, late other → time other ≤ time item → late item) :
    (ranked time offered kept).filter (fun item => late item) =
      (ranked time offered kept).take ((offered.toFinset ∪ kept.toFinset).filter late).card := by
  rw [filter_eq_take (ranked_falling time offered kept), countP_eq_card (ranked_nodup unique nodup), all_toFinset]
  intro item _ other _ isLate upper
  exact decide_eq_true (upward item other (of_decide_eq_true isLate) upper)

/-- What there are fewer newer items of than there is room stays in the list, or gets into it. -/
theorem mem_next (unique : offered.Nodup) (nodup : kept.Nodup) {moment : Nat}
    (few : (newer time (offered.toFinset ∪ kept.toFinset) moment).card ≤ room) {item : κ} (isNewer : moment < time item)
    (member : item ∈ offered ∨ item ∈ kept) : item ∈ next time room offered kept := by
  have among : item ∈ (ranked time offered kept).filter (fun item => moment < time item) := by
    rw [List.mem_filter, decide_eq_true_eq]
    exact ⟨mem_all.mpr member, isNewer⟩
  rw [filter_late unique nodup _ fun _ _ late upper => Nat.lt_of_lt_of_le late upper] at among
  exact List.take_subset_take_left _ few among

/-- If all of the room is needed for late items, only these are kept. -/
theorem late_next (unique : offered.Nodup) (nodup : kept.Nodup) {moment : Nat}
    (many : room ≤ ((offered.toFinset ∪ kept.toFinset).filter (moment ≤ time ·)).card) {item : κ}
    (member : item ∈ next time room offered kept) : moment ≤ time item := by
  have first : (ranked time offered kept).filter (moment ≤ time ·) = _ :=
    filter_late unique nodup (moment ≤ time ·) fun _ _ late upper => Nat.le_trans late upper
  have inside := List.take_subset_take_left (ranked time offered kept) many member
  rw [← first, List.mem_filter, decide_eq_true_eq] at inside
  exact inside.2

/-! When the next list is the same. -/

/-- The list is full, and what is left out is older than all of it. -/
def Closed (time : κ → Nat) (room : Nat) (offered kept : List κ) : Prop :=
  ∀ item ∈ offered, item ∉ kept → kept.length = room ∧ ∀ old ∈ kept, time item < time old

theorem same_closed (valid : Kept time room kept) (same : next time room offered kept = kept) : Closed time room offered kept := by
  intro item member left
  have sorted := ranked_falling time offered kept
  have inside : item ∈ ranked time offered kept := mem_all.mpr (.inl member)
  have fresh : item ∈ offered.filter (· ∉ kept) := List.mem_filter.mpr ⟨member, decide_eq_true left⟩
  have whole := List.take_append_drop room (ranked time offered kept)
  rw [show (ranked time offered kept).take room = kept from same] at whole
  rw [← whole] at sorted inside
  have dropped := (List.mem_append.mp inside).resolve_left left
  constructor
  · refine Nat.le_antisymm valid.fits (Nat.le_of_not_lt fun short => ?_)
    rw [List.drop_eq_nil_of_le] at dropped
    · cases dropped
    · have lengths := congrArg List.length same
      rw [next, List.length_take] at lengths
      omega
  · intro old known
    refine Nat.lt_of_le_of_ne ((List.pairwise_append.mp sorted).2.2 old known item dropped) fun equal => ?_
    -- of one time the new items come first, but the list begins with the old ones
    have class' := @newestFirst_at _ time (offered.filter (· ∉ kept) ++ kept) (time item)
    rw [← ranked, ← whole, List.filter_append, List.filter_append] at class'
    have here : old ∈ kept.filter (time · = time item) := by simpa using ⟨known, equal.symm⟩
    have there : item ∈ (offered.filter (· ∉ kept)).filter (time · = time item) := by simpa using ⟨member, left⟩
    obtain ⟨first, more, front⟩ := List.exists_cons_of_ne_nil (List.ne_nil_of_mem here)
    obtain ⟨newest, rest, begins⟩ := List.exists_cons_of_ne_nil (List.ne_nil_of_mem there)
    rw [front, begins, List.cons_append, List.cons_append] at class'
    obtain rfl := (List.cons.inj class').1
    have isOld : first ∈ kept := List.mem_of_mem_filter (front ▸ List.mem_cons_self)
    have isNew : first ∈ offered.filter (· ∉ kept) := List.mem_of_mem_filter (begins ▸ List.mem_cons_self)
    exact of_decide_eq_true (List.mem_filter.mp isNew).2 isOld

theorem closed_same (valid : Kept time room kept) (closed : Closed time room offered kept) : next time room offered kept = kept := by
  by_cases whole : offered.filter (· ∉ kept) = []
  · rw [next, ranked, whole, List.nil_append, newestFirst_falling valid.falling, List.take_of_length_le valid.fits]
  · obtain ⟨item, member⟩ := List.exists_mem_of_ne_nil _ whole
    have fresh := List.mem_filter.mp member
    have full := (closed item fresh.1 (of_decide_eq_true fresh.2)).1
    have known : (offered.filter (· ∉ kept) ++ kept).filter (· ∈ kept) = kept := by
      rw [List.filter_append, List.filter_eq_nil_iff.mpr, List.nil_append, List.filter_eq_self]
      · exact fun old => decide_eq_true
      · exact fun other here there => of_decide_eq_true (List.mem_filter.mp here).2 (of_decide_eq_true there)
    have stays := filter_newestFirst (known.symm ▸ valid.falling : Falling time ((offered.filter (· ∉ kept) ++ kept).filter (· ∈ kept)))
    rw [known, ← ranked] at stays
    have first : (ranked time offered kept).filter (· ∈ kept) = _ :=
      filter_eq_take (ranked_falling time offered kept) fun one among other _ isKept upper => by
        refine decide_eq_true (by_contra fun left => ?_)
        have older := (closed one ((mem_all.mp among).resolve_right left) left).2 other (of_decide_eq_true isKept)
        omega
    rw [stays, List.countP_eq_length_filter, stays, full] at first
    exact first.symm

/-! Lists that never stay the same. -/

/-- The items that are offered and those of the list, which are all that may ever be in it. -/
structure Holds (time : κ → Nat) (room : Nat) (offered : List κ) (all : Finset κ) (moment : Nat) (kept : List κ) : Prop where
  valid : Kept time room kept
  within : offered.toFinset ∪ kept.toFinset ⊆ all
  newest : ∀ item ∈ newer time all moment, item ∈ offered ∨ item ∈ kept

omit [DecidableEq κ] in
theorem newer_mono {some all : Finset κ} (within : some ⊆ all) (moment : Nat) : (newer time some moment).card ≤ (newer time all moment).card :=
  Finset.card_le_card (Finset.filter_subset_filter _ within)

theorem next_within {all : Finset κ} (within : offered.toFinset ∪ kept.toFinset ⊆ all) :
    offered.toFinset ∪ (next time room offered kept).toFinset ⊆ all := by
  intro item member
  apply within
  rw [Finset.mem_union, List.mem_toFinset, List.mem_toFinset] at member ⊢
  exact member.elim .inl mem_of_next

theorem next_holds (unique : offered.Nodup) {all : Finset κ} {moment : Nat} (few : (newer time all moment).card < room)
    (holds : Holds time room offered all moment kept) : Holds time room offered all moment (next time room offered kept) where
  valid := next_kept unique holds.valid
  within := next_within holds.within
  newest := by
    intro item member
    exact .inr (mem_next unique holds.valid.nodup (Nat.le_trans (newer_mono holds.within moment) few.le) (mem_newer.mp member).2 (holds.newest item member))

/-- Where some of what is newer or offered at a moment has no room, something is always left out. -/
theorem holds_changes {all : Finset κ} {moment : Nat} (few : (newer time all moment).card < room)
    (crowd : room < (newer time all moment).card + (offered.toFinset.filter (time · = moment)).card)
    (holds : Holds time room offered all moment kept) : next time room offered kept ≠ kept := by
  intro same
  have closed := same_closed holds.valid same
  have late : ∀ item ∈ offered, moment ≤ time item → item ∈ kept := by
    intro item member isLate
    by_contra left
    obtain ⟨full, older⟩ := closed item member left
    have inside : kept.toFinset ⊆ newer time all moment := by
      intro old known
      refine mem_newer.mpr ⟨holds.within (Finset.mem_union_right _ known), ?_⟩
      exact Nat.lt_of_le_of_lt isLate (older old (List.mem_toFinset.mp known))
    have bound := Finset.card_le_card inside
    rw [List.toFinset_card_of_nodup holds.valid.nodup] at bound
    omega
  have apart : Disjoint (newer time all moment) (offered.toFinset.filter (time · = moment)) := by
    rw [Finset.disjoint_left]
    intro item isNewer here
    exact absurd (mem_newer.mp isNewer).2 (by rw [(Finset.mem_filter.mp here).2]; exact Nat.lt_irrefl _)
  have inside : newer time all moment ∪ offered.toFinset.filter (time · = moment) ⊆ kept.toFinset := by
    intro item member
    rw [List.mem_toFinset]
    rcases Finset.mem_union.mp member with isNewer | here
    · exact (holds.newest item isNewer).elim (fun offer => late item offer (mem_newer.mp isNewer).2.le) id
    · obtain ⟨offer, at'⟩ := Finset.mem_filter.mp here
      exact late item (List.mem_toFinset.mp offer) at'.ge
  have bound := Finset.card_le_card inside
  rw [Finset.card_union_of_disjoint apart, List.toFinset_card_of_nodup holds.valid.nodup] at bound
  have fits := holds.valid.fits
  omega

theorem never_settles (unique : offered.Nodup) (valid : Kept time room kept) {moment : Nat}
    (few : (newer time (offered.toFinset ∪ kept.toFinset) moment).card < room)
    (crowd : room < (newer time (offered.toFinset ∪ kept.toFinset) moment).card + (offered.toFinset.filter (time · = moment)).card) (count : Nat) :
    (next time room offered)^[count + 1] kept ≠ (next time room offered)^[count] kept := by
  have holds : Holds time room offered (offered.toFinset ∪ kept.toFinset) moment ((next time room offered)^[count] kept) := by
    induction count with
    | zero => exact ⟨valid, subset_rfl, fun item member => by simpa using (mem_newer.mp member).1⟩
    | succ count ih =>
      rw [Function.iterate_succ_apply']
      exact next_holds unique few ih
  rw [Function.iterate_succ_apply']
  exact holds_changes few crowd holds

/-! Lists that settle. -/

/-- The list is full, down to items of a moment, and has everything that is newer. -/
structure Full (time : κ → Nat) (room : Nat) (all : Finset κ) (moment : Nat) (kept : List κ) : Prop where
  valid : Kept time room kept
  full : kept.length = room
  within : ∀ item ∈ kept, item ∈ all
  late : ∀ item ∈ kept, moment ≤ time item
  newest : ∀ item ∈ newer time all moment, item ∈ kept

variable {all : Finset κ} {moment : Nat}

/-- A full list with everything that it is offered for the moment stays the same. -/
theorem Full.settled (full : Full time room all moment kept) (offers : ∀ item ∈ offered, item ∈ all)
    (here : ∀ item ∈ offered, time item = moment → item ∈ kept) : next time room offered kept = kept := by
  refine closed_same full.valid fun item member left => ⟨full.full, fun old known => ?_⟩
  refine Nat.lt_of_lt_of_le (Nat.lt_of_le_of_ne ?_ fun same => left (here item member same)) (full.late old known)
  refine Nat.le_of_not_lt fun isNewer => left ?_
  exact full.newest item (mem_newer.mpr ⟨offers item member, isNewer⟩)

theorem Full.many (full : Full time room all moment kept) (offered : List κ) :
    room ≤ ((offered.toFinset ∪ kept.toFinset).filter (moment ≤ time ·)).card := by
  rw [← full.full, ← List.toFinset_card_of_nodup full.valid.nodup]
  refine Finset.card_le_card fun item known => Finset.mem_filter.mpr ⟨Finset.mem_union_right _ known, ?_⟩
  exact full.late item (List.mem_toFinset.mp known)

/-- The items that are offered for the moment come between the newer ones and those of the moment. -/
theorem Full.next_eq (unique : offered.Nodup) (full : Full time room all moment kept) (offers : ∀ item ∈ offered, item ∈ all) :
    next time room offered kept = (kept.filter (moment < time ·) ++ ((offered.filter (· ∉ kept)).filter (time · = moment) ++
      kept.filter (time · = moment))).take room := by
  have sorted := ranked_falling time offered kept
  have none : (offered.filter (· ∉ kept)).filter (moment < time ·) = [] := by
    rw [List.filter_eq_nil_iff]
    intro item fresh isNewer
    obtain ⟨member, left⟩ := List.mem_filter.mp fresh
    exact of_decide_eq_true left (full.newest item (mem_newer.mpr ⟨offers item member, of_decide_eq_true isNewer⟩))
  have above : (ranked time offered kept).filter (moment < time ·) = kept.filter (moment < time ·) := by
    have part : (offered.filter (· ∉ kept) ++ kept).filter (moment < time ·) = kept.filter (moment < time ·) := by
      rw [List.filter_append, none, List.nil_append]
    rw [← part]
    apply filter_newestFirst
    rw [part]
    exact full.valid.falling.filter _
  have at' : (ranked time offered kept).filter (time · = moment) = _ := newestFirst_at _ moment
  rw [List.filter_append] at at'
  have first := filter_late unique full.valid.nodup (moment ≤ time ·) fun _ _ late upper => Nat.le_trans late upper
  rw [← List.append_assoc, List.append_assoc, ← at', ← above, ← filter_from sorted moment, first, List.take_take,
    Nat.min_eq_left (full.many offered), next]

theorem Full.next_full (unique : offered.Nodup) (full : Full time room all moment kept) (offers : ∀ item ∈ offered, item ∈ all) :
    Full time room all moment (next time room offered kept) := by
  have within : offered.toFinset ∪ kept.toFinset ⊆ all := by
    refine Finset.union_subset (fun item member => offers item (List.mem_toFinset.mp member)) fun item known => ?_
    exact full.within item (List.mem_toFinset.mp known)
  have few : (newer time (offered.toFinset ∪ kept.toFinset) moment).card ≤ room := by
    rw [← full.full, ← List.toFinset_card_of_nodup full.valid.nodup]
    refine Finset.card_le_card fun item isNewer => List.mem_toFinset.mpr (full.newest item ?_)
    exact mem_newer.mpr ⟨within (mem_newer.mp isNewer).1, (mem_newer.mp isNewer).2⟩
  refine ⟨next_kept unique full.valid, ?_, ?_, fun _ => late_next unique full.valid.nodup (full.many offered), ?_⟩
  · have length := (newestFirst_perm time (offered.filter (· ∉ kept) ++ kept)).length_eq
    have enough := full.full
    rw [next, List.length_take, ranked, length, List.length_append]
    omega
  · exact fun item member => (mem_of_next member).elim (offers item) (full.within item)
  · intro item isNewer
    exact mem_next unique full.valid.nodup few (mem_newer.mp isNewer).2 (.inr (full.newest item isNewer))

/-- How many items at the front are newer or offered. These do not leave the list again. -/
def front (time : κ → Nat) (offered : List κ) (moment : Nat) (kept : List κ) : List κ :=
  kept.takeWhile fun item => moment < time item ∨ item ∈ offered

theorem Full.front_grows (unique : offered.Nodup) (full : Full time room all moment kept) (offers : ∀ item ∈ offered, item ∈ all)
    (changes : next time room offered kept ≠ kept) :
    min room ((front time offered moment kept).length + 1) ≤ (front time offered moment (next time room offered kept)).length := by
  have parts := filter_from full.valid.falling moment
  rw [List.filter_eq_self.mpr fun item known => decide_eq_true (full.late item known)] at parts
  have above : ∀ item ∈ kept.filter (moment < time ·), decide (moment < time item ∨ item ∈ offered) = true :=
    fun item member => decide_eq_true (.inl (of_decide_eq_true (List.mem_filter.mp member).2))
  have fresh : ∀ item ∈ (offered.filter (· ∉ kept)).filter (time · = moment), decide (moment < time item ∨ item ∈ offered) = true :=
    fun item member => decide_eq_true (.inr (List.mem_filter.mp (List.mem_filter.mp member).1).1)
  have some' : 0 < ((offered.filter (· ∉ kept)).filter (time · = moment)).length := by
    refine List.length_pos_of_ne_nil fun none => changes (full.settled offers fun item member here => ?_)
    by_contra left
    refine List.filter_eq_nil_iff.mp none item (List.mem_filter.mpr ⟨member, decide_eq_true left⟩) (decide_eq_true here)
  have before : (front time offered moment kept).length =
      (kept.filter (moment < time ·)).length + (front time offered moment (kept.filter (time · = moment))).length := by
    have whole := congrArg (fun items => (front time offered moment items).length) parts
    rw [whole, front, List.takeWhile_append_of_pos above, List.length_append, front]
  rw [before, full.next_eq unique offers]
  unfold front
  rw [← List.take_takeWhile, List.takeWhile_append_of_pos above, List.takeWhile_append_of_pos fresh, List.length_take, List.length_append,
    List.length_append]
  omega

/-- There is room for all that is newer than the moment, and all that is offered for it. -/
def Room (time : κ → Nat) (room : Nat) (offered : List κ) (all : Finset κ) (moment : Nat) : Prop :=
  (newer time all moment).card + (offered.toFinset.filter (time · = moment)).card ≤ room

theorem Full.front_whole (full : Full time room all moment kept) (offers : ∀ item ∈ offered, item ∈ all)
    (fits : Room time room offered all moment) (whole : room ≤ (front time offered moment kept).length) : next time room offered kept = kept := by
  have all' : front time offered moment kept = kept := by
    refine (List.takeWhile_prefix _).eq_of_length (Nat.le_antisymm (List.takeWhile_prefix _).length_le ?_)
    rw [full.full]
    exact whole
  have inside : kept.toFinset ⊆ newer time all moment ∪ offered.toFinset.filter (time · = moment) := by
    intro item known
    rw [List.mem_toFinset] at known
    have either := of_decide_eq_true (List.takeWhile_eq_self_iff.mp all' item known)
    rcases Nat.lt_or_ge moment (time item) with isNewer | upper
    · exact Finset.mem_union_left _ (mem_newer.mpr ⟨full.within item known, isNewer⟩)
    · refine Finset.mem_union_right _ (Finset.mem_filter.mpr ⟨?_, Nat.le_antisymm upper (full.late item known)⟩)
      exact List.mem_toFinset.mpr (either.resolve_left (Nat.not_lt.mpr upper))
  have size : (newer time all moment ∪ offered.toFinset.filter (time · = moment)).card ≤ kept.toFinset.card := by
    rw [List.toFinset_card_of_nodup full.valid.nodup, full.full]
    exact Nat.le_trans (Finset.card_union_le _ _) fits
  have equal := Finset.eq_of_subset_of_card_le inside size
  refine full.settled offers fun item member here => List.mem_toFinset.mp ?_
  rw [equal]
  exact Finset.mem_union_right _ (Finset.mem_filter.mpr ⟨List.mem_toFinset.mpr member, here⟩)

theorem Full.settles (unique : offered.Nodup) (offers : ∀ item ∈ offered, item ∈ all) (fits : Room time room offered all moment)
    (full : Full time room all moment kept) : ∃ count, (next time room offered)^[count + 1] kept = (next time room offered)^[count] kept := by
  induction missing : room - (front time offered moment kept).length using Nat.strongRecOn generalizing kept with
  | ind missing ih =>
    by_cases changes : next time room offered kept = kept
    · exact ⟨0, changes⟩
    · have grows := full.front_grows unique offers changes
      have short : (front time offered moment kept).length < room :=
        Nat.lt_of_not_le fun whole => changes (full.front_whole offers fits whole)
      obtain ⟨count, same⟩ := ih _ (by omega) (full.next_full unique offers) rfl
      exact ⟨count + 1, by rwa [Function.iterate_succ_apply, Function.iterate_succ_apply _ count]⟩

omit [DecidableEq κ] in
theorem exists_moment (positive : 0 < room) (more : room < all.card) : ∃ moment, (newer time all moment).card < room ∧
    room ≤ (all.filter (moment ≤ time ·)).card := by
  have some' : ∃ moment, (newer time all moment).card < room := by
    refine ⟨all.sup time, ?_⟩
    have none : newer time all (all.sup time) = ∅ := by
      rw [newer, Finset.filter_eq_empty_iff]
      exact fun item member => Nat.not_lt.mpr (Finset.le_sup member)
    rw [none, Finset.card_empty]
    exact positive
  refine ⟨Nat.find some', Nat.find_spec some', ?_⟩
  cases least : Nat.find some' with
  | zero =>
    rw [Finset.filter_true_of_mem fun item _ => Nat.zero_le _]
    exact more.le
  | succ before =>
    have enough := Nat.find_min some' (show before < Nat.find some' by omega)
    exact Nat.le_of_not_lt enough

/-- The list comes to an end exactly when, at each moment that is reached, all that is offered for it finds room. -/
theorem settles_iff (unique : offered.Nodup) (valid : Kept time room kept) :
    (∃ count, (next time room offered)^[count + 1] kept = (next time room offered)^[count] kept) ↔
      ∀ moment, (newer time (offered.toFinset ∪ kept.toFinset) moment).card < room →
        Room time room offered (offered.toFinset ∪ kept.toFinset) moment := by
  constructor
  · rintro ⟨count, same⟩ moment few
    by_contra crowd
    exact never_settles unique valid few (Nat.lt_of_not_le crowd) count same
  · intro fits
    rcases Nat.eq_zero_or_pos room with rfl | positive
    · refine ⟨0, ?_⟩
      have empty : kept = [] := List.length_eq_zero_iff.mp (Nat.le_zero.mp valid.fits)
      rw [Function.iterate_one, Function.iterate_zero, empty]
      exact List.take_zero
    · by_cases more : room < (offered.toFinset ∪ kept.toFinset).card
      · obtain ⟨moment, few, many⟩ := @exists_moment _ time _ _ positive more
        have offers : ∀ item ∈ offered, item ∈ offered.toFinset ∪ kept.toFinset :=
          fun item member => Finset.mem_union_left _ (List.mem_toFinset.mpr member)
        have full : Full time room (offered.toFinset ∪ kept.toFinset) moment (next time room offered kept) := by
          refine ⟨next_kept unique valid, ?_, ?_, fun _ => late_next unique valid.nodup many, ?_⟩
          · have count := List.toFinset_card_of_nodup (@ranked_nodup _ _ time _ _ unique valid.nodup)
            rw [all_toFinset] at count
            rw [next, List.length_take]
            omega
          · intro item member
            rw [Finset.mem_union, List.mem_toFinset, List.mem_toFinset]
            exact mem_of_next member
          · intro item isNewer
            obtain ⟨member, late⟩ := mem_newer.mp isNewer
            rw [Finset.mem_union, List.mem_toFinset, List.mem_toFinset] at member
            exact mem_next unique valid.nodup few.le late member
        obtain ⟨count, same⟩ := full.settles unique offers (fits moment few)
        exact ⟨count + 1, by rwa [Function.iterate_succ_apply, Function.iterate_succ_apply _ count]⟩
      · -- there is room for all
        refine ⟨1, ?_⟩
        have count := List.toFinset_card_of_nodup (@ranked_nodup _ _ time _ _ unique valid.nodup)
        rw [all_toFinset] at count
        have whole : next time room offered kept = ranked time offered kept :=
          List.take_of_length_le (by omega)
        refine closed_same (next_kept unique valid) fun item member left => absurd ?_ left
        rw [whole]
        exact mem_all.mpr (.inl member)

/-! Items with keys, of which the first with each key are kept, as far as they are among the newest. -/

section Top
universe v
variable {α : Type v} {date : α → Nat} {key : α → κ}

def top (date : α → Nat) (key : α → κ) (room : Nat) (items : List α) : List α := (newestFirst date (firsts key [] items)).take room

theorem mem_of_top {items : List α} {item : α} (member : item ∈ top date key room items) : item ∈ items :=
  (firsts_sublist [] items).subset (mem_newestFirst.mp (List.mem_of_mem_take member))

theorem newestFirst_concat (items : List α) (last : α) : newestFirst date (items ++ [last]) =
    (newestFirst date items).filter (date last ≤ date ·) ++ last :: (newestFirst date items).filter (date · < date last) := by
  have sorted := newestFirst_sorted date items
  refine falling_ext (newestFirst_sorted date _) ?_ fun moment => ?_
  · refine List.pairwise_append.mpr ⟨sorted.filter _, List.pairwise_cons.mpr ⟨?_, sorted.filter _⟩, ?_⟩
    · exact fun other member => (of_decide_eq_true (List.mem_filter.mp member).2 : date other < date last).le
    · intro item member other after
      have upper : date last ≤ date item := of_decide_eq_true (List.mem_filter.mp member).2
      rcases List.mem_cons.mp after with rfl | below
      · exact upper
      · have lower : date other < date last := of_decide_eq_true (List.mem_filter.mp below).2
        exact Nat.le_trans lower.le upper
  · have late : date last ≤ moment → (((newestFirst date items).filter (date last ≤ date ·)).filter (date · = moment)) =
        items.filter (date · = moment) ∧ ((newestFirst date items).filter (date · < date last)).filter (date · = moment) = [] := by
      intro upper
      rw [← newestFirst_at items, List.filter_filter, List.filter_filter]
      refine ⟨List.filter_congr fun item _ => ?_, List.filter_eq_nil_iff.mpr fun item _ => ?_⟩ <;> simp <;> omega
    have early : moment < date last → (((newestFirst date items).filter (date last ≤ date ·)).filter (date · = moment)) = [] ∧
        ((newestFirst date items).filter (date · < date last)).filter (date · = moment) = items.filter (date · = moment) := by
      intro lower
      rw [← newestFirst_at items, List.filter_filter, List.filter_filter]
      refine ⟨List.filter_eq_nil_iff.mpr fun item _ => ?_, List.filter_congr fun item _ => ?_⟩ <;> simp <;> omega
    rw [newestFirst_at, List.filter_append, List.filter_append, List.filter_cons, List.filter_cons, List.filter_nil]
    rcases Nat.lt_or_ge moment (date last) with lower | upper
    · rw [(early lower).1, (early lower).2, if_neg (by simpa using lower.ne'), if_neg (by simpa using lower.ne'), List.append_nil, List.nil_append]
    · rw [(late upper).1, (late upper).2]

/-- What comes after enough items that are as new is left out. -/
theorem take_concat {items : List α} {last : α} (enough : room ≤ items.countP (date last ≤ date ·)) :
    (newestFirst date (items ++ [last])).take room = (newestFirst date items).take room := by
  have first : (newestFirst date items).filter (date last ≤ date ·) = _ :=
    filter_eq_take (newestFirst_sorted date items) fun item _ other _ late upper => decide_eq_true (Nat.le_trans (of_decide_eq_true late) upper)
  have many : room ≤ (newestFirst date items).countP (date last ≤ date ·) := by rwa [(newestFirst_perm date items).countP_eq]
  have length : room ≤ ((newestFirst date items).filter (date last ≤ date ·)).length := by rwa [← List.countP_eq_length_filter]
  rw [newestFirst_concat, List.take_append_of_le_length length, first, List.take_take, Nat.min_eq_left many]

theorem take_append {items more : List α} (enough : ∀ last ∈ more, room ≤ items.countP (date last ≤ date ·)) :
    (newestFirst date (items ++ more)).take room = (newestFirst date items).take room := by
  induction more generalizing items with
  | nil => rw [List.append_nil]
  | cons last rest ih =>
    obtain ⟨first, others⟩ := List.forall_mem_cons.mp enough
    rw [List.append_cons, ih, take_concat first]
    intro other member
    rw [List.countP_append]
    exact Nat.le_add_right_of_le (others other member)

theorem newestFirst_append_newestFirst (items more : List α) : newestFirst date (items ++ newestFirst date more) = newestFirst date (items ++ more) := by
  refine falling_ext (newestFirst_sorted date _) (newestFirst_sorted date _) fun moment => ?_
  rw [newestFirst_at, newestFirst_at, List.filter_append, List.filter_append, newestFirst_at]

theorem top_unique (items : List α) : ((top date key room items).map key).Nodup := by
  have whole : ((newestFirst date (firsts key [] items)).map key).Nodup :=
    ((newestFirst_perm date _).map key).nodup_iff.mpr (firsts_nodup [] items)
  exact whole.sublist ((List.take_sublist ..).map key)

theorem firsts_append_unique {items more : List α} (unique : (more.map key).Nodup) :
    firsts key [] (items ++ more) = firsts key [] items ++ more.filter (key · ∉ items.map key) := by
  rw [firsts_append, firsts_unique unique, List.append_nil]

/-- What is left out stays left out, if items with one key have one time. -/
theorem top_append_top {items more : List α}
    (agree : ∀ first ∈ more ++ items, ∀ second ∈ more ++ items, key first = key second → date first = date second) :
    top date key room (more ++ top date key room items) = top date key room (more ++ items) := by
  have enough : ∀ last ∈ ((newestFirst date (firsts key [] items)).drop room).filter (key · ∉ more.map key),
      room ≤ (firsts key [] more ++ (top date key room items).filter (key · ∉ more.map key)).countP (date last ≤ date ·) := by
    intro last member
    have dropped := (List.mem_filter.mp member).1
    have sorted := newestFirst_sorted date (firsts key [] items)
    rw [← List.take_append_drop room (newestFirst date (firsts key [] items))] at sorted
    have full : (top date key room items).length = room := by
      have nonempty := List.length_pos_of_mem dropped
      rw [List.length_drop] at nonempty
      rw [top, List.length_take]
      omega
    refine Nat.le_trans full.ge ?_
    rw [← List.length_map key, List.countP_eq_length_filter, ← List.length_map key]
    refine ((top_unique items).subperm fun sought known => ?_).length_le
    obtain ⟨item, kept, rfl⟩ := List.mem_map.mp known
    have upper : date last ≤ date item := (List.pairwise_append.mp sorted).2.2 item kept last dropped
    have old := mem_of_top kept
    rw [List.mem_map]
    by_cases again : key item ∈ more.map key
    · obtain ⟨first, isFirst, same⟩ := exists_firsts.mpr (List.mem_map.mp again)
      have equal := agree first (List.mem_append_left _ ((firsts_sublist [] more).subset isFirst)) item (List.mem_append_right _ old) same
      exact ⟨first, List.mem_filter.mpr ⟨List.mem_append_left _ isFirst, decide_eq_true (equal ▸ upper)⟩, same⟩
    · refine ⟨item, List.mem_filter.mpr ⟨List.mem_append_right _ ?_, decide_eq_true upper⟩, rfl⟩
      exact List.mem_filter.mpr ⟨kept, decide_eq_true again⟩
  calc top date key room (more ++ top date key room items)
      = (newestFirst date (firsts key [] more ++ (top date key room items).filter (key · ∉ more.map key))).take room := by
        rw [← firsts_append_unique (top_unique items)]
        rfl
    _ = (newestFirst date (firsts key [] more ++ (newestFirst date (firsts key [] items)).filter (key · ∉ more.map key))).take room := by
        rw [← take_append enough, List.append_assoc, ← List.filter_append, top, List.take_append_drop]
    _ = (newestFirst date (firsts key [] more ++ (firsts key [] items).filter (key · ∉ more.map key))).take room := by
        rw [newestFirst_filter, newestFirst_append_newestFirst]
    _ = top date key room (more ++ items) := by rw [top, firsts_append, List.append_nil, firsts_seen (more.map key)]

/-! The same by the keys. -/

omit [DecidableEq κ] in
theorem map_newestFirst {items : List α} (dated : ∀ item ∈ items, date item = time (key item)) :
    (newestFirst date items).map key = newestFirst time (items.map key) := by
  have mapped : ∀ part : List α, (∀ item ∈ part, date item = time (key item)) → ∀ moment,
      (part.map key).filter (time · = moment) = (part.filter (date · = moment)).map key := by
    intro part dated moment
    rw [List.filter_map]
    refine congrArg (List.map key) (List.filter_congr fun item member => ?_)
    rw [Function.comp_apply, dated item member]
  have still : ∀ item ∈ newestFirst date items, date item = time (key item) := fun item member => dated item (mem_newestFirst.mp member)
  refine falling_ext ?_ (newestFirst_sorted time _) fun moment => ?_
  · refine List.pairwise_map.mpr ((newestFirst_sorted date items).imp_of_mem fun here there upper => ?_)
    rwa [← still _ here, ← still _ there]
  · rw [newestFirst_at, mapped _ still, newestFirst_at, mapped _ dated]

theorem firsts_append_known {items more : List α} (known : ∀ item ∈ more, key item ∈ items.map key) :
    firsts key [] (items ++ more) = firsts key [] items := by
  rw [firsts_append, List.append_nil, firsts_seen (items.map key) more, List.filter_eq_nil_iff.mpr, List.append_nil]
  intro item member left
  exact of_decide_eq_true left (known item ((firsts_sublist [] more).subset member))

/-- Items may be changed before or after, where they keep their keys and times. -/
theorem top_map {items : List α} {change : α → α} (keeps : ∀ item ∈ items, key (change item) = key item ∧ date (change item) = date item) :
    top date key room (items.map change) = (top date key room items).map change := by
  have first : ∀ (seen : List κ) (items : List α), (∀ item ∈ items, key (change item) = key item) →
      firsts key seen (items.map change) = (firsts key seen items).map change := by
    intro seen items keeps
    induction items generalizing seen with
    | nil => rfl
    | cons item rest ih =>
      obtain ⟨same, keeps⟩ := List.forall_mem_cons.mp keeps
      rw [List.map_cons, firsts, firsts, same]
      split
      · exact ih seen keeps
      · rw [List.map_cons, ih _ keeps]
  rw [top, first [] items fun item member => (keeps item member).1, top, List.map_take, map_newestFirst]
  exact fun item member => (keeps item ((firsts_sublist [] items).subset member)).2.symm

variable {offers kept : List α}

theorem firsts_offer (unique : (kept.map key).Nodup) : firsts key [] (offers.filter (key · ∉ kept.map key) ++ kept) =
    (firsts key [] offers).filter (key · ∉ kept.map key) ++ kept := by
  rw [firsts_append_unique unique, filter_firsts fun _ _ _ _ same => by rw [same]]
  congr 1
  rw [List.filter_eq_self]
  intro item member
  apply decide_eq_true
  intro again
  obtain ⟨other, fresh, same⟩ := List.mem_map.mp again
  exact of_decide_eq_true (List.mem_filter.mp fresh).2 (same ▸ List.mem_map_of_mem member)

theorem map_top (unique : (kept.map key).Nodup) (dated : ∀ item ∈ offers ++ kept, date item = time (key item)) :
    (top date key room (offers.filter (key · ∉ kept.map key) ++ kept)).map key =
      next time room ((firsts key [] offers).map key) (kept.map key) := by
  rw [top, firsts_offer unique, List.map_take, map_newestFirst, List.map_append, next, ranked, List.filter_map]
  · rfl
  · intro item member
    apply dated
    rcases List.mem_append.mp member with fresh | old
    · exact List.mem_append_left _ ((firsts_sublist [] offers).subset (List.mem_of_mem_filter fresh))
    · exact List.mem_append_right _ old

theorem top_same (unique : (kept.map key).Nodup)
    (same : (top date key room (offers.filter (key · ∉ kept.map key) ++ kept)).map key = kept.map key) :
    top date key room (offers.filter (key · ∉ kept.map key) ++ kept) = kept := by
  have inside : ∀ item ∈ top date key room (offers.filter (key · ∉ kept.map key) ++ kept), item ∈ kept := by
    intro item member
    have known : key item ∈ kept.map key := same ▸ List.mem_map_of_mem member
    have among := mem_newestFirst.mp (List.mem_of_mem_take member)
    rw [firsts_offer unique] at among
    exact (List.mem_append.mp among).resolve_left fun fresh => of_decide_eq_true (List.mem_filter.mp fresh).2 known
  have lengths := congrArg List.length same
  rw [List.length_map, List.length_map] at lengths
  refine List.ext_getElem lengths fun index here there => ?_
  have equal : (top date key room (offers.filter (key · ∉ kept.map key) ++ kept))[index] ∈ kept := inside _ (List.getElem_mem here)
  refine List.inj_on_of_nodup_map unique equal (List.getElem_mem there) ?_
  have keys := List.getElem_of_eq same (by rwa [List.length_map] : index < _)
  rwa [List.getElem_map, List.getElem_map] at keys

end Top

end K8Sense.Feed
