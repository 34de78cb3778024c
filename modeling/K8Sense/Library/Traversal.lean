import Mathlib.Data.List.Nodup
import Mathlib.Logic.Relation

/-! Depth-first traversals that carry a state through the nodes and the links between them. -/

namespace K8Sense.Traversal
open Relation

/-- What a traversal does where it enters a node and where it passes a link, which is
done from then on. -/
structure Walk (ν link σ : Type) where
  links : ν → List link
  target : link → Option ν
  seen : σ → List ν
  enter : ν → σ → σ
  pass : link → σ → σ
  done : link → σ → Prop
  seen_enter : ∀ node state, seen (enter node state) = seen state ++ [node]
  seen_pass : ∀ link state, seen (pass link state) = seen state
  done_enter : ∀ link node state, done link state → done link (enter node state)
  done_pass : ∀ link other state, done link state → done link (pass other state)
  pass_done : ∀ link state, done link (pass link state)

variable {ν link σ : Type} (walk : Walk ν link σ)

/-- A link leads from one node to the other. -/
def Walk.Next (node other : ν) : Prop := ∃ link ∈ walk.links node, walk.target link = some other

def Walk.Reach : ν → ν → Prop := ReflTransGen walk.Next

/-- All links of the node have been followed. -/
def Walk.Settled (state : σ) (node : ν) : Prop :=
  ∀ link ∈ walk.links node, walk.done link state ∧ ∀ other, walk.target link = some other → other ∈ walk.seen state

/-- New nodes of a kind have been entered, each once, and are settled. -/
structure Walk.Grows (kind : ν → Prop) (before after : σ) (new : List ν) : Prop where
  seen : walk.seen after = walk.seen before ++ new
  distinct : new.Nodup
  unseen : ∀ node ∈ new, node ∉ walk.seen before
  kind : ∀ node ∈ new, kind node
  settled : ∀ node ∈ new, walk.Settled after node
  done : ∀ link, walk.done link before → walk.done link after

section
variable {walk} {kind : ν → Prop} {before middle after : σ}

theorem Walk.Settled.mono {node : ν} (settled : walk.Settled before node) (seen : walk.seen before ⊆ walk.seen after)
    (done : ∀ link, walk.done link before → walk.done link after) : walk.Settled after node := by
  intro link member
  obtain ⟨was, there⟩ := settled link member
  exact ⟨done link was, fun other leads => seen (there other leads)⟩

theorem Walk.Grows.subset {new : List ν} (grows : walk.Grows kind before after new) : walk.seen before ⊆ walk.seen after := by
  rw [grows.seen]
  exact List.subset_append_left _ _

theorem Walk.Grows.refl (state : σ) : walk.Grows kind state state [] :=
  ⟨(List.append_nil _).symm, List.nodup_nil, nofun, nofun, nofun, fun _ => id⟩

theorem Walk.Grows.pass (link : link) (state : σ) : walk.Grows kind state (walk.pass link state) [] :=
  ⟨by rw [walk.seen_pass, List.append_nil], List.nodup_nil, nofun, nofun, nofun, fun other => walk.done_pass other link state⟩

theorem Walk.Grows.trans {new later : List ν} (first : walk.Grows kind before middle new) (second : walk.Grows kind middle after later) :
    walk.Grows kind before after (new ++ later) := by
  refine ⟨?_, ?_, ?_, ?_, ?_, fun link was => second.done link (first.done link was)⟩
  · rw [second.seen, first.seen, List.append_assoc]
  · rw [List.nodup_append]
    refine ⟨first.distinct, second.distinct, ?_⟩
    rintro node inside _ also rfl
    apply second.unseen node also
    rw [first.seen]
    exact List.mem_append_right _ inside
  · intro node member there
    rcases List.mem_append.mp member with inside | inside
    · exact first.unseen node inside there
    · exact second.unseen node inside (first.subset there)
  · intro node member
    exact (List.mem_append.mp member).elim (first.kind node) (second.kind node)
  · intro node member
    rcases List.mem_append.mp member with inside | inside
    · exact (first.settled node inside).mono second.subset second.done
    · exact second.settled node inside

variable [DecidableEq ν]

/-- How many of some nodes have not been entered. -/
def Walk.unseen (walk : Walk ν link σ) (all : List ν) (state : σ) : Nat := (all.filter fun node => node ∉ walk.seen state).length

theorem Walk.unseen_mono {all : List ν} (subset : walk.seen before ⊆ walk.seen after) : walk.unseen all after ≤ walk.unseen all before := by
  apply List.Sublist.length_le
  apply List.monotone_filter_right
  intro node absent
  simp only [decide_eq_true_eq] at absent ⊢
  exact fun there => absent (subset there)

theorem Walk.unseen_enter {all : List ν} {node : ν} (member : node ∈ all) (fresh : node ∉ walk.seen before) :
    walk.unseen all (walk.enter node before) < walk.unseen all before := by
  have split : (all.filter fun other => other ∉ walk.seen (walk.enter node before)) =
      (all.filter fun other => other ∉ walk.seen before).filter fun other => other ≠ node := by
    rw [List.filter_filter]
    apply List.filter_congr
    intro other _
    rw [walk.seen_enter]
    simp [and_comm]
  unfold Walk.unseen
  rw [split, List.length_filter_lt_length_iff_exists]
  exact ⟨node, by simp [member, fresh], by simp⟩

end

section
variable [DecidableEq ν]

def Walk.follow (walk : Walk ν link σ) (go : ν → σ → σ) (state : σ) (link : link) : σ :=
  match walk.target link with
  | some node => go node (walk.pass link state)
  | none => walk.pass link state

/-- A node is entered once, and its links are followed in their order. -/
def Walk.visit (walk : Walk ν link σ) : Nat → ν → σ → σ
  | 0, _, state => state
  | fuel + 1, node, state =>
    if node ∈ walk.seen state then state else (walk.links node).foldl (walk.follow (visit walk fuel)) (walk.enter node state)

variable {walk} {kind : ν → Prop} {all : List ν}

/-- Where all nodes of a kind are known and links lead to nodes of the kind alone. -/
structure Walk.Within (walk : Walk ν link σ) (kind : ν → Prop) (all : List ν) : Prop where
  known : ∀ node, kind node → node ∈ all
  closed : ∀ node other, kind node → walk.Next node other → kind other

theorem Walk.Within.follow (within : walk.Within kind all) {go : ν → σ → σ} {fuel : Nat}
    (goes : ∀ node state, kind node → walk.unseen all state ≤ fuel →
      (∃ new, walk.Grows kind state (go node state) new) ∧ node ∈ walk.seen (go node state))
    {node : ν} (inside : kind node) {links : List link} (subset : links ⊆ walk.links node) {state : σ}
    (enough : walk.unseen all state ≤ fuel) :
    (∃ new, walk.Grows kind state (links.foldl (walk.follow go) state) new) ∧
      ∀ link ∈ links, walk.done link (links.foldl (walk.follow go) state) ∧
        ∀ other, walk.target link = some other → other ∈ walk.seen (links.foldl (walk.follow go) state) := by
  induction links generalizing state with
  | nil => exact ⟨⟨[], .refl state⟩, nofun⟩
  | cons link rest ih =>
    rw [List.foldl_cons]
    obtain ⟨member, others⟩ := List.cons_subset.mp subset
    -- One link is done after it is followed, and its target has been entered.
    have one : (∃ new, walk.Grows kind state (walk.follow go state link) new) ∧ walk.done link (walk.follow go state link) ∧
        ∀ other, walk.target link = some other → other ∈ walk.seen (walk.follow go state link) := by
      have passed : walk.Grows kind state (walk.pass link state) [] := .pass link state
      unfold Walk.follow
      cases leads : walk.target link with
      | none => exact ⟨⟨[], passed⟩, walk.pass_done link state, nofun⟩
      | some other =>
        have known : kind other := within.closed node other inside ⟨link, member, leads⟩
        have less : walk.unseen all (walk.pass link state) ≤ fuel := Nat.le_trans (Walk.unseen_mono passed.subset) enough
        obtain ⟨⟨new, grows⟩, there⟩ := goes other (walk.pass link state) known less
        refine ⟨⟨_, passed.trans grows⟩, grows.done link (walk.pass_done link state), ?_⟩
        rintro _ ⟨⟩
        exact there
    obtain ⟨⟨new, grows⟩, done, there⟩ := one
    obtain ⟨⟨later, then'⟩, rests⟩ := ih others (Nat.le_trans (Walk.unseen_mono grows.subset) enough)
    refine ⟨⟨_, grows.trans then'⟩, ?_⟩
    intro another inList
    rcases List.mem_cons.mp inList with rfl | later
    · exact ⟨then'.done another done, fun other leads => then'.subset (there other leads)⟩
    · exact rests another later

/-- With fuel for the nodes that have not been entered, a visit enters the node and
settles what it enters. -/
theorem Walk.Within.visit (within : walk.Within kind all) {fuel : Nat} {node : ν} {state : σ} (inside : kind node)
    (enough : walk.unseen all state ≤ fuel) :
    (∃ new, walk.Grows kind state (walk.visit fuel node state) new) ∧ node ∈ walk.seen (walk.visit fuel node state) := by
  induction fuel generalizing node state with
  | zero =>
    refine ⟨⟨[], .refl state⟩, ?_⟩
    have none := List.eq_nil_of_length_eq_zero (Nat.le_zero.mp enough)
    have there := List.filter_eq_nil_iff.mp none node (within.known node inside)
    rw [decide_eq_true_eq, not_not] at there
    exact there
  | succ fuel ih =>
    unfold Walk.visit
    split
    next there => exact ⟨⟨[], .refl state⟩, there⟩
    next fresh =>
      have less : walk.unseen all (walk.enter node state) ≤ fuel := by
        have fewer := Walk.unseen_enter (within.known node inside) fresh
        omega
      have followed := within.follow (fun other state known enough => ih known enough) inside (List.Subset.refl _) less
      obtain ⟨⟨new, grows⟩, settled⟩ := followed
      generalize (walk.links node).foldl _ _ = final at grows settled
      have seen : walk.seen final = walk.seen state ++ node :: new := by
        rw [grows.seen, walk.seen_enter, List.append_assoc]
        rfl
      refine ⟨⟨node :: new, seen, ?_, ?_, ?_, ?_, ?_⟩, ?_⟩
      · refine List.nodup_cons.mpr ⟨fun again => grows.unseen node again ?_, grows.distinct⟩
        simp [walk.seen_enter]
      · intro other member
        rcases List.mem_cons.mp member with rfl | later
        · exact fresh
        · exact fun there => grows.unseen other later (by simp [walk.seen_enter, there])
      · intro other member
        rcases List.mem_cons.mp member with rfl | later
        · exact inside
        · exact grows.kind other later
      · intro other member
        rcases List.mem_cons.mp member with rfl | later
        · exact settled
        · exact grows.settled other later
      · exact fun link was => grows.done link (walk.done_enter link node state was)
      · simp [seen]

/-- A visit of a node enters nodes that can be reached from it. -/
theorem Walk.Within.visit_reach (within : walk.Within kind all) {fuel : Nat} {node : ν} {state : σ} (inside : kind node)
    (enough : walk.unseen all state ≤ fuel) :
    (∃ new, walk.Grows (fun other => kind other ∧ walk.Reach node other) state (walk.visit fuel node state) new) ∧
      node ∈ walk.seen (walk.visit fuel node state) := by
  have reached : walk.Within (fun other => kind other ∧ walk.Reach node other) all :=
    ⟨fun other known => within.known other known.1,
      fun other next known leads => ⟨within.closed other next known.1 leads, known.2.tail leads⟩⟩
  exact reached.visit ⟨inside, .refl⟩ enough

/-- All that has been entered is settled. -/
def Walk.Complete (walk : Walk ν link σ) (state : σ) : Prop := ∀ node ∈ walk.seen state, walk.Settled state node

omit [DecidableEq ν] in
theorem Walk.Complete.reach {state : σ} (complete : walk.Complete state) {node other : ν} (there : node ∈ walk.seen state)
    (reach : walk.Reach node other) : other ∈ walk.seen state := by
  induction reach with
  | refl => exact there
  | tail _ leads ih =>
    obtain ⟨link, member, target⟩ := leads
    exact (complete _ ih link member).2 _ target

omit [DecidableEq ν] in
theorem Walk.Grows.complete {before after : σ} {new : List ν} (grows : walk.Grows kind before after new)
    (complete : walk.Complete before) : walk.Complete after := by
  intro node there
  rw [grows.seen] at there
  rcases List.mem_append.mp there with old | member
  · exact (complete node old).mono grows.subset grows.done
  · exact grows.settled node member

/-- Visits from some roots enter, on top of what was complete, what can be reached from them. -/
theorem Walk.Within.roots (within : walk.Within kind all) {fuel : Nat} (enough : all.length ≤ fuel) {roots : List ν}
    (inside : ∀ root ∈ roots, kind root) {state : σ} (complete : walk.Complete state) (node : ν) :
    node ∈ walk.seen (roots.foldl (fun state root => walk.visit fuel root state) state) ↔
      node ∈ walk.seen state ∨ ∃ root ∈ roots, walk.Reach root node := by
  induction roots generalizing state with
  | nil => simp
  | cons root rest ih =>
    rw [List.foldl_cons]
    have less : walk.unseen all state ≤ fuel := Nat.le_trans (List.length_filter_le _ _) enough
    obtain ⟨⟨new, grows⟩, there⟩ := within.visit_reach (inside root (.head _)) less
    have closed := grows.complete complete
    rw [ih (fun other member => inside other (.tail _ member)) closed]
    simp only [List.mem_cons, exists_eq_or_imp, ← or_assoc]
    apply or_congr_left
    constructor
    · intro member
      rw [grows.seen] at member
      rcases List.mem_append.mp member with old | new
      · exact .inl old
      · exact .inr (grows.kind node new).2
    · rintro (old | reach)
      · exact grows.subset old
      · exact closed.reach there reach

theorem Walk.visit_mono (fuel : Nat) (node : ν) (state : σ) : walk.seen state ⊆ walk.seen (walk.visit fuel node state) := by
  induction fuel generalizing node state with
  | zero => exact List.Subset.refl _
  | succ fuel ih =>
    unfold Walk.visit
    split
    · exact List.Subset.refl _
    · have entered : walk.seen state ⊆ walk.seen (walk.enter node state) := by
        rw [walk.seen_enter]
        exact List.subset_append_left _ _
      refine List.foldlRecOn (motive := fun after => walk.seen state ⊆ walk.seen after) _ _ entered ?_
      intro after subset link _
      have passed : walk.seen state ⊆ walk.seen (walk.pass link after) := by rwa [walk.seen_pass]
      unfold Walk.follow
      split
      · exact List.Subset.trans passed (ih _ _)
      · exact passed

/-- One traversal of nodes of a kind does what another does, with its links and its
state in place of the other's. -/
structure Walk.Simulates {link' τ : Type} (walk : Walk ν link σ) (other : Walk ν link' τ) (toLink : link → link') (kind : ν → Prop)
    (same : σ → τ → Prop) : Prop where
  links : ∀ node, other.links node = (walk.links node).map toLink
  target : ∀ link, other.target (toLink link) = walk.target link
  closed : ∀ node next, kind node → walk.Next node next → kind next
  seen : ∀ {node state state'}, kind node → same state state' → (node ∈ walk.seen state ↔ node ∈ other.seen state')
  enter : ∀ {node state state'}, kind node → node ∉ walk.seen state → same state state' → same (walk.enter node state) (other.enter node state')
  pass : ∀ {node link state state'}, kind node → node ∈ walk.seen state → link ∈ walk.links node → same state state' →
    same (walk.pass link state) (other.pass (toLink link) state')

theorem Walk.Simulates.visit {link' τ : Type} {other : Walk ν link' τ} {toLink : link → link'} {same : σ → τ → Prop}
    (simulates : walk.Simulates other toLink kind same) (fuel : Nat) {node : ν} {state : σ} {state' : τ} (inside : kind node)
    (start : same state state') : same (walk.visit fuel node state) (other.visit fuel node state') := by
  induction fuel generalizing node state state' with
  | zero => exact start
  | succ fuel ih =>
    unfold Walk.visit
    by_cases there : node ∈ walk.seen state
    · rw [if_pos there, if_pos ((simulates.seen inside start).mp there)]
      exact start
    · rw [if_neg there, if_neg fun here => there ((simulates.seen inside start).mpr here), simulates.links, List.foldl_map]
      have entered : node ∈ walk.seen (walk.enter node state) := by simp [walk.seen_enter]
      have follow : ∀ links ⊆ walk.links node, ∀ {before before'}, same before before' → node ∈ walk.seen before →
          same (links.foldl (walk.follow (walk.visit fuel)) before)
            (links.foldl (fun after link => other.follow (other.visit fuel) after (toLink link)) before') := by
        intro links subset
        induction links with
        | nil => exact fun start _ => start
        | cons link rest rests =>
          intro before before' start seen
          obtain ⟨member, others⟩ := List.cons_subset.mp subset
          have passed := simulates.pass inside seen member start
          have stays : node ∈ walk.seen (walk.pass link before) := by rwa [walk.seen_pass]
          rw [List.foldl_cons, List.foldl_cons]
          unfold Walk.follow
          rw [simulates.target]
          cases leads : walk.target link with
          | none => exact rests others passed stays
          | some next =>
            have reached := ih (simulates.closed node next inside ⟨link, member, leads⟩) passed
            exact rests others reached (walk.visit_mono fuel next _ stays)
      exact follow _ (List.Subset.refl _) (simulates.enter inside there start) entered

/-- What entering new nodes of a kind and passing their links preserves, a visit preserves. -/
theorem Walk.visit_invariant {holds : σ → Prop} (closed : ∀ node next, kind node → walk.Next node next → kind next)
    (enter : ∀ node state, kind node → node ∉ walk.seen state → holds state → holds (walk.enter node state))
    (pass : ∀ node link state, kind node → node ∈ walk.seen state → link ∈ walk.links node → holds state → holds (walk.pass link state))
    (fuel : Nat) {node : ν} {state : σ} (inside : kind node) (start : holds state) : holds (walk.visit fuel node state) := by
  have simulates : walk.Simulates walk (fun link => link) kind (fun first second => first = second ∧ holds first) := by
    refine ⟨fun node => (List.map_id' _).symm, fun _ => rfl, closed, ?_, ?_, ?_⟩
    · rintro node state _ _ ⟨rfl, _⟩
      rfl
    · rintro node state _ known fresh ⟨rfl, held⟩
      exact ⟨rfl, enter node state known fresh held⟩
    · rintro node link state _ known seen member ⟨rfl, held⟩
      exact ⟨rfl, pass node link state known seen member held⟩
  exact (simulates.visit fuel inside ⟨rfl, start⟩).2

end

end K8Sense.Traversal
