import K8Sense.Library.Transition

/-! Reading a log that can be begun again, as a watch is that has lost its connection. A reader
that has begun again holds what an earlier pass has left until it has caught up. -/

namespace K8Sense.Replay
open Transition

universe u v w
variable {σ : Type u} {ε : Type v} {τ : Type w}

structure Reader (σ : Type u) where
  state : σ
  /-- How much of the log has been read in this pass, and in any. -/
  position : Nat
  furthest : Nat

inductive Move where
  | next
  | restart

def read (apply : ε → σ → σ) (log : List ε) (reader : Reader σ) : Move → Option (Reader σ)
  | .next => (log[reader.position]?).map fun entry =>
    ⟨apply entry reader.state, reader.position + 1, max reader.furthest (reader.position + 1)⟩
  | .restart => some { reader with position := 0 }

def start (state : σ) : Reader σ := ⟨state, 0, 0⟩

/-- The state after the first entries of the log, each read once. -/
def reached (apply : ε → σ → σ) (log : List ε) (state : σ) (count : Nat) : σ :=
  (log.take count).foldl (fun state entry => apply entry state) state

variable {apply : ε → σ → σ} {log : List ε} {initial : σ}

theorem reached_succ {count : Nat} {entry : ε} (found : log[count]? = some entry) :
    reached apply log initial (count + 1) = apply entry (reached apply log initial count) := by
  rw [reached, List.take_add_one, found, List.foldl_append]
  rfl

/-- Some entry between two positions makes the state forget what it was. -/
def ResetBetween (resets : ε → Prop) (log : List ε) (first last : Nat) : Prop :=
  ∃ index entry, first ≤ index ∧ index < last ∧ log[index]? = some entry ∧ resets entry

/-- What entries have to do with each other. A reset leads to a state of its own, and an
entry that has been read, and not been undone by a reset, changes nothing when it is
read again. -/
structure Rereadable (apply : ε → σ → σ) (resets : ε → Prop) (log : List ε) (initial : σ) : Prop where
  forgets : ∀ entry state other, resets entry → apply entry state = apply entry other
  absorbed : ∀ index entry count, log[index]? = some entry → index < count → count ≤ log.length →
    ¬ResetBetween resets log index count → apply entry (reached apply log initial count) = reached apply log initial count

/-- A reset is still to come, or the state is that of some point of the log that is not behind the reader. -/
def Trails (apply : ε → σ → σ) (resets : ε → Prop) (log : List ε) (initial : σ) (reader : Reader σ) : Prop :=
  reader.position ≤ reader.furthest ∧ reader.furthest ≤ log.length ∧
    (ResetBetween resets log reader.position reader.furthest ∨
      ∃ count, reader.position ≤ count ∧ count ≤ reader.furthest ∧ ¬ResetBetween resets log reader.position count ∧
        reader.state = reached apply log initial count)

variable {resets : ε → Prop}

theorem trails_restart {reader : Reader σ} (trails : Trails apply resets log initial reader) :
    Trails apply resets log initial { reader with position := 0 } := by
  obtain ⟨_, bounded, holds⟩ := trails
  refine ⟨Nat.zero_le _, bounded, ?_⟩
  by_cases reset : ResetBetween resets log 0 reader.furthest
  · exact .inl reset
  · obtain ⟨index, entry, _, before, found, forgets⟩ | ⟨count, _, within, _, same⟩ := holds
    · exact absurd ⟨index, entry, Nat.zero_le _, before, found, forgets⟩ reset
    · refine .inr ⟨count, Nat.zero_le _, within, ?_, same⟩
      rintro ⟨index, entry, from', before, found, forgets⟩
      exact reset ⟨index, entry, from', Nat.lt_of_lt_of_le before within, found, forgets⟩

theorem not_resetBetween_self (first : Nat) : ¬ResetBetween resets log first first := by
  rintro ⟨index, _, from', before, _⟩
  omega

theorem trails_next (rereadable : Rereadable apply resets log initial) {reader : Reader σ} {entry : ε}
    (trails : Trails apply resets log initial reader) (found : log[reader.position]? = some entry) :
    Trails apply resets log initial ⟨apply entry reader.state, reader.position + 1, max reader.furthest (reader.position + 1)⟩ := by
  obtain ⟨behind, bounded, holds⟩ := trails
  have inside : reader.position < log.length := (List.getElem?_eq_some_iff.mp found).1
  refine ⟨Nat.le_max_right _ _, Nat.max_le.mpr ⟨bounded, inside⟩, ?_⟩
  -- The reader is where the state of the log is known once it has read a reset, or the entry for the first time.
  have arrived : apply entry reader.state = reached apply log initial (reader.position + 1) →
      ∃ count, reader.position + 1 ≤ count ∧ count ≤ max reader.furthest (reader.position + 1) ∧
        ¬ResetBetween resets log (reader.position + 1) count ∧ apply entry reader.state = reached apply log initial count :=
    fun same => ⟨reader.position + 1, Nat.le_refl _, Nat.le_max_right _ _, not_resetBetween_self _, same⟩
  obtain ⟨index, other, from', before, there, forgets⟩ | ⟨count, from', within, clear, same⟩ := holds
  · by_cases here : index = reader.position
    · subst here
      rw [found, Option.some.injEq] at there
      subst there
      right
      apply arrived
      rw [reached_succ found]
      exact rereadable.forgets entry _ _ forgets
    · have later : reader.position + 1 ≤ index := Nat.lt_of_le_of_ne from' (Ne.symm here)
      exact .inl ⟨index, other, later, Nat.lt_of_lt_of_le before (Nat.le_max_left _ _), there, forgets⟩
  · right
    by_cases here : count = reader.position
    · subst here
      apply arrived
      rw [reached_succ found, same]
    · have later : reader.position + 1 ≤ count := Nat.lt_of_le_of_ne from' (Ne.symm here)
      refine ⟨count, later, Nat.le_trans within (Nat.le_max_left _ _), ?_, ?_⟩
      · rintro ⟨index, other, after, before, there, forgets⟩
        exact clear ⟨index, other, Nat.le_of_succ_le after, before, there, forgets⟩
      · rw [same]
        exact rereadable.absorbed reader.position entry count found later (Nat.le_trans within bounded) clear

theorem trails_of_run (rereadable : Rereadable apply resets log initial) {moves : List Move} {reader : Reader σ}
    (ran : run (read apply log) (start initial) moves = some reader) : Trails apply resets log initial reader := by
  apply always (Trails apply resets log initial) ?_ ?_ ran
  · intro reader move next trails taken
    cases move with
    | next =>
      obtain ⟨entry, found, rfl⟩ := Option.map_eq_some_iff.mp taken
      exact trails_next rereadable trails found
    | restart =>
      cases taken
      exact trails_restart trails
  · exact ⟨Nat.le_refl _, Nat.zero_le _, .inr ⟨0, Nat.le_refl _, Nat.le_refl _, not_resetBetween_self _, rfl⟩⟩

/-- A reader that has caught up has the state of a log that has been read once, however
often it has begun again. -/
theorem caught_up (rereadable : Rereadable apply resets log initial) {moves : List Move} {reader : Reader σ}
    (ran : run (read apply log) (start initial) moves = some reader) (caught : reader.position = reader.furthest) :
    reader.state = reached apply log initial reader.position := by
  obtain ⟨_, _, holds⟩ := trails_of_run rereadable ran
  rw [← caught] at holds
  obtain reset | ⟨count, from', within, _, same⟩ := holds
  · exact absurd reset (not_resetBetween_self _)
  · rw [same, Nat.le_antisymm within from']

/-! A part of the state that is read on its own. -/

def Reader.map (project : σ → τ) (reader : Reader σ) : Reader τ := ⟨project reader.state, reader.position, reader.furthest⟩

variable {project : σ → τ} {other : ε → τ → τ}

theorem reached_map (commutes : ∀ entry state, project (apply entry state) = other entry (project state)) (count : Nat) :
    project (reached apply log initial count) = reached other log (project initial) count := by
  unfold reached
  generalize log.take count = entries
  induction entries generalizing initial with
  | nil => rfl
  | cons entry rest ih => rw [List.foldl_cons, List.foldl_cons, ih, commutes]

theorem run_map (commutes : ∀ entry state, project (apply entry state) = other entry (project state)) {reader last : Reader σ}
    {moves : List Move} (ran : run (read apply log) reader moves = some last) :
    run (read other log) (reader.map project) moves = some (last.map project) := by
  induction moves generalizing reader with
  | nil =>
    cases ran
    rfl
  | cons move rest ih =>
    rw [run_cons, Option.bind_eq_some_iff] at ran
    obtain ⟨next, taken, ran⟩ := ran
    have follows : read other log (reader.map project) move = some (next.map project) := by
      cases move with
      | next =>
        obtain ⟨entry, found, rfl⟩ := Option.map_eq_some_iff.mp taken
        refine Option.map_eq_some_iff.mpr ⟨entry, found, ?_⟩
        rw [Reader.map, Reader.map, commutes]
      | restart =>
        cases taken
        rfl
    rw [run_step follows]
    exact ih ran

end K8Sense.Replay
