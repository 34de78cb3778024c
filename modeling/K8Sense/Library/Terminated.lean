import Mathlib.Data.List.Basic

/-! Sequences written one behind the other, each followed by a symbol that ends it. -/

namespace K8Sense.Terminated

universe u
variable {α : Type u} {stop : α}

def write (stop : α) (pieces : List (List α)) : List α := pieces.flatMap fun piece => piece ++ [stop]

theorem write_cons (piece : List α) (pieces : List (List α)) : write stop (piece :: pieces) = piece ++ stop :: write stop pieces := by
  simp [write]

variable [DecidableEq α]

/-- Where as many symbols are alike, the first piece ends at the same place. -/
theorem first_injective {piece other rest others : List α} (count : piece.count stop = other.count stop)
    (same : piece ++ stop :: rest = other ++ stop :: others) : piece = other ∧ rest = others := by
  induction piece generalizing other with
  | nil =>
    cases other with
    | nil => exact ⟨rfl, (List.cons.inj same).2⟩
    | cons symbol other =>
      obtain ⟨rfl, _⟩ := List.cons.inj same
      simp at count
  | cons symbol piece ih =>
    cases other with
    | nil =>
      obtain ⟨rfl, _⟩ := List.cons.inj same
      simp at count
    | cons first other =>
      obtain ⟨rfl, tail⟩ := List.cons.inj same
      have fewer : piece.count stop = other.count stop := by
        rw [List.count_cons, List.count_cons] at count
        omega
      obtain ⟨pieces, others⟩ := ih fewer tail
      exact ⟨by rw [pieces], others⟩

/-- What is written tells the pieces, if it is known how often each has the symbol. -/
theorem write_injective {pieces others : List (List α)} (counts : pieces.map (List.count stop) = others.map (List.count stop))
    (same : write stop pieces = write stop others) : pieces = others := by
  induction pieces generalizing others with
  | nil =>
    rw [List.map_nil] at counts
    exact (List.map_eq_nil_iff.mp counts.symm).symm
  | cons piece pieces ih =>
    cases others with
    | nil => simp at counts
    | cons other others =>
      rw [List.map_cons, List.map_cons] at counts
      have ⟨count, later⟩ := List.cons.inj counts
      rw [write_cons, write_cons] at same
      obtain ⟨pieceSame, rest⟩ := first_injective count same
      rw [pieceSame, ih later rest]

end K8Sense.Terminated
