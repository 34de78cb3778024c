import K8Sense.Doctor.Upgrade

/-! Reading API versions out of a manifest line by line, beside what YAML says of
the same lines. The scan goes by marker lines and knows neither the level nor the
style of what it finds. -/

namespace K8Sense.Doctor.Upgrade
open Text

/-- A line of a manifest with what YAML makes of it: the entries of the top level
of its document that begin here and have a scalar for a value. -/
structure Line where
  text : String
  single : '\n' ∉ text.toList
  entries : List (String × String)

abbrev Document := List Line

def manifestText (documents : List Document) : String := join '\n' (documents.flatten.map Line.text)

def topLevel (key : String) (document : Document) : Option String := (document.flatMap Line.entries).lookup key

/-- The `apiVersion` and the `kind` of a document that has both. -/
def documentPair (document : Document) : Option (String × String) := do
  let apiVersion ← topLevel "apiVersion" document
  let kind ← topLevel "kind" document
  return (apiVersion, kind)

/-- The scan finds what the documents say, in their order. -/
def Extracted (documents : List Document) : Prop :=
  manifestAPIVersions (manifestText documents) = documents.filterMap documentPair

/-- The lines that the scan looks for, with the text after their colon. -/
inductive Marker where
  | separator
  | apiVersion (value : String)
  | kind (value : String)
deriving DecidableEq

def marker (line : String) : Option Marker :=
  let trimmed := trimSpace line
  if trimmed = "---" then some .separator
  else if "apiVersion:".toList.isPrefixOf trimmed.toList then some (.apiVersion (trimSpace (trimPrefix "apiVersion:" trimmed)))
  else if "kind:".toList.isPrefixOf trimmed.toList then some (.kind (trimSpace (trimPrefix "kind:" trimmed)))
  else none

/-- A version with a kind next to it. -/
def couple : Marker × Marker → Option (String × String)
  | (.apiVersion version, .kind kind) => if version = "" then none else some (version, kind)
  | _ => none

/-- The versions that are followed by a kind. -/
def couples (markers : List Marker) : List (String × String) := (markers.zip markers.tail).filterMap couple

def markers (document : Document) : List Marker := document.filterMap fun line => marker line.text

theorem couples_cons (first second : Marker) (rest : List Marker) :
    couples (first :: second :: rest) = (couple (first, second)).toList ++ couples (second :: rest) := by
  simp only [couples, List.tail_cons, List.zip_cons_cons]
  cases found : couple (first, second) <;> simp [found]

theorem couples_concat (front : List Marker) (last : Marker) :
    couples (front ++ [last]) = couples front ++ (front.getLast?.bind fun before => couple (before, last)).toList := by
  induction front with
  | nil => rfl
  | cons first rest ih =>
    cases rest with
    | nil =>
      rw [List.singleton_append, couples_cons]
      simp [couples]
    | cons second others =>
      rw [List.cons_append, List.cons_append, couples_cons, couples_cons, ← List.cons_append, ih, List.append_assoc,
        List.getLast?_cons_cons]

theorem couples_append (front back : List Marker) :
    couples (front ++ back) = couples front ++ couples (front.getLast?.toList ++ back) := by
  induction back using List.reverseRecOn with
  | nil => cases front.getLast? <;> simp [couples]
  | append_singleton middle last ih =>
    have same : (front ++ middle).getLast? = (front.getLast?.toList ++ middle).getLast? := by
      rw [List.getLast?_append, List.getLast?_append]
      cases front.getLast? <;> rfl
    rw [← List.append_assoc, couples_concat, ih, ← List.append_assoc, couples_concat, List.append_assoc, same]

/-- The version that is pending after these markers. -/
def pending (markers : List Marker) : String :=
  match markers.getLast? with
  | some (.apiVersion version) => version
  | _ => ""

theorem scan_eq (lines : List String) :
    lines.foldl manifestLine ("", []) = (pending (lines.filterMap marker), couples (lines.filterMap marker)) := by
  induction lines using List.reverseRecOn with
  | nil => rfl
  | append_singleton front line ih =>
    rw [List.foldl_append, ih, List.filterMap_append, List.foldl_cons, List.foldl_nil]
    unfold manifestLine
    extract_lets trimmed
    split
    next separates =>
      have found : marker line = some .separator := if_pos separates
      simp only [List.filterMap_cons, found, List.filterMap_nil, couples_concat, pending, List.getLast?_concat]
      cases (front.filterMap marker).getLast? with
      | none => simp
      | some last => cases last <;> simp [couple]
    next other =>
      split
      next versioned =>
        have found : marker line = some (.apiVersion (trimSpace (trimPrefix "apiVersion:" trimmed))) := by
          unfold marker
          rw [if_neg other, if_pos versioned]
        simp only [List.filterMap_cons, found, List.filterMap_nil, couples_concat, pending, List.getLast?_concat]
        cases (front.filterMap marker).getLast? with
        | none => simp
        | some last => cases last <;> simp [couple]
      next unversioned =>
        split
        next named =>
          have found : marker line = some (.kind (trimSpace (trimPrefix "kind:" trimmed))) := by
            unfold marker
            rw [if_neg other, if_neg unversioned, if_pos named.1]
          have waiting := named.2
          simp only [List.filterMap_cons, found, List.filterMap_nil, couples_concat, pending, List.getLast?_concat] at waiting ⊢
          cases last : (front.filterMap marker).getLast? with
          | none => simp [last] at waiting
          | some marker => cases marker <;> simp_all [couple]
        next plain =>
          by_cases named : "kind:".toList.isPrefixOf trimmed.toList = true
          · have found : marker line = some (.kind (trimSpace (trimPrefix "kind:" trimmed))) := by
              unfold marker
              rw [if_neg other, if_neg unversioned, if_pos named]
            have waiting : pending (front.filterMap marker) = "" := by
              by_contra waiting
              exact plain ⟨named, waiting⟩
            rw [waiting]
            unfold pending at waiting ⊢
            simp only [List.filterMap_cons, found, List.filterMap_nil, couples_concat, List.getLast?_concat]
            cases last : (front.filterMap marker).getLast? with
            | none => simp
            | some marker => cases marker <;> simp_all [couple]
          · have found : marker line = none := by
              unfold marker
              rw [if_neg other, if_neg unversioned, if_neg named]
            simp [found]

theorem manifest_couples (documents : List Document) :
    manifestAPIVersions (manifestText documents) = couples (markers documents.flatten) := by
  unfold manifestAPIVersions manifestText
  rw [scan_eq]
  by_cases empty : documents.flatten = []
  · rw [empty]
    rfl
  · rw [split_join (by simpa using empty)]
    · simp [markers, List.filterMap_map, Function.comp_def]
    · intro text member
      obtain ⟨line, _, rfl⟩ := List.mem_map.mp member
      exact line.single

/-- In each document, and going by marker lines alone, a version is followed by a
kind exactly once where the document has both, with the values that it gives them,
and otherwise never. The last marker before the document counts as well. -/
def Readable (documents : List Document) : Prop :=
  ∀ before document after, documents = before ++ document :: after →
    couples ((markers before.flatten).getLast?.toList ++ markers document) = (documentPair document).toList

theorem markers_append (first second : Document) : markers (first ++ second) = markers first ++ markers second :=
  List.filterMap_append

theorem pairs_concat (front : List Document) (document : Document) :
    (front ++ [document]).filterMap documentPair = front.filterMap documentPair ++ (documentPair document).toList := by
  rw [List.filterMap_append]
  cases found : documentPair document <;> simp [found]

theorem extracted_of_readable {documents : List Document} (readable : Readable documents) : Extracted documents := by
  unfold Extracted
  induction documents using List.reverseRecOn with
  | nil => rfl
  | append_singleton front document ih =>
    have earlier : Readable front := by
      intro before other after split
      exact readable before other (after ++ [document]) (by rw [split, List.append_assoc, List.cons_append])
    have found := ih earlier
    rw [manifest_couples] at found ⊢
    rw [List.flatten_concat, markers_append, couples_append, found, readable front document [] rfl, pairs_concat]

/-- A manifest is read as it should be where it is readable, and it is readable
when each part of it that ends with a document is read as it should be. -/
theorem extracted_iff (documents : List Document) :
    (Readable documents → Extracted documents) ∧ ((∀ count, Extracted (documents.take count)) ↔ Readable documents) := by
  refine ⟨extracted_of_readable, ?_, ?_⟩
  · intro extracted before document after split
    have without := extracted before.length
    have within := extracted (before.length + 1)
    rw [split, List.take_left] at without
    rw [split, List.take_append, List.take_of_length_le (Nat.le_succ _), Nat.add_sub_cancel_left, List.take_succ_cons,
      List.take_zero] at within
    unfold Extracted at without within
    rw [manifest_couples] at without within
    rw [List.flatten_concat, markers_append, couples_append, without, pairs_concat, List.append_cancel_left_eq] at within
    exact within
  · intro readable count
    apply extracted_of_readable
    intro before document after split
    apply readable before document (after ++ documents.drop count)
    rw [← List.cons_append, ← List.append_assoc, ← split, List.take_append_drop]

private def kindFirst : Document :=
  [⟨"kind: Pod", by decide, [("kind", "Pod")]⟩, ⟨"apiVersion: v1", by decide, [("apiVersion", "v1")]⟩]

/-- The keys of a mapping have no order, and the scan wants the version first. -/
theorem kind_first_missed : ¬∀ documents : List Document, Extracted documents := by
  intro sound
  have found : manifestAPIVersions (manifestText [kindFirst]) = [kindFirst].filterMap documentPair := sound [kindFirst]
  exact absurd found (by decide)

end K8Sense.Doctor.Upgrade
