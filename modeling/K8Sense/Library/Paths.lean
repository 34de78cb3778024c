import K8Sense.Library.Text
import Mathlib.Data.String.Basic

/-! Absolute paths as lists of their parts, from the root, and the files of a disk. -/

namespace K8Sense.Paths

abbrev Path := List String

/-- A name that a directory can have an entry by. -/
structure Plain (name : String) : Prop where
  nonempty : name ≠ ""
  here : name ≠ "."
  up : name ≠ ".."
  free : '/' ∉ name.toList

instance (name : String) : Decidable (Plain name) :=
  decidable_of_iff (name ≠ "" ∧ name ≠ "." ∧ name ≠ ".." ∧ '/' ∉ name.toList)
    ⟨fun ⟨nonempty, here, up, free⟩ => ⟨nonempty, here, up, free⟩, fun plain => ⟨plain.nonempty, plain.here, plain.up, plain.free⟩⟩

def step (path : Path) (part : String) : Path :=
  if part = "" ∨ part = "." then path else if part = ".." then path.dropLast else path ++ [part]

def clean (parts : List String) : Path := parts.foldl step []

def join (dir : Path) (name : String) : Path := clean (dir ++ Text.split '/' name)

/-- The way from one path to another one. -/
def rel : Path → Path → List String
  | part :: base, other :: target =>
    if part = other then rel base target else List.replicate (base.length + 1) ".." ++ other :: target
  | base, target => List.replicate base.length ".." ++ target

def relText (base target : Path) : String := if rel base target = [] then "." else Text.join '/' (rel base target)

theorem step_plain {name : String} (plain : Plain name) (path : Path) : step path name = path ++ [name] := by
  simp [step, plain.nonempty, plain.here, plain.up]

theorem foldl_plain {parts : List String} (plain : ∀ part ∈ parts, Plain part) (path : Path) :
    parts.foldl step path = path ++ parts := by
  induction parts generalizing path with
  | nil => rw [List.foldl_nil, List.append_nil]
  | cons part parts ih =>
    rw [List.foldl_cons, step_plain (plain part (by simp)), ih (fun other later => plain other (by simp [later]))]
    simp

theorem join_plain {dir : Path} {name : String} (plainDir : ∀ part ∈ dir, Plain part) (plain : Plain name) :
    join dir name = dir ++ [name] := by
  have whole : Text.split '/' name = [name] := by
    have pieces : Text.split '/' (Text.join '/' [name]) = [name] :=
      Text.split_join (List.cons_ne_nil name []) (by simpa using plain.free)
    rwa [Text.join_singleton] at pieces
  rw [join, clean, whole, foldl_plain, List.nil_append]
  intro part member
  rcases List.mem_append.mp member with inside | last
  · exact plainDir part inside
  · rwa [List.mem_singleton.mp last]

theorem rel_append (base rest : Path) : rel base (base ++ rest) = rest := by
  induction base with
  | nil => cases rest <;> rfl
  | cons part base ih => simpa [rel] using ih

theorem relText_child (dir : Path) (name : String) : relText dir (dir ++ [name]) = name := by
  rw [relText, rel_append]
  simp

universe u
variable {α : Type u}

inductive Node (α : Type u) where
  | dir
  | file (content : α)
deriving DecidableEq

/-- The root is a directory that is always there. -/
structure Disk (α : Type u) where
  files : List (Path × Node α)
  distinct : (files.map Prod.fst).Nodup
  plain : ∀ file ∈ files, ∀ part ∈ file.1, Plain part
  inside : ∀ file ∈ files, file.1.dropLast = [] ∨ (file.1.dropLast, Node.dir) ∈ files

namespace Disk

def stat (disk : Disk α) (path : Path) : Option (Node α) :=
  if path = [] then some .dir else (disk.files.find? fun file => file.1 = path).map Prod.snd

/-- The names in a directory, in their order. -/
def readDir (disk : Disk α) (dir : Path) : List String :=
  (disk.files.filterMap fun file =>
    if file.1.dropLast = dir then file.1.getLast? else none).mergeSort fun name other => name ≤ other

/-- A path and all that is below it are removed. -/
def removeAll (disk : Disk α) (path : Path) : Disk α where
  files := disk.files.filter fun file => !path.isPrefixOf file.1
  distinct := disk.distinct.sublist (List.filter_sublist.map Prod.fst)
  plain := fun file member => disk.plain file (List.mem_filter.mp member).1
  inside := by
    intro file member
    obtain ⟨present, kept⟩ := List.mem_filter.mp member
    rcases disk.inside file present with top | parent
    · exact Or.inl top
    · refine Or.inr (List.mem_filter.mpr ⟨parent, ?_⟩)
      simp only [Bool.not_eq_true', Bool.eq_false_iff, ne_eq, List.isPrefixOf_iff_prefix] at kept ⊢
      intro below
      exact kept (below.trans (List.dropLast_prefix file.1))

variable {disk : Disk α}

theorem stat_removeAll {path other : Path} (nonempty : other ≠ []) :
    (disk.removeAll path).stat other = if path <+: other then none else disk.stat other := by
  unfold stat removeAll
  rw [if_neg nonempty, if_neg nonempty, List.find?_filter]
  split
  next below =>
    rw [Option.map_eq_none_iff, List.find?_eq_none]
    intro file _
    simp only [Bool.not_eq_true', decide_eq_true_eq, not_and]
    intro kept same
    rw [same, List.isPrefixOf_iff_prefix.mpr below] at kept
    contradiction
  next beside =>
    have apart : path.isPrefixOf other = false := by simpa [Bool.eq_false_iff, List.isPrefixOf_iff_prefix] using beside
    congr 2
    funext file
    by_cases same : file.1 = other
    · simp [same, apart]
    · simp [same]

theorem plain_of_stat {path : Path} {node : Node α} (found : disk.stat path = some node) : ∀ part ∈ path, Plain part := by
  unfold stat at found
  split at found
  next root => simp [root]
  next =>
    obtain ⟨file, first, _⟩ := Option.map_eq_some_iff.mp found
    have same : file.1 = path := by simpa using List.find?_some first
    exact same ▸ disk.plain file (List.mem_of_find?_eq_some first)

end Disk

end K8Sense.Paths
