import K8Sense.Library.Paths
import K8Sense.Plugins.Packages

/-! Places on the disk of the desktop app, and the paths as texts by which they are reached. -/

namespace K8Sense.Plugins.Places
open Packages Paths

/-- The root is a drive on Windows. -/
structure Location where
  root : String
  path : Path
deriving DecidableEq

def Location.child (folder : Location) (name : String) : Location := { folder with path := folder.path ++ [name] }

def Location.under (folder location : Location) : Bool := folder.root = location.root && folder.path.isPrefixOf location.path

def Location.below (folder : Location) (rest : Path) : Location := { folder with path := folder.path ++ rest }

/-- The way from a folder to a place under it. -/
def Location.from (folder location : Location) : Path := location.path.drop folder.path.length

abbrev Bytes := List UInt8

inductive Entry where
  | directory
  | file (content : Bytes)
deriving DecidableEq

abbrev Disk := Location → Option Entry

/-- What a folder holds, below the folder. -/
abbrev Contents := Path → Option Entry

def held (disk : Disk) (folder : Location) : Contents := fun rest => if rest = [] then none else disk (folder.below rest)

/-- The folders that have to be made for a path. -/
def missing (disk : Disk) (target : Location) : List Location :=
  ((target.path.inits.map fun path => { target with path := path }).reverse.takeWhile fun folder => (disk folder).isNone).reverse

/-! Paths as texts. -/

def isSeparator (win32 : Bool) (char : Char) : Bool := char = '/' || win32 && char = '\\'

def components (win32 : Bool) (text : String) : List String := (text.toList.splitOnP (isSeparator win32)).map String.ofList

/-- A path that has been joined, which may end with a separator. -/
structure Joined where
  location : Location
  trailing : Bool
deriving DecidableEq

def join (win32 : Bool) (folder : Location) (text : String) : Joined where
  location := { folder with path := (components win32 text).foldl Paths.step folder.path }
  trailing := text.toList.getLast?.any (isSeparator win32)

/-- The ending `.exe` is appended to the text of the path. -/
def Joined.withExe (joined : Joined) : Joined where
  location :=
    match joined.trailing, joined.location.path.getLast? with
    | false, some last => { joined.location with path := joined.location.path.dropLast ++ [last ++ ".exe"] }
    | _, _ => joined.location.child ".exe"
  trailing := false

/-- The text without a drive, which only Windows has. -/
def withoutDrive (win32 : Bool) (text : String) : List Char :=
  match text.toList with
  | drive :: ':' :: rest => if win32 && drive.isAlpha then rest else text.toList
  | other => other

/-- The last component that is not empty. -/
def basename (win32 : Bool) (text : String) : String :=
  String.ofList ((((withoutDrive win32 text).splitOnP (isSeparator win32)).reverse.dropWhile (· = [])).headD [])

def Location.text (win32 : Bool) (location : Location) : String :=
  location.root ++ (if win32 then "\\" else "/") ++ Text.concat (if win32 then "\\" else "/") location.path

/-- A name that is a folder of its own. -/
def Proper (name : String) : Prop := name ≠ "" ∧ name ≠ "."

instance (name : String) : Decidable (Proper name) := inferInstanceAs (Decidable (_ ∧ _))

/-! Folders and what is under them. -/

theorem under_iff {folder location : Location} : folder.under location = true ↔ ∃ rest, location = folder.below rest := by
  rw [Location.under, Bool.and_eq_true, decide_eq_true_eq, List.isPrefixOf_iff_prefix]
  constructor
  · intro ⟨root, rest, same⟩
    exact ⟨rest, by rw [Location.below, root, same]⟩
  · intro ⟨rest, same⟩
    subst same
    exact ⟨rfl, rest, rfl⟩

@[simp] theorem under_below (folder : Location) (rest : Path) : folder.under (folder.below rest) = true := under_iff.mpr ⟨rest, rfl⟩

theorem below_below (folder : Location) (rest more : Path) : (folder.below rest).below more = folder.below (rest ++ more) := by
  simp only [Location.below, List.append_assoc]

theorem below_eq_iff {folder : Location} {rest : Path} : folder.below rest = folder ↔ rest = [] := by
  constructor
  · intro same
    have paths : folder.path ++ rest = folder.path := congrArg Location.path same
    exact List.append_right_eq_self.mp paths
  · intro same
    rw [same, Location.below, List.append_nil]

theorem under_refl (folder : Location) : folder.under folder = true := under_iff.mpr ⟨[], (below_eq_iff.mpr rfl).symm⟩

theorem under_trans {folder inner location : Location} (first : folder.under inner = true) (second : inner.under location = true) :
    folder.under location = true := by
  obtain ⟨rest, rfl⟩ := under_iff.mp first
  obtain ⟨more, rfl⟩ := under_iff.mp second
  exact under_iff.mpr ⟨rest ++ more, below_below folder rest more⟩

theorem child_eq_below (folder : Location) (name : String) : folder.child name = folder.below [name] := rfl

theorem under_child (folder : Location) (name : String) : folder.under (folder.child name) = true := under_below folder [name]

theorem child_rooted (folder : Location) (name : String) : (folder.child name).path ≠ [] :=
  List.append_ne_nil_of_right_ne_nil _ (List.cons_ne_nil _ _)

theorem child_ne (folder : Location) (name : String) : folder.child name ≠ folder := by
  rw [child_eq_below, Ne, below_eq_iff]
  exact List.cons_ne_nil name []

theorem not_under_below (folder : Location) {rest : Path} (nonempty : rest ≠ []) : (folder.below rest).under folder = false := by
  apply Bool.eq_false_iff.mpr
  intro inside
  obtain ⟨more, same⟩ := under_iff.mp inside
  rw [below_below, eq_comm, below_eq_iff] at same
  exact nonempty (List.append_eq_nil_iff.mp same).1

theorem under_child_iff {folder location : Location} {name : String} :
    location.under (folder.child name) = true ↔ location.under folder = true ∨ location = folder.child name := by
  constructor
  · intro inside
    obtain ⟨rest, same⟩ := under_iff.mp inside
    obtain rfl | ⟨front, last, rfl⟩ := List.eq_nil_or_concat rest
    · right
      rw [same, Location.below, List.append_nil]
    · left
      have roots : folder.root = location.root := by
        have is := congrArg Location.root same
        exact is
      have paths : folder.path ++ [name] = (location.path ++ front) ++ [last] := by
        have is : folder.path ++ [name] = location.path ++ (front ++ [last]) := by
          have is := congrArg Location.path same
          rwa [List.concat_eq_append] at is
        rw [is, List.append_assoc]
      have front' := (List.append_inj' paths rfl).1
      exact under_iff.mpr ⟨front, by rw [Location.below, ← roots, ← front']⟩
  · intro either
    obtain inside | rfl := either
    · exact under_trans inside (under_child folder name)
    · exact under_refl _

theorem from_below (folder : Location) (rest : Path) : folder.from (folder.below rest) = rest := List.drop_left

theorem below_from {folder location : Location} (inside : folder.under location = true) : folder.below (folder.from location) = location := by
  obtain ⟨rest, rfl⟩ := under_iff.mp inside
  rw [from_below]

theorem missing_child (disk : Disk) (folder : Location) (name : String) :
    missing disk (folder.child name) = if (disk (folder.child name)).isNone then missing disk folder ++ [folder.child name] else [] := by
  have names : (folder.child name).path.inits.map (fun path => { folder.child name with path := path }) =
      folder.path.inits.map (fun path => { folder with path := path }) ++ [folder.child name] := by
    simp [Location.child, List.inits_append]
  rw [missing, names, List.reverse_append, List.reverse_singleton, List.singleton_append, List.takeWhile_cons]
  split
  · rw [List.reverse_cons, missing]
  · rfl

theorem missing_present {disk : Disk} {target : Location} (present : (disk target).isSome) : missing disk target = [] := by
  obtain ⟨root, path⟩ := target
  obtain rfl | ⟨front, name, rfl⟩ := List.eq_nil_or_concat path
  · simp [missing, Option.isNone_eq_false_iff.mpr present]
  · rw [List.concat_eq_append] at present ⊢
    have exists' : (disk (Location.child ⟨root, front⟩ name)).isNone = false := Option.isNone_eq_false_iff.mpr present
    have is := missing_child disk ⟨root, front⟩ name
    rwa [exists', if_neg Bool.false_ne_true] at is

theorem mem_missing {disk : Disk} {target : Location} (absent : (disk target).isNone = true) : target ∈ missing disk target := by
  obtain ⟨root, path⟩ := target
  obtain rfl | ⟨front, name, rfl⟩ := List.eq_nil_or_concat path
  · simp [missing, absent]
  · rw [List.concat_eq_append] at absent ⊢
    have absent' : (disk (Location.child ⟨root, front⟩ name)).isNone = true := absent
    have is := missing_child disk ⟨root, front⟩ name
    rw [if_pos absent'] at is
    change Location.child ⟨root, front⟩ name ∈ missing disk (Location.child ⟨root, front⟩ name)
    rw [is]
    exact List.mem_append_right _ List.mem_cons_self

theorem under_of_missing {disk : Disk} {folder location : Location} (present : (disk folder).isSome) (rest : Path)
    (made : location ∈ missing disk (folder.below rest)) : folder.under location = true := by
  induction rest using List.reverseRecOn with
  | nil =>
    rw [below_eq_iff.mpr rfl, missing_present present] at made
    cases made
  | append_singleton rest name ih =>
    rw [← below_below, ← child_eq_below, missing_child] at made
    split at made
    · rcases List.mem_append.mp made with earlier | last
      · exact ih earlier
      · rw [List.mem_singleton.mp last]
        exact under_trans (under_below folder rest) (under_child _ name)
    · cases made

/-! Names as components of paths. -/

theorem components_plain {win32 : Bool} {text : String} (plain : ∀ char ∈ text.toList, isSeparator win32 char = false) :
    components win32 text = [text] := by
  rw [components, List.splitOnP_eq_singleton plain]
  simp

theorem join_plain {win32 : Bool} {text : String} (plain : ∀ char ∈ text.toList, isSeparator win32 char = false) (up : text ≠ "..")
    (folder : Location) : (join win32 folder text).location = if Proper text then folder.child text else folder := by
  rw [join, components_plain plain]
  simp only [List.foldl_cons, List.foldl_nil, Paths.step, if_neg up]
  by_cases improper : text = "" ∨ text = "."
  · rw [if_pos improper, if_neg fun proper : Proper text => improper.elim proper.1 proper.2]
  · obtain ⟨nonempty, here⟩ := not_or.mp improper
    rw [if_neg improper, if_pos ⟨nonempty, here⟩]
    rfl

theorem not_mem_of_includes {text : String} {char : Char} (absent : includes text (String.ofList [char]) = false) : char ∉ text.toList := by
  intro member
  obtain ⟨before, after, whole⟩ := List.append_of_mem member
  refine Bool.eq_false_iff.mp absent (Text.contains_iff.mpr ⟨before, after, ?_⟩)
  rw [whole, String.toList_ofList, List.append_assoc]
  rfl

theorem plain_of_valid {pluginName : String} (valid : validatePluginName pluginName = true) (win32 : Bool) :
    ∀ char ∈ pluginName.toList, isSeparator win32 char = false := by
  simp only [validatePluginName, Bool.and_eq_true, Bool.not_eq_true'] at valid
  intro char member
  have slash : char ≠ '/' := by
    rintro rfl
    exact not_mem_of_includes valid.1.1 member
  have backslash : char ≠ '\\' := by
    rintro rfl
    exact not_mem_of_includes valid.1.2 member
  simp [isSeparator, slash, backslash]

theorem free_of_mem_splitOnP {separates : Char → Bool} {chars piece : List Char} (member : piece ∈ chars.splitOnP separates) :
    ∀ char ∈ piece, separates char = false := by
  induction chars generalizing piece with
  | nil =>
    rw [List.splitOnP_nil, List.mem_singleton] at member
    subst member
    exact fun char absent => (List.not_mem_nil absent).elim
  | cons head rest ih =>
    rw [List.splitOnP_cons_eq_if_modifyHead] at member
    split at member
    · rcases List.mem_cons.mp member with empty | later
      · subst empty
        exact fun char absent => (List.not_mem_nil absent).elim
      · exact ih later
    · next ordinary =>
      cases pieces : rest.splitOnP separates with
      | nil => exact (List.splitOnP_ne_nil separates rest pieces).elim
      | cons first others =>
        rw [pieces, List.modifyHead_cons] at member
        rw [pieces] at ih
        rcases List.mem_cons.mp member with begun | later
        · subst begun
          intro char inside
          rcases List.mem_cons.mp inside with here | there
          · rw [here]
            exact Bool.eq_false_iff.mpr ordinary
          · exact ih List.mem_cons_self char there
        · exact ih (List.mem_cons_of_mem first later)

theorem basename_plain (win32 : Bool) (text : String) : ∀ char ∈ (basename win32 text).toList, isSeparator win32 char = false := by
  rw [basename, String.toList_ofList]
  cases last : ((withoutDrive win32 text).splitOnP (isSeparator win32)).reverse.dropWhile (· = []) with
  | nil => exact fun char absent => (List.not_mem_nil absent).elim
  | cons piece others =>
    have member : piece ∈ ((withoutDrive win32 text).splitOnP (isSeparator win32)).reverse := by
      refine (List.dropWhile_sublist (· = [])).mem ?_
      rw [last]
      exact List.mem_cons_self
    exact free_of_mem_splitOnP (List.mem_reverse.mp member)

theorem withoutDrive_suffix (win32 : Bool) (text : String) : withoutDrive win32 text <:+ text.toList := by
  unfold withoutDrive
  split
  next drive rest whole =>
    split
    · rw [whole]
      exact ⟨[drive, ':'], rfl⟩
    · exact List.suffix_refl _
  · exact List.suffix_refl _

theorem basename_of_plain {win32 : Bool} {text : String} (plain : ∀ char ∈ text.toList, isSeparator win32 char = false) :
    (basename win32 text).toList = withoutDrive win32 text := by
  have free : ∀ char ∈ withoutDrive win32 text, isSeparator win32 char = false :=
    fun char member => plain char ((withoutDrive_suffix win32 text).subset member)
  rw [basename, String.toList_ofList, List.splitOnP_eq_singleton free, List.reverse_singleton]
  by_cases empty : withoutDrive win32 text = [] <;> simp [empty]

theorem basename_ne_up {pluginName : String} (valid : validatePluginName pluginName = true) (win32 : Bool) : basename win32 pluginName ≠ ".." := by
  intro up
  have whole := basename_of_plain (plain_of_valid valid win32)
  rw [up] at whole
  obtain ⟨before, same⟩ := withoutDrive_suffix win32 pluginName
  simp only [validatePluginName, Bool.and_eq_true, Bool.not_eq_true'] at valid
  refine Bool.eq_false_iff.mp valid.2 (Text.contains_iff.mpr ⟨before, [], ?_⟩)
  rw [← same, ← whole, List.append_nil]

end K8Sense.Plugins.Places
