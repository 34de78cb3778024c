import Mathlib.Algebra.Group.Int.Defs
import Mathlib.Data.List.Nodup
import Mathlib.Data.List.Pairwise
import Mathlib.Data.List.Sort
import Mathlib.Data.String.Basic
import K8Sense.Library.Decimal
import K8Sense.Library.Transition
import K8Sense.Doctor.Rebind

/-! Migrations of the database by replicas that open it at any time and stop at any step. -/

namespace K8Sense.Doctor.Migrations
open Sql (Dialect)

/-- A 64-bit number from digits that `_` follows. -/
def sscanDigits (negative : Bool) (chars : List Char) : Option Int :=
  let digits := chars.takeWhile Char.isDigit
  let value : Int := if negative then -Decimal.read digits else Decimal.read digits
  if digits ≠ [] ∧ (chars.dropWhile Char.isDigit).head? = some '_' ∧ -2 ^ 63 ≤ value ∧ value < 2 ^ 63 then some value else none

/-- `fmt.Sscanf` of a name with the format `%d_`. -/
def sscanVersion (name : String) : Option Int :=
  match name.toList.dropWhile (· = ' ') with
  | '-' :: rest => sscanDigits true rest
  | '+' :: rest => sscanDigits false rest
  | chars => sscanDigits false chars

def sortEntries (entries : List String) : List String := entries.insertionSort (· ≤ ·)

/-- What has been committed. `schemaVersion` is missing before the table is created, and
`effects` are the files whose statements have taken effect, in this order. -/
structure Database where
  schemaVersion : Option (List Int)
  effects : List String

/-- What becomes of a statement. One that is `lost` has taken effect, but is answered with an error. -/
inductive Answer where
  | ok
  | refused
  | lost
  deriving DecidableEq

/-- Where a replica is. A transaction that has not been committed is part of the phase, so
that it is gone once the replica leaves it. -/
inductive Phase where
  | idle
  /-- What is still to be done before `migrate`, by the texts of the errors. -/
  | connecting (left : List String)
  | creating
  | reading
  | looping (current : Int) (entries : List String)
  | began (current : Int) (entry : String) (version : Int) (entries : List String)
  | executed (current : Int) (entry : String) (version : Int) (entries : List String)
  | recorded (current : Int) (entry : String) (version : Int) (entries : List String)
  | returned (error : Option String)
  deriving DecidableEq

def connections : Dialect → List String
  | .sqlite => ["creating db directory: ", "opening database: ", "enabling WAL mode: ", "enabling foreign keys: "]
  | .postgres => ["opening postgres: ", "connecting to postgres: "]

/-- An error of `migrate`, as the opening of the database returns it. -/
def failed (error : String) : Phase := .returned (some ("running migrations: " ++ error))

def Database.create (database : Database) : Database := { database with schemaVersion := some (database.schemaVersion.getD []) }

def Database.apply (entry : String) (version : Int) (database : Database) : Database where
  schemaVersion := some (database.schemaVersion.getD [] ++ [version])
  effects := database.effects ++ [entry]

/-- The primary key has the version already. -/
def Database.rejects (version : Int) (database : Database) : Prop := version ∈ database.schemaVersion.getD []

instance (version : Int) (database : Database) : Decidable (database.rejects version) := inferInstanceAs (Decidable (_ ∈ _))

/-- One statement of a replica, or what it does between two of them. `text` is the error that
the database answers with. -/
def proceed (entries : List String) (answer : Answer) (text : String) (database : Database) : Phase → Database × Phase
  | .idle => (database, .idle)
  | .connecting [] => (database, .creating)
  | .connecting (label :: left) => (database, if answer = .ok then .connecting left else .returned (some (label ++ text)))
  | .creating =>
    match answer with
    | .ok => (database.create, .reading)
    | .lost => (database.create, failed text)
    | .refused => (database, failed text)
  | .reading =>
    match answer, database.schemaVersion with
    | .ok, some versions => (database, .looping (versions.max?.getD 0) (sortEntries entries))
    | _, _ => (database, failed ("reading schema_version: " ++ text))
  | .looping _ [] => (database, .returned none)
  | .looping current (entry :: left) =>
    match sscanVersion entry with
    | none => (database, .looping current left)
    | some version =>
      if version ≤ current then (database, .looping current left)
      else if answer = .ok then (database, .began current entry version left)
      else (database, failed ("beginning migration transaction: " ++ text))
  | .began current entry version left =>
    (database, if answer = .ok then .executed current entry version left else failed ("applying migration " ++ entry ++ ": " ++ text))
  | .executed current entry version left =>
    if answer = .ok ∧ ¬database.rejects version then (database, .recorded current entry version left)
    else (database, failed ("recording migration " ++ entry ++ ": " ++ text))
  | .recorded current entry version left =>
    -- Another transaction may have been committed since the version was inserted.
    if database.rejects version then (database, failed ("committing migration " ++ entry ++ ": " ++ text))
    else
      match answer with
      | .ok => (database.apply entry version, .looping current left)
      | .lost => (database.apply entry version, failed ("committing migration " ++ entry ++ ": " ++ text))
      | .refused => (database, failed ("committing migration " ++ entry ++ ": " ++ text))
  | .returned error => (database, .returned error)

universe u
variable {ρ : Type u} [DecidableEq ρ]

structure State (ρ : Type u) where
  database : Database
  replicas : ρ → Phase

inductive Event (ρ : Type u) where
  | opens (replica : ρ)
  | proceeds (replica : ρ) (answer : Answer) (text : String)
  | crashes (replica : ρ)

def initial : State ρ := ⟨⟨none, []⟩, fun _ => .idle⟩

def step (dialect : Dialect) (entries : List String) (state : State ρ) : Event ρ → Option (State ρ)
  | .opens replica =>
    match state.replicas replica with
    | .idle | .returned _ => some { state with replicas := Function.update state.replicas replica (.connecting (connections dialect)) }
    | _ => none
  | .proceeds replica answer text =>
    let next := proceed entries answer text state.database (state.replicas replica)
    some { database := next.1, replicas := Function.update state.replicas replica next.2 }
  | .crashes replica => some { state with replicas := Function.update state.replicas replica .idle }

/-! Files that are named with three digits. -/

structure FileName where
  hundreds : Fin 10
  tens : Fin 10
  units : Fin 10
  label : String

namespace FileName

def number (file : FileName) : Nat := 100 * file.hundreds + 10 * file.tens + file.units

def name (file : FileName) : String :=
  String.ofList (Decimal.chars [file.hundreds, file.tens, file.units] ++ '_' :: file.label.toList)

variable (file : FileName)

theorem toList_name : file.name.toList = Decimal.chars [file.hundreds, file.tens, file.units] ++ '_' :: file.label.toList :=
  String.toList_ofList

theorem value_number : Decimal.value [file.hundreds, file.tens, file.units] = file.number := by
  simp only [Decimal.value, List.foldl_cons, List.foldl_nil, number]
  omega

theorem number_lt : file.number < 1000 := by
  have := file.hundreds.isLt
  have := file.tens.isLt
  have := file.units.isLt
  unfold number
  omega

theorem digit_ne (digit : Fin 10) : Decimal.char digit ≠ ' ' ∧ Decimal.char digit ≠ '-' ∧ Decimal.char digit ≠ '+' := by
  revert digit
  decide

theorem version_name : sscanVersion file.name = some (file.number : Int) := by
  have stops : Decimal.Stops ('_' :: file.label.toList) := by simp [Decimal.Stops]
  obtain ⟨blank, minus, plus⟩ := digit_ne file.hundreds
  have chars : file.name.toList.dropWhile (· = ' ') = file.name.toList := by
    rw [toList_name]
    exact List.dropWhile_cons_of_neg (by simpa using blank)
  have scanned : sscanVersion file.name = sscanDigits false file.name.toList := by
    rw [sscanVersion, chars, toList_name]
    simp only [Decimal.chars, List.map_cons, List.cons_append]
    split
    · next same => exact absurd (List.cons.inj same).1 minus
    · next same => exact absurd (List.cons.inj same).1 plus
    · rfl
  have small := file.number_lt
  rw [scanned, toList_name, sscanDigits, Decimal.takeWhile_chars _ stops, Decimal.dropWhile_chars _ stops, Decimal.read_chars, value_number]
  apply if_pos
  refine ⟨by simp [Decimal.chars], rfl, ?_, ?_⟩
  · simp only [Bool.false_eq_true, if_false]
    omega
  · simp only [Bool.false_eq_true, if_false]
    omega

theorem char_lt {digit other : Fin 10} (smaller : digit < other) : Decimal.char digit < Decimal.char other := by
  revert digit other
  decide

theorem name_lt {file other : FileName} (smaller : file.number < other.number) : file.name < other.name := by
  rw [String.lt_iff_toList_lt, toList_name, toList_name]
  simp only [Decimal.chars, List.map_cons, List.map_nil, List.cons_append, List.nil_append, List.cons_lt_cons_iff]
  have := other.tens.isLt
  have := file.tens.isLt
  have := other.units.isLt
  have := file.units.isLt
  unfold number at smaller
  by_cases hundreds : file.hundreds = other.hundreds
  · by_cases tens : file.tens = other.tens
    · rw [hundreds, tens] at smaller
      exact .inr ⟨by rw [hundreds], .inr ⟨by rw [tens], .inl (char_lt (by omega))⟩⟩
    · rw [hundreds] at smaller
      exact .inr ⟨by rw [hundreds], .inl (char_lt (by omega))⟩
  · exact .inl (char_lt (by omega))

end FileName

/-- The migration files, with one file for a number. -/
structure Directory where
  files : List FileName
  distinct : (files.map FileName.number).Nodup

def Directory.entries (directory : Directory) : List String := directory.files.map FileName.name

/-- The first name has the smaller number. -/
def Before (entry other : String) : Prop :=
  ∀ version, sscanVersion entry = some version → ∀ later, sscanVersion other = some later → version < later

theorem sorted_before (directory : Directory) : (sortEntries directory.entries).Pairwise Before := by
  have permuted : (sortEntries directory.entries).Perm directory.entries := List.perm_insertionSort _ _
  have sorted : (sortEntries directory.entries).Pairwise (· ≤ ·) := List.pairwise_insertionSort _ _
  have versions : directory.entries.map sscanVersion = (directory.files.map FileName.number).map fun number : Nat => some (number : Int) := by
    rw [Directory.entries, List.map_map, List.map_map]
    apply List.map_congr_left
    intro file _
    exact file.version_name
  have different : ((sortEntries directory.entries).map sscanVersion).Nodup := by
    rw [(permuted.map sscanVersion).nodup_iff, versions]
    exact List.Nodup.map (fun number other same => Int.ofNat.inj (Option.some.inj same)) directory.distinct
  apply (sorted.and (List.pairwise_map.mp different)).imp_of_mem
  intro entry other member also ⟨ordered, differ⟩ version scanned later rescanned
  obtain ⟨file, _, rfl⟩ := List.mem_map.mp (permuted.mem_iff.mp member)
  obtain ⟨second, _, rfl⟩ := List.mem_map.mp (permuted.mem_iff.mp also)
  rw [file.version_name, second.version_name] at differ
  obtain rfl := Option.some.inj (file.version_name.symm.trans scanned)
  obtain rfl := Option.some.inj (second.version_name.symm.trans rescanned)
  have notAfter : ¬ second.number < file.number := fun smaller => not_lt_of_ge ordered (FileName.name_lt smaller)
  have notSame : file.number ≠ second.number := fun same => differ (by rw [same])
  omega

/-! What holds in every state. -/

def Due (entry : String) : Prop := ∃ version, sscanVersion entry = some version ∧ 0 < version

/-- What is committed at any time, where `order` is the order of the files. -/
structure Database.Holds (order : List String) (database : Database) : Prop where
  recorded : database.schemaVersion.getD [] = database.effects.filterMap sscanVersion
  known : ∀ entry ∈ database.effects, entry ∈ order ∧ Due entry
  increasing : database.effects.Pairwise Before
  closed : ∀ entry ∈ database.effects, ∀ other ∈ order, Due other → Before other entry → other ∈ database.effects

/-- What a replica in the loop knows: the files that it has passed, and those that it would
pass for their versions, have been applied. -/
structure Passed (order effects : List String) (current : Int) (left : List String) : Prop where
  nonneg : 0 ≤ current
  done : ∃ done, order = done ++ left ∧ ∀ entry ∈ done, Due entry → entry ∈ effects
  covered : ∀ entry ∈ order, ∀ version, sscanVersion entry = some version → 0 < version → version ≤ current → entry ∈ effects

def Phase.Holds (order effects : List String) : Phase → Prop
  | .looping current left => Passed order effects current left
  | .began current entry version left | .executed current entry version left | .recorded current entry version left =>
    Passed order effects current (entry :: left) ∧ sscanVersion entry = some version ∧ current < version
  | .returned none => ∀ entry ∈ order, Due entry → entry ∈ effects
  | _ => True

theorem Passed.mono {order effects later left : List String} {current : Int} (grows : effects ⊆ later)
    (passed : Passed order effects current left) : Passed order later current left where
  nonneg := passed.nonneg
  done := by
    obtain ⟨done, split, applied⟩ := passed.done
    exact ⟨done, split, fun entry member due => grows (applied entry member due)⟩
  covered entry member version scanned positive small := grows (passed.covered entry member version scanned positive small)

theorem Phase.Holds.mono {order effects later : List String} {phase : Phase} (grows : effects ⊆ later)
    (holds : phase.Holds order effects) : phase.Holds order later := by
  cases phase with
  | looping current left => exact Passed.mono grows holds
  | began | executed | recorded => exact ⟨holds.1.mono grows, holds.2⟩
  | returned error =>
    cases error with
    | none => exact fun entry member due => grows (holds entry member due)
    | some error => trivial
  | _ => trivial

variable {order left : List String} {database : Database} {current version : Int} {entry : String}

theorem Passed.next {effects : List String} (passed : Passed order effects current (entry :: left))
    (applied : Due entry → entry ∈ effects) : Passed order effects current left where
  nonneg := passed.nonneg
  done := by
    obtain ⟨done, split, before⟩ := passed.done
    refine ⟨done ++ [entry], by rw [split, List.append_assoc, List.singleton_append], ?_⟩
    exact List.forall_mem_append.mpr ⟨before, List.forall_mem_singleton.mpr applied⟩
  covered := passed.covered

theorem Database.Holds.apply (ascending : order.Pairwise Before) (holds : database.Holds order)
    (passed : Passed order database.effects current (entry :: left)) (scanned : sscanVersion entry = some version)
    (greater : current < version) (accepted : ¬database.rejects version) : (database.apply entry version).Holds order := by
  obtain ⟨done, split, applied⟩ := passed.done
  have inOrder : entry ∈ order := by simp [split]
  have due : Due entry := ⟨version, scanned, by have := passed.nonneg; omega⟩
  have absent : entry ∉ database.effects := fun member =>
    accepted (by rw [Database.rejects, holds.recorded]; exact List.mem_filterMap.mpr ⟨entry, member, scanned⟩)
  exact {
    recorded := by simp [Database.apply, holds.recorded, scanned]
    known := List.forall_mem_append.mpr ⟨holds.known, List.forall_mem_singleton.mpr ⟨inOrder, due⟩⟩
    increasing := by
      refine List.pairwise_append.mpr ⟨holds.increasing, List.pairwise_singleton _ _, ?_⟩
      intro other member last isEntry number otherScanned later lastScanned
      obtain rfl := List.mem_singleton.mp isEntry
      obtain rfl := Option.some.inj (scanned.symm.trans lastScanned)
      by_contra notLess
      obtain same | less : number = version ∨ version < number := by omega
      · exact accepted (by
          rw [Database.rejects, holds.recorded]
          exact List.mem_filterMap.mpr ⟨other, member, same ▸ otherScanned⟩)
      · refine absent (holds.closed other member last inOrder due fun first firstScanned second secondScanned => ?_)
        rw [Option.some.inj (firstScanned.symm.trans scanned), Option.some.inj (secondScanned.symm.trans otherScanned)]
        exact less
    closed := by
      intro last member other otherIn otherDue smaller
      rw [Database.apply, List.mem_append, List.mem_singleton] at member ⊢
      obtain before | rfl := member
      · exact .inl (holds.closed last before other otherIn otherDue smaller)
      · rw [split, List.mem_append, List.mem_cons] at otherIn
        obtain passedBy | rfl | behind := otherIn
        · exact .inl (applied other passedBy otherDue)
        · exact .inr rfl
        · obtain ⟨number, otherScanned, _⟩ := otherDue
          rw [split] at ascending
          have larger := List.rel_of_pairwise_cons (List.pairwise_append.mp ascending).2.1 behind version scanned number otherScanned
          have := smaller number otherScanned version scanned
          omega }

theorem Database.Holds.create (holds : database.Holds order) : database.create.Holds order :=
  ⟨holds.recorded, holds.known, holds.increasing, holds.closed⟩

theorem unique_version (ascending : order.Pairwise Before) {other : String} (member : entry ∈ order) (also : other ∈ order)
    (scanned : sscanVersion entry = some version) (otherScanned : sscanVersion other = some version) : entry = other := by
  by_contra differ
  have apart : order.Pairwise fun entry other => Before entry other ∨ Before other entry := ascending.imp .inl
  have symmetric : Std.Symm fun entry other => Before entry other ∨ Before other entry := ⟨fun _ _ => Or.symm⟩
  obtain before | after := apart.forall member also differ
  · exact lt_irrefl version (before version scanned version otherScanned)
  · exact lt_irrefl version (after version otherScanned version scanned)

theorem passed_start {versions : List Int} (ascending : order.Pairwise Before) (holds : database.Holds order) (found : database.schemaVersion = some versions) :
    Passed order database.effects (versions.max?.getD 0) order := by
  have recorded : versions = database.effects.filterMap sscanVersion := by rw [← holds.recorded, found]; rfl
  have start : ∃ done, order = done ++ order ∧ ∀ entry ∈ done, Due entry → entry ∈ database.effects :=
    ⟨[], rfl, fun _ member => nomatch member⟩
  cases largest : versions.max? with
  | none => exact ⟨Int.le_refl 0, start, fun _ _ version _ positive small => absurd small (by simpa using positive)⟩
  | some current =>
    obtain ⟨entry, member, scanned⟩ := List.mem_filterMap.mp (recorded ▸ List.max?_mem largest)
    have positive : 0 < current := by
      obtain ⟨_, version, same, greater⟩ := holds.known entry member
      rwa [Option.some.inj (scanned.symm.trans same)]
    refine ⟨Int.le_of_lt positive, start, fun other inOrder version otherScanned otherPositive small => ?_⟩
    obtain rfl | less := Int.le_iff_eq_or_lt.mp small
    · rwa [unique_version ascending inOrder (holds.known entry member).1 otherScanned scanned]
    · refine holds.closed entry member other inOrder ⟨version, otherScanned, otherPositive⟩ fun first firstScanned second secondScanned => ?_
      rw [Option.some.inj (firstScanned.symm.trans otherScanned), Option.some.inj (secondScanned.symm.trans scanned)]
      exact less

theorem Passed.finished {effects : List String} (passed : Passed order effects current []) :
    (Phase.returned none).Holds order effects := by
  obtain ⟨done, split, applied⟩ := passed.done
  rwa [split, List.append_nil]

theorem Passed.skipped {effects : List String} (passed : Passed order effects current (entry :: left))
    (scanned : sscanVersion entry = some version) (small : version ≤ current) (due : Due entry) : entry ∈ effects := by
  obtain ⟨done, split, _⟩ := passed.done
  obtain ⟨positive, same, greater⟩ := due
  obtain rfl := Option.some.inj (scanned.symm.trans same)
  exact passed.covered entry (by simp [split]) version scanned greater small

/-- One step of a replica keeps what holds of the database and of the replica, and takes no
effect away. -/
theorem proceed_holds (ascending : (sortEntries entries).Pairwise Before) (answer : Answer) (text : String) {phase : Phase}
    (holds : database.Holds (sortEntries entries)) (knows : phase.Holds (sortEntries entries) database.effects) :
    let next := proceed entries answer text database phase
    next.1.Holds (sortEntries entries) ∧ next.2.Holds (sortEntries entries) next.1.effects ∧ database.effects ⊆ next.1.effects := by
  have unchanged (next : Phase) (still : next.Holds (sortEntries entries) database.effects) :
      database.Holds (sortEntries entries) ∧ next.Holds (sortEntries entries) database.effects ∧ database.effects ⊆ database.effects :=
    ⟨holds, still, List.Subset.refl _⟩
  intro next
  cases phase with
  | idle => exact unchanged _ trivial
  | connecting left =>
    cases left with
    | nil => exact unchanged _ trivial
    | cons label left =>
      simp only [next, proceed]
      split
      all_goals exact unchanged _ trivial
  | creating =>
    cases answer with
    | ok | lost => exact ⟨holds.create, trivial, List.Subset.refl _⟩
    | refused => exact unchanged _ trivial
  | reading =>
    simp only [next, proceed]
    split
    · next versions found => exact unchanged _ (passed_start ascending holds found)
    · exact unchanged _ trivial
  | looping current left =>
    cases left with
    | nil => exact unchanged _ (Passed.finished knows)
    | cons entry left =>
      simp only [next, proceed]
      cases scanned : sscanVersion entry with
      | none => exact unchanged _ (Passed.next knows fun ⟨_, other, _⟩ => nomatch scanned.symm.trans other)
      | some version =>
        simp only
        split
        · next small => exact unchanged _ (Passed.next knows fun due => Passed.skipped knows scanned small due)
        · next large =>
          split
          · exact unchanged _ ⟨knows, scanned, by omega⟩
          · exact unchanged _ trivial
  | began current entry version left =>
    simp only [next, proceed]
    split
    · exact unchanged _ knows
    · exact unchanged _ trivial
  | executed current entry version left =>
    simp only [next, proceed]
    split
    · exact unchanged _ knows
    · exact unchanged _ trivial
  | recorded current entry version left =>
    simp only [next, proceed]
    split
    · exact unchanged _ trivial
    · next accepted =>
      obtain ⟨passed, scanned, greater⟩ := knows
      have applied := holds.apply ascending passed scanned greater accepted
      have grows : database.effects ⊆ (database.apply entry version).effects := List.subset_append_left _ _
      have last : entry ∈ (database.apply entry version).effects := List.mem_append_right _ (List.mem_singleton_self entry)
      cases answer with
      | ok => exact ⟨applied, (passed.mono grows).next fun _ => last, grows⟩
      | lost => exact ⟨applied, trivial, grows⟩
      | refused => exact unchanged _ trivial
  | returned error => exact unchanged _ knows

/-! Runs. -/

structure State.Holds (order : List String) (state : State ρ) : Prop where
  database : state.database.Holds order
  replicas : ∀ replica, (state.replicas replica).Holds order state.database.effects

omit [DecidableEq ρ] in
theorem holds_initial (order : List String) : State.Holds order (initial : State ρ) where
  database := ⟨rfl, fun _ member => (nomatch member), List.Pairwise.nil, fun _ member => (nomatch member)⟩
  replicas _ := trivial

theorem holds_update {order later : List String} {replicas : ρ → Phase} {effects : List String} (grows : effects ⊆ later)
    (holds : ∀ replica, (replicas replica).Holds order effects) {replica : ρ} {phase : Phase} (knows : phase.Holds order later)
    (other : ρ) : (Function.update replicas replica phase other).Holds order later := by
  by_cases same : other = replica
  · rwa [same, Function.update_self]
  · rw [Function.update_of_ne same]
    exact (holds other).mono grows

theorem step_holds (dialect : Dialect) {entries : List String} (ascending : (sortEntries entries).Pairwise Before)
    {state next : State ρ} {event : Event ρ} (holds : state.Holds (sortEntries entries)) (taken : step dialect entries state event = some next) :
    next.Holds (sortEntries entries) := by
  cases event with
  | opens replica =>
    simp only [step] at taken
    split at taken
    · cases taken
      exact ⟨holds.database, holds_update (List.Subset.refl _) holds.replicas trivial⟩
    · cases taken
      exact ⟨holds.database, holds_update (List.Subset.refl _) holds.replicas trivial⟩
    · cases taken
  | proceeds replica answer text =>
    cases taken
    obtain ⟨database, knows, grows⟩ := proceed_holds ascending answer text holds.database (holds.replicas replica)
    exact ⟨database, holds_update grows holds.replicas knows⟩
  | crashes replica =>
    cases taken
    exact ⟨holds.database, holds_update (List.Subset.refl _) holds.replicas trivial⟩

/-- Each migration is applied once and in order, apart from one with the number zero: the
largest version of an empty table is read as zero, so that it is passed over. -/
structure Migrated (directory : Directory) (state : State ρ) : Prop where
  /-- The versions that are recorded are those of the files that have taken effect. -/
  recorded : state.database.schemaVersion.getD [] = state.database.effects.filterMap sscanVersion
  known : ∀ entry ∈ state.database.effects, ∃ file ∈ directory.files, file.name = entry ∧ 0 < file.number
  once : state.database.effects.Nodup
  /-- Every smaller migration has been applied before. -/
  ordered : ∀ before entry after, state.database.effects = before ++ entry :: after → ∀ file ∈ directory.files, file.name = entry →
    ∀ smaller ∈ directory.files, 0 < smaller.number → smaller.number < file.number → smaller.name ∈ before
  complete : ∀ replica, state.replicas replica = .returned none →
    ∀ file ∈ directory.files, 0 < file.number → file.name ∈ state.database.effects

omit [DecidableEq ρ] in
theorem migrated_of_holds {directory : Directory} {state : State ρ} (holds : state.Holds (sortEntries directory.entries)) :
    Migrated directory state := by
  have permuted : (sortEntries directory.entries).Perm directory.entries := List.perm_insertionSort _ _
  have inOrder (file : FileName) (member : file ∈ directory.files) : file.name ∈ sortEntries directory.entries :=
    permuted.mem_iff.mpr (List.mem_map_of_mem member)
  have due (file : FileName) (positive : 0 < file.number) : Due file.name := ⟨file.number, file.version_name, by omega⟩
  have known := holds.database.known
  exact {
    recorded := holds.database.recorded
    known := by
      intro entry member
      obtain ⟨listed, version, scanned, positive⟩ := known entry member
      obtain ⟨file, isFile, rfl⟩ := List.mem_map.mp (permuted.mem_iff.mp listed)
      have := Option.some.inj (file.version_name.symm.trans scanned)
      exact ⟨file, isFile, rfl, by omega⟩
    once := by
      apply holds.database.increasing.imp_of_mem
      intro entry other member _ before same
      obtain ⟨_, version, scanned, _⟩ := known entry member
      exact lt_irrefl version (before version scanned version (same ▸ scanned))
    ordered := by
      intro before entry after split file member named smaller isSmaller positive less
      have inside : entry ∈ state.database.effects := by simp [split]
      have earlier : Before smaller.name entry := by
        intro version scanned later rescanned
        subst named
        rw [smaller.version_name] at scanned
        rw [file.version_name] at rescanned
        have := Option.some.inj scanned
        have := Option.some.inj rescanned
        omega
      have applied := holds.database.closed entry inside smaller.name (inOrder smaller isSmaller) (due smaller positive) earlier
      have increasing := holds.database.increasing
      rw [split] at applied increasing
      obtain first | same | behind := (List.mem_append.mp applied).imp_right List.mem_cons.mp
      · exact first
      · exact absurd (earlier _ smaller.version_name _ (same ▸ smaller.version_name)) (lt_irrefl _)
      · have later := List.rel_of_pairwise_cons (List.pairwise_append.mp increasing).2.1 behind
        subst named
        have := later _ file.version_name _ smaller.version_name
        omega
    complete := by
      intro replica done file member positive
      have knows := holds.replicas replica
      rw [done] at knows
      exact knows file.name (inOrder file member) (due file positive) }

/-- Whatever replicas open the database and wherever they stop. -/
theorem migrations_once (dialect : Dialect) (directory : Directory) (events : List (Event ρ)) :
    ∀ state, Transition.run (step dialect directory.entries) initial events = some state → Migrated directory state := by
  intro state ran
  apply migrated_of_holds
  exact Transition.always (State.Holds (sortEntries directory.entries))
    (fun _ _ _ holds taken => step_holds dialect (sorted_before directory) holds taken) (holds_initial _) ran

def twoFiles : Directory where
  files := [⟨0, 0, 2, "users.sql"⟩, ⟨0, 0, 1, "initial.sql"⟩]
  distinct := by simp [FileName.number]

/-- The first replica has read the versions before the second has applied the first file. -/
def overlapping : List (Event Bool) :=
  .opens false :: .opens true :: (List.replicate 5 (.proceeds false .ok "") ++ List.replicate 9 (.proceeds true .ok "") ++
    .crashes true :: List.replicate 3 (.proceeds false .ok "duplicate key") ++ .opens true :: List.replicate 11 (.proceeds true .ok ""))

theorem two_replicas : ∃ state, Transition.run (step .postgres twoFiles.entries) initial overlapping = some state ∧
    state.database.effects = ["001_initial.sql", "002_users.sql"] ∧ Migrated twoFiles state := by
  have ran : (Transition.run (step .postgres twoFiles.entries) initial overlapping).map (fun state => state.database.effects) =
      some ["001_initial.sql", "002_users.sql"] := by decide +kernel
  obtain ⟨state, reached, effects⟩ := Option.map_eq_some_iff.mp ran
  exact ⟨state, reached, effects, migrations_once .postgres twoFiles overlapping state reached⟩

def zeroFile : Directory where
  files := [⟨0, 0, 0, "initial.sql"⟩]
  distinct := List.nodup_singleton _

/-- A file with the number zero: the database is opened without an error, and the file has not been applied. -/
theorem zero_passed_over : ∃ state, Transition.run (step .sqlite zeroFile.entries) (initial : State Unit)
      (.opens () :: List.replicate 9 (.proceeds () .ok "")) = some state ∧
    state.replicas () = .returned none ∧ "000_initial.sql" ∈ zeroFile.entries ∧ "000_initial.sql" ∉ state.database.effects := by
  have ran : (Transition.run (step .sqlite zeroFile.entries) (initial : State Unit)
      (.opens () :: List.replicate 9 (.proceeds () .ok ""))).map (fun state => (state.replicas (), state.database.effects)) =
      some (.returned none, []) := by decide +kernel
  obtain ⟨state, reached, same⟩ := Option.map_eq_some_iff.mp ran
  obtain ⟨phase, effects⟩ := Prod.mk.inj same
  exact ⟨state, reached, phase, by decide +kernel, by simp [effects]⟩

end K8Sense.Doctor.Migrations
