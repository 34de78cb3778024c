import K8Sense.Doctor.Tables

/-! Retention of scans, over a database that numbers the scans of a cluster and
may fail in any statement. -/

namespace K8Sense.Doctor.Retention
open Recency

/-- The scans and findings tables. The id of a scan is its primary key. -/
structure Database where
  store : Store
  keyed : (store.scans.map ScanSummary.id).Nodup

/-- The order in which a database numbers the scans of a cluster. Which of two that
started at one time comes first is left to it. -/
structure Ranking where
  ranked : List ScanSummary → List ScanSummary
  perm (scans : List ScanSummary) : (ranked scans).Perm scans
  latestFirst (scans : List ScanSummary) : (ranked scans).Pairwise fun scan other => other.startedAt ≤ scan.startedAt

inductive Statement where
  | select
  | scanRow (place : Nat)
  | rowsErr
  | beginTx
  | deleteFindings (id : String)
  | deleteScan (id : String)
  | commit
  deriving DecidableEq

/-- The error of a statement that fails. -/
abbrev Fails := Statement → Option String

section
variable (ranking : Ranking) (fails : Fails)

/-- The ids of the scans of a cluster beyond the newest. -/
def beyond (keepPerCluster : Nat) (scans : List ScanSummary) (clusterID : String) : List ScanSummary :=
  (ranking.ranked (scans.filter fun scan => scan.clusterID = clusterID)).drop keepPerCluster

/-- What the query returns, cluster by cluster. -/
def idsBeyond (keepPerCluster : Nat) (scans : List ScanSummary) : List String :=
  ((scans.map ScanSummary.clusterID).eraseDups.flatMap (beyond ranking keepPerCluster scans)).map ScanSummary.id

/-- Read the rows of the query one after another. -/
def readIDs : Nat → List String → Except String (List String)
  | _, [] =>
    match fails .rowsErr with
    | some err => .error err
    | none => .ok []
  | place, id :: rest =>
    match fails (.scanRow place) with
    | some err => .error ("scanning prune id: " ++ err)
    | none => (readIDs (place + 1) rest).map (id :: ·)

/-- The deletions of the transaction, on its own view of the tables. -/
def deleteAll : List String → Store → Except String Store
  | [], store => .ok store
  | id :: rest, store =>
    match fails (.deleteFindings id) with
    | some err => .error ("deleting findings for scan " ++ id ++ ": " ++ err)
    | none =>
      match fails (.deleteScan id) with
      | some err => .error ("deleting scan " ++ id ++ ": " ++ err)
      | none =>
        deleteAll rest ⟨store.scans.filter fun scan => scan.id ≠ id, store.findings.filter fun row => row.scanID ≠ id⟩

/-- A transaction that does not come to its commit is rolled back. -/
def pruneScans (keepPerCluster : Int) (store : Store) : Store × Except String Nat :=
  if keepPerCluster ≤ 0 then (store, .ok 0)
  else match fails .select with
  | some err => (store, .error ("selecting scans to prune: " ++ err))
  | none =>
    match readIDs fails 0 (idsBeyond ranking keepPerCluster.toNat store.scans) with
    | .error err => (store, .error err)
    | .ok [] => (store, .ok 0)
    | .ok (id :: rest) =>
      match fails .beginTx with
      | some err => (store, .error ("beginning prune tx: " ++ err))
      | none =>
        match deleteAll fails (id :: rest) store with
        | .error err => (store, .error err)
        | .ok left =>
          match fails .commit with
          | some err => (store, .error ("committing prune: " ++ err))
          | none => (left, .ok (id :: rest).length)

/-- The statements of the transaction that deletes these scans. -/
def deletions (ids : List String) : List Statement :=
  if ids = [] then []
  else .beginTx :: (ids.flatMap fun id => [Statement.deleteFindings id, Statement.deleteScan id]) ++ [Statement.commit]

/-- The statements that are executed as long as none fails. -/
def statements (keepPerCluster : Nat) (scans : List ScanSummary) : List Statement :=
  let ids := idsBeyond ranking keepPerCluster scans
  .select :: (List.range ids.length).map .scanRow ++ .rowsErr :: deletions ids

end

/-- Of each cluster the given number of scans is left, or all of them if there are
fewer, none older than one that is gone. The findings left are those of the scans
that are not gone. -/
structure Retained (keep : Nat) (before after : Store) : Prop where
  scans : after.scans.Sublist before.scans
  count : ∀ clusterID, (after.scans.countP fun scan => scan.clusterID = clusterID) =
    min keep (before.scans.countP fun scan => scan.clusterID = clusterID)
  newest : ∀ kept ∈ after.scans, ∀ removed ∈ before.scans, removed ∉ after.scans →
    removed.clusterID = kept.clusterID → removed.startedAt ≤ kept.startedAt
  findings : after.findings = before.findings.filter fun row =>
    !before.scans.any fun scan => scan.id = row.scanID && !after.scans.contains scan

variable {ranking : Ranking} {fails : Fails} {keep : Nat} {scans : List ScanSummary} {store : Store}

theorem readIDs_ok {place : Nat} {ids read : List String} : readIDs fails place ids = .ok read ↔
    (∀ index < ids.length, fails (.scanRow (place + index)) = none) ∧ fails .rowsErr = none ∧ read = ids := by
  induction ids generalizing place read with
  | nil => cases rows : fails .rowsErr <;> simp [readIDs, rows, eq_comm]
  | cons id rest ih =>
    have head : (∀ index < (id :: rest).length, fails (.scanRow (place + index)) = none) ↔
        fails (.scanRow place) = none ∧ ∀ index < rest.length, fails (.scanRow (place + 1 + index)) = none := by
      simp only [List.length_cons, Nat.forall_lt_succ_left, Nat.add_zero, Nat.add_right_comm place 1, Nat.add_assoc]
    rw [head, readIDs]
    cases here : fails (.scanRow place) with
    | some err => simp
    | none =>
      cases later : readIDs fails (place + 1) rest with
      | error err =>
        have never : ¬((∀ index < rest.length, fails (.scanRow (place + 1 + index)) = none) ∧ fails .rowsErr = none) := by
          intro works
          rw [ih.mpr ⟨works.1, works.2, rfl⟩] at later
          cases later
        simp only [Except.map, reduceCtorEq, true_and, false_iff]
        exact fun ⟨rows, final, _⟩ => never ⟨rows, final⟩
      | ok ids =>
        obtain ⟨rows, final, rfl⟩ := ih.mp later
        simp only [Except.map, Except.ok.injEq, true_and, final]
        exact ⟨fun same => ⟨rows, same.symm⟩, fun ⟨_, same⟩ => same.symm⟩

theorem deleteAll_ok {ids : List String} {left : Store} : deleteAll fails ids store = .ok left ↔
    (∀ id ∈ ids, fails (.deleteFindings id) = none ∧ fails (.deleteScan id) = none) ∧
      left = ⟨store.scans.filter fun scan => scan.id ∉ ids, store.findings.filter fun row => row.scanID ∉ ids⟩ := by
  induction ids generalizing store with
  | nil => simp [deleteAll, eq_comm]
  | cons id rest ih =>
    rw [deleteAll, List.forall_mem_cons]
    cases first : fails (.deleteFindings id) with
    | some err => simp
    | none =>
      cases second : fails (.deleteScan id) with
      | some err => simp
      | none =>
        have scans : ∀ scan : ScanSummary, (scan.id ∉ rest ∧ scan.id ≠ id) ↔ scan.id ∉ id :: rest := by
          intro scan
          simp [and_comm]
        have rows : ∀ row : FindingRow, (row.scanID ∉ rest ∧ row.scanID ≠ id) ↔ row.scanID ∉ id :: rest := by
          intro row
          simp [and_comm]
        simp only [ih, List.filter_filter, Bool.decide_and, ← scans, ← rows, true_and, decide_not]

theorem mem_beyond {scan : ScanSummary} {clusterID : String} (member : scan ∈ beyond ranking keep scans clusterID) :
    scan ∈ scans ∧ scan.clusterID = clusterID := by
  have inside := (ranking.perm _).mem_iff.mp (List.mem_of_mem_drop member)
  simpa using inside

theorem id_mem_idsBeyond (keyed : (scans.map ScanSummary.id).Nodup) {scan : ScanSummary} (member : scan ∈ scans) :
    scan.id ∈ idsBeyond ranking keep scans ↔ scan ∈ beyond ranking keep scans scan.clusterID := by
  constructor
  · intro found
    obtain ⟨other, listed, same⟩ := List.mem_map.mp found
    obtain ⟨clusterID, _, late⟩ := List.mem_flatMap.mp listed
    obtain ⟨inside, rfl⟩ := mem_beyond late
    obtain rfl : other = scan := List.inj_on_of_nodup_map keyed inside member same
    exact late
  · intro late
    apply List.mem_map_of_mem
    apply List.mem_flatMap.mpr
    refine ⟨scan.clusterID, ?_, late⟩
    rw [List.mem_eraseDups]
    exact List.mem_map_of_mem member

/-- The tables without the scans beyond the newest, and without their findings. -/
def pruned (ranking : Ranking) (keep : Nat) (store : Store) : Store :=
  ⟨store.scans.filter fun scan => scan.id ∉ idsBeyond ranking keep store.scans,
    store.findings.filter fun row => row.scanID ∉ idsBeyond ranking keep store.scans⟩

theorem pruned_retains (db : Database) : Retained keep db.store (pruned ranking keep db.store) := by
  have stays : ∀ scan ∈ db.store.scans, scan ∈ (pruned ranking keep db.store).scans ↔
      scan ∉ beyond ranking keep db.store.scans scan.clusterID := by
    intro scan member
    simp [pruned, member, id_mem_idsBeyond db.keyed member]
  refine ⟨List.filter_sublist, ?_, ?_, ?_⟩
  · intro clusterID
    have distinct : (db.store.scans.filter fun scan => scan.clusterID = clusterID).Nodup := db.keyed.of_map.filter _
    have parted : (pruned ranking keep db.store).scans.countP (fun scan => scan.clusterID = clusterID) =
        (db.store.scans.filter fun scan => scan.clusterID = clusterID).countP fun scan =>
          scan ∉ beyond ranking keep db.store.scans clusterID := by
      rw [pruned, List.countP_filter, List.countP_filter]
      apply List.countP_congr
      intro scan member
      by_cases named : scan.clusterID = clusterID
      · subst named
        simp [id_mem_idsBeyond db.keyed member]
      · simp [named]
    rw [parted, beyond, countP_notMem_drop (ranking.perm _) distinct keep, List.countP_eq_length_filter]
  · intro kept left removed member gone same
    have inside : kept ∈ db.store.scans := List.filter_sublist.subset left
    have late : removed ∈ beyond ranking keep db.store.scans removed.clusterID := by
      by_contra early
      exact gone ((stays removed member).mpr early)
    have early := (stays kept inside).mp left
    rw [same] at late
    apply drop_not_later (ranking.latestFirst _) _ early late
    rw [(ranking.perm _).mem_iff]
    simp [inside]
  · apply List.filter_congr
    intro row _
    rw [Bool.eq_iff_iff]
    simp only [decide_eq_true_eq, Bool.not_eq_true', ← Bool.not_eq_true]
    apply not_congr
    constructor
    · intro found
      obtain ⟨scan, listed, same⟩ := List.mem_map.mp found
      obtain ⟨clusterID, _, late⟩ := List.mem_flatMap.mp listed
      obtain ⟨inside, rfl⟩ := mem_beyond late
      rw [List.any_eq_true]
      refine ⟨scan, inside, ?_⟩
      simp [same, stays scan inside, late]
    · intro orphaned
      obtain ⟨scan, inside, both⟩ := List.any_eq_true.mp orphaned
      simp only [Bool.and_eq_true, decide_eq_true_eq, Bool.not_eq_true', List.contains_eq_mem, decide_eq_false_iff_not,
        stays scan inside, not_not] at both
      rw [← both.1]
      exact (id_mem_idsBeyond db.keyed inside).mpr both.2

/-- No statement that is executed fails. -/
def Works (ranking : Ranking) (fails : Fails) (keep : Nat) (store : Store) : Prop :=
  ∀ statement ∈ statements ranking keep store.scans, fails statement = none

theorem works_iff : Works ranking fails keep store ↔ fails .select = none ∧
    ((∀ index < (idsBeyond ranking keep store.scans).length, fails (.scanRow index) = none) ∧ fails .rowsErr = none) ∧
      (idsBeyond ranking keep store.scans ≠ [] → fails .beginTx = none ∧
        (∀ id ∈ idsBeyond ranking keep store.scans, fails (.deleteFindings id) = none ∧ fails (.deleteScan id) = none) ∧
          fails .commit = none) := by
  have each : (∀ statement ∈ (idsBeyond ranking keep store.scans).flatMap fun id =>
      [Statement.deleteFindings id, .deleteScan id], fails statement = none) ↔
        ∀ id ∈ idsBeyond ranking keep store.scans, fails (.deleteFindings id) = none ∧ fails (.deleteScan id) = none := by
    rw [List.forall_mem_flatMap]
    simp
  unfold Works statements deletions
  by_cases empty : idsBeyond ranking keep store.scans = []
  · simp [empty]
  · simp only [empty, if_false, List.cons_append, List.forall_mem_cons, List.forall_mem_append, List.forall_mem_map,
      List.mem_range, each, ne_eq, not_false_eq_true, forall_const, List.not_mem_nil, IsEmpty.forall_iff, implies_true,
      and_true, and_assoc]

theorem pruneScans_cases (ranking : Ranking) (fails : Fails) (store : Store) {keepPerCluster : Int} (positive : 0 < keepPerCluster) :
    (Works ranking fails keepPerCluster.toNat store ∧ pruneScans ranking fails keepPerCluster store =
      (pruned ranking keepPerCluster.toNat store, .ok (idsBeyond ranking keepPerCluster.toNat store.scans).length)) ∨
    ¬Works ranking fails keepPerCluster.toNat store ∧
      ∃ err, pruneScans ranking fails keepPerCluster store = (store, .error err) := by
  rw [works_iff, pruneScans, if_neg (Int.not_le.mpr positive)]
  cases select : fails .select with
  | some err => exact Or.inr ⟨fun works => by simp at works, _, rfl⟩
  | none =>
    cases read : readIDs fails 0 (idsBeyond ranking keepPerCluster.toNat store.scans) with
    | error err =>
      refine Or.inr ⟨fun works => ?_, err, rfl⟩
      rw [readIDs_ok.mpr ⟨by simpa using works.2.1.1, works.2.1.2, rfl⟩] at read
      cases read
    | ok ids =>
      obtain ⟨rows, final, same⟩ := readIDs_ok.mp read
      simp only [Nat.zero_add] at rows
      cases ids with
      | nil =>
        refine Or.inl ⟨⟨rfl, ⟨rows, final⟩, fun found => absurd same.symm found⟩, ?_⟩
        simp [pruned, ← same]
      | cons id rest =>
        have found : idsBeyond ranking keepPerCluster.toNat store.scans ≠ [] := by simp [← same]
        dsimp only
        cases beginning : fails .beginTx with
        | some err => exact Or.inr ⟨fun works => absurd (works.2.2 found).1 (by simp), _, rfl⟩
        | none =>
          dsimp only
          cases deleted : deleteAll fails (id :: rest) store with
          | error err =>
            refine Or.inr ⟨fun works => ?_, err, rfl⟩
            rw [deleteAll_ok.mpr ⟨same ▸ (works.2.2 found).2.1, rfl⟩] at deleted
            cases deleted
          | ok left =>
            obtain ⟨works, rfl⟩ := deleteAll_ok.mp deleted
            dsimp only
            cases committed : fails .commit with
            | some err => exact Or.inr ⟨fun works => absurd (works.2.2 found).2.2 (by simp), _, rfl⟩
            | none =>
              refine Or.inl ⟨⟨rfl, ⟨rows, final⟩, fun _ => ⟨rfl, same ▸ works, rfl⟩⟩, ?_⟩
              simp only [pruned, same]

/-- The tables after a call, whose ids are distinct as before. -/
def Database.prune (ranking : Ranking) (fails : Fails) (keepPerCluster : Int) (db : Database) : Database where
  store := (pruneScans ranking fails keepPerCluster db.store).1
  keyed := by
    by_cases positive : 0 < keepPerCluster
    · rcases pruneScans_cases ranking fails db.store positive with
        ⟨_, same⟩ | ⟨_, err, same⟩
      · rw [same]
        exact db.keyed.sublist (List.filter_sublist.map _)
      · rw [same]
        exact db.keyed
    · rw [pruneScans, if_pos (Int.not_lt.mp positive)]
      exact db.keyed

/-- Up to the number of scans to keep, retention is exact for all clusters at once,
and a statement that fails undoes the rest. A number that is not positive keeps
everything. -/
theorem retention_exact (ranking : Ranking) (fails : Fails) (keepPerCluster : Int) (db : Database) :
    (keepPerCluster ≤ 0 → pruneScans ranking fails keepPerCluster db.store = (db.store, .ok 0)) ∧
    (0 < keepPerCluster →
      (Works ranking fails keepPerCluster.toNat db.store →
        Retained keepPerCluster.toNat db.store (db.prune ranking fails keepPerCluster).store ∧
          ∃ count, (pruneScans ranking fails keepPerCluster db.store).2 = .ok count) ∧
      (¬Works ranking fails keepPerCluster.toNat db.store →
        (db.prune ranking fails keepPerCluster).store = db.store ∧
          ∃ err, (pruneScans ranking fails keepPerCluster db.store).2 = .error err)) := by
  refine ⟨fun none => by rw [pruneScans, if_pos none], fun positive => ?_⟩
  have left : (db.prune ranking fails keepPerCluster).store = (pruneScans ranking fails keepPerCluster db.store).1 := rfl
  rw [left]
  rcases pruneScans_cases ranking fails db.store positive with
    ⟨works, same⟩ | ⟨stuck, err, same⟩
  · rw [same]
    exact ⟨fun _ => ⟨pruned_retains db, _, rfl⟩, fun stuck => absurd works stuck⟩
  · rw [same]
    exact ⟨fun works => absurd works stuck, fun _ => ⟨rfl, err, rfl⟩⟩

/-- Scans that started at one time, in the order in which they are stored. -/
def byTime : Ranking where
  ranked := newestFirst ScanSummary.startedAt
  perm := newestFirst_perm ScanSummary.startedAt
  latestFirst := newestFirst_sorted ScanSummary.startedAt

/-- A database with one scan. -/
def single : Database where
  store := ⟨[⟨"s", "c", 0, none, .scanCompleted, 0, 0, 0, 0, 0, none⟩], []⟩
  keyed := List.nodup_singleton _

/-- To keep no scan keeps them all. -/
theorem keep_none_keeps : ¬∀ (ranking : Ranking) (fails : Fails) (keepPerCluster : Int) (db : Database),
    Works ranking fails keepPerCluster.toNat db.store →
      Retained keepPerCluster.toNat db.store (db.prune ranking fails keepPerCluster).store := by
  intro exact
  have one := (exact byTime (fun _ => none) 0 single (fun _ _ => rfl)).count "c"
  exact absurd one (by decide)

end K8Sense.Doctor.Retention
