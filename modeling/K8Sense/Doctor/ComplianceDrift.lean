import K8Sense.Library.Keyed
import K8Sense.Library.Recency
import K8Sense.Library.Transition
import K8Sense.Doctor.Alerting
import K8Sense.Doctor.Compliance

/-! Compliance drift: each scheduled check compares its report with the newest
snapshot stored, stores its own, and reports the controls that fail since. -/

namespace K8Sense.Doctor.ComplianceDrift
open Compliance Recency Transition
open Alerting (NotificationConfig webhooks)

structure ComplianceSnapshot where
  clusterID : String
  takenAt : Nat
  score : Nat
  passed : Nat
  failed : Nat
  total : Nat
  failingControls : List String
deriving DecidableEq

structure DriftAlert where
  webhooks : List String
  cluster : String
  prevScore : Nat
  score : Nat
  newlyFailing : List String
deriving DecidableEq

/-- A report on all controls of the benchmark, whatever their results. -/
structure Benchmark where
  report : ComplianceReport
  complete : report.controls.map ControlResult.id = cisControls.map CisControl.id

theorem reportOf_complete (data : ComplianceData) :
    (reportOf data).controls.map ControlResult.id = cisControls.map CisControl.id := by
  rw [reportOf_controls, List.map_map]
  rfl

def Benchmark.of (data : ComplianceData) : Benchmark := ⟨reportOf data, reportOf_complete data⟩

/-- A scheduled check of a cluster: its report unless the cluster cannot be read,
and whether the calls to the database work. -/
structure Check where
  cluster : String
  takenAt : Nat
  report : Option Benchmark
  reads : Bool := true
  saves : Bool := true
  config : Option NotificationConfig

def failingControlIDs (report : ComplianceReport) : List String :=
  ((report.controls.filter fun control => control.status = .fail).map ControlResult.id).mergeSort fun id other => id ≤ other

def newlyFailing (previous current : List String) : List String :=
  current.filter fun id => !previous.contains id

/-- The rows of the table in the order of their ids. -/
abbrev Rows := List ComplianceSnapshot

/-- Of the snapshots taken in the same second the one stored last is the latest. -/
def latestComplianceSnapshot (rows : Rows) (cluster : String) : Option ComplianceSnapshot :=
  (newestFirst ComplianceSnapshot.takenAt (rows.filter fun row => row.clusterID = cluster).reverse).head?

def notifyComplianceDrift (config : Option NotificationConfig) (cluster : String) (prevScore score : Nat)
    (newly : List String) : Option DriftAlert :=
  match config with
  | some config =>
    if !config.notifyCritical || (webhooks config).isEmpty then none
    else some ⟨webhooks config, cluster, prevScore, score, newly⟩
  | none => none

def Check.snapshot (check : Check) (report : ComplianceReport) : ComplianceSnapshot where
  clusterID := check.cluster
  takenAt := check.takenAt
  score := report.score
  passed := report.passed
  failed := report.failed
  total := report.total
  failingControls := failingControlIDs report

/-- A previous snapshot that cannot be read counts as none; one that cannot be
stored ends the check. -/
def runScheduledCompliance (check : Check) (rows : Rows) : Rows × Option DriftAlert :=
  match check.report with
  | none => (rows, none)
  | some current =>
    let snap := check.snapshot current.report
    let prev := if check.reads then latestComplianceSnapshot rows check.cluster else none
    if !check.saves then (rows, none)
    else (rows ++ [snap], match prev with
      | none => none
      | some prev =>
        let newly := newlyFailing prev.failingControls snap.failingControls
        if newly.isEmpty then none
        else notifyComplianceDrift check.config check.cluster prev.score snap.score newly)

/-- The table, and the checks made so far with what was sent for each. -/
structure State where
  rows : Rows
  checks : List (Check × Option DriftAlert)

def initial : State := ⟨[], []⟩

def State.record (check : Check) (state : State) : State where
  rows := (runScheduledCompliance check state.rows).1
  checks := state.checks ++ [(check, (runScheduledCompliance check state.rows).2)]

def step (state : State) (check : Check) : Option State := some (state.record check)

def Benchmark.statuses (benchmark : Benchmark) : List (String × Status) :=
  benchmark.report.controls.map fun control => (control.id, control.status)

def Benchmark.status (benchmark : Benchmark) (id : String) : Option Status := Keyed.lookup id benchmark.statuses

/-- The report of the last check of the cluster that had one. -/
def lastReport (cluster : String) (checks : List (Check × Option DriftAlert)) : Option Benchmark :=
  (checks.filterMap fun done => if done.1.cluster = cluster then done.1.report else none).getLast?

/-- The control passed in the previous report and fails in the current one. -/
def slips : Option Benchmark → Benchmark → String → Bool
  | none, _, _ => false
  | some previous, current, id => previous.status id = some .pass && current.status id = some .fail

def due (checks : List (Check × Option DriftAlert)) (check : Check) (id : String) : Bool :=
  match check.report with
  | none => false
  | some current => slips (lastReport check.cluster checks) current id

def alerted : Option DriftAlert → List String
  | none => []
  | some alert => alert.newlyFailing

/-- Each check reported the controls that slipped since the last report once, and
no others. -/
def Alerted (state : State) : Prop :=
  ∀ before done after, state.checks = before ++ done :: after →
    ∀ id, (alerted done.2).count id = if due before done.1 id then 1 else 0

/-- Alerting is on for the cluster and the database works. -/
structure Check.Works (check : Check) : Prop where
  reads : check.reads = true
  saves : check.saves = true
  told : ∃ config, check.config = some config ∧ config.notifyCritical = true ∧ webhooks config ≠ []

/-! What a report says of a control. -/

section
variable {benchmark other : Benchmark} {id : String} {status : Status}

theorem statuses_unique (benchmark : Benchmark) : Keyed.Unique benchmark.statuses := by
  have ids : benchmark.statuses.map Prod.fst = cisControls.map CisControl.id := by
    rw [← benchmark.complete, Benchmark.statuses, List.map_map]
    rfl
  rw [Keyed.Unique, ids]
  apply (List.pairwise_map.mpr cisControls_sorted).imp
  exact fun before => ne_of_lt before

theorem status_iff : benchmark.status id = some status ↔ (id, status) ∈ benchmark.statuses := by
  constructor
  · exact Keyed.mem_of_lookup
  · exact Keyed.lookup_mem (statuses_unique benchmark)

theorem status_none : benchmark.status id = none ↔ id ∉ cisControls.map CisControl.id := by
  rw [← benchmark.complete, Benchmark.status, Keyed.lookup_none]
  simp [Benchmark.statuses]

theorem pass_of_not_fail (known : other.status id = some status) (passing : benchmark.status id ≠ some .fail) :
    benchmark.status id = some .pass := by
  cases found : benchmark.status id with
  | none =>
    have unknown : other.status id = none := status_none.mpr (status_none.mp found)
    rw [known] at unknown
    cases unknown
  | some result =>
    cases result with
    | pass => rfl
    | fail => exact absurd found passing

theorem mem_failingControlIDs : id ∈ failingControlIDs benchmark.report ↔ benchmark.status id = some .fail := by
  rw [status_iff]
  simp [failingControlIDs, Benchmark.statuses, and_comm, and_assoc]

theorem failingControlIDs_nodup (benchmark : Benchmark) : (failingControlIDs benchmark.report).Nodup := by
  rw [failingControlIDs, (List.mergeSort_perm _ _).nodup_iff]
  have ids : (benchmark.report.controls.map ControlResult.id).Nodup := by
    have unique := statuses_unique benchmark
    rwa [Keyed.Unique, Benchmark.statuses, List.map_map] at unique
  exact ids.sublist (List.filter_sublist.map ControlResult.id)

end

@[simp] theorem mem_newlyFailing {previous current : List String} {id : String} :
    id ∈ newlyFailing previous current ↔ id ∈ current ∧ id ∉ previous := by
  simp [newlyFailing]

theorem slips_iff {last : Option Benchmark} {current : Benchmark} {id : String} : slips last current id = true ↔
    ∃ previous, last = some previous ∧ previous.status id = some .pass ∧ current.status id = some .fail := by
  cases last <;> simp [slips]

/-! What a check sends. -/

section
variable {check : Check} {rows : Rows}

theorem alerted_notify {config : Option NotificationConfig} {cluster : String} {prevScore score : Nat} {newly : List String} {id : String} :
    id ∈ alerted (notifyComplianceDrift config cluster prevScore score newly) ↔
      (∃ settings, config = some settings ∧ settings.notifyCritical = true ∧ webhooks settings ≠ []) ∧ id ∈ newly := by
  cases config with
  | none => simp [notifyComplianceDrift, alerted]
  | some settings =>
    by_cases told : settings.notifyCritical = true ∧ webhooks settings ≠ []
    · simp [notifyComplianceDrift, alerted, told.1, told.2]
    · have off : (!settings.notifyCritical || (webhooks settings).isEmpty) = true := by
        simp only [Bool.or_eq_true, Bool.not_eq_true', List.isEmpty_iff]
        by_contra neither
        apply told
        constructor
        · by_contra silent
          exact neither (Or.inl (Bool.eq_false_of_not_eq_true silent))
        · exact fun empty => neither (Or.inr empty)
      have quiet : alerted (notifyComplianceDrift (some settings) cluster prevScore score newly) = [] := by
        simp only [notifyComplianceDrift, off, if_true, alerted]
      rw [quiet]
      constructor
      · intro impossible
        cases impossible
      · intro ⟨⟨other, same, on⟩, _⟩
        cases same
        exact absurd on told

theorem mem_alerted {id : String} : id ∈ alerted (runScheduledCompliance check rows).2 ↔
    ∃ current base, check.report = some current ∧ check.Works ∧ latestComplianceSnapshot rows check.cluster = some base ∧
      current.status id = some .fail ∧ id ∉ base.failingControls := by
  cases reported : check.report with
  | none => simp [runScheduledCompliance, reported, alerted]
  | some current =>
    by_cases calls : check.reads = true ∧ check.saves = true
    · cases newest : latestComplianceSnapshot rows check.cluster with
      | none => simp [runScheduledCompliance, reported, calls, newest, alerted]
      | some base =>
        have works : check.Works ↔
            ∃ settings, check.config = some settings ∧ settings.notifyCritical = true ∧ webhooks settings ≠ [] :=
          ⟨fun works => works.told, fun told => ⟨calls.1, calls.2, told⟩⟩
        have sent : id ∈ alerted (runScheduledCompliance check rows).2 ↔
            check.Works ∧ id ∈ newlyFailing base.failingControls (failingControlIDs current.report) := by
          simp only [runScheduledCompliance, reported, calls, newest, if_true, Bool.not_true, Bool.false_eq_true, if_false]
          split
          next nothing =>
            rw [Check.snapshot, List.isEmpty_iff] at nothing
            simp [alerted, nothing]
          next => rw [alerted_notify, works, Check.snapshot]
        rw [sent, mem_newlyFailing, mem_failingControlIDs]
        simp
    · have unable : ¬check.Works := fun works => calls ⟨works.reads, works.saves⟩
      simp only [runScheduledCompliance, reported, unable, false_and, and_false, exists_false, iff_false]
      by_cases saves : check.saves = true
      · have unread : ¬check.reads = true := fun reads => calls ⟨reads, saves⟩
        simp [saves, unread, alerted]
      · simp [saves, alerted]

theorem alerted_nodup (check : Check) (rows : Rows) : (alerted (runScheduledCompliance check rows).2).Nodup := by
  cases reported : check.report with
  | none => simp [runScheduledCompliance, reported, alerted]
  | some current =>
    simp only [runScheduledCompliance, reported]
    split
    next => exact List.nodup_nil
    next =>
      split
      next => exact List.nodup_nil
      next prev _ =>
        split
        next => exact List.nodup_nil
        next =>
          have new : (newlyFailing prev.failingControls (check.snapshot current.report).failingControls).Nodup :=
            (failingControlIDs_nodup current).filter _
          unfold notifyComplianceDrift
          split
          next =>
            split
            next => exact List.nodup_nil
            next => exact new
          next => exact List.nodup_nil

end

theorem count_iff {ids : List String} (distinct : ids.Nodup) {wanted : String → Bool} :
    (∀ id, ids.count id = if wanted id then 1 else 0) ↔ ∀ id, id ∈ ids ↔ wanted id = true := by
  apply forall_congr'
  intro id
  by_cases member : id ∈ ids
  · rw [List.count_eq_one_of_mem distinct member]
    cases wanted id <;> simp [member]
  · rw [List.count_eq_zero.mpr member]
    cases wanted id <;> simp [member]

theorem alerted_record {state : State} {check : Check} : Alerted (state.record check) ↔ Alerted state ∧
    ∀ id, id ∈ alerted (runScheduledCompliance check state.rows).2 ↔ due state.checks check id = true := by
  unfold Alerted State.record
  rw [each_snoc]
  exact and_congr_right fun _ => count_iff (alerted_nodup check state.rows)

/-! Checks that work, at a clock that does not go back. -/

/-- A check that has a report works, and no stored snapshot is from later. -/
structure Dependable (state : State) (check : Check) : Prop where
  works : check.report.isSome = true → check.Works
  clock : ∀ row ∈ state.rows, row.clusterID = check.cluster → row.takenAt ≤ check.takenAt

/-- The newest snapshot of each cluster is that of its last report. -/
def Baseline (state : State) : Prop :=
  ∀ cluster, (latestComplianceSnapshot state.rows cluster).map ComplianceSnapshot.failingControls =
    (lastReport cluster state.checks).map fun benchmark => failingControlIDs benchmark.report

section
variable {state : State} {check : Check}

theorem latest_snoc {rows : Rows} {snap : ComplianceSnapshot}
    (top : ∀ row ∈ rows, row.clusterID = snap.clusterID → row.takenAt ≤ snap.takenAt) (cluster : String) :
    latestComplianceSnapshot (rows ++ [snap]) cluster =
      if snap.clusterID = cluster then some snap else latestComplianceSnapshot rows cluster := by
  unfold latestComplianceSnapshot
  split
  next own =>
    simp only [List.filter_append, List.filter_cons, own, decide_true, if_true, List.filter_nil, List.reverse_append,
      List.reverse_singleton, List.singleton_append]
    apply newest_head
    intro other member
    obtain ⟨stored, same⟩ := List.mem_filter.mp (List.mem_reverse.mp member)
    exact top other stored ((of_decide_eq_true same).trans own.symm)
  next other => simp [other]

theorem lastReport_snoc {checks : List (Check × Option DriftAlert)} {alert : Option DriftAlert} (cluster : String) :
    lastReport cluster (checks ++ [(check, alert)]) =
      if check.cluster = cluster ∧ check.report.isSome = true then check.report else lastReport cluster checks := by
  unfold lastReport
  rw [List.filterMap_append]
  by_cases own : check.cluster = cluster
  · cases reported : check.report with
    | none => simp [own, reported]
    | some current => simp [own, reported]
  · simp [own]

theorem baseline_record (baseline : Baseline state) (dependable : Dependable state check) : Baseline (state.record check) := by
  intro cluster
  simp only [State.record, lastReport_snoc]
  cases reported : check.report with
  | none => simpa [runScheduledCompliance, reported] using baseline cluster
  | some current =>
    have works := dependable.works (by simp [reported])
    have saved : (runScheduledCompliance check state.rows).1 = state.rows ++ [check.snapshot current.report] := by
      simp [runScheduledCompliance, reported, works.saves]
    rw [saved, latest_snoc dependable.clock]
    by_cases own : check.cluster = cluster
    · have mine : (check.snapshot current.report).clusterID = cluster := own
      rw [if_pos mine, if_pos ⟨own, by rfl⟩]
      rfl
    · have foreign : ¬(check.snapshot current.report).clusterID = cluster := own
      rw [if_neg foreign, if_neg fun both => own both.1]
      exact baseline cluster

theorem mem_alerted_iff_due (baseline : Baseline state) (dependable : Dependable state check) (id : String) :
    id ∈ alerted (runScheduledCompliance check state.rows).2 ↔ due state.checks check id = true := by
  have stored := baseline check.cluster
  rw [mem_alerted]
  cases reported : check.report with
  | none => simp [due, reported]
  | some current =>
    rw [due, reported]
    constructor
    · rintro ⟨_, base, same, _, newest, failing, new⟩
      cases same
      rw [newest] at stored
      obtain ⟨previous, last, same⟩ := Option.map_eq_some_iff.mp stored.symm
      refine slips_iff.mpr ⟨previous, last, ?_, failing⟩
      apply pass_of_not_fail failing
      intro failed
      apply new
      rw [← same]
      exact mem_failingControlIDs.mpr failed
    · intro slipped
      obtain ⟨previous, last, passed, failing⟩ := slips_iff.mp slipped
      rw [last] at stored
      obtain ⟨base, newest, listed⟩ := Option.map_eq_some_iff.mp stored
      refine ⟨current, base, rfl, dependable.works (by simp [reported]), newest, failing, ?_⟩
      rw [listed, mem_failingControlIDs, passed]
      simp

end

theorem dependable_record {state : State} {check : Check} (holds : Baseline state ∧ Alerted state)
    (dependable : Dependable state check) : Baseline (state.record check) ∧ Alerted (state.record check) := by
  refine ⟨baseline_record holds.1 dependable, ?_⟩
  rw [alerted_record]
  exact ⟨holds.2, mem_alerted_iff_due holds.1 dependable⟩

/-- In every run of checks that work, at a clock that does not go back, what
slipped is reported once and nothing else is. -/
theorem dependable_alerted (checks : List Check) (last : State) (dependable : Meets step Dependable initial checks)
    (ran : run step initial checks = some last) : Alerted last := by
  have kept : Baseline last ∧ Alerted last := by
    refine invariant (fun state => Baseline state ∧ Alerted state) ?_ ⟨?_, ?_⟩ dependable ran
    · intro state check next holds allowed taken
      cases taken
      exact dependable_record holds allowed
    · intro cluster
      simp [initial, latestComplianceSnapshot, newestFirst, lastReport]
    · intro before done after split
      simp [initial] at split
  exact kept.2

private def alerting : NotificationConfig := ⟨"https://hooks/slack", "", true⟩

/-- An empty cluster, and then one with a pod in the default namespace. -/
private def calm : ComplianceData := ⟨[], [], [], [], []⟩

private def crowded : ComplianceData := ⟨[⟨"default", "web", [], [], false, false, false⟩], [], [], [], []⟩

private theorem status_of {data : ComplianceData} {id : String} :
    (Benchmark.of data).status id = Keyed.lookup id
      (cisControls.map fun control => (control.id, (controlResult data control).status)) := by
  simp only [Benchmark.status, Benchmark.statuses, Benchmark.of, reportOf_controls, List.map_map]
  rfl

private def first : Check := ⟨"c", 1, some (Benchmark.of calm), true, true, some alerting⟩

/-- The cluster cannot be read, and the database does not answer. -/
private def blind : Check := ⟨"c", 2, none, false, false, none⟩

private def second : Check := ⟨"c", 2, some (Benchmark.of crowded), true, true, some alerting⟩

private def third : Check := ⟨"c", 3, some (Benchmark.of crowded), true, true, some alerting⟩

private def repeated : List Check := [first, blind, second, third]

private theorem repeated_dependable : Meets step Dependable initial repeated := by
  have works : ∀ {check : Check}, check = first ∨ check = second ∨ check = third → check.Works := by
    rintro check (rfl | rfl | rfl) <;> exact ⟨rfl, rfl, alerting, rfl, rfl, by decide⟩
  refine ⟨⟨fun _ => works (Or.inl rfl), nofun⟩, ⟨nofun, ?_⟩, ⟨fun _ => works (Or.inr (Or.inl rfl)), ?_⟩,
    ⟨fun _ => works (Or.inr (Or.inr rfl)), ?_⟩, trivial⟩
  · intro row member _
    cases List.mem_singleton.mp member
    decide
  · intro row member _
    cases List.mem_singleton.mp member
    decide
  · intro row member _
    rcases List.mem_cons.mp member with rfl | member
    · decide
    · cases List.mem_singleton.mp member
      decide

/-- The pod appears between two checks, one of which reads nothing. -/
theorem dependable_repeated : ∃ last, run step initial repeated = some last ∧ Alerted last ∧
    last.checks.map (fun done => (alerted done.2).count "CIS-5.7.4") = [0, 0, 1, 0] := by
  obtain ⟨last, ran⟩ : ∃ last, run step initial repeated = some last := ⟨_, rfl⟩
  have told := dependable_alerted repeated last repeated_dependable ran
  refine ⟨last, ran, told, ?_⟩
  cases ran
  have passes : (Benchmark.of calm).status "CIS-5.7.4" = some .pass := by
    rw [status_of]
    decide
  have fails : (Benchmark.of crowded).status "CIS-5.7.4" = some .fail := by
    rw [status_of]
    decide
  have slipped : slips (some (Benchmark.of calm)) (Benchmark.of crowded) "CIS-5.7.4" = true := by simp [slips, passes, fails]
  have still : ¬slips (some (Benchmark.of crowded)) (Benchmark.of crowded) "CIS-5.7.4" = true := by simp [slips, fails]
  refine congrArg₂ List.cons (told [] _ _ rfl "CIS-5.7.4") (congrArg₂ List.cons (told [_] _ _ rfl "CIS-5.7.4") ?_)
  exact congrArg₂ List.cons ((told [_, _] _ _ rfl "CIS-5.7.4").trans (if_pos slipped))
    (congrArg₂ List.cons ((told [_, _, _] _ _ rfl "CIS-5.7.4").trans (if_neg still)) rfl)

/-- The previous snapshot cannot be read. -/
private def unread : Check := ⟨"c", 2, some (Benchmark.of crowded), false, true, some alerting⟩

theorem unread_lost : ∃ last, run step initial [first, unread] = some last ∧ ¬Alerted last := by
  refine ⟨_, rfl, ?_⟩
  intro alerted
  have silent : (runScheduledCompliance first []).2 = none := by
    simp [runScheduledCompliance, first, latestComplianceSnapshot, newestFirst]
  have made : (State.record unread (State.record first initial)).checks = [(first, none), (unread, none)] := by
    simp only [State.record, initial, silent]
    rfl
  have told := alerted [(first, none)] (unread, none) [] made "CIS-5.7.4"
  have slipped : slips (some (Benchmark.of calm)) (Benchmark.of crowded) "CIS-5.7.4" = true := by
    rw [slips, status_of, status_of]
    decide
  have wanted : due [(first, none)] unread "CIS-5.7.4" = true := slipped
  rw [wanted] at told
  cases told

end K8Sense.Doctor.ComplianceDrift
