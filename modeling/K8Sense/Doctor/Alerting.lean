import Mathlib.Data.List.Nodup
import K8Sense.Library.Transition
import K8Sense.Doctor.Scanner
import K8Sense.Doctor.ScanStore

/-! Alerts about critical findings that are new: each finished scan is compared
with the one before it in the store, saved, and reported through webhooks. -/

namespace K8Sense.Doctor.Alerting
open Recency Transition

structure NotificationConfig where
  slackWebhook : String
  teamsWebhook : String
  notifyCritical : Bool
deriving DecidableEq

structure ScanDiff where
  added : List Finding
  resolved : List Finding
  persisted : List Finding
deriving DecidableEq

structure Notification where
  webhooks : List String
  cluster : String
  newCritical : List Finding
  scanID : String
deriving DecidableEq

/-- Whether the calls to the database work while a scan is finished. -/
structure Env where
  lists : Bool
  reads : Bool
  saves : Bool
  config : Option NotificationConfig

def findingKey (finding : Finding) : String :=
  finding.ruleID ++ "|" ++ finding.namespace ++ "|" ++ finding.resourceKind ++ "|" ++ finding.resourceName

def diffFindings (current previous : List Finding) : ScanDiff where
  added := current.filter fun finding => !(previous.map findingKey).contains (findingKey finding)
  resolved := previous.filter fun finding => !(current.map findingKey).contains (findingKey finding)
  persisted := current.filter fun finding => (previous.map findingKey).contains (findingKey finding)

def newCriticalFindings (current previous : List Finding) : List Finding :=
  (diffFindings current previous).added.filter fun finding => finding.severity = severityCritical

/-- `none` is a nil slice, which is also what a scan without findings reads as. -/
def previousFindings (env : Env) (store : Store) (cluster currentScanID : String) : Option (List Finding) :=
  if !env.lists then none
  else match (listScans store cluster 2).find? fun scan => scan.id ≠ currentScanID with
  | none => none
  | some scan =>
    if !env.reads || (getFindings store scan.id).isEmpty then none else some (getFindings store scan.id)

def webhooks (config : NotificationConfig) : List String :=
  [config.slackWebhook, config.teamsWebhook].filter fun url => url ≠ ""

def notifyNewCriticals (env : Env) (cluster scanID : String) (current : List Finding) (previous : Option (List Finding)) :
    Option Notification :=
  match previous, env.config with
  | some previous, some config =>
    if !config.notifyCritical || (webhooks config).isEmpty then none
    else if (newCriticalFindings current previous).isEmpty then none
    else some ⟨webhooks config, cluster, newCriticalFindings current previous, scanID⟩
  | _, _ => none

/-- The result of a run of the scanner, whose findings name it. -/
structure Scan where
  result : ScanResult
  owned : ∀ finding ∈ result.findings, finding.scanID = result.id

/-- The store, and the scans finished so far with what was sent about each. -/
structure State where
  store : Store
  finished : List (Scan × Option Notification)

def initial : State := ⟨⟨[], []⟩, []⟩

structure Event where
  env : Env
  scan : Scan

/-- The end of `runScan`. -/
def finish (event : Event) (state : State) : State :=
  let result := event.scan.result
  let previous := previousFindings event.env state.store result.cluster result.id
  { store := saveScan event.env.saves result state.store
    finished := state.finished ++
      [(event.scan, notifyNewCriticals event.env result.cluster result.id result.findings previous)] }

def step (state : State) (event : Event) : Option State := some (finish event state)

/-- What a finding is recognised by in another scan. -/
def identity (finding : Finding) : String × String × String × String :=
  (finding.ruleID, finding.resourceKind, finding.namespace, finding.resourceName)

def completedOf (cluster : String) (result : ScanResult) : Bool :=
  result.cluster = cluster && result.status = .scanCompleted

/-- The critical findings that the last completed scan of the cluster did not have. -/
def news (earlier : List ScanResult) (result : ScanResult) : List Finding :=
  match (earlier.filter (completedOf result.cluster)).getLast? with
  | none => []
  | some base => result.findings.filter fun finding =>
      finding.severity = severityCritical && !(base.findings.map identity).contains (identity finding)

/-- Each completed scan was reported exactly with its news, if it had any. -/
def Alerted (state : State) : Prop :=
  ∀ before scan alert after, state.finished = before ++ (scan, alert) :: after → scan.result.status = .scanCompleted →
    alert.map Notification.newCritical =
      if news (before.map fun done => done.1.result) scan.result = [] then none
      else some (news (before.map fun done => done.1.result) scan.result)

/-- Alerting is on for the cluster and the database works. -/
def Env.ready (env : Env) : Prop :=
  env.lists = true ∧ env.reads = true ∧
    ∃ config, env.config = some config ∧ config.notifyCritical = true ∧ webhooks config ≠ []

/-- The row is the newest of its cluster. -/
def Newest (store : Store) (row : ScanSummary) : Prop :=
  row ∈ store.scans ∧ ∀ other ∈ store.scans, other.clusterID = row.clusterID → other.startedAt ≤ row.startedAt

/-- Scans of a cluster start in later and later seconds and have ids of their
own. A completed one is saved, and if it has a critical finding then alerting is
ready, the newest scan stored is a completed one with findings, and no key of a
critical finding is that of another identity there. -/
structure Regular (state : State) (event : Event) : Prop where
  fresh : conflicts event.scan.result state.store = false
  later : ∀ row ∈ state.store.scans, row.clusterID = event.scan.result.cluster →
    row.startedAt < unix event.scan.result.startedAt
  saved : event.scan.result.status = .scanCompleted → event.env.saves = true
  told : event.scan.result.status = .scanCompleted →
    ∀ finding ∈ event.scan.result.findings, finding.severity = severityCritical →
      event.env.ready ∧ ∀ row, Newest state.store row → row.clusterID = event.scan.result.cluster →
        row.status = .scanCompleted ∧ row.totalFindings ≠ 0 ∧
          ∀ stored ∈ getFindings state.store row.id, findingKey stored = findingKey finding →
            identity stored = identity finding

theorem restored_identity (finding : Finding) : identity (restore (findingRow finding)) = identity finding := by
  simp [identity, restore, findingRow, nullIfEmpty_getD]

theorem restored_key (finding : Finding) : findingKey (restore (findingRow finding)) = findingKey finding := by
  simp [findingKey, restore, findingRow, nullIfEmpty_getD]

theorem key_of_identity {first second : Finding} (same : identity first = identity second) :
    findingKey first = findingKey second := by
  simp only [identity, Prod.mk.injEq] at same
  obtain ⟨rule, kind, within, name⟩ := same
  simp only [findingKey, rule, kind, within, name]

/-- The store holds the saved scans, every completed one among them. -/
structure Recorded (saved : List Scan) (state : State) : Prop where
  scans : state.store.scans = saved.map fun scan => scanRow scan.result
  findings : state.store.findings = saved.flatMap fun scan => scan.result.findings.map findingRow
  completed : ∀ cluster, (state.finished.map fun done => done.1.result).filter (completedOf cluster) =
    (saved.map Scan.result).filter (completedOf cluster)
  rising : ∀ cluster, Rising ScanSummary.startedAt (state.store.scans.filter fun row => row.clusterID = cluster)
  distinct : (saved.map fun scan => scan.result.id).Nodup

variable {saved : List Scan} {state : State}

theorem recorded_initial : Recorded [] initial where
  scans := rfl
  findings := rfl
  completed _ := rfl
  rising _ := List.Pairwise.nil
  distinct := List.nodup_nil

theorem mem_stored (recorded : Recorded saved state) {base : Scan} (member : base ∈ saved) {finding : Finding} :
    finding ∈ getFindings state.store base.result.id ↔ ∃ source ∈ base.result.findings, restore (findingRow source) = finding := by
  rw [mem_getFindings, recorded.findings]
  constructor
  · rintro ⟨row, inside, named, rfl⟩
    obtain ⟨scan, other, held⟩ := List.mem_flatMap.mp inside
    obtain ⟨source, found, rfl⟩ := List.mem_map.mp held
    have same : scan.result.id = base.result.id := (scan.owned source found).symm.trans named
    obtain rfl := List.inj_on_of_nodup_map recorded.distinct other member same
    exact ⟨source, found, rfl⟩
  · rintro ⟨source, found, rfl⟩
    refine ⟨findingRow source, ?_, base.owned source found, rfl⟩
    exact List.mem_flatMap.mpr ⟨base, member, List.mem_map.mpr ⟨source, found, rfl⟩⟩

theorem no_conflict {result : ScanResult} {store : Store} (fresh : conflicts result store = false) {row : ScanSummary}
    (member : row ∈ store.scans) : row.id ≠ result.id := by
  simp only [conflicts, Bool.or_eq_false_iff, List.any_eq_false, decide_eq_true_eq] at fresh
  exact fresh.1 row member

theorem recorded_finish (recorded : Recorded saved state) {event : Event} (regular : Regular state event) :
    ∃ saved, Recorded saved (finish event state) := by
  have fresh := regular.fresh
  by_cases saves : event.env.saves = true
  · refine ⟨saved ++ [event.scan], ?_⟩
    have stored : (finish event state).store =
        ⟨state.store.scans ++ [scanRow event.scan.result], state.store.findings ++ event.scan.result.findings.map findingRow⟩ := by
      simp [finish, saveScan, saves, fresh]
    refine ⟨?_, ?_, ?_, ?_, ?_⟩
    · simp [stored, recorded.scans]
    · simp [stored, recorded.findings]
    · intro cluster
      simp only [finish, List.map_append, List.filter_append, recorded.completed cluster]
      rfl
    · intro cluster
      rw [stored, List.filter_append]
      refine List.pairwise_append.mpr ⟨recorded.rising cluster, (List.pairwise_singleton _ _).filter _, ?_⟩
      intro row old new added
      obtain ⟨member, own⟩ := List.mem_filter.mp old
      obtain ⟨single, mine⟩ := List.mem_filter.mp added
      obtain rfl := List.mem_singleton.mp single
      have own : row.clusterID = cluster := by simpa using own
      have mine : event.scan.result.cluster = cluster := of_decide_eq_true mine
      exact regular.later row member (own.trans mine.symm)
    · rw [List.map_append, List.nodup_append]
      refine ⟨recorded.distinct, List.nodup_singleton _, ?_⟩
      intro id old other new same
      obtain ⟨scan, member, rfl⟩ := List.mem_map.mp old
      obtain rfl := List.mem_singleton.mp new
      exact no_conflict fresh (recorded.scans ▸ List.mem_map.mpr ⟨scan, member, rfl⟩) same
  · refine ⟨saved, ?_⟩
    have kept : (finish event state).store = state.store := by
      simp [finish, saveScan, saves]
    have incomplete : event.scan.result.status ≠ .scanCompleted := fun done => saves (regular.saved done)
    refine ⟨?_, ?_, ?_, ?_, recorded.distinct⟩
    · rw [kept, recorded.scans]
    · rw [kept, recorded.findings]
    · intro cluster
      rw [← recorded.completed cluster]
      simp [finish, completedOf, incomplete]
    · rw [kept]
      exact recorded.rising

def savedOf (cluster : String) (saved : List Scan) : List Scan :=
  saved.filter fun scan => scan.result.cluster = cluster

theorem rows_of (recorded : Recorded saved state) (cluster : String) :
    (state.store.scans.filter fun row => row.clusterID = cluster) = (savedOf cluster saved).map fun scan => scanRow scan.result := by
  rw [recorded.scans, List.filter_map]
  rfl

private theorem find_first {α : Type} {items : List α} {wanted : α → Bool} (all : ∀ item ∈ items, wanted item = true) :
    items.find? wanted = items.head? := by
  cases items with
  | nil => rfl
  | cons item rest => simp [all item List.mem_cons_self]

theorem previousFindings_eq (recorded : Recorded saved state) {env : Env} (lists : env.lists = true) (reads : env.reads = true)
    {result : ScanResult} (fresh : conflicts result state.store = false) :
    previousFindings env state.store result.cluster result.id =
      match (savedOf result.cluster saved).getLast? with
      | none => none
      | some base => if (getFindings state.store base.result.id).isEmpty then none
          else some (getFindings state.store base.result.id) := by
  have others : ∀ row ∈ listScans state.store result.cluster 2, decide (row.id ≠ result.id) = true := by
    intro row member
    have stored := (List.mem_filter.mp (mem_newestFirst.mp (List.mem_of_mem_take member))).1
    simpa using no_conflict fresh stored
  have newest : (listScans state.store result.cluster 2).head? =
      (savedOf result.cluster saved).getLast?.map fun scan => scanRow scan.result := by
    rw [listScans, List.head?_take, if_neg (by simp), newest_of_rising (recorded.rising result.cluster), rows_of recorded,
      List.getLast?_map]
  simp only [previousFindings, lists, reads, Bool.not_true, Bool.false_eq_true, if_false, Bool.false_or]
  rw [find_first others, newest]
  cases (savedOf result.cluster saved).getLast? <;> rfl

theorem mem_newCritical {current previous : List Finding} {finding : Finding} :
    finding ∈ newCriticalFindings current previous ↔ finding ∈ current ∧ findingKey finding ∉ previous.map findingKey ∧
      finding.severity = severityCritical := by
  simp [newCriticalFindings, diffFindings, and_comm]

theorem critical_of_news {earlier : List ScanResult} {result : ScanResult} {finding : Finding}
    (member : finding ∈ news earlier result) : finding ∈ result.findings ∧ finding.severity = severityCritical := by
  unfold news at member
  split at member
  next => cases member
  next =>
    obtain ⟨inside, new⟩ := List.mem_filter.mp member
    simp only [Bool.and_eq_true, decide_eq_true_eq] at new
    exact ⟨inside, new.1⟩

theorem notify_nothing {env : Env} {cluster scanID : String} {current : List Finding} {previous : Option (List Finding)}
    (nothing : ∀ found, previous = some found → newCriticalFindings current found = []) :
    notifyNewCriticals env cluster scanID current previous = none := by
  unfold notifyNewCriticals
  split
  next found config _ =>
    split
    next => rfl
    next => simp [nothing found rfl]
  next => rfl

theorem notify_ready {env : Env} (ready : env.ready) {cluster scanID : String} {current found : List Finding} :
    (notifyNewCriticals env cluster scanID current (some found)).map Notification.newCritical =
      if newCriticalFindings current found = [] then none else some (newCriticalFindings current found) := by
  obtain ⟨_, _, config, same, on, hooks⟩ := ready
  simp only [notifyNewCriticals, same, on, Bool.not_true, Bool.false_or, List.isEmpty_iff, hooks, if_false]
  split <;> rfl

theorem newCritical_eq {current previous base : List Finding}
    (restored : ∀ stored, stored ∈ previous ↔ ∃ source ∈ base, restore (findingRow source) = stored)
    (apart : ∀ finding ∈ current, finding.severity = severityCritical → ∀ stored ∈ previous,
      findingKey stored = findingKey finding → identity stored = identity finding) :
    newCriticalFindings current previous = current.filter fun finding =>
      finding.severity = severityCritical && !(base.map identity).contains (identity finding) := by
  rw [newCriticalFindings, diffFindings, List.filter_filter]
  apply List.filter_congr
  intro finding member
  by_cases critical : finding.severity = severityCritical
  · have same : findingKey finding ∈ previous.map findingKey ↔ identity finding ∈ base.map identity := by
      constructor
      · intro known
        obtain ⟨stored, inside, key⟩ := List.mem_map.mp known
        obtain ⟨source, held, rfl⟩ := (restored stored).mp inside
        have alike := apart finding member critical _ inside key
        exact List.mem_map.mpr ⟨source, held, (restored_identity source).symm.trans alike⟩
      · intro known
        obtain ⟨source, held, alike⟩ := List.mem_map.mp known
        refine List.mem_map.mpr ⟨restore (findingRow source), (restored _).mpr ⟨source, held, rfl⟩, ?_⟩
        exact (restored_key source).trans (key_of_identity alike)
    by_cases known : identity finding ∈ base.map identity
    · simp [critical, known, same.mpr known]
    · simp [critical, known, mt same.mp known]
  · simp [critical]

theorem completed_of (recorded : Recorded saved state) (cluster : String) :
    (state.finished.map fun done => done.1.result).filter (completedOf cluster) =
      ((savedOf cluster saved).map Scan.result).filter fun result => result.status = .scanCompleted := by
  rw [recorded.completed, savedOf, List.filter_map, List.filter_map, List.filter_filter]
  congr 1
  apply List.filter_congr
  intro scan _
  exact Bool.and_comm _ _

theorem newest_last (recorded : Recorded saved state) {cluster : String} {base : Scan}
    (last : (savedOf cluster saved).getLast? = some base) :
    Newest state.store (scanRow base.result) ∧ base ∈ saved ∧ base.result.cluster = cluster := by
  obtain ⟨member, own⟩ := List.mem_filter.mp (List.mem_of_getLast? last)
  have mine : base.result.cluster = cluster := by simpa using own
  refine ⟨⟨?_, ?_⟩, member, mine⟩
  · rw [recorded.scans]
    exact List.mem_map.mpr ⟨base, member, rfl⟩
  · intro other inside same
    have final : (state.store.scans.filter fun row => row.clusterID = cluster).getLast? = some (scanRow base.result) := by
      rw [rows_of recorded, List.getLast?_map, last, Option.map_some]
    refine last_newest (recorded.rising cluster) final (List.mem_filter.mpr ⟨inside, ?_⟩)
    exact decide_eq_true (same.trans mine)

theorem notified (recorded : Recorded saved state) {event : Event} (regular : Regular state event)
    (done : event.scan.result.status = .scanCompleted) :
    (notifyNewCriticals event.env event.scan.result.cluster event.scan.result.id event.scan.result.findings
      (previousFindings event.env state.store event.scan.result.cluster event.scan.result.id)).map Notification.newCritical =
        if news (state.finished.map fun done => done.1.result) event.scan.result = [] then none
        else some (news (state.finished.map fun done => done.1.result) event.scan.result) := by
  by_cases any : ∃ finding ∈ event.scan.result.findings, finding.severity = severityCritical
  · obtain ⟨finding, member, critical⟩ := any
    obtain ⟨ready, _⟩ := regular.told done finding member critical
    rw [previousFindings_eq recorded ready.1 ready.2.1 regular.fresh]
    cases last : (savedOf event.scan.result.cluster saved).getLast? with
    | none =>
      have none : savedOf event.scan.result.cluster saved = [] := List.getLast?_eq_none_iff.mp last
      have quiet : news (state.finished.map fun done => done.1.result) event.scan.result = [] := by
        rw [news, completed_of recorded, none]
        rfl
      rw [if_pos quiet]
      rfl
    | some base =>
      obtain ⟨newest, held, own⟩ := newest_last recorded last
      obtain ⟨_, told⟩ := regular.told done finding member critical
      obtain ⟨status, filled, _⟩ := told (scanRow base.result) newest own
      have baseline : news (state.finished.map fun done => done.1.result) event.scan.result =
          newCriticalFindings event.scan.result.findings (getFindings state.store base.result.id) := by
        have found : ((state.finished.map fun done => done.1.result).filter
            (completedOf event.scan.result.cluster)).getLast? = some base.result := by
          rw [completed_of recorded]
          apply getLast_filter
          · rw [List.getLast?_map, last, Option.map_some]
          · exact decide_eq_true status
        rw [news, found]
        symm
        apply newCritical_eq (fun _ => mem_stored recorded held)
        intro finding member critical stored inside
        obtain ⟨_, told⟩ := regular.told done finding member critical
        exact (told (scanRow base.result) newest own).2.2 stored inside
      have nonempty : (getFindings state.store base.result.id).isEmpty = false := by
        obtain ⟨source, inside⟩ := List.exists_mem_of_length_pos (Nat.pos_of_ne_zero filled)
        have stored := (mem_stored recorded held).mpr ⟨source, inside, rfl⟩
        exact List.isEmpty_eq_false_iff_exists_mem.mpr ⟨_, stored⟩
      simp only [nonempty, Bool.false_eq_true, if_false]
      rw [notify_ready ready, baseline]
  · have quiet : news (state.finished.map fun done => done.1.result) event.scan.result = [] := by
      rw [List.eq_nil_iff_forall_not_mem]
      exact fun finding member => any ⟨finding, critical_of_news member⟩
    rw [if_pos quiet, notify_nothing]
    · rfl
    · intro found _
      rw [List.eq_nil_iff_forall_not_mem]
      intro finding member
      obtain ⟨inside, _, critical⟩ := mem_newCritical.mp member
      exact any ⟨finding, inside, critical⟩

structure Steady (state : State) : Prop where
  recorded : ∃ saved, Recorded saved state
  alerted : Alerted state

theorem steady_finish (steady : Steady state) {event : Event} (regular : Regular state event) :
    Steady (finish event state) := by
  obtain ⟨saved, recorded⟩ := steady.recorded
  refine ⟨recorded_finish recorded regular, ?_⟩
  intro before scan alert after split done
  simp only [finish] at split
  rcases List.eq_nil_or_concat after with rfl | ⟨others, final, rfl⟩
  · have same := List.append_inj' split rfl
    obtain ⟨rfl, pair⟩ := same
    cases pair
    exact notified recorded regular done
  · rw [List.concat_eq_append, ← List.cons_append, ← List.append_assoc] at split
    exact steady.alerted before scan alert others (List.append_inj' split rfl).1 done

/-- In a run of regular scans each completed one is reported with its critical
findings that the last completed scan of its cluster did not have, if any. -/
theorem alerts_exact (events : List Event) (last : State) (regular : Meets step Regular initial events)
    (ran : run step initial events = some last) : Alerted last := by
  have steady : Steady last := by
    refine invariant Steady ?_ ⟨⟨[], recorded_initial⟩, ?_⟩ regular ran
    · intro state event next steady allowed taken
      cases taken
      exact steady_finish steady allowed
    · intro before scan alert after split
      simp [initial] at split
  exact steady.alerted

private def ready : Env := ⟨true, true, true, some ⟨"https://hooks/slack", "", true⟩⟩

private def findingIn (scanID id severity name : String) : Finding :=
  ⟨id, scanID, "POD-1", "Crash loop", severity, "pods", "ns", "Pod", name, "", "", [], "", 0, false, "", ""⟩

/-- A completed scan of `c` in the given second. -/
private def scanAt (second : Nat) (id : String) (findings : List Finding)
    (owned : ∀ finding ∈ findings, finding.scanID = id) : Scan :=
  ⟨⟨id, "c", second * 1000000000, second * 1000000000, .scanCompleted, findings, 0, ""⟩, owned⟩

private def warned : Scan := scanAt 1 "s1" [findingIn "s1" "f1" severityWarning "web"] (by simp [findingIn])

private def broken : Scan := scanAt 2 "s2" [findingIn "s2" "f2" severityCritical "db"] (by simp [findingIn])

private def clean : Scan := scanAt 1 "s1" [] (by simp)

private theorem first_stored (scan : Scan) (distinct : (scan.result.findings.map Finding.id).Nodup) :
    (finish ⟨ready, scan⟩ initial).store = ⟨[scanRow scan.result], scan.result.findings.map findingRow⟩ := by
  simp [finish, saveScan, ready, conflicts, initial, distinct]

theorem broken_pod_reported : ∃ last, run step initial [⟨ready, warned⟩, ⟨ready, broken⟩] = some last ∧ Alerted last := by
  refine ⟨_, rfl, alerts_exact [⟨ready, warned⟩, ⟨ready, broken⟩] _ ⟨?_, ?_, trivial⟩ rfl⟩
  · refine ⟨by decide, by simp [initial], fun _ => rfl, ?_⟩
    intro _ finding member critical
    obtain rfl := List.mem_singleton.mp member
    exact absurd critical (by decide)
  · have stored := first_stored warned (by decide)
    refine ⟨by decide, ?_, fun _ => rfl, ?_⟩
    · intro row member _
      rw [stored] at member
      obtain rfl := List.mem_singleton.mp member
      decide
    · intro _ finding member _
      obtain rfl := List.mem_singleton.mp member
      refine ⟨⟨rfl, rfl, _, rfl, rfl, by decide⟩, ?_⟩
      intro row newest _
      have inside := newest.1
      rw [stored] at inside
      obtain rfl := List.mem_singleton.mp inside
      refine ⟨rfl, by decide, ?_⟩
      intro found held same
      obtain ⟨finding, within, _, rfl⟩ := mem_getFindings.mp held
      rw [stored] at within
      obtain rfl := List.mem_singleton.mp within
      exact absurd same (by decide)

/-- A scan without findings is no baseline. -/
theorem clean_scan_forgotten : ¬ ∀ (events : List Event) (last : State),
    (∀ event ∈ events, event.env.ready ∧ event.env.saves = true) → run step initial events = some last → Alerted last := by
  intro alerted
  have on : ready.ready := ⟨rfl, rfl, _, rfl, rfl, by decide⟩
  have told := alerted [⟨ready, clean⟩, ⟨ready, broken⟩] _ (by simp [on]; decide) rfl
  have stored := first_stored clean (by decide)
  have forgotten : previousFindings ready (finish ⟨ready, clean⟩ initial).store "c" "s2" = none := by
    rw [stored]
    simp [previousFindings, listScans, getFindings, Recency.newestFirst, clean, scanAt, scanRow, ready]
  have reported := told [(clean, _)] broken (notifyNewCriticals ready "c" "s2" broken.result.findings
    (previousFindings ready (finish ⟨ready, clean⟩ initial).store "c" "s2")) [] rfl rfl
  rw [forgotten] at reported
  exact absurd reported (by decide)

end K8Sense.Doctor.Alerting
