import K8Sense.Library.Transition
import K8Sense.Doctor.Tables

/-! Scheduled scans on any number of replicas that share one database. A tick reads
the due schedules, and then resolves, stamps and launches them one by one. -/

namespace K8Sense.Doctor.Scheduler
open Db Keyed Transition

abbrev Table := List (String × ScanSchedule)

/-- `SetSchedule`. -/
def saveSchedule (clusterID : String) (enabled : Bool) (intervalMinutes : Int) : Table → Table :=
  upsert clusterID ⟨enabled, max minimumInterval intervalMinutes, 0⟩ fun old =>
    { old with enabled, intervalMinutes := max minimumInterval intervalMinutes }

def dueSchedules (now : Nat) (table : Table) : Table :=
  table.filter fun row => row.2.enabled && (row.2.lastRunAt + row.2.intervalMinutes * 60 ≤ (now : Int) : Bool)

/-- A schedule that is not there is inserted with an interval of an hour. -/
def markScheduleRun (clusterID : String) (now : Nat) : Table → Table :=
  upsert clusterID ⟨true, 60, now⟩ fun old => { old with lastRunAt := now }

/-- Where the loop of a replica stands. -/
inductive Phase where
  | looping (due : Table)
  | resolved (cluster : String) (sched : ScanSchedule) (rest : Table)
  | stamped (cluster : String) (sched : ScanSchedule) (stampedAt : Nat) (rest : Table)

/-- A scheduled scan, with the time of the last run that it was due from. -/
structure Scan where
  cluster : String
  slot : Nat
  intervalMinutes : Int
  startedAt : Nat
  deriving DecidableEq

/-- `spent` are the slots that a stamp has used up. Times are in seconds. -/
structure State where
  clock : Nat
  table : Table
  replicas : Nat → Phase
  scans : List Scan
  spent : List (String × Nat)

inductive Event where
  | wait (seconds : Nat)
  | save (clusterID : String) (enabled : Bool) (intervalMinutes : Int)
  | tick (replica : Nat) (works : Bool)
  | resolve (replica : Nat) (reached : Bool)
  | stamp (replica : Nat) (works : Bool)
  | launch (replica : Nat)

def lastRun (table : Table) (clusterID : String) : Nat := ((lookup clusterID table).map ScanSchedule.lastRunAt).getD 0

def State.setReplica (replica : Nat) (phase : Phase) (state : State) : State :=
  { state with replicas := Function.update state.replicas replica phase }

/-- The steps of `runDueScans`, and what else happens to schedules. A stamp that
fails is only logged. -/
def step (state : State) : Event → Option State
  | .wait seconds => some { state with clock := state.clock + seconds }
  | .save clusterID enabled intervalMinutes =>
    some { state with table := saveSchedule clusterID enabled intervalMinutes state.table }
  | .tick replica works =>
    match state.replicas replica with
    | .looping [] => some (if works then state.setReplica replica (.looping (dueSchedules state.clock state.table)) else state)
    | _ => none
  | .resolve replica reached =>
    match state.replicas replica with
    | .looping ((cluster, sched) :: rest) =>
      some (state.setReplica replica (if reached then .resolved cluster sched rest else .looping rest))
    | _ => none
  | .stamp replica works =>
    match state.replicas replica with
    | .resolved cluster sched rest =>
      let next := state.setReplica replica (.stamped cluster sched state.clock rest)
      some (if works then { next with
          table := markScheduleRun cluster state.clock state.table
          spent := state.spent ++ [(cluster, lastRun state.table cluster)] }
        else next)
    | _ => none
  | .launch replica =>
    match state.replicas replica with
    | .stamped cluster sched _ rest =>
      let next := state.setReplica replica (.looping rest)
      some { next with scans := state.scans ++ [⟨cluster, sched.lastRunAt, sched.intervalMinutes, state.clock⟩] }
    | _ => none

def initial : State := ⟨0, [], fun _ => .looping [], [], []⟩

/-- The time of the schedule's next run has come. -/
def Due (clock : Nat) (sched : ScanSchedule) : Prop :=
  sched.enabled = true ∧ sched.lastRunAt + sched.intervalMinutes * 60 ≤ (clock : Int)

/-- What schedules promise: a slot has one scan at most, and the scans of a cluster
keep their distance; a slot that is used up has its scan, or its replica is just
about to start it; a tick that has read a slot starts its scan if it can resolve the
cluster; and a tick of an idle replica takes on every slot that is due: whatever
happens in between, each has its scan when the replica is idle again, unless it has
failed to resolve a cluster. -/
structure OnSchedule (state : State) : Prop where
  once : state.scans.Pairwise fun first second => first.cluster = second.cluster → first.slot ≠ second.slot
  apart : state.scans.Pairwise fun first second => first.cluster = second.cluster →
    first.startedAt + second.intervalMinutes * 60 ≤ (second.startedAt : Int)
  spent : ∀ entry ∈ state.spent, (∃ scan ∈ state.scans, (scan.cluster, scan.slot) = entry) ∨
    ∃ replica cluster sched stampedAt rest, state.replicas replica = .stamped cluster sched stampedAt rest ∧
      (cluster, sched.lastRunAt) = entry
  leads : ∀ replica cluster sched rest, state.replicas replica = .looping ((cluster, sched) :: rest) → ∃ next,
    run step state [.resolve replica true, .stamp replica true, .launch replica] = some next ∧
      ⟨cluster, sched.lastRunAt, sched.intervalMinutes, state.clock⟩ ∈ next.scans
  served : ∀ replica, state.replicas replica = .looping [] → ∃ next, step state (.tick replica true) = some next ∧
    ∀ cluster sched, (cluster, sched) ∈ state.table → Due state.clock sched → ∀ events last, run step next events = some last →
      (∀ event ∈ events, event ≠ .resolve replica false) → last.replicas replica = .looping [] →
        ∃ scan ∈ last.scans, scan.cluster = cluster ∧ scan.slot = sched.lastRunAt

/-- A stamp does not fail, and it finds the last run that its tick has read. -/
def Phase.Current (table : Table) (works : Bool) : Phase → Prop
  | .resolved cluster sched _ => works = true ∧ lastRun table cluster = sched.lastRunAt
  | _ => True

/-- A scan starts within the second of its stamp. -/
def Phase.Prompt (clock : Nat) : Phase → Prop
  | .stamped _ _ stampedAt _ => stampedAt = clock
  | _ => True

def Undisturbed (state : State) : Event → Prop
  | .stamp replica works => (state.replicas replica).Current state.table works
  | .launch replica => (state.replicas replica).Prompt state.clock
  | _ => True

instance (table : Table) (works : Bool) : ∀ phase : Phase, Decidable (phase.Current table works)
  | .looping _ | .stamped _ _ _ _ => isTrue trivial
  | .resolved _ _ _ => inferInstanceAs (Decidable (_ ∧ _))

instance (clock : Nat) : ∀ phase : Phase, Decidable (phase.Prompt clock)
  | .looping _ | .resolved _ _ _ => isTrue trivial
  | .stamped _ _ stampedAt _ => inferInstanceAs (Decidable (stampedAt = clock))

instance (state : State) : ∀ event, Decidable (Undisturbed state event)
  | .wait _ | .save _ _ _ | .tick _ _ | .resolve _ _ => isTrue trivial
  | .stamp replica works => inferInstanceAs (Decidable ((state.replicas replica).Current state.table works))
  | .launch replica => inferInstanceAs (Decidable ((state.replicas replica).Prompt state.clock))

/-- What a replica has read and not stamped yet. -/
def Phase.Reads : Phase → String → ScanSchedule → Prop
  | .looping due, cluster, sched => (cluster, sched) ∈ due
  | .resolved cluster sched rest, other, found => cluster = other ∧ sched = found ∨ (other, found) ∈ rest
  | .stamped _ _ _ rest, cluster, sched => (cluster, sched) ∈ rest

variable {state next : State} {table : Table}

@[simp] theorem setReplica_same (replica : Nat) (phase : Phase) : (state.setReplica replica phase).replicas replica = phase := by
  simp [State.setReplica]

theorem setReplica_other {replica other : Nat} (distinct : other ≠ replica) (phase : Phase) :
    (state.setReplica replica phase).replicas other = state.replicas other := by
  simp [State.setReplica, distinct]

theorem lastRun_save {clusterID : String} {enabled : Bool} {intervalMinutes : Int} (cluster : String) :
    lastRun (saveSchedule clusterID enabled intervalMinutes table) cluster = lastRun table cluster := by
  rw [lastRun, saveSchedule, lookup_upsert, lastRun]
  split
  next same =>
    subst same
    cases lookup cluster table <;> rfl
  next => rfl

theorem lastRun_mark {clusterID : String} {now : Nat} (cluster : String) :
    lastRun (markScheduleRun clusterID now table) cluster = if cluster = clusterID then now else lastRun table cluster := by
  rw [lastRun, markScheduleRun, lookup_upsert]
  split
  next =>
    cases lookup clusterID table <;> rfl
  next => rfl

theorem unique_save {clusterID : String} {enabled : Bool} {intervalMinutes : Int} (unique : Unique table) :
    Unique (saveSchedule clusterID enabled intervalMinutes table) :=
  unique_upsert unique

theorem unique_mark {clusterID : String} {now : Nat} (unique : Unique table) : Unique (markScheduleRun clusterID now table) :=
  unique_upsert unique

/-- Every interval is of five minutes at least. -/
def Spaced (table : Table) : Prop := ∀ row ∈ table, minimumInterval ≤ row.2.intervalMinutes

theorem spaced_save {clusterID : String} {enabled : Bool} {intervalMinutes : Int} (spaced : Spaced table) :
    Spaced (saveSchedule clusterID enabled intervalMinutes table) := by
  intro row member
  rcases mem_upsert member with old | rfl | ⟨old, inside, rfl⟩
  · exact spaced row old
  · exact Int.le_max_left _ _
  · exact Int.le_max_left _ _

theorem spaced_mark {clusterID : String} {now : Nat} (spaced : Spaced table) : Spaced (markScheduleRun clusterID now table) := by
  intro row member
  rcases mem_upsert member with old | rfl | ⟨old, inside, rfl⟩
  · exact spaced row old
  · exact (by decide : minimumInterval ≤ 60)
  · exact spaced (clusterID, old) inside

theorem due_read {now : Nat} {cluster : String} {sched : ScanSchedule} (unique : Unique table) (spaced : Spaced table)
    (due : (cluster, sched) ∈ dueSchedules now table) :
    sched.lastRunAt = lastRun table cluster ∧ minimumInterval ≤ sched.intervalMinutes ∧
      sched.lastRunAt + sched.intervalMinutes * 60 ≤ (now : Int) := by
  obtain ⟨inside, passed⟩ := List.mem_filter.mp due
  rw [Bool.and_eq_true, decide_eq_true_eq] at passed
  refine ⟨?_, spaced _ inside, passed.2⟩
  rw [lastRun, lookup_mem unique inside]
  rfl

/-- How the replicas, the stored runs and the scans hang together. -/
structure Orderly (state : State) : Prop where
  unique : Unique state.table
  spaced : Spaced state.table
  past : ∀ cluster, lastRun state.table cluster ≤ state.clock
  reads : ∀ replica cluster sched, (state.replicas replica).Reads cluster sched →
    minimumInterval ≤ sched.intervalMinutes ∧ sched.lastRunAt + sched.intervalMinutes * 60 ≤ (state.clock : Int)
  stamps : ∀ replica cluster sched stampedAt rest, state.replicas replica = .stamped cluster sched stampedAt rest →
    sched.lastRunAt < stampedAt ∧ stampedAt ≤ lastRun state.table cluster
  separate : ∀ replica other cluster sched stampedAt rest sched' stampedAt' rest', replica ≠ other →
    state.replicas replica = .stamped cluster sched stampedAt rest →
      state.replicas other = .stamped cluster sched' stampedAt' rest' →
        stampedAt ≠ stampedAt' ∧ sched.lastRunAt ≠ sched'.lastRunAt
  scanned : ∀ scan ∈ state.scans, scan.slot < lastRun state.table scan.cluster ∧
    scan.startedAt ≤ lastRun state.table scan.cluster
  fresh : ∀ replica cluster sched stampedAt rest, state.replicas replica = .stamped cluster sched stampedAt rest →
    ∀ scan ∈ state.scans, scan.cluster = cluster → scan.slot ≠ sched.lastRunAt ∧
      (scan.startedAt + sched.intervalMinutes * 60 ≤ (stampedAt : Int) ∨ stampedAt < state.clock)
  once : state.scans.Pairwise fun first second => first.cluster = second.cluster → first.slot ≠ second.slot
  apart : state.scans.Pairwise fun first second => first.cluster = second.cluster →
    first.startedAt + second.intervalMinutes * 60 ≤ (second.startedAt : Int)
  spent : ∀ entry ∈ state.spent, (∃ scan ∈ state.scans, (scan.cluster, scan.slot) = entry) ∨
    ∃ replica cluster sched stampedAt rest, state.replicas replica = .stamped cluster sched stampedAt rest ∧
      (cluster, sched.lastRunAt) = entry

theorem orderly_initial : Orderly initial where
  unique := List.nodup_nil
  spaced := fun _ member => nomatch member
  past := fun _ => Nat.le_refl 0
  reads := fun _ _ _ read => nomatch read
  stamps := nofun
  separate := nofun
  scanned := fun _ member => nomatch member
  fresh := nofun
  once := List.Pairwise.nil
  apart := List.Pairwise.nil
  spent := fun _ member => nomatch member

theorem orderly_wait {seconds : Nat} (orderly : Orderly state) : Orderly { state with clock := state.clock + seconds } where
  unique := orderly.unique
  spaced := orderly.spaced
  past cluster := Nat.le_trans (orderly.past cluster) (Nat.le_add_right _ _)
  reads replica cluster sched read := by
    have bounds := orderly.reads replica cluster sched read
    exact ⟨bounds.1, by push_cast; omega⟩
  stamps := orderly.stamps
  separate := orderly.separate
  scanned := orderly.scanned
  fresh replica cluster sched stampedAt rest holds scan member same := by
    have kept := orderly.fresh replica cluster sched stampedAt rest holds scan member same
    exact ⟨kept.1, kept.2.imp_right fun before => Nat.lt_of_lt_of_le before (Nat.le_add_right _ _)⟩
  once := orderly.once
  apart := orderly.apart
  spent := orderly.spent

theorem orderly_save {clusterID : String} {enabled : Bool} {intervalMinutes : Int} (orderly : Orderly state) :
    Orderly { state with table := saveSchedule clusterID enabled intervalMinutes state.table } where
  unique := unique_save orderly.unique
  spaced := spaced_save orderly.spaced
  past cluster := by
    rw [lastRun_save]
    exact orderly.past cluster
  reads := orderly.reads
  stamps replica cluster sched stampedAt rest holds := by
    rw [lastRun_save]
    exact orderly.stamps replica cluster sched stampedAt rest holds
  separate := orderly.separate
  scanned scan member := by
    rw [lastRun_save]
    exact orderly.scanned scan member
  fresh := orderly.fresh
  once := orderly.once
  apart := orderly.apart
  spent := orderly.spent

theorem orderly_replica {replica : Nat} {phase : Phase} (orderly : Orderly state)
    (idle : ∀ cluster sched stampedAt rest, state.replicas replica ≠ .stamped cluster sched stampedAt rest)
    (stays : ∀ cluster sched stampedAt rest, phase ≠ .stamped cluster sched stampedAt rest)
    (reads : ∀ cluster sched, phase.Reads cluster sched → minimumInterval ≤ sched.intervalMinutes ∧
      sched.lastRunAt + sched.intervalMinutes * 60 ≤ (state.clock : Int)) :
    Orderly (state.setReplica replica phase) := by
  have unstamped : ∀ other cluster sched stampedAt rest,
      (state.setReplica replica phase).replicas other = .stamped cluster sched stampedAt rest →
        state.replicas other = .stamped cluster sched stampedAt rest := by
    intro other cluster sched stampedAt rest holds
    by_cases same : other = replica
    · subst same
      rw [setReplica_same] at holds
      exact absurd holds (stays cluster sched stampedAt rest)
    · rwa [setReplica_other same] at holds
  constructor
  · exact orderly.unique
  · exact orderly.spaced
  · exact orderly.past
  · intro other cluster sched read
    by_cases same : other = replica
    · subst same
      rw [setReplica_same] at read
      exact reads cluster sched read
    · rw [setReplica_other same] at read
      exact orderly.reads other cluster sched read
  · exact fun other cluster sched stampedAt rest holds =>
      orderly.stamps other cluster sched stampedAt rest (unstamped other cluster sched stampedAt rest holds)
  · exact fun first second cluster sched stampedAt rest sched' stampedAt' rest' distinct one two =>
      orderly.separate first second cluster sched stampedAt rest sched' stampedAt' rest' distinct
        (unstamped first _ _ _ _ one) (unstamped second _ _ _ _ two)
  · exact orderly.scanned
  · exact fun other cluster sched stampedAt rest holds =>
      orderly.fresh other cluster sched stampedAt rest (unstamped other cluster sched stampedAt rest holds)
  · exact orderly.once
  · exact orderly.apart
  · intro entry member
    refine (orderly.spent entry member).imp_right ?_
    rintro ⟨other, cluster, sched, stampedAt, rest, holds, named⟩
    refine ⟨other, cluster, sched, stampedAt, rest, ?_, named⟩
    have distinct : other ≠ replica := by
      rintro rfl
      exact idle cluster sched stampedAt rest holds
    rwa [setReplica_other distinct]

theorem orderly_stamp {replica : Nat} {cluster : String} {sched : ScanSchedule} {rest : Table} (orderly : Orderly state)
    (resolved : state.replicas replica = .resolved cluster sched rest)
    (current : lastRun state.table cluster = sched.lastRunAt) :
    Orderly { state.setReplica replica (.stamped cluster sched state.clock rest) with
      table := markScheduleRun cluster state.clock state.table
      spent := state.spent ++ [(cluster, lastRun state.table cluster)] } := by
  have due := orderly.reads replica cluster sched (by rw [resolved]; exact Or.inl ⟨rfl, rfl⟩)
  have later : sched.lastRunAt + 300 ≤ state.clock := by
    unfold minimumInterval at due
    omega
  -- The stored runs only grow.
  have grows : ∀ other, lastRun state.table other ≤ lastRun (markScheduleRun cluster state.clock state.table) other := by
    intro other
    rw [lastRun_mark]
    split
    next same =>
      subst same
      exact orderly.past other
    next => exact Nat.le_refl _
  -- A stamp that is there now is the new one or an old one of another replica.
  have stamped : ∀ other name found stampedAt left,
      (state.setReplica replica (.stamped cluster sched state.clock rest)).replicas other = .stamped name found stampedAt left →
        other = replica ∧ name = cluster ∧ found = sched ∧ stampedAt = state.clock ∨
          other ≠ replica ∧ state.replicas other = .stamped name found stampedAt left := by
    intro other name found stampedAt left holds
    by_cases same : other = replica
    · subst same
      rw [setReplica_same] at holds
      cases holds
      exact Or.inl ⟨rfl, rfl, rfl, rfl⟩
    · rw [setReplica_other same] at holds
      exact Or.inr ⟨same, holds⟩
  -- An old stamp of the cluster is no later than the run that the tick has read.
  have older : ∀ other found stampedAt left, state.replicas other = .stamped cluster found stampedAt left →
      found.lastRunAt < stampedAt ∧ stampedAt ≤ sched.lastRunAt := by
    intro other found stampedAt left holds
    rw [← current]
    exact orderly.stamps other cluster found stampedAt left holds
  constructor
  · exact unique_mark orderly.unique
  · exact spaced_mark orderly.spaced
  · intro other
    rw [lastRun_mark]
    split
    next => exact Nat.le_refl _
    next => exact orderly.past other
  · intro other name found read
    by_cases same : other = replica
    · subst same
      change Phase.Reads ((state.setReplica other _).replicas other) name found at read
      rw [setReplica_same] at read
      exact orderly.reads other name found (by rw [resolved]; exact Or.inr read)
    · change Phase.Reads ((state.setReplica replica _).replicas other) name found at read
      rw [setReplica_other same] at read
      exact orderly.reads other name found read
  · intro other name found stampedAt left holds
    rcases stamped other name found stampedAt left holds with ⟨-, rfl, rfl, rfl⟩ | ⟨-, old⟩
    · exact ⟨by omega, Nat.le_of_eq ((lastRun_mark name).trans (if_pos rfl)).symm⟩
    · have bounds := orderly.stamps other name found stampedAt left old
      exact ⟨bounds.1, Nat.le_trans bounds.2 (grows name)⟩
  · intro first second name one firstAt left two secondAt left' distinct holds holds'
    rcases stamped first name one firstAt left holds with ⟨rfl, rfl, rfl, rfl⟩ | ⟨-, old⟩
    · rcases stamped second name two secondAt left' holds' with ⟨rfl, -⟩ | ⟨-, old'⟩
      · exact absurd rfl distinct
      · have bounds := older second two secondAt left' old'
        exact ⟨by omega, by omega⟩
    · rcases stamped second name two secondAt left' holds' with ⟨rfl, rfl, rfl, rfl⟩ | ⟨-, old'⟩
      · have bounds := older first one firstAt left old
        exact ⟨by omega, by omega⟩
      · exact orderly.separate first second name one firstAt left two secondAt left' distinct old old'
  · intro scan member
    have bounds := orderly.scanned scan member
    exact ⟨Nat.lt_of_lt_of_le bounds.1 (grows scan.cluster), Nat.le_trans bounds.2 (grows scan.cluster)⟩
  · intro other name found stampedAt left holds scan member same
    rcases stamped other name found stampedAt left holds with ⟨-, rfl, rfl, rfl⟩ | ⟨-, old⟩
    · have bounds := orderly.scanned scan member
      rw [same, current] at bounds
      exact ⟨by omega, Or.inl (by omega)⟩
    · exact orderly.fresh other name found stampedAt left old scan member same
  · exact orderly.once
  · exact orderly.apart
  · intro entry member
    rcases List.mem_append.mp member with old | new
    · refine (orderly.spent entry old).imp_right ?_
      rintro ⟨other, name, found, stampedAt, left, holds, named⟩
      refine ⟨other, name, found, stampedAt, left, ?_, named⟩
      have distinct : other ≠ replica := by
        rintro rfl
        rw [resolved] at holds
        cases holds
      exact (setReplica_other distinct _).trans holds
    · refine Or.inr ⟨replica, cluster, sched, state.clock, rest, setReplica_same replica _, ?_⟩
      rw [List.mem_singleton.mp new, current]

theorem orderly_launch {replica : Nat} {cluster : String} {sched : ScanSchedule} {rest : Table} (orderly : Orderly state)
    (holds : state.replicas replica = .stamped cluster sched state.clock rest) :
    Orderly { state.setReplica replica (.looping rest) with
      scans := state.scans ++ [⟨cluster, sched.lastRunAt, sched.intervalMinutes, state.clock⟩] } := by
  have bounds := orderly.stamps replica cluster sched state.clock rest holds
  have fresh := orderly.fresh replica cluster sched state.clock rest holds
  have others : ∀ other name found stampedAt left,
      (state.setReplica replica (.looping rest)).replicas other = .stamped name found stampedAt left →
        other ≠ replica ∧ state.replicas other = .stamped name found stampedAt left := by
    intro other name found stampedAt left stamped
    by_cases same : other = replica
    · subst same
      rw [setReplica_same] at stamped
      cases stamped
    · rw [setReplica_other same] at stamped
      exact ⟨same, stamped⟩
  constructor
  · exact orderly.unique
  · exact orderly.spaced
  · exact orderly.past
  · intro other name found read
    by_cases same : other = replica
    · subst same
      change Phase.Reads ((state.setReplica other _).replicas other) name found at read
      rw [setReplica_same] at read
      exact orderly.reads other name found (by rw [holds]; exact read)
    · change Phase.Reads ((state.setReplica replica _).replicas other) name found at read
      rw [setReplica_other same] at read
      exact orderly.reads other name found read
  · exact fun other name found stampedAt left stamped =>
      orderly.stamps other name found stampedAt left (others other name found stampedAt left stamped).2
  · exact fun first second name one firstAt left two secondAt left' distinct stamped stamped' =>
      orderly.separate first second name one firstAt left two secondAt left' distinct
        (others first _ _ _ _ stamped).2 (others second _ _ _ _ stamped').2
  · intro scan member
    rcases List.mem_append.mp member with old | new
    · exact orderly.scanned scan old
    · cases List.mem_singleton.mp new
      exact ⟨Nat.lt_of_lt_of_le bounds.1 bounds.2, bounds.2⟩
  · intro other name found stampedAt left stamped scan member same
    obtain ⟨distinct, old⟩ := others other name found stampedAt left stamped
    rcases List.mem_append.mp member with before | new
    · exact orderly.fresh other name found stampedAt left old scan before same
    · cases List.mem_singleton.mp new
      cases same
      -- The other replica has stamped the cluster at an earlier time.
      have apart := orderly.separate other replica cluster found stampedAt left sched state.clock rest distinct old holds
      have past := Nat.le_trans (orderly.stamps other cluster found stampedAt left old).2 (orderly.past cluster)
      exact ⟨Ne.symm apart.2, Or.inr (Nat.lt_of_le_of_ne past apart.1)⟩
  · rw [List.pairwise_append]
    refine ⟨orderly.once, List.pairwise_singleton _ _, ?_⟩
    intro first member second new same
    cases List.mem_singleton.mp new
    exact (fresh first member same).1
  · rw [List.pairwise_append]
    refine ⟨orderly.apart, List.pairwise_singleton _ _, ?_⟩
    intro first member second new same
    cases List.mem_singleton.mp new
    exact (fresh first member same).2.resolve_right (Nat.lt_irrefl _)
  · intro entry member
    rcases orderly.spent entry member with ⟨scan, inside, named⟩ | ⟨other, name, found, stampedAt, left, stamped, named⟩
    · exact Or.inl ⟨scan, List.mem_append_left _ inside, named⟩
    · by_cases same : other = replica
      · subst same
        rw [holds] at stamped
        cases stamped
        exact Or.inl ⟨_, List.mem_append_right _ (List.mem_singleton_self _), named⟩
      · exact Or.inr ⟨other, name, found, stampedAt, left, (setReplica_other same _).trans stamped, named⟩

theorem orderly_step {event : Event} (orderly : Orderly state) (undisturbed : Undisturbed state event)
    (taken : step state event = some next) : Orderly next := by
  cases event with
  | wait seconds =>
    cases taken
    exact orderly_wait orderly
  | save clusterID enabled intervalMinutes =>
    cases taken
    exact orderly_save orderly
  | tick replica works =>
    simp only [step] at taken
    split at taken
    next idle =>
      cases taken
      split
      next =>
        apply orderly_replica orderly
        · intro cluster sched stampedAt rest holds
          rw [idle] at holds
          cases holds
        · nofun
        · intro cluster sched due
          obtain ⟨-, interval, passed⟩ := due_read orderly.unique orderly.spaced due
          exact ⟨interval, passed⟩
      next => exact orderly
    next => cases taken
  | resolve replica reached =>
    simp only [step] at taken
    split at taken
    next cluster sched rest looping =>
      cases taken
      apply orderly_replica orderly
      · intro name found stampedAt left holds
        rw [looping] at holds
        cases holds
      · split <;> nofun
      · intro name found read
        apply orderly.reads replica name found
        rw [looping]
        apply List.mem_cons.mpr
        split at read
        next =>
          refine read.imp_left ?_
          rintro ⟨rfl, rfl⟩
          rfl
        next => exact Or.inr read
    next => cases taken
  | stamp replica works =>
    simp only [step] at taken
    split at taken
    next cluster sched rest resolved =>
      simp only [Undisturbed, resolved, Phase.Current] at undisturbed
      obtain ⟨rfl, current⟩ := undisturbed
      cases taken
      exact orderly_stamp orderly resolved current
    next => cases taken
  | launch replica =>
    simp only [step] at taken
    split at taken
    next cluster sched stampedAt rest holds =>
      simp only [Undisturbed, holds, Phase.Prompt] at undisturbed
      cases undisturbed
      cases taken
      exact orderly_launch orderly holds
    next => cases taken

theorem iteration_launches (state : State) {replica : Nat} {cluster : String} {sched : ScanSchedule} {rest : Table}
    (looping : state.replicas replica = .looping ((cluster, sched) :: rest)) : ∃ next,
    run step state [.resolve replica true, .stamp replica true, .launch replica] = some next ∧
      ⟨cluster, sched.lastRunAt, sched.intervalMinutes, state.clock⟩ ∈ next.scans := by
  simp [step, looping, State.setReplica]

/-- A scan that the replica still has to start. -/
def Phase.Owes : Phase → String → ScanSchedule → Prop
  | .looping due, cluster, sched => (cluster, sched) ∈ due
  | .resolved cluster sched rest, other, found | .stamped cluster sched _ rest, other, found => (other, found) ∈ (cluster, sched) :: rest

/-- The scan has been started, or the replica is going to. -/
def Undertaken (replica : Nat) (cluster : String) (sched : ScanSchedule) (state : State) : Prop :=
  (state.replicas replica).Owes cluster sched ∨ ∃ scan ∈ state.scans, scan.cluster = cluster ∧ scan.slot = sched.lastRunAt

section Undertaken
variable {replica : Nat} {cluster : String} {sched : ScanSchedule}

theorem undertaken_moves {other : Nat} {phase : Phase} (undertaken : Undertaken replica cluster sched state)
    (owes : other = replica → (state.replicas other).Owes cluster sched → phase.Owes cluster sched)
    (moves : next.replicas = (state.setReplica other phase).replicas) (scans : next.scans = state.scans) :
    Undertaken replica cluster sched next := by
  refine undertaken.imp ?_ ?_
  · intro owed
    rw [moves]
    by_cases same : replica = other
    · subst same
      rw [setReplica_same]
      exact owes rfl owed
    · rwa [setReplica_other same]
  · rw [scans]
    exact id

theorem undertaken_step {event : Event} (undertaken : Undertaken replica cluster sched state)
    (reached : event ≠ .resolve replica false) (taken : step state event = some next) :
    Undertaken replica cluster sched next := by
  cases event with
  | wait seconds =>
    cases taken
    exact undertaken
  | save clusterID enabled intervalMinutes =>
    cases taken
    exact undertaken
  | tick other works =>
    simp only [step] at taken
    split at taken
    next idle =>
      cases taken
      split
      next =>
        refine undertaken_moves undertaken ?_ rfl rfl
        intro _ owed
        rw [idle] at owed
        cases owed
      next => exact undertaken
    next => cases taken
  | resolve other resolves =>
    simp only [step] at taken
    split at taken
    next name found rest looping =>
      cases taken
      refine undertaken_moves undertaken ?_ rfl rfl
      rintro rfl owed
      rw [looping] at owed
      cases resolves with
      | true => exact owed
      | false => exact absurd rfl reached
    next => cases taken
  | stamp other works =>
    simp only [step] at taken
    split at taken
    next name found rest resolved =>
      cases taken
      have owes : other = replica → (state.replicas other).Owes cluster sched →
          (Phase.stamped name found state.clock rest).Owes cluster sched := by
        intro _ owed
        rw [resolved] at owed
        exact owed
      cases works with
      | true => exact undertaken_moves undertaken owes rfl rfl
      | false => exact undertaken_moves undertaken owes rfl rfl
    next => cases taken
  | launch other =>
    simp only [step] at taken
    split at taken
    next name found stampedAt rest holds =>
      cases taken
      have started : ∃ scan ∈ state.scans ++ [(⟨name, found.lastRunAt, found.intervalMinutes, state.clock⟩ : Scan)],
          scan.cluster = name ∧ scan.slot = found.lastRunAt :=
        ⟨_, List.mem_append_right _ (List.mem_singleton_self _), rfl, rfl⟩
      rcases undertaken with owed | ⟨scan, member, same⟩
      · by_cases same : replica = other
        · subst same
          rw [holds] at owed
          rcases List.mem_cons.mp owed with mine | later
          · cases mine
            exact Or.inr started
          · refine Or.inl ?_
            change Phase.Owes ((state.setReplica replica (.looping rest)).replicas replica) cluster sched
            rw [setReplica_same]
            exact later
        · exact Or.inl (by simpa [State.setReplica, same] using owed)
      · exact Or.inr ⟨scan, List.mem_append_left _ member, same⟩
    next => cases taken

/-- Every slot that is due when an idle replica ticks has its scan when the replica
is idle again. -/
theorem tick_serves (idle : state.replicas replica = .looping []) : ∃ next, step state (.tick replica true) = some next ∧
    ∀ cluster sched, (cluster, sched) ∈ state.table → Due state.clock sched → ∀ events last, run step next events = some last →
      (∀ event ∈ events, event ≠ .resolve replica false) → last.replicas replica = .looping [] →
        ∃ scan ∈ last.scans, scan.cluster = cluster ∧ scan.slot = sched.lastRunAt := by
  refine ⟨state.setReplica replica (.looping (dueSchedules state.clock state.table)), by simp [step, idle], ?_⟩
  intro cluster sched stored due events last ran reached done
  have taken : Undertaken replica cluster sched (state.setReplica replica (.looping (dueSchedules state.clock state.table))) := by
    refine Or.inl ?_
    rw [setReplica_same]
    exact List.mem_filter.mpr ⟨stored, by simpa [Due] using due⟩
  have undertaken : Undertaken replica cluster sched last :=
    invariant (Undertaken replica cluster sched) (fun _ _ _ holds allowed taken => undertaken_step holds allowed taken)
      taken (meets_of_forall (fun event member _ => reached event member) _) ran
  refine undertaken.resolve_left ?_
  rw [done]
  exact List.not_mem_nil

end Undertaken

/-- A replica runs a schedule of five minutes twice, and one that comes late finds
nothing due. -/
def steadyTicks : List Event := [
  .save "prod" true 1, .wait 300, .tick 0 true, .resolve 0 true, .stamp 0 true, .launch 0,
  .wait 60, .tick 1 true, .wait 240, .tick 1 true, .resolve 1 true, .stamp 1 true, .launch 1]

/-- Two replicas read a schedule before either of them has stamped it. -/
def sameSlot : List Event := [
  .save "prod" true 5, .wait 300, .tick 0 true, .tick 1 true,
  .resolve 0 true, .stamp 0 true, .launch 0, .resolve 1 true, .stamp 1 true, .launch 1]

/-- One replica, whose stamp fails, starts the scan of a slot with every tick. -/
example : (run step initial [
    .save "prod" true 5, .wait 300, .tick 0 true, .resolve 0 true, .stamp 0 false, .launch 0,
    .wait 60, .tick 0 true, .resolve 0 true, .stamp 0 true, .launch 0]).map State.scans =
      some [⟨"prod", 0, 5, 300⟩, ⟨"prod", 0, 5, 360⟩] := by
  decide

end K8Sense.Doctor.Scheduler
