import K8Sense.Library.Transition
import K8Sense.Library.Semaphore
import K8Sense.Doctor.Handlers

/-! How many scans run at once. Each request for several clusters makes a semaphore
of its own; a scan that is asked for alone or by a schedule is behind none. -/

namespace K8Sense.Doctor.Parallelism
open Transition Semaphore Api

def maxParallelScans : Nat := 5

/-- Scans go by their id and cluster, semaphores by the number of their request. -/
structure State where
  server : Api.State
  requests : Nat
  scans : Pool Nat (String × String)

inductive Event where
  | startScan (env : Env) (body : Option String)
  | startMultiScan (env : Env) (body : Option (List String))
  | runDueScan (scanID cluster : String)
  | begin (index : Nat)
  | finish (index : Nat)

/-- The scans that a request has registered; each has a goroutine. -/
def registered (before after : Api.State) : List (String × String) := after.active.drop before.active.length

/-- A goroutine of `StartMultiScan` sends to the channel of its request before
`runScan`, and receives from it in the end. -/
def step (state : State) : Event → Option State
  | .startScan env body =>
    let server := (startScan env state.server body).1
    some { state with server, scans := state.scans.add none (registered state.server server) }
  | .startMultiScan env body =>
    let server := (startMultiScan env state.server body).1
    some ⟨server, state.requests + 1, state.scans.add (some state.requests) (registered state.server server)⟩
  | .runDueScan scanID cluster =>
    let server := { state.server with active := state.server.active ++ [(scanID, cluster)] }
    some { state with server, scans := state.scans.add none (registered state.server server) }
  | .begin index => (state.scans.begin maxParallelScans index).map fun scans => { state with scans }
  | .finish index => (state.scans.finish index).map fun scans => { state with scans }

def initial (server : Api.State) : State := ⟨server, 0, .empty⟩

/-- In no state on the way are there more scans in progress. -/
def Bounded (server : Api.State) (events : List Event) : Prop :=
  ∀ before after state, events = before ++ after → run step (initial server) before = some state →
    state.scans.inProgress ≤ maxParallelScans

/-- A scan that begins while others are in progress that do not share its semaphore
finds fewer than the most in progress. -/
def Room (state : State) : Event → Prop
  | .begin index => ∀ worker ∈ state.scans.workers[index]?, state.scans.outside worker.semaphore ≠ 0 →
      state.scans.inProgress < maxParallelScans
  | _ => True

instance (state : State) : ∀ event, Decidable (Room state event)
  | .startScan _ _ | .startMultiScan _ _ | .runDueScan _ _ | .finish _ => isTrue trivial
  | .begin index =>
    match found : state.scans.workers[index]? with
    | none => isTrue (by simp [Room, found])
    | some worker => decidable_of_iff (state.scans.outside worker.semaphore ≠ 0 → state.scans.inProgress < maxParallelScans)
        (by simp [Room, found])

variable {server : Api.State} {state next : State}

theorem startScan_registers (env : Env) (body : Option String) : ∃ scans,
    (startScan env server body).1.active = server.active ++ scans := by
  unfold startScan
  split
  next => exact ⟨[], (List.append_nil _).symm⟩
  next cluster _ =>
    split
    next => exact ⟨[], (List.append_nil _).symm⟩
    next => exact ⟨[(env.newID 0, cluster)], rfl⟩

theorem startMultiScan_registers (env : Env) (body : Option (List String)) : ∃ scans,
    (startMultiScan env server body).1.active = server.active ++ scans := by
  unfold startMultiScan
  split
  next => exact ⟨[], (List.append_nil _).symm⟩
  next clusters _ => exact ⟨multiScans env server clusters, rfl⟩

/-- A state without a bound on all scans: each semaphore has its bound, and the
registry has the scans that were started since. -/
structure Orderly (server : Api.State) (state : State) : Prop where
  sound : state.scans.Sound maxParallelScans
  registry : state.server.active = server.active ++ state.scans.workers.map Worker.task

theorem orderly_initial : Orderly server (initial server) :=
  ⟨sound_empty, (List.append_nil _).symm⟩

theorem orderly_add (orderly : Orderly server state) (semaphore : Option Nat) (requests : Nat) {after : Api.State}
    (registers : ∃ scans, after.active = state.server.active ++ scans) :
    Orderly server ⟨after, requests, state.scans.add semaphore (registered state.server after)⟩ := by
  obtain ⟨scans, appended⟩ := registers
  have fresh : registered state.server after = scans := by
    rw [registered, appended, List.drop_left]
  refine ⟨sound_add orderly.sound semaphore _, ?_⟩
  rw [fresh, appended, orderly.registry]
  simp [Pool.add, Worker.queue, Function.comp_def]

theorem orderly_step {event : Event} (orderly : Orderly server state) (taken : step state event = some next) :
    Orderly server next := by
  cases event with
  | startScan env body =>
    cases taken
    exact orderly_add orderly none _ (startScan_registers env body)
  | startMultiScan env body =>
    cases taken
    exact orderly_add orderly _ _ (startMultiScan_registers env body)
  | runDueScan scanID cluster =>
    cases taken
    exact orderly_add orderly none _ ⟨_, rfl⟩
  | begin index =>
    obtain ⟨scans, begun, rfl⟩ := Option.map_eq_some_iff.mp taken
    exact ⟨sound_begin orderly.sound begun, (begin_tasks begun).symm ▸ orderly.registry⟩
  | finish index =>
    obtain ⟨scans, finished, rfl⟩ := Option.map_eq_some_iff.mp taken
    exact ⟨sound_finish orderly.sound finished, (finish_tasks finished).symm ▸ orderly.registry⟩

theorem begin_bounded (sound : state.scans.Sound maxParallelScans) {index : Nat} {scans : Pool Nat (String × String)}
    (room : Room state (.begin index)) (begun : state.scans.begin maxParallelScans index = some scans) :
    scans.inProgress ≤ maxParallelScans := by
  rw [inProgress_begin begun]
  obtain ⟨task, semaphore, there, -, held⟩ := begin_cases begun
  by_cases alone : state.scans.outside semaphore = 0
  · cases semaphore with
    | none =>
      rw [outside_none] at alone
      rw [alone]
      decide
    | some request =>
      rw [outside_some request, alone, Nat.zero_add, ← sound.counts request]
      exact held.1
  · exact room _ there alone

theorem bounded_step {event : Event} (sound : state.scans.Sound maxParallelScans) (room : Room state event)
    (bounded : state.scans.inProgress ≤ maxParallelScans) (taken : step state event = some next) :
    next.scans.inProgress ≤ maxParallelScans := by
  cases event with
  | begin index =>
    obtain ⟨scans, begun, rfl⟩ := Option.map_eq_some_iff.mp taken
    exact begin_bounded sound room begun
  | finish index =>
    obtain ⟨scans, finished, rfl⟩ := Option.map_eq_some_iff.mp taken
    exact Nat.le_trans (inProgress_finish finished) bounded
  | _ =>
    cases taken
    exact Nat.le_trans (Nat.le_of_eq (inProgress_add _ _)) bounded

/-- The bound is kept in a run exactly when each scan that begins finds room. -/
theorem bounded_iff_room {events : List Event} {last : State} (ran : run step (initial server) events = some last) :
    Bounded server events ↔ Meets step Room (initial server) events := by
  apply throughout_iff (Orderly server) (fun state => state.scans.inProgress ≤ maxParallelScans) ?_ ?_ orderly_initial
    (Nat.zero_le _) ran
  · exact fun _ _ _ orderly _ taken => orderly_step orderly taken
  · intro state event next orderly bounded taken
    constructor
    · intro room
      exact bounded_step orderly.sound room bounded taken
    · intro bounded'
      cases event with
      | begin index =>
        intro worker _ _
        obtain ⟨scans, begun, rfl⟩ := Option.map_eq_some_iff.mp taken
        rw [inProgress_begin begun] at bounded'
        exact bounded'
      | _ => trivial

private def scanning : Api.State := { Api.State.empty with clusters := fun _ => some ⟨⟨fun _ => false, fun _ => false, fun _ => none, fun _ => none⟩, [], []⟩ }

/-- Six clusters in one request, and a seventh by itself once two of them are done. -/
def queued : List Event := [
  .startMultiScan (Env.calm 1 "a" none) (some ["a", "b", "c", "d", "e", "f"]),
  .begin 0, .begin 1, .begin 2, .begin 3, .begin 4, .finish 0, .begin 5, .finish 3,
  .startScan (Env.calm 2 "b" none) (some "g"), .begin 6]

theorem queued_bounded : ∃ last, run step (initial scanning) queued = some last ∧ Bounded scanning queued := by
  refine ⟨_, rfl, (bounded_iff_room rfl).mpr ?_⟩
  decide

/-- A request for five clusters takes all places of its own semaphore only. -/
def beside : List Event := [
  .startMultiScan (Env.calm 1 "a" none) (some ["a", "b", "c", "d", "e"]),
  .begin 0, .begin 1, .begin 2, .begin 3, .begin 4,
  .startScan (Env.calm 2 "b" none) (some "f"), .begin 5]

theorem six_scans_run : ¬ ∀ (server : Api.State) (events : List Event) (last : State),
    run step (initial server) events = some last → Bounded server events := by
  intro always
  have bounded := always scanning beside _ rfl beside [] _ (List.append_nil _).symm rfl
  exact absurd bounded (by decide)

end K8Sense.Doctor.Parallelism
