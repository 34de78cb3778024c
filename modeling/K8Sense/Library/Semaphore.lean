import Mathlib.Logic.Function.Basic

/-! A pool of workers, each of them behind a counting semaphore or behind none.
The semaphores have one capacity; a worker waits while its semaphore is full. -/

namespace K8Sense.Semaphore

universe u v
variable {κ : Type u} [DecidableEq κ] {α : Type v}

inductive Phase where
  | waiting
  | running
  | finished
  deriving DecidableEq

structure Worker (κ : Type u) (α : Type v) where
  task : α
  semaphore : Option κ
  phase : Phase

def Worker.queue (semaphore : Option κ) (task : α) : Worker κ α := ⟨task, semaphore, .waiting⟩

/-- `held` counts the places of a semaphore that are taken. -/
structure Pool (κ : Type u) (α : Type v) where
  held : κ → Nat
  workers : List (Worker κ α)

def Pool.empty : Pool κ α := ⟨fun _ => 0, []⟩

def Pool.add (semaphore : Option κ) (tasks : List α) (pool : Pool κ α) : Pool κ α :=
  { pool with workers := pool.workers ++ tasks.map (Worker.queue semaphore) }

def Pool.begin (capacity index : Nat) (pool : Pool κ α) : Option (Pool κ α) :=
  match pool.workers[index]? with
  | some ⟨task, none, .waiting⟩ => some { pool with workers := pool.workers.set index ⟨task, none, .running⟩ }
  | some ⟨task, some key, .waiting⟩ =>
    if pool.held key < capacity then
      some ⟨Function.update pool.held key (pool.held key + 1), pool.workers.set index ⟨task, some key, .running⟩⟩
    else none
  | _ => none

def Pool.finish (index : Nat) (pool : Pool κ α) : Option (Pool κ α) :=
  match pool.workers[index]? with
  | some ⟨task, none, .running⟩ => some { pool with workers := pool.workers.set index ⟨task, none, .finished⟩ }
  | some ⟨task, some key, .running⟩ =>
    some ⟨Function.update pool.held key (pool.held key - 1), pool.workers.set index ⟨task, some key, .finished⟩⟩
  | _ => none

def Worker.inProgress (worker : Worker κ α) : Bool := worker.phase = .running

def Worker.holds (key : κ) (worker : Worker κ α) : Bool := worker.inProgress && worker.semaphore = some key

def Pool.inProgress (pool : Pool κ α) : Nat := pool.workers.countP Worker.inProgress

/-- The workers in progress that are not behind the given semaphore. -/
def Pool.outside (semaphore : Option κ) (pool : Pool κ α) : Nat :=
  pool.workers.countP fun worker => worker.inProgress && (semaphore.isNone || worker.semaphore ≠ semaphore)

/-- The places taken are those of the workers in progress, and no semaphore has
more than its capacity. -/
structure Pool.Sound (capacity : Nat) (pool : Pool κ α) : Prop where
  counts : ∀ key, pool.held key = pool.workers.countP (Worker.holds key)
  fits : ∀ key, pool.held key ≤ capacity

variable {capacity index : Nat} {pool next : Pool κ α}

theorem begin_cases (taken : pool.begin capacity index = some next) : ∃ task semaphore,
    pool.workers[index]? = some ⟨task, semaphore, .waiting⟩ ∧
      next.workers = pool.workers.set index ⟨task, semaphore, .running⟩ ∧
      match semaphore with
      | none => next.held = pool.held
      | some key => pool.held key < capacity ∧ next.held = Function.update pool.held key (pool.held key + 1) := by
  unfold Pool.begin at taken
  split at taken
  next task there =>
    cases taken
    exact ⟨task, none, there, rfl, rfl⟩
  next task key there =>
    split at taken
    next room =>
      cases taken
      exact ⟨task, some key, there, rfl, room, rfl⟩
    next => cases taken
  next => cases taken

theorem finish_cases (taken : pool.finish index = some next) : ∃ task semaphore,
    pool.workers[index]? = some ⟨task, semaphore, .running⟩ ∧
      next.workers = pool.workers.set index ⟨task, semaphore, .finished⟩ ∧
      match semaphore with
      | none => next.held = pool.held
      | some key => next.held = Function.update pool.held key (pool.held key - 1) := by
  unfold Pool.finish at taken
  split at taken
  next task there =>
    cases taken
    exact ⟨task, none, there, rfl, rfl⟩
  next task key there =>
    cases taken
    exact ⟨task, some key, there, rfl, rfl⟩
  next => cases taken

theorem count_set {β : Type u} (counted : β → Bool) {items : List β} {old : β} (new : β) (there : items[index]? = some old) :
    (items.set index new).countP counted + (if counted old then 1 else 0) =
      items.countP counted + if counted new then 1 else 0 := by
  obtain ⟨inside, rfl⟩ := List.getElem?_eq_some_iff.mp there
  rw [List.countP_set inside]
  have counts : counted items[index] = true → 0 < items.countP counted :=
    fun holds => List.countP_pos_iff.mpr ⟨_, List.getElem_mem inside, holds⟩
  split
  next holds =>
    have positive := counts holds
    omega
  next => omega

theorem map_set {β : Type u} {γ : Type v} (f : β → γ) {items : List β} {old new : β} (there : items[index]? = some old)
    (same : f new = f old) : (items.set index new).map f = items.map f := by
  obtain ⟨inside, rfl⟩ := List.getElem?_eq_some_iff.mp there
  rw [List.map_set, same, ← List.getElem_map f, List.set_getElem_self]
  simpa using inside

omit [DecidableEq κ] in
theorem count_queue (counted : Worker κ α → Bool) {workers : List (Worker κ α)} {semaphore : Option κ} {tasks : List α}
    (idle : ∀ task, counted (.queue semaphore task) = false) :
    (workers ++ tasks.map (Worker.queue semaphore)).countP counted = workers.countP counted := by
  rw [List.countP_append, List.countP_map, Nat.add_eq_left, List.countP_eq_zero]
  intro task _
  simp [idle]

omit [DecidableEq κ] in
theorem inProgress_add (semaphore : Option κ) (tasks : List α) : (pool.add semaphore tasks).inProgress = pool.inProgress :=
  count_queue Worker.inProgress fun _ => rfl

theorem inProgress_begin (taken : pool.begin capacity index = some next) : next.inProgress = pool.inProgress + 1 := by
  obtain ⟨task, semaphore, there, workers, -⟩ := begin_cases taken
  rw [Pool.inProgress, workers, Pool.inProgress]
  exact count_set Worker.inProgress _ there

theorem inProgress_finish (taken : pool.finish index = some next) : next.inProgress ≤ pool.inProgress := by
  obtain ⟨task, semaphore, there, workers, -⟩ := finish_cases taken
  rw [Pool.inProgress, workers, Pool.inProgress]
  exact Nat.le_of_succ_le (Nat.le_of_eq (count_set Worker.inProgress _ there))

theorem begin_tasks (taken : pool.begin capacity index = some next) :
    next.workers.map Worker.task = pool.workers.map Worker.task := by
  obtain ⟨task, semaphore, there, workers, -⟩ := begin_cases taken
  rw [workers]
  exact map_set Worker.task there rfl

theorem finish_tasks (taken : pool.finish index = some next) :
    next.workers.map Worker.task = pool.workers.map Worker.task := by
  obtain ⟨task, semaphore, there, workers, -⟩ := finish_cases taken
  rw [workers]
  exact map_set Worker.task there rfl

/-- A worker in progress is behind the semaphore or outside of it. -/
theorem outside_some (key : κ) :
    pool.inProgress = pool.outside (some key) + pool.workers.countP (Worker.holds key) := by
  unfold Pool.inProgress Pool.outside
  induction pool.workers with
  | nil => rfl
  | cons worker rest ih =>
    have same : worker.inProgress = true ∧ worker.semaphore = some key ↔ worker.holds key = true := by
      rw [Worker.holds, Bool.and_eq_true, decide_eq_true_eq]
    by_cases going : worker.inProgress
    · by_cases inside : worker.semaphore = some key
      · simp [going, inside, Worker.holds, ih]
        omega
      · simp [going, inside, Worker.holds, ih]
        omega
    · simp [going, Worker.holds, ih]

theorem outside_none : pool.outside none = pool.inProgress := by
  simp [Pool.outside, Pool.inProgress]

theorem sound_empty : Pool.Sound capacity (Pool.empty : Pool κ α) :=
  ⟨fun _ => rfl, fun _ => Nat.zero_le capacity⟩

theorem sound_add (sound : pool.Sound capacity) (semaphore : Option κ) (tasks : List α) :
    (pool.add semaphore tasks).Sound capacity := by
  refine ⟨fun key => ?_, sound.fits⟩
  exact (sound.counts key).trans (count_queue (Worker.holds key) fun _ => rfl).symm

theorem sound_begin (sound : pool.Sound capacity) (taken : pool.begin capacity index = some next) : next.Sound capacity := by
  obtain ⟨task, semaphore, there, workers, held⟩ := begin_cases taken
  have counted : ∀ key, next.workers.countP (Worker.holds key) =
      pool.workers.countP (Worker.holds key) + if semaphore = some key then 1 else 0 := by
    intro key
    rw [workers]
    simpa [Worker.holds, Worker.inProgress] using count_set (Worker.holds key) ⟨task, semaphore, .running⟩ there
  cases semaphore with
  | none =>
    refine ⟨fun key => ?_, fun key => ?_⟩
    · rw [counted, held, sound.counts key]
      simp
    · rw [held]
      exact sound.fits key
  | some name =>
    refine ⟨fun key => ?_, fun key => ?_⟩
    all_goals
      by_cases same : key = name
    · subst same
      simp [counted, held.2, sound.counts key]
    · simp [counted, held.2, same, Ne.symm same, sound.counts key]
    · subst same
      rw [held.2, Function.update_self]
      exact held.1
    · rw [held.2, Function.update_of_ne same]
      exact sound.fits key

theorem sound_finish (sound : pool.Sound capacity) (taken : pool.finish index = some next) : next.Sound capacity := by
  obtain ⟨task, semaphore, there, workers, held⟩ := finish_cases taken
  have counted : ∀ key, next.workers.countP (Worker.holds key) + (if semaphore = some key then 1 else 0) =
      pool.workers.countP (Worker.holds key) := by
    intro key
    rw [workers]
    simpa [Worker.holds, Worker.inProgress] using count_set (Worker.holds key) ⟨task, semaphore, .finished⟩ there
  cases semaphore with
  | none =>
    refine ⟨fun key => ?_, fun key => ?_⟩
    · rw [held, sound.counts key, ← counted key]
      simp
    · rw [held]
      exact sound.fits key
  | some name =>
    refine ⟨fun key => ?_, fun key => ?_⟩
    all_goals
      by_cases same : key = name
    · subst same
      have one := counted key
      rw [if_pos rfl] at one
      rw [held, Function.update_self, sound.counts key]
      omega
    · have kept := counted key
      rw [if_neg (by simpa using Ne.symm same)] at kept
      rw [held, Function.update_of_ne same, sound.counts key]
      exact kept.symm
    · subst same
      rw [held, Function.update_self]
      exact Nat.le_trans (Nat.sub_le _ _) (sound.fits key)
    · rw [held, Function.update_of_ne same]
      exact sound.fits key

end K8Sense.Semaphore
