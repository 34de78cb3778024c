import K8Sense.Helm.Status

/-! Whether the status of an action is that of the requests that were accepted for its
cluster and release. -/

namespace K8Sense.Helm
open Cache Transition

@[ext]
structure Target where
  cluster : String
  action : Action
  release : String
  named : release ≠ ""

instance : DecidableEq Target := fun _ _ => decidable_of_iff _ Target.ext_iff.symm

def Job.On (job : Job) (target : Target) : Prop :=
  job.cluster = target.cluster ∧ job.request.action = target.action ∧ job.request.name = target.release

instance (job : Job) (target : Target) : Decidable (job.On target) := inferInstanceAs (Decidable (_ ∧ _ ∧ _))

/-- Processing while a request is running, and then the outcome of the last. -/
def expected (target : Target) (jobs : List Job) : Option Stat :=
  let mine := jobs.filter fun job => job.On target
  if mine.any fun job => job.ended.isNone then some .processing else mine.getLast?.bind fun job => job.ended.join

/-- The entry under the key has not expired. -/
def Lasting (store : Store Stat) (key : String) (now : Nat) : Prop :=
  ∀ value expiresAt, store key = some value → value.expiresAt = some expiresAt → now < expiresAt

/-- Within the lifetime of its entry, what is asked is answered from the requests that
were accepted for it, and each of those that ended has left a status. -/
structure Right (target : Target) (state : State) : Prop where
  answers : ∀ validation now, Lasting state.store (statusKey target.action.name target.release) now →
    getActionStatus validation ⟨target.release, target.action.name⟩ now state.store = reply (expected target state.jobs)
  told : ∀ job ∈ state.jobs, job.On target → job.ended ≠ some none

structure Accepted (env : Env) (request : Request) : Prop where
  complete : "" ∉ request.required
  config : env.actionConfig = none
  found : request.action ≠ .install → env.notFound = none

/-- The end of a job for the same action and release takes no answer away. One of the
cluster's own leaves a status, no other is running, and no later one ended otherwise; one
of another cluster leaves none, or what is to be told anyway. -/
def Harmless (target : Target) (jobs : List Job) (index : Nat) (job : Job) : Option Stat → Prop
  | none => job.cluster ≠ target.cluster
  | some stat =>
    if job.cluster = target.cluster then
      (∀ other ∈ jobs.eraseIdx index, other.On target → other.ended ≠ none) ∧
        ∀ last, ((jobs.drop (index + 1)).filter fun job => job.On target).getLast? = some last → last.ended = some (some stat)
    else expected target jobs = some stat

/-- No request for the same action and release of another cluster is accepted, unless one
of the cluster's own is running, and no goroutine for these ends but a harmless one. -/
def Clean (target : Target) (state : State) : Event → Prop
  | .request env cluster body =>
    ∀ request, body = some request → Accepted env request → request.action = target.action → request.name = target.release →
      cluster ≠ target.cluster → ∃ job ∈ state.jobs, job.On target ∧ job.ended = none
  | .ends index _ tools =>
    ∀ job, state.jobs[index]? = some job → job.request.action = target.action → job.request.name = target.release →
      Harmless target state.jobs index job (job.request.outcome tools)

variable {target : Target} {state next : State}

/-! Keys and answers. -/

theorem statusKey_injective {action other : Action} {release name : String}
    (same : statusKey action.name release = statusKey other.name name) : action = other ∧ release = name := by
  have chars := congrArg String.toList same
  cases action <;> cases other <;> simp [statusKey, Action.name] at chars
  all_goals exact ⟨rfl, String.toList_injective chars⟩

theorem stat_injective {first second : Stat} (same : statusFields first = statusFields second) : first = second := by
  obtain ⟨status, err, told⟩ := first
  obtain ⟨other, text, spoken⟩ := second
  cases status <;> cases other <;> simp [statusFields] at same
  · simp at told spoken
    simp [told, spoken]
  · simp at told spoken
    simp [told, spoken]
  · obtain ⟨err, rfl⟩ := Option.isSome_iff_exists.mp (told.mpr rfl)
    obtain ⟨text, rfl⟩ := Option.isSome_iff_exists.mp (spoken.mpr rfl)
    simp at same
    simp [same]

theorem reply_injective {first second : Option Stat} (same : reply first = reply second) : first = second := by
  cases first <;> cases second <;> simp [reply] at same
  · rfl
  · exact congrArg some (stat_injective same)

/-- What is stored under the key of what is asked. -/
def stored (target : Target) (state : State) : Option Stat :=
  (state.store (statusKey target.action.name target.release)).map CacheValue.value

theorem getActionStatus_lasting {now : Nat} (validation : String)
    (lasting : Lasting state.store (statusKey target.action.name target.release) now) :
    getActionStatus validation ⟨target.release, target.action.name⟩ now state.store = reply (stored target state) := by
  have valid : target.action.name ∈ ["install", "upgrade", "uninstall", "rollback"] := by
    cases target.action <;> decide
  have named : target.action.name ≠ "" := by
    cases target.action <;> decide
  have value : getReleaseStatus target.action.name target.release now state.store = stored target state := by
    unfold getReleaseStatus stored Store.get
    cases found : state.store (statusKey target.action.name target.release) with
    | none => rfl
    | some held =>
      cases expiry : held.expiresAt with
      | none => simp [expiry]
      | some expiresAt => simp [expiry, lasting held expiresAt found expiry]
  simp [getActionStatus, target.named, named, valid, value]

/-- Entries are stored with a lifetime. -/
def Fresh (state : State) : Prop :=
  ∀ key value expiresAt, state.store key = some value → value.expiresAt = some expiresAt → 0 < expiresAt

theorem right_iff (fresh : Fresh state) : Right target state ↔
    stored target state = expected target state.jobs ∧ ∀ job ∈ state.jobs, job.On target → job.ended ≠ some none := by
  constructor
  · intro right
    refine ⟨?_, right.told⟩
    have lasting : Lasting state.store (statusKey target.action.name target.release) 0 :=
      fun value expiresAt => fresh _ value expiresAt
    have answer := right.answers "" 0 lasting
    rw [getActionStatus_lasting "" lasting] at answer
    exact reply_injective answer
  · intro ⟨same, told⟩
    refine ⟨fun validation now lasting => ?_, told⟩
    rw [getActionStatus_lasting validation lasting, same]

theorem fresh_set (fresh : Fresh state) {action : Action} {release : String} {stat : Stat} {now : Nat} {jobs : List Job} :
    Fresh ⟨setReleaseStatus action release stat now state.store, jobs⟩ := by
  intro key value expiresAt found expiry
  unfold setReleaseStatus Store.setWithTTL at found
  dsimp only at found
  by_cases same : key = statusKey action.name release
  · subst same
    simp only [Function.update_self, Option.some.injEq] at found
    subst found
    simp [statusCacheTimeout] at expiry
    omega
  · rw [Function.update_of_ne same] at found
    exact fresh key value expiresAt found expiry

theorem stored_set {action : Action} {release : String} {stat : Stat} {now : Nat} {jobs : List Job} :
    stored target ⟨setReleaseStatus action release stat now state.store, jobs⟩ =
      if action = target.action ∧ release = target.release then some stat else stored target state := by
  unfold stored setReleaseStatus Store.setWithTTL
  dsimp only
  by_cases same : action = target.action ∧ release = target.release
  · obtain ⟨rfl, rfl⟩ := same
    simp
  · rw [if_neg same, Function.update_of_ne]
    intro keys
    obtain ⟨actions, releases⟩ := statusKey_injective keys
    exact same ⟨actions.symm, releases.symm⟩

/-! What is expected. -/

theorem expected_running {jobs : List Job} (running : ∃ job ∈ jobs, job.On target ∧ job.ended = none) :
    expected target jobs = some .processing := by
  obtain ⟨job, member, on, alive⟩ := running
  have any : ((jobs.filter fun job => job.On target).any fun job => job.ended.isNone) = true := by
    rw [List.any_eq_true]
    exact ⟨job, List.mem_filter.mpr ⟨member, decide_eq_true on⟩, by rw [alive]; rfl⟩
  rw [expected, if_pos any]

theorem expected_idle {jobs : List Job} (idle : ∀ job ∈ jobs, job.On target → job.ended ≠ none) : expected target jobs =
    (jobs.filter fun job => job.On target).getLast?.bind fun job => job.ended.join := by
  have none : ((jobs.filter fun job => job.On target).any fun job => job.ended.isNone) = false := by
    rw [List.any_eq_false]
    intro job member
    obtain ⟨inside, on⟩ := List.mem_filter.mp member
    simpa using idle job inside (of_decide_eq_true on)
  rw [expected, none]
  rfl

theorem expected_processing {jobs : List Job} (processing : expected target jobs = some .processing) :
    ∃ job ∈ jobs, job.On target ∧ job.ended = none := by
  by_contra idle
  have ended : ∀ job ∈ jobs, job.On target → job.ended ≠ none := fun job member on alive => idle ⟨job, member, on, alive⟩
  rw [expected_idle ended, Option.bind_eq_some_iff] at processing
  obtain ⟨job, _, last⟩ := processing
  exact job.final (Option.join_eq_some_iff.mp last)

theorem expected_other {before after : List Job} {job : Job} (other : ¬job.On target) :
    expected target (before ++ job :: after) = expected target (before ++ after) := by
  simp [expected, other]

/-- When one's own action ends, its status is to be told exactly if no other is running
and those accepted later ended with the same. -/
theorem expected_ended {before after : List Job} {job : Job} {stat : Stat} (on : job.On target)
    (ended : job.ended = some (some stat)) : expected target (before ++ job :: after) = some stat ↔
      (∀ other ∈ before ++ after, other.On target → other.ended ≠ none) ∧
        ∀ last, (after.filter fun job => job.On target).getLast? = some last → last.ended = some (some stat) := by
  have final : stat ≠ .processing := by
    intro same
    exact job.final (same ▸ ended)
  by_cases idle : ∀ other ∈ before ++ after, other.On target → other.ended ≠ none
  · have all : ∀ other ∈ before ++ job :: after, other.On target → other.ended ≠ none := by
      intro other member
      rcases List.mem_append.mp member with early | late
      · exact idle other (List.mem_append_left _ early)
      · rcases List.mem_cons.mp late with rfl | later
        · exact fun _ => by simp [ended]
        · exact idle other (List.mem_append_right _ later)
    rw [expected_idle all, List.filter_append, List.filter_cons_of_pos (by simpa using on), List.getLast?_append]
    constructor
    · intro told
      refine ⟨idle, fun last found => ?_⟩
      rw [List.getLast?_cons, found] at told
      exact Option.join_eq_some_iff.mp told
    · intro ⟨_, same⟩
      rw [List.getLast?_cons]
      cases found : (after.filter fun job => job.On target).getLast? with
      | none => simp [ended]
      | some last => simp [same last found]
  · constructor
    · intro told
      push Not at idle
      obtain ⟨other, member, running, alive⟩ := idle
      have processing : expected target (before ++ job :: after) = some .processing := by
        apply expected_running
        refine ⟨other, ?_, running, alive⟩
        rcases List.mem_append.mp member with early | late
        · exact List.mem_append_left _ early
        · exact List.mem_append_right _ (List.mem_cons_of_mem _ late)
      rw [processing] at told
      exact absurd (Option.some.inj told).symm final
    · exact fun both => absurd both.1 idle

/-! Steps and runs. -/

theorem accept_cases (env : Env) (cluster : String) (body : Option Request) (state : State) :
    (∃ request, body = some request ∧ Accepted env request ∧ (accept env cluster body state).1 =
      ⟨setReleaseStatus request.action request.name .processing env.now state.store,
        state.jobs ++ [⟨cluster, request, none, by simp⟩]⟩) ∨
    ((∀ request, body = some request → ¬Accepted env request) ∧ (accept env cluster body state).1 = state) := by
  unfold accept
  cases body with
  | none => exact Or.inr ⟨by simp, rfl⟩
  | some request =>
    dsimp only
    split
    next incomplete =>
      refine Or.inr ⟨fun other same accepted => ?_, rfl⟩
      cases same
      exact accepted.complete incomplete
    next complete =>
      cases config : env.actionConfig with
      | some err =>
        refine Or.inr ⟨fun other same accepted => ?_, rfl⟩
        rw [accepted.config] at config
        cases config
      | none =>
        dsimp only
        split
        next err missing =>
          refine Or.inr ⟨fun other same accepted => ?_, rfl⟩
          cases same
          split at missing
          next => cases missing
          next other =>
            rw [accepted.found other] at missing
            cases missing
        next found =>
          refine Or.inl ⟨request, rfl, ⟨complete, config, fun other => ?_⟩, rfl⟩
          rwa [if_neg other] at found

theorem ends_cases {index now : Nat} {tools : Tools} (taken : step state (.ends index now tools) = some next) :
    ∃ before job after, state.jobs = before ++ job :: after ∧ before.length = index ∧ job.ended = none ∧
      ∃ outcome final, job.request.outcome tools = outcome ∧
        next = ⟨leave job.request outcome now state.store, before ++ ⟨job.cluster, job.request, some outcome, final⟩ :: after⟩ := by
  unfold step at taken
  dsimp only at taken
  split at taken
  next => cases taken
  next job recorded =>
    split at taken
    next => cases taken
    next running =>
      cases taken
      obtain ⟨inside, rfl⟩ := List.getElem?_eq_some_iff.mp recorded
      refine ⟨state.jobs.take index, state.jobs[index], state.jobs.drop (index + 1), ?_, ?_, not_not.mp running, _,
        fun same => outcome_final (Option.some.inj same), rfl, ?_⟩
      · rw [List.getElem_cons_drop, List.take_append_drop]
      · rw [List.length_take, Nat.min_eq_left (Nat.le_of_lt inside)]
      · rw [List.set_eq_take_append_cons_drop, if_pos inside]

theorem fresh_step (fresh : Fresh state) {event : Event} (taken : step state event = some next) : Fresh next := by
  cases event with
  | request env cluster body =>
    cases taken
    rcases accept_cases env cluster body state with ⟨request, _, _, same⟩ | ⟨_, same⟩
    · rw [same]
      exact fresh_set fresh
    · rw [same]
      exact fresh
  | ends index now tools =>
    obtain ⟨_, _, _, -, -, -, outcome, _, -, rfl⟩ := ends_cases taken
    cases outcome with
    | none => exact fresh
    | some stat => exact fresh_set fresh

/-- A request that is accepted leaves the right answer exactly if it is for the cluster,
or one for the cluster is running, or it is for something else. -/
theorem right_accepted_iff (fresh : Fresh state) (right : Right target state) {request : Request} {cluster : String} {now : Nat} :
    Right target ⟨setReleaseStatus request.action request.name .processing now state.store,
      state.jobs ++ [⟨cluster, request, none, by simp⟩]⟩ ↔
      (request.action = target.action → request.name = target.release → cluster ≠ target.cluster →
        ∃ job ∈ state.jobs, job.On target ∧ job.ended = none) := by
  obtain ⟨before, told⟩ := (right_iff fresh).mp right
  have all : ∀ job ∈ state.jobs ++ [⟨cluster, request, none, by simp⟩], job.On target → job.ended ≠ some none := by
    intro job member on
    rcases List.mem_append.mp member with old | new
    · exact told job old on
    · cases List.mem_singleton.mp new
      simp
  rw [right_iff (fresh_set fresh), stored_set]
  by_cases asked : request.action = target.action ∧ request.name = target.release
  · rw [if_pos asked]
    by_cases own : cluster = target.cluster
    · have running : expected target (state.jobs ++ [⟨cluster, request, none, by simp⟩]) = some .processing :=
        expected_running ⟨_, List.mem_append_right _ List.mem_cons_self, ⟨own, asked⟩, rfl⟩
      exact ⟨fun _ _ _ other => absurd own other, fun _ => ⟨running.symm, all⟩⟩
    · have apart : ¬(Job.On ⟨cluster, request, none, by simp⟩ target) := fun on => own on.1
      rw [expected_other apart, List.append_nil]
      constructor
      · exact fun after _ _ _ => expected_processing after.1.symm
      · exact fun running => ⟨(expected_running (running asked.1 asked.2 own)).symm, all⟩
  · have apart : ¬(Job.On ⟨cluster, request, none, by simp⟩ target) := fun on => asked on.2
    rw [if_neg asked, expected_other apart, List.append_nil]
    exact ⟨fun _ actions names => absurd ⟨actions, names⟩ asked, fun _ => ⟨before, all⟩⟩

theorem right_ended_iff (fresh : Fresh state) (right : Right target state) {index now : Nat} {tools : Tools}
    (taken : step state (.ends index now tools) = some next) : Clean target state (.ends index now tools) ↔ Right target next := by
  obtain ⟨same, told⟩ := (right_iff fresh).mp right
  rw [right_iff (fresh_step fresh taken)]
  obtain ⟨before, job, after, jobs, rfl, running, outcome, final, left, rfl⟩ := ends_cases taken
  have recorded : state.jobs[before.length]? = some job := by
    rw [jobs, List.getElem?_append_right (Nat.le_refl _), Nat.sub_self, List.getElem?_cons_zero]
  have others : state.jobs.eraseIdx before.length = before ++ after := by
    rw [jobs, List.eraseIdx_append_of_length_le (Nat.le_refl _), Nat.sub_self, List.eraseIdx_cons_zero]
  have later : state.jobs.drop (before.length + 1) = after := by
    rw [jobs, ← List.drop_drop, List.drop_left, List.drop_succ_cons, List.drop_zero]
  have elsewhere : ∀ other ∈ before ++ after, other.On target → other.ended ≠ some none := by
    intro other member
    apply told other
    rw [jobs]
    rcases List.mem_append.mp member with early | late
    · exact List.mem_append_left _ early
    · exact List.mem_append_right _ (List.mem_cons_of_mem _ late)
  have leaves : (∀ other ∈ before ++ ⟨job.cluster, job.request, some outcome, final⟩ :: after, other.On target →
      other.ended ≠ some none) ↔ (job.On target → outcome ≠ none) := by
    constructor
    · intro every on empty
      exact every _ (List.mem_append_right _ List.mem_cons_self) on (congrArg some empty)
    · intro told other member on
      rcases List.mem_append.mp member with early | late
      · exact elsewhere other (List.mem_append_left _ early) on
      · rcases List.mem_cons.mp late with rfl | rest
        · exact fun empty => told on (Option.some.inj empty)
        · exact elsewhere other (List.mem_append_right _ rest) on
  have unchanged (apart : ¬job.On target) :
      expected target (before ++ ⟨job.cluster, job.request, some outcome, final⟩ :: after) = expected target state.jobs := by
    have other : ¬(Job.On ⟨job.cluster, job.request, some outcome, final⟩ target) := apart
    rw [jobs, expected_other other, expected_other apart]
  have clean : Clean target state (.ends before.length now tools) ↔
      (job.request.action = target.action ∧ job.request.name = target.release →
        Harmless target state.jobs before.length job outcome) := by
    simp only [Clean, recorded, Option.some.injEq, forall_eq', left, and_imp]
  rw [clean, leaves]
  by_cases asked : job.request.action = target.action ∧ job.request.name = target.release
  · simp only [asked, forall_const, and_self]
    by_cases own : job.cluster = target.cluster
    · have on : job.On target := ⟨own, asked⟩
      cases outcome with
      | none => simp [Harmless, own, on]
      | some stat =>
        have told := @expected_ended target before after
          ⟨job.cluster, job.request, some (some stat), final⟩ stat on rfl
        rw [leave, stored_set, if_pos asked, Harmless, if_pos own, others, later, ← told]
        simp [eq_comm]
    · have apart : ¬job.On target := fun on => own on.1
      rw [unchanged apart]
      cases outcome with
      | none =>
        have kept : stored target state = stored target ⟨state.store, before ++ ⟨job.cluster, job.request, some none, final⟩ :: after⟩ :=
          rfl
        simp [Harmless, own, apart, leave, ← same, ← kept]
      | some stat =>
        rw [leave, stored_set, if_pos asked, Harmless, if_neg own]
        simp [apart, eq_comm]
  · have apart : ¬job.On target := fun on => asked on.2
    have kept : stored target ⟨leave job.request outcome now state.store,
        before ++ ⟨job.cluster, job.request, some outcome, final⟩ :: after⟩ = stored target state := by
      cases outcome with
      | none => rfl
      | some stat => rw [leave, stored_set, if_neg asked]
    rw [unchanged apart, kept]
    exact ⟨fun _ => ⟨same, fun on => absurd on apart⟩, fun _ same => absurd same asked⟩

theorem right_step_iff (fresh : Fresh state) (right : Right target state) {event : Event}
    (taken : step state event = some next) : Clean target state event ↔ Right target next := by
  cases event with
  | request env cluster body =>
    cases taken
    unfold Clean
    rcases accept_cases env cluster body state with ⟨request, rfl, accepted, same⟩ | ⟨refused, same⟩
    · rw [same, right_accepted_iff fresh right]
      constructor
      · exact fun clean => clean request rfl accepted
      · intro clean other equal _
        cases equal
        exact clean
    · rw [same]
      exact ⟨fun _ => right, fun _ request given accepted => absurd accepted (refused request given)⟩
  | ends index now tools => exact right_ended_iff fresh right taken

def State.initial : State := ⟨Store.empty, []⟩

theorem fresh_initial : Fresh .initial := by
  intro key value expiresAt found
  cases found

theorem fresh_run {events : List Event} {last : State} (ran : run step .initial events = some last) : Fresh last :=
  always Fresh (fun _ _ _ fresh taken => fresh_step fresh taken) fresh_initial ran

/-- Nothing fails before a request is accepted. -/
def plainEnv : Env := ⟨0, "", "", none, none⟩

def plainTools (user : String) : Tools where
  restConfig := none
  client := none
  review := .ok user
  locateChart chart := .ok chart
  load _ := .ok ⟨"", false⟩
  checkDependencies _ := none
  update _ := none
  decode values := .ok values
  unmarshal _ := none
  run := none

def install : Request := .install ⟨⟨"web", "default", "d", "", "nginx", "1"⟩, false, false⟩

def installOn (cluster : String) : Target := ⟨cluster, .install, "web", by decide⟩

end K8Sense.Helm
