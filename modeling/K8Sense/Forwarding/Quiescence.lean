import K8Sense.Forwarding.Lifecycle

/-! What holds of the tunnels of an id in every state of a run whose steps are allowed,
and of the entry when nothing is under way. -/

namespace K8Sense.Forwarding.Lifecycle
open Transition

/-- That the tunnel runs is right, or that it has stopped is still to be stored. -/
def Tunnel.Due (t : Tunnel) : Prop :=
  t.alive = true ∧ t.record.status = .running ∨ (∃ snapshot err, t.forwarding = .storing snapshot err) ∨
    ∃ snapshot, t.monitor = .storing snapshot

/-- The snapshots that the goroutines of a tunnel are about to store. -/
structure Tunnel.Own (n : Nat) (t : Tunnel) : Prop where
  record : t.record.closeChan = n
  forward : ∀ snapshot err, t.forwarding = .storing snapshot err → snapshot.status = .stopped
  ready : ∀ snapshot, t.readiness = .storing snapshot .watch →
    snapshot.status = .running ∧ snapshot.closeChan = n ∧ (t.alive = true → t.record.status = .running)
  failed : ∀ snapshot next, t.readiness = .storing snapshot next → next ≠ .watch → snapshot.status = .stopped
  closed : ∀ snapshot, t.readiness = .storing snapshot .nothing → t.closed = true
  monitor : ∀ snapshot, t.monitor = .storing snapshot → snapshot.status = .stopped
  watched : t.monitor ≠ .absent → t.readiness = .finished

section
variable {id : String}

structure Orderly (state : State id) : Prop where
  own : ∀ (n : Nat) (t : Tunnel), state.tunnels[n]? = some t → t.Own n
  starting : ∀ (n : Nat) (t : Tunnel), state.tunnels[n]? = some t → t.readiness ≠ .finished →
    n + 1 = state.tunnels.length ∧ state.inFlight = some (.waiting n)
  older : ∀ (n : Nat) (t : Tunnel), state.tunnels[n]? = some t → n + 1 < state.tunnels.length → t.alive = true → Doomed state n t
  due : ∀ p : PortForward, state.entry = some p → p.status = .running → ∃ (n : Nat) (t : Tunnel), n + 1 = state.tunnels.length ∧
    state.tunnels[n]? = some t ∧ (t.stored = true → p.closeChan = n ∧ t.Due)
  live : ∀ (n : Nat) (t : Tunnel), n + 1 = state.tunnels.length → state.tunnels[n]? = some t → t.alive = true → t.stored = true →
    ¬Doomed state n t → ∃ p, state.entry = some p ∧ p.status = .running ∧ p.closeChan = n
  deleted : state.deleted = true → state.entry = none

variable {state : State id} {n : Nat} {t u : Tunnel} {p : PortForward}

theorem setTunnel_some (found : state.tunnels[n]? = some t) {m : Nat} {other : Tunnel} :
    (state.setTunnel n u).tunnels[m]? = some other ↔ m = n ∧ other = u ∨ m ≠ n ∧ state.tunnels[m]? = some other := by
  have inside := (List.getElem?_eq_some_iff.mp found).1
  rw [State.setTunnel, List.getElem?_set]
  by_cases same : n = m
  · subst same
    simp [inside, eq_comm]
  · simp [same, Ne.symm same]

theorem Orderly.update (orderly : Orderly state) (found : state.tunnels[n]? = some t) (own : u.Own n)
    (starting : u.readiness ≠ .finished → t.readiness ≠ .finished) (alive : u.alive = true → t.alive = true)
    (ending : t.ending = true → u.ending = true)
    (due : ∀ p, state.entry = some p → p.status = .running → (t.stored = true → p.closeChan = n ∧ t.Due) →
      u.stored = true → p.closeChan = n ∧ u.Due)
    (live : u.alive = true → u.stored = true → u.ending = false →
      t.stored = true ∨ ∃ p, state.entry = some p ∧ p.status = .running ∧ p.closeChan = n) :
    Orderly (state.setTunnel n u) := by
  have length : (state.setTunnel n u).tunnels.length = state.tunnels.length := List.length_set
  have doomed : Doomed state n t → Doomed state n u := Or.imp_left ending
  refine ⟨?_, ?_, ?_, ?_, ?_, orderly.deleted⟩
  · intro m other is
    rcases (setTunnel_some found).mp is with ⟨rfl, rfl⟩ | ⟨-, is⟩
    · exact own
    · exact orderly.own m other is
  · intro m other is pending
    rw [length]
    rcases (setTunnel_some found).mp is with ⟨rfl, rfl⟩ | ⟨-, is⟩
    · exact orderly.starting m t found (starting pending)
    · exact orderly.starting m other is pending
  · intro m other is before runs
    rw [length] at before
    rcases (setTunnel_some found).mp is with ⟨rfl, rfl⟩ | ⟨-, is⟩
    · exact doomed (orderly.older m t found before (alive runs))
    · exact orderly.older m other is before runs
  · intro p entry runs
    obtain ⟨m, other, last, is, holds⟩ := orderly.due p entry runs
    by_cases same : m = n
    · subst same
      cases found.symm.trans is
      exact ⟨m, u, length ▸ last, (setTunnel_some found).mpr (.inl ⟨rfl, rfl⟩), due p entry runs holds⟩
    · exact ⟨m, other, length ▸ last, (setTunnel_some found).mpr (.inr ⟨same, is⟩), holds⟩
  · intro m other last is runs entered free
    rw [length] at last
    rcases (setTunnel_some found).mp is with ⟨rfl, rfl⟩ | ⟨-, is⟩
    · have open_ : other.ending = false := Bool.eq_false_iff.mpr fun ends => free (.inl ends)
      rcases live runs entered open_ with before | there
      · exact orderly.live m t last found (alive runs) before fun dooms => free (doomed dooms)
      · exact there
    · exact orderly.live m other last is runs entered free

theorem Orderly.advance (orderly : Orderly state) (found : state.tunnels[n]? = some t) (own : u.Own n)
    (starting : u.readiness ≠ .finished → t.readiness ≠ .finished) (alive : u.alive = true → t.alive = true)
    (ending : t.ending = true → u.ending = true) (stored : u.stored = true → t.stored = true) (due : t.Due → u.Due) :
    Orderly (state.setTunnel n u) := by
  apply orderly.update found own starting alive ending
  · intro p _ _ holds entered
    obtain ⟨same, is⟩ := holds (stored entered)
    exact ⟨same, due is⟩
  · exact fun _ entered _ => .inl (stored entered)

theorem Orderly.store (orderly : Orderly state) (kept : state.deleted = false) (hidden : ¬Exposed state)
    (early : p.status = .running → ∃ n t, n + 1 = state.tunnels.length ∧ state.tunnels[n]? = some t ∧ t.stored = false) :
    Orderly (state.store p) := by
  refine ⟨orderly.own, orderly.starting, orderly.older, ?_, ?_, ?_⟩
  · intro q entry runs
    cases entry
    obtain ⟨n, t, last, is, unstored⟩ := early runs
    exact ⟨n, t, last, is, fun stored => absurd (stored.symm.trans unstored) (by decide)⟩
  · intro n t last is runs entered free
    exact absurd ⟨n, t, last, is, runs, entered, free⟩ hidden
  · intro deleted
    exact absurd (deleted.symm.trans kept) (by decide)

theorem Orderly.hidden (orderly : Orderly state) (found : state.tunnels[n]? = some t) (pending : t.stored = false)
    (unfinished : t.readiness ≠ .finished) : ¬Exposed state := by
  intro ⟨m, other, last, is, _, entered, _⟩
  have same : m = n := by
    have here := (orderly.starting n t found unfinished).1
    omega
  subst same
  cases found.symm.trans is
  exact absurd (entered.symm.trans pending) (by decide)

theorem Orderly.requests (orderly : Orderly state) {checked : List (StartRequest id)} {inFlight : Option (Launch id)}
    (starting : ∀ n t, state.tunnels[n]? = some t → t.readiness ≠ .finished → state.inFlight = some (.waiting n) →
      inFlight = some (.waiting n)) : Orderly { state with checked, inFlight } := by
  refine ⟨orderly.own, ?_, orderly.older, orderly.due, orderly.live, orderly.deleted⟩
  intro n t is pending
  obtain ⟨last, waits⟩ := orderly.starting n t is pending
  exact ⟨last, starting n t is pending waits⟩

/-! The steps of a tunnel. -/

theorem receive_own (own : t.Own n) (waits : t.readiness = .waiting) {outcome : Outcome} (received : t.receive outcome = some u) :
    u.Own n ∧ (u.readiness ≠ .finished → t.readiness ≠ .finished) ∧ (u.alive = true → t.alive = true) ∧
      (t.ending = true → u.ending = true) ∧ u.stored = false := by
  have absent : t.monitor = .absent := by
    by_contra present
    exact absurd (own.watched present) (by simp [waits])
  have starts : t.readiness ≠ .finished := by simp [waits]
  have quiet : ∀ v : Tunnel, v.forwarding = t.forwarding → v.closed = t.closed → v.monitor = t.monitor →
      (v.alive = true → t.alive = true) ∧ (t.ending = true → v.ending = true) := by
    intro v forwarding closed monitor
    refine ⟨fun runs => by simpa [Tunnel.alive, forwarding] using runs, fun ends => ?_⟩
    have here : t.closed = true := by simpa [Tunnel.ending, waits, absent, Readiness.ending, Monitor.ending] using ends
    simp [Tunnel.ending, closed, here]
  have failed : ∀ errMsg, (t.fail errMsg).Own n := by
    intro errMsg
    refine ⟨own.record, own.forward, ?_, ?_, ?_, ?_, fun present => absurd absent present⟩
    · intro snapshot is
      simp [Tunnel.fail] at is
    · intro snapshot next is _
      simp only [Tunnel.fail, Readiness.storing.injEq] at is
      rw [← is.1]
      rfl
    · intro snapshot is
      simp [Tunnel.fail] at is
    · exact own.monitor
  have fails : ∀ errMsg, (t.fail errMsg).Own n ∧ ((t.fail errMsg).readiness ≠ .finished → t.readiness ≠ .finished) ∧
      ((t.fail errMsg).alive = true → t.alive = true) ∧ (t.ending = true → (t.fail errMsg).ending = true) ∧
      (t.fail errMsg).stored = false := by
    intro errMsg
    obtain ⟨alive, ending⟩ := quiet (t.fail errMsg) rfl rfl rfl
    exact ⟨failed errMsg, fun _ => starts, alive, ending, rfl⟩
  cases outcome with
  | ready errOut =>
    simp only [Tunnel.receive] at received
    split at received
    next =>
      cases received
      exact fails _
    next =>
      cases received
      obtain ⟨alive, ending⟩ := quiet { t with
        record := t.record.set .running ""
        readiness := .storing (t.record.set .running "") .watch } rfl rfl rfl
      refine ⟨⟨own.record, own.forward, ?_, ?_, ?_, own.monitor, fun present => absurd absent present⟩,
        fun _ => starts, alive, ending, rfl⟩
      · intro snapshot is
        cases is
        exact ⟨rfl, own.record, fun _ => rfl⟩
      · intro snapshot next is other
        cases is
        exact absurd rfl other
      · intro snapshot is
        cases is
  | forwardErr =>
    simp only [Tunnel.receive] at received
    split at received
    next => cases received
    next =>
      cases received
      exact fails _
    next =>
      cases received
      exact fails _
  | timeout =>
    cases received
    exact fails _
  | closed =>
    simp only [Tunnel.receive] at received
    split at received
    next closed =>
      rw [Option.some.injEq] at received
      obtain ⟨alive, ending⟩ := quiet u (by rw [← received]) (by rw [← received]) (by rw [← received])
      subst received
      refine ⟨⟨own.record, own.forward, ?_, ?_, fun _ _ => closed, own.monitor, fun present => absurd absent present⟩,
        fun _ => starts, alive, ending, rfl⟩
      · intro snapshot is
        cases is
      · intro snapshot next is _
        cases is
        cases status : t.record.status <;> rfl
    next => cases received

theorem Orderly.receive (orderly : Orderly state) (found : state.tunnels[n]? = some t) (waits : t.readiness = .waiting)
    {outcome : Outcome} (received : t.receive outcome = some u) : Orderly (state.setTunnel n u) := by
  obtain ⟨own, starting, alive, ending, unstored⟩ := receive_own (orderly.own n t found) waits received
  apply orderly.update found own starting alive ending
  · exact fun _ _ _ _ entered => absurd (entered.symm.trans unstored) (by decide)
  · exact fun _ entered _ => absurd (entered.symm.trans unstored) (by decide)

theorem forwardEnded_some {err : Option String} {snapshot : PortForward} (ended : p.forwardEnded err = some snapshot) :
    snapshot.status = .stopped ∧ snapshot.closeChan = p.closeChan := by
  cases err with
  | some err =>
    cases ended
    exact ⟨rfl, rfl⟩
  | none =>
    simp only [PortForward.forwardEnded] at ended
    split at ended
    next =>
      cases ended
      exact ⟨rfl, rfl⟩
    next => cases ended

theorem forwardEnded_none {err : Option String} (ended : p.forwardEnded err = none) : p.status ≠ .running := by
  cases err with
  | some err => cases ended
  | none =>
    simp only [PortForward.forwardEnded] at ended
    split at ended
    next => cases ended
    next other => exact other

theorem Orderly.endForward (orderly : Orderly state) (found : state.tunnels[n]? = some t) (runs : t.forwarding = .alive)
    (err : Option String) : Orderly (state.setTunnel n (t.endForward err)) := by
  have own := orderly.own n t found
  unfold Tunnel.endForward
  split
  next snapshot ended =>
    obtain ⟨stopped, same⟩ := forwardEnded_some ended
    refine orderly.advance found ⟨same.trans own.record, ?_, ?_, own.failed, own.closed, own.monitor, own.watched⟩
      (fun pending => pending) (fun _ => by simp [Tunnel.alive, runs]) (fun ends => ends) (fun stored => stored)
      fun _ => .inr (.inl ⟨snapshot, err, rfl⟩)
    · intro other err' is
      cases is
      exact stopped
    · intro other is
      obtain ⟨running, chan, -⟩ := own.ready other is
      exact ⟨running, chan, fun alive => by simp [Tunnel.alive] at alive⟩
  next ended =>
    refine orderly.advance found ⟨own.record, nofun, ?_, own.failed, own.closed, own.monitor, own.watched⟩
      (fun pending => pending) (fun _ => by simp [Tunnel.alive, runs]) (fun ends => ends) (fun stored => stored) ?_
    · intro other is
      obtain ⟨running, chan, -⟩ := own.ready other is
      exact ⟨running, chan, fun alive => by simp [Tunnel.alive] at alive⟩
    · rintro (⟨-, running⟩ | ⟨snapshot, err', storing⟩ | monitor)
      · exact absurd running (forwardEnded_none ended)
      · cases runs.symm.trans storing
      · exact .inr (.inr monitor)

theorem Orderly.closeForward (orderly : Orderly state) (found : state.tunnels[n]? = some t) (closing : t.forwarding = .closing)
    (forwardErr : Option (Option String)) :
    Orderly (state.setTunnel n { t with forwarding := .finished, closed := true, forwardErr }) := by
  have own := orderly.own n t found
  refine orderly.advance found ⟨own.record, nofun, ?_, own.failed, fun _ _ => rfl, own.monitor, own.watched⟩
    (fun pending => pending) (fun alive => by simp [Tunnel.alive] at alive) (fun _ => by simp [Tunnel.ending])
    (fun stored => stored) ?_
  · intro other is
    obtain ⟨running, chan, -⟩ := own.ready other is
    exact ⟨running, chan, fun alive => by simp [Tunnel.alive] at alive⟩
  · rintro (⟨alive, -⟩ | ⟨snapshot, err, storing⟩ | monitor)
    · simp [Tunnel.alive, closing] at alive
    · cases closing.symm.trans storing
    · exact .inr (.inr monitor)

theorem Orderly.failPod (orderly : Orderly state) (found : state.tunnels[n]? = some t) (watching : t.monitor = .watching)
    (errMsg : String) : Orderly (state.setTunnel n (t.failPod errMsg)) := by
  have own := orderly.own n t found
  have finished : t.readiness = .finished := own.watched (by simp [watching])
  refine orderly.advance found ⟨own.record, own.forward, ?_, own.failed, own.closed, ?_, fun _ => finished⟩
    (fun pending => pending) (fun alive => alive) (fun _ => by simp [Tunnel.failPod, Tunnel.ending, Monitor.ending])
    (fun stored => stored) fun _ => .inr (.inr ⟨_, rfl⟩)
  · intro snapshot is
    cases finished.symm.trans is
  · intro snapshot is
    cases is
    rfl

theorem Orderly.leaveMonitor (orderly : Orderly state) (found : state.tunnels[n]? = some t)
    (leaves : t.monitor = .closing ∨ t.monitor = .watching) :
    Orderly (state.setTunnel n { t with monitor := .finished, closed := true }) := by
  have own := orderly.own n t found
  refine orderly.advance found ⟨own.record, own.forward, own.ready, own.failed, fun _ _ => rfl, nofun, fun _ => own.watched ?_⟩
    (fun pending => pending) (fun alive => alive) (fun _ => by simp [Tunnel.ending]) (fun stored => stored) ?_
  · rcases leaves with is | is <;> simp [is]
  · rintro (alive | forwarding | ⟨snapshot, storing⟩)
    · exact .inl alive
    · exact .inr (.inl forwarding)
    · rcases leaves with is | is <;> cases is.symm.trans storing

theorem Orderly.closeReadiness (orderly : Orderly state) (found : state.tunnels[n]? = some t)
    (closing : t.readiness = .closing) : Orderly (state.setTunnel n { t with readiness := .finished, closed := true }) := by
  have own := orderly.own n t found
  exact orderly.advance found ⟨own.record, own.forward, nofun, nofun, nofun, own.monitor, fun _ => rfl⟩
    (fun other => absurd rfl other) (fun alive => alive) (fun _ => by simp [Tunnel.ending])
    (fun _ => by simp [Tunnel.stored, closing]) fun due => due

/-! What is stored. -/

theorem Orderly.storeStopped (orderly : Orderly state) (found : state.tunnels[n]? = some t) (kept : state.deleted = false)
    (hidden : ¬Exposed state) (stopped : p.status = .stopped) (own : u.Own n)
    (starting : u.readiness ≠ .finished → t.readiness ≠ .finished) (alive : u.alive = true → t.alive = true)
    (ending : t.ending = true → u.ending = true)
    (live : u.alive = true → u.stored = true → u.ending = false → t.stored = true) :
    Orderly ((state.store p).setTunnel n u) := by
  have after : Orderly (state.store p) := orderly.store kept hidden fun runs => by simp [stopped] at runs
  refine after.update found own starting alive ending ?_ fun runs entered open_ => .inl (live runs entered open_)
  intro q entry runs
  cases entry
  cases runs.symm.trans stopped

theorem Orderly.storeForward (orderly : Orderly state) (found : state.tunnels[n]? = some t) {snapshot : PortForward}
    {err : Option String} (storing : t.forwarding = .storing snapshot err) (kept : state.deleted = false)
    (hidden : ¬Exposed state) (forwardErr : Option (Option String)) :
    Orderly ((state.store snapshot).setTunnel n { t with forwarding := .closing, forwardErr }) := by
  have own := orderly.own n t found
  refine orderly.storeStopped found kept hidden (own.forward snapshot err storing)
    ⟨own.record, nofun, ?_, own.failed, own.closed, own.monitor, own.watched⟩ (fun pending => pending)
    (fun alive => by simp [Tunnel.alive] at alive) (fun ends => ends) fun _ entered _ => entered
  intro other is
  obtain ⟨running, chan, -⟩ := own.ready other is
  exact ⟨running, chan, fun alive => by simp [Tunnel.alive] at alive⟩

theorem Orderly.storeMonitor (orderly : Orderly state) (found : state.tunnels[n]? = some t) {snapshot : PortForward}
    (storing : t.monitor = .storing snapshot) (kept : state.deleted = false) (hidden : ¬Exposed state) :
    Orderly ((state.store snapshot).setTunnel n { t with monitor := .closing }) := by
  have own := orderly.own n t found
  exact orderly.storeStopped found kept hidden (own.monitor snapshot storing)
    ⟨own.record, own.forward, own.ready, own.failed, own.closed, nofun, fun _ => own.watched (by simp [storing])⟩
    (fun pending => pending) (fun alive => alive) (fun _ => by simp [Tunnel.ending, Monitor.ending])
    fun _ entered _ => entered

theorem Orderly.storeFailure (orderly : Orderly state) (found : state.tunnels[n]? = some t) {snapshot : PortForward}
    {next : Next} (storing : t.readiness = .storing snapshot next) (failed : next ≠ .watch) (kept : state.deleted = false)
    {readiness : Readiness} (left : readiness = .closing ∨ readiness = .finished ∧ next = .nothing) :
    Orderly ((state.store snapshot).setTunnel n { t with readiness }) := by
  have own := orderly.own n t found
  have pending : t.readiness ≠ .finished := by simp [storing]
  have hidden : ¬Exposed state := orderly.hidden found (by simp [Tunnel.stored, storing]) pending
  have ends : (⟨t.record, t.closed, t.forwarding, readiness, t.monitor, t.forwardErr⟩ : Tunnel).ending = true := by
    rcases left with rfl | ⟨rfl, rfl⟩
    · simp [Tunnel.ending, Readiness.ending]
    · simp [Tunnel.ending, own.closed snapshot storing]
  refine orderly.storeStopped found kept hidden (own.failed snapshot next storing failed)
    ⟨own.record, own.forward, ?_, ?_, ?_, own.monitor, fun present => absurd (own.watched present) pending⟩ (fun _ => pending)
    (fun alive => alive) (fun _ => ends) fun _ _ open_ => absurd (ends.symm.trans open_) (by decide)
  all_goals rcases left with rfl | ⟨rfl, -⟩ <;> nofun

theorem Orderly.storeReady (orderly : Orderly state) (found : state.tunnels[n]? = some t) {snapshot : PortForward}
    (storing : t.readiness = .storing snapshot .watch) (kept : state.deleted = false) (open_ : t.ended = false) :
    Orderly ((state.store snapshot).setTunnel n { t with readiness := .finished, monitor := .watching }) := by
  have own := orderly.own n t found
  have pending : t.readiness ≠ .finished := by simp [storing]
  have unstored : t.stored = false := by simp [Tunnel.stored, storing]
  obtain ⟨running, chan, record⟩ := own.ready snapshot storing
  have absent : t.monitor = .absent := by
    by_contra present
    exact pending (own.watched present)
  have after : Orderly (state.store snapshot) := orderly.store kept (orderly.hidden found unstored pending) fun _ =>
    ⟨n, t, (orderly.starting n t found pending).1, found, unstored⟩
  refine after.update found ⟨own.record, own.forward, nofun, nofun, nofun, nofun, fun _ => rfl⟩ (fun other => absurd rfl other)
    (fun alive => alive) (fun ends => ?_) ?_ fun _ _ _ => .inr ⟨snapshot, rfl, running, chan⟩
  · have closed : t.closed = true := by simpa [Tunnel.ending, storing, absent, Readiness.ending, Monitor.ending] using ends
    simp [Tunnel.ending, closed]
  · intro q entry _ _ _
    cases entry
    refine ⟨chan, ?_⟩
    cases is : t.forwarding with
    | alive => exact .inl ⟨rfl, record (by simp [Tunnel.alive, is])⟩
    | storing other err => exact .inr (.inl ⟨other, err, rfl⟩)
    | closing => simp [Tunnel.ended, is] at open_
    | finished => simp [Tunnel.ended, is] at open_

/-! The steps of the requests. -/

theorem Orderly.launch (orderly : Orderly state) {request : StartRequest id} (preparing : state.inFlight = some (.preparing request))
    (hidden : ¬Exposed state) (cluster userID : String) : Orderly (state.startTunnel cluster userID request) := by
  have length : (state.startTunnel cluster userID request).tunnels.length = state.tunnels.length + 1 := by
    simp [State.startTunnel]
  have old : ∀ (m : Nat) (other : Tunnel), (state.startTunnel cluster userID request).tunnels[m]? = some other →
      state.tunnels[m]? = some other ∨ m = state.tunnels.length ∧ other.stored = false ∧ other.Own m := by
    intro m other is
    rw [State.startTunnel, List.getElem?_append] at is
    split at is
    next => exact .inl is
    next outside =>
      obtain ⟨first, rfl⟩ : m - state.tunnels.length = 0 ∧ other = _ := by
        simpa [List.getElem?_singleton, eq_comm] using is
      have here : m = state.tunnels.length := by omega
      subst here
      exact .inr ⟨rfl, rfl, ⟨rfl, nofun, nofun, nofun, nofun, nofun, fun present => absurd rfl present⟩⟩
  have finished : ∀ (m : Nat) (other : Tunnel), state.tunnels[m]? = some other → other.readiness = .finished := by
    intro m other is
    by_contra pending
    cases preparing.symm.trans (orderly.starting m other is pending).2
  have inside : ∀ (m : Nat) (other : Tunnel), state.tunnels[m]? = some other → m < state.tunnels.length :=
    fun m other is => (List.getElem?_eq_some_iff.mp is).1
  refine ⟨?_, ?_, ?_, ?_, ?_, nofun⟩
  · intro m other is
    rcases old m other is with is | ⟨-, -, own⟩
    · exact orderly.own m other is
    · exact own
  · intro m other is pending
    rcases old m other is with is | ⟨rfl, -⟩
    · exact absurd (finished m other is) pending
    · exact ⟨length.symm, rfl⟩
  · intro m other is before runs
    rw [length] at before
    rcases old m other is with is | ⟨rfl, -⟩
    · by_contra free
      have entered : other.stored = true := by simp [Tunnel.stored, finished m other is]
      by_cases last : m + 1 = state.tunnels.length
      · exact hidden ⟨m, other, last, is, runs, entered, free⟩
      · have here := inside m other is
        exact free (orderly.older m other is (by omega) runs)
    · omega
  · intro q entry runs
    refine ⟨state.tunnels.length, _, length.symm, List.getElem?_concat_length, fun entered => ?_⟩
    simp [Tunnel.stored] at entered
  · intro m other last is runs entered
    rw [length] at last
    rcases old m other is with is | ⟨-, unstored, -⟩
    · have here := inside m other is
      omega
    · exact absurd (entered.symm.trans unstored) (by decide)

theorem Orderly.handlers (orderly : Orderly state) {handlers : List Handler}
    (doomed : ∀ n t, state.tunnels[n]? = some t → Doomed state n t → Doomed { state with handlers } n t) :
    Orderly { state with handlers } := by
  refine ⟨orderly.own, orderly.starting, ?_, orderly.due, ?_, orderly.deleted⟩
  · exact fun m other is before runs => doomed m other is (orderly.older m other is before runs)
  · exact fun m other last is runs entered free =>
      orderly.live m other last is runs entered fun dooms => free (doomed m other is dooms)

theorem not_exposed_handlers (hidden : ¬Exposed state) {handlers : List Handler}
    (doomed : ∀ n t, state.tunnels[n]? = some t → Doomed state n t → Doomed { state with handlers } n t) :
    ¬Exposed { state with handlers } := by
  intro ⟨m, other, last, is, runs, entered, free⟩
  exact hidden ⟨m, other, last, is, runs, entered, fun dooms => free (doomed m other is dooms)⟩

theorem close_eq (found : state.tunnels[n]? = some t) : state.close n = state.setTunnel n { t with closed := true } := by
  obtain ⟨inside, is⟩ := List.getElem?_eq_some_iff.mp found
  rw [State.close, State.setTunnel, List.modify_eq_set_getElem?, found]
  rfl

theorem Orderly.close (orderly : Orderly state) (n : Nat) : Orderly (state.close n) := by
  cases found : state.tunnels[n]? with
  | none =>
    have same : state.close n = state := by
      rw [State.close, List.modify_eq_self (by simpa using found)]
    rw [same]
    exact orderly
  | some t =>
    have own := orderly.own n t found
    rw [close_eq found]
    exact orderly.advance found
      ⟨own.record, own.forward, own.ready, own.failed, fun _ _ => rfl, own.monitor, own.watched⟩ (fun pending => pending)
      (fun alive => alive) (fun _ => by simp [Tunnel.ending]) (fun stored => stored) fun due => due

theorem Orderly.signal (orderly : Orderly state) {index : Nat} {copy : PortForward} {isStopRequest : Bool}
    (got : state.handlers[index]? = some (.got copy isStopRequest)) :
    Orderly ((state.close copy.closeChan).setHandler index (.signalled copy isStopRequest)) := by
  apply (orderly.close copy.closeChan).handlers
  rintro m other is (ends | ⟨another, stop, member, chan⟩)
  · exact .inl ends
  obtain ⟨at_, here⟩ := List.mem_iff_getElem?.mp member
  by_cases same : at_ = index
  · subst same
    cases here.symm.trans got
    subst chan
    obtain ⟨before, -, rfl⟩ : ∃ before, state.tunnels[copy.closeChan]? = some before ∧ { before with closed := true } = other := by
      simpa [State.close] using is
    exact .inl (by simp [Tunnel.ending])
  · refine .inr ⟨another, stop, List.mem_iff_getElem?.mpr ⟨at_, ?_⟩, chan⟩
    rw [List.getElem?_set_ne (Ne.symm same)]
    exact here

theorem doomed_returned {index : Nat} {copy : PortForward} {isStopRequest : Bool}
    (signalled : state.handlers[index]? = some (.signalled copy isStopRequest)) (dooms : Doomed state n t) :
    Doomed (state.setHandler index .returned) n t := by
  rcases dooms with ends | ⟨another, stop, member, chan⟩
  · exact .inl ends
  obtain ⟨at_, here⟩ := List.mem_iff_getElem?.mp member
  refine .inr ⟨another, stop, List.mem_iff_getElem?.mpr ⟨at_, ?_⟩, chan⟩
  have other : index ≠ at_ := by
    intro same
    subst same
    cases here.symm.trans signalled
  rw [State.setHandler, List.getElem?_set_ne other]
  exact here

theorem Orderly.delete (orderly : Orderly state) (hidden : ¬Exposed state) :
    Orderly { state with entry := none, deleted := true } :=
  ⟨orderly.own, orderly.starting, orderly.older, nofun,
    fun m other last is runs entered free => absurd ⟨m, other, last, is, runs, entered, free⟩ hidden, fun _ => rfl⟩

/-! Runs. -/

variable {cluster userID : String}

theorem atTunnel_some {body : Tunnel → Option (State id)} {next : State id} :
    state.atTunnel n body = some next ↔ ∃ t, state.tunnels[n]? = some t ∧ body t = some next :=
  Option.bind_eq_some_iff

/-- One case for each step: a step that is allowed leaves the tunnels orderly. -/
theorem orderly_step {event : Event id} {next : State id} (orderly : Orderly state) (allowed : Allowed state event)
    (taken : step cluster userID state event = some next) : Orderly next := by
  cases event with
  | start request =>
    cases taken
    split
    next => exact orderly
    next => exact orderly.requests fun _ _ _ _ waits => waits
  | enter index =>
    delta step at taken
    dsimp only at taken
    split at taken
    next => cases taken
    next request _ =>
      cases taken
      split
      next => exact orderly.requests fun _ _ _ _ waits => waits
      next free =>
        refine orderly.requests fun _ _ _ _ waits => ?_
        simp [waits] at free
  | refuse =>
    delta step at taken
    dsimp only at taken
    split at taken
    next preparing =>
      cases taken
      refine orderly.requests fun _ _ _ _ waits => ?_
      cases preparing.symm.trans waits
    next => cases taken
  | launch =>
    delta step at taken
    dsimp only at taken
    split at taken
    next preparing =>
      split at taken
      next =>
        cases taken
        exact orderly.launch preparing allowed cluster userID
      next => cases taken
    next => cases taken
  | readiness n outcome =>
    obtain ⟨t, found, taken⟩ := atTunnel_some.mp taken
    split at taken
    next waits =>
      obtain ⟨u, received, rfl⟩ := Option.map_eq_some_iff.mp taken
      exact orderly.receive found waits received
    next => cases taken
  | storeReadiness n =>
    obtain ⟨t, found, taken⟩ := atTunnel_some.mp taken
    obtain ⟨kept, open_⟩ := allowed
    split at taken
    next snapshot storing =>
      cases taken
      exact orderly.storeReady found storing kept (open_ t snapshot found storing)
    next snapshot storing =>
      cases taken
      exact orderly.storeFailure found storing (by decide) kept (.inl rfl)
    next snapshot storing =>
      cases taken
      exact orderly.storeFailure found storing (by decide) kept (.inr ⟨rfl, rfl⟩)
    next => cases taken
  | closeReadiness n =>
    obtain ⟨t, found, taken⟩ := atTunnel_some.mp taken
    split at taken
    next closing =>
      cases taken
      exact orderly.closeReadiness found closing
    next => cases taken
  | finishStart =>
    delta step at taken
    dsimp only at taken
    split at taken
    next n waiting =>
      obtain ⟨t, found, taken⟩ := atTunnel_some.mp taken
      split at taken
      next finished =>
        cases taken
        refine orderly.requests fun m other is pending waits => ?_
        cases waiting.symm.trans waits
        cases found.symm.trans is
        exact absurd finished pending
      next => cases taken
    next => cases taken
  | forwardEnd n err =>
    obtain ⟨t, found, taken⟩ := atTunnel_some.mp taken
    split at taken
    next runs =>
      cases taken
      exact orderly.endForward found runs err
    next => cases taken
  | storeForward n =>
    obtain ⟨t, found, taken⟩ := atTunnel_some.mp taken
    split at taken
    next snapshot err storing =>
      cases taken
      exact orderly.storeForward found storing allowed.2 allowed.1 _
    next => cases taken
  | closeForward n =>
    obtain ⟨t, found, taken⟩ := atTunnel_some.mp taken
    split at taken
    next closing =>
      cases taken
      exact orderly.closeForward found closing _
    next => cases taken
  | podFailed n errMsg =>
    obtain ⟨t, found, taken⟩ := atTunnel_some.mp taken
    split at taken
    next watching =>
      cases taken
      exact orderly.failPod found watching errMsg
    next => cases taken
  | storeMonitor n =>
    obtain ⟨t, found, taken⟩ := atTunnel_some.mp taken
    split at taken
    next snapshot storing =>
      cases taken
      exact orderly.storeMonitor found storing allowed.2 allowed.1
    next => cases taken
  | closeMonitor n =>
    obtain ⟨t, found, taken⟩ := atTunnel_some.mp taken
    split at taken
    next closing =>
      cases taken
      exact orderly.leaveMonitor found (.inl closing)
    next => cases taken
  | endMonitor n =>
    obtain ⟨t, found, taken⟩ := atTunnel_some.mp taken
    split at taken
    next watching =>
      split at taken
      next closed =>
        cases taken
        have left := orderly.leaveMonitor found (.inr watching)
        rw [← closed] at left
        exact left
      next => cases taken
    next => cases taken
  | stopOrDelete isStopRequest =>
    delta step at taken
    dsimp only at taken
    split at taken
    next =>
      cases taken
      exact orderly
    next copy _ =>
      cases taken
      refine orderly.handlers fun _ _ _ dooms => dooms.imp_right ?_
      rintro ⟨another, stop, member, chan⟩
      exact ⟨another, stop, List.mem_append_left _ member, chan⟩
  | signal index =>
    delta step at taken
    dsimp only at taken
    split at taken
    next copy isStopRequest got =>
      cases taken
      exact orderly.signal got
    next => cases taken
  | finish index =>
    delta step at taken
    dsimp only at taken
    split at taken
    next copy isStopRequest signalled =>
      have returned : Orderly (state.setHandler index .returned) :=
        orderly.handlers fun _ _ _ dooms => doomed_returned signalled dooms
      have hidden : ¬Exposed (state.setHandler index .returned) :=
        not_exposed_handlers allowed.1 fun _ _ _ dooms => doomed_returned signalled dooms
      cases taken
      split
      next stop =>
        subst stop
        exact returned.store (allowed.2 copy signalled) hidden nofun
      next => exact returned.delete hidden
    next => cases taken

theorem initial_orderly : Orderly (initial : State id) := by
  have none : ∀ (n : Nat) (t : Tunnel), (initial : State id).tunnels[n]? ≠ some t := by simp [initial]
  exact ⟨fun n t is => absurd is (none n t), fun n t is => absurd is (none n t), fun n t is => absurd is (none n t),
    (fun _ entry => by cases entry), fun n t _ is => absurd is (none n t), fun _ => rfl⟩

theorem endable (entry : state.entry = some p) (found : state.tunnels[p.closeChan]? = some t) :
    Endable state cluster userID p.closeChan := by
  intro isStopRequest
  have asked : step cluster userID state (.stopOrDelete isStopRequest) =
      some { state with handlers := state.handlers ++ [.got p isStopRequest] } := by
    simp only [step, entry]
  have signalled : step cluster userID { state with handlers := state.handlers ++ [.got p isStopRequest] }
      (.signal state.handlers.length) = some ((State.close p.closeChan
        { state with handlers := state.handlers ++ [.got p isStopRequest] }).setHandler state.handlers.length
          (.signalled p isStopRequest)) := by
    simp only [step, List.getElem?_concat_length]
  exact ⟨_, { t with closed := true }, by rw [run_step asked, run_step signalled, run_nil],
    by simp [State.setHandler, State.close, found], rfl⟩

theorem quiescent_free (quiescent : Quiescent state) (found : state.tunnels[n]? = some t) (runs : t.alive = true) :
    t.stored = true ∧ ¬Doomed state n t := by
  have resting := quiescent.tunnels t (List.mem_of_getElem? found)
  have open_ : t.closed = false := by
    rcases resting.forwarding with ⟨-, open_⟩ | finished
    · exact open_
    · simp [Tunnel.alive, finished] at runs
  refine ⟨by simp [Tunnel.stored, resting.readiness], ?_⟩
  rintro (ends | ⟨copy, isStopRequest, member, -⟩)
  · rcases resting.monitor with is | ⟨is, -⟩ | is <;>
      simp [Tunnel.ending, open_, resting.readiness, is, Readiness.ending, Monitor.ending] at ends
  · cases quiescent.handlers _ member

theorem Orderly.last_of_free (orderly : Orderly state) (found : state.tunnels[n]? = some t) (runs : t.alive = true)
    (free : ¬Doomed state n t) : n + 1 = state.tunnels.length := by
  by_contra before
  have inside := (List.getElem?_eq_some_iff.mp found).1
  exact free (orderly.older n t found (by omega) runs)

theorem Orderly.entered (orderly : Orderly state) (found : state.tunnels[n]? = some t) (runs : t.alive = true)
    (stored : t.stored = true) (free : ¬Doomed state n t) : Endable state cluster userID n := by
  obtain ⟨p, entry, -, rfl⟩ := orderly.live n t (orderly.last_of_free found runs free) found runs stored free
  exact endable entry found

theorem getLast?_iff : state.tunnels.getLast? = some t ↔ ∃ n, n + 1 = state.tunnels.length ∧ state.tunnels[n]? = some t := by
  rw [List.getLast?_eq_getElem?]
  constructor
  · intro is
    have inside := (List.getElem?_eq_some_iff.mp is).1
    exact ⟨_, by omega, is⟩
  · rintro ⟨n, last, is⟩
    rwa [← last]

theorem Orderly.sound (orderly : Orderly state) : Sound state cluster userID := by
  refine ⟨fun quiescent => ⟨?_, ?_⟩, ?_, ?_, orderly.deleted⟩
  · intro entered
    obtain ⟨p, entry, runs⟩ := (Option.any_eq_true _ _).mp entered
    obtain ⟨n, t, last, found, holds⟩ := orderly.due p entry (of_decide_eq_true runs)
    have resting := quiescent.tunnels t (List.mem_of_getElem? found)
    refine ⟨t, getLast?_iff.mpr ⟨n, last, found⟩, ?_⟩
    rcases (holds (by simp [Tunnel.stored, resting.readiness])).2 with ⟨alive, -⟩ | ⟨snapshot, err, storing⟩ | ⟨snapshot, storing⟩
    · exact alive
    · rcases resting.forwarding with ⟨is, -⟩ | is <;> cases is.symm.trans storing
    · rcases resting.monitor with is | ⟨is, -⟩ | is <;> cases is.symm.trans storing
  · intro ⟨t, is, runs⟩
    obtain ⟨n, last, found⟩ := getLast?_iff.mp is
    obtain ⟨stored, free⟩ := quiescent_free quiescent found runs
    obtain ⟨p, entry, status, -⟩ := orderly.live n t last found runs stored free
    exact (Option.any_eq_true _ _).mpr ⟨p, entry, decide_eq_true status⟩
  · intro quiescent n t found runs
    obtain ⟨stored, free⟩ := quiescent_free quiescent found runs
    exact orderly.entered found runs stored free
  · intro n t found runs stored
    by_cases dooms : Doomed state n t
    · exact .inl dooms
    · exact .inr (orderly.entered found runs stored dooms)

/-- While no step is taken that is not allowed, the entry is right about the tunnels. -/
theorem sound_throughout {events : List (Event id)} (meets : Meets (step cluster userID) Allowed initial events) :
    ∀ before after state, events = before ++ after → run (step cluster userID) initial before = some state →
      Sound state cluster userID := by
  intro before after state split reached
  rw [split] at meets
  exact (invariant Orderly (fun _ _ _ holds allowed taken => orderly_step holds allowed taken) initial_orderly
    (meets_before meets) reached).sound

end

def web : StartRequest "web" := ⟨⟨"web", "default", "web-0", "", "", "80", "8080"⟩, rfl, by decide⟩

/-- A tunnel is started and runs. -/
def startWeb : List (Event "web") :=
  [.start web, .enter 0, .launch, .readiness 0 (.ready ""), .storeReadiness 0, .finishStart]

/-- The tunnel is stopped, and all that it has comes to its end. -/
def stopWeb : List (Event "web") :=
  [.stopOrDelete true, .signal 0, .finish 0, .forwardEnd 0 none, .storeForward 0, .closeForward 0, .endMonitor 0]

/-- The tunnel is deleted, and `ForwardPorts` ends after that. -/
def deleteWeb : List (Event "web") :=
  [.stopOrDelete false, .signal 0, .finish 0, .forwardEnd 0 none, .storeForward 0]

def after (events : List (Event "web")) : State "web" := (run (step "prod" "ann") initial events).getD initial

theorem stopped_sound : Quiescent (after (startWeb ++ stopWeb)) ∧ Sound (after startWeb) "prod" "ann" ∧
    Sound (after (startWeb ++ stopWeb)) "prod" "ann" := by
  have meets : Meets (step "prod" "ann") Allowed (initial : State "web") (startWeb ++ stopWeb) := by decide
  refine ⟨⟨rfl, rfl, ?_, ?_⟩, ?_, ?_⟩
  · intro handler member
    exact List.mem_singleton.mp member
  · intro t member
    cases List.mem_singleton.mp member
    exact ⟨rfl, .inr rfl, .inr (.inr rfl)⟩
  · exact sound_throughout meets startWeb stopWeb _ rfl rfl
  · exact sound_throughout meets (startWeb ++ stopWeb) [] _ rfl rfl

/-- The tunnel that has ended stores an entry after the delete. -/
theorem deleted_entry_returns : ¬∀ (events : List (Event "web")) (state : State "web"),
    run (step "prod" "ann") initial events = some state → Sound state "prod" "ann" := by
  intro throughout
  have sound := throughout (startWeb ++ deleteWeb) (after (startWeb ++ deleteWeb)) rfl
  exact absurd (sound.deleted rfl) (by decide)

end K8Sense.Forwarding.Lifecycle
