import K8Sense.Library.Transition
import K8Sense.Doctor.Handlers
import Mathlib.Data.Int.ConditionallyCompleteOrder
import Mathlib.Data.Int.Interval
import Mathlib.Order.ConditionallyCompleteLattice.Basic

/-! Trials of the product: what they are issued for against what is accepted, and how
often they can be had on one machine. -/

namespace K8Sense.Doctor.Trial
open Licence Api Transition

/-- A trial licence for this machine, of the tier of trials and no longer than one. -/
structure Fits (tools : Tools) (payload : Payload) : Prop where
  machine : payload.customerID = "trial-" ++ tools.machineFingerprint
  tier : payload.tier = .pro
  length : ∃ issued expires, tools.parseDate payload.issuedAt = some issued ∧
    tools.parseDate payload.expiresAt = some expires ∧ expires ≤ issued + trialDays

/-- A file that is well formed, signed with the key of its kind, and not past its
grace period. -/
structure Honoured (tools : Tools) (data : String) (payload : Payload) : Prop where
  readable : tools.readable = true
  signed : ∃ signature, tools.unmarshal data = some ⟨payload, signature⟩ ∧ signature ≠ "" ∧
    tools.decodes signature = true ∧ tools.verifies payload.isTrial payload signature = true
  current : ∃ expires, tools.parseDate payload.expiresAt = some expires ∧ tools.today < expires + graceDays

/-- A trial licence that is honoured here and was not issued for this. -/
def Foreign (tools : Tools) (data : String) : Prop :=
  ∃ payload, Honoured tools data payload ∧ payload.isTrial = true ∧ ¬Fits tools payload

/-- The trial licence in the file, where it is accepted. -/
def acceptedTrials (tools : Tools) (file : Option String) : List Payload :=
  if (validate tools file).valid then ((file.bind tools.unmarshal).map File.payload).toList.filter Payload.isTrial else []

/-- What the tools make of the trial that is issued with them. -/
structure ReadsOwn (tools : Tools) : Prop where
  readable : tools.readable = true
  unmarshal : tools.unmarshal (trialFile tools) = some ⟨trialPayload tools, tools.signTrial (trialPayload tools)⟩
  nonempty : tools.signTrial (trialPayload tools) ≠ ""
  decodes : tools.decodes (tools.signTrial (trialPayload tools)) = true
  verifies : tools.verifies true (trialPayload tools) (tools.signTrial (trialPayload tools)) = true
  issued : tools.parseDate (tools.formatDate tools.today) = some tools.today
  expires : tools.parseDate (tools.formatDate (tools.today + trialDays)) = some (tools.today + trialDays)

structure Host where
  env : Env
  readsOwn : ReadsOwn env.licence

/-- Calls, and starts of the server. -/
inductive Event where
  | startTrial (host : Host)
  | activateLicence (host : Host) (body : Option ActivateRequest)
  | newServer (host : Host)

/-- A server with the trial licences that it has accepted, each with the tools at that
time, and the days on which trials were started. -/
structure Machine where
  server : State
  accepted : List (Tools × Payload)
  started : List Int

/-- The licence is read when the server starts; the scans of the one before are gone. -/
def reopen (env : Env) (state : State) : State :=
  { state with
    active := []
    config := { state.config with licence := validate env.licence state.config.licenceFile } }

/-- The server after its licence has been read. -/
def Machine.read (machine : Machine) (tools : Tools) (next : State) : Machine :=
  { machine with
    server := next
    accepted := machine.accepted ++ (acceptedTrials tools next.config.licenceFile).map (tools, ·) }

def step (machine : Machine) : Event → Option Machine
  | .startTrial host =>
    let result := startTrial host.env machine.server
    some (if result.2.status = 200 then
        { machine.read host.env.licence result.1 with started := machine.started ++ [host.env.licence.today] }
      else { machine with server := result.1 })
  | .activateLicence host body =>
    let result := activateLicence host.env machine.server body
    some (if result.2.status = 200 then machine.read host.env.licence result.1 else { machine with server := result.1 })
  | .newServer host => some (machine.read host.env.licence (reopen host.env machine.server))

/-- The number of days from the starts of trials to their ends. -/
noncomputable def covered (started : List Int) : Nat :=
  (started.toFinset.biUnion fun day => Finset.Ico day (day + trialDays)).card

/-- No trial but one, which is for this machine. -/
structure Sound (machine : Machine) : Prop where
  accepted : ∀ pair ∈ machine.accepted, Fits pair.1 pair.2
  total : covered machine.started ≤ trialDays

/-- The contents that a call would put in the place of the licence. -/
structure Installs (env : Env) (body : Option ActivateRequest) (data : String) : Prop where
  content : ∃ req, body = some req ∧ licenceContent env req = .ok data
  directory : env.files .licenceDirectory = none
  stage : env.files .licenceStage = none
  rename : env.files .licenceRename = none

/-- Nothing keeps a trial from being started. -/
structure Opens (env : Env) (state : State) : Prop where
  inactive : state.config.licence.valid = false
  unmarked : state.config.trialUsed = none
  written : env.files .trial = none

/-- No trial is started on another day than one before, and no trial licence installed
or found that was issued for something else. -/
def Permitted (machine : Machine) : Event → Prop
  | .startTrial host => Opens host.env machine.server → ∀ day ∈ machine.started, day = host.env.licence.today
  | .activateLicence host body => ∀ data, Installs host.env body data → ¬Foreign host.env.licence data
  | .newServer host => ∀ data, machine.server.config.licenceFile = some data → ¬Foreign host.env.licence data

variable {tools : Tools} {env : Env} {state : State} {machine : Machine}

/-! Acceptance. -/

theorem evaluateExpiry_valid_iff (payload : Payload) :
    (∃ info, evaluateExpiry tools payload = .ok info ∧ info.valid = true) ↔
      ∃ expires, tools.parseDate payload.expiresAt = some expires ∧ tools.today < expires + graceDays := by
  constructor
  · intro ⟨info, evaluated, valid⟩
    obtain ⟨expires, dated, current, _⟩ := evaluateExpiry_valid evaluated valid
    exact ⟨expires, dated, current⟩
  · intro ⟨expires, dated, current⟩
    unfold evaluateExpiry
    rw [dated]
    dsimp only
    split
    next => exact ⟨_, rfl, rfl⟩
    next => exact ⟨_, rfl, rfl⟩

theorem validate_valid_iff (data : String) :
    (validate tools (some data)).valid = true ↔ ∃ payload, Honoured tools data payload := by
  constructor
  · intro valid
    unfold validate at valid
    dsimp only at valid
    split at valid
    next => cases valid
    next readable =>
      have read : tools.readable = true := by simpa using readable
      unfold verify parseFile at valid
      cases found : tools.unmarshal data with
      | none => simp [found, freeInfo] at valid
      | some file =>
        by_cases empty : file.signature = ""
        · simp [found, empty, freeInfo] at valid
        · by_cases decoded : tools.decodes file.signature = true
          · by_cases signed : tools.verifies file.payload.isTrial file.payload file.signature = true
            · cases evaluated : evaluateExpiry tools file.payload with
              | error err => simp [found, empty, decoded, signed, evaluated, freeInfo] at valid
              | ok info =>
                simp only [found, empty, decoded, signed, evaluated, if_false, Bool.not_true, Bool.false_eq_true] at valid
                exact ⟨file.payload, read, ⟨file.signature, found, empty, decoded, signed⟩,
                  (evaluateExpiry_valid_iff _).mp ⟨info, evaluated, valid⟩⟩
            · simp [found, empty, decoded, signed, freeInfo] at valid
          · simp [found, empty, decoded, freeInfo] at valid
  · intro accepted
    obtain ⟨payload, honoured⟩ := accepted
    obtain ⟨signature, found, empty, decoded, signed⟩ := honoured.signed
    obtain ⟨info, evaluated, valid⟩ := (evaluateExpiry_valid_iff payload).mpr honoured.current
    simp [validate, verify, parseFile, honoured.readable, found, empty, decoded, signed, evaluated, valid]

theorem mem_acceptedTrials {file : Option String} {payload : Payload} : payload ∈ acceptedTrials tools file ↔
    ∃ data, file = some data ∧ Honoured tools data payload ∧ payload.isTrial = true := by
  cases file with
  | none => simp [acceptedTrials]
  | some data =>
    have same {other : Payload} (honoured : Honoured tools data other) : (tools.unmarshal data).map File.payload = some other := by
      obtain ⟨signature, found, _⟩ := honoured.signed
      rw [found, Option.map_some]
    rw [acceptedTrials]
    constructor
    · intro member
      split at member
      next valid =>
        obtain ⟨other, honoured⟩ := (validate_valid_iff data).mp valid
        rw [Option.bind_some, same honoured] at member
        obtain ⟨listed, trial⟩ := List.mem_filter.mp member
        obtain rfl : payload = other := by simpa using listed
        exact ⟨data, rfl, honoured, trial⟩
      next => cases member
    · intro ⟨_, equal, honoured, trial⟩
      cases equal
      rw [if_pos ((validate_valid_iff data).mpr ⟨payload, honoured⟩), Option.bind_some, same honoured]
      simp [trial]

/-- The trial licences that are accepted from a file are as they are to be exactly
where it holds none that was issued for something else. -/
theorem accepted_fit_iff (data : String) :
    (∀ payload ∈ acceptedTrials tools (some data), Fits tools payload) ↔ ¬Foreign tools data := by
  simp only [mem_acceptedTrials, Option.some.injEq]
  constructor
  · intro every ⟨payload, honoured, trial, unfit⟩
    exact unfit (every payload ⟨data, rfl, honoured, trial⟩)
  · intro domestic payload ⟨_, equal, honoured, trial⟩
    cases equal
    by_contra unfit
    exact domestic ⟨payload, honoured, trial, unfit⟩

/-! The trial that is issued. -/

theorem ReadsOwn.honoured (own : ReadsOwn tools) : Honoured tools (trialFile tools) (trialPayload tools) := by
  refine ⟨own.readable, ⟨_, own.unmarshal, own.nonempty, own.decodes, own.verifies⟩, _, own.expires, ?_⟩
  unfold trialDays graceDays
  omega

theorem ReadsOwn.fits (own : ReadsOwn tools) : Fits tools (trialPayload tools) :=
  ⟨rfl, rfl, _, _, own.issued, own.expires, le_refl _⟩

theorem ReadsOwn.domestic (own : ReadsOwn tools) : ¬Foreign tools (trialFile tools) := by
  intro ⟨payload, honoured, _, unfit⟩
  obtain ⟨_, found, _⟩ := honoured.signed
  rw [own.unmarshal] at found
  cases found
  exact unfit own.fits

theorem ReadsOwn.verify (own : ReadsOwn tools) : ∃ info, Licence.verify tools (trialFile tools) = .ok info := by
  obtain ⟨info, evaluated, _⟩ := (evaluateExpiry_valid_iff (trialPayload tools)).mpr own.honoured.current
  refine ⟨info, ?_⟩
  have trial : (trialPayload tools).isTrial = true := rfl
  simp [Licence.verify, parseFile, own.unmarshal, own.nonempty, own.decodes, trial, own.verifies, evaluated]

theorem startTrial_opens (own : ReadsOwn env.licence) (opens : Opens env state) :
    (startTrial env state).2.status = 200 ∧
      (startTrial env state).1.config.licenceFile = some (trialFile env.licence) := by
  obtain ⟨info, verified⟩ := own.verify
  simp [startTrial, opens.inactive, opens.unmarked, generateTrial, opens.written, verified, State.setLicence, licenceJSON,
    writeJSON]

theorem startTrial_refused (closed : ¬Opens env state) : (startTrial env state).2.status ≠ 200 := by
  unfold startTrial
  split
  next => simp
  next inactive =>
    split
    next => simp
    next unmarked =>
      cases written : env.files .trial with
      | some err => simp [generateTrial]
      | none => exact absurd ⟨by simpa using inactive, by simpa using unmarked, written⟩ closed

/-! The licence that is activated. -/

theorem checkActivation_ok {body : Option ActivateRequest} {data : String} : checkActivation env body = .ok data ↔
    Installs env body data ∧ (validate env.licence (some data)).valid = true := by
  constructor
  · intro checked
    unfold checkActivation at checked
    split at checked
    next => cases checked
    next req =>
      split at checked
      next => cases checked
      next content found =>
        split at checked
        next => cases checked
        next directory =>
          split at checked
          next => cases checked
          next stage =>
            split at checked
            next => cases checked
            next valid =>
              split at checked
              next => cases checked
              next rename =>
                cases checked
                exact ⟨⟨⟨req, rfl, found⟩, by simpa using directory, by simpa using stage, by simpa using rename⟩,
                  by simpa using valid⟩
  · intro ⟨⟨⟨req, same, found⟩, directory, stage, rename⟩, valid⟩
    simp [checkActivation, same, found, directory, stage, rename, valid]

theorem licenceContent_error {req : ActivateRequest} {response : Response}
    (failed : licenceContent env req = .error response) : response.status ≠ 200 := by
  unfold licenceContent at failed
  repeat' split at failed
  all_goals cases failed
  all_goals simp

theorem checkActivation_error {body : Option ActivateRequest} {response : Response}
    (failed : checkActivation env body = .error response) : response.status ≠ 200 := by
  unfold checkActivation at failed
  split at failed
  next => cases failed; simp
  next req =>
    split at failed
    next other content =>
      cases failed
      exact licenceContent_error content
    next =>
      repeat' split at failed
      all_goals cases failed
      all_goals simp

/-! The days that are covered. -/

theorem covered_le_iff (started : List Int) :
    covered started ≤ trialDays ↔ ∀ day ∈ started, ∀ other ∈ started, day = other := by
  constructor
  · intro few day member other listed
    by_contra apart
    wlog before : day < other generalizing day other
    · exact this other listed day member (fun same => apart same.symm) (by omega)
    have inside : insert (other + trialDays - 1) (Finset.Ico day (day + trialDays)) ⊆
        started.toFinset.biUnion fun day => Finset.Ico day (day + trialDays) := by
      intro moment found
      rw [Finset.mem_biUnion]
      rcases Finset.mem_insert.mp found with rfl | early
      · refine ⟨other, List.mem_toFinset.mpr listed, Finset.mem_Ico.mpr ?_⟩
        unfold trialDays
        omega
      · exact ⟨day, List.mem_toFinset.mpr member, early⟩
    have late : other + trialDays - 1 ∉ Finset.Ico day (day + trialDays) := by
      rw [Finset.mem_Ico]
      omega
    have count := Finset.card_le_card inside
    rw [Finset.card_insert_of_notMem late, Int.card_Ico] at count
    unfold covered trialDays at *
    omega
  · intro same
    cases started with
    | nil => simp [covered, trialDays]
    | cons day rest =>
      have inside : ((day :: rest).toFinset.biUnion fun day => Finset.Ico day (day + trialDays)) ⊆
          Finset.Ico day (day + trialDays) := by
        intro moment found
        obtain ⟨other, listed, covers⟩ := Finset.mem_biUnion.mp found
        rwa [same day List.mem_cons_self other (List.mem_toFinset.mp listed)]
      have count := Finset.card_le_card inside
      rw [Int.card_Ico] at count
      unfold covered trialDays at *
      omega

theorem covered_snoc_iff {started : List Int} {today : Int} :
    covered (started ++ [today]) ≤ trialDays ↔ ∀ day ∈ started, day = today := by
  rw [covered_le_iff]
  constructor
  · intro same day member
    exact same day (List.mem_append_left _ member) today (by simp)
  · intro same day member other listed
    have all : ∀ day ∈ started ++ [today], day = today := by
      intro day member
      rcases List.mem_append.mp member with earlier | last
      · exact same day earlier
      · exact List.mem_singleton.mp last
    rw [all day member, all other listed]

/-! Steps and runs. -/

theorem read_accepted_iff (tools : Tools) (next : State) (fit : ∀ pair ∈ machine.accepted, Fits pair.1 pair.2) :
    (∀ pair ∈ (machine.read tools next).accepted, Fits pair.1 pair.2) ↔
      ∀ data, next.config.licenceFile = some data → ¬Foreign tools data := by
  have new : (∀ pair ∈ (machine.read tools next).accepted, Fits pair.1 pair.2) ↔
      ∀ payload ∈ acceptedTrials tools next.config.licenceFile, Fits tools payload := by
    rw [Machine.read, List.forall_mem_append, List.forall_mem_map]
    exact ⟨fun both => both.2, fun every => ⟨fit, every⟩⟩
  rw [new]
  cases next.config.licenceFile with
  | none => simp [mem_acceptedTrials]
  | some data =>
    rw [accepted_fit_iff]
    exact ⟨fun domestic _ same => by cases same; exact domestic, fun every => every data rfl⟩

theorem step_sound_iff {event : Event} {next : Machine} (sound : Sound machine) (taken : step machine event = some next) :
    Permitted machine event ↔ Sound next := by
  cases event with
  | startTrial host =>
    rw [← Option.some.inj taken]
    dsimp only
    by_cases opens : Opens host.env machine.server
    · obtain ⟨started, file⟩ := startTrial_opens host.readsOwn opens
      rw [if_pos started]
      have fits : ∀ pair ∈ (machine.read host.env.licence (startTrial host.env machine.server).1).accepted,
          Fits pair.1 pair.2 := by
        rw [read_accepted_iff _ _ sound.accepted, file]
        intro data same
        cases same
        exact host.readsOwn.domestic
      constructor
      · exact fun permitted => ⟨fits, covered_snoc_iff.mpr (permitted opens)⟩
      · exact fun after _ => covered_snoc_iff.mp after.total
    · rw [if_neg (startTrial_refused opens)]
      exact ⟨fun _ => ⟨sound.accepted, sound.total⟩, fun _ opened => absurd opened opens⟩
  | activateLicence host body =>
    rw [← Option.some.inj taken]
    cases checked : checkActivation host.env body with
    | error response =>
      have failed : activateLicence host.env machine.server body = (machine.server, response) := by
        rw [activateLicence, checked]
      rw [failed, if_neg (checkActivation_error checked)]
      refine ⟨fun _ => ⟨sound.accepted, sound.total⟩, fun _ data installs foreign => ?_⟩
      obtain ⟨payload, honoured, _⟩ := foreign
      rw [checkActivation_ok.mpr ⟨installs, (validate_valid_iff data).mpr ⟨payload, honoured⟩⟩] at checked
      cases checked
    | ok data =>
      have works : activateLicence host.env machine.server body = (State.setLicence host.env data machine.server,
          licenceJSON (State.setLicence host.env data machine.server).config.licence) := by
        rw [activateLicence, checked]
      have only : ∀ other, Installs host.env body other ↔ other = data := by
        intro other
        obtain ⟨installs, _⟩ := checkActivation_ok.mp checked
        constructor
        · intro again
          obtain ⟨req, present, content⟩ := again.content
          obtain ⟨same, given, found⟩ := installs.content
          rw [present] at given
          cases given
          rw [content] at found
          exact Except.ok.inj found
        · rintro rfl
          exact installs
      have fit := read_accepted_iff host.env.licence (State.setLicence host.env data machine.server) sound.accepted
      have answered : (licenceJSON (State.setLicence host.env data machine.server).config.licence).status = 200 := rfl
      rw [works, if_pos answered]
      have file : (State.setLicence host.env data machine.server).config.licenceFile = some data := rfl
      simp only [file, Option.some.injEq] at fit
      constructor
      · exact fun permitted => ⟨fit.mpr fun other same => permitted other ((only other).mpr same.symm), sound.total⟩
      · exact fun after other installs => fit.mp after.accepted other ((only other).mp installs).symm
  | newServer host =>
    rw [← Option.some.inj taken]
    have fit := read_accepted_iff host.env.licence (reopen host.env machine.server) sound.accepted
    exact ⟨fun permitted => ⟨fit.mpr permitted, sound.total⟩, fun after => fit.mp after.accepted⟩

/-- Tools whose dates are as long as the days before them, for a machine `m`. -/
def plainTools (today : Nat) : Tools where
  unmarshal data := some (if data = "elsewhere" then ⟨⟨"trial-other", "Trial", .enterprise, 20, 1, "", data, true⟩, "s"⟩
    else ⟨⟨"trial-m", "Trial", .pro, 20, 1, String.ofList (data.toList.drop 14), data, true⟩, "s"⟩)
  marshal file := file.payload.expiresAt
  decodes _ := true
  verifies _ _ _ := true
  signTrial _ := "s"
  parseDate text := some text.toList.length
  formatDate day := String.ofList (List.replicate day.toNat 'x')
  today
  machineFingerprint := "m"
  readable := true

theorem plainTools_readsOwn (today : Nat) : ReadsOwn (plainTools today) := by
  have days : ((today : Int) + trialDays).toNat = today + 14 := by
    unfold trialDays
    omega
  refine ⟨rfl, ?_, (by decide : "s" ≠ ""), rfl, rfl, ?_, ?_⟩
  · have file : trialFile (plainTools today) = String.ofList (List.replicate (today + 14) 'x') := by
      rw [← days]
      rfl
    have other : String.ofList (List.replicate (today + 14) 'x') ≠ "elsewhere" := by
      intro same
      have chars := congrArg (fun text => text.toList.headD ' ') same
      simp [List.replicate_succ] at chars
    rw [file]
    simp [plainTools, other, trialPayload, days]
  · simp [plainTools]
  · simp [plainTools, days]
    rfl

/-- A host on whose disk no marker can be written. -/
def plainHost (today : Nat) : Host where
  env := { Env.calm 0 "id" none with
    licence := plainTools today
    files := fun step => if step = .trialMarker then some "no space left on device" else none }
  readsOwn := plainTools_readsOwn today

theorem plainTools_own (today : Nat) {data : String} (here : data ≠ "elsewhere") (length : data.toList.length = 14) :
    ¬Foreign (plainTools today) data := by
  rintro ⟨payload, honoured, -, unfit⟩
  obtain ⟨signature, found, -⟩ := honoured.signed
  simp only [plainTools, if_neg here, Option.some.injEq, File.mk.injEq] at found
  rw [← found.1] at unfit
  refine unfit ⟨rfl, rfl, 0, 14, ?_, ?_, by decide⟩
  · simp [plainTools, length]
  · simp [plainTools, length]

end K8Sense.Doctor.Trial
