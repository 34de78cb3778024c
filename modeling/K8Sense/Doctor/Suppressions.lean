import K8Sense.Library.Transition
import K8Sense.Doctor.Handlers

/-! Suppressing findings and commenting on them: one row for both, looked up by
the parts of an identity and shown by the text that joins them. -/

namespace K8Sense.Doctor.Suppressions
open Api Db Text Transition

def suppressionKey (ruleID «namespace» resourceKind resourceName : String) : String :=
  join '|' [ruleID, «namespace», resourceKind, resourceName]

/-- The joined key of a row, without its cluster. -/
def joined (key : ResourceKey) : String := suppressionKey key.ruleID key.namespace key.resourceKind key.resourceName

section
variable (rows : List ResourceKey) (table : ResourceKey → Option Suppression) (clusterID : String)

/-- The rows of the cluster that have a reason. A query returns rows in some
order. -/
def getSuppressionKeys : List String :=
  (rows.filter fun key => key.clusterID = clusterID && (table key).any fun row => row.reason.isSome).map joined

/-- The comments of the cluster's rows that are not empty. -/
def getComments : List (String × String) :=
  rows.filterMap fun key =>
    if key.clusterID = clusterID then (((table key).bind Suppression.comment).filter (· ≠ "")).map fun comment => (joined key, comment)
    else none

end

/-- A finding with what is shown beside it. -/
structure Shown where
  finding : Finding
  suppressed : Bool
  comment : String
  deriving DecidableEq

/-- Of comments with the same key the last one read counts. -/
def enrich (keys : List String) (comments : List (String × String)) (shown : Shown) : Shown :=
  let key := suppressionKey shown.finding.ruleID shown.finding.namespace shown.finding.resourceKind shown.finding.resourceName
  { shown with
    suppressed := shown.suppressed || keys.contains key
    comment := ((comments.reverse.find? fun entry => entry.1 = key).map Prod.snd).getD shown.comment }

/-- What cannot be looked up is left out. -/
def enrichSuppressions (cluster : String) (keys : Except String (List String)) (comments : Except String (List (String × String)))
    (findings : List Shown) : List Shown :=
  if cluster = "" then findings
  else match keys with
  | .error _ => findings
  | .ok keys =>
    match comments with
    | .error _ => findings
    | .ok comments => findings.map (enrich keys comments)

inductive Op where
  | suppress
  | unsuppress
  | comment
  deriving DecidableEq

/-- A request of a user to one of the three endpoints. -/
structure Event where
  op : Op
  env : Env
  user : Option User
  actor : String
  body : Option SuppressRequest

def Event.handle (event : Event) (server : State) : State × Response :=
  match event.op with
  | .suppress => suppressFinding event.env server event.user event.actor event.body
  | .unsuppress => unsuppressFinding event.env server event.user event.body
  | .comment => commentFinding event.env server event.user event.body

/-- A server with the operations that it has carried out. -/
structure Desk where
  server : State
  done : List (Op × SuppressRequest)

def step (desk : Desk) (event : Event) : Option Desk :=
  let (server, response) := event.handle desk.server
  match event.body with
  | some req => some ⟨server, if response.status = 200 then desk.done ++ [(event.op, req)] else desk.done⟩
  | none => some ⟨server, desk.done⟩

def start (server : State) : Desk := ⟨server, []⟩

/-- The rows that there may be are those of the operations carried out. -/
def Desk.rows (desk : Desk) : List ResourceKey := desk.done.map fun entry => entry.2.key

/-- What is shown for a finding of a cluster. -/
def Desk.shows (desk : Desk) (cluster : String) (finding : Finding) : List Shown :=
  enrichSuppressions cluster (.ok (getSuppressionKeys desk.rows desk.server.config.suppressions cluster))
    (.ok (getComments desk.rows desk.server.config.suppressions cluster)) [⟨finding, false, ""⟩]

def identity (cluster : String) (finding : Finding) : ResourceKey :=
  ⟨cluster, finding.ruleID, finding.namespace, finding.resourceKind, finding.resourceName⟩

/-- The last of the operations on an identity that suppressed it or took that back. -/
def lastToggle (key : ResourceKey) (done : List (Op × SuppressRequest)) : Option Op :=
  ((done.filter fun entry => entry.1 ≠ .comment && entry.2.key = key).getLast?).map Prod.fst

/-- The last comment that was set on an identity. -/
def lastComment (key : ResourceKey) (done : List (Op × SuppressRequest)) : String :=
  (((done.filter fun entry => entry.1 = .comment && entry.2.key = key).getLast?).map fun entry => entry.2.comment).getD ""

theorem lastToggle_snoc {key : ResourceKey} {done : List (Op × SuppressRequest)} {op : Op} {req : SuppressRequest} :
    lastToggle key (done ++ [(op, req)]) =
      if op ≠ .comment ∧ req.key = key then some op else lastToggle key done := by
  rw [lastToggle, lastToggle, List.filter_append]
  by_cases here : op ≠ .comment ∧ req.key = key
  · simp [here]
  · rw [if_neg here, List.filter_cons_of_neg (by simpa using here), List.filter_nil, List.append_nil]

theorem lastComment_snoc {key : ResourceKey} {done : List (Op × SuppressRequest)} {op : Op} {req : SuppressRequest} :
    lastComment key (done ++ [(op, req)]) =
      if op = .comment ∧ req.key = key then req.comment else lastComment key done := by
  rw [lastComment, lastComment, List.filter_append]
  by_cases here : op = .comment ∧ req.key = key
  · simp [here]
  · rw [if_neg here, List.filter_cons_of_neg (by simpa using here), List.filter_nil, List.append_nil]

/-- Every finding is shown as its own operations left it: suppressed when the last
suppression or its reversal was a suppression, and with the last comment. -/
def Faithful (findings : String → List Finding) (desk : Desk) : Prop :=
  ∀ cluster, cluster ≠ "" → ∀ finding ∈ findings cluster, desk.shows cluster finding =
    [⟨finding, lastToggle (identity cluster finding) desk.done = some .suppress, lastComment (identity cluster finding) desk.done⟩]

/-- A row is suppressed when it has a reason. -/
def suppressed (row : Option Suppression) : Bool := row.any fun row => row.reason.isSome

def remark (row : Option Suppression) : String := (row.bind Suppression.comment).getD ""

/-- Of the requests carried out, none takes a suppression back from an identity
with a comment, none suppresses with a comment an identity without a row, and the
joined key of its identity is that of no other finding. -/
def Careful (findings : String → List Finding) (desk : Desk) (event : Event) : Prop :=
  (event.handle desk.server).2.status = 200 → ∀ req, event.body = some req →
    (event.op = .unsuppress → remark (desk.server.config.suppressions req.key) = "") ∧
    (event.op = .suppress → req.comment = "" ∨ (desk.server.config.suppressions req.key).isSome = true) ∧
    ∀ finding ∈ findings req.cluster, joined (identity req.cluster finding) = joined req.key → identity req.cluster finding = req.key

/-- What an operation makes of the table. -/
def Event.effect (event : Event) (req : SuppressRequest) (table : ResourceKey → Option Suppression) :
    ResourceKey → Option Suppression :=
  match event.op with
  | .suppress => addSuppression req.key ⟨nullIfEmpty req.reason,
      nullIfEmpty (if req.suppressedBy = "" then event.actor else req.suppressedBy), event.env.now, nullIfEmpty req.comment⟩ table
  | .unsuppress => removeSuppression req.key table
  | .comment => setComment req.key req.comment event.env.now table

/-- Nothing was carried out. -/
def Refused (server : State) (answer : State × Response) : Prop := answer.1 = server ∧ answer.2.status ≠ 200

section
variable {env : Env} {server : State} {user : Option User} {body : Option SuppressRequest}

theorem checkedSuppression_cases {done : SuppressRequest → State × Response → Prop} {next : SuppressRequest → State × Response}
    (each : ∀ req, Refused server (next req) ∨ done req (next req)) :
    Refused server (checkedSuppression env server user body next) ∨
      ∃ req, body = some req ∧ done req (checkedSuppression env server user body next) := by
  unfold checkedSuppression requireRole
  split
  next =>
    cases body with
    | none => exact Or.inl ⟨rfl, by simp⟩
    | some req =>
      dsimp only
      split
      next => exact Or.inl ⟨rfl, by simp⟩
      next => exact (each req).imp id fun done => ⟨req, rfl, done⟩
  next =>
    have status : roleForbidden.status ≠ 200 := by decide
    exact Or.inl ⟨rfl, status⟩

theorem stored_cases (query : Query) (next : State) :
    Refused server (stored env server query next) ∨ stored env server query next = (next, writeOK) := by
  unfold stored
  split
  next => exact Or.inl ⟨rfl, by simp⟩
  next => exact Or.inr rfl

end

/-- The request had its effect on the table, and only there. -/
def CarriedOut (event : Event) (server : State) (req : SuppressRequest) (answer : State × Response) : Prop :=
  (event.op = .suppress → req.reason ≠ "") ∧
    answer = (server.setSuppressions (event.effect req server.config.suppressions), writeOK)

theorem handle_cases (event : Event) (server : State) : Refused server (event.handle server) ∨
    ∃ req, event.body = some req ∧ CarriedOut event server req (event.handle server) := by
  obtain ⟨op, env, user, actor, body⟩ := event
  cases op with
  | suppress =>
    refine @checkedSuppression_cases env server user body (CarriedOut _ server) _ ?_
    intro req
    split
    next => exact Or.inl ⟨rfl, by simp⟩
    next reasoned => exact (stored_cases _ _).imp id fun stored => ⟨fun _ => reasoned, stored⟩
  | unsuppress =>
    refine @checkedSuppression_cases env server user body (CarriedOut _ server) _ ?_
    intro req
    exact (stored_cases _ _).imp id fun stored => ⟨fun same => (nomatch same), stored⟩
  | comment =>
    refine @checkedSuppression_cases env server user body (CarriedOut _ server) _ ?_
    intro req
    exact (stored_cases _ _).imp id fun stored => ⟨fun same => (nomatch same), stored⟩

theorem step_cases {desk next : Desk} {event : Event} (taken : step desk event = some next) : next = desk ∨
    (event.handle desk.server).2.status = 200 ∧ ∃ req, event.body = some req ∧ (event.op = .suppress → req.reason ≠ "") ∧
      next.server.config.suppressions = event.effect req desk.server.config.suppressions ∧
      next.done = desk.done ++ [(event.op, req)] := by
  unfold step at taken
  rcases handle_cases event desk.server with ⟨same, refused⟩ | ⟨req, given, reasoned, handled⟩
  · left
    generalize event.handle desk.server = answer at taken same refused
    obtain ⟨server, response⟩ := answer
    obtain rfl : server = desk.server := same
    cases body : event.body with
    | none =>
      rw [body] at taken
      exact (Option.some.inj taken).symm
    | some req =>
      rw [body] at taken
      simp only [if_neg refused] at taken
      exact (Option.some.inj taken).symm
  · right
    rw [given, handled] at taken
    obtain rfl := Option.some.inj taken
    exact ⟨by rw [handled]; rfl, req, given, reasoned, rfl, rfl⟩

/-- The rows hold what the operations left. -/
structure Recorded (desk : Desk) : Prop where
  rows : ∀ key, (desk.server.config.suppressions key).isSome = true → key ∈ desk.rows
  toggled : ∀ key, suppressed (desk.server.config.suppressions key) = decide (lastToggle key desk.done = some .suppress)
  commented : ∀ key, remark (desk.server.config.suppressions key) = lastComment key desk.done

theorem effect_other {event : Event} {req : SuppressRequest} {table : ResourceKey → Option Suppression} {key : ResourceKey}
    (other : key ≠ req.key) : event.effect req table key = table key := by
  unfold Event.effect
  cases event.op
  case suppress => exact Function.update_of_ne other _ _
  case unsuppress => exact Function.update_of_ne other _ _
  case comment => exact Function.update_of_ne other _ _

theorem nullIfEmpty_getD (text : String) : (nullIfEmpty text).getD "" = text := by
  unfold nullIfEmpty
  split
  next empty => exact empty.symm
  next => rfl

theorem effect_suppressed {event : Event} {req : SuppressRequest} {table : ResourceKey → Option Suppression}
    (reasoned : event.op = .suppress → req.reason ≠ "") :
    suppressed (event.effect req table req.key) =
      if event.op = .comment then suppressed (table req.key) else decide (event.op = .suppress) := by
  unfold Event.effect
  cases op : event.op
  case suppress =>
    have reason : nullIfEmpty req.reason = some req.reason := if_neg (reasoned op)
    cases old : table req.key <;> simp [addSuppression, suppressed, old, reason]
  case unsuppress => simp [removeSuppression, suppressed]
  case comment => cases old : table req.key <;> simp [setComment, suppressed, old]

theorem effect_remark {event : Event} {req : SuppressRequest} {table : ResourceKey → Option Suppression}
    (reversal : event.op = .unsuppress → remark (table req.key) = "")
    (bare : event.op = .suppress → req.comment = "" ∨ (table req.key).isSome = true) :
    remark (event.effect req table req.key) = if event.op = .comment then req.comment else remark (table req.key) := by
  unfold Event.effect
  cases op : event.op
  case suppress =>
    cases old : table req.key with
    | some row => simp [addSuppression, remark, old]
    | none =>
      have empty : req.comment = "" := by simpa [old] using bare op
      simp [addSuppression, remark, old, empty, nullIfEmpty]
  case unsuppress =>
    rw [reversal op]
    simp [removeSuppression, remark]
  case comment => cases old : table req.key <;> simp [setComment, remark, old, nullIfEmpty_getD]

variable {findings : String → List Finding} {desk next : Desk} {event : Event}

theorem recorded_step (recorded : Recorded desk) (careful : Careful findings desk event) (taken : step desk event = some next) :
    Recorded next := by
  rcases step_cases taken with rfl | ⟨ok, req, given, reasoned, table, done⟩
  · exact recorded
  · obtain ⟨reversal, bare, -⟩ := careful ok req given
    constructor
    case rows =>
      intro key present
      rw [Desk.rows, done, List.map_append, List.mem_append]
      by_cases here : key = req.key
      · exact Or.inr (by simp [here])
      · rw [table, effect_other here] at present
        exact Or.inl (recorded.rows key present)
    case toggled =>
      intro key
      rw [done, lastToggle_snoc, table]
      by_cases here : key = req.key
      · rw [here, effect_suppressed reasoned, recorded.toggled]
        by_cases comments : event.op = .comment <;> simp [comments]
      · have apart : ¬req.key = key := fun same => here same.symm
        rw [effect_other here, recorded.toggled]
        simp [apart]
    case commented =>
      intro key
      rw [done, lastComment_snoc, table]
      by_cases here : key = req.key
      · rw [here, effect_remark reversal bare, recorded.commented]
        simp
      · have apart : ¬req.key = key := fun same => here same.symm
        rw [effect_other here, recorded.commented]
        simp [apart]

/-- The joined keys of the rows tell them from other findings. -/
def Told (findings : String → List Finding) (desk : Desk) : Prop :=
  ∀ key ∈ desk.rows, ∀ finding ∈ findings key.clusterID,
    joined (identity key.clusterID finding) = joined key → identity key.clusterID finding = key

theorem told_step (told : Told findings desk) (careful : Careful findings desk event) (taken : step desk event = some next) :
    Told findings next := by
  rcases step_cases taken with rfl | ⟨ok, req, given, reasoned, table, done⟩
  · exact told
  · intro key member
    rw [Desk.rows, done, List.map_append, List.mem_append] at member
    rcases member with old | new
    · exact told key old
    · obtain rfl : key = req.key := by simpa using new
      exact (careful ok req given).2.2

theorem mem_suppressionKeys {cluster : String} {finding : Finding} (recorded : Recorded desk) (told : Told findings desk)
    (member : finding ∈ findings cluster) :
    joined (identity cluster finding) ∈ getSuppressionKeys desk.rows desk.server.config.suppressions cluster ↔
      suppressed (desk.server.config.suppressions (identity cluster finding)) = true := by
  simp only [getSuppressionKeys, List.mem_map, List.mem_filter, Bool.and_eq_true, decide_eq_true_eq]
  constructor
  · rintro ⟨key, ⟨row, rfl, reason⟩, same⟩
    rw [told key row finding member same.symm]
    exact reason
  · intro reason
    have present : (desk.server.config.suppressions (identity cluster finding)).isSome = true := by
      cases found : desk.server.config.suppressions (identity cluster finding) with
      | none => rw [found] at reason; cases reason
      | some row => rfl
    exact ⟨identity cluster finding, ⟨recorded.rows _ present, rfl, reason⟩, rfl⟩

theorem find_comment {cluster : String} {finding : Finding} (recorded : Recorded desk) (told : Told findings desk)
    (member : finding ∈ findings cluster) :
    (((getComments desk.rows desk.server.config.suppressions cluster).reverse.find? fun entry =>
        entry.1 = joined (identity cluster finding)).map Prod.snd).getD "" =
      remark (desk.server.config.suppressions (identity cluster finding)) := by
  have entries : ∀ entry ∈ getComments desk.rows desk.server.config.suppressions cluster,
      entry.1 = joined (identity cluster finding) →
        entry.2 = remark (desk.server.config.suppressions (identity cluster finding)) := by
    intro entry listed same
    obtain ⟨key, row, made⟩ := List.mem_filterMap.mp listed
    split at made
    next here =>
      obtain ⟨comment, found, rfl⟩ := Option.map_eq_some_iff.mp made
      obtain rfl := here
      rw [told key row finding member same.symm, remark, (Option.filter_eq_some_iff.mp found).1]
      rfl
    next => cases made
  cases found : (getComments desk.rows desk.server.config.suppressions cluster).reverse.find? fun entry =>
      entry.1 = joined (identity cluster finding) with
  | some entry =>
    exact entries entry (List.mem_reverse.mp (List.mem_of_find?_eq_some found)) (by simpa using List.find?_some found)
  | none =>
    cases row : desk.server.config.suppressions (identity cluster finding) with
    | none => rfl
    | some old =>
      cases text : old.comment.filter (· ≠ "") with
      | none => cases comment : old.comment <;> simp_all [remark, Option.filter]
      | some comment =>
        have present : (desk.server.config.suppressions (identity cluster finding)).isSome = true := by rw [row]; rfl
        have listed : (joined (identity cluster finding), comment) ∈
            getComments desk.rows desk.server.config.suppressions cluster := by
          refine List.mem_filterMap.mpr ⟨identity cluster finding, recorded.rows _ present, ?_⟩
          have own : (identity cluster finding).clusterID = cluster := rfl
          rw [if_pos own, row, Option.bind_some, text]
          rfl
        exact absurd (by simp) (List.find?_eq_none.mp found _ (List.mem_reverse.mpr listed))

theorem faithful_of_recorded (recorded : Recorded desk) (told : Told findings desk) : Faithful findings desk := by
  intro cluster named finding member
  have key : suppressionKey finding.ruleID finding.namespace finding.resourceKind finding.resourceName =
    joined (identity cluster finding) := rfl
  have flag : (getSuppressionKeys desk.rows desk.server.config.suppressions cluster).contains (joined (identity cluster finding)) =
      decide (lastToggle (identity cluster finding) desk.done = some .suppress) := by
    rw [← recorded.toggled, Bool.eq_iff_iff, List.contains_iff_mem]
    exact mem_suppressionKeys recorded told member
  rw [Desk.shows, enrichSuppressions, if_neg named, List.map_singleton, enrich, key, flag, find_comment recorded told member,
    recorded.commented, Bool.false_or]

theorem done_other {key : ResourceKey} (taken : step desk event = some next)
    (other : ∀ req, event.body = some req → req.key ≠ key) :
    lastToggle key next.done = lastToggle key desk.done ∧ lastComment key next.done = lastComment key desk.done := by
  rcases step_cases taken with rfl | ⟨_, req, given, _, _, done⟩
  · exact ⟨rfl, rfl⟩
  · rw [done, lastToggle_snoc, lastComment_snoc]
    exact ⟨if_neg fun both => other req given both.2, if_neg fun both => other req given both.2⟩

/-- In every run of careful operations each finding is shown as its own operations
left it, and a further one for another identity changes nothing of that. -/
theorem registers_shown (server : State) (fresh : ∀ key, server.config.suppressions key = none) (findings : String → List Finding)
    (events : List Event) (last : Desk) (careful : Meets step (Careful findings) (start server) events)
    (ran : run step (start server) events = some last) :
    Faithful findings last ∧ ∀ event next, Careful findings last event → step last event = some next →
      ∀ cluster, cluster ≠ "" → ∀ finding ∈ findings cluster,
        (∀ req, event.body = some req → req.key ≠ identity cluster finding) →
          next.shows cluster finding = last.shows cluster finding := by
  have kept : Recorded last ∧ Told findings last := by
    refine invariant (fun desk => Recorded desk ∧ Told findings desk) ?_ ?_ careful ran
    · intro desk event next ⟨recorded, told⟩ allowed taken
      exact ⟨recorded_step recorded allowed taken, told_step told allowed taken⟩
    · refine ⟨⟨?_, ?_, ?_⟩, ?_⟩
      · intro key present
        rw [start, fresh key] at present
        cases present
      · intro key
        rw [start, fresh key]
        rfl
      · intro key
        rw [start, fresh key]
        rfl
      · exact fun key member => absurd member List.not_mem_nil
  have faithful : Faithful findings last := faithful_of_recorded kept.1 kept.2
  refine ⟨faithful, ?_⟩
  intro event next allowed taken cluster named finding member other
  have after : Faithful findings next :=
    faithful_of_recorded (recorded_step kept.1 allowed taken) (told_step kept.2 allowed taken)
  obtain ⟨toggle, comment⟩ := done_other taken other
  rw [faithful cluster named finding member, after cluster named finding member, toggle, comment]

private def crashing (pod : String) : Finding :=
  ⟨"f1", "s1", "POD-001", "Pod crash loop", severityCritical, "pods", "shop", "Pod", pod, "", "", [], "", 0, false, "", ""⟩

private def byAdmin (pod : String) (op : Op) (reason comment : String) : Event where
  op := op
  env := Env.calm 1 "id" none
  user := some ⟨"u1", "ada", .admin, false, 0⟩
  actor := ""
  body := some ⟨"prod", "POD-001", "shop", "Pod", pod, reason, comment, ""⟩

private def pods : List String := ["web-1", "web-2"]

private theorem byAdmin_careful {desk : Desk} {pod reason comment : String} {op : Op} (named : pod ∈ pods)
    (bare : op = .unsuppress → remark (desk.server.config.suppressions ⟨"prod", "POD-001", "shop", "Pod", pod⟩) = "")
    (silent : op = .suppress → comment = "") : Careful (fun _ => pods.map crashing) desk (byAdmin pod op reason comment) := by
  intro _ req given
  obtain rfl := Option.some.inj given
  have apart : ∀ pod ∈ pods, ∀ finding ∈ pods.map crashing, joined (identity "prod" finding) = joined ⟨"prod", "POD-001", "shop", "Pod", pod⟩ →
      identity "prod" finding = ⟨"prod", "POD-001", "shop", "Pod", pod⟩ := by decide
  exact ⟨bare, fun same => .inl (silent same), apart pod named⟩

private def shift : List Event :=
  [byAdmin "web-1" .suppress "known" "", byAdmin "web-2" .suppress "noisy" "", byAdmin "web-1" .unsuppress "" "",
    byAdmin "web-2" .comment "" "owner asked", byAdmin "web-1" .comment "" "fixed"]

/-- One pod is suppressed and given back, the other suppressed and commented on. -/
theorem registers_shown_pods : ∃ last, run step (start State.empty) shift = some last ∧ Faithful (fun _ => pods.map crashing) last ∧
    (pods.map crashing).flatMap (last.shows "prod") =
      [⟨crashing "web-1", false, "fixed"⟩, ⟨crashing "web-2", true, "owner asked"⟩] := by
  refine ⟨_, rfl, (registers_shown State.empty (fun _ => rfl) (fun _ => pods.map crashing) shift _ ?_ rfl).1, by decide⟩
  refine ⟨byAdmin_careful ?_ ?_ ?_, byAdmin_careful ?_ ?_ ?_, byAdmin_careful ?_ ?_ ?_, byAdmin_careful ?_ ?_ ?_,
    byAdmin_careful ?_ ?_ ?_, trivial⟩ <;> decide

/-- The comment is gone when the suppression is taken back. -/
theorem comment_lost : ∃ last,
    run step (start State.empty) [byAdmin "web-1" .suppress "known" "", byAdmin "web-1" .comment "" "owner asked", byAdmin "web-1" .unsuppress "" ""] =
      some last ∧ ¬Faithful (fun _ => [crashing "web-1"]) last := by
  refine ⟨_, rfl, ?_⟩
  intro faithful
  have shown := faithful "prod" (by decide) (crashing "web-1") List.mem_cons_self
  revert shown
  decide

end K8Sense.Doctor.Suppressions
