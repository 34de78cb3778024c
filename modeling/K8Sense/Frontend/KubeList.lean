import K8Sense.Library.Distinct
import K8Sense.Library.Double
import K8Sense.Library.Transition

/-! The watched lists of the frontend. A list is folded with the events of its watch,
which can be delivered again after a reconnect. Whether an event is new is read from
resource versions alone, so what counts is that the version of the list is never lost. -/

namespace K8Sense.Frontend
open Transition Distinct

universe u
variable {α : Type u}

structure Metadata where
  uid : Option String
  resourceVersion : Option String
deriving DecidableEq

/-- An object of the API server, with what is not in its metadata as its content. -/
structure KubeObject (α : Type u) where
  metadata : Metadata
  content : α
deriving DecidableEq

/-- The type of an update. A `bookmark` is one of those that the frontend does not know. -/
inductive UpdateType where
  | added
  | modified
  | deleted
  | error
  | bookmark
deriving DecidableEq

structure KubeListUpdateEvent (α : Type u) where
  type : UpdateType
  object : KubeObject α

structure KubeList (α : Type u) where
  resourceVersion : Option String
  items : List (KubeObject α)
deriving DecidableEq

def KubeObject.uid (item : KubeObject α) : Option String := item.metadata.uid

/-- Both versions are there, and the one of the update is read as a number that is not
greater than the one of the list. Nothing compares with what is no number. -/
def outdated (known version : Option String) : Bool :=
  match known, version with
  | some known, some version => known ≠ "" && version ≠ "" &&
    match Double.parseInt version, Double.parseInt known with
    | some version, some known => decide (version ≤ known)
    | _, _ => false
  | _, _ => false

def KubeList.applyUpdate (list : KubeList α) (update : KubeListUpdateEvent α) : KubeList α :=
  if outdated list.resourceVersion update.object.metadata.resourceVersion then list
  else
    let index := list.items.findIdx? fun item => item.uid = update.object.uid
    { resourceVersion := update.object.metadata.resourceVersion
      items := match update.type with
        | .added | .modified =>
          match index with
          | some index => list.items.set index update.object
          | none => list.items ++ [update.object]
        | .deleted =>
          match index with
          | some index => list.items.eraseIdx index
          | none => list.items
        | .error | .bookmark => list.items }

/-! The watch. -/

/-- An event that the server records, with the version of the change. A bookmark only
tells how far the server has come. -/
inductive Event (α : Type u) where
  | added (uid : String) (version : Nat) (content : α)
  | modified (uid : String) (version : Nat) (content : α)
  | deleted (uid : String) (version : Nat) (content : α)
  | bookmark (version : Nat) (content : α)

def Event.version : Event α → Nat
  | .added _ version _ | .modified _ version _ | .deleted _ version _ | .bookmark version _ => version

def Event.isBookmark : Event α → Bool
  | .bookmark _ _ => true
  | _ => false

/-- The object that an event puts into the list. -/
def Event.puts : Event α → Option String
  | .added uid _ _ | .modified uid _ _ => some uid
  | _ => none

def object (uid : String) (version : Nat) (content : α) : KubeObject α :=
  ⟨⟨some uid, some (toString version)⟩, content⟩

def Event.update : Event α → KubeListUpdateEvent α
  | .added uid version content => ⟨.added, object uid version content⟩
  | .modified uid version content => ⟨.modified, object uid version content⟩
  | .deleted uid version content => ⟨.deleted, object uid version content⟩
  | .bookmark version content => ⟨.bookmark, ⟨⟨none, some (toString version)⟩, content⟩⟩

/-- The events come in the order of their versions, and no two changes have the same. -/
def Ordered (stream : List (Event α)) : Prop :=
  stream.Pairwise fun event later => event.version < later.version ∨ event.version = later.version ∧ later.isBookmark

/-- What a watch delivers: the event after those delivered before, one of those once more,
or an error, which comes with a status and is not recorded. -/
inductive Message (α : Type u) where
  | next
  | again (position : Nat)
  | error (status : KubeObject α)

structure Watch (α : Type u) where
  list : KubeList α
  /-- How many events of the stream have been delivered. -/
  taken : Nat
deriving DecidableEq

def Watch.receive (watch : Watch α) (update : KubeListUpdateEvent α) : Watch α :=
  { watch with list := watch.list.applyUpdate update }

def watching (stream : List (Event α)) (watch : Watch α) : Message α → Option (Watch α)
  | .next => (stream[watch.taken]?).map fun event => { watch.receive event.update with taken := watch.taken + 1 }
  | .again position => if position < watch.taken then (stream[position]?).map fun event => watch.receive event.update else none
  | .error status => some (watch.receive ⟨.error, status⟩)

/-! What the list is meant to be: the events newer than the list it began with, each
applied once in the order of their versions. -/

def Event.effect (items : List (KubeObject α)) : Event α → List (KubeObject α)
  | .added uid version content | .modified uid version content => put KubeObject.uid (object uid version content) items
  | .deleted uid _ _ => without KubeObject.uid (some uid) items
  | .bookmark _ _ => items

def newest (start : Nat) (events : List (Event α)) : Nat := events.foldl (fun version event => max version event.version) start

def reference (list : KubeList α) (start : Nat) (events : List (Event α)) : KubeList α where
  resourceVersion := some (toString (newest start events))
  items := (events.filter (start < ·.version)).foldl Event.effect list.items

structure Listed (list : KubeList α) (start : Nat) : Prop where
  version : list.resourceVersion = some (toString start)
  unique : (list.items.map KubeObject.uid).Nodup

/-- The fold is that of the distinct events, whatever has been delivered again. -/
structure Folded (stream : List (Event α)) (list : KubeList α) (start : Nat) (messages : List (Message α)) : Prop where
  same : ∀ before after watch, messages = before ++ after → run (watching stream) ⟨list, 0⟩ before = some watch →
    watch.list = reference list start (stream.take watch.taken)
  unique : ∀ before after watch, messages = before ++ after → run (watching stream) ⟨list, 0⟩ before = some watch →
    (watch.list.items.map KubeObject.uid).Nodup
  /-- What a newer event has deleted is not listed before an event puts it into the list. -/
  deleted : ∀ before after watch, messages = before ++ after → run (watching stream) ⟨list, 0⟩ before = some watch →
    ∀ position uid version content, position < watch.taken → stream[position]? = some (.deleted uid version content) →
      start < version → (∀ later event, position < later → later < watch.taken → stream[later]? = some event →
        event.puts ≠ some uid) → some uid ∉ watch.list.items.map KubeObject.uid
  stale : ∀ before after watch message next position event known, messages = before ++ message :: after →
    run (watching stream) ⟨list, 0⟩ before = some watch → watching stream watch message = some next →
      (message = .next ∧ position = watch.taken ∨ message = .again position) → stream[position]? = some event →
      watch.list.resourceVersion = some (toString known) → event.version ≤ known → next.list = watch.list
  error : ∀ before after watch status next, messages = before ++ .error status :: after →
    run (watching stream) ⟨list, 0⟩ before = some watch → watching stream watch (.error status) = some next →
      next.list = watch.list
  rising : ∀ before after watch message next, messages = before ++ message :: after →
    run (watching stream) ⟨list, 0⟩ before = some watch → watching stream watch message = some next →
      ∃ known version : Nat, watch.list.resourceVersion = some (toString known) ∧
        next.list.resourceVersion = some (toString version) ∧ known ≤ version

/-- An error has a version that is not newer than the events before it, and the version of
an event that is newer is greater as a double, too. -/
def Clean (stream : List (Event α)) (start : Nat) (watch : Watch α) : Message α → Prop
  | .next => ∀ event, stream[watch.taken]? = some event → newest start (stream.take watch.taken) < event.version →
    Double.ofNat (newest start (stream.take watch.taken)) < Double.ofNat event.version
  | .again _ => True
  | .error status => outdated (some (toString (newest start (stream.take watch.taken)))) status.metadata.resourceVersion = true

/-! What an update does. -/

theorem toString_nonempty (number : Nat) : toString number ≠ "" := by
  intro empty
  have digits : Nat.toDigits 10 number = [] := by
    rw [← Nat.toList_repr, ← Nat.toString_eq_repr, empty]
    rfl
  exact Nat.toDigits_ne_nil digits

@[simp] theorem outdated_toString (known version : Nat) :
    outdated (some (toString known)) (some (toString version)) = decide (Double.ofNat version ≤ Double.ofNat known) := by
  simp [outdated, toString_nonempty, -Nat.toString_eq_repr]

theorem version_changes {known : Nat} {version : Option String} (new : outdated (some (toString known)) version = false) :
    version ≠ some (toString known) := by
  intro same
  rw [same, outdated_toString] at new
  simp at new

theorem applyUpdate_outdated {list : KubeList α} {update : KubeListUpdateEvent α}
    (old : outdated list.resourceVersion update.object.metadata.resourceVersion = true) : list.applyUpdate update = list := by
  rw [KubeList.applyUpdate, if_pos old]

@[simp] theorem update_version (event : Event α) :
    event.update.object.metadata.resourceVersion = some (toString event.version) := by
  cases event <;> rfl

theorem applyUpdate_new {list : KubeList α} {event : Event α} (unique : (list.items.map KubeObject.uid).Nodup)
    (new : outdated list.resourceVersion (some (toString event.version)) = false) :
    list.applyUpdate event.update = ⟨some (toString event.version), event.effect list.items⟩ := by
  rw [KubeList.applyUpdate, update_version, if_neg (ne_true_of_eq_false new)]
  cases event with
  | added uid version content =>
    simp only [Event.update, Event.effect, Event.version]
    split
    next index found => rw [put_set unique found]
    next missing => rw [put_append missing]
  | modified uid version content =>
    simp only [Event.update, Event.effect, Event.version]
    split
    next index found => rw [put_set unique found]
    next missing => rw [put_append missing]
  | deleted uid version content =>
    have own : (object uid version content).uid = some uid := rfl
    simp only [Event.update, Event.effect, Event.version, own]
    split
    next index found => rw [without_eraseIdx unique found]
    next missing => rw [without_absent (findIdx_none missing)]
  | bookmark version content => rfl

/-! The reference. -/

variable {stream : List (Event α)} {list : KubeList α} {start : Nat}

theorem newest_snoc (events : List (Event α)) (event : Event α) :
    newest start (events ++ [event]) = max (newest start events) event.version := by
  simp [newest]

theorem start_le_newest (events : List (Event α)) : start ≤ newest start events := by
  induction events using List.reverseRecOn with
  | nil => exact Nat.le_refl start
  | append_singleton events event ih =>
    rw [newest_snoc]
    omega

theorem version_le_newest {events : List (Event α)} {event : Event α} (member : event ∈ events) :
    event.version ≤ newest start events := by
  induction events using List.reverseRecOn with
  | nil => cases member
  | append_singleton events last ih =>
    rw [newest_snoc]
    rcases List.mem_append.mp member with earlier | final
    · have := ih earlier
      omega
    · rw [List.mem_singleton.mp final]
      omega

theorem newest_from (start : Nat) (events : List (Event α)) :
    newest start events = start ∨ ∃ event ∈ events, newest start events = event.version := by
  induction events using List.reverseRecOn with
  | nil => exact .inl rfl
  | append_singleton events last ih =>
    rw [newest_snoc]
    rcases Nat.le_total last.version (newest start events) with old | new
    · rw [Nat.max_eq_left old]
      refine ih.imp id ?_
      rintro ⟨event, member, is⟩
      exact ⟨event, List.mem_append_left _ member, is⟩
    · rw [Nat.max_eq_right new]
      exact .inr ⟨last, by simp, rfl⟩

theorem effect_nodup {items : List (KubeObject α)} (unique : (items.map KubeObject.uid).Nodup) (event : Event α) :
    ((event.effect items).map KubeObject.uid).Nodup := by
  cases event with
  | added uid version content => exact put_nodup unique
  | modified uid version content => exact put_nodup unique
  | deleted uid version content => exact without_nodup unique
  | bookmark version content => exact unique

theorem effects_nodup {items : List (KubeObject α)} (unique : (items.map KubeObject.uid).Nodup) (events : List (Event α)) :
    ((events.foldl Event.effect items).map KubeObject.uid).Nodup := by
  induction events generalizing items with
  | nil => exact unique
  | cons event rest ih => exact ih (effect_nodup unique event)

theorem effects_absent {items : List (KubeObject α)} {uid : String} (absent : some uid ∉ items.map KubeObject.uid)
    {events : List (Event α)} (never : ∀ event ∈ events, event.puts ≠ some uid) :
    some uid ∉ (events.foldl Event.effect items).map KubeObject.uid := by
  induction events generalizing items with
  | nil => exact absent
  | cons event rest ih =>
    refine ih ?_ fun other member => never other (List.mem_cons_of_mem event member)
    have other : event.puts ≠ some uid := never event List.mem_cons_self
    cases event with
    | added put version content =>
      rw [Event.effect, mem_put_keys]
      rintro (listed | same)
      · exact absent listed
      · exact other same.symm
    | modified put version content =>
      rw [Event.effect, mem_put_keys]
      rintro (listed | same)
      · exact absent listed
      · exact other same.symm
    | deleted gone version content =>
      rw [Event.effect, mem_without_keys]
      exact fun listed => absent listed.1
    | bookmark version content => exact absent

theorem reference_nodup (listed : Listed list start) (events : List (Event α)) :
    ((reference list start events).items.map KubeObject.uid).Nodup :=
  effects_nodup listed.unique _

theorem reference_deleted {before after : List (Event α)} {uid : String} {version : Nat} {content : α} (new : start < version)
    (never : ∀ event ∈ after, event.puts ≠ some uid) :
    some uid ∉ (reference list start (before ++ .deleted uid version content :: after)).items.map KubeObject.uid := by
  have counts : decide (start < (Event.deleted uid version content).version) = true := decide_eq_true new
  rw [reference, List.filter_append, List.filter_cons, if_pos counts, List.foldl_append, List.foldl_cons]
  refine effects_absent ?_ fun event member => never event (List.mem_of_mem_filter member)
  rw [Event.effect, mem_without_keys]
  exact fun listed => listed.2 rfl

theorem reference_known {events : List (Event α)} {event : Event α} (ordered : Ordered (events ++ [event]))
    (known : event.version ≤ newest start events) :
    reference list start (events ++ [event]) = reference list start events := by
  have version : newest start (events ++ [event]) = newest start events := by
    rw [newest_snoc]
    omega
  by_cases new : start < event.version
  · have bookmark : event.isBookmark = true := by
      rcases newest_from start events with is | ⟨last, member, is⟩
      · omega
      · rcases (List.pairwise_append.mp ordered).2.2 last member event List.mem_cons_self with earlier | same
        · omega
        · exact same.2
    cases event with
    | bookmark at_ content =>
      have counts : decide (start < (Event.bookmark at_ content).version) = true := decide_eq_true new
      rw [reference, reference, version, List.filter_append, List.filter_cons, if_pos counts, List.foldl_append]
      rfl
    | added uid at_ content => cases bookmark
    | modified uid at_ content => cases bookmark
    | deleted uid at_ content => cases bookmark
  · have ignored : ¬decide (start < event.version) = true := by simpa using new
    rw [reference, reference, version, List.filter_append, List.filter_cons, if_neg ignored, List.filter_nil, List.append_nil]

theorem reference_new {events : List (Event α)} {event : Event α} (new : newest start events < event.version) :
    reference list start (events ++ [event]) =
      ⟨some (toString event.version), event.effect (reference list start events).items⟩ := by
  have after : start < event.version := Nat.lt_of_le_of_lt (start_le_newest events) new
  have version : newest start (events ++ [event]) = event.version := by
    rw [newest_snoc]
    omega
  have counts : decide (start < event.version) = true := decide_eq_true after
  rw [reference, version, List.filter_append, List.filter_cons, if_pos counts, List.foldl_append]
  rfl

/-! One message. -/

/-- An event is applied as the reference does exactly when its version, if it is newer, is
greater as a double. -/
theorem next_right (listed : Listed list start) {events : List (Event α)} {event : Event α}
    (ordered : Ordered (events ++ [event])) :
    (reference list start events).applyUpdate event.update = reference list start (events ++ [event]) ↔
      (newest start events < event.version → Double.ofNat (newest start events) < Double.ofNat event.version) := by
  by_cases new : newest start events < event.version
  · rw [reference_new new]
    by_cases greater : Double.ofNat (newest start events) < Double.ofNat event.version
    · have fresh : outdated (reference list start events).resourceVersion (some (toString event.version)) = false := by
        rw [reference, outdated_toString]
        exact decide_eq_false (Nat.not_le_of_lt greater)
      rw [applyUpdate_new (reference_nodup listed events) fresh]
      exact ⟨fun _ _ => greater, fun _ => rfl⟩
    · have old : outdated (reference list start events).resourceVersion event.update.object.metadata.resourceVersion = true := by
        rw [update_version, reference, outdated_toString]
        exact decide_eq_true (Nat.le_of_not_lt greater)
      rw [applyUpdate_outdated old]
      refine ⟨fun same => ?_, fun holds => absurd (holds new) greater⟩
      have versions : toString (newest start events) = toString event.version :=
        Option.some.inj (congrArg KubeList.resourceVersion same)
      have := Text.toString_injective versions
      omega
  · have known : event.version ≤ newest start events := Nat.le_of_not_lt new
    have old : outdated (reference list start events).resourceVersion event.update.object.metadata.resourceVersion = true := by
      rw [update_version, reference, outdated_toString]
      exact decide_eq_true (Double.ofNat_mono known)
    rw [applyUpdate_outdated old, reference_known ordered known]
    exact ⟨fun _ later => absurd later new, fun _ => rfl⟩

theorem again_right {events : List (Event α)} {event : Event α} (member : event ∈ events) :
    (reference list start events).applyUpdate event.update = reference list start events := by
  apply applyUpdate_outdated
  rw [update_version, reference, outdated_toString]
  exact decide_eq_true (Double.ofNat_mono (version_le_newest member))

theorem error_right (events : List (Event α)) (status : KubeObject α) :
    (reference list start events).applyUpdate ⟨.error, status⟩ = reference list start events ↔
      outdated (some (toString (newest start events))) status.metadata.resourceVersion = true := by
  constructor
  · intro same
    by_contra fresh
    have new : outdated (some (toString (newest start events))) status.metadata.resourceVersion = false := by simpa using fresh
    apply version_changes new
    have version := congrArg KubeList.resourceVersion same
    rw [KubeList.applyUpdate, if_neg (by simpa [reference] using new)] at version
    exact version
  · exact fun old => applyUpdate_outdated old

/-! The watch. -/

/-- What is in the list is what the events delivered so far make of it. -/
def Right (stream : List (Event α)) (list : KubeList α) (start : Nat) (watch : Watch α) : Prop :=
  watch.list = reference list start (stream.take watch.taken)

theorem take_next {taken : Nat} {event : Event α} (found : stream[taken]? = some event) :
    stream.take (taken + 1) = stream.take taken ++ [event] := by
  rw [List.take_add_one, found, Option.toList_some]

theorem mem_take {position taken : Nat} {event : Event α} (found : stream[position]? = some event) (before : position < taken) :
    event ∈ stream.take taken :=
  List.mem_of_getElem? (by rw [List.getElem?_take_of_lt before, found])

theorem watching_right (ordered : Ordered stream) (listed : Listed list start) {watch next : Watch α} {message : Message α}
    (right : Right stream list start watch) (step : watching stream watch message = some next) :
    Clean stream start watch message ↔ Right stream list start next := by
  cases message with
  | next =>
    obtain ⟨event, found, rfl⟩ := Option.map_eq_some_iff.mp step
    have sorted : Ordered (stream.take watch.taken ++ [event]) := by
      rw [← take_next found]
      exact List.Pairwise.sublist (List.take_sublist _ _) ordered
    rw [Right] at right ⊢
    simp only [Watch.receive, take_next found, right, next_right listed sorted, Clean, found, Option.some.injEq, forall_eq']
  | again position =>
    rw [watching] at step
    split at step
    next before =>
      obtain ⟨event, found, rfl⟩ := Option.map_eq_some_iff.mp step
      rw [Right] at right ⊢
      simp only [Watch.receive, right, again_right (mem_take found before), Clean]
    next => cases step
  | error status =>
    cases step
    rw [Right] at right ⊢
    simp only [Watch.receive, right, error_right, Clean]

theorem taken_step {watch next : Watch α} {message : Message α} (step : watching stream watch message = some next) :
    newest start (stream.take watch.taken) ≤ newest start (stream.take next.taken) := by
  cases message with
  | next =>
    obtain ⟨event, found, rfl⟩ := Option.map_eq_some_iff.mp step
    simp only [take_next found, newest_snoc]
    omega
  | again position =>
    rw [watching] at step
    split at step
    next =>
      obtain ⟨event, found, rfl⟩ := Option.map_eq_some_iff.mp step
      exact Nat.le_refl _
    next => cases step
  | error status =>
    cases step
    exact Nat.le_refl _

theorem right_deleted {watch : Watch α} (right : Right stream list start watch) {position : Nat} {uid : String} {version : Nat}
    {content : α} (before : position < watch.taken) (found : stream[position]? = some (.deleted uid version content))
    (new : start < version) (never : ∀ later event, position < later → later < watch.taken → stream[later]? = some event →
      event.puts ≠ some uid) : some uid ∉ watch.list.items.map KubeObject.uid := by
  obtain ⟨inside, is⟩ := List.getElem?_eq_some_iff.mp found
  have within : position < (stream.take watch.taken).length := by
    rw [List.length_take]
    omega
  have split : stream.take watch.taken = (stream.take watch.taken).take position ++
      .deleted uid version content :: (stream.take watch.taken).drop (position + 1) := by
    have cut := List.take_append_drop position (stream.take watch.taken)
    rw [List.drop_eq_getElem_cons within, List.getElem_take, is] at cut
    exact cut.symm
  rw [right, split]
  apply reference_deleted new
  intro event member
  obtain ⟨offset, at_⟩ := List.mem_iff_getElem?.mp member
  rw [List.getElem?_drop, List.getElem?_take] at at_
  split at at_
  next before => exact never _ event (by omega) before at_
  next => cases at_

theorem stale_step {watch next : Watch α} {message : Message α} {position : Nat} {event : Event α} {known : Nat}
    (step : watching stream watch message = some next)
    (delivers : message = .next ∧ position = watch.taken ∨ message = .again position) (found : stream[position]? = some event)
    (version : watch.list.resourceVersion = some (toString known)) (old : event.version ≤ known) : next.list = watch.list := by
  have skipped : watch.list.applyUpdate event.update = watch.list := by
    apply applyUpdate_outdated
    rw [update_version, version, outdated_toString]
    exact decide_eq_true (Double.ofNat_mono old)
  rcases delivers with ⟨rfl, rfl⟩ | rfl
  · rw [watching, found] at step
    cases step
    exact skipped
  · rw [watching, found] at step
    split at step
    · cases step
      exact skipped
    · cases step

/-- Delivering events again does no harm exactly when no error takes the version of the
list away and the versions are told apart as doubles. -/
theorem folded_iff {messages : List (Message α)} {last : Watch α} (ordered : Ordered stream) (listed : Listed list start)
    (ran : run (watching stream) ⟨list, 0⟩ messages = some last) :
    Folded stream list start messages ↔ Meets (watching stream) (Clean stream start) ⟨list, 0⟩ messages := by
  have initial : Right stream list start ⟨list, 0⟩ := by
    obtain ⟨version, items⟩ := list
    cases listed.version
    rfl
  have throughout : (∀ before after watch, messages = before ++ after → run (watching stream) ⟨list, 0⟩ before = some watch →
      Right stream list start watch) ↔ Meets (watching stream) (Clean stream start) ⟨list, 0⟩ messages :=
    throughout_iff (fun _ => True) (Right stream list start) (fun _ _ _ _ _ _ => trivial)
      (fun _ _ _ _ right step => watching_right ordered listed right step) trivial initial ran
  rw [← throughout]
  refine ⟨Folded.same, fun right => ?_⟩
  have after_right {before after : List (Message α)} {watch next : Watch α} {message : Message α}
      (split : messages = before ++ message :: after) (reached : run (watching stream) ⟨list, 0⟩ before = some watch)
      (step : watching stream watch message = some next) : Right stream list start next := by
    apply right (before ++ [message]) after next (by rw [split]; simp)
    rw [run_snoc, reached, Option.bind_some, step]
  refine ⟨right, ?_, ?_, ?_, ?_, ?_⟩
  · intro before after watch split reached
    rw [right before after watch split reached]
    exact reference_nodup listed _
  · intro before after watch split reached position uid version content
    exact right_deleted (right before after watch split reached)
  · intro before after watch message next position event known _ _ step
    exact stale_step step
  · intro before after watch status next split reached step
    have known := right before (.error status :: after) watch split reached
    have kept := after_right split reached step
    cases step
    exact kept.trans known.symm
  · intro before after watch message next split reached step
    have known := right before (message :: after) watch split reached
    have kept := after_right split reached step
    refine ⟨newest start (stream.take watch.taken), newest start (stream.take next.taken), ?_, ?_, taken_step step⟩
    · rw [known]
      rfl
    · rw [kept]
      rfl

private def passing : List (Event Unit) := [.added "pod" 2 (), .deleted "pod" 3 ()]

private def empty : KubeList Unit := ⟨some (toString 1), []⟩

/-- The status of an error has no version. -/
private def gone : KubeObject Unit := ⟨⟨none, none⟩, ()⟩

private theorem passing_ordered : Ordered passing := by
  simp [Ordered, passing, Event.version]

private theorem empty_listed : Listed empty 1 := ⟨rfl, List.nodup_nil⟩

/-- The watch starts over and delivers the first event again. -/
theorem folded_again : Folded passing empty 1 [.next, .next, .again 0] := by
  have watched : run (watching passing) ⟨empty, 0⟩ [.next, .next, .again 0] = some ⟨⟨some (toString 3), []⟩, 2⟩ := by
    decide +kernel
  apply (folded_iff passing_ordered empty_listed watched).mpr
  refine ⟨?_, ?_, trivial, trivial⟩
  · intro event found _
    cases found
    decide +kernel
  · intro event found _
    cases found
    decide +kernel

/-- After an error the deleted pod is back. -/
theorem error_brings_back : Ordered passing ∧ Listed empty 1 ∧
    run (watching passing) ⟨empty, 0⟩ [.next, .next, .error gone, .again 0] = some ⟨⟨some (toString 2), [object "pod" 2 ()]⟩, 2⟩ ∧
    ¬Folded passing empty 1 [.next, .next, .error gone, .again 0] := by
  have ran : run (watching passing) ⟨empty, 0⟩ [.next, .next, .error gone, .again 0] =
      some ⟨⟨some (toString 2), [object "pod" 2 ()]⟩, 2⟩ := by decide +kernel
  refine ⟨passing_ordered, empty_listed, ran, fun folded => ?_⟩
  have same := folded.same _ [] _ (List.append_nil _).symm ran
  exact absurd (congrArg KubeList.items same) (by decide +kernel)

end K8Sense.Frontend
