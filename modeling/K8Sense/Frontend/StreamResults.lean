import K8Sense.Frontend.KubeList
import K8Sense.Library.Keyed
import K8Sense.Library.Recency
import K8Sense.Library.Replay

/-! The older watch of the frontend, which keeps the results in an object by their uids and
hands all of them over after every update. A watch that has lost its connection is begun
again from the version of the list, so that everything since then is told once more. -/

namespace K8Sense.Frontend.StreamResults
open Keyed Replay Distinct

universe u
variable {β : Type u}

/-- What an object has apart from its uid and its version. -/
structure Content (β : Type u) where
  kind : Option String
  actionType : Option UpdateType
  creationTimestamp : String
  lastTimestamp : Option String
  /-- The fields that the watch does not look at. -/
  fields : List (String × β)

abbrev Item (β : Type u) := KubeObject (Content β)

abbrev Results (β : Type u) := List (String × Item β)

/-- The key of an object among the results. -/
def resultKey (item : Item β) : String := item.uid.getD "undefined"

/-- `Object.assign`, which copies the fields that the object has. The metadata is one of them. -/
def assign (existing object : Item β) : Item β where
  metadata := object.metadata
  content := {
    kind := object.content.kind.or existing.content.kind
    actionType := object.content.actionType.or existing.content.actionType
    creationTimestamp := object.content.creationTimestamp
    lastTimestamp := object.content.lastTimestamp.or existing.content.lastTimestamp
    fields := object.content.fields.foldl (fun fields field => upsert field.1 field.2 (fun _ => field.2) fields) existing.content.fields }

/-- Both versions are there, and the new one is greater as a number. -/
def newer (currentVersion newVersion : Option String) : Bool :=
  match currentVersion, newVersion with
  | some current, some new => current ≠ "" && new ≠ "" &&
    match Double.parseInt current, Double.parseInt new with
    | some current, some new => decide (current < new)
    | _, _ => false
  | _, _ => false

def withActionType (type : UpdateType) (object : Item β) : Item β :=
  { object with content := { object.content with actionType := some type } }

def update (event : KubeListUpdateEvent (Content β)) (results : Results β) : Results β :=
  let object := withActionType event.type event.object
  match event.type with
  | .added => upsert (resultKey object) object (fun _ => object) results
  | .modified =>
    match lookup (resultKey object) results with
    | some existing =>
      if newer existing.metadata.resourceVersion object.metadata.resourceVersion then
        upsert (resultKey object) object (fun existing => assign existing object) results
      else results
    | none => results ++ [(resultKey object, object)]
  | .deleted => erase (resultKey object) results
  | .error | .bookmark => results

/-- The word `List` at the end of the kind of a list is trimmed off. -/
def fixedKind (kind : String) : String := String.ofList (kind.toList.take (kind.toList.length - 4))

def withKind (kind : String) (item : Item β) : Item β := { item with content := { item.content with kind := some (fixedKind kind) } }

def add (items : List (Item β)) (kind : String) : Results β :=
  items.foldl (fun results item => upsert (resultKey item) (withKind kind item) (fun _ => withKind kind item) results) []

/-! What is handed over. -/

inductive Limit where
  | number (limit : Int)
  | text (limit : String)

/-- `none` is `NaN`, and -1 means unlimited. -/
def maxResources : Option Limit → Option Int
  | some (.number limit) => some limit
  | some (.text limit) => Double.parseInt limit
  | none => some (-1)

section Push
-- the time of a date, in milliseconds since 1970
variable (getTime : String → Nat)

def timeOf (item : Item β) : Nat :=
  getTime (match item.content.lastTimestamp with
    | some lastTimestamp => if lastTimestamp = "" then item.content.creationTimestamp else lastTimestamp
    | none => item.content.creationTimestamp)

/-- How many results there may be, if that is limited. -/
def limited (maxResources : Option Int) : Option Nat :=
  match maxResources with
  | some limit => if 0 < limit then some limit.toNat else none
  | none => none

/-- The results that are left are those at the end, after the newest have been put first. -/
def push (maxResources : Option Int) (results : Results β) : List (Item β) :=
  let values := results.map Prod.snd
  match limited maxResources with
  | some limit => if limit < values.length then (Recency.newestFirst (timeOf getTime) values).drop (values.length - limit) else values
  | none => values

/-- Whatever the updates were, as many results are handed over as there may be, and none of
them is newer than one that is left out. -/
theorem push_oldest (items : List (Item β)) (kind : String) (updates : List (KubeListUpdateEvent (Content β))) (limit : Option Limit) :
    let results := updates.foldl (fun results event => update event results) (add items kind)
    let handed := push getTime (maxResources limit) results
    handed.length = ((limited (maxResources limit)).elim results.length fun most => min most results.length) ∧
      ∃ left, (left ++ handed).Perm (results.map Prod.snd) ∧ ∀ out ∈ left, ∀ item ∈ handed, timeOf getTime item ≤ timeOf getTime out := by
  intro results handed
  unfold handed push
  cases limited (maxResources limit) with
  | none => exact ⟨List.length_map .., [], List.Perm.refl _, by simp⟩
  | some most =>
    simp only [List.length_map, Option.elim_some]
    split
    next more =>
      have whole := Recency.newestFirst_perm (timeOf getTime) (results.map Prod.snd)
      have sorted := Recency.newestFirst_sorted (timeOf getTime) (results.map Prod.snd)
      refine ⟨?_, (Recency.newestFirst (timeOf getTime) (results.map Prod.snd)).take (results.length - most), ?_, ?_⟩
      · rw [List.length_drop, whole.length_eq, List.length_map]
        omega
      · rwa [List.take_append_drop]
      · rw [← List.take_append_drop (results.length - most) (Recency.newestFirst _ _), List.pairwise_append] at sorted
        exact sorted.2.2
    next => exact ⟨by rw [List.length_map]; omega, [], List.Perm.refl _, by simp⟩

end Push

/-! One result. -/

def modifyOne (object : Item β) : Option (Item β) → Option (Item β)
  | some existing =>
    if newer existing.metadata.resourceVersion object.metadata.resourceVersion then some (assign existing object) else some existing
  | none => some object

/-- What an event makes of the result of one key. -/
def updateOne (key : String) (event : Event (Content β)) (result : Option (Item β)) : Option (Item β) :=
  match event with
  | .added uid version content => if uid = key then some (withActionType .added (object uid version content)) else result
  | .modified uid version content => if uid = key then modifyOne (withActionType .modified (object uid version content)) result else result
  | .deleted uid _ _ => if uid = key then none else result
  | .bookmark _ _ => result

/-- The event as the watch receives it. -/
def receive (event : Event (Content β)) (results : Results β) : Results β := update event.update results

theorem lookup_receive (key : String) (event : Event (Content β)) (results : Results β) :
    lookup key (receive event results) = updateOne key event (lookup key results) := by
  cases event with
  | added uid version content =>
    have own : resultKey (withActionType .added (object uid version content)) = uid := rfl
    simp only [receive, update, Event.update, own, lookup_upsert, updateOne, eq_comm (a := key)]
    split
    · cases lookup uid results <;> rfl
    · rfl
  | modified uid version content =>
    have own : resultKey (withActionType .modified (object uid version content)) = uid := rfl
    simp only [receive, update, Event.update, own, updateOne]
    by_cases same : uid = key
    · subst same
      rw [if_pos rfl]
      cases found : lookup uid results with
      | none => simp only [lookup_append, found, lookup_cons, if_true, Option.none_or, modifyOne]
      | some existing =>
        simp only [modifyOne]
        split
        · rw [lookup_upsert, if_pos rfl, found]
          rfl
        · exact found
    · rw [if_neg same]
      cases lookup uid results with
      | none =>
        rw [lookup_append, lookup_cons, if_neg same]
        exact Option.or_none
      | some existing =>
        simp only
        split
        · rw [lookup_upsert, if_neg (Ne.symm same)]
        · rfl
  | deleted uid version content =>
    have own : resultKey (withActionType .deleted (object uid version content)) = uid := rfl
    simp only [receive, update, Event.update, own, lookup_erase, updateOne, eq_comm (a := key)]
  | bookmark version content => rfl

/-! Beginning the watch again. -/

/-- The version of a result, if there is one, is a number. -/
def Numbered (result : Option (Item β)) : Prop :=
  ∀ item, result = some item → ∃ version : Nat, item.metadata.resourceVersion = some (toString version)

theorem newer_toString (known version : Nat) :
    newer (some (toString known)) (some (toString version)) = decide (Double.ofNat known < Double.ofNat version) := by
  simp [newer, toString_nonempty, -Nat.toString_eq_repr]

theorem modified_version (uid : String) (version : Nat) (content : Content β) :
    (withActionType .modified (object uid version content)).metadata.resourceVersion = some (toString version) := rfl

/-- The result is there, in no older version. -/
def AtLeast (version : Nat) (result : Option (Item β)) : Prop :=
  ∃ item known, result = some item ∧ item.metadata.resourceVersion = some (toString known) ∧ Double.ofNat version ≤ Double.ofNat known

theorem updateOne_numbered {key : String} (event : Event (Content β)) {result : Option (Item β)} (numbered : Numbered result) :
    Numbered (updateOne key event result) := by
  intro item is
  cases event with
  | added uid version content =>
    simp only [updateOne] at is
    split at is
    · cases is
      exact ⟨version, rfl⟩
    · exact numbered item is
  | modified uid version content =>
    simp only [updateOne] at is
    split at is
    · cases result with
      | none =>
        cases is
        exact ⟨version, rfl⟩
      | some existing =>
        rw [modifyOne] at is
        split at is
        · cases is
          exact ⟨version, rfl⟩
        · exact numbered item is
    · exact numbered item is
  | deleted uid version content =>
    simp only [updateOne] at is
    split at is
    · cases is
    · exact numbered item is
  | bookmark version content => exact numbered item is

theorem modified_atLeast {key : String} {version : Nat} {content : Content β} {result : Option (Item β)} (numbered : Numbered result) :
    AtLeast version (updateOne key (.modified key version content) result) := by
  rw [updateOne, if_pos rfl]
  cases result with
  | none => exact ⟨_, version, rfl, rfl, Nat.le_refl _⟩
  | some existing =>
    obtain ⟨known, is⟩ := numbered existing rfl
    rw [modifyOne, is, modified_version, newer_toString]
    split
    · exact ⟨_, version, rfl, rfl, Nat.le_refl _⟩
    next kept => exact ⟨existing, known, rfl, is, Nat.not_lt.mp fun new => kept (decide_eq_true new)⟩

def resets (key : String) : Event (Content β) → Prop
  | .added uid _ _ | .deleted uid _ _ => uid = key
  | _ => False

theorem atLeast_kept {key : String} {least : Nat} {event : Event (Content β)} (kept : ¬resets key event) {result : Option (Item β)}
    (atLeast : AtLeast least result) : AtLeast least (updateOne key event result) := by
  cases event with
  | added uid version content =>
    have other : uid ≠ key := kept
    rwa [updateOne, if_neg other]
  | deleted uid version content =>
    have other : uid ≠ key := kept
    rwa [updateOne, if_neg other]
  | bookmark version content => exact atLeast
  | modified uid version content =>
    rw [updateOne]
    split
    · obtain ⟨item, known, rfl, is, bound⟩ := atLeast
      rw [modifyOne, is, modified_version, newer_toString]
      split
      next new => exact ⟨_, version, rfl, rfl, Nat.le_of_lt (Nat.lt_of_le_of_lt bound (of_decide_eq_true new))⟩
      · exact ⟨item, known, rfl, is, bound⟩
    · exact atLeast

variable {key : String} {stream : List (Event (Content β))} {initial : Option (Item β)}

theorem reached_numbered (numbered : Numbered initial) (count : Nat) : Numbered (reached (updateOne key) stream initial count) := by
  unfold reached
  generalize stream.take count = events
  induction events generalizing initial with
  | nil => exact numbered
  | cons event rest ih => exact ih (updateOne_numbered event numbered)

theorem reached_atLeast (numbered : Numbered initial) {index version : Nat} {content : Content β}
    (found : stream[index]? = some (.modified key version content)) {count : Nat} (after : index < count) (inside : count ≤ stream.length)
    (clear : ¬ResetBetween (resets key) stream index count) : AtLeast version (reached (updateOne key) stream initial count) := by
  induction count with
  | zero => exact absurd after (Nat.not_lt_zero index)
  | succ count ih =>
    have last : stream[count]? = some stream[count] := List.getElem?_eq_getElem inside
    rw [reached_succ last]
    obtain before | same := Nat.lt_succ_iff_lt_or_eq.mp after
    · apply atLeast_kept
      · exact fun reset => clear ⟨count, _, Nat.le_of_lt before, Nat.lt_succ_self _, last, reset⟩
      · apply ih before (Nat.le_of_succ_le inside)
        rintro ⟨place, event, from', until', there, reset⟩
        exact clear ⟨place, event, from', Nat.lt_succ_of_lt until', there, reset⟩
    · subst same
      rw [found, Option.some.injEq] at last
      rw [← last]
      exact modified_atLeast (reached_numbered numbered index)

theorem updateOne_rereadable (numbered : Numbered initial) : Rereadable (updateOne key) (resets key) stream initial where
  forgets event result other reset := by
    cases event with
    | added uid version content =>
      have same : uid = key := reset
      rw [updateOne, updateOne, if_pos same, if_pos same]
    | deleted uid version content =>
      have same : uid = key := reset
      rw [updateOne, updateOne, if_pos same, if_pos same]
    | modified uid version content => exact reset.elim
    | bookmark version content => exact reset.elim
  absorbed index event count found after inside clear := by
    have kept : ¬resets key event := fun reset => clear ⟨index, event, Nat.le_refl _, after, found, reset⟩
    cases event with
    | added uid version content =>
      have other : uid ≠ key := kept
      rw [updateOne, if_neg other]
    | deleted uid version content =>
      have other : uid ≠ key := kept
      rw [updateOne, if_neg other]
    | bookmark version content => rfl
    | modified uid version content =>
      rw [updateOne]
      split
      next same =>
        subst same
        obtain ⟨item, known, is, given, bound⟩ := reached_atLeast numbered found after inside clear
        have old : decide (Double.ofNat known < Double.ofNat version) = false := decide_eq_false (Nat.not_lt.mpr bound)
        rw [is, modifyOne, given, modified_version, newer_toString, old, if_neg Bool.false_ne_true]
      · rfl

theorem lookup_add_numbered {items : List (Item β)} (versions : ∀ item ∈ items, ∃ version : Nat, item.metadata.resourceVersion = some (toString version))
    (kind key : String) : Numbered (lookup key (add items kind)) := by
  induction items using List.reverseRecOn with
  | nil =>
    intro item is
    cases is
  | append_singleton items last ih =>
    rw [add, List.foldl_append, List.foldl_cons, List.foldl_nil, lookup_upsert]
    split
    · intro item is
      have same : item = withKind kind last := by
        revert is
        cases lookup (resultKey last) _ <;> exact fun is => (Option.some.inj is).symm
      rw [same]
      exact versions last (List.mem_append_right _ List.mem_cons_self)
    · exact ih fun item member => versions item (List.mem_append_left _ member)

/-- A watch that has caught up has the results of events that have come once, however often
it has been begun again. -/
theorem restarts_converge {items : List (Item β)} {kind : String} {moves : List Move} {reader : Reader (Results β)}
    (versions : ∀ item ∈ items, ∃ version : Nat, item.metadata.resourceVersion = some (toString version))
    (ran : Transition.run (read receive stream) (start (add items kind)) moves = some reader) (caught : reader.position = reader.furthest)
    (key : String) : lookup key reader.state = lookup key (reached receive stream (add items kind) reader.position) := by
  have one := run_map (lookup_receive key) ran
  have same := caught_up (updateOne_rereadable (lookup_add_numbered versions kind key)) one caught
  rw [reached_map (lookup_receive key)]
  exact same

def plain : Content Unit := ⟨none, none, "2024-05-01T10:00:00Z", none, []⟩

def podStream : List (Event (Content Unit)) := [.modified "pod" 6 plain, .bookmark 6 plain, .deleted "pod" 8 plain, .added "pod" 9 plain]

def podMoves : List Move := [.next, .next, .next, .restart, .next, .next, .next, .next]

/-- The watch is begun again after the object has been deleted, and is told of its modification once more. -/
theorem restarted_pod : ∃ reader, Transition.run (read receive podStream) (start (add [object "pod" 5 plain] "PodList")) podMoves = some reader ∧
    lookup "pod" reader.state = lookup "pod" (reached receive podStream (add [object "pod" 5 plain] "PodList") reader.position) := by
  refine ⟨_, rfl, @restarts_converge _ podStream [object "pod" 5 plain] "PodList" podMoves _ ?_ rfl rfl "pod"⟩
  intro item member
  rw [List.mem_singleton.mp member]
  exact ⟨5, rfl⟩

/-! The newer watch, as long as nothing is told twice. -/

/-- The versions rise as numbers, except that a bookmark may have the version of the event before it. -/
def Rising : Nat → List (Event (Content β)) → Prop
  | _, [] => True
  | version, event :: rest =>
    (Double.ofNat version < Double.ofNat event.version ∨ event.isBookmark = true ∧ event.version = version) ∧ Rising event.version rest

/-- Every object has a uid of its own and a version, which is not newer than that of the list. -/
structure Fresh (list : KubeList (Content β)) (version : Nat) : Prop where
  current : list.resourceVersion = some (toString version)
  named : ∀ item ∈ list.items, ∃ uid known, item.metadata = ⟨some uid, some (toString known)⟩ ∧ Double.ofNat known ≤ Double.ofNat version
  unique : (list.items.map KubeObject.uid).Nodup

def shape (results : Results β) : List (String × Metadata) := results.map fun row => (row.1, row.2.metadata)

def listShape (items : List (Item β)) : List (String × Metadata) := items.map fun item => (resultKey item, item.metadata)

theorem shape_upsert {key : String} {object : Item β} {change : Item β → Item β} (results : Results β)
    (keeps : ∀ existing, (change existing).metadata = object.metadata) :
    shape (upsert key object change results) =
      if key ∈ results.map Prod.fst then (shape results).map fun entry => if entry.1 = key then (entry.1, object.metadata) else entry
      else shape results ++ [(key, object.metadata)] := by
  have any : (results.any fun row => decide (row.1 = key)) = decide (key ∈ results.map Prod.fst) := by
    rw [Bool.eq_iff_iff, List.any_eq_true, decide_eq_true_eq, List.mem_map]
    simp
  unfold upsert
  rw [any]
  by_cases known : key ∈ results.map Prod.fst
  · rw [if_pos (decide_eq_true known), if_pos known, shape, shape, List.map_map, List.map_map]
    apply List.map_congr_left
    intro row _
    simp only [Function.comp_apply]
    split
    · rw [keeps]
    · rfl
  · rw [if_neg (by simpa using known), if_neg known, shape, List.map_append]
    rfl

theorem resultKey_of {item : Item β} {uid : String} {version : Option String} (is : item.metadata = ⟨some uid, version⟩) : resultKey item = uid := by
  rw [resultKey, KubeObject.uid, is]
  rfl

theorem uid_of {item : Item β} {uid : String} {version : Option String} (is : item.metadata = ⟨some uid, version⟩) : item.uid = some uid := by
  rw [KubeObject.uid, is]

theorem listShape_put {items : List (Item β)} (named : ∀ item ∈ items, ∃ uid version, item.metadata = ⟨some uid, version⟩) (uid : String)
    (version : Nat) (content : Content β) :
    listShape (put KubeObject.uid (object uid version content) items) =
      if uid ∈ items.map resultKey then
        (listShape items).map fun entry => if entry.1 = uid then (entry.1, (object uid version content).metadata) else entry
      else listShape items ++ [(uid, (object uid version content).metadata)] := by
  have own : (object uid version content).uid = some uid := rfl
  have same : ∀ item ∈ items, item.uid = some uid ↔ resultKey item = uid := by
    intro item member
    obtain ⟨name, version, is⟩ := named item member
    rw [uid_of is, resultKey_of is, Option.some.injEq]
  have listed : some uid ∈ items.map KubeObject.uid ↔ uid ∈ items.map resultKey := by
    simp only [List.mem_map]
    exact exists_congr fun item => and_congr_right fun member => same item member
  rw [put, own]
  by_cases known : uid ∈ items.map resultKey
  · rw [if_pos (listed.mpr known), if_pos known, listShape, listShape, List.map_map, List.map_map]
    apply List.map_congr_left
    intro item member
    simp only [Function.comp_apply]
    by_cases here : resultKey item = uid
    · rw [if_pos ((same item member).mpr here), if_pos here, here]
      rfl
    · rw [if_neg fun is => here ((same item member).mp is), if_neg here]
  · rw [if_neg fun is => known (listed.mp is), if_neg known, listShape, List.map_append]
    rfl

/-- The results are the objects of the list, at the same versions and in the same order. -/
structure Agree (version : Nat) (results : Results β) (list : KubeList (Content β)) : Prop where
  fresh : Fresh list version
  same : shape results = listShape list.items

theorem agree_keys {version : Nat} {results : Results β} {list : KubeList (Content β)} (agree : Agree version results list) :
    results.map Prod.fst = list.items.map resultKey := by
  have firsts := congrArg (List.map Prod.fst) agree.same
  simpa [shape, listShape, Function.comp_def] using firsts

theorem fresh_effect {list : KubeList (Content β)} {version : Nat} (fresh : Fresh list version) {event : Event (Content β)}
    (new : Double.ofNat version < Double.ofNat event.version) :
    list.applyUpdate event.update = ⟨some (toString event.version), event.effect list.items⟩ ∧
      Fresh ⟨some (toString event.version), event.effect list.items⟩ event.version := by
  refine ⟨?_, rfl, ?_, effect_nodup fresh.unique event⟩
  · apply applyUpdate_new fresh.unique
    rw [fresh.current, outdated_toString]
    exact decide_eq_false (Nat.not_le.mpr new)
  · have older : ∀ item ∈ list.items, ∃ uid known, item.metadata = ⟨some uid, some (toString known)⟩ ∧
        Double.ofNat known ≤ Double.ofNat event.version := by
      intro item member
      obtain ⟨uid, known, is, bound⟩ := fresh.named item member
      exact ⟨uid, known, is, Nat.le_trans bound (Nat.le_of_lt new)⟩
    have placed : ∀ uid content, ∀ item ∈ put KubeObject.uid (object uid event.version content) list.items,
        ∃ uid known, item.metadata = ⟨some uid, some (toString known)⟩ ∧ Double.ofNat known ≤ Double.ofNat event.version := by
      intro uid content item member
      unfold put at member
      split at member
      · obtain ⟨other, inside, rfl⟩ := List.mem_map.mp member
        split
        · exact ⟨uid, event.version, rfl, Nat.le_refl _⟩
        · exact older other inside
      · rcases List.mem_append.mp member with inside | last
        · exact older item inside
        · rw [List.mem_singleton.mp last]
          exact ⟨uid, event.version, rfl, Nat.le_refl _⟩
    cases event with
    | added uid version content => exact placed uid content
    | modified uid version content => exact placed uid content
    | deleted uid version content => exact fun item member => older item (List.mem_of_mem_filter member)
    | bookmark version content => exact older

theorem receive_modified {version : Nat} {results : Results β} {list : KubeList (Content β)} (agree : Agree version results list)
    {uid : String} {new : Nat} {content : Content β} (rises : Double.ofNat version < Double.ofNat new) :
    receive (.modified uid new content) results =
      upsert uid (withActionType .modified (object uid new content))
        (fun existing => assign existing (withActionType .modified (object uid new content))) results := by
  have own : resultKey (withActionType .modified (object uid new content)) = uid := rfl
  simp only [receive, update, Event.update, own]
  cases found : lookup uid results with
  | none =>
    have absent : ¬(results.any fun row => decide (row.1 = uid)) = true := by
      intro present
      obtain ⟨row, member, named⟩ := List.any_eq_true.mp present
      exact lookup_none.mp found row member (of_decide_eq_true named)
    rw [upsert, if_neg absent]
  | some existing =>
    have listed : (uid, existing.metadata) ∈ listShape list.items := by
      rw [← agree.same]
      exact List.mem_map_of_mem (mem_of_lookup found)
    obtain ⟨item, member, is⟩ := List.mem_map.mp listed
    obtain ⟨name, known, metadata, bound⟩ := agree.fresh.named item member
    have given : existing.metadata.resourceVersion = some (toString known) := by
      rw [← (Prod.mk.inj is).2, metadata]
    have rises' : decide (Double.ofNat known < Double.ofNat new) = true := decide_eq_true (Nat.lt_of_le_of_lt bound rises)
    simp only [given, modified_version, newer_toString, rises']
    rfl

theorem shape_erase (key : String) (results : Results β) : shape (erase key results) = (shape results).filter fun entry => entry.1 ≠ key := by
  rw [shape, shape, erase, List.filter_map]
  rfl

theorem listShape_without {items : List (Item β)} (named : ∀ item ∈ items, ∃ uid version, item.metadata = ⟨some uid, version⟩) (uid : String) :
    listShape (without KubeObject.uid (some uid) items) = (listShape items).filter fun entry => entry.1 ≠ uid := by
  rw [listShape, listShape, without, List.filter_map]
  congr 1
  apply List.filter_congr
  intro item member
  obtain ⟨name, version, is⟩ := named item member
  simp [uid_of is, resultKey_of is]

theorem agree_receive {version : Nat} {results : Results β} {list : KubeList (Content β)} (agree : Agree version results list)
    {event : Event (Content β)} (rises : Double.ofNat version < Double.ofNat event.version) :
    Agree event.version (receive event results) (list.applyUpdate event.update) := by
  obtain ⟨applied, fresh⟩ := fresh_effect agree.fresh rises
  rw [applied]
  refine ⟨fresh, ?_⟩
  have named : ∀ item ∈ list.items, ∃ uid version, item.metadata = ⟨some uid, version⟩ := by
    intro item member
    obtain ⟨uid, known, is, _⟩ := agree.fresh.named item member
    exact ⟨uid, _, is⟩
  cases event with
  | added uid version content =>
    rw [receive, update, Event.update, Event.effect, listShape_put named, ← agree.same, ← agree_keys agree]
    exact shape_upsert results fun _ => rfl
  | modified uid version content =>
    have rises' : Double.ofNat _ < Double.ofNat version := rises
    rw [receive_modified agree rises', Event.effect, listShape_put named, ← agree.same, ← agree_keys agree]
    exact shape_upsert results fun _ => rfl
  | deleted uid version content =>
    rw [receive, update, Event.update, Event.effect, listShape_without named, ← agree.same]
    exact shape_erase uid results
  | bookmark version content => exact agree.same

theorem agree_add {list : KubeList (Content β)} {version : Nat} (fresh : Fresh list version) (kind : String) :
    Agree version (add list.items kind) list := by
  refine ⟨fresh, ?_⟩
  obtain ⟨_, named, unique⟩ := fresh
  generalize list.items = items at named unique
  induction items using List.reverseRecOn with
  | nil => rfl
  | append_singleton items last ih =>
    rw [List.map_append, List.nodup_append] at unique
    have before := ih (fun item member => named item (List.mem_append_left _ member)) unique.1
    have keys : (add items kind).map Prod.fst = items.map resultKey := by
      have firsts := congrArg (List.map Prod.fst) before
      simpa [shape, listShape, Function.comp_def] using firsts
    have absent : resultKey last ∉ (add items kind).map Prod.fst := by
      rw [keys]
      intro known
      obtain ⟨item, member, same⟩ := List.mem_map.mp known
      obtain ⟨uid, _, is, _⟩ := named item (List.mem_append_left _ member)
      obtain ⟨name, _, own, _⟩ := named last (List.mem_append_right _ List.mem_cons_self)
      rw [resultKey_of is, resultKey_of own] at same
      apply unique.2.2 item.uid (List.mem_map_of_mem member) last.uid (List.mem_singleton_self _)
      rw [uid_of is, uid_of own, same]
    have grown : add (items ++ [last]) kind = upsert (resultKey last) (withKind kind last) (fun _ => withKind kind last) (add items kind) := by
      rw [add, List.foldl_append]
      rfl
    rw [grown, shape_upsert _ fun _ => rfl, if_neg absent, before, listShape, listShape, List.map_append]
    rfl

/-- As long as the versions rise, the two watches have the same objects, in the same versions and order. -/
theorem agrees_with_list {list : KubeList (Content β)} {version : Nat} (fresh : Fresh list version) (rising : Rising version stream) (kind : String) :
    (stream.foldl (fun results event => receive event results) (add list.items kind)).map (fun row => row.2.metadata) =
      (stream.foldl (fun list event => list.applyUpdate event.update) list).items.map KubeObject.metadata := by
  have whole : ∀ results, Agree version results list → ∃ last,
      Agree last (stream.foldl (fun results event => receive event results) results)
        (stream.foldl (fun list event => list.applyUpdate event.update) list) := by
    clear fresh
    induction stream generalizing version list with
    | nil => exact fun results agree => ⟨version, agree⟩
    | cons event rest ih =>
      intro results agree
      obtain ⟨rises | ⟨isBookmark, same⟩, rising⟩ := rising
      · exact ih rising _ (agree_receive agree rises)
      · -- a bookmark at the version of the list is outdated for the one, and unknown to the other
        have kept : list.applyUpdate event.update = list := by
          apply applyUpdate_outdated
          rw [agree.fresh.current, update_version, same, outdated_toString]
          exact decide_eq_true (Nat.le_refl _)
        have ignored : receive event results = results := by
          cases event with
          | bookmark version content => rfl
          | added | modified | deleted => cases isBookmark
        rw [List.foldl_cons, List.foldl_cons, kept, ignored]
        exact ih (same ▸ rising) results agree
  obtain ⟨_, agree⟩ := whole _ (agree_add fresh kind)
  have seconds := congrArg (List.map Prod.snd) agree.same
  simpa [shape, listShape, Function.comp_def] using seconds

def podList : KubeList (Content Unit) := ⟨some (toString 5), [object "pod" 5 plain]⟩

theorem agrees_pod : (podStream.foldl (fun results event => receive event results) (add podList.items "PodList")).map (fun row => row.2.metadata) =
    (podStream.foldl (fun list event => list.applyUpdate event.update) podList).items.map KubeObject.metadata := by
  apply @agrees_with_list _ podStream podList 5
  · refine ⟨rfl, ?_, List.nodup_singleton _⟩
    intro item member
    rw [List.mem_singleton.mp member]
    exact ⟨"pod", 5, rfl, Nat.le_refl _⟩
  · refine ⟨.inl ?_, .inr ⟨rfl, rfl⟩, .inl ?_, .inl ?_, trivial⟩ <;> decide +kernel

end K8Sense.Frontend.StreamResults
