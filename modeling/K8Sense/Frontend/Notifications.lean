import K8Sense.Library.Feed
import K8Sense.Library.Keyed
import K8Sense.Library.Transition

/-! The notifications, of which the newest are listed and stored, and the bell, which adds
the warnings of the clusters whenever the list changes. -/

namespace K8Sense.Frontend.Notifications
open Distinct Recency

def defaultMaxNotificationsStored : Nat := 200

/-- A message is a list of code units. -/
structure Notification where
  cluster : Option String
  date : Nat
  deleted : Bool
  id : String
  message : List Nat
  seen : Bool
  url : Option String
deriving DecidableEq

/-- The time and the cluster of the page, which stand in for those that are missing. -/
structure Page where
  now : Nat
  cluster : Option String

def prepareMessage (message : List Nat) : List Nat := if message.length > 250 then message.take 249 ++ [0x2026] else message

/-- A new notification, whose id is set afterwards. -/
def Notification.new (page : Page) (message : List Nat) (date : Nat) (cluster : Option String) (id : String) : Notification where
  cluster := if cluster.getD "" = "" then page.cluster else cluster
  date := if date = 0 then page.now else date
  deleted := false
  id := id
  message := prepareMessage message
  seen := false
  url := none

def Notification.fromJSON (page : Page) (json : Notification) : Notification :=
  { Notification.new page json.message json.date json.cluster json.id with seen := json.seen, url := json.url, deleted := json.deleted }

/-- The list, and what is stored of it. -/
structure NotificationsState where
  notifications : List Notification
  stored : List Notification

def initialState : NotificationsState := ⟨[], []⟩

def storeNotifications (notifications : List Notification) : List Notification := notifications.take defaultMaxNotificationsStored

def loadNotifications (page : Page) (stored : List Notification) : List Notification := stored.map (Notification.fromJSON page)

def mergeNotifications (oldNotifications newNotifications : List Notification) : List Notification :=
  (newestFirst Notification.date (firsts Notification.id [] (newNotifications ++ oldNotifications))).take defaultMaxNotificationsStored

def setNotifications (payload : List Notification) (state : NotificationsState) : NotificationsState :=
  if payload = [] then ⟨[], storeNotifications []⟩
  else
    let notifications := mergeNotifications state.notifications payload
    if notifications = state.notifications then state else ⟨storeNotifications notifications, storeNotifications notifications⟩

def updateOne (page : Page) (dispatched : List Notification) (notification : Notification) : Notification :=
  match dispatched.find? fun other => other.id = notification.id with
  | some updated => Notification.fromJSON page { updated with seen := true }
  | none => notification

def updateNotifications (page : Page) (dispatched : List Notification) (state : NotificationsState) : NotificationsState :=
  let updatedState := state.notifications.map (updateOne page dispatched)
  let newNotifications := dispatched.filter fun other => !updatedState.any fun notification => notification.id = other.id
  let notifications := mergeNotifications updatedState newNotifications
  ⟨storeNotifications notifications, storeNotifications notifications⟩

structure Event where
  uid : String
  message : List Nat
  creationTimestamp : Nat

/-- The warnings of each cluster, where they have been received. -/
abbrev Warnings := List (String × Option (List Event))

inductive Action where
  | set (payload : List Notification)
  | update (page : Page) (dispatched : List Notification)

def reducer (state : NotificationsState) : Action → NotificationsState
  | .set payload => setNotifications payload state
  | .update page dispatched => updateNotifications page dispatched state

section Bell
variable (createRouteURL : String → String)

def notificationOf (page : Page) (cluster : String) (event : Event) : Notification :=
  { Notification.new page event.message event.creationTimestamp (some cluster) event.uid with
    url := some (createRouteURL cluster ++ "?eventsFilter=" ++ event.uid) }

def notificationsToShow (page : Page) (warnings : Warnings) (currentNotifications : List Notification) : List Notification :=
  warnings.flatMap fun (cluster, events) => (events.getD []).filterMap fun event =>
    if currentNotifications.any fun notification => notification.id = event.uid then none else some (notificationOf createRouteURL page cluster event)

/-- The list, or what is stored while it is empty. -/
def currentNotifications (page : Page) (state : NotificationsState) : List Notification :=
  if state.notifications = [] then loadNotifications page state.stored else state.notifications

/-- The effect of the bell, which runs again after each change of the list. -/
def bell (page : Page) (warnings : Warnings) (state : NotificationsState) : NotificationsState :=
  let current := currentNotifications page state
  let toShow := notificationsToShow createRouteURL page warnings current
  if (state.notifications = [] ∧ current ≠ []) ∨ toShow ≠ [] then setNotifications (toShow ++ current) state else state

end Bell

/-! What is listed. -/

structure Valid (notifications : List Notification) : Prop where
  unique : (notifications.map Notification.id).Nodup
  falling : Falling Notification.date notifications
  fits : notifications.length ≤ defaultMaxNotificationsStored

theorem mergeNotifications_eq (oldNotifications newNotifications : List Notification) : mergeNotifications oldNotifications newNotifications =
    Feed.top Notification.date Notification.id defaultMaxNotificationsStored (newNotifications ++ oldNotifications) := rfl

theorem store_merge (oldNotifications newNotifications : List Notification) :
    storeNotifications (mergeNotifications oldNotifications newNotifications) = mergeNotifications oldNotifications newNotifications :=
  List.take_of_length_le (List.length_take_le ..)

theorem top_isValid (notifications : List Notification) :
    Valid (Feed.top Notification.date Notification.id defaultMaxNotificationsStored notifications) where
  unique := Feed.top_unique _
  falling := (newestFirst_sorted Notification.date _).sublist (List.take_sublist ..)
  fits := List.length_take_le ..

theorem valid_nil : Valid [] := ⟨List.nodup_nil, List.Pairwise.nil, Nat.zero_le _⟩

theorem top_valid {notifications : List Notification} (valid : Valid notifications) :
    Feed.top Notification.date Notification.id defaultMaxNotificationsStored notifications = notifications := by
  rw [Feed.top, firsts_unique valid.unique]
  simp only [List.not_mem_nil, not_false_iff, decide_true, List.filter_true]
  rw [newestFirst_falling valid.falling, List.take_of_length_le valid.fits]

theorem set_notifications {payload : List Notification} (nonempty : payload ≠ []) (state : NotificationsState) :
    (setNotifications payload state).notifications = mergeNotifications state.notifications payload := by
  unfold setNotifications
  rw [if_neg nonempty]
  dsimp only
  split
  next same => exact same.symm
  · exact store_merge ..

theorem set_same {payload : List Notification} (nonempty : payload ≠ []) {state : NotificationsState}
    (same : (setNotifications payload state).notifications = state.notifications) : setNotifications payload state = state := by
  rw [set_notifications nonempty] at same
  unfold setNotifications
  rw [if_neg nonempty]
  exact if_pos same

/-! What is listed after any actions. -/

/-- All that has been set since the list was emptied, the last first, and as it has been updated. -/
def remember (past : List Notification) : Action → List Notification
  | .set payload => if payload = [] then [] else payload ++ past
  | .update page dispatched => past.map (updateOne page dispatched)

/-- The id says the time, and what is updated is in the list. -/
def Allowed (time : String → Nat) (state : NotificationsState) : Action → Prop
  | .set payload => ∀ notification ∈ payload, notification.date = time notification.id
  | .update _ dispatched => ∀ notification ∈ dispatched, notification.date = time notification.id ∧ notification.date ≠ 0 ∧
      notification.id ∈ state.notifications.map Notification.id

theorem updateOne_id (page : Page) (dispatched : List Notification) (notification : Notification) :
    (updateOne page dispatched notification).id = notification.id := by
  unfold updateOne
  split
  next updated found =>
    have same := List.find?_some found
    exact of_decide_eq_true same
  · rfl

theorem updateOne_date {time : String → Nat} {page : Page} {dispatched : List Notification} {notification : Notification}
    (dated : ∀ other ∈ dispatched, other.date = time other.id ∧ other.date ≠ 0) (also : notification.date = time notification.id) :
    (updateOne page dispatched notification).date = notification.date := by
  unfold updateOne
  split
  next updated found =>
    have same : updated.id = notification.id := by
      have named := List.find?_some found
      exact of_decide_eq_true named
    obtain ⟨is, positive⟩ := dated updated (List.mem_of_find?_eq_some found)
    rw [also, ← same, ← is]
    exact if_neg positive
  · rfl

theorem update_listed {page : Page} {dispatched : List Notification} {state : NotificationsState}
    (present : ∀ notification ∈ dispatched, notification.id ∈ state.notifications.map Notification.id) :
    (updateNotifications page dispatched state).notifications =
      Feed.top Notification.date Notification.id defaultMaxNotificationsStored (state.notifications.map (updateOne page dispatched)) := by
  have none : (dispatched.filter fun other =>
      !(state.notifications.map (updateOne page dispatched)).any fun notification => notification.id = other.id) = [] := by
    rw [List.filter_eq_nil_iff]
    intro other member
    obtain ⟨notification, inside, same⟩ := List.mem_map.mp (present other member)
    have there : (state.notifications.map (updateOne page dispatched)).any (fun notification => notification.id = other.id) = true :=
      List.any_eq_true.mpr ⟨_, List.mem_map_of_mem inside, decide_eq_true ((updateOne_id ..).trans same)⟩
    rw [there]
    exact Bool.false_ne_true
  unfold updateNotifications
  dsimp only
  rw [none]
  exact store_merge ..

/-- The list is the newest of all that has been set, with what has been set or updated last for each id. -/
theorem listed_newest (time : String → Nat) (actions : List Action)
    (allowed : ∀ before action after, actions = before ++ action :: after → Allowed time (before.foldl reducer initialState) action) :
    (actions.foldl reducer initialState).notifications =
      (newestFirst Notification.date (firsts Notification.id [] (actions.foldl remember []))).take defaultMaxNotificationsStored := by
  suffices both : (∀ notification ∈ actions.foldl remember [], notification.date = time notification.id) ∧
      (actions.foldl reducer initialState).notifications =
        Feed.top Notification.date Notification.id defaultMaxNotificationsStored (actions.foldl remember []) from both.2
  induction actions using List.reverseRecOn with
  | nil => exact ⟨fun _ member => absurd member List.not_mem_nil, (top_valid valid_nil).symm⟩
  | append_singleton actions action ih =>
    have here := allowed actions action [] rfl
    obtain ⟨dated, list⟩ := ih fun before other after split => allowed before other (after ++ [action]) (by rw [split]; simp)
    rw [List.foldl_append, List.foldl_append, List.foldl_cons, List.foldl_nil, List.foldl_cons, List.foldl_nil]
    cases action with
    | set payload =>
      by_cases empty : payload = []
      · rw [remember, if_pos empty, reducer, setNotifications, if_pos empty]
        exact ⟨fun _ member => absurd member List.not_mem_nil, (top_valid valid_nil).symm⟩
      · have all : ∀ notification ∈ payload ++ actions.foldl remember [], notification.date = time notification.id :=
          fun notification member => (List.mem_append.mp member).elim (here notification) (dated notification)
        rw [remember, if_neg empty, reducer, set_notifications empty, mergeNotifications_eq, list]
        refine ⟨all, Feed.top_append_top fun first left second right same => ?_⟩
        rw [all first left, all second right, same]
    | update page dispatched =>
      have keeps : ∀ notification ∈ actions.foldl remember [], (updateOne page dispatched notification).id = notification.id ∧
          (updateOne page dispatched notification).date = notification.date :=
        fun notification member => ⟨updateOne_id ..,
          updateOne_date (fun other inside => ⟨(here other inside).1, (here other inside).2.1⟩) (dated notification member)⟩
      rw [remember, reducer, update_listed fun notification member => (here notification member).2.2, list, ← Feed.top_map keeps]
      refine ⟨?_, top_valid (top_isValid _)⟩
      intro notification member
      obtain ⟨old, inside, rfl⟩ := List.mem_map.mp member
      rw [(keeps old inside).2, (keeps old inside).1, dated old inside]

def oomKilled : Notification := ⟨some "prod", 5, false, "a", [79, 79, 77], false, none⟩

def evicted : Notification := ⟨some "prod", 9, false, "b", [69], false, none⟩

theorem listed_newest_evicted :
    ([.set [oomKilled], .set [evicted], .update ⟨12, none⟩ [evicted]].foldl reducer initialState).notifications =
      (newestFirst Notification.date (firsts Notification.id []
        ([.set [oomKilled], .set [evicted], .update ⟨12, none⟩ [evicted]].foldl remember []))).take defaultMaxNotificationsStored := by
  apply listed_newest fun id => if id = "a" then 5 else 9
  intro before action after split
  have both : Valid [evicted, oomKilled] := ⟨by decide, List.pairwise_pair.mpr (by decide), by decide⟩
  have one : Valid [oomKilled] := ⟨by decide, List.pairwise_singleton _ _, by decide⟩
  have list : (setNotifications [evicted] (setNotifications [oomKilled] initialState)).notifications = [evicted, oomKilled] := by
    rw [set_notifications (List.cons_ne_nil _ _), set_notifications (List.cons_ne_nil _ _), mergeNotifications_eq, mergeNotifications_eq]
    exact (congrArg (fun old => Feed.top _ _ _ ([evicted] ++ old)) (top_valid one)).trans (top_valid both)
  rcases before with _ | ⟨first, _ | ⟨second, _ | ⟨third, rest⟩⟩⟩
  · cases split
    exact List.forall_mem_singleton.mpr rfl
  · cases split
    exact List.forall_mem_singleton.mpr rfl
  · cases split
    refine List.forall_mem_singleton.mpr ⟨rfl, by decide, ?_⟩
    change "b" ∈ List.map Notification.id (setNotifications [evicted] (setNotifications [oomKilled] initialState)).notifications
    rw [list]
    decide
  · cases rest <;> cases split

/-! What is there after the page has been loaded again. -/

theorem reducer_stored {state : NotificationsState} (stored : state.stored = state.notifications) (action : Action) :
    (reducer state action).stored = (reducer state action).notifications := by
  cases action with
  | set payload =>
    rw [reducer, setNotifications]
    split
    · rfl
    · dsimp only
      split
      · exact stored
      · rfl
  | update page dispatched => rfl

theorem prepareMessage_eq_iff {message : List Nat} : prepareMessage message = message ↔ message.length ≤ 250 := by
  unfold prepareMessage
  split
  next long =>
    refine iff_of_false (fun same => ?_) (Nat.not_le.mpr long)
    have lengths := congrArg List.length same
    rw [List.length_append, List.length_take, List.length_singleton] at lengths
    omega
  next short => exact iff_of_true rfl (Nat.le_of_not_lt short)

/-- What is missing in a notification is what it gets from the page. -/
structure Lasting (page : Page) (notification : Notification) : Prop where
  message : notification.message.length ≤ 250
  date : notification.date = 0 → page.now = 0
  cluster : notification.cluster.getD "" = "" → page.cluster = notification.cluster

theorem fromJSON_eq_iff {page : Page} {notification : Notification} :
    Notification.fromJSON page notification = notification ↔ Lasting page notification := by
  obtain ⟨cluster, date, deleted, id, message, seen, url⟩ := notification
  rw [Notification.fromJSON, Notification.new]
  simp only [Notification.mk.injEq, true_and, and_true, prepareMessage_eq_iff, ite_eq_right_iff]
  constructor
  · rintro ⟨sameCluster, sameDate, short⟩
    exact ⟨short, fun zero => (sameDate zero).trans zero, sameCluster⟩
  · rintro ⟨short, zero, sameCluster⟩
    exact ⟨sameCluster, fun none => (zero none).trans none.symm, short⟩

/-- After any actions, loading what is stored gives the list exactly when no notification in it lacks what the page would supply. -/
theorem reload_iff (actions : List Action) (page : Page) :
    loadNotifications page (actions.foldl reducer initialState).stored = (actions.foldl reducer initialState).notifications ↔
      ∀ notification ∈ (actions.foldl reducer initialState).notifications, Lasting page notification := by
  have stored : (actions.foldl reducer initialState).stored = (actions.foldl reducer initialState).notifications := by
    induction actions using List.reverseRecOn with
    | nil => rfl
    | append_singleton actions action ih =>
      rw [List.foldl_append, List.foldl_cons, List.foldl_nil]
      exact reducer_stored ih action
  rw [stored, loadNotifications, Keyed.map_unchanged]
  simp only [fromJSON_eq_iff]

/-! What the bell does. -/

section Rounds
variable {createRouteURL : String → String} {warnings : Warnings} {state : NotificationsState}

def offers (createRouteURL : String → String) (page : Page) (warnings : Warnings) : List Notification :=
  warnings.flatMap fun (cluster, events) => (events.getD []).map (notificationOf createRouteURL page cluster)

theorem notificationsToShow_eq (page : Page) (current : List Notification) : notificationsToShow createRouteURL page warnings current =
    (offers createRouteURL page warnings).filter (·.id ∉ current.map Notification.id) := by
  unfold notificationsToShow offers
  rw [List.filter_flatMap]
  refine congrArg (List.flatMap · warnings) (funext fun row => ?_)
  obtain ⟨cluster, events⟩ := row
  rw [List.filter_map]
  dsimp only
  induction events.getD [] with
  | nil => rfl
  | cons event rest ih =>
    have listed : (current.any fun notification => notification.id = event.uid) = true ↔ event.uid ∈ current.map Notification.id := by
      simp [List.any_eq_true]
    rw [List.filter_cons, Function.comp_apply, List.filterMap_cons, ih]
    by_cases here : event.uid ∈ current.map Notification.id
    · rw [if_pos (listed.mpr here), if_neg]
      exact fun fresh => of_decide_eq_true fresh here
    · rw [if_neg (mt listed.mp here), if_pos, List.map_cons]
      exact decide_eq_true here

theorem bell_notifications (page : Page) (valid : Valid (currentNotifications page state)) :
    (bell createRouteURL page warnings state).notifications = Feed.top Notification.date Notification.id defaultMaxNotificationsStored
      ((offers createRouteURL page warnings).filter (·.id ∉ (currentNotifications page state).map Notification.id) ++
        currentNotifications page state) := by
  unfold bell
  dsimp only
  rw [notificationsToShow_eq]
  split
  next changed =>
    have nonempty : (offers createRouteURL page warnings).filter (·.id ∉ (currentNotifications page state).map Notification.id) ++
        currentNotifications page state ≠ [] := by
      intro empty
      obtain ⟨none, none'⟩ := List.append_eq_nil_iff.mp empty
      exact changed.elim (fun both => both.2 none') fun some' => some' none
    rw [set_notifications nonempty, mergeNotifications_eq]
    unfold currentNotifications
    split
    next empty => rw [empty, List.append_nil]
    · rw [Feed.top, Feed.firsts_append_known, Feed.top]
      exact fun item member => List.mem_map_of_mem (List.mem_append_right _ member)
  next unchanged =>
    obtain ⟨same, none⟩ := not_or.mp unchanged
    have current : currentNotifications page state = state.notifications := by
      by_cases empty : state.notifications = []
      · rw [empty]
        exact by_contra fun some' => same ⟨empty, some'⟩
      · exact if_neg empty
    rw [not_not.mp none, List.nil_append, top_valid valid, current]

def uids (warnings : Warnings) : List String := warnings.flatMap fun row => (row.2.getD []).map Event.uid

theorem map_offers (page : Page) (warnings : Warnings) : (offers createRouteURL page warnings).map Notification.id = uids warnings := by
  rw [offers, uids, List.map_flatMap]
  refine congrArg (List.flatMap · warnings) (funext fun row => ?_)
  rw [List.map_map]
  rfl

theorem bell_ids {time : String → Nat} {page : Page} (valid : Valid (currentNotifications page state))
    (dated : ∀ item ∈ offers createRouteURL page warnings ++ currentNotifications page state, item.date = time item.id) :
    (bell createRouteURL page warnings state).notifications.map Notification.id =
      Feed.next time defaultMaxNotificationsStored (firsts id [] (uids warnings)) ((currentNotifications page state).map Notification.id) := by
  rw [bell_notifications page valid, Feed.map_top valid.unique dated, map_firsts, map_offers]

theorem bell_same {page : Page} (same : (bell createRouteURL page warnings state).notifications = state.notifications) :
    bell createRouteURL page warnings state = state := by
  unfold bell at same ⊢
  dsimp only at same ⊢
  split
  next changed =>
    rw [if_pos changed] at same
    refine set_same (fun empty => ?_) same
    obtain ⟨none, none'⟩ := List.append_eq_nil_iff.mp empty
    exact changed.elim (fun both => both.2 none') fun some' => some' none
  · rfl

theorem current_ids (page other : Page) (state : NotificationsState) :
    (currentNotifications page state).map Notification.id = (currentNotifications other state).map Notification.id := by
  unfold currentNotifications
  split
  · rw [loadNotifications, loadNotifications, List.map_map, List.map_map]
    rfl
  · rfl

theorem top_eq_nil {notifications : List Notification}
    (empty : Feed.top Notification.date Notification.id defaultMaxNotificationsStored notifications = []) : notifications = [] := by
  cases notifications with
  | nil => rfl
  | cons notification rest =>
    have length := congrArg List.length empty
    rw [Feed.top, List.length_take, (newestFirst_perm _ _).length_eq] at length
    simp [firsts, defaultMaxNotificationsStored] at length

theorem current_bell (page other : Page) (valid : Valid (currentNotifications page state)) :
    currentNotifications other (bell createRouteURL page warnings state) = (bell createRouteURL page warnings state).notifications := by
  by_cases empty : (bell createRouteURL page warnings state).notifications = []
  · have whole := top_eq_nil ((bell_notifications page valid).symm.trans empty)
    obtain ⟨nothing, current⟩ := List.append_eq_nil_iff.mp whole
    have unchanged : bell createRouteURL page warnings state = state := by
      unfold bell
      dsimp only
      rw [notificationsToShow_eq, nothing, current]
      exact if_neg (by simp)
    rw [unchanged] at empty ⊢
    unfold currentNotifications at current ⊢
    rw [if_pos empty] at current ⊢
    rw [empty, List.map_eq_nil_iff.mp current]
    rfl
  · exact if_neg empty

/-- What the bell leads to when it runs again and again, each time on the page as it is then. -/
def rounds (createRouteURL : String → String) (pages : Nat → Page) (warnings : Warnings) (state : NotificationsState) : Nat → NotificationsState
  | 0 => state
  | count + 1 => bell createRouteURL (pages count) warnings (rounds createRouteURL pages warnings state count)

def warned (warnings : Warnings) : List (String × Nat) :=
  warnings.flatMap fun row => (row.2.getD []).map fun event => (event.uid, event.creationTimestamp)

def listed (notifications : List Notification) : List (String × Nat) := notifications.map fun notification => (notification.id, notification.date)

/-- A warning has a time, and warnings and notifications with one id have one time. -/
structure Dated (warnings : Warnings) (notifications : List Notification) : Prop where
  dated : ∀ row ∈ warned warnings, row.2 ≠ 0
  agree : ∀ first ∈ warned warnings ++ listed notifications, ∀ second ∈ warned warnings ++ listed notifications,
    first.1 = second.1 → first.2 = second.2

variable {pages : Nat → Page} {time : String → Nat}

theorem offers_dated (page : Page) (dated : ∀ row ∈ warned warnings, row.2 ≠ 0 ∧ row.2 = time row.1) :
    ∀ item ∈ offers createRouteURL page warnings, item.date = time item.id := by
  intro item member
  obtain ⟨row, inside, among⟩ := List.mem_flatMap.mp member
  obtain ⟨event, here, rfl⟩ := List.mem_map.mp among
  have both := dated (event.uid, event.creationTimestamp) (List.mem_flatMap.mpr ⟨row, inside, List.mem_map.mpr ⟨event, here, rfl⟩⟩)
  exact (if_neg both.1).trans both.2

theorem rounds_listed (valid : Valid (currentNotifications (pages 0) state)) (dated : ∀ row ∈ warned warnings, row.2 ≠ 0 ∧ row.2 = time row.1)
    (also : ∀ item ∈ currentNotifications (pages 0) state, item.date = time item.id) (count : Nat) :
    let current := currentNotifications (pages count) (rounds createRouteURL pages warnings state count)
    Valid current ∧ (∀ item ∈ current, item.date = time item.id) ∧ current.map Notification.id =
      (Feed.next time defaultMaxNotificationsStored (firsts id [] (uids warnings)))^[count] ((currentNotifications (pages 0) state).map Notification.id) := by
  induction count with
  | zero => exact ⟨valid, also, rfl⟩
  | succ count ih =>
    obtain ⟨valid, also, ids⟩ := ih
    have whole : ∀ item ∈ offers createRouteURL (pages count) warnings ++
        currentNotifications (pages count) (rounds createRouteURL pages warnings state count), item.date = time item.id :=
      fun item member => (List.mem_append.mp member).elim (offers_dated _ dated item) (also item)
    dsimp only [rounds]
    rw [current_bell _ _ valid, bell_ids valid whole, Function.iterate_succ_apply', ids]
    refine ⟨?_, ?_, rfl⟩
    · rw [bell_notifications _ valid]
      exact top_isValid _
    · intro item member
      rw [bell_notifications _ valid] at member
      rcases List.mem_append.mp (Feed.mem_of_top member) with fresh | old
      · exact whole item (List.mem_append_left _ (List.mem_of_mem_filter fresh))
      · exact also item old

/-- The warnings and the notifications, each id once. -/
def known (warnings : Warnings) (notifications : List Notification) : List (String × Nat) :=
  firsts Prod.fst [] (warned warnings ++ listed notifications)

/-- At each moment that is reached, there is room beside what is newer for all warnings of that moment. -/
def RoomForWarnings (warnings : Warnings) (notifications : List Notification) : Prop :=
  ∀ moment, ((known warnings notifications).countP fun row => moment < row.2) < defaultMaxNotificationsStored →
    ((known warnings notifications).countP fun row => moment < row.2) + ((firsts Prod.fst [] (warned warnings)).countP fun row => row.2 = moment) ≤
      defaultMaxNotificationsStored

theorem countP_ids {rows : List (String × Nat)} (unique : (rows.map Prod.fst).Nodup) (dated : ∀ row ∈ rows, row.2 = time row.1)
    (holds : Nat → Prop) [DecidablePred holds] :
    rows.countP (fun row => holds row.2) = ((rows.map Prod.fst).toFinset.filter fun key => holds (time key)).card := by
  rw [← Feed.countP_eq_card unique, List.countP_map]
  refine List.countP_congr fun row member => ?_
  rw [Function.comp_apply, decide_eq_true_eq, decide_eq_true_eq, dated row member]

theorem ids_settle (valid : Valid (currentNotifications (pages 0) state)) (dated : ∀ row ∈ warned warnings, row.2 ≠ 0 ∧ row.2 = time row.1)
    (also : ∀ item ∈ currentNotifications (pages 0) state, item.date = time item.id) :
    (∃ count, rounds createRouteURL pages warnings state (count + 1) = rounds createRouteURL pages warnings state count) ↔
      ∃ count, (Feed.next time defaultMaxNotificationsStored (firsts id [] (uids warnings)))^[count + 1]
          ((currentNotifications (pages 0) state).map Notification.id) =
        (Feed.next time defaultMaxNotificationsStored (firsts id [] (uids warnings)))^[count]
          ((currentNotifications (pages 0) state).map Notification.id) := by
  have listedIds := @rounds_listed createRouteURL warnings state pages time valid dated also
  constructor
  · rintro ⟨count, same⟩
    refine ⟨count, ?_⟩
    rw [← (listedIds (count + 1)).2.2, ← (listedIds count).2.2, same]
    exact current_ids _ _ _
  · rintro ⟨count, same⟩
    obtain ⟨valid, dates, ids⟩ := listedIds (count + 1)
    have list := @current_bell createRouteURL warnings _ (pages count) (pages (count + 1)) (listedIds count).1
    refine ⟨count + 1, bell_same ?_⟩
    have again : (bell createRouteURL (pages (count + 1)) warnings (rounds createRouteURL pages warnings state (count + 1))).notifications.map Notification.id =
        (currentNotifications (pages (count + 1)) (rounds createRouteURL pages warnings state (count + 1))).map Notification.id := by
      have after := (listedIds (count + 2)).2.2
      rw [rounds, current_bell _ _ valid] at after
      rw [after, Function.iterate_succ_apply', same, ids, Function.iterate_succ_apply']
    rw [bell_notifications _ valid] at again ⊢
    rw [Feed.top_same valid.unique again]
    exact list

theorem Dated.exists_time {notifications : List Notification} (dated : Dated warnings notifications) :
    ∃ time : String → Nat, ∀ row ∈ warned warnings ++ listed notifications, row.2 = time row.1 := by
  refine ⟨fun key => (Keyed.lookup key (known warnings notifications)).getD 0, fun row member => ?_⟩
  obtain ⟨first, kept, same⟩ : ∃ first ∈ known warnings notifications, first.1 = row.1 := exists_firsts.mpr ⟨row, member, rfl⟩
  have found : Keyed.lookup first.1 (known warnings notifications) = some first.2 := Keyed.lookup_mem (firsts_nodup [] _) kept
  dsimp only
  rw [← same, found]
  exact dated.agree row member first ((firsts_sublist [] _).subset kept) same.symm

/-- The bell comes to rest, on whatever pages it runs, exactly when there is room for the warnings of one moment. -/
theorem bell_rests_iff (createRouteURL : String → String) (pages : Nat → Page) (warnings : Warnings) (state : NotificationsState)
    (valid : Valid (currentNotifications (pages 0) state)) (dated : Dated warnings (currentNotifications (pages 0) state)) :
    (∃ count, rounds createRouteURL pages warnings state (count + 1) = rounds createRouteURL pages warnings state count) ↔
      RoomForWarnings warnings (currentNotifications (pages 0) state) := by
  obtain ⟨time, times⟩ := dated.exists_time
  have warnedTimes : ∀ row ∈ warned warnings, row.2 ≠ 0 ∧ row.2 = time row.1 :=
    fun row member => ⟨dated.dated row member, times row (List.mem_append_left _ member)⟩
  have listedTimes : ∀ item ∈ currentNotifications (pages 0) state, item.date = time item.id :=
    fun item member => times (item.id, item.date) (List.mem_append_right _ (List.mem_map.mpr ⟨item, member, rfl⟩))
  have kept : Feed.Kept time defaultMaxNotificationsStored ((currentNotifications (pages 0) state).map Notification.id) := by
    refine ⟨valid.unique, List.pairwise_map.mpr (valid.falling.imp_of_mem fun here there upper => ?_), ?_⟩
    · rwa [← listedTimes _ here, ← listedTimes _ there]
    · rw [List.length_map]
      exact valid.fits
  have warnedIds : uids warnings = (warned warnings).map Prod.fst := by
    rw [warned, List.map_flatMap, uids]
    refine congrArg (List.flatMap · warnings) (funext fun row => ?_)
    rw [List.map_map]
    rfl
  have offered : firsts id [] (uids warnings) = (firsts Prod.fst [] (warned warnings)).map Prod.fst := by rw [map_firsts, warnedIds]
  have all : (firsts id [] (uids warnings)).toFinset ∪ ((currentNotifications (pages 0) state).map Notification.id).toFinset =
      ((known warnings (currentNotifications (pages 0) state)).map Prod.fst).toFinset := by
    have once : ∀ (keys : List String) (key : String), key ∈ firsts id [] keys ↔ key ∈ keys := by
      intro keys key
      simpa using @exists_firsts _ _ _ id keys key
    ext key
    rw [known, map_firsts, List.map_append, ← warnedIds, listed, List.map_map, Finset.mem_union, List.mem_toFinset, List.mem_toFinset,
      List.mem_toFinset, once, once, List.mem_append]
    rfl
  rw [ids_settle valid warnedTimes listedTimes, Feed.settles_iff (offered ▸ firsts_nodup [] _) kept]
  refine forall_congr' fun moment => ?_
  have newer : (known warnings (currentNotifications (pages 0) state)).countP (fun row => moment < row.2) = (Feed.newer time
      ((firsts id [] (uids warnings)).toFinset ∪ ((currentNotifications (pages 0) state).map Notification.id).toFinset) moment).card := by
    rw [all]
    exact countP_ids (firsts_nodup [] _) (fun row member => times row ((firsts_sublist [] _).subset member)) (moment < ·)
  have here : (firsts Prod.fst [] (warned warnings)).countP (fun row => row.2 = moment) =
      ((firsts id [] (uids warnings)).toFinset.filter (time · = moment)).card := by
    rw [offered]
    exact countP_ids (firsts_nodup [] _) (fun row member => (warnedTimes row ((firsts_sublist [] _).subset member)).2) (· = moment)
  rw [newer, here]
  exact Iff.rfl

end Rounds

/-- More warnings of one moment than there is room for. -/
def crowd : Warnings := [("prod", some ((List.range 201).map fun index => ⟨String.ofList (List.replicate index 'a'), [], 5⟩))]

theorem crowd_warned : warned crowd = (List.range 201).map fun index => (String.ofList (List.replicate index 'a'), 5) := by
  simp [warned, crowd]

theorem crowd_ids : ((warned crowd).map Prod.fst).Nodup := by
  rw [crowd_warned, List.map_map]
  refine List.Nodup.map (fun first second same => ?_) List.nodup_range
  have lengths := congrArg (fun text : String => text.toList.length) same
  simpa using lengths

theorem crowd_no_room : ¬RoomForWarnings crowd [] := by
  intro room
  have first : firsts Prod.fst [] (warned crowd) = warned crowd := by
    rw [firsts_unique crowd_ids]
    simp
  have known' : known crowd [] = warned crowd := by
    rw [known, listed, List.map_nil, List.append_nil, first]
  have none : ((warned crowd).countP fun row => 5 < row.2) = 0 := by
    rw [crowd_warned, List.countP_eq_zero]
    intro row member
    obtain ⟨index, _, rfl⟩ := List.mem_map.mp member
    exact Bool.false_ne_true
  have all : ((warned crowd).countP fun row => row.2 = 5) = 201 := by
    rw [crowd_warned, List.countP_eq_length.mpr, List.length_map, List.length_range]
    intro row member
    obtain ⟨index, _, rfl⟩ := List.mem_map.mp member
    rfl
  have here := room 5
  rw [known', first, none, all] at here
  exact absurd (here (by decide)) (by decide)

/-- The bell runs without an end. -/
theorem bell_never_rests :
    ¬∃ count, rounds id (fun _ => ⟨7, none⟩) crowd initialState (count + 1) = rounds id (fun _ => ⟨7, none⟩) crowd initialState count := by
  rw [bell_rests_iff id (fun _ => ⟨7, none⟩) crowd initialState valid_nil]
  · exact crowd_no_room
  · have dated : ∀ row ∈ warned crowd, row.2 = 5 := by
      intro row member
      rw [crowd_warned] at member
      obtain ⟨index, _, rfl⟩ := List.mem_map.mp member
      rfl
    constructor
    · intro row member
      rw [dated row member]
      decide
    · intro first left second right _
      have all : ∀ row ∈ warned crowd ++ listed [], row.2 = 5 := by simpa [listed] using dated
      exact (all first left).trans (all second right).symm

end K8Sense.Frontend.Notifications
