import K8Sense.Library.Keyed
import K8Sense.Library.Transition

/-! The activities of the frontend, which are screens on top of the page, and the history of
those that are shown, of which the last has the focus. -/

namespace K8Sense.Frontend.Activities
open Keyed Transition

universe u
variable {α : Type u}

inductive ActivityLocation where
  | full
  | splitLeft
  | splitRight
  | splitTop
  | splitBottom
  | window
deriving DecidableEq

/-- What is rendered is an `α`. Only the id is sure to be there, as an update may bring a
part of an activity that is not open. -/
structure Activity (α : Type u) where
  id : String
  content : Option α
  location : Option ActivityLocation
  title : Option α
  hideTitleInHeader : Option Bool
  icon : Option α
  minimized : Option Bool
  temporary : Option Bool
  cluster : Option String
deriving DecidableEq

/-- A part of an activity. A field that is given may be given as undefined. -/
structure Changes (α : Type u) where
  id : String
  content : Option (Option α)
  location : Option (Option ActivityLocation)
  title : Option (Option α)
  hideTitleInHeader : Option (Option Bool)
  icon : Option (Option α)
  minimized : Option (Option Bool)
  temporary : Option (Option Bool)
  cluster : Option (Option String)

/-- The fields of an activity, with those of the part in their place. -/
def Changes.onto (changes : Changes α) (activity : Activity α) : Activity α where
  id := changes.id
  content := changes.content.getD activity.content
  location := changes.location.getD activity.location
  title := changes.title.getD activity.title
  hideTitleInHeader := changes.hideTitleInHeader.getD activity.hideTitleInHeader
  icon := changes.icon.getD activity.icon
  minimized := changes.minimized.getD activity.minimized
  temporary := changes.temporary.getD activity.temporary
  cluster := changes.cluster.getD activity.cluster

def blank (id : String) : Activity α := ⟨id, none, none, none, none, none, none, none, none⟩

structure ActivityState (α : Type u) where
  history : List String
  activities : List (String × Activity α)

def initialState : ActivityState α := ⟨[], []⟩

inductive Action (α : Type u) where
  | launchActivity (innerWidth : Nat) (payload : Activity α)
  | close (id : String)
  | update (changes : Changes α)
  | reset

/-- Move an id to the end of the history. -/
def bump (id : String) (history : List String) : List String := history.filter (· ≠ id) ++ [id]

def close (id : String) (state : ActivityState α) : ActivityState α where
  history := state.history.filter (· ≠ id)
  activities := erase id state.activities

def Activity.isTemporary (activity : Activity α) : Bool := activity.temporary = some true

/-- The loop over the values, from which temporary activities are deleted by their ids. -/
def closeTemporary (state : ActivityState α) : ActivityState α :=
  (state.activities.map Prod.snd).foldl (fun state activity => if activity.isTemporary then close activity.id state else state) state

def Activity.shown (activity : Activity α) : Activity α := { activity with minimized := some false }

def Activity.fullscreen (activity : Activity α) : Activity α := { activity with location := some .full }

/-- An activity that is already there is un-minimized. On a small window it is made fullscreen. -/
def place (innerWidth : Nat) (payload : Activity α) (activities : List (String × Activity α)) : List (String × Activity α) :=
  let activities := upsert payload.id payload Activity.shown activities
  if innerWidth < 1280 then activities.map fun row => if row.1 = payload.id then (row.1, row.2.fullscreen) else row
  else activities

def launchActivity (innerWidth : Nat) (payload : Activity α) (state : ActivityState α) : ActivityState α :=
  let history := if payload.minimized = some true then state.history else bump payload.id state.history
  let state := closeTemporary { state with history := history }
  { state with activities := place innerWidth payload state.activities }

def update (changes : Changes α) (state : ActivityState α) : ActivityState α where
  history :=
    if changes.minimized = some (some true) then state.history.filter (· ≠ changes.id) else bump changes.id state.history
  activities := upsert changes.id (changes.onto (blank changes.id)) changes.onto state.activities

def reducer (state : ActivityState α) : Action α → ActivityState α
  | .launchActivity innerWidth payload => launchActivity innerWidth payload state
  | .close id => close id state
  | .update changes => update changes state
  | .reset => initialState

def step (state : ActivityState α) (action : Action α) : Option (ActivityState α) := some (reducer state action)

/-! What the state looks like after any actions. -/

/-- An activity is stored under its id, once. What is in the history is open, and is there once. -/
structure Valid (state : ActivityState α) : Prop where
  unique : Unique state.activities
  named : ∀ row ∈ state.activities, row.2.id = row.1
  nodup : state.history.Nodup
  opened : ∀ id ∈ state.history, id ∈ state.activities.map Prod.fst

@[simp] theorem mem_bump {id other : String} {history : List String} : other ∈ bump id history ↔ other ∈ history ∨ other = id := by
  by_cases same : other = id <;> simp [bump, same]

theorem bump_nodup {history : List String} (nodup : history.Nodup) (id : String) : (bump id history).Nodup := by
  rw [bump, List.nodup_append]
  refine ⟨nodup.filter _, List.nodup_singleton id, ?_⟩
  intro other kept last final
  rw [List.mem_singleton.mp final]
  simpa using (List.mem_filter.mp kept).2

theorem erase_unique {id : String} {activities : List (String × Activity α)} (unique : Unique activities) :
    Unique (erase id activities) := by
  exact unique.sublist (List.filter_sublist.map _)

theorem close_valid {state : ActivityState α} (valid : Valid state) (id : String) : Valid (close id state) where
  unique := erase_unique valid.unique
  named row member := valid.named row (List.mem_of_mem_filter member)
  nodup := valid.nodup.filter _
  opened other member := by
    rw [close, List.mem_filter, decide_eq_true_eq] at member
    exact mem_erase_keys.mpr ⟨valid.opened other member.1, member.2⟩

/-- The activities that stay when the temporary ones are closed. -/
def permanent (activities : List (String × Activity α)) : List (String × Activity α) := activities.filter fun row => !row.2.isTemporary

/-- Which ids are those of temporary activities. -/
def temporaryIds (activities : List (String × Activity α)) : List String :=
  (activities.filter fun row => row.2.isTemporary).map Prod.fst

theorem closing_loop (values : List (Activity α)) (state : ActivityState α) :
    values.foldl (fun state activity => if activity.isTemporary then close activity.id state else state) state =
      { history := state.history.filter fun id => id ∉ (values.filter Activity.isTemporary).map Activity.id
        activities := state.activities.filter fun row => row.1 ∉ (values.filter Activity.isTemporary).map Activity.id } := by
  induction values generalizing state with
  | nil => simp
  | cons activity rest ih =>
    rw [List.foldl_cons, ih]
    by_cases temporary : activity.isTemporary = true
    · simp only [temporary, if_true, List.filter_cons_of_pos, close, erase, List.filter_filter, List.map_cons, List.mem_cons, not_or]
      congr 1
      · apply List.filter_congr
        intro id _
        simp [Bool.and_comm]
      · apply List.filter_congr
        intro row _
        simp [Bool.and_comm]
    · simp [temporary]

theorem closeTemporary_eq {state : ActivityState α} (unique : Unique state.activities) (named : ∀ row ∈ state.activities, row.2.id = row.1) :
    closeTemporary state =
      { history := state.history.filter fun id => id ∉ temporaryIds state.activities
        activities := permanent state.activities } := by
  have ids : ((state.activities.map Prod.snd).filter Activity.isTemporary).map Activity.id = temporaryIds state.activities := by
    rw [List.filter_map, List.map_map, temporaryIds]
    apply List.map_congr_left
    intro row member
    exact named row (List.mem_of_mem_filter member)
  rw [closeTemporary, closing_loop, ids]
  congr 1
  apply List.filter_congr
  intro row member
  have both : row.1 ∈ temporaryIds state.activities ↔ row.2.isTemporary = true := by
    constructor
    · intro listed
      obtain ⟨other, kept, same⟩ := List.mem_map.mp listed
      obtain ⟨inside, temporary⟩ := List.mem_filter.mp kept
      rwa [List.inj_on_of_nodup_map unique member inside same.symm]
    · intro temporary
      exact List.mem_map_of_mem (List.mem_filter.mpr ⟨member, temporary⟩)
  simp [both]

theorem lookup_permanent {activities : List (String × Activity α)} (unique : Unique activities) (id : String) :
    lookup id (permanent activities) = (lookup id activities).filter fun activity => !activity.isTemporary :=
  @lookup_filter _ _ _ (fun activity : Activity α => !activity.isTemporary) _ unique id

theorem mem_temporaryIds {activities : List (String × Activity α)} (unique : Unique activities) {id : String} :
    id ∈ temporaryIds activities ↔ ∃ activity, lookup id activities = some activity ∧ activity.isTemporary = true := by
  constructor
  · intro listed
    obtain ⟨row, kept, rfl⟩ := List.mem_map.mp listed
    obtain ⟨member, temporary⟩ := List.mem_filter.mp kept
    exact ⟨row.2, lookup_mem unique member, temporary⟩
  · rintro ⟨activity, found, temporary⟩
    exact List.mem_map.mpr ⟨(id, activity), List.mem_filter.mpr ⟨mem_of_lookup found, temporary⟩, rfl⟩

theorem place_keys (innerWidth : Nat) (payload : Activity α) (activities : List (String × Activity α)) :
    (place innerWidth payload activities).map Prod.fst = (upsert payload.id payload Activity.shown activities).map Prod.fst := by
  unfold place
  simp only
  split
  · rw [List.map_map]
    apply List.map_congr_left
    intro row _
    simp only [Function.comp_apply]
    split <;> rfl
  · rfl

theorem lookup_place (innerWidth : Nat) (payload : Activity α) (activities : List (String × Activity α)) (id : String) :
    lookup id (place innerWidth payload activities) =
      if id = payload.id then
        some (if innerWidth < 1280 then (((lookup payload.id activities).map Activity.shown).getD payload).fullscreen
          else ((lookup payload.id activities).map Activity.shown).getD payload)
      else lookup id activities := by
  unfold place
  simp only
  split
  · rw [lookup_map, lookup_upsert, lookup_upsert, if_pos rfl]
    split <;> rfl
  · rw [lookup_upsert]

theorem launchActivity_eq {state : ActivityState α} (valid : Valid state) (innerWidth : Nat) (payload : Activity α) :
    launchActivity innerWidth payload state =
      { history := (if payload.minimized = some true then state.history else bump payload.id state.history).filter fun id =>
          id ∉ temporaryIds state.activities
        activities := place innerWidth payload (permanent state.activities) } := by
  unfold launchActivity
  simp only
  rw [@closeTemporary_eq _ { state with history := if payload.minimized = some true then state.history else bump payload.id state.history }
    valid.unique valid.named]

theorem place_named {innerWidth : Nat} {payload : Activity α} {activities : List (String × Activity α)} (unique : Unique activities)
    (named : ∀ row ∈ activities, row.2.id = row.1) : ∀ row ∈ place innerWidth payload activities, row.2.id = row.1 := by
  intro row member
  have placed : Keyed.Unique (place innerWidth payload activities) := by
    unfold Keyed.Unique
    rw [place_keys]
    exact unique_upsert unique
  have found := lookup_mem placed member
  rw [lookup_place] at found
  split at found
  next same =>
    rw [same, ← Option.some.inj found]
    have base : (((lookup payload.id activities).map Activity.shown).getD payload).id = payload.id := by
      cases known : lookup payload.id activities with
      | none => rfl
      | some activity => exact named (payload.id, activity) (mem_of_lookup known)
    split <;> exact base
  next => exact named row (mem_of_lookup found)

theorem launch_valid {state : ActivityState α} (valid : Valid state) (innerWidth : Nat) (payload : Activity α) :
    Valid (launchActivity innerWidth payload state) := by
  have kept : Keyed.Unique (permanent state.activities) := valid.unique.sublist (List.filter_sublist.map _)
  rw [launchActivity_eq valid]
  constructor
  · unfold Keyed.Unique
    rw [place_keys]
    exact unique_upsert kept
  · exact place_named kept fun row member => valid.named row (List.mem_of_mem_filter member)
  · apply List.Nodup.filter
    split
    · exact valid.nodup
    · exact bump_nodup valid.nodup _
  · intro id member
    obtain ⟨before, permanently⟩ := List.mem_filter.mp member
    rw [place_keys, mem_upsert_keys]
    by_cases same : id = payload.id
    · exact .inr same
    · have opened : id ∈ state.activities.map Prod.fst := by
        apply valid.opened
        split at before
        · exact before
        · exact (mem_bump.mp before).resolve_right same
      obtain ⟨row, inside, rfl⟩ := List.mem_map.mp opened
      refine .inl (List.mem_map_of_mem (List.mem_filter.mpr ⟨inside, ?_⟩))
      rw [Bool.not_eq_true']
      apply Bool.eq_false_iff.mpr
      intro temporary
      exact of_decide_eq_true permanently (List.mem_map_of_mem (List.mem_filter.mpr ⟨inside, temporary⟩))

theorem update_valid {state : ActivityState α} (valid : Valid state) (changes : Changes α) : Valid (update changes state) where
  unique := unique_upsert valid.unique
  named row member := by
    rcases mem_upsert_cases member with ⟨old, _⟩ | rfl | ⟨_, _, rfl⟩
    · exact valid.named row old
    · rfl
    · rfl
  nodup := by
    unfold update
    simp only
    split
    · exact valid.nodup.filter _
    · exact bump_nodup valid.nodup _
  opened id member := by
    unfold update at member ⊢
    simp only at member
    rw [mem_upsert_keys]
    split at member
    · exact .inl (valid.opened id (List.mem_of_mem_filter member))
    · exact (mem_bump.mp member).imp_left (valid.opened id)

theorem reducer_valid {state : ActivityState α} (valid : Valid state) (action : Action α) : Valid (reducer state action) := by
  cases action with
  | launchActivity innerWidth payload => exact launch_valid valid innerWidth payload
  | close id => exact close_valid valid id
  | update changes => exact update_valid valid changes
  | reset => exact ⟨List.nodup_nil, by simp [reducer, initialState], List.nodup_nil, by simp [reducer, initialState]⟩

theorem initial_valid : Valid (initialState : ActivityState α) :=
  ⟨List.nodup_nil, by simp [initialState], List.nodup_nil, by simp [initialState]⟩

/-! The order of the history. -/

/-- The activity that an action brings to the front. -/
def Action.uses : Action α → Option String
  | .launchActivity _ payload => if payload.minimized = some true then none else some payload.id
  | .update changes => if changes.minimized = some (some true) then none else some changes.id
  | .close _ | .reset => none

/-- The activities by their last use, the latest at the end. -/
def lastUses (actions : List (Action α)) : List String :=
  (actions.filterMap Action.uses).foldl (fun ids id => bump id ids) []

theorem lastUses_snoc (actions : List (Action α)) (action : Action α) :
    lastUses (actions ++ [action]) = match action.uses with
      | some id => bump id (lastUses actions)
      | none => lastUses actions := by
  rw [lastUses, List.filterMap_append, List.foldl_append]
  cases is : action.uses <;> simp [is, lastUses]

theorem bump_sublist {history ids : List String} (sublist : history.Sublist ids) (id : String) :
    (bump id history).Sublist (bump id ids) := (sublist.filter _).append (List.Sublist.refl _)

theorem reducer_history {state : ActivityState α} (valid : Valid state) (action : Action α) {ids : List String}
    (sublist : state.history.Sublist ids) :
    (reducer state action).history.Sublist (match action.uses with
      | some id => bump id ids
      | none => ids) := by
  cases action with
  | launchActivity innerWidth payload =>
    rw [reducer, launchActivity_eq valid, Action.uses]
    refine List.filter_sublist.trans ?_
    by_cases minimized : payload.minimized = some true
    · rwa [if_pos minimized, if_pos minimized]
    · rw [if_neg minimized, if_neg minimized]
      exact bump_sublist sublist _
  | close id => exact List.filter_sublist.trans sublist
  | update changes =>
    rw [reducer, update, Action.uses]
    by_cases minimized : changes.minimized = some (some true)
    · rw [if_pos minimized, if_pos minimized]
      exact List.filter_sublist.trans sublist
    · rw [if_neg minimized, if_neg minimized]
      exact bump_sublist sublist _
  | reset => exact List.nil_sublist _

theorem reducer_run (state : ActivityState α) (actions : List (Action α)) :
    run step state actions = some (actions.foldl reducer state) := by
  induction actions generalizing state with
  | nil => rfl
  | cons action rest ih => exact ih (reducer state action)

theorem foldl_valid (actions : List (Action α)) : Valid (actions.foldl reducer initialState) :=
  always Valid (fun _ action _ valid taken => Option.some.inj taken ▸ reducer_valid valid action) initial_valid (reducer_run _ actions)

/-- The history is that of the last uses, without some of them. It names open activities,
none of them twice. -/
theorem history_recent (actions : List (Action α)) :
    let state := actions.foldl reducer initialState
    state.history.Sublist (lastUses actions) ∧ state.history.Nodup ∧
      ∀ id ∈ state.history, ∃ activity, lookup id state.activities = some activity ∧ activity.id = id := by
  have valid := foldl_valid actions
  refine ⟨?_, valid.nodup, ?_⟩
  · induction actions using List.reverseRecOn with
    | nil => exact List.nil_sublist _
    | append_singleton actions action ih =>
      rw [List.foldl_append, List.foldl_cons, List.foldl_nil, lastUses_snoc]
      exact reducer_history (foldl_valid actions) action (ih (foldl_valid actions))
  · intro id member
    obtain ⟨row, inside, rfl⟩ := List.mem_map.mp (valid.opened id member)
    exact ⟨row.2, lookup_mem valid.unique inside, valid.named row inside⟩

/-! What is open and not minimized is in the history, unless it was hidden by a launch. -/

def Shown (state : ActivityState α) : Prop :=
  ∀ id activity, lookup id state.activities = some activity → activity.minimized ≠ some true → id ∈ state.history

/-- A launch of a temporary activity that is open takes it out of the history. One of a
permanent activity that is launched as minimized un-minimizes it, but leaves it out. -/
def Hides (state : ActivityState α) : Action α → Prop
  | .launchActivity _ payload => ∃ known, lookup payload.id state.activities = some known ∧
      if known.isTemporary then payload.minimized ≠ some true else payload.minimized = some true ∧ payload.id ∉ state.history
  | _ => False

theorem launch_lookup {state : ActivityState α} (valid : Valid state) (innerWidth : Nat) (payload : Activity α) :
    ∃ launched, lookup payload.id (launchActivity innerWidth payload state).activities = some launched ∧
      launched.minimized = match lookup payload.id state.activities with
        | some known => if known.isTemporary then payload.minimized else some false
        | none => payload.minimized := by
  rw [launchActivity_eq valid]
  simp only [lookup_place, if_true, lookup_permanent valid.unique]
  refine ⟨_, rfl, ?_⟩
  cases lookup payload.id state.activities with
  | none => split <;> rfl
  | some known =>
    cases temporary : known.isTemporary with
    | true => split <;> simp [Option.filter, temporary, Activity.fullscreen]
    | false => split <;> simp [Option.filter, temporary, Activity.fullscreen, Activity.shown]

theorem launch_mem {state : ActivityState α} (valid : Valid state) (innerWidth : Nat) (payload : Activity α) :
    payload.id ∈ (launchActivity innerWidth payload state).history ↔
      (payload.minimized = some true → payload.id ∈ state.history) ∧ payload.id ∉ temporaryIds state.activities := by
  rw [launchActivity_eq valid]
  simp only [List.mem_filter, decide_eq_true_eq]
  by_cases minimized : payload.minimized = some true <;> simp [minimized]

theorem launch_others {state : ActivityState α} (valid : Valid state) (shown : Shown state) (innerWidth : Nat) {payload : Activity α}
    {id : String} (other : id ≠ payload.id) {activity : Activity α}
    (found : lookup id (launchActivity innerWidth payload state).activities = some activity) (open' : activity.minimized ≠ some true) :
    id ∈ (launchActivity innerWidth payload state).history := by
  rw [launchActivity_eq valid] at found ⊢
  simp only [lookup_place, if_neg other, lookup_permanent valid.unique, Option.filter_eq_some_iff] at found
  obtain ⟨found, permanently⟩ := found
  have before := shown id activity found open'
  simp only [List.mem_filter, decide_eq_true_eq]
  refine ⟨?_, ?_⟩
  · split
    · exact before
    · exact mem_bump.mpr (.inl before)
  · rw [mem_temporaryIds valid.unique]
    rintro ⟨same, again, temporary⟩
    rw [found, Option.some.injEq] at again
    subst again
    simp [temporary] at permanently

theorem launch_shown {state : ActivityState α} (valid : Valid state) (shown : Shown state) (innerWidth : Nat) (payload : Activity α) :
    ¬Hides state (.launchActivity innerWidth payload) ↔ Shown (launchActivity innerWidth payload state) := by
  obtain ⟨launched, found, minimized⟩ := launch_lookup valid innerWidth payload
  have only : Shown (launchActivity innerWidth payload state) ↔
      (launched.minimized ≠ some true → payload.id ∈ (launchActivity innerWidth payload state).history) := by
    constructor
    · exact fun all => all payload.id launched found
    · intro here id activity is open'
      by_cases same : id = payload.id
      · subst same
        rw [found, Option.some.injEq] at is
        exact here (is ▸ open')
      · exact launch_others valid shown innerWidth same is open'
  rw [only, launch_mem valid, mem_temporaryIds valid.unique, Hides, minimized]
  cases lookup payload.id state.activities with
  | none =>
    refine iff_of_true (by simp) fun open' => ⟨fun is => absurd is open', by simp⟩
  | some known =>
    cases temporary : known.isTemporary <;> by_cases is : payload.minimized = some true <;> simp [is, temporary]

theorem step_shown {state next : ActivityState α} {action : Action α} (valid : Valid state) (shown : Shown state)
    (taken : step state action = some next) : ¬Hides state action ↔ Shown next := by
  cases taken
  cases action with
  | launchActivity innerWidth payload => exact launch_shown valid shown innerWidth payload
  | close id =>
    refine iff_of_true not_false ?_
    intro other activity found open'
    rw [reducer, close, lookup_erase] at found
    split at found
    · cases found
    next different => exact List.mem_filter.mpr ⟨shown other activity found open', decide_eq_true different⟩
  | update changes =>
    refine iff_of_true not_false ?_
    intro id activity found open'
    rw [reducer, update, lookup_upsert] at found
    rw [reducer, update]
    by_cases same : id = changes.id
    · subst same
      rw [if_pos rfl, Option.some.injEq] at found
      have is : changes.minimized ≠ some (some true) := by
        intro given
        apply open'
        rw [← found]
        cases lookup changes.id state.activities <;> simp [Changes.onto, given]
      rw [if_neg is, mem_bump]
      exact .inr rfl
    · rw [if_neg same] at found
      have before := shown id activity found open'
      split
      · exact List.mem_filter.mpr ⟨before, decide_eq_true same⟩
      · exact mem_bump.mpr (.inl before)
  | reset =>
    refine iff_of_true not_false ?_
    intro id activity found
    cases found

/-- In a run from the start everything that is open and not minimized is in the history at
all times, exactly when no launch hides an activity. -/
theorem shown_iff (actions : List (Action α)) :
    (∀ before after, actions = before ++ after → Shown (before.foldl reducer initialState)) ↔
      ∀ before action after, actions = before ++ action :: after → ¬Hides (before.foldl reducer initialState) action := by
  have begins : Shown (initialState : ActivityState α) := by
    intro id activity found
    cases found
  have throughout := @throughout_iff _ _ step (fun state action => ¬Hides state action) Valid Shown
    (fun _ action _ valid _ taken => Option.some.inj taken ▸ reducer_valid valid action)
    (fun _ _ _ valid shown taken => step_shown valid shown taken) _ _ _ initial_valid begins (reducer_run initialState actions)
  rw [meets_iff_prefixes] at throughout
  simp only [reducer_run, Option.some.injEq] at throughout
  constructor
  · intro always before action after split
    apply throughout.mp ?_ before action after _ split rfl
    rintro front rest _ parts rfl
    exact always front rest parts
  · intro never before after split
    apply throughout.mpr ?_ before after _ split rfl
    rintro front action rest _ parts rfl
    exact never front action rest parts

end K8Sense.Frontend.Activities
