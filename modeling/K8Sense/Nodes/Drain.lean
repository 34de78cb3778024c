import Mathlib.Data.List.Basic
import Mathlib.Logic.Function.Basic

/-! Draining a node: it is cordoned, its pods are deleted one by one, and the status of the
drain is stored for those who ask. -/

namespace K8Sense.Nodes

structure ApiError where
  text : String
  isNotFound : Bool
  isCanceled : Bool
  isDeadlineExceeded : Bool
deriving DecidableEq

/-- The server's context has ended, or it looks so. -/
def ApiError.isDone (err : ApiError) : Bool := err.isCanceled || err.isDeadlineExceeded

structure Node where
  name : String
  unschedulable : Bool
deriving DecidableEq

structure OwnerReference where
  kind : String
  name : String
deriving DecidableEq

structure Pod where
  «namespace» : String
  name : String
  labels : List (String × String)
  ownerReferences : List OwnerReference
deriving DecidableEq

inductive Call where
  | get (nodeName : String)
  | update (node : Node)
  | list (fieldSelector : String)
  | delete (pod : Pod)
deriving DecidableEq

/-- What the API answers, and whether the context of the server is done: when the drain
starts (0), when the node (1), its update (2) and the list of pods (3) are answered, before
each pod (from 4 on), and after the last one. -/
structure Env where
  get : Except ApiError Node
  update : Option ApiError
  list : Except ApiError (List Pod)
  delete : Nat → Option ApiError
  done : Nat → Bool
  stays : ∀ moment, done moment = true → done (moment + 1) = true

structure Run where
  calls : List (Call × Option ApiError)
  /-- None is stored where it is missing. -/
  status : Option String
  ended : Nat

def Run.after (rest : Run) (first : List (Call × Option ApiError)) : Run := { rest with calls := first ++ rest.calls }

/-- The label of daemon sets. -/
def ignored (pod : Pod) : Bool := pod.labels.lookup "kubernetes.io/created-by" == some "daemonset-controller"

def isReported (err : ApiError) : Bool := !err.isNotFound && !err.isCanceled && !err.isDeadlineExceeded

def deleteError (pod : Pod) (err : ApiError) : String := pod.namespace ++ "/" ++ pod.name ++ ": " ++ err.text

def statusOf (deleteErrors : List String) : String :=
  if deleteErrors = [] then "success" else "error: failed to delete " ++ toString deleteErrors.length ++ " pod(s)"

section
variable (env : Env)

def drainNodePods : Nat → List Pod → List String → Run
  | moment, [], deleteErrors => ⟨[], if env.done moment then none else some (statusOf deleteErrors), moment⟩
  | moment, pod :: pods, deleteErrors =>
    if env.done moment then ⟨[], none, moment⟩
    else if ignored pod then drainNodePods (moment + 1) pods deleteErrors
    else
      let outcome := env.delete moment
      (drainNodePods (moment + 1) pods (deleteErrors ++ ((outcome.filter isReported).map (deleteError pod)).toList)).after
        [(.delete pod, outcome)]

/-- A call before the pods has failed. -/
def failed (calls : List (Call × Option ApiError)) (err : ApiError) (moment : Nat) : Run :=
  ⟨calls, if err.isDone then none else some ("error: " ++ err.text), moment⟩

def drainNode (nodeName : String) : Run :=
  if env.done 0 then ⟨[], none, 0⟩
  else
    match env.get with
    | .error err => failed [(.get nodeName, some err)] err 1
    | .ok node =>
      let got : Call × Option ApiError := (.get nodeName, none)
      let cordon := Call.update { node with unschedulable := true }
      match env.update with
      | some err => failed [got, (cordon, some err)] err 2
      | none =>
        let list := Call.list ("spec.nodeName=" ++ nodeName)
        match env.list with
        | .error err => failed [got, (cordon, none), (list, some err)] err 3
        | .ok pods => (drainNodePods env 4 pods []).after [got, (cordon, none), (list, none)]

end

/-- `uuid` is the hash of `uuid.NewSHA1`. -/
def cacheKey (uuid : String → String) (nodeName cluster : String) : String := uuid (nodeName ++ "\x00" ++ cluster)

/-- The stored statuses after a drain. -/
def drained (uuid : String → String) (env : Env) (nodeName cluster : String) (statuses : String → Option String) :
    String → Option String :=
  match (drainNode env nodeName).status with
  | none => statuses
  | some status => Function.update statuses (cacheKey uuid nodeName cluster) (some status)

def ownedByDaemonSet (pod : Pod) : Bool := pod.ownerReferences.any (·.kind = "DaemonSet")

/-- A call has failed otherwise than by finding the pod gone. -/
def isFailure : Call × Option ApiError → Bool
  | (_, none) => false
  | (.delete _, some err) => !err.isNotFound
  | (_, some _) => true

/-- The status says what became of the pods. -/
structure Honest (uuid : String → String) (env : Env) (nodeName cluster : String) : Prop where
  success : ∀ statuses : String → Option String, statuses (cacheKey uuid nodeName cluster) ≠ some "success" →
    drained uuid env nodeName cluster statuses (cacheKey uuid nodeName cluster) = some "success" →
    ∃ pods, env.list = .ok pods ∧ ∀ pod ∈ pods, ownedByDaemonSet pod = false →
      (∃ outcome, (.delete pod, outcome) ∈ (drainNode env nodeName).calls) ∧
        ∀ outcome, (.delete pod, outcome) ∈ (drainNode env nodeName).calls → isFailure (.delete pod, outcome) = false
  spared : ∀ pod outcome, (.delete pod, outcome) ∈ (drainNode env nodeName).calls → ownedByDaemonSet pod = false
  reported : env.done (drainNode env nodeName).ended = false → ∀ call ∈ (drainNode env nodeName).calls, isFailure call = true →
    ∀ statuses, ∃ text, drained uuid env nodeName cluster statuses (cacheKey uuid nodeName cluster) = some ("error: " ++ text)

/-- The pods that the drain gets to, with their moments. -/
def visited (env : Env) (moment : Nat) (pods : List Pod) : List (Pod × Nat) :=
  (pods.zipIdx moment).filter fun entry => !env.done entry.2

/-- The label says of the pods that are visited whether they are a daemon set's. With an
error that is reported, or if the context is done at the end, it may also be on others;
otherwise all pods are deleted or found gone. -/
structure Tidy (env : Env) (moment : Nat) (pods : List Pod) : Prop where
  labelled : ∀ entry ∈ visited env moment pods, ownedByDaemonSet entry.1 = true → ignored entry.1 = true
  told : env.done (moment + pods.length) = false →
    (∀ entry ∈ visited env moment pods, ignored entry.1 = false → ∀ err, env.delete entry.2 = some err → isReported err = false) →
    ∀ entry ∈ visited env moment pods, (ignored entry.1 = true → ownedByDaemonSet entry.1 = true) ∧
      (ignored entry.1 = false → ∀ err, env.delete entry.2 = some err → err.isNotFound = true)

/-- No call fails as if the context were done although it is not, and the pods are tidy. -/
structure Reliable (env : Env) : Prop where
  get : ∀ err, env.get = .error err → err.isDone = true → env.done 1 = true
  update : ∀ node err, env.get = .ok node → env.update = some err → err.isDone = true → env.done 2 = true
  list : ∀ node err, env.get = .ok node → env.update = none → env.list = .error err → err.isDone = true → env.done 3 = true
  pods : ∀ node pods, env.done 0 = false → env.get = .ok node → env.update = none → env.list = .ok pods → Tidy env 4 pods

section
variable {env : Env} {pods : List Pod} {moment : Nat}

theorem done_later (done : env.done moment = true) (later : Nat) : env.done (moment + later) = true := by
  induction later with
  | zero => exact done
  | succ later ih => exact env.stays _ ih

theorem visited_done (done : env.done moment = true) : visited env moment pods = [] := by
  apply List.filter_eq_nil_iff.mpr
  intro entry member
  have bound := List.le_snd_of_mem_zipIdx member
  obtain ⟨later, reached⟩ := Nat.exists_eq_add_of_le bound
  simp [reached, done_later done later]

theorem visited_cons (open_ : env.done moment = false) (pod : Pod) :
    visited env moment (pod :: pods) = (pod, moment) :: visited env (moment + 1) pods := by
  simp [visited, List.zipIdx_cons, open_]

theorem mem_visited (open_ : env.done (moment + pods.length) = false) {pod : Pod} (member : pod ∈ pods) :
    ∃ index, (pod, index) ∈ visited env moment pods := by
  induction pods generalizing moment with
  | nil => cases member
  | cons other pods ih =>
    have now : env.done moment = false := by
      by_contra ended
      rw [Bool.not_eq_false] at ended
      rw [done_later ended] at open_
      contradiction
    rw [visited_cons now]
    rcases List.mem_cons.mp member with rfl | later
    · exact ⟨moment, by simp⟩
    · have length : moment + (other :: pods).length = moment + 1 + pods.length := by rw [List.length_cons]; omega
      rw [length] at open_
      obtain ⟨index, found⟩ := ih open_ later
      exact ⟨index, by simp [found]⟩

def deleted (env : Env) (moment : Nat) (pods : List Pod) : List (Pod × Nat) :=
  (visited env moment pods).filter fun entry => !ignored entry.1

def deleteErrorsOf (env : Env) (entries : List (Pod × Nat)) : List String :=
  entries.flatMap fun entry => (((env.delete entry.2).filter isReported).map (deleteError entry.1)).toList

theorem deleteErrorsOf_cons (entry : Pod × Nat) (entries : List (Pod × Nat)) : deleteErrorsOf env (entry :: entries) =
    (((env.delete entry.2).filter isReported).map (deleteError entry.1)).toList ++ deleteErrorsOf env entries := List.flatMap_cons

theorem deleteErrorsOf_eq_nil_iff {entries : List (Pod × Nat)} : deleteErrorsOf env entries = [] ↔
    ∀ entry ∈ entries, ∀ err, env.delete entry.2 = some err → isReported err = false := by
  simp [deleteErrorsOf, List.flatMap_eq_nil_iff]

theorem drainNodePods_eq (deleteErrors : List String) :
    (drainNodePods env moment pods deleteErrors).calls =
      (deleted env moment pods).map (fun entry => (.delete entry.1, env.delete entry.2)) ∧
    (drainNodePods env moment pods deleteErrors).status = (if env.done (moment + pods.length) then none else
      some (statusOf (deleteErrors ++ deleteErrorsOf env (deleted env moment pods)))) ∧
    env.done (drainNodePods env moment pods deleteErrors).ended = env.done (moment + pods.length) := by
  induction pods generalizing moment deleteErrors with
  | nil => simp [drainNodePods, deleted, visited, deleteErrorsOf]
  | cons pod pods ih =>
    have length : moment + (pod :: pods).length = moment + 1 + pods.length := by rw [List.length_cons]; omega
    rw [drainNodePods]
    cases now : env.done moment with
    | true =>
      have ended := done_later now (pods.length + 1)
      simp [deleted, visited_done now, ended, now]
    | false =>
      rw [length]
      cases labelled : ignored pod with
      | true =>
        have same : deleted env moment (pod :: pods) = deleted env (moment + 1) pods := by
          simp [deleted, visited_cons now, labelled]
        simpa [same] using ih deleteErrors
      | false =>
        have more : deleted env moment (pod :: pods) = (pod, moment) :: deleted env (moment + 1) pods := by
          simp [deleted, visited_cons now, labelled]
        obtain ⟨calls, status, ended⟩ := ih (deleteErrors ++ (((env.delete moment).filter isReported).map (deleteError pod)).toList)
        simp only [Bool.false_eq_true, if_false]
        refine ⟨?_, ?_, ended⟩
        · rw [Run.after, calls, more, List.map_cons, List.singleton_append]
        · rw [Run.after, status, more, deleteErrorsOf_cons, List.append_assoc]

theorem statusOf_eq_success_iff {deleteErrors : List String} : statusOf deleteErrors = "success" ↔ deleteErrors = [] := by
  unfold statusOf
  split
  next none => simp [none]
  next some =>
    apply iff_of_false _ some
    intro same
    have first := congrArg (fun text => text.toList.head?) same
    simp at first

theorem statusOf_error {deleteErrors : List String} (some : deleteErrors ≠ []) : ∃ text, statusOf deleteErrors = "error: " ++ text := by
  refine ⟨"failed to delete " ++ toString deleteErrors.length ++ " pod(s)", ?_⟩
  rw [statusOf, if_neg some, ← String.append_assoc, ← String.append_assoc]
  rfl

/-- What is asked of a run. -/
structure HonestRun (env : Env) (run : Run) : Prop where
  success : run.status = some "success" → ∃ pods, env.list = .ok pods ∧ ∀ pod ∈ pods, ownedByDaemonSet pod = false →
    (∃ outcome, (.delete pod, outcome) ∈ run.calls) ∧
      ∀ outcome, (.delete pod, outcome) ∈ run.calls → isFailure (.delete pod, outcome) = false
  spared : ∀ pod outcome, (.delete pod, outcome) ∈ run.calls → ownedByDaemonSet pod = false
  reported : env.done run.ended = false → ∀ call ∈ run.calls, isFailure call = true → ∃ text, run.status = some ("error: " ++ text)

theorem honest_iff {uuid : String → String} {nodeName cluster : String} :
    Honest uuid env nodeName cluster ↔ HonestRun env (drainNode env nodeName) := by
  have stored (statuses : String → Option String) : drained uuid env nodeName cluster statuses (cacheKey uuid nodeName cluster) =
      (drainNode env nodeName).status.or (statuses (cacheKey uuid nodeName cluster)) := by
    unfold drained
    cases (drainNode env nodeName).status with
    | none => rfl
    | some status => simp
  constructor
  · intro honest
    refine ⟨?_, honest.spared, ?_⟩
    · intro success
      exact honest.success (fun _ => none) nofun (by rw [stored, success]; rfl)
    · intro open_ call member failure
      obtain ⟨text, written⟩ := honest.reported open_ call member failure fun _ => none
      rw [stored, Option.or_none] at written
      exact ⟨text, written⟩
  · intro honest
    refine ⟨?_, honest.spared, ?_⟩
    · intro statuses before after
      rw [stored] at after
      cases status : (drainNode env nodeName).status with
      | none =>
        rw [status] at after
        exact absurd after before
      | some text =>
        rw [status] at after
        exact honest.success (status.trans after)
    · intro open_ call member failure statuses
      obtain ⟨text, written⟩ := honest.reported open_ call member failure
      exact ⟨text, by rw [stored, written]; rfl⟩

theorem failed_honest_iff {calls : List (Call × Option ApiError)} {last : Call} {err : ApiError}
    (before : ∀ pod outcome, (.delete pod, outcome) ∉ calls) (failure : isFailure (last, some err) = true)
    (member : (last, some err) ∈ calls) :
    HonestRun env (failed calls err moment) ↔ (err.isDone = true → env.done moment = true) := by
  constructor
  · intro honest looks
    by_contra open_
    rw [Bool.not_eq_true] at open_
    obtain ⟨text, written⟩ := honest.reported open_ _ member failure
    simp [failed, looks] at written
  · intro really
    refine ⟨?_, ?_, ?_⟩
    · intro success
      simp only [failed] at success
      split at success
      · cases success
      · have first := congrArg (fun text => text.toList.head?) (Option.some.inj success)
        simp at first
    · intro pod outcome inside
      exact absurd inside (before pod outcome)
    · intro open_ _ _ _
      have looks : err.isDone = false := by
        by_contra looks
        rw [Bool.not_eq_false] at looks
        have now : env.done moment = false := open_
        rw [really looks] at now
        contradiction
      exact ⟨err.text, by simp [failed, looks]⟩

section
variable {first : List (Call × Option ApiError)} (before : ∀ pod outcome, (.delete pod, outcome) ∉ first)
include before

theorem mem_calls_iff {pod : Pod} {outcome : Option ApiError} :
    (Call.delete pod, outcome) ∈ ((drainNodePods env moment pods []).after first).calls ↔
      ∃ index, (pod, index) ∈ visited env moment pods ∧ ignored pod = false ∧ env.delete index = outcome := by
  rw [Run.after, (drainNodePods_eq []).1, List.mem_append, List.mem_map]
  constructor
  · rintro (early | ⟨entry, kept, same⟩)
    · exact absurd early (before pod outcome)
    · obtain ⟨seen, plain⟩ := List.mem_filter.mp kept
      simp only [Prod.mk.injEq, Call.delete.injEq] at same
      obtain ⟨rfl, rfl⟩ := same
      exact ⟨entry.2, seen, by simpa using plain, rfl⟩
  · rintro ⟨index, seen, plain, rfl⟩
    exact Or.inr ⟨(pod, index), List.mem_filter.mpr ⟨seen, by simp [plain]⟩, rfl⟩

theorem tidy_of_honest (listed : env.list = .ok pods) (honest : HonestRun env ((drainNodePods env moment pods []).after first)) :
    Tidy env moment pods := by
  constructor
  · intro entry seen owned
    by_contra plain
    rw [Bool.not_eq_true] at plain
    have other := honest.spared entry.1 _ ((mem_calls_iff before).mpr ⟨entry.2, seen, plain, rfl⟩)
    rw [owned] at other
    contradiction
  · intro open_ quiet entry seen
    have none : deleteErrorsOf env (deleted env moment pods) = [] := by
      apply deleteErrorsOf_eq_nil_iff.mpr
      intro other kept
      obtain ⟨there, plain⟩ := List.mem_filter.mp kept
      exact quiet other there (by simpa using plain)
    have status : ((drainNodePods env moment pods []).after first).status = some "success" := by
      rw [Run.after, (drainNodePods_eq []).2.1, open_, none]
      rfl
    obtain ⟨found, same, all⟩ := honest.success status
    obtain rfl : pods = found := Except.ok.inj (listed.symm.trans same)
    have inside : entry.1 ∈ pods := List.fst_mem_of_mem_zipIdx (List.mem_filter.mp seen).1
    constructor
    · intro labelled
      by_contra foreign
      rw [Bool.not_eq_true] at foreign
      obtain ⟨outcome, called⟩ := (all entry.1 inside foreign).1
      obtain ⟨_, _, plain, _⟩ := (mem_calls_iff before).mp called
      rw [labelled] at plain
      contradiction
    · intro plain err answer
      have called := (mem_calls_iff before).mpr ⟨entry.2, seen, plain, answer⟩
      have fate := (all entry.1 inside (honest.spared entry.1 _ called)).2 _ called
      simpa [isFailure] using fate

theorem honest_of_tidy (listed : env.list = .ok pods) (fine : ∀ call ∈ first, isFailure call = false)
    (tidy : Tidy env moment pods) : HonestRun env ((drainNodePods env moment pods []).after first) := by
  obtain ⟨calls, status, ended⟩ := @drainNodePods_eq env pods moment []
  rw [List.nil_append] at status
  have told (open_ : env.done (moment + pods.length) = false) (none : deleteErrorsOf env (deleted env moment pods) = []) :=
    tidy.told open_ fun entry seen plain =>
      deleteErrorsOf_eq_nil_iff.mp none entry (List.mem_filter.mpr ⟨seen, by simp [plain]⟩)
  constructor
  · intro success
    simp only [Run.after, status] at success
    split at success
    · cases success
    next ends =>
      rw [Bool.not_eq_true] at ends
      have told := told ends (statusOf_eq_success_iff.mp (Option.some.inj success))
      refine ⟨pods, listed, ?_⟩
      intro pod inside foreign
      obtain ⟨index, seen⟩ := mem_visited ends inside
      have plain : ignored pod = false := by
        by_contra labelled
        rw [Bool.not_eq_false] at labelled
        have owned := (told _ seen).1 labelled
        rw [foreign] at owned
        contradiction
      refine ⟨⟨_, (mem_calls_iff before).mpr ⟨index, seen, plain, rfl⟩⟩, ?_⟩
      intro outcome called
      obtain ⟨other, there, _, rfl⟩ := (mem_calls_iff before).mp called
      cases answer : env.delete other with
      | none => rfl
      | some err => simp [isFailure, (told _ there).2 plain err answer]
  · intro pod outcome called
    obtain ⟨index, seen, plain, _⟩ := (mem_calls_iff before).mp called
    by_contra owned
    rw [Bool.not_eq_false] at owned
    rw [tidy.labelled _ seen owned] at plain
    contradiction
  · intro ends call member failure
    have open_ : env.done (moment + pods.length) = false := ended ▸ ends
    simp only [Run.after, status, open_, Bool.false_eq_true, if_false]
    by_cases none : deleteErrorsOf env (deleted env moment pods) = []
    · rcases List.mem_append.mp member with early | late
      · rw [fine call early] at failure
        contradiction
      · rw [calls] at late
        obtain ⟨entry, kept, rfl⟩ := List.mem_map.mp late
        obtain ⟨seen, plain⟩ := List.mem_filter.mp kept
        cases answer : env.delete entry.2 with
        | none =>
          rw [answer] at failure
          cases failure
        | some err =>
          have gone := (told open_ none entry seen).2 (by simpa using plain) err answer
          simp [answer, isFailure, gone] at failure
    · obtain ⟨text, written⟩ := statusOf_error none
      exact ⟨text, by rw [written]⟩

end

/-- A drain's status is honest exactly if calls only fail like that when the context is
done, and the label tells the pods of daemon sets. -/
theorem drain_honest_iff (uuid : String → String) (env : Env) (nodeName cluster : String) :
    Honest uuid env nodeName cluster ↔ Reliable env := by
  rw [honest_iff, drainNode]
  split
  next ended =>
    have later : env.done 1 = true ∧ env.done 2 = true ∧ env.done 3 = true :=
      ⟨done_later ended 1, done_later ended 2, done_later ended 3⟩
    apply iff_of_true
    · exact ⟨nofun, by simp, by simp⟩
    · exact ⟨fun _ _ _ => later.1, fun _ _ _ _ _ => later.2.1, fun _ _ _ _ _ _ => later.2.2, by simp [ended]⟩
  next starts =>
    rw [Bool.not_eq_true] at starts
    cases get : env.get with
    | error err =>
      dsimp only
      rw [failed_honest_iff (by simp) rfl (List.mem_singleton.mpr rfl)]
      constructor
      · intro really
        refine ⟨?_, by simp [get], by simp [get], by simp [get]⟩
        intro other same
        obtain rfl : err = other := Except.error.inj (get.symm.trans same)
        exact really
      · intro reliable
        exact reliable.get err get
    | ok node =>
      cases update : env.update with
      | some err =>
        dsimp only
        rw [failed_honest_iff (by simp) rfl (List.mem_cons_of_mem _ (List.mem_singleton.mpr rfl))]
        constructor
        · intro really
          refine ⟨by simp [get], ?_, by simp [update], by simp [update]⟩
          intro _ other _ same
          obtain rfl : err = other := Option.some.inj (update.symm.trans same)
          exact really
        · intro reliable
          exact reliable.update node err get update
      | none =>
        cases list : env.list with
        | error err =>
          dsimp only
          rw [failed_honest_iff (by simp) rfl (List.mem_cons_of_mem _ (List.mem_cons_of_mem _ (List.mem_singleton.mpr rfl)))]
          constructor
          · intro really
            refine ⟨by simp [get], by simp [update], ?_, by simp [list]⟩
            intro _ other _ _ same
            obtain rfl : err = other := Except.error.inj (list.symm.trans same)
            exact really
          · intro reliable
            exact reliable.list node err get update list
        | ok pods =>
          dsimp only
          constructor
          · intro honest
            refine ⟨by simp [get], by simp [update], by simp [list], ?_⟩
            intro _ others _ _ _ same
            obtain rfl : pods = others := Except.ok.inj (list.symm.trans same)
            exact tidy_of_honest (by simp) list honest
          · intro reliable
            exact honest_of_tidy (by simp) list (by simp [isFailure]) (reliable.pods node pods starts get update list)

end

section
def podOf (name : String) (ownerReferences : List OwnerReference) : Pod := ⟨"default", name, [], ownerReferences⟩

def timedOut : ApiError := ⟨"context deadline exceeded", false, false, true⟩

/-- Each delete times out. -/
def slow (pods : List Pod) : Env where
  get := .ok ⟨"worker", false⟩
  update := none
  list := .ok pods
  delete := fun _ => some timedOut
  done := fun _ => false
  stays := nofun

/-- Deletes that time out count as a success, and a daemon set's pod has no label that
spares it. -/
theorem drain_dishonest : ¬∀ (uuid : String → String) (env : Env) (nodeName cluster : String), Honest uuid env nodeName cluster := by
  intro all
  let pods := [podOf "agent" [⟨"DaemonSet", "agent"⟩], podOf "web" []]
  have stored : drained id (slow pods) "worker" "main" (fun _ => none) (cacheKey id "worker" "main") = some "success" := by
    decide +kernel
  obtain ⟨found, same, all⟩ := (all id (slow pods) "worker" "main").success _ (by decide) stored
  obtain rfl : pods = found := Except.ok.inj same
  have failure := (all (podOf "web" []) (by simp [pods]) rfl).2 (some timedOut) (by decide +kernel)
  cases failure

end

end K8Sense.Nodes
