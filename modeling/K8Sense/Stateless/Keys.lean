import K8Sense.Library.Text
import Mathlib.Logic.Function.Basic

/-! The keys under which contexts of stateless clusters are stored and looked up. -/

namespace K8Sense.Stateless
open Text

def statelessContextKeySep : Char := Char.ofNat 0

def statelessContextKey (clusterName userID : String) : String :=
  if userID = "" then clusterName else clusterName ++ String.singleton statelessContextKeySep ++ userID

/-- What comes before the user id in its subprotocol. -/
def userProtocol : String := "base64url.headlamp.authorization.k8s.io."

/-- `[a-zA-Z0-9_-]`. -/
def isIDChar (char : Char) : Bool :=
  'a' ≤ char && char ≤ 'z' || 'A' ≤ char && char ≤ 'Z' || '0' ≤ char && char ≤ '9' || char = '_' || char = '-'

/-- The group of the pattern where it matches at the start, and nothing where it does
not. -/
def matchUserID (text : List Char) : List Char :=
  if userProtocol.toList.isPrefixOf text then (text.drop userProtocol.toList.length).takeWhile isIDChar else []

def findUserID : List Char → List Char
  | [] => []
  | char :: rest =>
    match matchUserID (char :: rest) with
    | [] => findUserID rest
    | found => found

def isUserProtocol (protocol : String) : Bool := userProtocol.toList.isPrefixOf protocol.toList

/-- The key for an upgrade, and the subprotocols that are passed on. -/
def websocketConnContextKey (protocols clusterName : String) : String × String :=
  let userID := String.ofList (findUserID protocols.toList)
  let updatedProtocols := (splitText protocols ", ").filter fun protocol => !isUserProtocol protocol
  (if userID = "" then clusterName else statelessContextKey clusterName userID, concat ", " updatedProtocols)

section
variable {α : Type} (getClusterContext : String → Option α) (clusterID userID : String)

/-- A context of a stateful cluster comes before one of a stateless cluster. -/
def getClusterContextWithFallback : Except String α :=
  match getClusterContext clusterID with
  | some clusterContext => .ok clusterContext
  | none =>
    match getClusterContext (clusterID ++ userID) with
    | some clusterContext => .ok clusterContext
    | none => .error "getting cluster config: key not found"

/-- The key under which the multiplexer looks last. -/
def multiplexerKey : String := if (getClusterContext clusterID).isSome then clusterID else clusterID ++ userID

end

/-- The key with which `StartPortForward` looks for the context. -/
def portForwardContextKey (clusterName userID : String) : String :=
  if userID ≠ "" then clusterName ++ userID else clusterName

/-- The other subprotocols of an upgrade, none of which carries a user id. -/
structure Subprotocols where
  before : List String
  after : List String
  plain : ∀ protocol ∈ before ++ after, findUserID protocol.toList = []

/-- The subprotocols of an upgrade for a user. -/
def Subprotocols.header (others : Subprotocols) (userID : String) : String :=
  concat ", " (others.before ++ (userProtocol ++ userID) :: others.after)

variable {α : Type} {getClusterContext : String → Option α} {clusterName userID : String}

/-! The pattern. -/

theorem matchUserID_append {sep : Char} (outside : sep ∉ userProtocol.toList) (other : isIDChar sep = false)
    (left right : List Char) : matchUserID (left ++ sep :: right) = matchUserID left := by
  have before : userProtocol.toList.isPrefixOf (left ++ sep :: right) = userProtocol.toList.isPrefixOf left := by
    rw [Bool.eq_iff_iff, List.isPrefixOf_iff_prefix, List.isPrefixOf_iff_prefix]
    constructor
    · intro start
      rcases List.prefix_or_prefix_of_prefix start (List.prefix_append left (sep :: right)) with inside | past
      · exact inside
      · obtain ⟨rest, same⟩ := past
        rw [← same] at start outside
        have tail := (List.prefix_append_right_inj left).mp start
        cases rest with
        | nil => simp at same; exact ⟨[], by simp [same]⟩
        | cons char rest =>
          obtain ⟨rfl, _⟩ := List.cons_prefix_cons.mp tail
          exact absurd (List.mem_append_right left List.mem_cons_self) outside
    · exact fun inside => inside.trans (List.prefix_append left _)
  unfold matchUserID
  rw [before]
  split
  next starts =>
    obtain ⟨rest, rfl⟩ := List.isPrefixOf_iff_prefix.mp starts
    rw [List.append_assoc, List.drop_left, List.drop_left, List.takeWhile_append]
    split
    next whole => simp [other, (List.takeWhile_prefix isIDChar).eq_of_length whole]
    next => rfl
  next => rfl

theorem findUserID_append {sep : Char} (outside : sep ∉ userProtocol.toList) (other : isIDChar sep = false)
    (left right : List Char) : findUserID (left ++ sep :: right) =
      match findUserID left with
      | [] => findUserID right
      | found => found := by
  induction left with
  | nil =>
    have here : matchUserID (sep :: right) = [] := matchUserID_append outside other [] right
    simp [findUserID, here]
  | cons char left ih =>
    have here := matchUserID_append outside other (char :: left) right
    rw [List.cons_append] at here
    rw [List.cons_append, findUserID, findUserID, here, ih]
    cases matchUserID (char :: left) <;> rfl

theorem findUserID_cons (protocol : String) (rest : List String) : findUserID (concat ", " (protocol :: rest)).toList =
    match findUserID protocol.toList with
    | [] => findUserID (concat ", " rest).toList
    | found => found := by
  by_cases last : rest = []
  · subst last
    rw [concat_singleton]
    cases findUserID protocol.toList <;> rfl
  · have comma : ',' ∉ userProtocol.toList := by decide
    have blank : ' ' ∉ userProtocol.toList := by decide
    have pair : ", ".toList = [',', ' '] := rfl
    have past := findUserID_append blank (by decide) [] (concat ", " rest).toList
    rw [concat_cons last, pair, List.cons_append, List.singleton_append, findUserID_append comma (by decide)]
    rw [List.nil_append] at past
    rw [past]
    rfl

theorem findUserID_skip {before : List String} (plain : ∀ protocol ∈ before, findUserID protocol.toList = [])
    (rest : List String) : findUserID (concat ", " (before ++ rest)).toList = findUserID (concat ", " rest).toList := by
  induction before with
  | nil => rfl
  | cons protocol before ih =>
    rw [List.forall_mem_cons] at plain
    rw [List.cons_append, findUserID_cons, plain.1]
    exact ih plain.2

theorem findUserID_ids (text : List Char) : ∀ char ∈ findUserID text, isIDChar char = true := by
  induction text with
  | nil => simp [findUserID]
  | cons first rest ih =>
    have here : ∀ char ∈ matchUserID (first :: rest), isIDChar char = true := by
      unfold matchUserID
      split
      next => exact fun char member => List.mem_takeWhile_imp member
      next => simp
    rw [findUserID]
    cases matched : matchUserID (first :: rest) with
    | nil => exact ih
    | cons char found =>
      rw [matched] at here
      exact here

theorem findUserID_protocol {userID : String} (ids : ∀ char ∈ userID.toList, isIDChar char = true) :
    findUserID (userProtocol ++ userID).toList = userID.toList := by
  have matched : matchUserID (userProtocol.toList ++ userID.toList) = userID.toList := by
    have starts : userProtocol.toList.isPrefixOf (userProtocol.toList ++ userID.toList) = true :=
      List.isPrefixOf_iff_prefix.mpr (List.prefix_append _ _)
    rw [matchUserID, if_pos starts, List.drop_left, List.takeWhile_eq_self_iff]
    exact ids
  cases empty : userID.toList with
  | nil =>
    rw [String.toList_append, empty, List.append_nil]
    decide
  | cons char rest =>
    rw [empty] at matched
    rw [String.toList_append, empty]
    have head : userProtocol.toList = 'b' :: userProtocol.toList.tail := rfl
    rw [head, List.cons_append] at matched ⊢
    rw [findUserID, matched]

theorem findUserID_header (others : Subprotocols) (userID : String) :
    findUserID (others.header userID).toList = findUserID (userProtocol ++ userID).toList := by
  have after : findUserID (concat ", " others.after).toList = [] := by
    rw [← List.append_nil others.after, findUserID_skip]
    · rfl
    · exact fun protocol member => others.plain protocol (List.mem_append_right _ member)
  rw [Subprotocols.header, findUserID_skip, findUserID_cons, after]
  · cases findUserID (userProtocol ++ userID).toList <;> rfl
  · exact fun protocol member => others.plain protocol (List.mem_append_left _ member)

/-! The keys. -/

@[simp] theorem statelessContextKey_empty (clusterName : String) : statelessContextKey clusterName "" = clusterName := rfl

theorem statelessContextKey_toList (userID : String) (some : userID ≠ "") :
    (statelessContextKey clusterName userID).toList = clusterName.toList ++ statelessContextKeySep :: userID.toList := by
  simp [statelessContextKey, some]

theorem statelessContextKey_user {first second : String}
    (same : statelessContextKey clusterName first = statelessContextKey clusterName second) : first = second := by
  have chars := congrArg String.toList same
  by_cases left : first = ""
  · by_cases right : second = ""
    · rw [left, right]
    · rw [left, statelessContextKey_empty, statelessContextKey_toList second right] at chars
      have lengths := congrArg List.length chars
      simp at lengths
  · by_cases right : second = ""
    · rw [right, statelessContextKey_empty, statelessContextKey_toList first left] at chars
      have lengths := congrArg List.length chars
      simp at lengths
    · rw [statelessContextKey_toList first left, statelessContextKey_toList second right] at chars
      exact String.toList_injective (List.cons.inj (List.append_cancel_left chars)).2

theorem websocket_agrees_iff (others : Subprotocols) (clusterName userID : String) :
    (websocketConnContextKey (others.header userID) clusterName).1 = statelessContextKey clusterName userID ↔
      ∀ char ∈ userID.toList, isIDChar char = true := by
  have key : (websocketConnContextKey (others.header userID) clusterName).1 =
      statelessContextKey clusterName (String.ofList (findUserID (userProtocol ++ userID).toList)) := by
    rw [websocketConnContextKey, findUserID_header]
    dsimp only
    split
    next empty => rw [empty, statelessContextKey_empty]
    next => rfl
  rw [key]
  constructor
  · intro same char member
    rw [← statelessContextKey_user same, String.toList_ofList] at member
    exact findUserID_ids _ char member
  · intro ids
    rw [findUserID_protocol ids, String.ofList_toList]

/-- One key on all paths, so that a context stored under it is found. -/
structure Agree (getClusterContext : String → Option α) (others : Subprotocols) (clusterName userID : String) : Prop where
  websocket : (websocketConnContextKey (others.header userID) clusterName).1 = statelessContextKey clusterName userID
  multiplexer : multiplexerKey getClusterContext clusterName userID = statelessContextKey clusterName userID
  portForward : portForwardContextKey clusterName userID = statelessContextKey clusterName userID
  found : ∀ context, getClusterContextWithFallback
    (Function.update getClusterContext (statelessContextKey clusterName userID) (some context)) clusterName userID = .ok context

/-- On each path the two have different keys. -/
structure Apart (getClusterContext : String → Option α) (others : Subprotocols) (first second : String × String) : Prop where
  request : statelessContextKey first.1 first.2 ≠ statelessContextKey second.1 second.2
  websocket : (websocketConnContextKey (others.header first.2) first.1).1 ≠
    (websocketConnContextKey (others.header second.2) second.1).1
  multiplexer : multiplexerKey getClusterContext first.1 first.2 ≠ multiplexerKey getClusterContext second.1 second.2
  portForward : portForwardContextKey first.1 first.2 ≠ portForwardContextKey second.1 second.2

theorem agree_iff (others : Subprotocols) : Agree getClusterContext others clusterName userID ↔ userID = "" := by
  constructor
  · intro agree
    by_contra some
    have lengths := congrArg (fun key => key.toList.length) agree.portForward
    simp [portForwardContextKey, some, statelessContextKey_toList userID some] at lengths
  · rintro rfl
    refine ⟨(websocket_agrees_iff others clusterName "").mpr (by simp), ?_, ?_, ?_⟩
    · simp [multiplexerKey]
    · simp [portForwardContextKey]
    · intro context
      simp [getClusterContextWithFallback]

/-- The keys of two pairs agree on all paths and are told apart exactly when neither
has a user id. -/
theorem keys_agree_iff (getClusterContext : String → Option α) (others : Subprotocols) (first second : String × String) :
    (Agree getClusterContext others first.1 first.2 ∧ Agree getClusterContext others second.1 second.2 ∧
      (first ≠ second → Apart getClusterContext others first second)) ↔ first.2 = "" ∧ second.2 = "" := by
  rw [agree_iff, agree_iff]
  constructor
  · intro ⟨left, right, _⟩
    exact ⟨left, right⟩
  · intro ⟨left, right⟩
    refine ⟨left, right, fun different => ?_⟩
    have names : first.1 ≠ second.1 := fun same => different (Prod.ext same (left.trans right.symm))
    have here : Agree getClusterContext others first.1 first.2 := (agree_iff others).mpr left
    have there : Agree getClusterContext others second.1 second.2 := (agree_iff others).mpr right
    have request : statelessContextKey first.1 first.2 ≠ statelessContextKey second.1 second.2 := by
      rwa [left, right]
    refine ⟨request, ?_, ?_, ?_⟩
    · rwa [here.websocket, there.websocket]
    · rwa [here.multiplexer, there.multiplexer]
    · rwa [here.portForward, there.portForward]

/-- An upgrade that asks for nothing else. -/
private def alone : Subprotocols := ⟨[], [], by simp⟩

/-- A context that a request has stored for a user is not found by the multiplexer. -/
theorem user_key_differs : ¬∀ (getClusterContext : String → Option Nat) (others : Subprotocols) (first second : String × String),
    Agree getClusterContext others first.1 first.2 ∧ Agree getClusterContext others second.1 second.2 ∧
      (first ≠ second → Apart getClusterContext others first second) := by
  intro same
  have found := (same (fun _ => none) alone ("prod", "alice") ("prod", "alice")).1.found 0
  revert found
  decide

end K8Sense.Stateless
