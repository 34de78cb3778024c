import Mathlib.Data.List.Nodup
import Mathlib.Logic.Function.Basic
import K8Sense.Library.Keyed
import K8Sense.Library.Recency
import K8Sense.Library.Transition
import K8Sense.Doctor.Finding
import K8Sense.Doctor.Response

/-! Custom rules: imported as files of any number of rules, stored one row a rule
with the whole file, deleted by id and loaded again when the server starts. -/

namespace K8Sense.Doctor.CustomRules
open Recency Transition

structure CustomRule where
  id : String
  name : String
  yaml : String
  enabled : Bool
  importedAt : Nat
deriving DecidableEq

structure Server where
  rules : List Rule
  rulesByID : String → Option Rule
  table : List CustomRule

inductive Event where
  /-- `body` is the file, if the request decodes; `failsAt` is the first of its
  rules that the database refuses. -/
  | importRule (paid : Bool) (body : Option String) (now : Nat) (failsAt : Option Nat)
  | deleteCustomRule (id : String) (fails : Bool)
  | restart (unreadable : Bool)

def checkRule (index : Nat) (rule : Rule) : Except String Rule :=
  if rule.id = "" ∨ rule.name = "" ∨ rule.severity = "" ∨ rule.category = "" then
    .error ("rule " ++ toString (index + 1) ++ " is missing required fields (id, name, severity, category)")
  else if rule.severity ≠ severityCritical ∧ rule.severity ≠ severityWarning ∧ rule.severity ≠ severityInfo then
    .error ("rule " ++ rule.id ++ " has invalid severity " ++ rule.severity.quote)
  else .ok { rule with enabled := true }

def checkRules (index : Nat) : List Rule → Except String (List Rule)
  | [] => .ok []
  | rule :: rest =>
    match checkRule index rule, checkRules (index + 1) rest with
    | .error err, _ => .error err
    | .ok _, .error err => .error err
    | .ok checked, .ok others => .ok (checked :: others)

/-- `ParseRules`, over the YAML library's decoding of a list of rules. -/
def parseRules (unmarshal : String → Except String (List Rule)) (data : String) : Except String (List Rule) :=
  match unmarshal data with
  | .error err => .error ("invalid rule YAML: " ++ err)
  | .ok [] => .error "no rules found in document"
  | .ok file => checkRules 0 file

def addCustomRule (now : Nat) (id name yaml : String) (table : List CustomRule) : List CustomRule :=
  if table.any fun row => row.id = id then
    table.map fun row => if row.id = id then { row with name, yaml } else row
  else table ++ [⟨id, name, yaml, true, now⟩]

/-- The newest rows come first. -/
def listCustomRules (table : List CustomRule) : List CustomRule :=
  newestFirst CustomRule.importedAt table

def removeCustomRule (id : String) (table : List CustomRule) : List CustomRule :=
  table.filter fun row => row.id ≠ id

/-- Later rules replace earlier ones of the same id. -/
def index (rules : List Rule) (table : String → Option Rule) : String → Option Rule :=
  rules.foldl (fun table rule => Function.update table rule.id (some rule)) table

def newServer (rules : List Rule) (table : List CustomRule) : Server where
  rules
  rulesByID := index rules fun _ => none
  table

def addRules (rules : List Rule) (server : Server) : Server :=
  { server with rules := server.rules ++ rules, rulesByID := index rules server.rulesByID }

/-- One row a rule, each with the whole file, up to the first that fails. -/
def saveRules (now : Nat) (yaml : String) : Option Nat → List Rule → List CustomRule → List CustomRule × Bool
  | _, [], table => (table, true)
  | some 0, _ :: _, table => (table, false)
  | failsAt, rule :: rest, table =>
    saveRules now yaml (failsAt.map Nat.pred) rest (addCustomRule now rule.id rule.name yaml table)

def imported (count : Nat) : Response :=
  ⟨200, "\x7b\"imported\":" ++ toString count ++ ",\"result\":\"ok\"\x7d"⟩

def deleted : Response := ⟨200, "\x7b\"result\":\"ok\"\x7d"⟩

section
variable (unmarshal : String → Except String (List Rule))

def importRule (paid : Bool) (body : Option String) (now : Nat) (failsAt : Option Nat) (server : Server) :
    Server × Response :=
  if !paid then (server, upgradeRequired)
  else match body with
  | none => (server, jsonError 400 "invalid request")
  | some yaml =>
    match parseRules unmarshal yaml with
    | .error err => (server, jsonError 400 err)
    | .ok rules =>
      match saveRules now yaml failsAt rules server.table with
      | (table, false) => ({ server with table }, jsonError 500 "adding custom rule")
      | (table, true) => (addRules rules { server with table }, imported rules.length)

/-- The running rules are not touched. -/
def deleteCustomRule (id : String) (fails : Bool) (server : Server) : Server × Response :=
  if fails then (server, jsonError 500 "deleting custom rule")
  else ({ server with table := removeCustomRule id server.table }, deleted)

/-- Every row's file is parsed again, and what does not parse is skipped. -/
def loadCustomRules (table : List CustomRule) : List Rule :=
  (listCustomRules table).flatMap fun row =>
    match parseRules unmarshal row.yaml with
    | .error _ => []
    | .ok rules => rules

def restart (builtin : List Rule) (unreadable : Bool) (server : Server) : Server :=
  newServer (if unreadable then builtin else builtin ++ loadCustomRules unmarshal server.table) server.table

/-- The custom rules that should be active, those imported and not deleted since. -/
def intended (live : List Rule) : Event → List Rule
  | .importRule paid body _ failsAt =>
    match paid, (body.map (parseRules unmarshal)) with
    | true, some (.ok rules) =>
      if failsAt.any (· < rules.length) then live
      else (live.filter fun rule => rules.all fun new => new.id ≠ rule.id) ++ rules
    | _, _ => live
  | .deleteCustomRule id fails => if fails then live else live.filter fun rule => rule.id ≠ id
  | .restart _ => live

/-- The server beside what is intended of it. -/
structure State where
  server : Server
  live : List Rule

def initial (builtin : List Rule) : State := ⟨newServer builtin [], []⟩

def step (builtin : List Rule) (state : State) (event : Event) : Option State :=
  let server := match event with
    | .importRule paid body now failsAt => (importRule unmarshal paid body now failsAt state.server).1
    | .deleteCustomRule id fails => (deleteCustomRule id fails state.server).1
    | .restart unreadable => restart unmarshal builtin unreadable state.server
  some ⟨server, intended unmarshal state.live event⟩

end

/-- Every id is active once, the active rules are the built-in and the intended
ones, and each of them is found by its id. -/
structure Agreed (builtin : List Rule) (state : State) : Prop where
  distinct : (state.server.rules.map Rule.id).Nodup
  active : ∀ rule, rule ∈ state.server.rules ↔ rule ∈ builtin ∨ rule ∈ state.live
  found : ∀ rule ∈ state.server.rules, state.server.rulesByID rule.id = some rule

/-- A file brings new ids, each once, and is stored as a whole or not at all; no
active custom rule is deleted; at a restart every row is read and its file holds
one rule. -/
def Careful (unmarshal : String → Except String (List Rule)) (state : State) : Event → Prop
  | .importRule paid body _ failsAt => ∀ yaml rules, paid = true → body = some yaml →
      parseRules unmarshal yaml = .ok rules →
        (rules.map Rule.id).Nodup ∧ (∀ rule ∈ rules, ∀ other ∈ state.server.rules, rule.id ≠ other.id) ∧
          ∀ place, failsAt = some place → place < rules.length → place = 0
  | .deleteCustomRule id fails => fails = false → ∀ rule ∈ state.live, rule.id ≠ id
  | .restart unreadable => (unreadable = true → state.live = []) ∧
      ∀ row ∈ state.server.table, ∃ rule, parseRules unmarshal row.yaml = .ok [rule]

variable {unmarshal : String → Except String (List Rule)}

theorem checkRule_ok {index : Nat} {rule checked : Rule} (ok : checkRule index rule = .ok checked) :
    checked = { rule with enabled := true } ∧ checked.id ≠ "" ∧ checked.name ≠ "" ∧ checked.category ≠ "" ∧
      checked.severity ∈ [severityCritical, severityWarning, severityInfo] := by
  unfold checkRule at ok
  split at ok
  next => cases ok
  next filled =>
    split at ok
    next => cases ok
    next known =>
      cases ok
      simp only [not_or] at filled
      refine ⟨rfl, filled.1, filled.2.1, filled.2.2.2, ?_⟩
      simp only [List.mem_cons, List.not_mem_nil, or_false]
      by_contra none
      simp only [not_or] at none
      exact known none

theorem checkRules_ok {file : List Rule} : ∀ {index : Nat} {rules : List Rule}, checkRules index file = .ok rules →
    rules.length = file.length ∧ ∀ rule ∈ rules, ∃ place, ∃ source ∈ file, checkRule place source = .ok rule := by
  induction file with
  | nil =>
    rintro index rules ⟨⟩
    exact ⟨rfl, by simp⟩
  | cons first rest ih =>
    intro index rules ok
    unfold checkRules at ok
    split at ok
    next => cases ok
    next => cases ok
    next checked others one tail =>
      cases ok
      obtain ⟨length, each⟩ := ih tail
      refine ⟨by simp [length], ?_⟩
      intro rule member
      rcases List.mem_cons.mp member with rfl | later
      · exact ⟨index, first, List.mem_cons_self, one⟩
      · obtain ⟨place, source, inside, ok⟩ := each rule later
        exact ⟨place, source, List.mem_cons_of_mem first inside, ok⟩

theorem parseRules_ok {data : String} {rules : List Rule} (parsed : parseRules unmarshal data = .ok rules) :
    rules ≠ [] ∧ ∀ rule ∈ rules, rule.enabled = true ∧ rule.id ≠ "" ∧ rule.name ≠ "" ∧ rule.category ≠ "" ∧
      rule.severity ∈ [severityCritical, severityWarning, severityInfo] := by
  unfold parseRules at parsed
  split at parsed
  next => cases parsed
  next => cases parsed
  next file nonempty _ =>
    obtain ⟨length, each⟩ := checkRules_ok parsed
    constructor
    · rintro rfl
      exact nonempty (List.length_eq_zero_iff.mp length.symm)
    · intro rule member
      obtain ⟨place, source, _, ok⟩ := each rule member
      obtain ⟨rfl, valid⟩ := checkRule_ok ok
      exact ⟨rfl, valid⟩

theorem index_other {rules : List Rule} {id : String} (absent : ∀ rule ∈ rules, rule.id ≠ id)
    (table : String → Option Rule) : index rules table id = table id := by
  induction rules generalizing table with
  | nil => rfl
  | cons rule rest ih =>
    have later := ih (fun other member => absent other (List.mem_cons_of_mem rule member))
      (Function.update table rule.id (some rule))
    exact later.trans (Function.update_of_ne (absent rule List.mem_cons_self).symm _ _)

theorem index_found {rules : List Rule} (distinct : (rules.map Rule.id).Nodup) {rule : Rule} (member : rule ∈ rules)
    (table : String → Option Rule) : index rules table rule.id = some rule := by
  induction rules generalizing table with
  | nil => cases member
  | cons first rest ih =>
    obtain ⟨apart, distinct⟩ := List.nodup_cons.mp distinct
    rcases List.mem_cons.mp member with rfl | later
    · have absent : ∀ other ∈ rest, other.id ≠ rule.id := fun other inside same =>
        apart (List.mem_map.mpr ⟨other, inside, same⟩)
      exact (index_other absent _).trans (Function.update_self _ _ _)
    · exact ih distinct later _

def rowOf (now : Nat) (yaml : String) (rule : Rule) : CustomRule := ⟨rule.id, rule.name, yaml, true, now⟩

theorem saveRules_new {now : Nat} {yaml : String} {rules : List Rule} (distinct : (rules.map Rule.id).Nodup) :
    ∀ {failsAt : Option Nat} {table : List CustomRule}, failsAt.any (· < rules.length) = false →
      (∀ rule ∈ rules, ∀ row ∈ table, row.id ≠ rule.id) →
        saveRules now yaml failsAt rules table = (table ++ rules.map (rowOf now yaml), true) := by
  induction rules with
  | nil =>
    intro failsAt table _ _
    cases failsAt with
    | none => simp [saveRules]
    | some place => cases place <;> simp [saveRules]
  | cons rule rest ih =>
    intro failsAt table lasts absent
    obtain ⟨apart, distinct⟩ := List.nodup_cons.mp distinct
    have added : addCustomRule now rule.id rule.name yaml table = table ++ [rowOf now yaml rule] := by
      have none : ¬ (table.any fun row => row.id = rule.id) = true := by
        simpa using absent rule List.mem_cons_self
      rw [addCustomRule, if_neg none]
      rfl
    have lasting : (failsAt.map Nat.pred).any (· < rest.length) = false := by
      cases failsAt with
      | none => rfl
      | some place =>
        simp only [Option.any_some, List.length_cons, decide_eq_false_iff_not, Option.map_some] at lasts ⊢
        cases place <;> simp only [Nat.pred_eq_sub_one] <;> omega
    have still : ∀ other ∈ rest, ∀ row ∈ table ++ [rowOf now yaml rule], row.id ≠ other.id := by
      intro other member row inside
      rcases List.mem_append.mp inside with old | new
      · exact absent other (List.mem_cons_of_mem rule member) row old
      · obtain rfl := List.mem_singleton.mp new
        exact fun same => apart (List.mem_map.mpr ⟨other, member, same.symm⟩)
    have unfolded : saveRules now yaml failsAt (rule :: rest) table =
        saveRules now yaml (failsAt.map Nat.pred) rest (table ++ [rowOf now yaml rule]) := by
      rw [← added]
      cases failsAt with
      | none => rfl
      | some place =>
        cases place with
        | zero => simp at lasts
        | succ place => rfl
    rw [unfolded, ih distinct lasting still]
    simp

/-- The rows of a file's rules, one after another. -/
def saveAll (now : Nat) (yaml : String) (saved : List Rule) (table : List CustomRule) : List CustomRule :=
  saved.foldl (fun table rule => addCustomRule now rule.id rule.name yaml table) table

/-- Each of the rules has a row, and a row has the file and the name of the last
rule of its id. -/
structure Stored (yaml : String) (saved : List Rule) (table : List CustomRule) : Prop where
  present : ∀ rule ∈ saved, ∃ row ∈ table, row.id = rule.id
  same : ∀ row ∈ table, ∀ rule, (saved.reverse.find? fun rule => rule.id = row.id) = some rule →
    row.name = rule.name ∧ row.yaml = yaml

theorem saveRules_eq {now : Nat} {yaml : String} {rules : List Rule} : ∀ {failsAt : Option Nat} {table : List CustomRule},
    saveRules now yaml failsAt rules table =
      match failsAt.filter (· < rules.length) with
      | none => (saveAll now yaml rules table, true)
      | some place => (saveAll now yaml (rules.take place) table, false) := by
  induction rules with
  | nil =>
    intro failsAt table
    cases failsAt with
    | none => rfl
    | some place => simp [saveRules, saveAll, Option.filter]
  | cons rule rest ih =>
    intro failsAt table
    cases failsAt with
    | none => exact ih
    | some place =>
      cases place with
      | zero => simp [saveRules, saveAll, Option.filter]
      | succ place =>
        simp only [saveRules, Option.map_some, Nat.pred_succ, ih, Option.filter_some, List.length_cons,
          Nat.add_lt_add_iff_right]
        cases decide (place < rest.length) <;> rfl

theorem addCustomRule_keeps {now : Nat} {id name yaml : String} {table : List CustomRule} {other : String}
    (present : ∃ row ∈ table, row.id = other) : ∃ row ∈ addCustomRule now id name yaml table, row.id = other := by
  obtain ⟨row, member, named⟩ := present
  unfold addCustomRule
  split
  next =>
    refine ⟨_, List.mem_map_of_mem member, ?_⟩
    split <;> exact named
  next => exact ⟨row, List.mem_append_left _ member, named⟩

theorem addCustomRule_present {now : Nat} {id name yaml : String} {table : List CustomRule} :
    ∃ row ∈ addCustomRule now id name yaml table, row.id = id := by
  by_cases present : ∃ row ∈ table, row.id = id
  · exact addCustomRule_keeps present
  · have absent : ¬ (table.any fun row => row.id = id) = true := by simpa using present
    rw [addCustomRule, if_neg absent]
    exact ⟨_, List.mem_append_right _ List.mem_cons_self, rfl⟩

theorem saveAll_present (now : Nat) (yaml : String) (saved : List Rule) (table : List CustomRule) :
    ∀ rule ∈ saved, ∃ row ∈ saveAll now yaml saved table, row.id = rule.id := by
  induction saved using List.reverseRecOn with
  | nil => simp
  | append_singleton before last ih =>
    intro rule member
    simp only [saveAll, List.foldl_append, List.foldl_cons, List.foldl_nil]
    rcases List.mem_append.mp member with earlier | same
    · exact addCustomRule_keeps (ih rule earlier)
    · obtain rfl := List.mem_singleton.mp same
      exact addCustomRule_present

theorem saveAll_map {now : Nat} {yaml : String} {saved : List Rule} {table : List CustomRule}
    (present : ∀ rule ∈ saved, ∃ row ∈ table, row.id = rule.id) : saveAll now yaml saved table =
      table.map fun row => match saved.reverse.find? fun rule => rule.id = row.id with
        | some rule => { row with name := rule.name, yaml }
        | none => row := by
  induction saved using List.reverseRecOn with
  | nil => simp [saveAll]
  | append_singleton before last ih =>
    have earlier := ih fun rule member => present rule (List.mem_append_left _ member)
    have unfolded : saveAll now yaml (before ++ [last]) table =
        addCustomRule now last.id last.name yaml (saveAll now yaml before table) := by
      simp [saveAll]
    have found : ((saveAll now yaml before table).any fun row => row.id = last.id) = true := by
      obtain ⟨row, member, named⟩ := present last (List.mem_append_right _ List.mem_cons_self)
      rw [earlier, List.any_map, List.any_eq_true]
      refine ⟨row, member, ?_⟩
      simp only [Function.comp_apply, decide_eq_true_eq]
      split <;> exact named
    rw [unfolded, addCustomRule, if_pos found, earlier, List.map_map]
    apply List.map_congr_left
    intro row _
    simp only [Function.comp_apply, List.reverse_append, List.reverse_cons, List.reverse_nil, List.nil_append,
      List.cons_append, List.find?_cons]
    by_cases named : row.id = last.id
    · cases before.reverse.find? fun rule => rule.id = row.id <;> simp [named]
    · have other : ¬ last.id = row.id := fun same => named same.symm
      cases before.reverse.find? fun rule => rule.id = row.id <;> simp [named, other]

theorem saveAll_unchanged (now : Nat) {yaml : String} {saved : List Rule} {table : List CustomRule} :
    saveAll now yaml saved table = table ↔ Stored yaml saved table := by
  constructor
  · intro same
    have present : ∀ rule ∈ saved, ∃ row ∈ table, row.id = rule.id := by
      have all := saveAll_present now yaml saved table
      rwa [same] at all
    refine ⟨present, ?_⟩
    intro row member rule found
    rw [saveAll_map present] at same
    have fixed := Keyed.map_unchanged.mp same row member
    rw [found] at fixed
    exact ⟨(congrArg CustomRule.name fixed).symm, (congrArg CustomRule.yaml fixed).symm⟩
  · intro stored
    rw [saveAll_map stored.present]
    apply Keyed.map_unchanged.mpr
    intro row member
    split
    next rule found =>
      obtain ⟨name, file⟩ := stored.same row member rule found
      cases row
      cases name
      cases file
      rfl
    next => rfl

/-- The invariant: memory holds the built-in and the intended rules, and every
row is for an intended rule of its file. -/
structure Kept (unmarshal : String → Except String (List Rule)) (builtin : List Rule) (state : State) : Prop where
  active : state.server.rules.Perm (builtin ++ state.live)
  distinct : ((builtin ++ state.live).map Rule.id).Nodup
  found : ∀ rule ∈ state.server.rules, state.server.rulesByID rule.id = some rule
  rows : (state.server.table.map CustomRule.id).Nodup
  stored : ∀ row ∈ state.server.table, ∃ rules, parseRules unmarshal row.yaml = .ok rules ∧
    ∃ rule ∈ rules, rule.id = row.id ∧ rule ∈ state.live
  saved : ∀ rule ∈ state.live, ∃ row ∈ state.server.table, row.id = rule.id ∧
    ∃ rules, parseRules unmarshal row.yaml = .ok rules ∧ rule ∈ rules

variable {builtin : List Rule} {state : State}

theorem agreed_of_kept (kept : Kept unmarshal builtin state) : Agreed builtin state where
  distinct := (kept.active.map Rule.id).nodup_iff.mpr kept.distinct
  active _ := kept.active.mem_iff.trans List.mem_append
  found := kept.found

theorem kept_initial (distinct : (builtin.map Rule.id).Nodup) : Kept unmarshal builtin (initial builtin) where
  active := by simp [initial, newServer]
  distinct := by simpa [initial] using distinct
  found _ member := index_found distinct member _
  rows := List.nodup_nil
  stored := by simp [initial, newServer]
  saved := by simp [initial]

theorem no_row (kept : Kept unmarshal builtin state) {id : String} (inactive : ∀ rule ∈ state.live, rule.id ≠ id) :
    ∀ row ∈ state.server.table, row.id ≠ id := by
  intro row member same
  obtain ⟨rules, _, rule, _, named, live⟩ := kept.stored row member
  exact inactive rule live (named.trans same)

theorem live_active (kept : Kept unmarshal builtin state) {rule : Rule} (live : rule ∈ state.live) :
    rule ∈ state.server.rules :=
  kept.active.mem_iff.mpr (List.mem_append_right builtin live)

theorem kept_added (kept : Kept unmarshal builtin state) {now : Nat} {yaml : String} {rules : List Rule}
    (parsed : parseRules unmarshal yaml = .ok rules) (distinct : (rules.map Rule.id).Nodup)
    (fresh : ∀ rule ∈ rules, ∀ other ∈ state.server.rules, rule.id ≠ other.id) :
    Kept unmarshal builtin ⟨addRules rules { state.server with table := state.server.table ++ rules.map (rowOf now yaml) },
      state.live ++ rules⟩ where
  active := by
    simpa [addRules] using kept.active.append_right rules
  distinct := by
    rw [← List.append_assoc, List.map_append, List.nodup_append]
    refine ⟨kept.distinct, distinct, ?_⟩
    intro id old other new same
    obtain ⟨rule, member, rfl⟩ := List.mem_map.mp old
    obtain ⟨added, inside, rfl⟩ := List.mem_map.mp new
    exact fresh added inside rule (kept.active.mem_iff.mpr member) same.symm
  found rule member := by
    rcases List.mem_append.mp member with old | new
    · have others : ∀ other ∈ rules, other.id ≠ rule.id := fun other inside => fresh other inside rule old
      exact (index_other others _).trans (kept.found rule old)
    · exact index_found distinct new _
  rows := by
    rw [addRules, List.map_append, List.nodup_append]
    have named : (rules.map (rowOf now yaml)).map CustomRule.id = rules.map Rule.id := by
      rw [List.map_map]
      rfl
    refine ⟨kept.rows, named ▸ distinct, ?_⟩
    intro id old other new same
    obtain ⟨row, member, rfl⟩ := List.mem_map.mp old
    obtain ⟨added, inside, rfl⟩ := List.mem_map.mp (named ▸ new)
    have inactive : ∀ rule ∈ state.live, rule.id ≠ added.id := fun rule live =>
      (fresh added inside rule (live_active kept live)).symm
    exact no_row kept inactive row member same
  stored row member := by
    rcases List.mem_append.mp member with old | new
    · obtain ⟨file, ok, rule, inside, named, live⟩ := kept.stored row old
      exact ⟨file, ok, rule, inside, named, List.mem_append_left rules live⟩
    · obtain ⟨rule, inside, rfl⟩ := List.mem_map.mp new
      exact ⟨rules, parsed, rule, inside, rfl, List.mem_append_right _ inside⟩
  saved rule member := by
    rcases List.mem_append.mp member with old | new
    · obtain ⟨row, inside, found⟩ := kept.saved rule old
      exact ⟨row, List.mem_append_left _ inside, found⟩
    · exact ⟨rowOf now yaml rule, List.mem_append_right _ (List.mem_map.mpr ⟨rule, new, rfl⟩), rfl, rules, parsed, new⟩

theorem intended_new (kept : Kept unmarshal builtin state) {rules : List Rule}
    (fresh : ∀ rule ∈ rules, ∀ other ∈ state.server.rules, rule.id ≠ other.id) :
    (state.live.filter fun rule => rules.all fun new => new.id ≠ rule.id) = state.live := by
  rw [List.filter_eq_self]
  intro rule live
  simpa using fun new member => fresh new member rule (live_active kept live)

theorem kept_import (kept : Kept unmarshal builtin state) {paid : Bool} {body : Option String} {now : Nat}
    {failsAt : Option Nat} (careful : Careful unmarshal state (.importRule paid body now failsAt)) :
    Kept unmarshal builtin ⟨(importRule unmarshal paid body now failsAt state.server).1,
      intended unmarshal state.live (.importRule paid body now failsAt)⟩ := by
  unfold importRule intended
  cases paid with
  | false => exact kept
  | true =>
    cases body with
    | none => exact kept
    | some yaml =>
      simp only [Bool.not_true, Bool.false_eq_true, if_false, Option.map_some]
      cases parsed : parseRules unmarshal yaml with
      | error err => exact kept
      | ok rules =>
        obtain ⟨distinct, fresh, whole⟩ := careful yaml rules rfl rfl parsed
        dsimp only
        by_cases fails : failsAt.any (· < rules.length) = true
        · rw [if_pos fails]
          cases failsAt with
          | none => cases fails
          | some place =>
            have inside : place < rules.length := by simpa using fails
            obtain rfl := whole place rfl inside
            cases rules with
            | nil => cases inside
            | cons rule rest => exact kept
        · rw [if_neg fails, intended_new kept fresh]
          have absent : ∀ rule ∈ rules, ∀ row ∈ state.server.table, row.id ≠ rule.id := fun rule member =>
            no_row kept fun other live => (fresh rule member other (live_active kept live)).symm
          rw [saveRules_new distinct (by simpa using fails) absent]
          exact kept_added kept parsed distinct fresh

theorem kept_delete (kept : Kept unmarshal builtin state) {id : String} {fails : Bool}
    (careful : Careful unmarshal state (.deleteCustomRule id fails)) :
    Kept unmarshal builtin ⟨(deleteCustomRule id fails state.server).1,
      intended unmarshal state.live (.deleteCustomRule id fails)⟩ := by
  cases fails with
  | true => exact kept
  | false =>
    have inactive := careful rfl
    have table : removeCustomRule id state.server.table = state.server.table := by
      rw [removeCustomRule, List.filter_eq_self]
      simpa using no_row kept inactive
    have live : (state.live.filter fun rule => rule.id ≠ id) = state.live := by
      rw [List.filter_eq_self]
      simpa using inactive
    simp only [deleteCustomRule, intended, Bool.false_eq_true, if_false, table, live]
    exact kept

theorem mem_loaded {table : List CustomRule} {rule : Rule} : rule ∈ loadCustomRules unmarshal table ↔
    ∃ row ∈ table, ∃ rules, parseRules unmarshal row.yaml = .ok rules ∧ rule ∈ rules := by
  simp only [loadCustomRules, listCustomRules, List.mem_flatMap, mem_newestFirst]
  apply exists_congr
  intro row
  apply and_congr_right
  intro _
  cases parseRules unmarshal row.yaml <;> simp

theorem loaded_ids (rows : List CustomRule)
    (single : ∀ row ∈ rows, ∃ rule, parseRules unmarshal row.yaml = .ok [rule] ∧ rule.id = row.id) :
    (rows.flatMap fun row => match parseRules unmarshal row.yaml with
      | .error _ => []
      | .ok rules => rules).map Rule.id = rows.map CustomRule.id := by
  induction rows with
  | nil => rfl
  | cons row rest ih =>
    obtain ⟨rule, parsed, named⟩ := single row List.mem_cons_self
    have later := ih fun other member => single other (List.mem_cons_of_mem row member)
    simp only [List.flatMap_cons, List.map_append, parsed, later]
    simp [named]

theorem loaded_live (kept : Kept unmarshal builtin state)
    (single : ∀ row ∈ state.server.table, ∃ rule, parseRules unmarshal row.yaml = .ok [rule]) :
    (loadCustomRules unmarshal state.server.table).Perm state.live := by
  have own : ∀ row ∈ state.server.table, ∃ rule, parseRules unmarshal row.yaml = .ok [rule] ∧ rule.id = row.id ∧
      rule ∈ state.live := by
    intro row member
    obtain ⟨rule, parsed⟩ := single row member
    obtain ⟨rules, parsed', found, inside, named, live⟩ := kept.stored row member
    obtain rfl := Except.ok.inj (parsed.symm.trans parsed')
    obtain rfl := List.mem_singleton.mp inside
    exact ⟨found, parsed, named, live⟩
  have ids : (loadCustomRules unmarshal state.server.table).map Rule.id =
      (listCustomRules state.server.table).map CustomRule.id := by
    apply loaded_ids
    intro row member
    obtain ⟨rule, parsed, named, _⟩ := own row (mem_newestFirst.mp member)
    exact ⟨rule, parsed, named⟩
  have loadedDistinct : (loadCustomRules unmarshal state.server.table).Nodup := by
    apply List.Nodup.of_map Rule.id
    rw [ids, listCustomRules, ((newestFirst_perm _ _).map CustomRule.id).nodup_iff]
    exact kept.rows
  have liveDistinct : state.live.Nodup := by
    have distinct := kept.distinct
    rw [List.map_append] at distinct
    exact (List.nodup_append.mp distinct).2.1.of_map Rule.id
  rw [List.perm_ext_iff_of_nodup loadedDistinct liveDistinct]
  intro rule
  rw [mem_loaded]
  constructor
  · rintro ⟨row, member, rules, parsed, inside⟩
    obtain ⟨found, parsed', _, live⟩ := own row member
    obtain rfl := Except.ok.inj (parsed.symm.trans parsed')
    obtain rfl := List.mem_singleton.mp inside
    exact live
  · intro live
    obtain ⟨row, member, _, found⟩ := kept.saved rule live
    exact ⟨row, member, found⟩

theorem kept_restart (kept : Kept unmarshal builtin state) {unreadable : Bool}
    (careful : Careful unmarshal state (.restart unreadable)) :
    Kept unmarshal builtin ⟨restart unmarshal builtin unreadable state.server, state.live⟩ := by
  obtain ⟨readable, single⟩ := careful
  have active : (restart unmarshal builtin unreadable state.server).rules.Perm (builtin ++ state.live) := by
    cases unreadable with
    | true => simp [restart, newServer, readable rfl]
    | false => exact (loaded_live kept single).append_left builtin
  refine ⟨active, kept.distinct, ?_, kept.rows, kept.stored, kept.saved⟩
  intro rule member
  exact index_found ((active.map Rule.id).nodup_iff.mpr kept.distinct) member _

theorem kept_step {next : State} {event : Event} (kept : Kept unmarshal builtin state)
    (careful : Careful unmarshal state event) (taken : step unmarshal builtin state event = some next) :
    Kept unmarshal builtin next := by
  cases taken
  cases event with
  | importRule paid body now failsAt => exact kept_import kept careful
  | deleteCustomRule id fails => exact kept_delete kept careful
  | restart unreadable => exact kept_restart kept careful

theorem delete_keeps_running (id : String) (fails : Bool) (server : Server) :
    (deleteCustomRule id fails server).1.rules = server.rules := by
  cases fails <;> rfl

/-- In a run of careful steps the active rules are the built-in ones with those
imported and not deleted, each once and none shadowed. -/
theorem rules_agree (unmarshal : String → Except String (List Rule)) (builtin : List Rule)
    (distinct : (builtin.map Rule.id).Nodup) (events : List Event) (last : State)
    (careful : Meets (step unmarshal builtin) (Careful unmarshal) (initial builtin) events)
    (ran : run (step unmarshal builtin) (initial builtin) events = some last) : Agreed builtin last := by
  have kept : Kept unmarshal builtin last := by
    refine invariant (Kept unmarshal builtin) ?_ (kept_initial distinct) careful ran
    exact fun state event next kept allowed taken => kept_step kept allowed taken
  exact agreed_of_kept kept

private def sample (id : String) : Rule :=
  ⟨id, "a rule", "INFO", "pods", "checkPods", "", "", ⟨"", ""⟩, [], true⟩

private def decoded (rules : List Rule) (_ : String) : Except String (List Rule) := .ok rules

private theorem sample_parsed (id yaml : String) (named : id ≠ "") :
    parseRules (decoded [sample id]) yaml = .ok [sample id] := by
  have known : ("INFO" : String) ≠ severityInfo ↔ False := by decide
  simp [parseRules, decoded, checkRules, checkRule, sample, named, known]

theorem imported_rule_survives_restart : ∃ last,
    run (step (decoded [sample "C-1"]) [sample "POD-1"]) (initial [sample "POD-1"])
      [.importRule true (some "file") 5 none, .restart false] = some last ∧ Agreed [sample "POD-1"] last := by
  refine ⟨_, rfl, ?_⟩
  apply rules_agree (decoded [sample "C-1"]) [sample "POD-1"] (by decide)
    [.importRule true (some "file") 5 none, .restart false] _ ?_ rfl
  refine ⟨?_, ⟨by simp, ?_⟩, trivial⟩
  · intro yaml rules _ _ parsed
    obtain rfl := Except.ok.inj (parsed.symm.trans (sample_parsed "C-1" yaml (by decide)))
    exact ⟨by decide, by decide, by simp⟩
  · intro row _
    exact ⟨sample "C-1", sample_parsed "C-1" row.yaml (by decide)⟩

/-- A deleted rule keeps running. -/
theorem deleted_rule_runs : ¬ ∀ (unmarshal : String → Except String (List Rule)) (builtin : List Rule),
    (builtin.map Rule.id).Nodup → ∀ (events : List Event) (last : State),
      run (step unmarshal builtin) (initial builtin) events = some last → Agreed builtin last := by
  intro agree
  have after := agree (decoded [sample "C-1"]) [] List.nodup_nil
    [.importRule true (some "file") 5 none, .deleteCustomRule "C-1" false] _ rfl
  have running := (after.active (sample "C-1")).mp (by decide)
  exact absurd running (by decide)

end K8Sense.Doctor.CustomRules
