import K8Sense.Library.FormUrl
import K8Sense.Library.LabelSyntax
import K8Sense.Library.Utf16
import Mathlib.Data.List.Forall2

/-! The query that stands for the label selector of a workload. -/

namespace K8Sense.Frontend.LabelQuery
open LabelSyntax

/-- The operators that the printer knows, and any other text. -/
inductive Operator where
  | equals
  | doubleEquals
  | notEquals
  | isIn
  | notIn
  | greaterThan
  | lessThan
  | present
  | doesNotExist
  | other (name : String)
deriving DecidableEq

structure MatchExpression where
  key : Text
  operator : Operator
  values : Option (List Text)
deriving DecidableEq

/-- `matchLabels` are in the order in which `for (const k in matchLabels)` visits them. -/
structure LabelSelector where
  matchLabels : Option (List (Text × Text))
  matchExpressions : Option (List MatchExpression)
deriving DecidableEq

/-! The printer. -/

/-- `none` is the empty string, which the caller takes for no segments. -/
def matchLabelsSimplifier (matchLabels : Option (List (Text × Text))) (isEqualSeperator : Bool) : Option (List Text) :=
  matchLabels.map fun labels => labels.map fun (k, value) =>
    if isEqualSeperator then k ++ '=' :: value else k ++ ':' :: ' ' :: value

def Operator.sign : Operator → Text
  | .equals => "=".toList
  | .doubleEquals => "==".toList
  | .notEquals => "!=".toList
  | .isIn => " in ".toList
  | .notIn => " notin ".toList
  | .greaterThan => ">".toList
  | .lessThan => "<".toList
  | _ => []

def Operator.needsParensWrap (operator : Operator) : Bool := operator = .isIn || operator = .notIn

/-- `none` is `NoLengthLimits`. -/
def Operator.expectedValuesLength : Operator → Option Nat
  | .equals | .doubleEquals | .notEquals | .greaterThan | .lessThan => some 1
  | .present | .doesNotExist => some 0
  | _ => none

/-- The values of an expression, or `none` for the `TypeError` where there are none to
take the first of. -/
def MatchExpression.printedValues (expr : MatchExpression) : Option Text :=
  match expr.operator.expectedValuesLength with
  | some 1 => expr.values.map fun values => values.head?.getD []
  | none =>
    let values := separated (Utf16.sort (expr.values.getD []))
    some (if expr.operator.needsParensWrap then '(' :: values ++ [')'] else values)
  | _ => some []

def MatchExpression.segment (expr : MatchExpression) : Option Text :=
  expr.printedValues.map fun values =>
    (if expr.operator = .doesNotExist then ['!'] else []) ++ expr.key ++ expr.operator.sign ++ values

def matchExpressionSimplifier (matchExpressions : List MatchExpression) : Option (List Text) :=
  matchExpressions.mapM MatchExpression.segment

def labelSelectorToQuery (labelSelector : LabelSelector) : Option Text :=
  (matchExpressionSimplifier (labelSelector.matchExpressions.getD [])).map fun segments =>
    separated ((matchLabelsSimplifier labelSelector.matchLabels true).getD [] ++ segments)

/-! What a label selector means. -/

/-- The expression is one that the API server accepts. -/
def MatchExpression.Valid (expr : MatchExpression) : Prop :=
  validKey expr.key = true ∧
    match expr.operator with
    | .isIn | .notIn => expr.values.getD [] ≠ [] ∧ ∀ value ∈ expr.values.getD [], validValue value = true
    | .present | .doesNotExist => expr.values.getD [] = []
    | _ => False

instance (expr : MatchExpression) : Decidable expr.Valid := by
  unfold MatchExpression.Valid
  exact @instDecidableAnd _ _ _ (by split <;> infer_instance)

structure ValidSelector extends LabelSelector where
  labels : ∀ label ∈ matchLabels.getD [], validKey label.1 = true ∧ validValue label.2 = true
  expressions : ∀ expr ∈ matchExpressions.getD [], expr.Valid

def MatchExpression.Selects (expr : MatchExpression) (labels : Labels) : Prop :=
  match expr.operator with
  | .isIn => ∃ value ∈ expr.values.getD [], labels expr.key = some value
  | .notIn => ∀ value ∈ expr.values.getD [], labels expr.key ≠ some value
  | .present => labels expr.key ≠ none
  | .doesNotExist => labels expr.key = none
  | _ => False

def LabelSelector.Selects (selector : LabelSelector) (labels : Labels) : Prop :=
  (∀ label ∈ selector.matchLabels.getD [], labels label.1 = some label.2) ∧
    ∀ expr ∈ selector.matchExpressions.getD [], expr.Selects labels

/-! The query states what the selector means. -/

def MatchExpression.demand (expr : MatchExpression) : Demand :=
  match expr.operator with
  | .isIn => .among (Utf16.sort (expr.values.getD []))
  | .notIn => .outside (Utf16.sort (expr.values.getD []))
  | .doesNotExist => .absent
  | _ => .present

def MatchExpression.requirement (expr : MatchExpression) : Requirement := ⟨expr.key, expr.demand⟩

def labelRequirement (label : Text × Text) : Requirement := ⟨label.1, .among [label.2]⟩

theorem sort_valid {values : List Text} (valid : ∀ value ∈ values, validValue value = true) : (Utf16.sort values).all validValue = true := by
  rw [List.all_eq_true]
  exact fun value member => valid value ((Utf16.sort_perm values).mem_iff.mp member)

theorem MatchExpression.Valid.requirement {expr : MatchExpression} (valid : expr.Valid) : expr.requirement.valid = true := by
  obtain ⟨ofKey, ofValues⟩ := valid
  rw [Requirement.valid, MatchExpression.requirement, Bool.and_eq_true]
  refine ⟨ofKey, ?_⟩
  unfold MatchExpression.demand
  cases operator : expr.operator with
  | isIn =>
    rw [operator] at ofValues
    exact sort_valid ofValues.2
  | notIn =>
    rw [operator] at ofValues
    exact sort_valid ofValues.2
  | _ => rfl

theorem segment_set (key : Text) (operator : String) (values : List Text) :
    [] ++ key ++ (' ' :: operator.toList ++ [' ']) ++ ('(' :: separated values ++ [')']) = key ++ LabelSyntax.set operator values := by
  simp [LabelSyntax.set]

theorem MatchExpression.Valid.segment {expr : MatchExpression} (valid : expr.Valid) :
    ∃ text, expr.segment = some text ∧ States text expr.requirement := by
  obtain ⟨key, operator, values⟩ := expr
  obtain ⟨-, ofValues⟩ := valid
  cases operator with
  | isIn =>
    have written := States.among key (Utf16.sort_ne_nil ofValues.1)
    rw [← segment_set] at written
    exact ⟨_, rfl, written⟩
  | notIn =>
    have written := States.outside key (Utf16.sort_ne_nil ofValues.1)
    rw [← segment_set] at written
    exact ⟨_, rfl, written⟩
  | present =>
    refine ⟨_, rfl, ?_⟩
    change States ([] ++ key ++ [] ++ []) ⟨key, .present⟩
    rw [List.append_nil, List.append_nil, List.nil_append]
    exact States.present key
  | doesNotExist =>
    refine ⟨_, rfl, ?_⟩
    change States (['!'] ++ key ++ [] ++ []) ⟨key, .absent⟩
    rw [List.append_nil, List.append_nil, List.singleton_append]
    exact States.absent key
  | _ => exact absurd ofValues not_false

theorem expressions_stated {exprs : List MatchExpression} (valid : ∀ expr ∈ exprs, expr.Valid) :
    ∃ texts, matchExpressionSimplifier exprs = some texts ∧ List.Forall₂ States texts (exprs.map MatchExpression.requirement) := by
  induction exprs with
  | nil => exact ⟨[], rfl, List.Forall₂.nil⟩
  | cons expr exprs ih =>
    obtain ⟨text, printed, states⟩ := (valid expr List.mem_cons_self).segment
    obtain ⟨texts, others, stated⟩ := ih fun other member => valid other (List.mem_cons_of_mem expr member)
    refine ⟨text :: texts, ?_, List.Forall₂.cons states stated⟩
    rw [matchExpressionSimplifier] at others ⊢
    rw [List.mapM_cons, printed, others]
    rfl

theorem labels_stated (labels : List (Text × Text)) :
    List.Forall₂ States (labels.map fun (k, value) => k ++ '=' :: value) (labels.map labelRequirement) := by
  rw [List.forall₂_map_left_iff, List.forall₂_map_right_iff, List.forall₂_same]
  exact fun label _ => States.exact label.1 label.2

theorem matchLabels_segments (matchLabels : Option (List (Text × Text))) :
    (matchLabelsSimplifier matchLabels true).getD [] = (matchLabels.getD []).map fun (k, value) => k ++ '=' :: value := by
  cases matchLabels <;> rfl

/-- What is asked of the labels of an object, part by part. -/
def LabelSelector.requirements (selector : LabelSelector) : List Requirement :=
  (selector.matchLabels.getD []).map labelRequirement ++ (selector.matchExpressions.getD []).map MatchExpression.requirement

theorem ValidSelector.valid (selector : ValidSelector) : ∀ requirement ∈ selector.requirements, requirement.valid = true := by
  intro requirement member
  rcases List.mem_append.mp member with ofLabel | ofExpression
  · obtain ⟨label, inside, rfl⟩ := List.mem_map.mp ofLabel
    have fine := selector.labels label inside
    simp [Requirement.valid, labelRequirement, Demand.valid, fine]
  · obtain ⟨expr, inside, rfl⟩ := List.mem_map.mp ofExpression
    exact (selector.expressions expr inside).requirement

theorem MatchExpression.Valid.met {expr : MatchExpression} (valid : expr.Valid) (labels : Labels) :
    expr.requirement.Met labels ↔ expr.Selects labels := by
  obtain ⟨-, ofValues⟩ := valid
  unfold MatchExpression.requirement Requirement.Met MatchExpression.demand MatchExpression.Selects
  cases operator : expr.operator with
  | isIn => exact Demand.met_among_perm (Utf16.sort_perm _) _
  | notIn => exact Demand.met_outside_perm (Utf16.sort_perm _) _
  | present => exact Iff.rfl
  | doesNotExist => exact Iff.rfl
  | _ =>
    rw [operator] at ofValues
    exact absurd ofValues not_false

theorem ValidSelector.selects (selector : ValidSelector) (labels : Labels) :
    LabelSyntax.Selects selector.requirements labels ↔ selector.Selects labels := by
  unfold LabelSyntax.Selects LabelSelector.requirements LabelSelector.Selects
  rw [List.forall_mem_append, List.forall_mem_map, List.forall_mem_map]
  apply and_congr
  · apply forall₂_congr
    intro label _
    simp [labelRequirement, Requirement.Met, Demand.Met]
  · exact forall₂_congr fun expr member => (selector.expressions expr member).met labels

theorem written_fine {ch : Char} (written : IsWritten ch) : (ch ≠ '+' ∧ ch ≠ '%') ∧ ch.toNat < 256 := by
  rcases written with (name | rfl) | symbol
  · rcases isNameChar_iff.mp name with alphanum | rfl | rfl | rfl
    · refine ⟨⟨?_, ?_⟩, ?_⟩
      · rintro rfl
        exact absurd alphanum (by decide)
      · rintro rfl
        exact absurd alphanum (by decide)
      · have isUpper : ch.isUpper = decide ('A'.val ≤ ch.val ∧ ch.val ≤ 'Z'.val) := rfl
        have isLower : ch.isLower = (decide ('a'.val ≤ ch.val) && decide (ch.val ≤ 'z'.val)) := rfl
        have isAlphanum : ch.isAlphanum = ((ch.isUpper || ch.isLower) || ch.isDigit) := rfl
        simp only [isAlphanum, isUpper, isLower, Char.isDigit, Bool.or_eq_true, Bool.and_eq_true,
          decide_eq_true_eq, UInt32.le_iff_toNat_le] at alphanum
        simp only [Char.toNat]
        have upper : 'Z'.val.toNat = 90 := rfl
        have lower : 'z'.val.toNat = 122 := rfl
        have digit : '9'.val.toNat = 57 := rfl
        omega
    all_goals decide
  · decide
  · simp only [List.mem_cons, List.not_mem_nil, or_false] at symbol
    rcases symbol with rfl | rfl | rfl | rfl | rfl | rfl <;> decide

/-- The query of a selector, as the API server reads it, selects the labels that the
selector selects. It is the same whether the query is encoded for the address or not. -/
theorem query_selects (selector : ValidSelector) : ∃ query requirements,
    labelSelectorToQuery selector.toLabelSelector = some query ∧
      parse (FormUrl.decode query) = some requirements ∧ parse (FormUrl.decode (FormUrl.encode query)) = some requirements ∧
      ∀ labels, LabelSyntax.Selects requirements labels ↔ selector.Selects labels := by
  obtain ⟨texts, printed, stated⟩ := expressions_stated selector.expressions
  let segments := (matchLabelsSimplifier selector.matchLabels true).getD [] ++ texts
  have all : List.Forall₂ States segments selector.requirements := by
    have labels := labels_stated (selector.matchLabels.getD [])
    rw [← matchLabels_segments] at labels
    exact List.rel_append labels stated
  have fine := fun ch member => written_fine (chars_of_separated all selector.valid ch member)
  have parsed := parse_separated all selector.valid
  refine ⟨separated segments, selector.requirements, ?_, ?_, ?_, selector.selects⟩
  · rw [labelSelectorToQuery, printed, Option.map_some]
  · rw [FormUrl.decode_unencoded fun ch member => (fine ch member).1]
    exact parsed
  · rw [FormUrl.decode_encode fun ch member => (fine ch member).2]
    exact parsed

end K8Sense.Frontend.LabelQuery
