import K8Sense.Library.Wrapping
import K8Sense.Doctor.Finding

/-! The two bands in which the usage of a quota is reported. -/

namespace K8Sense.Doctor.Quota
open Wrapping

/-- An amount as the API takes it: to three decimals, and of a magnitude that fits
64 bits. -/
structure Quantity where
  milli : Nat
  bound : milli ≤ (2 ^ 63 - 1) * 1000

abbrev ResourceList := List (String × Quantity)

structure ResourceQuota where
  «namespace» : String
  name : String
  hard : ResourceList
  used : ResourceList

def quotaWarnPercent : Int := 85

def quotaCriticalPercent : Int := 95

section
variable (milliValue : Quantity → Int)

def ratioPercent (used hard : Quantity) : Int :=
  let h := milliValue hard
  if h = 0 then 0 else wrap ((wrap (milliValue used * 100)).tdiv h)

/-- The loop body, on the worst percentage found. -/
def worse (used : ResourceList) (worst : Int) (resource : String × Quantity) : Int :=
  if resource.2.milli = 0 then worst
  else match used.lookup resource.1 with
    | none => worst
    | some usedQty =>
      let percent := ratioPercent milliValue usedQty resource.2
      if percent > worst then percent else worst

def worstQuotaUsagePercent (hard used : ResourceList) : Int := hard.foldl (worse milliValue used) (-1)

def ResourceQuota.worst (quota : ResourceQuota) : Int := worstQuotaUsagePercent milliValue quota.hard quota.used

def ResourceQuota.finding (quota : ResourceQuota) : RawFinding :=
  ⟨quota.namespace, "ResourceQuota", quota.name, "\x7b\"usagePercent\": " ++ toString (quota.worst milliValue) ++ "\x7d"⟩

def checkResourceQuota (minPercent maxPercent : Int) (quotas : Except String (List ResourceQuota)) : Except String (List RawFinding) := do
  let items ← quotas
  return (items.filter fun quota => minPercent ≤ quota.worst milliValue && quota.worst milliValue < maxPercent).map
    (ResourceQuota.finding milliValue)

/-- `check_resourcequota_warn`, of the rule RES-001. -/
def checkResourceQuotaWarn := checkResourceQuota milliValue quotaWarnPercent quotaCriticalPercent

/-- `check_resourcequota_critical`, of the rule RES-002. -/
def checkResourceQuotaCritical := checkResourceQuota milliValue quotaCriticalPercent 101

end

/-- `MilliValue` gives the amount in thousandths when it fits 64 bits, and some
64-bit number otherwise. -/
structure Documented (milliValue : Quantity → Int) : Prop where
  exact : ∀ quantity, quantity.milli < 2 ^ 63 → milliValue quantity = quantity.milli
  range : ∀ quantity, -2 ^ 63 ≤ milliValue quantity ∧ milliValue quantity < 2 ^ 63

/-- A resource of the quota that has a limit, with what is used of it. -/
structure Tracked (quota : ResourceQuota) (used hard : Quantity) : Prop where
  listed : ∃ name, (name, hard) ∈ quota.hard ∧ quota.used.lookup name = some used
  limited : hard.milli ≠ 0

/-- What is used is at least this percentage of the limit. -/
def Reaches (percent : Nat) (used hard : Quantity) : Prop := percent * hard.milli ≤ used.milli * 100

/-- The numbers that the percentage is computed from are the ones that are meant. -/
structure Exact (milliValue : Quantity → Int) (used hard : Quantity) : Prop where
  product : wrap (milliValue used * 100) = used.milli * 100
  limit : milliValue hard = hard.milli

variable {milliValue : Quantity → Int} {quota : ResourceQuota} {used hard : Quantity}

/-- The check has a finding for the quota, each of which the check looks at by itself. -/
def Reported (milliValue : Quantity → Int) (check : Except String (List ResourceQuota) → Except String (List RawFinding))
    (quota : ResourceQuota) : Prop :=
  check (.ok [quota]) = .ok [quota.finding milliValue]

theorem reported_reached {minPercent maxPercent : Int} : Reported milliValue (checkResourceQuota milliValue minPercent maxPercent) quota ↔
    minPercent ≤ quota.worst milliValue ∧ quota.worst milliValue < maxPercent := by
  unfold Reported checkResourceQuota
  by_cases inside : minPercent ≤ quota.worst milliValue ∧ quota.worst milliValue < maxPercent
  · simp [inside]
  · have outside : (decide (minPercent ≤ quota.worst milliValue) && decide (quota.worst milliValue < maxPercent)) = false := by
      simpa using inside
    refine iff_of_false ?_ inside
    intro same
    have empty : [] = [quota.finding milliValue] := by
      simpa [outside] using Except.ok.inj same
    cases empty

theorem foldl_worse {threshold : Int} {hard used : ResourceList} {worst : Int} :
    threshold ≤ hard.foldl (worse milliValue used) worst ↔ threshold ≤ worst ∨
      ∃ name limit amount, (name, limit) ∈ hard ∧ limit.milli ≠ 0 ∧ used.lookup name = some amount ∧
        threshold ≤ ratioPercent milliValue amount limit := by
  induction hard generalizing worst with
  | nil => simp
  | cons resource rest ih =>
    have step : threshold ≤ worse milliValue used worst resource ↔ threshold ≤ worst ∨ ∃ amount, resource.2.milli ≠ 0 ∧
        used.lookup resource.1 = some amount ∧ threshold ≤ ratioPercent milliValue amount resource.2 := by
      unfold worse
      split
      next unlimited => simp [unlimited]
      next limited =>
        split
        next absent => simp [absent]
        next amount found =>
          simp only [limited, ne_eq, not_false_eq_true, true_and, found, Option.some.injEq, exists_eq_left']
          split <;> omega
    rw [List.foldl_cons, ih, step, or_assoc]
    constructor
    · rintro (before | ⟨amount, limited, found, reached⟩ | ⟨name, limit, amount, member, rest⟩)
      · exact .inl before
      · exact .inr ⟨resource.1, resource.2, amount, List.mem_cons_self, limited, found, reached⟩
      · exact .inr ⟨name, limit, amount, List.mem_cons_of_mem _ member, rest⟩
    · rintro (before | ⟨name, limit, amount, member, limited, found, reached⟩)
      · exact .inl before
      · rcases List.mem_cons.mp member with rfl | later
        · exact .inr (.inl ⟨amount, limited, found, reached⟩)
        · exact .inr (.inr ⟨name, limit, amount, later, limited, found, reached⟩)

theorem worst_ge {threshold : Int} (positive : 0 ≤ threshold) : threshold ≤ quota.worst milliValue ↔
    ∃ used hard, Tracked quota used hard ∧ threshold ≤ ratioPercent milliValue used hard := by
  rw [ResourceQuota.worst, worstQuotaUsagePercent, foldl_worse]
  constructor
  · rintro (low | ⟨name, limit, amount, member, limited, found, reached⟩)
    · omega
    · exact ⟨amount, limit, ⟨⟨name, member, found⟩, limited⟩, reached⟩
  · intro ⟨amount, limit, ⟨⟨name, member, found⟩, limited⟩, reached⟩
    exact .inr ⟨name, limit, amount, member, limited, found, reached⟩

theorem ratio_ge (exact : Exact milliValue used hard) (limited : hard.milli ≠ 0) (percent : Nat) :
    (percent : Int) ≤ ratioPercent milliValue used hard ↔ Reaches percent used hard := by
  obtain ⟨product, limit⟩ := exact
  have range := wrap_range (milliValue used * 100)
  rw [product] at range
  have quotient : ((used.milli * 100 : Int)).tdiv hard.milli = ((used.milli * 100 / hard.milli : Nat) : Int) := by
    rw [Int.tdiv_eq_ediv_of_nonneg (by omega)]
    rfl
  have below : used.milli * 100 / hard.milli ≤ used.milli * 100 := Nat.div_le_self ..
  have kept : wrap ((used.milli * 100 / hard.milli : Nat) : Int) = ((used.milli * 100 / hard.milli : Nat) : Int) := by
    generalize used.milli * 100 / hard.milli = ratio at below
    exact wrap_eq_iff.mpr (by omega)
  have ratio : ratioPercent milliValue used hard = ((used.milli * 100 / hard.milli : Nat) : Int) := by
    unfold ratioPercent
    dsimp only
    rw [limit, product, quotient, if_neg (by omega), kept]
  rw [ratio, Reaches, ← Nat.le_div_iff_mul_le (by omega)]
  omega

theorem exact_iff (documented : Documented milliValue) :
    Exact milliValue used hard ↔ used.milli * 100 < 2 ^ 63 ∧ hard.milli < 2 ^ 63 := by
  constructor
  · intro ⟨product, limit⟩
    have range := wrap_range (milliValue used * 100)
    have bound := documented.range hard
    omega
  · intro ⟨product, limit⟩
    have value := documented.exact used (by omega)
    refine ⟨?_, documented.exact hard limit⟩
    rw [value]
    exact wrap_eq_iff.mpr (by omega)

/-- The two rules share the usage of a quota between them, and compute it without
overflow. -/
structure Partitioned (milliValue : Quantity → Int) (quota : ResourceQuota) : Prop where
  apart : ¬(Reported milliValue (checkResourceQuotaWarn milliValue) quota ∧
    Reported milliValue (checkResourceQuotaCritical milliValue) quota)
  critical : Reported milliValue (checkResourceQuotaCritical milliValue) quota ↔
    ∃ used hard, Tracked quota used hard ∧ Reaches 95 used hard
  warning : Reported milliValue (checkResourceQuotaWarn milliValue) quota ↔
    (¬∃ used hard, Tracked quota used hard ∧ Reaches 95 used hard) ∧ ∃ used hard, Tracked quota used hard ∧ Reaches 85 used hard
  exact : ∀ used hard, Tracked quota used hard → Exact milliValue used hard

theorem partitioned_iff (documented : Documented milliValue) : Partitioned milliValue quota ↔
    ∀ used hard, Tracked quota used hard → used.milli * 100 < 2 ^ 63 ∧ hard.milli < 2 ^ 63 ∧ ¬Reaches 101 used hard := by
  have reached : (∀ used hard, Tracked quota used hard → Exact milliValue used hard) → ∀ percent : Nat,
      (percent : Int) ≤ quota.worst milliValue ↔ ∃ used hard, Tracked quota used hard ∧ Reaches percent used hard := by
    intro exact percent
    rw [worst_ge (by omega)]
    constructor
    · intro ⟨used, hard, tracked, reached⟩
      exact ⟨used, hard, tracked, (ratio_ge (exact used hard tracked) tracked.limited percent).mp reached⟩
    · intro ⟨used, hard, tracked, reached⟩
      exact ⟨used, hard, tracked, (ratio_ge (exact used hard tracked) tracked.limited percent).mpr reached⟩
  constructor
  · intro ⟨_, critical, _, exact⟩ used hard tracked
    have fits := (exact_iff documented).mp (exact used hard tracked)
    refine ⟨fits.1, fits.2, ?_⟩
    intro full
    have worst := (reached exact 101).mpr ⟨used, hard, tracked, full⟩
    have ninety := (reached exact 95).mp (by omega)
    have below := (reported_reached.mp (critical.mpr ninety)).2
    omega
  · intro condition
    have exact : ∀ used hard, Tracked quota used hard → Exact milliValue used hard := by
      intro used hard tracked
      obtain ⟨product, limit, _⟩ := condition used hard tracked
      exact (exact_iff documented).mpr ⟨product, limit⟩
    have full : ¬(101 : Nat) ≤ quota.worst milliValue := by
      rw [reached exact 101]
      intro ⟨used, hard, tracked, beyond⟩
      exact (condition used hard tracked).2.2 beyond
    refine ⟨?_, ?_, ?_, exact⟩
    · rw [checkResourceQuotaWarn, checkResourceQuotaCritical, reported_reached, reported_reached]
      omega
    · rw [checkResourceQuotaCritical, reported_reached, ← reached exact 95, quotaCriticalPercent]
      omega
    · rw [checkResourceQuotaWarn, reported_reached, ← reached exact 95, ← reached exact 85, quotaWarnPercent, quotaCriticalPercent]
      omega

private def thousandths (quantity : Quantity) : Int := if quantity.milli < 2 ^ 63 then quantity.milli else 0

private theorem thousandths_documented : Documented thousandths := by
  refine ⟨?_, ?_⟩
  · intro quantity small
    exact if_pos small
  · intro quantity
    unfold thousandths
    split <;> omega

private def limits (resource : String) (hard used : Nat) (hardBound : hard * 1000 ≤ (2 ^ 63 - 1) * 1000)
    (usedBound : used * 1000 ≤ (2 ^ 63 - 1) * 1000) : ResourceQuota :=
  ⟨"shop", "limits", [(resource, ⟨hard * 1000, hardBound⟩)], [(resource, ⟨used * 1000, usedBound⟩)]⟩

theorem pods_partitioned : Partitioned thousandths (limits "pods" 20 19 (by decide) (by decide)) := by
  apply (partitioned_iff thousandths_documented).mpr
  intro used hard ⟨⟨name, listed, found⟩, _⟩
  cases List.mem_singleton.mp listed
  cases Option.some.inj found
  refine ⟨by decide, by decide, ?_⟩
  unfold Reaches
  decide

theorem full_unreported : ¬∀ milliValue quota, Documented milliValue → Partitioned milliValue quota := by
  intro all
  have full := (all thousandths (limits "pods" 10 11 (by decide) (by decide)) thousandths_documented).critical
  have reached := full.mpr ⟨_, _, ⟨⟨"pods", List.mem_cons_self, rfl⟩, by decide⟩, by unfold Reaches; decide⟩
  exact absurd (reported_reached.mp reached) (by decide)

/-- For 90 of 100 TiB the product overflows. -/
example : (limits "requests.storage" 109951162777600 98956046499840 (by decide) (by decide)).worst thousandths < 0 := by
  decide

end K8Sense.Doctor.Quota
