import Mathlib.Algebra.Order.Ring.Int
import Mathlib.Data.Int.ConditionallyCompleteOrder
import Mathlib.Order.ConditionallyCompleteLattice.Basic
import Mathlib.Order.Monotone.Defs
import K8Sense.Doctor.Licence

/-! A licence over time: it is valid, then in its grace period, then of no use. Dates
are midnights, and instants are counted in nanoseconds from the midnight of the day
from which days are counted. -/

namespace K8Sense.Doctor.Licence

/-- The free tier is the least one, and a paid tier with a name of its own is beside
the others. -/
inductive Tier.Below : Tier → Tier → Prop where
  | free (tier : Tier) : Below .free tier
  | same (tier : Tier) : Below tier tier
  | pro : Below .pro .enterprise

instance : Preorder Tier where
  le := Tier.Below
  le_refl := .same
  le_trans := by
    intro first second third lower upper
    cases lower with
    | free => exact .free _
    | same => exact upper
    | pro =>
      cases upper
      exact .pro

theorem Tier.free_le (tier : Tier) : Tier.free ≤ tier := .free tier

/-- The nanoseconds of a day. -/
def dayLength : Int := 86400000000000

def midnight (day : Int) : Int := day * dayLength

def Tools.at (tools : Tools) (now : Int) : Tools := { tools with today := now / dayLength }

variable {tools : Tools} {data : String} {file : File} {expires now : Int}

theorem today_lt (day : Int) : (tools.at now).today < day ↔ now < midnight day := by
  unfold Tools.at midnight dayLength
  dsimp only
  omega

/-- A file that is signed, and the day on which the licence expires. -/
structure Licensed (tools : Tools) (data : String) (file : File) (expires : Int) : Prop where
  readable : tools.readable = true
  parsed : parseFile tools data = .ok file
  decodes : tools.decodes file.signature = true
  verifies : tools.verifies file.payload.isTrial file.payload file.signature = true
  dated : tools.parseDate file.payload.expiresAt = some expires

/-- What the server knows of the licence at this instant. -/
def validateAt (tools : Tools) (data : String) (now : Int) : Info := validate (tools.at now) (some data)

def Payload.fullInfo (payload : Payload) : Info :=
  ⟨payload.tier, payload.customerName, payload.maxClusters, payload.seatCount, payload.expiresAt, payload.isTrial, true, false, ""⟩

def Payload.graceInfo (payload : Payload) : Info where
  tier := payload.tier
  customerName := payload.customerName
  maxClusters := payload.maxClusters
  seatCount := payload.seatCount
  expiresAt := payload.expiresAt
  isTrial := payload.isTrial
  valid := true
  inGrace := true
  message := "Licence expired on " ++ payload.expiresAt ++ " — " ++ toString graceDays ++ "-day grace period active"

def Payload.endedInfo (payload : Payload) : Info :=
  { freeInfo ("Licence expired on " ++ payload.expiresAt ++ "; grace period ended") with
    customerName := payload.customerName }

theorem validate_at (licensed : Licensed tools data file expires) (now : Int) : validateAt tools data now =
    if now < midnight (expires + 1) then file.payload.fullInfo
    else if now < midnight (expires + graceDays) then file.payload.graceInfo
    else file.payload.endedInfo := by
  have evaluated : evaluateExpiry (tools.at now) file.payload = .ok (if now < midnight (expires + 1) then file.payload.fullInfo
      else if now < midnight (expires + graceDays) then file.payload.graceInfo else file.payload.endedInfo) := by
    have dated : (tools.at now).parseDate file.payload.expiresAt = some expires := licensed.dated
    simp only [evaluateExpiry, dated, today_lt]
    split
    · rfl
    · split <;> rfl
  have readable : (tools.at now).readable = true := licensed.readable
  have parsed : parseFile (tools.at now) data = .ok file := licensed.parsed
  have decodes : (tools.at now).decodes file.signature = true := licensed.decodes
  have verifies : (tools.at now).verifies file.payload.isTrial file.payload file.signature = true := licensed.verifies
  simp [validateAt, validate, verify, readable, parsed, decodes, verifies, evaluated]

/-- The instants of the last day on which the licence is good. -/
def LastDay (expires now : Int) : Prop := midnight expires ≤ now ∧ now < midnight (expires + 1)

/-- After its last day the licence is in its grace period for this number of full
days, and no longer. -/
def GraceLasts (tools : Tools) (data : String) (expires days : Int) : Prop :=
  ∀ now, midnight (expires + 1) ≤ now → ((validateAt tools data now).inGrace = true ↔ now < midnight (expires + 1 + days))

structure Honoured (tools : Tools) (data : String) (file : File) (expires : Int) : Prop where
  falls : Antitone fun now => (validateAt tools data now).tier
  full : ∀ now, LastDay expires now → validateAt tools data now = file.payload.fullInfo
  grace : GraceLasts tools data expires graceDays
  ended : ∀ now, midnight (expires + 1 + graceDays) ≤ now → (validateAt tools data now).tier = .free

theorem tier_antitone (licensed : Licensed tools data file expires) : Antitone fun now => (validateAt tools data now).tier := by
  intro earlier later order
  have paid : ∀ {now}, now < midnight (expires + graceDays) → (validateAt tools data now).tier = file.payload.tier := by
    intro now before
    rw [validate_at licensed, if_pos before]
    split <;> rfl
  dsimp only
  by_cases before : later < midnight (expires + graceDays)
  · rw [paid before, paid (lt_of_le_of_lt order before)]
  · have ended : (validateAt tools data later).tier = .free := by
      have outside : ¬later < midnight (expires + 1) := by
        unfold midnight dayLength graceDays at *
        omega
      rw [validate_at licensed, if_neg outside, if_neg before]
      rfl
    rw [ended]
    exact Tier.free_le _

theorem full_on_last_day (licensed : Licensed tools data file expires) (last : LastDay expires now) :
    validateAt tools data now = file.payload.fullInfo := by
  rw [validate_at licensed, if_pos last.2]

theorem graceLasts_iff (licensed : Licensed tools data file expires) {days : Int} (some : 0 ≤ days) :
    GraceLasts tools data expires days ↔ days = graceDays - 1 := by
  have grace : ∀ now, midnight (expires + 1) ≤ now →
      ((validateAt tools data now).inGrace = true ↔ now < midnight (expires + graceDays)) := by
    intro now after
    rw [validate_at licensed, if_neg (by omega)]
    split
    next inside => exact iff_of_true rfl inside
    next outside => exact iff_of_false nofun outside
  constructor
  · intro lasts
    have first := (lasts (midnight (expires + 1 + days)) (by unfold midnight dayLength; omega)).not.mpr (lt_irrefl _)
    have second := (grace (midnight (expires + graceDays)) (by unfold midnight dayLength graceDays; omega)).not.mpr (lt_irrefl _)
    rw [grace _ (by unfold midnight dayLength; omega)] at first
    rw [lasts _ (by unfold midnight dayLength graceDays; omega)] at second
    unfold midnight dayLength at first second
    omega
  · intro same now after
    rw [grace now after, same]
    have end_eq : expires + 1 + (graceDays - 1) = expires + graceDays := by omega
    rw [end_eq]

/-- No licence has the grace period that it is promised: it never gets a better tier,
and is good for the whole of its last day, but then the grace period is a day
short. -/
theorem never_honoured (licensed : Licensed tools data file expires) : ¬Honoured tools data file expires ∧
    (Antitone fun now => (validateAt tools data now).tier) ∧
    (∀ now, LastDay expires now → validateAt tools data now = file.payload.fullInfo) ∧
    GraceLasts tools data expires (graceDays - 1) := by
  refine ⟨?_, tier_antitone licensed, fun now => full_on_last_day licensed, ?_⟩
  · intro honoured
    have short := (graceLasts_iff licensed (by decide)).mp honoured.grace
    omega
  · exact (graceLasts_iff licensed (by decide)).mpr rfl

/-! A licence that expires on 30 June 2025, counted from the first day of 1970. -/

private def bank : File := ⟨⟨"c-1", "X Bank", .pro, 5, 10, "2024-07-01", "2025-06-30", false⟩, "c2ln"⟩

private def bankTools : Tools where
  unmarshal data := if data = "licence" then some bank else none
  marshal _ := "licence"
  decodes _ := true
  verifies _ payload signature := payload = bank.payload && signature = bank.signature
  signTrial _ := "c2ln"
  parseDate date := if date = "2025-06-30" then some 20269 else none
  formatDate _ := "2025-06-30"
  today := 0
  machineFingerprint := "m"
  readable := true

private theorem bank_licensed : Licensed bankTools "licence" bank 20269 := by
  refine ⟨rfl, ?_, rfl, ?_, ?_⟩
  all_goals decide

theorem bank_not_honoured : ¬Honoured bankTools "licence" bank 20269 := (never_honoured bank_licensed).1

theorem grace_short : ¬∀ tools data file expires, Licensed tools data file expires → Honoured tools data file expires := by
  intro all
  have honoured := all bankTools "licence" bank 20269 bank_licensed
  have short := (graceLasts_iff bank_licensed (by decide)).mp honoured.grace
  cases short

end K8Sense.Doctor.Licence
