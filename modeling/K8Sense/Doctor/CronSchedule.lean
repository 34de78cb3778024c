import Mathlib.Algebra.Ring.Nat
import K8Sense.Library.Recurrence
import K8Sense.Library.Text

/-! The schedule of a CronJob: the five fields that the API server accepts, and the
minutes at which they make the job due. Minutes and days are counted from 1 March
of the year -400, a point before every time that RFC 3339 can write, in the zone
of the schedule. -/

namespace K8Sense.Doctor.Cron
open Text Recurrence

/-- `strings.Fields`. -/
def fields (text : String) : List String :=
  ((text.toList.splitOnP isSpace).filter (· ≠ [])).map String.ofList

/-- Whether a number is negative, and its digits. -/
def sign : List Char → Bool × List Char
  | '-' :: digits => (true, digits)
  | '+' :: digits => (false, digits)
  | digits => (false, digits)

/-- `strconv.Atoi`. -/
def atoi (text : String) : Option Int :=
  let (negative, digits) := sign text.toList
  if digits ≠ [] ∧ digits.all Char.isDigit = true then
    let magnitude : Int := Nat.ofDigitChars 10 digits 0
    let value := if negative then -magnitude else magnitude
    if -2 ^ 63 ≤ value ∧ value < 2 ^ 63 then some value else none
  else none

/-- The values that a field can take, and the names it has for some of them. -/
structure Bounds where
  min : Nat
  max : Nat
  names : List (String × Nat) := []

def minutes : Bounds := { min := 0, max := 59 }

def hours : Bounds := { min := 0, max := 23 }

def daysOfMonth : Bounds := { min := 1, max := 31 }

def months : Bounds where
  min := 1
  max := 12
  names := [("jan", 1), ("feb", 2), ("mar", 3), ("apr", 4), ("may", 5), ("jun", 6), ("jul", 7), ("aug", 8), ("sep", 9), ("oct", 10),
    ("nov", 11), ("dec", 12)]

def daysOfWeek : Bounds where
  min := 0
  max := 6
  names := [("sun", 0), ("mon", 1), ("tue", 2), ("wed", 3), ("thu", 4), ("fri", 5), ("sat", 6)]

/-- One entry of a field: every `step`-th value from `start` to `stop`. The star says
that the entry does not restrict the field. -/
structure Range where
  start : Nat
  stop : Nat
  step : Nat
  star : Bool
  deriving DecidableEq

def Range.allows (range : Range) (value : Nat) : Bool :=
  range.start ≤ value && value ≤ range.stop && (value - range.start) % range.step = 0

abbrev Field := List Range

def Field.allows (field : Field) (value : Nat) : Bool := field.any fun range => range.allows value

def Field.star (field : Field) : Bool := field.any Range.star

def number (text : String) : Option Nat :=
  match atoi text with
  | some (.ofNat value) => some value
  | _ => none

def numberOrName (bounds : Bounds) (text : String) : Option Nat :=
  (bounds.names.lookup (String.ofList (text.toList.map Char.toLower))).or (number text)

/-- Where an entry starts and stops, and whether it is a star, a single value or a
range. -/
def ends (bounds : Bounds) (text : String) : Option (Nat × Nat × Bool × Bool) :=
  match split '-' text with
  | [] => none
  | low :: rest =>
    if low = "*" ∨ low = "?" then some (bounds.min, bounds.max, true, rest.isEmpty)
    else match rest with
      | [] => (numberOrName bounds low).map fun value => (value, value, false, true)
      | [high] => do return (← numberOrName bounds low, ← numberOrName bounds high, false, false)
      | _ => none

/-- An entry with a step that starts at a single value goes on to the greatest one. -/
def entry (bounds : Bounds) (text : String) : Option Range :=
  match split '/' text with
  | [values] => (ends bounds values).map fun (start, stop, star, _) => ⟨start, stop, 1, star⟩
  | [values, step] => do
    let (start, stop, star, single) ← ends bounds values
    let step ← number step
    some ⟨start, if single then bounds.max else stop, step, star && step ≤ 1⟩
  | _ => none

def parseRange (bounds : Bounds) (text : String) : Option Range :=
  (entry bounds text).filter fun range =>
    bounds.min ≤ range.start && range.stop ≤ bounds.max && range.start ≤ range.stop && range.step ≠ 0

def parseField (bounds : Bounds) (text : String) : Option Field :=
  ((split ',' text).filter (· ≠ "")).mapM (parseRange bounds)

structure Schedule where
  minute : Field
  hour : Field
  dayOfMonth : Field
  month : Field
  dayOfWeek : Field

def parse (text : String) : Option Schedule :=
  match fields text with
  | [minute, hour, dayOfMonth, month, dayOfWeek] => do
    return ⟨← parseField minutes minute, ← parseField hours hour, ← parseField daysOfMonth dayOfMonth, ← parseField months month,
      ← parseField daysOfWeek dayOfWeek⟩
  | _ => none

/-! An entry `*/n` is a star with a step. -/

theorem sign_chars {chars : List Char} (digits : ∀ char ∈ (sign chars).2, char.isDigit = true) :
    ∀ char ∈ chars, char.isDigit = true ∨ char = '-' ∨ char = '+' := by
  intro char member
  revert digits member
  unfold sign
  split
  next rest =>
    intro digits member
    rcases List.mem_cons.mp member with minus | later
    · exact .inr (.inl minus)
    · exact .inl (digits char later)
  next rest =>
    intro digits member
    rcases List.mem_cons.mp member with plus | later
    · exact .inr (.inr plus)
    · exact .inl (digits char later)
  next => exact fun digits member => .inl (digits char member)

theorem atoi_chars {text : String} {value : Int} (read : atoi text = some value) :
    ∀ char ∈ text.toList, char.isDigit = true ∨ char = '-' ∨ char = '+' := by
  apply sign_chars
  by_contra other
  have digits : (sign text.toList).2.all Char.isDigit = false := by
    simpa using other
  simp [atoi, digits] at read

theorem atoi_free {text : String} {value : Int} (read : atoi text = some value) {sep : Char} (notDigit : sep.isDigit = false)
    (notSign : sep ≠ '-' ∧ sep ≠ '+') : sep ∉ text.toList := by
  intro member
  rcases atoi_chars read sep member with digit | minus | plus
  · simp [digit] at notDigit
  · exact notSign.1 minus
  · exact notSign.2 plus

theorem split_free {sep : Char} {text : String} (free : sep ∉ text.toList) : split sep text = [text] := by
  have whole : split sep (join sep [text]) = [text] := split_join (List.cons_ne_nil _ _) (by simpa using free)
  rwa [join_singleton] at whole

theorem parseField_one {bounds : Bounds} {text : String} (free : ',' ∉ text.toList) (some : text ≠ "") {field : Field}
    (parsed : parseField bounds text = .some field) : ∃ range, parseRange bounds text = .some range ∧ field = [range] := by
  rw [parseField, split_free free, List.filter_cons_of_pos (by simpa using some), List.filter_nil] at parsed
  obtain ⟨range, read, rest⟩ := Option.bind_eq_some_iff.mp parsed
  exact ⟨range, read, (Option.some.inj rest).symm⟩

theorem parseField_star {bounds : Bounds} {field : Field} (parsed : parseField bounds "*" = some field) :
    ∃ star, field = [⟨bounds.min, bounds.max, 1, star⟩] := by
  obtain ⟨range, read, rfl⟩ := parseField_one (by decide) (by decide) parsed
  have bare : split '/' "*" = ["*"] := by decide
  have plain : split '-' "*" = ["*"] := by decide
  have shape : entry bounds "*" = some ⟨bounds.min, bounds.max, 1, true⟩ := by
    simp only [entry, bare, ends, plain, true_or, if_true, Option.map_some]
  rw [parseRange, shape] at read
  exact ⟨true, congrArg (fun range => [range]) (Option.some.inj (Option.filter_eq_some_iff.mp read).1).symm⟩

theorem parseField_step {bounds : Bounds} {step : String} {value : Int} {field : Field} (number : atoi step = some value) (positive : 0 < value)
    (parsed : parseField bounds ("*/" ++ step) = some field) : ∃ star, field = [⟨bounds.min, bounds.max, value.toNat, star⟩] := by
  have noComma : ',' ∉ ("*/" ++ step).toList := by
    have free : ',' ∉ step.toList := atoi_free number (by decide) (by decide)
    simpa using free
  have noSlash : '/' ∉ step.toList := atoi_free number (by decide) (by decide)
  obtain ⟨range, read, rfl⟩ := parseField_one noComma (by simp) parsed
  have parts : split '/' ("*/" ++ step) = ["*", step] := by
    have whole : join '/' ["*", step] = "*/" ++ step := by
      apply String.toList_injective
      simp [join_cons]
    rw [← whole]
    apply split_join (List.cons_ne_nil _ _)
    simpa using noSlash
  have plain : split '-' "*" = ["*"] := by decide
  obtain ⟨natural, rfl⟩ := Int.eq_ofNat_of_zero_le positive.le
  have shape : entry bounds ("*/" ++ step) = some ⟨bounds.min, bounds.max, natural, true && natural ≤ 1⟩ := by
    simp only [entry, parts, ends, plain, true_or, if_true, Cron.number, number, Option.bind_eq_bind, Option.bind_some, List.isEmpty_nil]
  rw [parseRange, shape] at read
  exact ⟨_, congrArg (fun range => [range]) (Option.some.inj (Option.filter_eq_some_iff.mp read).1).symm⟩

/-! The calendar repeats itself after 400 years, which are whole weeks. -/

def cycle : Nat := 146097

structure Date where
  month : Nat
  day : Nat
  weekday : Nat
  month_bounds : 1 ≤ month ∧ month ≤ 12
  day_bounds : 1 ≤ day ∧ day ≤ 31
  weekday_bound : weekday ≤ 6

/-- The year starts in March here, so that a leap day is the last day of its year:
of every fourth year but the last of a century, and of the last year of the cycle. -/
def dayOfYear (inCycle : Nat) : Nat :=
  let inCentury := inCycle - 36524 * min (inCycle / 36524) 3
  let inFour := inCentury % 1461
  inFour - 365 * min (inFour / 365) 3

theorem dayOfYear_lt (inCycle : Nat) : dayOfYear inCycle < 366 := by
  unfold dayOfYear
  dsimp only
  omega

def dateInCycle (inCycle : Nat) : Date where
  month := let index := (5 * dayOfYear inCycle + 2) / 153; if index < 10 then index + 3 else index - 9
  day := dayOfYear inCycle - (153 * ((5 * dayOfYear inCycle + 2) / 153) + 2) / 5 + 1
  weekday := (inCycle + 3) % 7
  month_bounds := by
    have inside := dayOfYear_lt inCycle
    dsimp only
    split <;> omega
  day_bounds := by
    have inside := dayOfYear_lt inCycle
    omega
  weekday_bound := by omega

def date (day : Nat) : Date := dateInCycle (day % cycle)

/-- Days restricted in both ways are due either way. -/
def Schedule.dayMatches (schedule : Schedule) (date : Date) : Bool :=
  let dayOfMonth := schedule.dayOfMonth.allows date.day
  let dayOfWeek := schedule.dayOfWeek.allows date.weekday
  schedule.month.allows date.month &&
    if schedule.dayOfMonth.star || schedule.dayOfWeek.star then dayOfMonth && dayOfWeek else dayOfMonth || dayOfWeek

def Schedule.due (schedule : Schedule) (time : Nat) : Bool :=
  schedule.minute.allows (time % 60) && (schedule.hour.allows (time / 60 % 24) && schedule.dayMatches (date (time / 60 / 24)))

def Field.possible (field : Field) (size : Nat) : Bool := (List.range size).any field.allows

def Field.first (field : Field) (size : Nat) : Nat := ((List.range size).find? field.allows).getD 0

def Field.last (field : Field) (size : Nat) : Nat := Nat.findGreatest (fun value => field.allows value = true) (size - 1)

/-- How far the last value that the field allows is from the first one. -/
def Field.spread (field : Field) (size : Nat) : Nat := field.last size - field.first size

/-- The job is due at some minute of this hour. -/
def Schedule.dueHour (schedule : Schedule) (hour : Nat) : Bool :=
  schedule.minute.possible 60 && (schedule.hour.allows (hour % 24) && schedule.dayMatches (date (hour / 24)))

/-- The job is due at some minute of this day. -/
def Schedule.dueDay (schedule : Schedule) (day : Nat) : Bool :=
  schedule.minute.possible 60 && (schedule.hour.possible 24 && schedule.dayMatches (date day))

variable {schedule : Schedule} {field : Field} {size limit : Nat}

theorem possible_of {value : Nat} (below : value < size) (allowed : field.allows value = true) : field.possible size = true :=
  List.any_eq_true.mpr ⟨value, List.mem_range.mpr below, allowed⟩

theorem due_iff (time : Nat) : schedule.due time = true ↔ schedule.minute.allows (time % 60) = true ∧ schedule.dueHour (time / 60) = true := by
  simp only [Schedule.due, Schedule.dueHour, Bool.and_eq_true]
  constructor
  · intro ⟨minute, rest⟩
    exact ⟨minute, possible_of (Nat.mod_lt _ (by decide)) minute, rest⟩
  · intro ⟨minute, _, rest⟩
    exact ⟨minute, rest⟩

theorem dueHour_iff (hour : Nat) :
    schedule.dueHour hour = true ↔ schedule.hour.allows (hour % 24) = true ∧ schedule.dueDay (hour / 24) = true := by
  simp only [Schedule.dueHour, Schedule.dueDay, Bool.and_eq_true]
  constructor
  · intro ⟨minute, hour, day⟩
    exact ⟨hour, minute, possible_of (Nat.mod_lt _ (by decide)) hour, day⟩
  · intro ⟨hour, minute, _, day⟩
    exact ⟨minute, hour, day⟩

theorem date_cycle (day : Nat) : date (day + cycle) = date day := by
  rw [date, Nat.add_mod_right, date]

theorem due_recurs : Recurs fun time => schedule.due time = true := by
  apply recurs_of_period (show 0 < cycle * 24 * 60 by decide)
  intro time due
  have minute : (time + cycle * 24 * 60) % 60 = time % 60 := Nat.add_mul_mod_self_right ..
  have hour : (time + cycle * 24 * 60) / 60 = time / 60 + cycle * 24 := Nat.add_mul_div_right _ _ (by decide)
  have place : (time / 60 + cycle * 24) % 24 = time / 60 % 24 := Nat.add_mul_mod_self_right ..
  have day : (time / 60 + cycle * 24) / 24 = time / 60 / 24 + cycle := Nat.add_mul_div_right _ _ (by decide)
  rw [Schedule.due, minute, hour, place, day, date_cycle]
  exact due

/-- The values of a unit that the field allows. -/
def Field.Allowed (field : Field) (size value : Nat) : Prop := value < size ∧ field.allows value = true

theorem first_allowed (possible : field.possible size = true) :
    field.Allowed size (field.first size) ∧ ∀ value, field.Allowed size value → field.first size ≤ value := by
  obtain ⟨some, inside, allowed⟩ := List.any_eq_true.mp possible
  obtain ⟨first, found⟩ := Option.isSome_iff_exists.mp (List.find?_isSome.mpr ⟨some, inside, allowed⟩)
  rw [Field.first, found, Option.getD_some]
  obtain ⟨known, member, earlier⟩ := List.find?_range_eq_some.mp found
  refine ⟨⟨List.mem_range.mp member, known⟩, ?_⟩
  intro value ⟨below, other⟩
  by_contra outside
  have absent := earlier value (by omega)
  simp [other] at absent

theorem last_allowed (possible : field.possible size = true) :
    field.Allowed size (field.last size) ∧ ∀ value, field.Allowed size value → value ≤ field.last size := by
  obtain ⟨some, inside, allowed⟩ := List.any_eq_true.mp possible
  have below := List.mem_range.mp inside
  refine ⟨⟨?_, Nat.findGreatest_spec (P := fun value => field.allows value = true) (by omega) allowed⟩, ?_⟩
  · have bound := Nat.findGreatest_le (P := fun value => field.allows value = true) (size - 1)
    rw [Field.last]
    omega
  · intro value ⟨inside, known⟩
    exact Nat.le_findGreatest (by omega) known

theorem spread_lt (positive : 0 < size) : field.spread size < size := by
  have bound := Nat.findGreatest_le (P := fun value => field.allows value = true) (size - 1)
  rw [Field.spread, Field.last]
  omega

/-- Whether one event follows another is decided by the units, as far as the values
that the field allows are close. -/
theorem follows_unit {due outer : Nat → Prop} (split : ∀ time, due time ↔ field.allows (time % size) = true ∧ outer (time / size))
    (positive : 0 < size) (needs : ∀ unit, outer unit → field.possible size = true)
    (close : (∃ unit, outer unit) → Follows outer ((limit + field.spread size) / size) →
      Close (field.Allowed size) (field.last size) limit) :
    Follows due limit ↔ Follows outer ((limit + field.spread size) / size) := by
  by_cases possible : field.possible size = true
  · obtain ⟨opening, least⟩ := first_allowed possible
    obtain ⟨closing, greatest⟩ := last_allowed possible
    have layered : Layered due (field.Allowed size) outer size (field.first size) (field.last size) := by
      refine ⟨?_, opening, closing, closing.1, fun value allowed => ⟨least value allowed, greatest value allowed⟩⟩
      intro time
      rw [split, Field.Allowed, and_iff_right (Nat.mod_lt time positive)]
    have order := least _ closing
    have same : limit + field.last size - field.first size = limit + field.spread size := by
      rw [Field.spread]
      omega
    rw [follows_layered layered (same ▸ close), same]
  · have never : ∀ unit, ¬outer unit := fun unit known => possible (needs unit known)
    exact iff_of_true (fun time known => absurd ((split time).mp known).2 (never _)) (fun unit known => absurd known (never unit))

theorem close_wide (possible : field.possible size = true) (wide : size ≤ limit + 1) :
    Close (field.Allowed size) (field.last size) limit := by
  intro place allowed before
  have closing := (last_allowed possible).1
  have below := closing.1
  exact ⟨field.last size, before, by omega, closing⟩

theorem close_step {step : Nat} (multiples : ∀ value < size, field.allows value = true ↔ value % step = 0)
    (possible : field.possible size = true) (near : step ≤ limit ∨ size ≤ step) :
    Close (field.Allowed size) (field.last size) limit := by
  intro place ⟨below, allowed⟩ before
  obtain ⟨inside, last⟩ := (last_allowed possible).1
  have lastMultiple := Nat.dvd_of_mod_eq_zero ((multiples _ inside).mp last)
  have placeMultiple := Nat.dvd_of_mod_eq_zero ((multiples _ below).mp allowed)
  have apart : step ≤ field.last size - place := Nat.le_of_dvd (by omega) (Nat.dvd_sub lastMultiple placeMultiple)
  rcases near with fits | alone
  · have positive : 0 < step := by
      by_contra zero
      have none : step = 0 := by omega
      rw [none, Nat.zero_dvd] at lastMultiple placeMultiple
      omega
    refine ⟨place + step, by omega, by omega, by omega, ?_⟩
    exact (multiples _ (by omega)).mpr (Nat.mod_eq_zero_of_dvd (Nat.dvd_add_self_right.mpr placeMultiple))
  · omega

end K8Sense.Doctor.Cron
