import K8Sense.Library.Wrapping
import K8Sense.Doctor.CronSchedule
import K8Sense.Doctor.Finding

/-! The check for CronJobs that have not run for more than twice their interval,
which is estimated from the text of the schedule. Instants are counted in
nanoseconds from where the minutes of schedules are counted. -/

namespace K8Sense.Doctor.Cron
open Text Recurrence Wrapping

/-- The number after `*/`. -/
def stepOf (field : String) : Option Int :=
  if "*/".toList.isPrefixOf field.toList then
    match atoi (trimPrefix "*/" field) with
    | some n => if n > 0 then some n else none
    | none => none
  else none

def dailyMinutes : Int := 1440

def cronIntervalMinutes (schedule : String) : Int :=
  match fields schedule with
  | [minute, hour, _, _, _] =>
    match stepOf minute with
    | some n => n
    | none =>
      if minute = "*" then 1
      else if hour = "*" then 60
      else match stepOf hour with
        | some n => wrap (n * 60)
        | none => dailyMinutes
  | _ => dailyMinutes

structure CronJob where
  «namespace» : String
  name : String
  schedule : String
  suspend : Option Bool
  lastScheduleTime : Option Nat

/-- `time.Minute`. -/
def nanoseconds : Nat := 60000000000

/-- Twice the interval, as a duration. -/
def allowed (interval : Int) : Int := wrap (2 * wrap (interval * nanoseconds))

/-- `Time.Sub`, which stops at the bounds of a duration. -/
def sub (now before : Nat) : Int := max (-2 ^ 63) (min (now - before) (2 ^ 63 - 1))

def CronJob.overdue (now : Nat) (job : CronJob) : Bool :=
  if job.suspend = some true then false
  else match job.lastScheduleTime with
    | none => false
    | some last => sub now last > allowed (cronIntervalMinutes job.schedule)

section
variable (quote : String → String) (rfc3339 : Option Nat → String)

def CronJob.finding (job : CronJob) : RawFinding :=
  ⟨job.namespace, "CronJob", job.name,
    "\x7b\"schedule\": " ++ quote job.schedule ++ ", \"lastRun\": " ++ quote (rfc3339 job.lastScheduleTime) ++ "\x7d"⟩

def checkCronJobOverdue (now : Nat) (cronjobs : Except String (List CronJob)) : Except String (List RawFinding) := do
  let items ← cronjobs
  return (items.filter (CronJob.overdue now)).map (CronJob.finding quote rfc3339)

end

/-- A field that asks for every value, or for every value that a step reaches. -/
def every (field : String) : Option Nat := if field = "*" then some 1 else (stepOf field).map Int.toNat

/-- The last schedule time of the job is the last minute up to now at which the
schedule made it due. -/
def JustRan (schedule : Schedule) (job : CronJob) (now : Nat) : Prop :=
  ∃ time, job.lastScheduleTime = some (nanoseconds * time) ∧ schedule.due time = true ∧ nanoseconds * time ≤ now ∧
    ∀ later, time < later → schedule.due later = true → now < nanoseconds * later

/-- What the interval allows for, in minutes. -/
def allowance (interval : Int) : Nat := ((allowed interval + 1) / nanoseconds).toNat

/-- The units that the interval was not taken from are due often enough: the hours,
where it is the step of the minutes, and the days otherwise. -/
def Steady (allow : Int → Nat) (schedule : Schedule) (minute hour : String) : Prop :=
  match every minute, every hour with
  | some step, _ => Follows (schedule.dueHour · = true) ((allow step + schedule.minute.spread 60) / 60)
  | none, some step => Follows (schedule.dueDay · = true)
      (((allow (wrap (step * 60)) + schedule.minute.spread 60) / 60 + schedule.hour.spread 24) / 24)
  | none, none => Follows (schedule.dueDay · = true) (allow dailyMinutes / 1440)

theorem stepOf_some {field : String} {n : Int} (step : stepOf field = some n) :
    ∃ text, field = "*/" ++ text ∧ atoi text = some n ∧ 0 < n := by
  unfold stepOf at step
  split at step
  next starts =>
    obtain ⟨rest, chars⟩ := List.isPrefixOf_iff_prefix.mp starts
    have whole : field = "*/" ++ String.ofList rest := by
      apply String.toList_injective
      simp [← chars]
    rw [whole, trimPrefix_append] at step
    split at step
    next number read =>
      split at step
      next positive =>
        cases step
        exact ⟨_, whole, read, positive⟩
      next => cases step
    next => cases step
  next => cases step

theorem every_allows {bounds : Bounds} {text : String} {n : Nat} {field : Field} (step : every text = some n) (zero : bounds.min = 0)
    (parsed : parseField bounds text = some field) : 0 < n ∧ ∀ value < bounds.max + 1, field.allows value = true ↔ value % n = 0 := by
  have shape : 0 < n ∧ ∃ star, field = [⟨bounds.min, bounds.max, n, star⟩] := by
    unfold every at step
    split at step
    next star =>
      cases step
      exact ⟨by decide, parseField_star (star ▸ parsed)⟩
    next =>
      obtain ⟨number, found, rfl⟩ := Option.map_eq_some_iff.mp step
      obtain ⟨text, rfl, read, positive⟩ := stepOf_some found
      exact ⟨by omega, parseField_step read positive parsed⟩
  obtain ⟨positive, star, rfl⟩ := shape
  refine ⟨positive, ?_⟩
  intro value below
  simp [Field.allows, Range.allows, zero, Nat.le_of_lt_succ below]

theorem interval_eq {schedule minute hour dayOfMonth month dayOfWeek : String}
    (five : fields schedule = [minute, hour, dayOfMonth, month, dayOfWeek]) :
    cronIntervalMinutes schedule = match every minute, every hour with
      | some step, _ => (step : Int)
      | none, some step => wrap (step * 60)
      | none, none => dailyMinutes := by
  have natural : ∀ {field n}, stepOf field = some n → ((n.toNat : Nat) : Int) = n := by
    intro field n step
    obtain ⟨_, _, _, positive⟩ := stepOf_some step
    omega
  have star : stepOf "*" = none := by decide
  unfold cronIntervalMinutes every
  rw [five]
  dsimp only
  cases stepped : stepOf minute with
  | some n =>
    have different : minute ≠ "*" := fun same => absurd (same ▸ stepped) (by simp [star])
    simp [different, natural stepped]
  | none =>
    by_cases each : minute = "*"
    · simp [each]
    · by_cases hourly : hour = "*"
      · simp [each, hourly]
        decide
      · cases hours : stepOf hour with
        | none => simp [each, hourly]
        | some n => simp [each, hourly, natural hours]

/-- A limit that grants the interval itself, and whole days for the daily one. -/
structure Fits (allow : Int → Nat) : Prop where
  near : ∀ interval : Nat, interval ≤ 1440 → interval ≤ allow interval
  whole : allow dailyMinutes % 1440 = 0

variable {schedule : Schedule} {limit : Nat}

theorem possible_hour {unit : Nat} (known : schedule.dueHour unit = true) : schedule.minute.possible 60 = true :=
  (Bool.and_eq_true_iff.mp known).1

theorem possible_day {unit : Nat} (known : schedule.dueDay unit = true) : schedule.hour.possible 24 = true :=
  (Bool.and_eq_true_iff.mp (Bool.and_eq_true_iff.mp known).2).1

theorem follows_hours (close : (∃ hour, schedule.dueHour hour = true) →
      Follows (schedule.dueHour · = true) ((limit + schedule.minute.spread 60) / 60) →
      Close (schedule.minute.Allowed 60) (schedule.minute.last 60) limit) :
    Follows (schedule.due · = true) limit ↔ Follows (schedule.dueHour · = true) ((limit + schedule.minute.spread 60) / 60) :=
  follows_unit due_iff (by decide) (fun _ known => possible_hour known) close

theorem follows_days (close : (∃ day, schedule.dueDay day = true) → Close (schedule.hour.Allowed 24) (schedule.hour.last 24) limit) :
    Follows (schedule.dueHour · = true) limit ↔ Follows (schedule.dueDay · = true) ((limit + schedule.hour.spread 24) / 24) :=
  follows_unit dueHour_iff (by decide) (fun _ known => possible_day known) (fun known _ => close known)

theorem follows_minute_steps {step : Nat}
    (multiples : ∀ value < 60, schedule.minute.allows value = true ↔ value % step = 0) (near : step < 60 → step ≤ limit) :
    Follows (schedule.due · = true) limit ↔ Follows (schedule.dueHour · = true) ((limit + schedule.minute.spread 60) / 60) := by
  apply follows_hours
  intro ⟨hour, known⟩ _
  apply close_step multiples (possible_hour known)
  by_cases fits : step < 60
  · exact .inl (near fits)
  · exact .inr (by omega)

theorem follows_hour_steps {step : Nat} (positive : 0 < step)
    (multiples : ∀ value < 24, schedule.hour.allows value = true ↔ value % step = 0) (near : step < 24 → step * 60 ≤ limit) :
    Follows (schedule.due · = true) limit ↔
      Follows (schedule.dueDay · = true) (((limit + schedule.minute.spread 60) / 60 + schedule.hour.spread 24) / 24) := by
  have spread : schedule.minute.spread 60 < 60 := spread_lt (by decide)
  rw [follows_hours, follows_days]
  · intro ⟨day, known⟩
    apply close_step multiples (possible_day known)
    by_cases fits : step < 24
    · have granted := near fits
      exact .inl (by omega)
    · exact .inr (by omega)
  · intro ⟨hour, known⟩ follows
    apply close_wide (possible_hour known)
    by_cases fits : step < 24
    · have granted := near fits
      omega
    · -- The job is due in one hour of the day, so the limit has to grant a day.
      have first : ∀ other, schedule.dueHour other = true → other % 24 = 0 := by
        intro other due
        have inside : other % 24 < 24 := Nat.mod_lt _ (by decide)
        have multiple := (multiples _ inside).mp ((dueHour_iff other).mp due).1
        rwa [Nat.mod_eq_of_lt (by omega)] at multiple
      obtain ⟨later, after, within, there⟩ := follows hour known
      have here := first hour known
      have next := first later there
      omega

theorem follows_daily (wide : 1440 ≤ limit) (whole : limit % 1440 = 0) :
    Follows (schedule.due · = true) limit ↔ Follows (schedule.dueDay · = true) (limit / 1440) := by
  have minutes : schedule.minute.spread 60 < 60 := spread_lt (by decide)
  have hours : schedule.hour.spread 24 < 24 := spread_lt (by decide)
  have same : ((limit + schedule.minute.spread 60) / 60 + schedule.hour.spread 24) / 24 = limit / 1440 := by omega
  rw [← same, follows_hours, follows_days]
  · intro ⟨day, known⟩
    exact close_wide (possible_day known) (by omega)
  · intro ⟨hour, known⟩ _
    exact close_wide (possible_hour known) (by omega)

/-- What the interval grants reaches from each time that is due to the next one
exactly when the schedule is steady. -/
theorem steady_iff {allow : Int → Nat} (fits : Fits allow) {text minute hour dayOfMonth month dayOfWeek : String}
    (five : fields text = [minute, hour, dayOfMonth, month, dayOfWeek]) (parsedMinute : parseField minutes minute = some schedule.minute)
    (parsedHour : parseField hours hour = some schedule.hour) :
    Follows (schedule.due · = true) (allow (cronIntervalMinutes text)) ↔ Steady allow schedule minute hour := by
  rw [interval_eq five, Steady]
  cases minuteStep : every minute with
  | some step =>
    obtain ⟨_, multiples⟩ := every_allows minuteStep rfl parsedMinute
    exact follows_minute_steps multiples (fun below => fits.near step (by omega))
  | none =>
    cases hourStep : every hour with
    | some step =>
      obtain ⟨positive, multiples⟩ := every_allows hourStep rfl parsedHour
      apply follows_hour_steps positive multiples
      intro below
      have unwrapped : wrap (step * 60) = ((step * 60 : Nat) : Int) := by
        rw [wrap_eq_iff.mpr (by omega)]
        omega
      dsimp only
      rw [unwrapped]
      exact fits.near (step * 60) (by omega)
    | none => exact follows_daily (fits.near 1440 (by decide)) fits.whole

theorem allowed_small {interval : Nat} (small : interval ≤ 1440) : allowed interval = 2 * interval * nanoseconds := by
  unfold allowed nanoseconds
  have once : wrap (interval * (60000000000 : Nat)) = interval * (60000000000 : Nat) := wrap_eq_iff.mpr (by omega)
  rw [once, wrap_eq_iff.mpr (by omega)]
  omega

theorem allowance_small {interval : Nat} (small : interval ≤ 1440) : allowance interval = 2 * interval := by
  unfold allowance
  rw [allowed_small small, nanoseconds]
  omega

theorem allowance_fits : Fits allowance := by
  refine ⟨?_, ?_⟩
  · intro interval small
    rw [allowance_small small]
    omega
  · have daily : allowance dailyMinutes = 2 * 1440 := allowance_small (le_refl 1440)
    rw [daily]

theorem toNat_fits : Fits Int.toNat := by
  refine ⟨?_, by decide⟩
  intro interval _
  rw [Int.toNat_natCast]

theorem allowed_lt (interval : Int) : allowed interval < 2 ^ 63 - 1 := by
  unfold allowed
  have range := wrap_range (2 * wrap (interval * nanoseconds))
  have even := wrap_even (wrap (interval * nanoseconds))
  omega

theorem sub_gt {now last : Nat} (order : last ≤ now) (interval : Int) :
    sub now last > allowed interval ↔ (now : Int) - last > allowed interval := by
  have below := allowed_lt interval
  unfold sub
  omega

section
variable {quote : String → String} {rfc3339 : Option Nat → String}

theorem check_ok (now : Nat) (jobs : List CronJob) :
    checkCronJobOverdue quote rfc3339 now (.ok jobs) = .ok ((jobs.filter (CronJob.overdue now)).map (CronJob.finding quote rfc3339)) :=
  rfl

/-- The check reports nothing for the job, whatever other jobs there are. -/
def Unreported (now : Nat) (job : CronJob) : Prop :=
  ∀ quote rfc3339 before after, checkCronJobOverdue quote rfc3339 now (.ok (before ++ job :: after)) =
    checkCronJobOverdue quote rfc3339 now (.ok (before ++ after))

theorem unreported_iff {now : Nat} {job : CronJob} : Unreported now job ↔ job.overdue now = false := by
  constructor
  · intro same
    have alone := same id (fun _ => "") [] []
    by_contra late
    simp [check_ok, late] at alone
  · intro fine quote rfc3339 before after
    simp [check_ok, fine]

end

/-- The check is silent about the jobs that have just run exactly when each minute
that is due is followed by another one within twice the interval. -/
theorem unreported_follows {text : String} : (∀ now job, job.schedule = text → JustRan schedule job now → Unreported now job) ↔
    Follows (schedule.due · = true) (allowance (cronIntervalMinutes text)) := by
  constructor
  · intro silent time due
    obtain ⟨later, next⟩ := exists_next due_recurs due
    have after := next.after
    -- Nothing has been due since, up to the last nanosecond before the next time.
    have ran : JustRan schedule ⟨"", "", text, none, some (nanoseconds * time)⟩ (nanoseconds * later - 1) := by
      refine ⟨time, rfl, due, ?_, ?_⟩
      · unfold nanoseconds
        omega
      · intro other past known
        have outside : ¬other < later := fun before => next.between other past before known
        unfold nanoseconds
        omega
    have fine := unreported_iff.mp (silent _ _ rfl ran)
    have order : nanoseconds * time ≤ nanoseconds * later - 1 := by
      unfold nanoseconds
      omega
    have late : ¬sub (nanoseconds * later - 1) (nanoseconds * time) > allowed (cronIntervalMinutes text) := by
      simpa [CronJob.overdue] using fine
    rw [sub_gt order] at late
    refine ⟨later, after, ?_, next.there⟩
    unfold allowance
    unfold nanoseconds at late ⊢
    omega
  · intro follows now job same ⟨time, last, due, past, recent⟩
    obtain ⟨later, after, within, there⟩ := follows time due
    have before := recent later after there
    have late : ¬sub now (nanoseconds * time) > allowed (cronIntervalMinutes job.schedule) := by
      rw [sub_gt past, same]
      unfold allowance at within
      unfold nanoseconds at within before ⊢
      omega
    rw [unreported_iff]
    unfold CronJob.overdue
    rw [last]
    split
    · rfl
    · simpa using late

/-- No job that has just run is reported exactly when the schedule is steady for
twice the interval, and the interval reaches from each time that is due to the next
one exactly when it is steady for the interval. -/
theorem overdue_iff {text minute hour dayOfMonth month dayOfWeek : String} (valid : parse text = some schedule)
    (five : fields text = [minute, hour, dayOfMonth, month, dayOfWeek]) :
    ((∀ now job, job.schedule = text → JustRan schedule job now → Unreported now job) ↔ Steady allowance schedule minute hour) ∧
      ((∀ time later, Next (schedule.due · = true) time later → (later : Int) - time ≤ cronIntervalMinutes text) ↔
        Steady Int.toNat schedule minute hour) := by
  have parsed : parseField minutes minute = some schedule.minute ∧ parseField hours hour = some schedule.hour := by
    rw [parse, five] at valid
    dsimp only at valid
    simp only [Option.bind_eq_bind, Option.bind_eq_some_iff] at valid
    obtain ⟨_, readMinute, _, readHour, _, _, _, _, _, _, whole⟩ := valid
    rw [← Option.some.inj whole]
    exact ⟨readMinute, readHour⟩
  rw [unreported_follows, steady_iff allowance_fits five parsed.1 parsed.2, ← steady_iff toNat_fits five parsed.1 parsed.2,
    follows_iff due_recurs]
  refine ⟨Iff.rfl, ?_⟩
  constructor
  · intro near time later next
    have distance := near time later next
    have after := next.after
    omega
  · intro near time later next
    have distance := near time later next
    have after := next.after
    omega

private def midnight : Schedule where
  minute := [⟨0, 0, 1, false⟩]
  hour := [⟨0, 0, 1, false⟩]
  dayOfMonth := [⟨1, 31, 1, true⟩]
  month := [⟨1, 12, 1, true⟩]
  dayOfWeek := [⟨0, 6, 1, true⟩]

theorem midnight_unreported : parse "0 0 * * *" = some midnight ∧
    ∀ now job, job.schedule = "0 0 * * *" → JustRan midnight job now → Unreported now job := by
  have parsed : parse "0 0 * * *" = some midnight := by rfl
  have five : fields "0 0 * * *" = ["0", "0", "*", "*", "*"] := by decide +kernel
  refine ⟨parsed, (overdue_iff parsed five).1.mpr ?_⟩
  have daily : ∀ day, midnight.dueDay day = true := by
    intro day
    have ⟨firstMonth, lastMonth⟩ := (date day).month_bounds
    have ⟨firstDay, lastDay⟩ := (date day).day_bounds
    simp [Schedule.dueDay, Schedule.dayMatches, midnight, Field.possible, Field.allows, Field.star, Range.allows, Nat.mod_one,
      firstMonth, lastMonth, firstDay, lastDay, (date day).weekday_bound]
  have granted : allowance dailyMinutes = 2 * 1440 := allowance_small (le_refl 1440)
  change Follows (midnight.dueDay · = true) (allowance dailyMinutes / 1440)
  rw [granted]
  intro day _
  exact ⟨day + 1, by omega, by omega, daily _⟩

/-- A job that runs at 9:00 and 9:30 is reported from half past ten on. -/
private def morning : Schedule where
  minute := [⟨0, 59, 30, false⟩]
  hour := [⟨9, 9, 1, false⟩]
  dayOfMonth := [⟨1, 31, 1, true⟩]
  month := [⟨1, 12, 1, true⟩]
  dayOfWeek := [⟨0, 6, 1, true⟩]

private def report : CronJob := ⟨"shop", "report", "*/30 9 * * *", none, some (nanoseconds * 570)⟩

theorem report_overdue : ¬∀ text schedule, parse text = some schedule →
    ∀ now job, job.schedule = text → JustRan schedule job now → Unreported now job := by
  intro never
  have parsed : parse "*/30 9 * * *" = some morning := by rfl
  have ran : JustRan morning report (nanoseconds * 631) := by
    refine ⟨570, rfl, by decide, by decide, ?_⟩
    intro later after due
    have quiet : ∀ minute < 61, morning.due (571 + minute) = false := by decide
    have outside : 631 < later := by
      by_contra inside
      have silent := quiet (later - 571) (by omega)
      rw [Nat.add_sub_cancel' (by omega), due] at silent
      cases silent
    unfold nanoseconds
    omega
  have fine := unreported_iff.mp (never _ _ parsed _ report rfl ran)
  exact absurd fine (by decide)

end K8Sense.Doctor.Cron
