/-
A year of the real-time clock with daylight saving.

One Sunday in the last week of April is an hour short and one Sunday in the last week of October
an hour long; from one New Year to the next every other day has its 86400 seconds. Where each
second of the year stands on the clock is said in one formula, and from it that the one hour is
left out once and the other comes twice.
-/
import Nxvm.Chips.RtcDays

set_option autoImplicit false

namespace Nxvm.Chips

open Nxvm.Lib Nxvm.Lib.Register Nxvm.Machine

/-! ## Days of a year -/

/-- The first day of a year on or after a given one that is a Sunday; `week` is the weekday of
the year's first day, counted from Sunday. -/
def sunday_from (week first : ℕ) : ℕ := first + (7 - (week + first) % 7) % 7

/-- The day of the year that is an hour short. -/
def spring_day (year week : ℕ) : ℕ :=
  sunday_from week (Segments.start (year_months year) 3 + 23)

/-- The day of the year that is an hour long. -/
def autumn_day (year week : ℕ) : ℕ :=
  sunday_from week (Segments.start (year_months year) 9 + 24)

/-- Seconds of each day of the year. -/
def day_seconds (year week day : ℕ) : ℕ :=
  if day = spring_day year week then 82800
  else if day = autumn_day year week then 90000
  else 86400

/-- The time of day on the clock so many seconds after midnight. -/
def day_time (year week day elapsed : ℕ) : ℕ :=
  if elapsed < 7200 then elapsed
  else if day = spring_day year week then elapsed + 3600
  else if day = autumn_day year week then elapsed - 3600
  else elapsed

theorem sunday_from_spec (week first : ℕ) :
    first ≤ sunday_from week first ∧ sunday_from week first < first + 7 ∧
      (week + sunday_from week first) % 7 = 0 := by
  unfold sunday_from
  omega

/-- There is no other in that week. -/
theorem eq_sunday_from {week first day : ℕ} (hle : first ≤ day) (hlt : day < first + 7)
    (hsunday : (week + day) % 7 = 0) : day = sunday_from week first := by
  obtain ⟨hle', hlt', hsunday'⟩ := sunday_from_spec week first
  omega

theorem transition_days (year week : ℕ) :
    spring_day year week < autumn_day year week ∧ autumn_day year week < year_length year := by
  obtain ⟨-, hspring, -⟩ := sunday_from_spec week (Segments.start (year_months year) 3 + 23)
  obtain ⟨hautumn, hautumn', -⟩ := sunday_from_spec week (Segments.start (year_months year) 9 + 24)
  have happril : Segments.start (year_months year) 4 =
      Segments.start (year_months year) 3 + 30 := rfl
  have hoctober : Segments.start (year_months year) 10 =
      Segments.start (year_months year) 9 + 31 := rfl
  have hbetween : Segments.start (year_months year) 4 ≤ Segments.start (year_months year) 9 :=
    Segments.start_mono (by decide)
  have hafter : Segments.start (year_months year) 10 ≤ year_length year :=
    Segments.start_mono (by decide)
  unfold spring_day autumn_day
  omega

/-- The clock at a day of a year, its weekday counted from Sunday, and a time of that day. -/
structure Shows (rtc : Rtc) (year day week time : ℕ) : Prop where
  valid : ValidCalendar rtc.calendar
  year_eq : rtc.calendar.year.toNat = year
  day_eq : day_of_year rtc.calendar = day
  week_eq : rtc.calendar.day_week.toNat = week % 7 + 1
  time_eq : time_of_day rtc.calendar = time

section Day

variable {rtc : Rtc} {year day week time : ℕ}

theorem Shows.sunday (h : Shows rtc year day week time) :
    rtc.calendar.day_week = 1 ↔ week % 7 = 0 := by
  have hweek := h.week_eq
  rw [← BitVec.toNat_inj, hweek]
  exact Nat.succ_inj

/-- Whether it is in a month, on or after a day of it, is a matter of the day of the year. -/
theorem Shows.month_iff (h : Shows rtc year day week time) {month : U8} {first : U8}
    (hmonth : 1 ≤ month.toNat) (hfirst : 1 ≤ first.toNat)
    (hlength : first.toNat + 6 = month_length year month.toNat) :
    rtc.calendar.month = month ∧ first ≤ rtc.calendar.day_month ↔
      Segments.start (year_months year) (month.toNat - 1) + (first.toNat - 1) ≤ day ∧
        day < Segments.start (year_months year) (month.toNat - 1) + (first.toNat - 1) + 7 := by
  have hdate := h.valid.toValidDate
  have hle := hdate.day_month_le
  have hyear := h.year_eq
  have hday := h.day_eq
  rw [BitVec.le_def]
  constructor
  · rintro ⟨rfl, hfrom⟩
    rw [hyear] at hle
    unfold day_of_year at hday
    rw [hyear] at hday
    omega
  · rintro ⟨hfrom, hto⟩
    have hplace : day_of_year rtc.calendar =
        Segments.start (year_months rtc.calendar.year.toNat) (month.toNat - 1) +
          (day - Segments.start (year_months year) (month.toNat - 1) + 1 - 1) := by
      rw [hday, hyear]
      omega
    obtain ⟨hm, hd⟩ := (hdate.day_of_year_iff hmonth (by omega) (by rw [hyear]; omega)).mp hplace
    exact ⟨BitVec.eq_of_toNat_eq hm, by omega⟩

theorem Shows.spring_iff {week : ℕ} (h : Shows rtc year day (week + day) time) :
    SpringDay rtc.calendar ↔ day = spring_day year week := by
  have hmonth : rtc.calendar.month = 4 ∧ 24 ≤ rtc.calendar.day_month ↔ _ :=
    h.month_iff (by decide) (by decide) rfl
  unfold SpringDay
  rw [h.sunday, hmonth]
  constructor
  · rintro ⟨hsunday, hle, hlt⟩
    exact eq_sunday_from hle hlt hsunday
  · rintro rfl
    obtain ⟨hle, hlt, hsunday⟩ := sunday_from_spec week (Segments.start (year_months year) 3 + 23)
    exact ⟨hsunday, hle, hlt⟩

theorem Shows.autumn_iff {week : ℕ} (h : Shows rtc year day (week + day) time) :
    AutumnDay rtc.calendar ↔ day = autumn_day year week := by
  have hmonth : rtc.calendar.month = 10 ∧ 25 ≤ rtc.calendar.day_month ↔ _ :=
    h.month_iff (by decide) (by decide) rfl
  unfold AutumnDay
  rw [h.sunday, hmonth]
  constructor
  · rintro ⟨hsunday, hle, hlt⟩
    exact eq_sunday_from hle hlt hsunday
  · rintro rfl
    obtain ⟨hle, hlt, hsunday⟩ := sunday_from_spec week (Segments.start (year_months year) 9 + 24)
    exact ⟨hsunday, hle, hlt⟩

/-- Another time of the same day. -/
theorem Shows.same_day {next : Rtc} (h : Shows rtc year day week time)
    (hsame : SameDate rtc.calendar next.calendar) (htime : ValidTime next.calendar) :
    Shows next year day week (time_of_day next.calendar) := by
  refine ⟨⟨htime, hsame.valid h.valid.toValidDate⟩, ?_, ?_, ?_, rfl⟩
  · rw [hsame.year, h.year_eq]
  · have hday := h.day_eq
    unfold day_of_year at hday ⊢
    rw [hsame.year, hsame.month, hsame.day_month, hday]
  · rw [hsame.day_week, h.week_eq]

/-- Midnight of the next day, in its year or at the beginning of the next. -/
theorem Shows.next_day {ending next : Rtc} (h : Shows rtc year day week time)
    (hsame : SameDate rtc.calendar ending.calendar) (hnext : next = rtc_next_day ending)
    (htime : ValidTime next.calendar) :
    (day + 1 < year_length year ∧
        Shows next year (day + 1) (week + 1) (time_of_day next.calendar)) ∨
      (day + 1 = year_length year ∧
        Shows next ((year + 1) % 100) 0 (week + 1) (time_of_day next.calendar)) := by
  have hdate := hsame.valid h.valid.toValidDate
  obtain ⟨hvalid, hindex⟩ := rtc_next_day_date hdate
  obtain ⟨hweek, -⟩ := rtc_next_day_fields hdate
  have hyear := h.year_eq
  have hday := h.day_eq
  have hbelow := h.valid.toValidDate.day_of_year_lt
  have hyear_lt := h.valid.year_lt
  rw [← hnext] at hvalid hindex hweek
  rw [hsame.day_of_century] at hindex
  rw [hsame.day_week, h.week_eq] at hweek
  rw [hyear] at hbelow hyear_lt
  have hplace : day_of_century rtc.calendar = Segments.start year_length year + day := by
    unfold day_of_century
    rw [hyear, hday]
  rw [hday] at hbelow
  rw [hplace] at hindex
  by_cases hlast : day + 1 < year_length year
  · have hin : Segments.start year_length year + (day + 1) < century_length :=
      Segments.place_lt hlast hyear_lt
    rw [Nat.add_assoc, Nat.mod_eq_of_lt hin] at hindex
    obtain ⟨hy, hd⟩ := (hvalid.day_of_century_iff hlast).mp hindex
    exact .inl ⟨hlast, ⟨htime, hvalid⟩, hy, hd, by omega, rfl⟩
  · have hsucc : Segments.start year_length year + day + 1 =
        Segments.start year_length (year + 1) := by
      rw [Segments.start]
      omega
    have hfirst : day_of_century next.calendar =
        Segments.start year_length ((year + 1) % 100) + 0 := by
      rw [hindex, hsucc]
      by_cases hcentury : year + 1 = 100
      · rw [hcentury]
        exact Nat.mod_self _
      · have hin : Segments.start year_length (year + 1) + 0 < century_length :=
          Segments.place_lt (year_length_pos (year + 1)) (by omega)
        rw [Nat.mod_eq_of_lt (show year + 1 < 100 by omega)]
        exact Nat.mod_eq_of_lt hin
    obtain ⟨hy, hd⟩ := (hvalid.day_of_century_iff (year_length_pos _)).mp hfirst
    exact .inr ⟨by omega, ⟨htime, hvalid⟩, hy, hd, by omega, rfl⟩

end Day

/-! ## A day -/

theorem rtc_increment_seconds_dse {rtc : Rtc} (hdse : is_set rtc.reg_b rtc_b_dse = true) (n : ℕ) :
    is_set (rtc_increment_second^[n] rtc).reg_b rtc_b_dse = true := by
  rw [(rtc_increment_seconds_same n rtc).reg_b]
  exact hdse

/-- The seconds of a day, from its midnight; `daylight_fallback_done` says of the long day whether
its hour has come once already. -/
theorem Shows.day_run {rtc : Rtc} {year week day : ℕ} (h : Shows rtc year day (week + day) 0)
    (hdse : is_set rtc.reg_b rtc_b_dse = true)
    (hfirst : day = autumn_day year week → rtc.daylight_fallback_done = false)
    {k : ℕ} (hk : k < day_seconds year week day) :
    Shows (rtc_increment_second^[k] rtc) year day (week + day) (day_time year week day k) ∧
      (day = autumn_day year week →
        ((rtc_increment_second^[k] rtc).daylight_fallback_done = true ↔ 7200 ≤ k)) := by
  obtain ⟨hdays, -⟩ := transition_days year week
  induction k with
  | zero =>
    refine ⟨h, fun hautumn => ?_⟩
    rw [Function.iterate_zero_apply, hfirst hautumn]
    decide
  | succ k ih =>
    obtain ⟨hshows, hdone⟩ := ih (by omega)
    have hspring_iff := hshows.spring_iff
    have hautumn_iff := hshows.autumn_iff
    have htime := hshows.time_eq
    have hdse' := rtc_increment_seconds_dse hdse k
    obtain ⟨hvalid, hstep⟩ := rtc_increment_second_step hshows.valid.toValidTime
    rw [Function.iterate_succ_apply']
    generalize rtc_increment_second^[k] rtc = now at *
    cases hstep with
    | within same before unshifted time fallback =>
      -- two o'clock is not left out or put back here, so the day is no such day
      have hplain : k = 7199 → day ≠ spring_day year week ∧ day ≠ autumn_day year week := by
        intro hseven
        have hat : time_of_day now.calendar = 7199 := by
          rw [htime, hseven]
          rfl
        obtain ⟨hspring, hautumn⟩ := unshifted hat hdse'
        refine ⟨mt hspring_iff.mpr hspring, fun hday => ?_⟩
        have hcount := (hdone hday).mp (hautumn (hautumn_iff.mpr hday))
        omega
      have hnext := hshows.same_day same hvalid
      rw [time, htime] at hnext
      have hshown : day_time year week day k + 1 = day_time year week day (k + 1) := by
        unfold day_time
        unfold day_seconds at hk
        split_ifs at *
        all_goals omega
      rw [hshown] at hnext
      refine ⟨hnext, fun hautumn => ?_⟩
      have hseven : k ≠ 7199 := fun hseven => (hplain hseven).2 hautumn
      rw [fallback, hdone hautumn]
      omega
    | skip same _ spring before time fallback =>
      have hspring := hspring_iff.mp spring
      have hnext := hshows.same_day same hvalid
      have hseven : k = 7199 := by
        rw [htime] at before
        unfold day_time at before
        split_ifs at before
        all_goals omega
      have hshown : day_time year week day (k + 1) = 10800 := by
        unfold day_time
        rw [hseven, if_neg (by decide), if_pos hspring]
      rw [time, ← hshown] at hnext
      exact ⟨hnext, fun hautumn => by omega⟩
    | back same _ autumn first before time fallback =>
      have hautumn := hautumn_iff.mp autumn
      have hnext := hshows.same_day same hvalid
      have hearly : ¬ 7200 ≤ k := by
        rw [← hdone hautumn, first]
        decide
      have hseven : k = 7199 := by
        rw [htime] at before
        unfold day_time at before
        rw [if_pos (by omega)] at before
        exact before
      have hshown : day_time year week day (k + 1) = 3600 := by
        unfold day_time
        rw [hseven, if_neg (by decide), if_neg (by omega), if_pos hautumn]
      rw [time, ← hshown] at hnext
      refine ⟨hnext, fun _ => ?_⟩
      rw [fallback, hseven]
      decide
    | day _ _ _ before =>
      -- the day is not over yet
      rw [htime] at before
      unfold day_time at before
      unfold day_seconds at hk
      split_ifs at *
      all_goals omega

/-- The midnight after it. -/
theorem Shows.day_end {rtc : Rtc} {year week day : ℕ} (h : Shows rtc year day (week + day) 0)
    (hdse : is_set rtc.reg_b rtc_b_dse = true)
    (hfirst : day = autumn_day year week → rtc.daylight_fallback_done = false) :
    (rtc_increment_second^[day_seconds year week day] rtc).daylight_fallback_done = false ∧
      ((day + 1 < year_length year ∧
          Shows (rtc_increment_second^[day_seconds year week day] rtc) year (day + 1)
            (week + (day + 1)) 0) ∨
        (day + 1 = year_length year ∧
          Shows (rtc_increment_second^[day_seconds year week day] rtc) ((year + 1) % 100) 0
            (week + (day + 1)) 0)) := by
  obtain ⟨k, hk⟩ : ∃ k, day_seconds year week day = k + 1 := by
    apply Nat.exists_eq_succ_of_ne_zero
    unfold day_seconds
    split_ifs
    all_goals decide
  obtain ⟨hshows, -⟩ := h.day_run hdse hfirst (k := k) (by omega)
  have hlast : day_time year week day k = 86399 := by
    obtain ⟨hdays, -⟩ := transition_days year week
    unfold day_time
    unfold day_seconds at hk
    split_ifs at *
    all_goals omega
  have htime := hshows.time_eq
  obtain ⟨hvalid, hstep⟩ := rtc_increment_second_step hshows.valid.toValidTime
  rw [hk, Function.iterate_succ_apply']
  generalize rtc_increment_second^[k] rtc = now at *
  cases hstep with
  | within _ before => omega
  | skip _ _ _ before => omega
  | back _ _ _ _ before => omega
  | day ending same after before time fallback =>
    have hnext := hshows.next_day same after hvalid
    rw [time, Nat.add_assoc] at hnext
    exact ⟨fallback, hnext⟩

/-! ## A year -/

/-- The clock at the beginning of a year. -/
structure NewYear (rtc : Rtc) : Prop where
  valid : ValidCalendar rtc.calendar
  day_eq : day_of_year rtc.calendar = 0
  time_eq : time_of_day rtc.calendar = 0

/-- Seconds before each day of the year. -/
def midnight (year week day : ℕ) : ℕ := Segments.start (day_seconds year week) day

theorem midnight_eq (year week day : ℕ) :
    midnight year week day + (if spring_day year week < day then 3600 else 0) =
      day * 86400 + (if autumn_day year week < day then 3600 else 0) := by
  obtain ⟨hdays, -⟩ := transition_days year week
  induction day with
  | zero => rfl
  | succ day ih =>
    have hnext : midnight year week (day + 1) =
        midnight year week day + day_seconds year week day := rfl
    rw [hnext]
    unfold day_seconds
    split_ifs at *
    all_goals omega

/-- The hour that is left out is made good by the hour that comes twice. -/
theorem midnight_year (year week : ℕ) :
    midnight year week (year_length year) = year_length year * 86400 := by
  obtain ⟨hdays, hautumn⟩ := transition_days year week
  have hsum := midnight_eq year week (year_length year)
  rw [if_pos (hdays.trans hautumn), if_pos hautumn] at hsum
  exact Nat.add_right_cancel hsum

section Year

variable {rtc : Rtc} {year week : ℕ}

theorem NewYear.shows (h : NewYear rtc) :
    Shows rtc rtc.calendar.year.toNat 0 (rtc.calendar.day_week.toNat - 1 + 0) 0 := by
  have hpos := h.valid.day_week_pos
  have hle := h.valid.day_week_le
  exact ⟨h.valid, rfl, h.day_eq, by omega, h.time_eq⟩

theorem Shows.new_year {time : ℕ} (h : Shows rtc year 0 week time) (htime : time = 0) :
    NewYear rtc :=
  ⟨h.valid, h.day_eq, h.time_eq.trans htime⟩

theorem iterate_midnight_succ (day : ℕ) :
    rtc_increment_second^[midnight year week (day + 1)] rtc =
      rtc_increment_second^[day_seconds year week day]
        (rtc_increment_second^[midnight year week day] rtc) := by
  rw [← Function.iterate_add_apply, Nat.add_comm (day_seconds year week day)]
  rfl

/-- Every midnight of the year. -/
theorem Shows.midnights (h : Shows rtc year 0 (week + 0) 0)
    (hdse : is_set rtc.reg_b rtc_b_dse = true) {day : ℕ} (hday : day < year_length year) :
    Shows (rtc_increment_second^[midnight year week day] rtc) year day (week + day) 0 ∧
      (day = autumn_day year week →
        (rtc_increment_second^[midnight year week day] rtc).daylight_fallback_done = false) := by
  obtain ⟨hdays, -⟩ := transition_days year week
  induction day with
  | zero => exact ⟨h, fun hautumn => by omega⟩
  | succ day ih =>
    obtain ⟨hshows, hfirst⟩ := ih (by omega)
    obtain ⟨hfallback, ⟨-, hnext⟩ | ⟨hlast, -⟩⟩ :=
      hshows.day_end (rtc_increment_seconds_dse hdse _) hfirst
    · rw [iterate_midnight_succ]
      exact ⟨hnext, fun _ => hfallback⟩
    · omega

/-- Every second of the year. -/
theorem Shows.year_run (h : Shows rtc year 0 (week + 0) 0)
    (hdse : is_set rtc.reg_b rtc_b_dse = true) {day k : ℕ} (hday : day < year_length year)
    (hk : k < day_seconds year week day) :
    Shows (rtc_increment_second^[midnight year week day + k] rtc) year day (week + day)
        (day_time year week day k) ∧
      (day = autumn_day year week →
        ((rtc_increment_second^[midnight year week day + k] rtc).daylight_fallback_done = true ↔
          7200 ≤ k)) := by
  obtain ⟨hshows, hfirst⟩ := h.midnights hdse hday
  rw [Nat.add_comm, Function.iterate_add_apply]
  exact hshows.day_run (rtc_increment_seconds_dse hdse _) hfirst hk

/-- The New Year after it. -/
theorem Shows.year_end (h : Shows rtc year 0 (week + 0) 0)
    (hdse : is_set rtc.reg_b rtc_b_dse = true) :
    Shows (rtc_increment_second^[year_length year * 86400] rtc) ((year + 1) % 100) 0
      (week + year_length year) 0 := by
  obtain ⟨last, hlast⟩ := Nat.exists_eq_succ_of_ne_zero (year_length_pos year).ne'
  obtain ⟨hshows, hfirst⟩ := h.midnights hdse (show last < year_length year by omega)
  obtain ⟨-, ⟨hbefore, -⟩ | ⟨-, hnext⟩⟩ :=
    hshows.day_end (rtc_increment_seconds_dse hdse _) hfirst
  · omega
  · rw [← iterate_midnight_succ] at hnext
    rw [← midnight_year year week, hlast]
    exact hnext

/-- A second of the year is a second of one day. -/
theorem exists_day {i : ℕ} (hi : i < year_length year * 86400) (week : ℕ) :
    ∃ day k, day < year_length year ∧ k < day_seconds year week day ∧
      i = midnight year week day + k := by
  rw [← midnight_year year week] at hi
  exact Segments.exists_place hi

theorem midnight_add_lt {day k : ℕ} (hday : day < year_length year)
    (hk : k < day_seconds year week day) :
    midnight year week day + k < year_length year * 86400 := by
  rw [← midnight_year year week]
  exact Segments.place_lt hk hday

end Year

/-! ## The hour left out and the hour that comes twice -/

/-- The next second leaves the hour from two o'clock out. -/
def SkipsHour (rtc : Rtc) : Prop :=
  time_of_day rtc.calendar = 7199 ∧ time_of_day (rtc_increment_second rtc).calendar = 10800

/-- The next second is one o'clock again. -/
def RepeatsHour (rtc : Rtc) : Prop :=
  time_of_day rtc.calendar = 7199 ∧ time_of_day (rtc_increment_second rtc).calendar = 3600

theorem SpringDay.not_autumn {calendar : RtcCalendar} (h : SpringDay calendar) :
    ¬ AutumnDay calendar := by
  intro hautumn
  have hmonth := h.2.1.symm.trans hautumn.2.1
  exact absurd hmonth (by decide)

theorem skipsHour_iff {rtc : Rtc} (h : ValidTime rtc.calendar)
    (hdse : is_set rtc.reg_b rtc_b_dse = true) :
    SkipsHour rtc ↔ SpringDay rtc.calendar ∧ time_of_day rtc.calendar = 7199 := by
  obtain ⟨-, hstep⟩ := rtc_increment_second_step h
  unfold SkipsHour
  constructor
  · rintro ⟨hat, hnext⟩
    cases hstep with
    | within _ _ _ time => omega
    | skip _ _ spring => exact ⟨spring, hat⟩
    | back _ _ _ _ _ time => omega
    | day _ _ _ before => omega
  · rintro ⟨hspring, hat⟩
    refine ⟨hat, ?_⟩
    cases hstep with
    | within _ _ unshifted => exact absurd hspring (unshifted hat hdse).1
    | skip _ _ _ _ time => exact time
    | back _ _ autumn => exact absurd autumn hspring.not_autumn
    | day _ _ _ before => omega

theorem repeatsHour_iff {rtc : Rtc} (h : ValidTime rtc.calendar)
    (hdse : is_set rtc.reg_b rtc_b_dse = true) :
    RepeatsHour rtc ↔
      AutumnDay rtc.calendar ∧ time_of_day rtc.calendar = 7199 ∧
        ¬ rtc.daylight_fallback_done = true := by
  obtain ⟨-, hstep⟩ := rtc_increment_second_step h
  unfold RepeatsHour
  constructor
  · rintro ⟨hat, hnext⟩
    cases hstep with
    | within _ _ _ time => omega
    | skip _ _ _ _ time => omega
    | back _ _ autumn first =>
      refine ⟨autumn, hat, ?_⟩
      rw [first]
      decide
    | day _ _ _ before => omega
  · rintro ⟨hautumn, hat, hfirst⟩
    refine ⟨hat, ?_⟩
    cases hstep with
    | within _ _ unshifted => exact absurd ((unshifted hat hdse).2 hautumn) hfirst
    | skip _ _ spring => exact absurd hautumn spring.not_autumn
    | back _ _ _ _ _ time => exact time
    | day _ _ _ before => omega

theorem ValidTime.hour_eq {calendar : RtcCalendar} (h : ValidTime calendar) :
    calendar.hour.toNat = time_of_day calendar / 3600 := by
  obtain ⟨hsecond, hminute, -⟩ := h
  unfold time_of_day
  omega

theorem Shows.century_second {rtc : Rtc} {year day week time : ℕ}
    (h : Shows rtc year day week time) :
    century_second rtc.calendar = (Segments.start year_length year + day) * 86400 + time := by
  unfold Nxvm.Chips.century_second day_of_century
  rw [h.year_eq, h.day_eq, h.time_eq]

/-- A year with daylight saving, from its beginning. -/
structure DaylightYear (rtc : Rtc) : Prop where
  /-- As many seconds as without it take the clock to the next New Year. -/
  ends : NewYear (rtc_increment_second^[year_length rtc.calendar.year.toNat * 86400] rtc) ∧
    (rtc_increment_second^[year_length rtc.calendar.year.toNat * 86400] rtc).calendar.year.toNat =
      (rtc.calendar.year.toNat + 1) % 100
  /-- One second of the year leaves an hour out, and it does so on the spring day. -/
  skips : ∃! i, i < year_length rtc.calendar.year.toNat * 86400 ∧
    SkipsHour (rtc_increment_second^[i] rtc)
  skips_spring : ∀ i, SkipsHour (rtc_increment_second^[i] rtc) →
    SpringDay (rtc_increment_second^[i] rtc).calendar
  /-- That hour of that day is not on the clock. -/
  left_out : ∀ i < year_length rtc.calendar.year.toNat * 86400,
    SpringDay (rtc_increment_second^[i] rtc).calendar →
      (rtc_increment_second^[i] rtc).calendar.hour ≠ 2
  /-- One second of the year goes back an hour, and it does so on the autumn day. -/
  repeats : ∃! i, i < year_length rtc.calendar.year.toNat * 86400 ∧
    RepeatsHour (rtc_increment_second^[i] rtc)
  repeats_autumn : ∀ i, RepeatsHour (rtc_increment_second^[i] rtc) →
    AutumnDay (rtc_increment_second^[i] rtc).calendar
  /-- Each second of that hour is on the clock once more, -/
  twice : ∀ i < year_length rtc.calendar.year.toNat * 86400,
    AutumnDay (rtc_increment_second^[i] rtc).calendar →
      (rtc_increment_second^[i] rtc).calendar.hour = 1 →
        ∃! j, j < year_length rtc.calendar.year.toNat * 86400 ∧ j ≠ i ∧
          century_second (rtc_increment_second^[j] rtc).calendar =
            century_second (rtc_increment_second^[i] rtc).calendar
  /-- and no other second is. -/
  once : ∀ i < year_length rtc.calendar.year.toNat * 86400,
    ∀ j < year_length rtc.calendar.year.toNat * 86400, j ≠ i →
      century_second (rtc_increment_second^[j] rtc).calendar =
          century_second (rtc_increment_second^[i] rtc).calendar →
        AutumnDay (rtc_increment_second^[i] rtc).calendar ∧
          (rtc_increment_second^[i] rtc).calendar.hour = 1
  /-- Every other second is counted. -/
  counts : ∀ i, ¬ SkipsHour (rtc_increment_second^[i] rtc) →
    ¬ RepeatsHour (rtc_increment_second^[i] rtc) →
      century_second (rtc_increment_second^[i + 1] rtc).calendar =
          (century_second (rtc_increment_second^[i] rtc).calendar + 1) %
            (century_length * 86400) ∧
        week_second (rtc_increment_second^[i + 1] rtc).calendar =
          (week_second (rtc_increment_second^[i] rtc).calendar + 1) % (7 * 86400)

section Year

variable {rtc : Rtc} {year week : ℕ}

/-- The hour is left out at two o'clock of the spring day, -/
theorem Shows.skips_iff (h : Shows rtc year 0 (week + 0) 0)
    (hdse : is_set rtc.reg_b rtc_b_dse = true) {day k : ℕ} (hday : day < year_length year)
    (hk : k < day_seconds year week day) :
    SkipsHour (rtc_increment_second^[midnight year week day + k] rtc) ↔
      day = spring_day year week ∧ k = 7199 := by
  obtain ⟨hshows, -⟩ := h.year_run hdse hday hk
  rw [skipsHour_iff hshows.valid.toValidTime (rtc_increment_seconds_dse hdse _),
    hshows.spring_iff, hshows.time_eq]
  apply and_congr_right
  intro hspring
  unfold day_time
  split_ifs
  all_goals omega

/-- and gone back to at two o'clock of the autumn day. -/
theorem Shows.repeats_iff (h : Shows rtc year 0 (week + 0) 0)
    (hdse : is_set rtc.reg_b rtc_b_dse = true) {day k : ℕ} (hday : day < year_length year)
    (hk : k < day_seconds year week day) :
    RepeatsHour (rtc_increment_second^[midnight year week day + k] rtc) ↔
      day = autumn_day year week ∧ k = 7199 := by
  obtain ⟨hdays, -⟩ := transition_days year week
  obtain ⟨hshows, hdone⟩ := h.year_run hdse hday hk
  rw [repeatsHour_iff hshows.valid.toValidTime (rtc_increment_seconds_dse hdse _),
    hshows.autumn_iff, hshows.time_eq]
  apply and_congr_right
  intro hautumn
  rw [hdone hautumn]
  unfold day_time
  split_ifs
  all_goals omega

/-- Two seconds of the year that the clock shows alike. -/
theorem Shows.same_second_iff (h : Shows rtc year 0 (week + 0) 0)
    (hdse : is_set rtc.reg_b rtc_b_dse = true) {day k day' k' : ℕ} (hday : day < year_length year)
    (hk : k < day_seconds year week day) (hday' : day' < year_length year)
    (hk' : k' < day_seconds year week day') :
    Nxvm.Chips.century_second
          (rtc_increment_second^[midnight year week day' + k'] rtc).calendar =
        Nxvm.Chips.century_second
          (rtc_increment_second^[midnight year week day + k] rtc).calendar ↔
      day' = day ∧ day_time year week day k' = day_time year week day k := by
  obtain ⟨hshows, -⟩ := h.year_run hdse hday hk
  obtain ⟨hshows', -⟩ := h.year_run hdse hday' hk'
  have hlt := hshows.valid.toValidTime.time_of_day_lt
  have hlt' := hshows'.valid.toValidTime.time_of_day_lt
  rw [hshows.time_eq] at hlt
  rw [hshows'.time_eq] at hlt'
  rw [hshows.century_second, hshows'.century_second]
  constructor
  · intro hsame
    have hday_eq : day' = day := by omega
    subst hday_eq
    exact ⟨rfl, by omega⟩
  · rintro ⟨rfl, htime⟩
    rw [htime]

/-- Two times of a day at which the clock shows the same are an hour apart, and on the autumn
day. -/
theorem day_time_eq_iff {day k k' : ℕ} (hk : k < day_seconds year week day)
    (hk' : k' < day_seconds year week day) :
    day_time year week day k' = day_time year week day k ↔
      k' = k ∨ day = autumn_day year week ∧
        (3600 ≤ k ∧ k < 7200 ∧ k' = k + 3600 ∨ 3600 ≤ k' ∧ k' < 7200 ∧ k = k' + 3600) := by
  obtain ⟨hdays, -⟩ := transition_days year week
  unfold day_time
  unfold day_seconds at hk hk'
  split_ifs at *
  all_goals omega

/-- The hour from one o'clock of the autumn day. -/
theorem Shows.autumn_hour_iff (h : Shows rtc year 0 (week + 0) 0)
    (hdse : is_set rtc.reg_b rtc_b_dse = true) {day k : ℕ} (hday : day < year_length year)
    (hk : k < day_seconds year week day) :
    (AutumnDay (rtc_increment_second^[midnight year week day + k] rtc).calendar ∧
        (rtc_increment_second^[midnight year week day + k] rtc).calendar.hour = 1) ↔
      day = autumn_day year week ∧ 3600 ≤ k ∧ k < 10800 := by
  obtain ⟨hdays, -⟩ := transition_days year week
  obtain ⟨hshows, -⟩ := h.year_run hdse hday hk
  have hone : (1 : U8).toNat = 1 := rfl
  rw [hshows.autumn_iff, ← BitVec.toNat_inj, hshows.valid.toValidTime.hour_eq, hshows.time_eq, hone]
  apply and_congr_right
  intro hautumn
  unfold day_time
  split_ifs
  all_goals omega

end Year

/-- From every New Year the year is such a year. -/
theorem NewYear.daylight {rtc : Rtc} (h : NewYear rtc)
    (hdse : is_set rtc.reg_b rtc_b_dse = true) : DaylightYear rtc := by
  have hstart := h.shows
  generalize hweek : rtc.calendar.day_week.toNat - 1 = week at hstart
  obtain ⟨hdays, hautumn_lt⟩ := transition_days rtc.calendar.year.toNat week
  have hspring : 7199 < day_seconds rtc.calendar.year.toNat week
      (spring_day rtc.calendar.year.toNat week) := by
    unfold day_seconds
    rw [if_pos rfl]
    decide
  have hautumn : 7199 < day_seconds rtc.calendar.year.toNat week
      (autumn_day rtc.calendar.year.toNat week) := by
    unfold day_seconds
    rw [if_neg hdays.ne', if_pos rfl]
    decide
  have hend := hstart.year_end hdse
  constructor
  case ends => exact ⟨hend.new_year rfl, hend.year_eq⟩
  case skips =>
    refine ⟨_, ⟨midnight_add_lt (hdays.trans hautumn_lt) hspring,
      (hstart.skips_iff hdse (hdays.trans hautumn_lt) hspring).mpr ⟨rfl, rfl⟩⟩, ?_⟩
    rintro i ⟨hi, hskips⟩
    obtain ⟨day, k, hday, hk, rfl⟩ := exists_day hi week
    obtain ⟨rfl, rfl⟩ := (hstart.skips_iff hdse hday hk).mp hskips
    rfl
  case skips_spring =>
    intro i hskips
    have hvalid := h.valid.increments i
    exact ((skipsHour_iff hvalid.toValidTime (rtc_increment_seconds_dse hdse i)).mp hskips).1
  case left_out =>
    intro i hi hday_spring htwo
    obtain ⟨day, k, hday, hk, rfl⟩ := exists_day hi week
    obtain ⟨hshows, -⟩ := hstart.year_run hdse hday hk
    have hday_eq := hshows.spring_iff.mp hday_spring
    have hhour := hshows.valid.toValidTime.hour_eq
    have htwo_eq : (2 : U8).toNat = 2 := rfl
    rw [htwo, hshows.time_eq, htwo_eq] at hhour
    unfold day_time at hhour
    split_ifs at hhour
    all_goals omega
  case repeats =>
    refine ⟨_, ⟨midnight_add_lt hautumn_lt hautumn,
      (hstart.repeats_iff hdse hautumn_lt hautumn).mpr ⟨rfl, rfl⟩⟩, ?_⟩
    rintro i ⟨hi, hrepeats⟩
    obtain ⟨day, k, hday, hk, rfl⟩ := exists_day hi week
    obtain ⟨rfl, rfl⟩ := (hstart.repeats_iff hdse hday hk).mp hrepeats
    rfl
  case repeats_autumn =>
    intro i hrepeats
    have hvalid := h.valid.increments i
    exact ((repeatsHour_iff hvalid.toValidTime (rtc_increment_seconds_dse hdse i)).mp hrepeats).1
  case twice =>
    intro i hi hday_autumn hone
    obtain ⟨day, k, hday, hk, rfl⟩ := exists_day hi week
    obtain ⟨hday_eq, hfrom, hto⟩ := (hstart.autumn_hour_iff hdse hday hk).mp ⟨hday_autumn, hone⟩
    have hseconds : day_seconds rtc.calendar.year.toNat week day = 90000 := by
      unfold day_seconds
      rw [if_neg (by omega), if_pos hday_eq]
    -- the other time of the two
    obtain ⟨k', hk', hother⟩ : ∃ k' < 90000,
        (k < 7200 → k' = k + 3600) ∧ (7200 ≤ k → k' + 3600 = k) := by
      by_cases hfirst : k < 7200
      · exact ⟨k + 3600, by omega, fun _ => rfl, fun _ => by omega⟩
      · exact ⟨k - 3600, by omega, fun _ => by omega, fun _ => by omega⟩
    have hk'_lt : k' < day_seconds rtc.calendar.year.toNat week day := by omega
    refine ⟨_, ⟨midnight_add_lt hday hk'_lt, by omega,
      (hstart.same_second_iff hdse hday hk hday hk'_lt).mpr ⟨rfl, ?_⟩⟩, ?_⟩
    · rw [day_time_eq_iff hk hk'_lt]
      omega
    · rintro j ⟨hj, hne, hsame⟩
      obtain ⟨day', l, hday', hl, rfl⟩ := exists_day hj week
      obtain ⟨rfl, htime⟩ := (hstart.same_second_iff hdse hday hk hday' hl).mp hsame
      rw [day_time_eq_iff hk hl] at htime
      omega
  case once =>
    intro i hi j hj hne hsame
    obtain ⟨day, k, hday, hk, rfl⟩ := exists_day hi week
    obtain ⟨day', k', hday', hk', rfl⟩ := exists_day hj week
    obtain ⟨rfl, htime⟩ := (hstart.same_second_iff hdse hday hk hday' hk').mp hsame
    rw [hstart.autumn_hour_iff hdse hday hk]
    rw [day_time_eq_iff hk hk'] at htime
    omega
  case counts =>
    intro i hskips hrepeats
    have hvalid := h.valid.increments i
    obtain ⟨-, hstep⟩ := rtc_increment_second_step hvalid.toValidTime
    rw [Function.iterate_succ_apply']
    exact hstep.count hvalid hskips hrepeats

/-! ## Reaching a New Year -/

/-- What is left of the year, with the hour that may come again. -/
def year_left (rtc : Rtc) : ℕ :=
  (year_length rtc.calendar.year.toNat - day_of_year rtc.calendar) * 100000 +
    (86400 - time_of_day rtc.calendar) + (if rtc.daylight_fallback_done then 0 else 3600)

/-- Every second brings the New Year nearer, with daylight saving or without. -/
theorem year_left_increment {rtc : Rtc} (h : ValidCalendar rtc.calendar) :
    NewYear (rtc_increment_second rtc) ∨ year_left (rtc_increment_second rtc) < year_left rtc := by
  obtain ⟨hvalid, hstep⟩ := rtc_increment_second_step h.toValidTime
  have hshows : Shows rtc rtc.calendar.year.toNat (day_of_year rtc.calendar)
      (rtc.calendar.day_week.toNat - 1) (time_of_day rtc.calendar) := by
    have hpos := h.day_week_pos
    have hle := h.day_week_le
    exact ⟨h, rfl, rfl, by omega, rfl⟩
  have hsame_day (same : SameDate rtc.calendar (rtc_increment_second rtc).calendar) :
      year_length (rtc_increment_second rtc).calendar.year.toNat =
          year_length rtc.calendar.year.toNat ∧
        day_of_year (rtc_increment_second rtc).calendar = day_of_year rtc.calendar := by
    have hnext := hshows.same_day same hvalid
    exact ⟨by rw [hnext.year_eq], hnext.day_eq⟩
  have htime_lt := h.toValidTime.time_of_day_lt
  unfold year_left
  cases hstep with
  | within same before _ time fallback =>
    obtain ⟨hlength, hday⟩ := hsame_day same
    rw [hlength, hday, time, fallback]
    omega
  | skip same _ _ before time fallback =>
    obtain ⟨hlength, hday⟩ := hsame_day same
    rw [hlength, hday, time, fallback]
    omega
  | back same _ _ first before time fallback =>
    obtain ⟨hlength, hday⟩ := hsame_day same
    rw [hlength, hday, time, fallback, first, if_pos rfl, if_neg Bool.false_ne_true]
    omega
  | day ending same after before time fallback =>
    obtain ⟨hbefore, hnext⟩ | ⟨-, hnext⟩ := hshows.next_day same after hvalid
    · right
      rw [hnext.year_eq, hnext.day_eq, time, fallback, if_neg Bool.false_ne_true]
      omega
    · exact .inl (hnext.new_year time)

/-- The clock comes to a New Year. -/
theorem ValidCalendar.reaches_new_year {rtc : Rtc} (h : ValidCalendar rtc.calendar) :
    ∃ n, NewYear (rtc_increment_second^[n] rtc) := by
  induction hleft : year_left rtc using Nat.strong_induction_on generalizing rtc with
  | _ left ih =>
    obtain hnew | hless := year_left_increment h
    · exact ⟨1, hnew⟩
    · obtain ⟨n, hn⟩ := ih _ (hleft ▸ hless) h.increment rfl
      exact ⟨n + 1, hn⟩

/-! ## Every calendar -/

/-- Without daylight saving the clock counts the seconds of a century of leap years divisible by
four, and of the week; with it the calendar stays one, the New Years come, and each year between
them leaves one hour out and has one hour twice. -/
theorem rtc_increment_second_calendar {rtc : Rtc} (h : ValidCalendar rtc.calendar) :
    (∀ n, ValidCalendar (rtc_increment_second^[n] rtc).calendar) ∧
      (is_set rtc.reg_b rtc_b_dse = false → ∀ n,
        century_second (rtc_increment_second^[n] rtc).calendar =
            (century_second rtc.calendar + n) % (century_length * 86400) ∧
          week_second (rtc_increment_second^[n] rtc).calendar =
            (week_second rtc.calendar + n) % (7 * 86400) ∧
          ∀ calendar, ValidCalendar calendar →
            century_second calendar =
                (century_second rtc.calendar + n) % (century_length * 86400) →
              week_second calendar = (week_second rtc.calendar + n) % (7 * 86400) →
                SameDate calendar (rtc_increment_second^[n] rtc).calendar ∧
                  (rtc_increment_second^[n] rtc).calendar.hour = calendar.hour ∧
                  (rtc_increment_second^[n] rtc).calendar.minute = calendar.minute ∧
                  (rtc_increment_second^[n] rtc).calendar.second = calendar.second) ∧
      (is_set rtc.reg_b rtc_b_dse = true →
        (∃ n, NewYear (rtc_increment_second^[n] rtc)) ∧
          ∀ n, NewYear (rtc_increment_second^[n] rtc) →
            DaylightYear (rtc_increment_second^[n] rtc)) := by
  refine ⟨h.increments, ?_, fun hdse => ⟨h.reaches_new_year, ?_⟩⟩
  · intro hdse n
    obtain ⟨hcentury, hweek⟩ := h.count hdse n
    refine ⟨hcentury, hweek, ?_⟩
    intro calendar hcalendar hcentury' hweek'
    exact (h.increments n).ext_counts hcalendar (hcentury.trans hcentury'.symm)
      (hweek.trans hweek'.symm)
  · intro n hnew
    exact hnew.daylight (rtc_increment_seconds_dse hdse n)

/-- Of the clock before the hour that is left out, every New Year begins such a year. -/
theorem rtc_increment_second_spring :
    ValidCalendar rtc_spring.calendar ∧
      ∀ n, NewYear (rtc_increment_second^[n] rtc_spring) →
        DaylightYear (rtc_increment_second^[n] rtc_spring) := by
  have hvalid : ValidCalendar rtc_spring.calendar :=
    { second_lt := by decide +kernel
      minute_lt := by decide +kernel
      hour_lt := by decide +kernel
      day_week_pos := by decide +kernel
      day_week_le := by decide +kernel
      month_pos := by decide +kernel
      month_le := by decide +kernel
      day_month_pos := by decide +kernel
      day_month_le := by decide +kernel
      year_lt := by decide +kernel }
  exact ⟨hvalid, ((rtc_increment_second_calendar hvalid).2.2 (by decide +kernel)).2⟩

end Nxvm.Chips
