/-
The dates that the real-time clock counts, against a calendar whose leap years are those divisible
by four.

A date is the place of its day in its month, of its month in its year and of its year in the
century. What one second can do to the clock is said once, with daylight saving and without; that
the calendar stays one, and that without daylight saving it counts seconds, follow from it.
-/
import Nxvm.Chips.RtcCalendar
import Nxvm.Lib.Segments

set_option autoImplicit false

namespace Nxvm.Chips

open Nxvm.Lib Nxvm.Lib.Register Nxvm.Machine

/-! ## The calendar -/

/-- Days of a month. -/
def month_length (year month : ℕ) : ℕ :=
  if month = 2 then if 4 ∣ year then 29 else 28
  else if month = 4 ∨ month = 6 ∨ month = 9 ∨ month = 11 then 30 else 31

/-- Days of the months of a year, in order. -/
def year_months (year index : ℕ) : ℕ := month_length year (index + 1)

/-- Days of a year. -/
def year_length (year : ℕ) : ℕ := Segments.start (year_months year) 12

/-- Days of a century. -/
def century_length : ℕ := Segments.start year_length 100

/-- Days since the beginning of the year. -/
def day_of_year (calendar : RtcCalendar) : ℕ :=
  Segments.start (year_months calendar.year.toNat) (calendar.month.toNat - 1) +
    (calendar.day_month.toNat - 1)

/-- Days since the beginning of the century. -/
def day_of_century (calendar : RtcCalendar) : ℕ :=
  Segments.start year_length calendar.year.toNat + day_of_year calendar

/-- The calendar holds a date. -/
structure ValidDate (calendar : RtcCalendar) : Prop where
  day_week_pos : 1 ≤ calendar.day_week.toNat
  day_week_le : calendar.day_week.toNat ≤ 7
  month_pos : 1 ≤ calendar.month.toNat
  month_le : calendar.month.toNat ≤ 12
  day_month_pos : 1 ≤ calendar.day_month.toNat
  day_month_le :
    calendar.day_month.toNat ≤ month_length calendar.year.toNat calendar.month.toNat
  year_lt : calendar.year.toNat < 100

/-- The calendar holds a date and a time of day. -/
structure ValidCalendar (calendar : RtcCalendar) : Prop extends
    ValidTime calendar, ValidDate calendar

theorem month_length_le (year month : ℕ) : month_length year month ≤ 31 := by
  unfold month_length
  split_ifs
  all_goals omega

theorem month_length_pos (year month : ℕ) : 1 ≤ month_length year month := by
  unfold month_length
  split_ifs
  all_goals omega

theorem leap_iff (year : U8) : year &&& 3 = 0 ↔ 4 ∣ year.toNat := by
  have hand : (year &&& 3).toNat = year.toNat % 4 := by
    rw [BitVec.toNat_and]
    exact Nat.and_two_pow_sub_one_eq_mod year.toNat 2
  rw [← BitVec.toNat_inj, hand]
  exact (Nat.dvd_iff_mod_eq_zero).symm

/-- The days the code counts in a month. -/
theorem rtc_days_in_month_toNat {calendar : RtcCalendar} (hpos : 1 ≤ calendar.month.toNat)
    (hle : calendar.month.toNat ≤ 12) :
    (rtc_days_in_month calendar).toNat =
      month_length calendar.year.toNat calendar.month.toNat := by
  have hmonth (value : U8) : calendar.month = value ↔ calendar.month.toNat = value.toNat :=
    BitVec.toNat_inj.symm
  have hinside : ¬ (calendar.month < 1 ∨ 12 < calendar.month) := by
    rw [BitVec.lt_def, BitVec.lt_def]
    show ¬ (calendar.month.toNat < 1 ∨ 12 < calendar.month.toNat)
    omega
  unfold rtc_days_in_month month_length
  dsimp only
  rw [if_neg hinside, if_congr (hmonth 2) rfl rfl,
    if_congr (or_congr (hmonth 4) (or_congr (hmonth 6) (or_congr (hmonth 9) (hmonth 11)))) rfl rfl,
    if_congr (leap_iff calendar.year) rfl rfl]
  split_ifs
  all_goals first | rfl | (exfalso; simp at *; omega)

theorem ValidDate.day_of_year_lt {calendar : RtcCalendar} (h : ValidDate calendar) :
    day_of_year calendar < year_length calendar.year.toNat := by
  have hpos := h.month_pos
  have hle := h.month_le
  have hday := h.day_month_le
  have hday_pos := h.day_month_pos
  apply Segments.place_lt
  · unfold year_months
    rw [Nat.sub_add_cancel hpos]
    omega
  · omega

theorem ValidDate.day_of_century_lt {calendar : RtcCalendar} (h : ValidDate calendar) :
    day_of_century calendar < century_length :=
  Segments.place_lt h.day_of_year_lt h.year_lt

/-- A day of a month of the year is that day of the year only. -/
theorem ValidDate.day_of_year_iff {calendar : RtcCalendar} (h : ValidDate calendar)
    {month day : ℕ} (hmonth : 1 ≤ month) (hday_pos : 1 ≤ day)
    (hday : day ≤ month_length calendar.year.toNat month) :
    day_of_year calendar =
        Segments.start (year_months calendar.year.toNat) (month - 1) + (day - 1) ↔
      calendar.month.toNat = month ∧ calendar.day_month.toNat = day := by
  have hpos := h.month_pos
  have hown_pos := h.day_month_pos
  have hown := h.day_month_le
  have hoffset : calendar.day_month.toNat - 1 <
      year_months calendar.year.toNat (calendar.month.toNat - 1) := by
    unfold year_months
    rw [Nat.sub_add_cancel hpos]
    omega
  have hoffset' : day - 1 < year_months calendar.year.toNat (month - 1) := by
    unfold year_months
    rw [Nat.sub_add_cancel hmonth]
    omega
  constructor
  · intro hsame
    obtain ⟨hm, hd⟩ := Segments.place_unique hoffset hoffset' hsame
    exact ⟨by omega, by omega⟩
  · rintro ⟨rfl, rfl⟩
    rfl

/-- A day of the century is a day of one year. -/
theorem ValidDate.day_of_century_iff {calendar : RtcCalendar} (h : ValidDate calendar)
    {year day : ℕ} (hday : day < year_length year) :
    day_of_century calendar = Segments.start year_length year + day ↔
      calendar.year.toNat = year ∧ day_of_year calendar = day := by
  constructor
  · intro hsame
    exact Segments.place_unique h.day_of_year_lt hday hsame
  · rintro ⟨rfl, rfl⟩
    rfl

/-- A day of the century is one date. -/
theorem ValidDate.day_of_century_inj {calendar calendar' : RtcCalendar} (h : ValidDate calendar)
    (h' : ValidDate calendar') (hsame : day_of_century calendar = day_of_century calendar') :
    calendar.year = calendar'.year ∧ calendar.month = calendar'.month ∧
      calendar.day_month = calendar'.day_month := by
  obtain ⟨hyear, hday⟩ := (h.day_of_century_iff h'.day_of_year_lt).mp hsame
  have hle := h'.day_month_le
  rw [← hyear] at hle
  unfold day_of_year at hday
  rw [← hyear] at hday
  obtain ⟨hmonth, hday⟩ :=
    (h.day_of_year_iff h'.month_pos h'.day_month_pos hle).mp hday
  exact ⟨BitVec.eq_of_toNat_eq hyear, BitVec.eq_of_toNat_eq hmonth, BitVec.eq_of_toNat_eq hday⟩

/-! ## The next day -/

theorem year_length_succ (year : ℕ) :
    year_length year =
      Segments.start (year_months year) 11 + month_length year 12 := rfl

theorem year_length_pos (year : ℕ) : 0 < year_length year := by
  have hlast := month_length_pos year 12
  rw [year_length_succ]
  omega

theorem months_succ (year : ℕ) {month : ℕ} (hmonth : 1 ≤ month) :
    Segments.start (year_months year) month =
      Segments.start (year_months year) (month - 1) + month_length year month := by
  obtain ⟨index, rfl⟩ := Nat.exists_eq_add_of_le' hmonth
  rfl

/-- The weekday after. -/
theorem day_week_succ {day_week : U8} (hpos : 1 ≤ day_week.toNat) (hle : day_week.toNat ≤ 7) :
    (if day_week = 7 then (1 : U8) else day_week + 1).toNat = day_week.toNat % 7 + 1 := by
  have hone : (1 : U8).toNat = 1 := rfl
  by_cases hlast : day_week = 7
  · rw [if_pos hlast, hlast]
    rfl
  · have hseven : day_week.toNat ≠ 7 := fun heq => hlast (BitVec.eq_of_toNat_eq heq)
    rw [if_neg hlast, BitVec.toNat_add, hone, Nat.mod_eq_of_lt (show _ < 2 ^ 8 by omega)]
    omega

/-- The three ways in which the code leaves a day. -/
theorem rtc_next_day_fields {rtc : Rtc} (h : ValidDate rtc.calendar) :
    (rtc_next_day rtc).calendar.day_week.toNat = rtc.calendar.day_week.toNat % 7 + 1 ∧
      (rtc.calendar.day_month.toNat <
            month_length rtc.calendar.year.toNat rtc.calendar.month.toNat ∧
          (rtc_next_day rtc).calendar.day_month.toNat = rtc.calendar.day_month.toNat + 1 ∧
          (rtc_next_day rtc).calendar.month.toNat = rtc.calendar.month.toNat ∧
          (rtc_next_day rtc).calendar.year.toNat = rtc.calendar.year.toNat ∨
        rtc.calendar.day_month.toNat =
            month_length rtc.calendar.year.toNat rtc.calendar.month.toNat ∧
          rtc.calendar.month.toNat < 12 ∧
          (rtc_next_day rtc).calendar.day_month.toNat = 1 ∧
          (rtc_next_day rtc).calendar.month.toNat = rtc.calendar.month.toNat + 1 ∧
          (rtc_next_day rtc).calendar.year.toNat = rtc.calendar.year.toNat ∨
        rtc.calendar.day_month.toNat =
            month_length rtc.calendar.year.toNat rtc.calendar.month.toNat ∧
          rtc.calendar.month.toNat = 12 ∧
          (rtc_next_day rtc).calendar.day_month.toNat = 1 ∧
          (rtc_next_day rtc).calendar.month.toNat = 1 ∧
          (rtc_next_day rtc).calendar.year.toNat = (rtc.calendar.year.toNat + 1) % 100) := by
  obtain ⟨hweek_pos, hweek_le, hmonth_pos, hmonth_le, hday_pos, hday_le, hyear⟩ := h
  have hbound := month_length_le rtc.calendar.year.toNat rtc.calendar.month.toNat
  have hone : (1 : U8).toNat = 1 := rfl
  have hday : (rtc.calendar.day_month + 1).toNat = rtc.calendar.day_month.toNat + 1 := by
    rw [BitVec.toNat_add, hone]
    exact Nat.mod_eq_of_lt (by omega)
  have hmonth : (rtc.calendar.month + 1).toNat = rtc.calendar.month.toNat + 1 := by
    rw [BitVec.toNat_add, hone]
    exact Nat.mod_eq_of_lt (by omega)
  have hweek := day_week_succ hweek_pos hweek_le
  have hdays (calendar : RtcCalendar) (hm : calendar.month = rtc.calendar.month)
      (hy : calendar.year = rtc.calendar.year) :
      rtc.calendar.day_month + 1 ≤ rtc_days_in_month calendar ↔
        rtc.calendar.day_month.toNat + 1 ≤
          month_length rtc.calendar.year.toNat rtc.calendar.month.toNat := by
    rw [BitVec.le_def, rtc_days_in_month_toNat (by rw [hm]; exact hmonth_pos)
      (by rw [hm]; exact hmonth_le), hm, hy, hday]
  have hmonths : rtc.calendar.month + 1 ≤ 12 ↔ rtc.calendar.month.toNat + 1 ≤ 12 := by
    rw [BitVec.le_def, hmonth]
    exact Iff.rfl
  unfold rtc_next_day
  dsimp only
  generalize (if rtc.calendar.day_week = 7 then (1 : U8) else rtc.calendar.day_week + 1) =
    day_week at hweek ⊢
  split_ifs with hwithin hyear_within hlast
  · have hbelow := (hdays _ (by rfl) (by rfl)).mp hwithin
    exact ⟨hweek, .inl ⟨hbelow, hday, rfl, rfl⟩⟩
  · have hend := mt (hdays _ (by rfl) (by rfl)).mpr hwithin
    have hbelow := hmonths.mp hyear_within
    exact ⟨hweek, .inr (.inl ⟨by omega, hbelow, rfl, hmonth, rfl⟩)⟩
  · have hend := mt (hdays _ (by rfl) (by rfl)).mpr hwithin
    have hdecember := mt hmonths.mpr hyear_within
    have hninety : rtc.calendar.year.toNat = 99 := congrArg BitVec.toNat hlast
    refine ⟨hweek, .inr (.inr ⟨by omega, by omega, rfl, rfl, ?_⟩)⟩
    rw [hninety]
    rfl
  · have hend := mt (hdays _ (by rfl) (by rfl)).mpr hwithin
    have hdecember := mt hmonths.mpr hyear_within
    have hninety : rtc.calendar.year.toNat ≠ 99 := fun heq => hlast (BitVec.eq_of_toNat_eq heq)
    refine ⟨hweek, .inr (.inr ⟨by omega, by omega, rfl, rfl, ?_⟩)⟩
    dsimp only
    rw [BitVec.toNat_add, hone, Nat.mod_eq_of_lt (show _ < 2 ^ 8 by omega),
      Nat.mod_eq_of_lt (by omega)]

/-- The day after a date is a date, and the next of the century. -/
theorem rtc_next_day_date {rtc : Rtc} (h : ValidDate rtc.calendar) :
    ValidDate (rtc_next_day rtc).calendar ∧
      day_of_century (rtc_next_day rtc).calendar =
        (day_of_century rtc.calendar + 1) % century_length := by
  have hlt := h.day_of_century_lt
  obtain ⟨hweek, hnext⟩ := rtc_next_day_fields h
  obtain ⟨-, -, hmonth_pos, hmonth_le, hday_pos, -, hyear⟩ := h
  have hmonths := months_succ rtc.calendar.year.toNat hmonth_pos
  have hlength := month_length_pos
  obtain ⟨hwithin, hday, hmonth, hsame⟩ | ⟨hend, hwithin, hday, hmonth, hsame⟩ |
    ⟨hend, hdecember, hday, hmonth, hsame⟩ := hnext
  · -- within the month
    have hindex : day_of_century (rtc_next_day rtc).calendar = day_of_century rtc.calendar + 1 := by
      unfold day_of_century day_of_year
      rw [hday, hmonth, hsame]
      omega
    have hdate : ValidDate (rtc_next_day rtc).calendar :=
      ⟨by omega, by omega, by omega, by omega, by omega, by rw [hday, hmonth, hsame]; omega,
        by omega⟩
    exact ⟨hdate, by rw [← hindex, Nat.mod_eq_of_lt hdate.day_of_century_lt]⟩
  · -- the first of the next month
    have hindex : day_of_century (rtc_next_day rtc).calendar = day_of_century rtc.calendar + 1 := by
      unfold day_of_century day_of_year
      rw [hday, hmonth, hsame, Nat.add_sub_cancel, hmonths]
      omega
    have hdate : ValidDate (rtc_next_day rtc).calendar :=
      ⟨by omega, by omega, by omega, by omega, by omega, by rw [hday]; exact hlength _ _,
        by omega⟩
    exact ⟨hdate, by rw [← hindex, Nat.mod_eq_of_lt hdate.day_of_century_lt]⟩
  · -- the first of the next year
    have hdate : ValidDate (rtc_next_day rtc).calendar :=
      ⟨by omega, by omega, by omega, by omega, by omega, by rw [hday]; exact hlength _ _,
        by omega⟩
    have hfirst : day_of_century (rtc_next_day rtc).calendar =
        Segments.start year_length ((rtc.calendar.year.toNat + 1) % 100) := by
      unfold day_of_century day_of_year
      rw [hday, hmonth, hsame]
      rfl
    have hindex : day_of_century rtc.calendar + 1 =
        Segments.start year_length (rtc.calendar.year.toNat + 1) := by
      have hyear_end := year_length_succ rtc.calendar.year.toNat
      have hlast := hlength rtc.calendar.year.toNat 12
      have hyear_next : Segments.start year_length (rtc.calendar.year.toNat + 1) =
          Segments.start year_length rtc.calendar.year.toNat +
            year_length rtc.calendar.year.toNat := rfl
      rw [hdecember] at hend
      unfold day_of_century day_of_year
      rw [hdecember, hyear_next, hyear_end, show 12 - 1 = 11 from rfl]
      omega
    refine ⟨hdate, ?_⟩
    rw [hfirst, hindex]
    by_cases hcentury : rtc.calendar.year.toNat + 1 = 100
    · rw [hcentury]
      exact (Nat.mod_self _).symm
    · have hbelow := hdate.day_of_century_lt
      rw [hfirst] at hbelow
      rw [Nat.mod_eq_of_lt (show rtc.calendar.year.toNat + 1 < 100 by omega)] at hbelow ⊢
      exact (Nat.mod_eq_of_lt hbelow).symm

/-! ## One second -/

/-- Two calendars of one date. -/
structure SameDate (calendar calendar' : RtcCalendar) : Prop where
  day_week : calendar'.day_week = calendar.day_week
  day_month : calendar'.day_month = calendar.day_month
  month : calendar'.month = calendar.month
  year : calendar'.year = calendar.year

theorem SameDate.valid {calendar calendar' : RtcCalendar} (h : SameDate calendar calendar')
    (hdate : ValidDate calendar) : ValidDate calendar' := by
  obtain ⟨hweek, hday, hmonth, hyear⟩ := h
  constructor
  case day_week_pos => rw [hweek]; exact hdate.day_week_pos
  case day_week_le => rw [hweek]; exact hdate.day_week_le
  case month_pos => rw [hmonth]; exact hdate.month_pos
  case month_le => rw [hmonth]; exact hdate.month_le
  case day_month_pos => rw [hday]; exact hdate.day_month_pos
  case day_month_le => rw [hday, hmonth, hyear]; exact hdate.day_month_le
  case year_lt => rw [hyear]; exact hdate.year_lt

theorem SameDate.day_of_century {calendar calendar' : RtcCalendar}
    (h : SameDate calendar calendar') : day_of_century calendar' = day_of_century calendar := by
  unfold Nxvm.Chips.day_of_century day_of_year
  rw [h.day_month, h.month, h.year]

/-- The day on which an hour is left out. -/
def SpringDay (calendar : RtcCalendar) : Prop :=
  calendar.day_week = 1 ∧ calendar.month = 4 ∧ 24 ≤ calendar.day_month

/-- The day on which an hour comes twice. -/
def AutumnDay (calendar : RtcCalendar) : Prop :=
  calendar.day_week = 1 ∧ calendar.month = 10 ∧ 25 ≤ calendar.day_month

/-- The four things that a second can do to the clock. -/
inductive SecondStep (rtc next : Rtc) : Prop where
  /-- The next second of the day. -/
  | within (same : SameDate rtc.calendar next.calendar)
      (before : time_of_day rtc.calendar + 1 < 86400)
      (unshifted : time_of_day rtc.calendar = 7199 → is_set rtc.reg_b rtc_b_dse = true →
        ¬ SpringDay rtc.calendar ∧
          (AutumnDay rtc.calendar → rtc.daylight_fallback_done = true))
      (time : time_of_day next.calendar = time_of_day rtc.calendar + 1)
      (fallback : next.daylight_fallback_done = rtc.daylight_fallback_done)
  /-- Two o'clock is three o'clock. -/
  | skip (same : SameDate rtc.calendar next.calendar)
      (daylight : is_set rtc.reg_b rtc_b_dse = true) (spring : SpringDay rtc.calendar)
      (before : time_of_day rtc.calendar = 7199) (time : time_of_day next.calendar = 10800)
      (fallback : next.daylight_fallback_done = rtc.daylight_fallback_done)
  /-- Two o'clock is one o'clock. -/
  | back (same : SameDate rtc.calendar next.calendar)
      (daylight : is_set rtc.reg_b rtc_b_dse = true) (autumn : AutumnDay rtc.calendar)
      (first : rtc.daylight_fallback_done = false)
      (before : time_of_day rtc.calendar = 7199) (time : time_of_day next.calendar = 3600)
      (fallback : next.daylight_fallback_done = true)
  /-- The beginning of the next day. -/
  | day (ending : Rtc) (same : SameDate rtc.calendar ending.calendar)
      (after : next = rtc_next_day ending)
      (before : time_of_day rtc.calendar = 86399) (time : time_of_day next.calendar = 0)
      (fallback : next.daylight_fallback_done = false)

theorem rtc_next_day_fallback (rtc : Rtc) : (rtc_next_day rtc).daylight_fallback_done = false := by
  unfold rtc_next_day
  dsimp only
  split_ifs
  all_goals rfl

/-- What the daylight saving makes of the hour that begins. -/
theorem rtc_shift_hour_cases (rtc : Rtc) :
    rtc_shift_hour rtc = rtc ∧
        (rtc.calendar.hour = 2 → is_set rtc.reg_b rtc_b_dse = true →
          ¬ SpringDay rtc.calendar ∧
            (AutumnDay rtc.calendar → rtc.daylight_fallback_done = true)) ∨
      rtc_shift_hour rtc = { rtc with calendar := { rtc.calendar with hour := 3 } } ∧
        rtc.calendar.hour = 2 ∧ is_set rtc.reg_b rtc_b_dse = true ∧ SpringDay rtc.calendar ∨
      rtc_shift_hour rtc = { rtc with
          calendar := { rtc.calendar with hour := 1 }
          daylight_fallback_done := true } ∧
        rtc.calendar.hour = 2 ∧ is_set rtc.reg_b rtc_b_dse = true ∧ AutumnDay rtc.calendar ∧
          rtc.daylight_fallback_done = false := by
  unfold rtc_shift_hour
  dsimp only
  split_ifs with hsunday hspring hautumn
  · obtain ⟨hdse, hhour, hweek⟩ := hsunday
    exact .inr (.inl ⟨rfl, hhour, hdse, hweek, hspring⟩)
  · obtain ⟨hdse, hhour, hweek⟩ := hsunday
    obtain ⟨hmonth, hday, hfirst⟩ := hautumn
    exact .inr (.inr ⟨rfl, hhour, hdse, ⟨hweek, hmonth, hday⟩, by simpa using hfirst⟩)
  · refine .inl ⟨rfl, fun _ _ => ⟨fun hday => hspring hday.2, fun hday => ?_⟩⟩
    by_contra hfirst
    exact hautumn ⟨hday.2.1, hday.2.2, by simpa using hfirst⟩
  · refine .inl ⟨rfl, fun hhour hdse => ⟨fun hday => ?_, fun hday => ?_⟩⟩
    · exact absurd ⟨hdse, hhour, hday.1⟩ hsunday
    · exact absurd ⟨hdse, hhour, hday.1⟩ hsunday

/-- The last second of an hour. -/
theorem rtc_next_hour_step {rtc ending : Rtc} (hhour : rtc.calendar.hour.toNat < 24)
    (hminute : rtc.calendar.minute.toNat = 59) (hsecond : rtc.calendar.second.toNat = 59)
    (hending : ending = { rtc with calendar := { rtc.calendar with minute := 0, second := 0 } }) :
    ValidTime (rtc_next_hour ending).calendar ∧ SecondStep rtc (rtc_next_hour ending) := by
  obtain ⟨hsucc, hlt⟩ := field_succ hhour (by decide)
  have hzero : (0 : U8).toNat = 0 := rfl
  have hpos : (0 : U8).toNat < 60 := by decide
  have htime : time_of_day rtc.calendar = rtc.calendar.hour.toNat * 3600 + 3599 := by
    unfold time_of_day
    omega
  have htwo : rtc.calendar.hour + 1 = 2 ↔ rtc.calendar.hour.toNat = 1 := by
    rw [← BitVec.toNat_inj, hsucc]
    exact Nat.succ_inj
  have hcases := rtc_shift_hour_cases { ending with calendar := { ending.calendar with
    hour := ending.calendar.hour + 1 } }
  rw [hending] at hcases ⊢
  unfold rtc_next_hour
  dsimp only at hcases ⊢
  obtain ⟨hshift, hplain⟩ | ⟨hshift, hhour, hdse, hspring⟩ | ⟨hshift, hhour, hdse, hautumn, hfirst⟩ :=
    hcases
  · rw [hshift]
    dsimp only
    by_cases hcarry : rtc.calendar.hour + 1 < 24
    · have hbelow := hlt.mp hcarry
      rw [if_pos hcarry]
      refine ⟨⟨hpos, hpos, by dsimp only; omega⟩, .within ⟨rfl, rfl, rfl, rfl⟩ ?_ ?_ ?_ rfl⟩
      · omega
      · intro hseven hdse
        exact hplain (htwo.mpr (by omega)) hdse
      · rw [htime]
        unfold time_of_day
        dsimp only
        rw [hsucc, hzero]
        omega
    · have hday := mt hlt.mpr hcarry
      obtain ⟨hs, hm, hh⟩ := rtc_next_day_time { rtc with calendar := { rtc.calendar with
        minute := 0, second := 0, hour := rtc.calendar.hour + 1 } }
      rw [if_neg hcarry]
      refine ⟨⟨?_, ?_, ?_⟩, .day _ ?_ rfl ?_ ?_ (rtc_next_day_fallback _)⟩
      · rw [hs]
        exact hpos
      · rw [hm]
        exact hpos
      · rw [hh]
        decide
      · exact ⟨rfl, rfl, rfl, rfl⟩
      · omega
      · unfold time_of_day
        rw [hs, hm, hh]
        rfl
  · have hone := htwo.mp hhour
    rw [hshift]
    dsimp only
    rw [if_pos (by decide)]
    refine ⟨⟨hpos, hpos, (by decide : (3 : U8).toNat < 24)⟩,
      .skip ⟨rfl, rfl, rfl, rfl⟩ hdse hspring (by omega) ?_ rfl⟩
    show (3 : U8).toNat * 3600 + (0 : U8).toNat * 60 + (0 : U8).toNat = 10800
    decide
  · have hone := htwo.mp hhour
    rw [hshift]
    dsimp only
    rw [if_pos (by decide)]
    refine ⟨⟨hpos, hpos, (by decide : (1 : U8).toNat < 24)⟩,
      .back ⟨rfl, rfl, rfl, rfl⟩ hdse hautumn hfirst (by omega) ?_ rfl⟩
    show (1 : U8).toNat * 3600 + (0 : U8).toNat * 60 + (0 : U8).toNat = 3600
    decide

/-- A second in the middle of an hour. -/
theorem within_hour {rtc next : Rtc} (hsame : SameDate rtc.calendar next.calendar)
    (hhour : next.calendar.hour = rtc.calendar.hour) (hlt : rtc.calendar.hour.toNat < 24)
    (hbefore : rtc.calendar.minute.toNat * 60 + rtc.calendar.second.toNat < 3599)
    (htime : next.calendar.minute.toNat * 60 + next.calendar.second.toNat =
      rtc.calendar.minute.toNat * 60 + rtc.calendar.second.toNat + 1)
    (hfallback : next.daylight_fallback_done = rtc.daylight_fallback_done) :
    SecondStep rtc next := by
  have hnext : time_of_day next.calendar = time_of_day rtc.calendar + 1 := by
    unfold time_of_day
    rw [hhour]
    omega
  refine .within hsame ?_ ?_ hnext hfallback
  · unfold time_of_day
    omega
  · intro hseven
    unfold time_of_day at hseven
    omega

/-- Every second is one of the four. -/
theorem rtc_increment_second_step {rtc : Rtc} (h : ValidTime rtc.calendar) :
    ValidTime (rtc_increment_second rtc).calendar ∧
      SecondStep rtc (rtc_increment_second rtc) := by
  obtain ⟨hsecond, hminute, hhour⟩ := h
  have hzero : (0 : U8).toNat = 0 := rfl
  obtain ⟨hsucc, hlt⟩ := field_succ hsecond le_rfl
  obtain ⟨hsucc', hlt'⟩ := field_succ hminute le_rfl
  unfold rtc_increment_second rtc_next_minute
  dsimp only
  split_ifs with hcarry hcarry'
  · have hbelow := hlt.mp hcarry
    refine ⟨⟨by dsimp only; omega, hminute, hhour⟩,
      within_hour ⟨rfl, rfl, rfl, rfl⟩ rfl hhour (by omega) ?_ rfl⟩
    dsimp only
    omega
  · have hend := mt hlt.mpr hcarry
    have hbelow := hlt'.mp hcarry'
    refine ⟨⟨(by decide : (0 : U8).toNat < 60), by dsimp only; omega, hhour⟩,
      within_hour ⟨rfl, rfl, rfl, rfl⟩ rfl hhour (by omega) ?_ rfl⟩
    dsimp only
    omega
  · have hend := mt hlt.mpr hcarry
    have hend' := mt hlt'.mpr hcarry'
    exact rtc_next_hour_step hhour (by omega) (by omega) rfl

/-- The calendar stays a calendar. -/
theorem ValidCalendar.increment {rtc : Rtc} (h : ValidCalendar rtc.calendar) :
    ValidCalendar (rtc_increment_second rtc).calendar := by
  obtain ⟨htime, hstep⟩ := rtc_increment_second_step h.toValidTime
  refine ⟨htime, ?_⟩
  cases hstep with
  | within same => exact same.valid h.toValidDate
  | skip same => exact same.valid h.toValidDate
  | back same => exact same.valid h.toValidDate
  | day ending same after =>
    rw [after]
    exact (rtc_next_day_date (same.valid h.toValidDate)).1

theorem ValidCalendar.increments {rtc : Rtc} (h : ValidCalendar rtc.calendar) (n : ℕ) :
    ValidCalendar (rtc_increment_second^[n] rtc).calendar := by
  induction n with
  | zero => exact h
  | succ n ih =>
    rw [Function.iterate_succ_apply']
    exact ih.increment

/-! ## Counting without daylight saving -/

/-- Seconds since the beginning of the century. -/
def century_second (calendar : RtcCalendar) : ℕ :=
  day_of_century calendar * 86400 + time_of_day calendar

/-- Seconds since the beginning of the week. -/
def week_second (calendar : RtcCalendar) : ℕ :=
  (calendar.day_week.toNat - 1) * 86400 + time_of_day calendar

/-- Both counts of a second that is no daylight saving's. -/
theorem SecondStep.count {rtc next : Rtc} (h : ValidCalendar rtc.calendar)
    (hstep : SecondStep rtc next)
    (hskip : ¬ (time_of_day rtc.calendar = 7199 ∧ time_of_day next.calendar = 10800))
    (hback : ¬ (time_of_day rtc.calendar = 7199 ∧ time_of_day next.calendar = 3600)) :
    century_second next.calendar =
        (century_second rtc.calendar + 1) % (century_length * 86400) ∧
      week_second next.calendar = (week_second rtc.calendar + 1) % (7 * 86400) := by
  have hday := h.toValidDate.day_of_century_lt
  have hweek_pos := h.day_week_pos
  have hweek_le := h.day_week_le
  unfold century_second week_second
  cases hstep with
  | within same before unshifted time =>
    rw [same.day_of_century, same.day_week, time]
    constructor
    · rw [Nat.mod_eq_of_lt (by omega)]
      omega
    · rw [Nat.mod_eq_of_lt (by omega)]
      omega
  | skip _ _ _ before time => exact absurd ⟨before, time⟩ hskip
  | back _ _ _ _ before time => exact absurd ⟨before, time⟩ hback
  | day ending same after before time =>
    have hdate := same.valid h.toValidDate
    obtain ⟨-, hnext⟩ := rtc_next_day_date hdate
    obtain ⟨hweek, -⟩ := rtc_next_day_fields hdate
    rw [← after, same.day_of_century] at hnext
    rw [← after, same.day_week] at hweek
    rw [hnext, hweek, before, time]
    constructor
    · rw [Nat.add_zero, Nat.add_assoc, show 86399 + 1 = 1 * 86400 from rfl, ← Nat.add_mul,
        Nat.mul_mod_mul_right]
    · omega

/-- Without daylight saving the clock counts seconds. -/
theorem ValidCalendar.count {rtc : Rtc} (h : ValidCalendar rtc.calendar)
    (hdse : is_set rtc.reg_b rtc_b_dse = false) (n : ℕ) :
    century_second (rtc_increment_second^[n] rtc).calendar =
        (century_second rtc.calendar + n) % (century_length * 86400) ∧
      week_second (rtc_increment_second^[n] rtc).calendar =
        (week_second rtc.calendar + n) % (7 * 86400) := by
  induction n with
  | zero =>
    have hday := h.toValidDate.day_of_century_lt
    have htime := h.toValidTime.time_of_day_lt
    have hweek_le := h.day_week_le
    have hcentury : century_second rtc.calendar < century_length * 86400 := by
      unfold century_second
      omega
    have hweek : week_second rtc.calendar < 7 * 86400 := by
      unfold week_second
      omega
    rw [Function.iterate_zero_apply, Nat.add_zero, Nat.add_zero, Nat.mod_eq_of_lt hcentury,
      Nat.mod_eq_of_lt hweek]
    exact ⟨rfl, rfl⟩
  | succ n ih =>
    have hvalid := h.increments n
    obtain ⟨-, hstep⟩ := rtc_increment_second_step hvalid.toValidTime
    obtain ⟨-, htime⟩ := rtc_increment_second_time (by
      rw [(rtc_increment_seconds_same n rtc).reg_b]
      exact hdse) hvalid.toValidTime
    rw [Function.iterate_succ_apply']
    obtain ⟨hcentury, hweek⟩ := hstep.count hvalid (by omega) (by omega)
    rw [hcentury, hweek, ih.1, ih.2, Nat.mod_add_mod, Nat.mod_add_mod, Nat.add_assoc,
      Nat.add_assoc]
    exact ⟨rfl, rfl⟩

/-- The two counts are one date, weekday and time. -/
theorem ValidCalendar.ext_counts {calendar calendar' : RtcCalendar} (h : ValidCalendar calendar)
    (h' : ValidCalendar calendar') (hcentury : century_second calendar = century_second calendar')
    (hweek : week_second calendar = week_second calendar') :
    SameDate calendar' calendar ∧ calendar.hour = calendar'.hour ∧
      calendar.minute = calendar'.minute ∧ calendar.second = calendar'.second := by
  have htime := h.toValidTime.time_of_day_lt
  have htime' := h'.toValidTime.time_of_day_lt
  unfold century_second at hcentury
  unfold week_second at hweek
  obtain ⟨hyear, hmonth, hday⟩ := h.toValidDate.day_of_century_inj h'.toValidDate (by omega)
  have hday_week : calendar.day_week = calendar'.day_week := by
    have hpos := h.day_week_pos
    have hpos' := h'.day_week_pos
    exact BitVec.eq_of_toNat_eq (by omega)
  have hsame : time_of_day calendar = time_of_day calendar' := by omega
  obtain ⟨hsecond, hminute, hhour⟩ := h.toValidTime
  obtain ⟨hsecond', hminute', hhour'⟩ := h'.toValidTime
  unfold time_of_day at hsame
  refine ⟨⟨hday_week, hday, hmonth, hyear⟩, ?_, ?_, ?_⟩
  · exact BitVec.eq_of_toNat_eq (by omega)
  · exact BitVec.eq_of_toNat_eq (by omega)
  · exact BitVec.eq_of_toNat_eq (by omega)

end Nxvm.Chips
