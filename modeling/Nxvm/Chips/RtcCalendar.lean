/-
The calendar ahead of the real-time clock, and how far the next match of its alarm can be.

Without daylight saving the time of day comes round every day, and with it every match of the
alarm. In spring an hour is left out; an alarm in that hour matches one day later, which is
further than the prediction looks.
-/
import Nxvm.Chips.RtcPrediction

set_option autoImplicit false

namespace Nxvm.Chips

open Nxvm.Lib Nxvm.Lib.Register Nxvm.Machine

/-! ## Days without daylight saving -/

/-- The calendar holds a time of day. -/
structure ValidTime (calendar : RtcCalendar) : Prop where
  second_lt : calendar.second.toNat < 60
  minute_lt : calendar.minute.toNat < 60
  hour_lt : calendar.hour.toNat < 24

/-- Seconds since midnight. -/
def time_of_day (calendar : RtcCalendar) : ℕ :=
  calendar.hour.toNat * 3600 + calendar.minute.toNat * 60 + calendar.second.toNat

theorem ValidTime.time_of_day_lt {calendar : RtcCalendar} (h : ValidTime calendar) :
    time_of_day calendar < 86400 := by
  obtain ⟨hsecond, hminute, hhour⟩ := h
  unfold time_of_day
  omega

/-- The next value of a field, and whether it is still below the bound. -/
theorem field_succ {value : U8} {bound : ℕ} (hlt : value.toNat < bound) (hbound : bound ≤ 60) :
    (value + 1).toNat = value.toNat + 1 ∧
      (value + 1 < BitVec.ofNat 8 bound ↔ value.toNat + 1 < bound) := by
  have hone : (1 : U8).toNat = 1 := rfl
  have hsucc : (value + 1).toNat = value.toNat + 1 := by
    rw [BitVec.toNat_add, hone]
    exact Nat.mod_eq_of_lt (by omega)
  refine ⟨hsucc, ?_⟩
  rw [BitVec.lt_def, hsucc, BitVec.toNat_ofNat, Nat.mod_eq_of_lt (show bound < 2 ^ 8 by omega)]

theorem rtc_shift_hour_plain (rtc : Rtc) (hdse : is_set rtc.reg_b rtc_b_dse = false) :
    rtc_shift_hour rtc = rtc := by
  unfold rtc_shift_hour
  rw [hdse]
  exact if_neg fun h => Bool.false_ne_true h.1

theorem rtc_next_day_time (rtc : Rtc) :
    (rtc_next_day rtc).calendar.second = rtc.calendar.second ∧
      (rtc_next_day rtc).calendar.minute = rtc.calendar.minute ∧
      (rtc_next_day rtc).calendar.hour = 0 := by
  unfold rtc_next_day
  dsimp only
  split_ifs
  all_goals exact ⟨rfl, rfl, rfl⟩

theorem rtc_next_hour_time (rtc : Rtc) (hdse : is_set rtc.reg_b rtc_b_dse = false)
    (hhour : rtc.calendar.hour.toNat < 24) :
    (rtc_next_hour rtc).calendar.second = rtc.calendar.second ∧
      (rtc_next_hour rtc).calendar.minute = rtc.calendar.minute ∧
      (rtc_next_hour rtc).calendar.hour.toNat = (rtc.calendar.hour.toNat + 1) % 24 := by
  obtain ⟨hsucc, hlt⟩ := field_succ hhour (by decide)
  have hplain := rtc_shift_hour_plain ({ rtc with calendar := { rtc.calendar with
    hour := rtc.calendar.hour + 1 } }) hdse
  have hnext : rtc_next_hour rtc =
      if rtc.calendar.hour + 1 < 24 then
        { rtc with calendar := { rtc.calendar with hour := rtc.calendar.hour + 1 } }
      else rtc_next_day { rtc with calendar := { rtc.calendar with
        hour := rtc.calendar.hour + 1 } } := by
    unfold rtc_next_hour
    rw [hplain]
  rw [hnext]
  by_cases hcarry : rtc.calendar.hour + 1 < 24
  · rw [if_pos hcarry]
    refine ⟨rfl, rfl, ?_⟩
    show (rtc.calendar.hour + 1).toNat = _
    rw [hsucc, Nat.mod_eq_of_lt (hlt.mp hcarry)]
  · obtain ⟨hs, hm, hh⟩ := rtc_next_day_time { rtc with calendar := { rtc.calendar with
      hour := rtc.calendar.hour + 1 } }
    have hday := mt hlt.mpr hcarry
    rw [if_neg hcarry, hs, hm, hh]
    refine ⟨rfl, rfl, ?_⟩
    rw [show rtc.calendar.hour.toNat + 1 = 24 by omega]
    rfl

theorem rtc_next_minute_time (rtc : Rtc) (hdse : is_set rtc.reg_b rtc_b_dse = false)
    (hminute : rtc.calendar.minute.toNat < 60) (hhour : rtc.calendar.hour.toNat < 24) :
    (rtc_next_minute rtc).calendar.second = rtc.calendar.second ∧
      (rtc_next_minute rtc).calendar.minute.toNat = (rtc.calendar.minute.toNat + 1) % 60 ∧
      (rtc_next_minute rtc).calendar.hour.toNat =
        (rtc.calendar.hour.toNat + (rtc.calendar.minute.toNat + 1) / 60) % 24 := by
  obtain ⟨hsucc, hlt⟩ := field_succ hminute le_rfl
  unfold rtc_next_minute
  dsimp only
  by_cases hcarry : rtc.calendar.minute + 1 < 60
  · have hbelow := hlt.mp hcarry
    rw [if_pos hcarry]
    refine ⟨rfl, ?_, ?_⟩
    · show (rtc.calendar.minute + 1).toNat = _
      rw [hsucc, Nat.mod_eq_of_lt hbelow]
    · show rtc.calendar.hour.toNat = _
      rw [Nat.div_eq_of_lt hbelow, Nat.add_zero, Nat.mod_eq_of_lt hhour]
  · have hfull : rtc.calendar.minute.toNat + 1 = 60 := by
      have hnot := mt hlt.mpr hcarry
      omega
    obtain ⟨hs, hm, hh⟩ := rtc_next_hour_time ({ rtc with calendar := { rtc.calendar with
      minute := 0 } }) hdse hhour
    rw [if_neg hcarry, hs, hm, hh, hfull]
    exact ⟨rfl, rfl, rfl⟩

theorem rtc_increment_second_fields {rtc : Rtc} (hdse : is_set rtc.reg_b rtc_b_dse = false)
    (h : ValidTime rtc.calendar) :
    (rtc_increment_second rtc).calendar.second.toNat = (rtc.calendar.second.toNat + 1) % 60 ∧
      (rtc_increment_second rtc).calendar.minute.toNat =
        (rtc.calendar.minute.toNat + (rtc.calendar.second.toNat + 1) / 60) % 60 ∧
      (rtc_increment_second rtc).calendar.hour.toNat =
        (rtc.calendar.hour.toNat +
          (rtc.calendar.minute.toNat + (rtc.calendar.second.toNat + 1) / 60) / 60) % 24 := by
  obtain ⟨hsecond, hminute, hhour⟩ := h
  obtain ⟨hsucc, hlt⟩ := field_succ hsecond le_rfl
  unfold rtc_increment_second
  dsimp only
  by_cases hcarry : rtc.calendar.second + 1 < 60
  · have hbelow := hlt.mp hcarry
    rw [if_pos hcarry, Nat.div_eq_of_lt hbelow]
    refine ⟨?_, ?_, ?_⟩
    · show (rtc.calendar.second + 1).toNat = _
      rw [hsucc, Nat.mod_eq_of_lt hbelow]
    · show rtc.calendar.minute.toNat = _
      rw [Nat.add_zero, Nat.mod_eq_of_lt hminute]
    · show rtc.calendar.hour.toNat = _
      rw [Nat.add_zero, Nat.div_eq_of_lt hminute, Nat.add_zero, Nat.mod_eq_of_lt hhour]
  · have hfull : rtc.calendar.second.toNat + 1 = 60 := by
      have hnot := mt hlt.mpr hcarry
      omega
    obtain ⟨hs, hm, hh⟩ := rtc_next_minute_time ({ rtc with calendar := { rtc.calendar with
      second := 0 } }) hdse hminute hhour
    rw [if_neg hcarry, hs, hm, hh, hfull]
    exact ⟨rfl, rfl, rfl⟩

/-- A second of such a day. -/
theorem rtc_increment_second_time {rtc : Rtc} (hdse : is_set rtc.reg_b rtc_b_dse = false)
    (h : ValidTime rtc.calendar) :
    ValidTime (rtc_increment_second rtc).calendar ∧
      time_of_day (rtc_increment_second rtc).calendar =
        (time_of_day rtc.calendar + 1) % 86400 := by
  obtain ⟨hs, hm, hh⟩ := rtc_increment_second_fields hdse h
  obtain ⟨hsecond, hminute, hhour⟩ := h
  refine ⟨⟨by omega, by omega, by omega⟩, ?_⟩
  unfold time_of_day
  omega

/-- Every second of such days. -/
theorem rtc_increment_seconds_time {rtc : Rtc} (hdse : is_set rtc.reg_b rtc_b_dse = false)
    (h : ValidTime rtc.calendar) (n : ℕ) :
    ValidTime (rtc_increment_second^[n] rtc).calendar ∧
      time_of_day (rtc_increment_second^[n] rtc).calendar =
        (time_of_day rtc.calendar + n) % 86400 := by
  induction n with
  | zero =>
    have hlt := h.time_of_day_lt
    rw [Function.iterate_zero_apply, Nat.add_zero, Nat.mod_eq_of_lt hlt]
    exact ⟨h, rfl⟩
  | succ n ih =>
    have hdse' : is_set (rtc_increment_second^[n] rtc).reg_b rtc_b_dse = false := by
      rw [(rtc_increment_seconds_same n rtc).reg_b]
      exact hdse
    obtain ⟨hvalid, htime⟩ := rtc_increment_second_time hdse' ih.1
    rw [Function.iterate_succ_apply']
    refine ⟨hvalid, htime.trans ?_⟩
    rw [ih.2, Nat.mod_add_mod, Nat.add_assoc]

/-- The alarm looks at the registers and the time of day only. -/
theorem rtc_alarm_matches_congr {rtc rtc' : Rtc} (hsame : RtcSameSettings rtc rtc')
    (h : ValidTime rtc.calendar) (h' : ValidTime rtc'.calendar)
    (htime : time_of_day rtc'.calendar = time_of_day rtc.calendar) :
    rtc_alarm_matches rtc' = rtc_alarm_matches rtc := by
  obtain ⟨hs, hm, hh⟩ := h
  obtain ⟨hs', hm', hh'⟩ := h'
  unfold time_of_day at htime
  have hsecond : rtc'.calendar.second = rtc.calendar.second :=
    BitVec.eq_of_toNat_eq (by omega)
  have hminute : rtc'.calendar.minute = rtc.calendar.minute :=
    BitVec.eq_of_toNat_eq (by omega)
  have hhour : rtc'.calendar.hour = rtc.calendar.hour :=
    BitVec.eq_of_toNat_eq (by omega)
  unfold rtc_alarm_matches rtc_hour_encode rtc_encode
  rw [hsecond, hminute, hhour, hsame.reg_b, hsame.registers _ (by decide),
    hsame.registers _ (by decide), hsame.registers _ (by decide)]

/-- Without daylight saving an alarm that matches at all does so within a day. -/
theorem alarmWithin_day {rtc : Rtc} (hdse : is_set rtc.reg_b rtc_b_dse = false)
    (h : ValidTime rtc.calendar) {n : ℕ} (hwithin : AlarmWithin rtc n) :
    AlarmWithin rtc 86400 := by
  obtain ⟨k, hpos, -, hmatch⟩ := hwithin
  have hround := Nat.mod_add_div (k - 1) 86400
  have hlt := Nat.mod_lt (k - 1) (show 0 < 86400 by decide)
  refine ⟨(k - 1) % 86400 + 1, by omega, by omega, ?_⟩
  obtain ⟨hvalid, htime⟩ := rtc_increment_seconds_time hdse h k
  obtain ⟨hvalid', htime'⟩ := rtc_increment_seconds_time hdse h ((k - 1) % 86400 + 1)
  have hsame := rtc_increment_seconds_same k rtc
  have hsame' := rtc_increment_seconds_same ((k - 1) % 86400 + 1) rtc
  have hsettings : RtcSameSettings (rtc_increment_second^[k] rtc)
      (rtc_increment_second^[(k - 1) % 86400 + 1] rtc) :=
    ⟨fun reg hreg => (hsame'.registers reg hreg).trans (hsame.registers reg hreg).symm,
      hsame'.register_count.trans hsame.register_count.symm, hsame'.output.trans hsame.output.symm,
      hsame'.ticks_per_second.trans hsame.ticks_per_second.symm,
      hsame'.uip_lead_ticks.trans hsame.uip_lead_ticks.symm,
      hsame'.update_ticks.trans hsame.update_ticks.symm⟩
  rw [rtc_alarm_matches_congr hsettings hvalid hvalid' (by rw [htime, htime']; omega)]
  exact hmatch

/-- Nor is any alarm too far to be predicted there. -/
theorem not_rtcAlarmFar {rtc : Rtc} (hdse : is_set rtc.reg_b rtc_b_dse = false)
    (h : ValidTime rtc.calendar) : ¬ RtcAlarmFar rtc := by
  intro hfar
  obtain ⟨n, hwithin⟩ := hfar.later
  obtain ⟨k, hpos, hle, hmatch⟩ := alarmWithin_day hdse h hwithin
  have hday : 86400 ≤ rtc_alarm_seconds := by decide
  exact hfar.none_within ⟨k, hpos, hle.trans hday, hmatch⟩

/-! ## Hours, with daylight saving -/

/-- So many seconds into the hour that the clock stands at. -/
def rtc_in_hour (rtc : Rtc) (n : ℕ) : Rtc :=
  { rtc with calendar := { rtc.calendar with
    minute := BitVec.ofNat 8 (n / 60), second := BitVec.ofNat 8 (n % 60) } }

/-- The clock stands at a full hour. -/
structure FullHour (rtc : Rtc) : Prop where
  minute : rtc.calendar.minute = 0
  second : rtc.calendar.second = 0

theorem FullHour.in_hour_zero {rtc : Rtc} (h : FullHour rtc) : rtc_in_hour rtc 0 = rtc := by
  have hsame (minute second : U8) (hm : minute = rtc.calendar.minute)
      (hs : second = rtc.calendar.second) :
      ({ rtc with calendar := { rtc.calendar with minute := minute, second := second } } : Rtc) =
        rtc := by
    rw [hm, hs]
  exact hsame _ _ h.minute.symm h.second.symm

theorem ofNat_succ_lt {n bound : ℕ} (hbound : bound ≤ 60) (hn : n < bound) :
    BitVec.ofNat 8 n + 1 = BitVec.ofNat 8 (n + 1) ∧
      (BitVec.ofNat 8 n + 1 < BitVec.ofNat 8 bound ↔ n + 1 < bound) := by
  have hvalue : (BitVec.ofNat 8 n).toNat = n := by
    rw [BitVec.toNat_ofNat]
    exact Nat.mod_eq_of_lt (by omega)
  have hfield : (BitVec.ofNat 8 n).toNat < bound := by
    rw [hvalue]
    exact hn
  obtain ⟨hsucc, hlt⟩ := field_succ hfield hbound
  rw [hvalue] at hsucc hlt
  refine ⟨?_, hlt⟩
  apply BitVec.eq_of_toNat_eq
  rw [hsucc, BitVec.toNat_ofNat]
  exact (Nat.mod_eq_of_lt (by omega)).symm

/-- Within the hour a second is a second more; after the last one the hour is over. -/
theorem rtc_increment_in_hour {rtc : Rtc} (h : FullHour rtc) {n : ℕ} (hn : n < 3600) :
    rtc_increment_second (rtc_in_hour rtc n) =
      if n + 1 < 3600 then rtc_in_hour rtc (n + 1) else rtc_next_hour rtc := by
  obtain ⟨hsecond, hsecond_lt⟩ := ofNat_succ_lt le_rfl (Nat.mod_lt n (show 0 < 60 by decide))
  obtain ⟨hminute, hminute_lt⟩ := ofNat_succ_lt le_rfl (show n / 60 < 60 by omega)
  have hstart := h.in_hour_zero
  unfold rtc_increment_second
  dsimp only
  by_cases hcarry : n % 60 + 1 < 60
  · rw [if_pos (by exact hsecond_lt.mpr hcarry), if_pos (by omega)]
    unfold rtc_in_hour
    dsimp only
    rw [hsecond, show (n + 1) / 60 = n / 60 by omega, show (n + 1) % 60 = n % 60 + 1 by omega]
  · rw [if_neg (by exact mt hsecond_lt.mp hcarry), rtc_next_minute]
    dsimp only
    by_cases hcarry' : n / 60 + 1 < 60
    · rw [if_pos (by exact hminute_lt.mpr hcarry'), if_pos (by omega)]
      unfold rtc_in_hour
      dsimp only
      rw [hminute, show (n + 1) / 60 = n / 60 + 1 by omega, show (n + 1) % 60 = 0 by omega]
      rfl
    · rw [if_neg (by exact mt hminute_lt.mp hcarry'), if_neg (by omega)]
      exact congrArg rtc_next_hour hstart

theorem rtc_shift_hour_fields (rtc : Rtc) :
    (rtc_shift_hour rtc).calendar.second = rtc.calendar.second ∧
      (rtc_shift_hour rtc).calendar.minute = rtc.calendar.minute := by
  unfold rtc_shift_hour
  dsimp only
  split_ifs
  all_goals exact ⟨rfl, rfl⟩

theorem FullHour.next {rtc : Rtc} (h : FullHour rtc) : FullHour (rtc_next_hour rtc) := by
  obtain ⟨hs, hm⟩ := rtc_shift_hour_fields { rtc with calendar := { rtc.calendar with
    hour := rtc.calendar.hour + 1 } }
  unfold rtc_next_hour
  dsimp only
  split_ifs
  · exact ⟨hm.trans h.minute, hs.trans h.second⟩
  · obtain ⟨hs', hm', -⟩ := rtc_next_day_time (rtc_shift_hour { rtc with
      calendar := { rtc.calendar with hour := rtc.calendar.hour + 1 } })
    exact ⟨hm'.trans (hm.trans h.minute), hs'.trans (hs.trans h.second)⟩

/-- Hours and the seconds into the last of them. -/
theorem rtc_increment_hours {rtc : Rtc} (h : FullHour rtc) (n : ℕ) :
    FullHour (rtc_next_hour^[n / 3600] rtc) ∧
      rtc_increment_second^[n] rtc = rtc_in_hour (rtc_next_hour^[n / 3600] rtc) (n % 3600) := by
  induction n with
  | zero => exact ⟨h, h.in_hour_zero.symm⟩
  | succ n ih =>
    obtain ⟨hfull, hrun⟩ := ih
    have hstep := rtc_increment_in_hour hfull (Nat.mod_lt n (show 0 < 3600 by decide))
    rw [Function.iterate_succ_apply', hrun, hstep]
    by_cases hcarry : n % 3600 + 1 < 3600
    · rw [if_pos hcarry, show (n + 1) / 3600 = n / 3600 by omega,
        show (n + 1) % 3600 = n % 3600 + 1 by omega]
      exact ⟨hfull, rfl⟩
    · rw [if_neg hcarry, show (n + 1) / 3600 = n / 3600 + 1 by omega,
        show (n + 1) % 3600 = 0 by omega, Function.iterate_succ_apply', hfull.next.in_hour_zero]
      exact ⟨hfull.next, rfl⟩

/-- In another hour than its own the alarm does not match. -/
theorem rtc_alarm_other_hour {rtc : Rtc} (n : ℕ)
    (hfixed : rtc.registers rtc_reg_hour_alarm &&& 0xc0 ≠ 0xc0)
    (hother : rtc.registers rtc_reg_hour_alarm ≠ rtc_hour_encode rtc) :
    rtc_alarm_matches (rtc_in_hour rtc n) = false := by
  have hhour : rtc_hour_encode (rtc_in_hour rtc n) = rtc_hour_encode rtc := rfl
  have hregister : (rtc_in_hour rtc n).registers = rtc.registers := rfl
  unfold rtc_alarm_matches
  dsimp only
  rw [hhour, hregister, decide_eq_false hfixed, decide_eq_false hother]
  exact Bool.and_false _

/-- The writes that set the clock to the last Sunday of an April, at midnight, with daylight
saving, and the alarm, alone, to half past two. -/
def rtc_spring_writes : List (U8 × U8) :=
  [(rtc_reg_b, 0x27), (rtc_reg_second, 0), (rtc_reg_minute, 0), (rtc_reg_hour, 0),
    (rtc_reg_day_week, 1), (rtc_reg_day_month, 26), (rtc_reg_month, 4), (rtc_reg_year, 87),
    (rtc_reg_second_alarm, 0), (rtc_reg_minute_alarm, 30), (rtc_reg_hour_alarm, 2)]

/-- A clock just created, with one tick a second. -/
def rtc_one_tick : Rtc :=
  { registers := Function.update (Function.update (Function.update (fun _ => 0) rtc_reg_a 0x26)
      rtc_reg_b rtc_b_24h) rtc_reg_d rtc_d_vrt
    register_count := rtc_default_register_count
    calendar :=
      { second := 0, minute := 0, hour := 0, day_week := 6, day_month := 1, month := 1, year := 0
        second_ticks := 0, periodic_ticks := 0 }
    output := true
    ticks_per_second := 1
    uip_lead_ticks := 1
    update_ticks := 1
    daylight_fallback_done := false }

theorem rtc_one_tick_reachable : RtcReachable rtc_one_tick := by
  have hcreate : rtc_create ⟨1, 1, 1, false⟩ true = .ok rtc_one_tick := rfl
  exact .create hcreate

/-- The clock before the hour that is left out. -/
def rtc_spring : Rtc :=
  rtc_spring_writes.foldl (fun rtc write => (rtc_write_register rtc write.1 write.2).1) rtc_one_tick

theorem rtc_spring_reachable : RtcReachable rtc_spring := by
  have hwrites (writes : List (U8 × U8)) : ∀ rtc, RtcReachable rtc →
      RtcReachable (writes.foldl (fun rtc write => (rtc_write_register rtc write.1 write.2).1)
        rtc) := by
    induction writes with
    | nil => exact fun rtc h => h
    | cons write writes ih => exact fun rtc h => ih _ (.write write.1 write.2 h)
  exact hwrites rtc_spring_writes rtc_one_tick rtc_one_tick_reachable

/-- The alarm of that clock is further off than the prediction looks: it is the twenty-sixth
hour ahead before it matches. -/
theorem rtc_spring_far : RtcAlarmFar rtc_spring := by
  have hfull : FullHour rtc_spring := ⟨by decide +kernel, by decide +kernel⟩
  have hhours : ∀ q < 25,
      (rtc_next_hour^[q] rtc_spring).registers rtc_reg_hour_alarm &&& 0xc0 ≠ 0xc0 ∧
        (rtc_next_hour^[q] rtc_spring).registers rtc_reg_hour_alarm ≠
          rtc_hour_encode (rtc_next_hour^[q] rtc_spring) := by decide +kernel
  have hlast : rtc_alarm_matches (rtc_in_hour (rtc_next_hour^[25] rtc_spring) 0) = false := by
    decide +kernel
  have hmatch : rtc_alarm_matches (rtc_in_hour (rtc_next_hour^[25] rtc_spring) 1800) = true := by
    decide +kernel
  constructor
  case running => decide +kernel
  case enabled => decide +kernel
  case counting => decide +kernel
  case no_update => decide +kernel
  case no_periodic => decide +kernel
  case none_within =>
    rintro ⟨k, hpos, hle, hfound⟩
    have hday : rtc_alarm_seconds = 90000 := rfl
    rw [(rtc_increment_hours hfull k).2] at hfound
    by_cases hbefore : k / 3600 < 25
    · obtain ⟨hfixed, hother⟩ := hhours _ hbefore
      rw [rtc_alarm_other_hour _ hfixed hother] at hfound
      cases hfound
    · rw [show k / 3600 = 25 by omega, show k % 3600 = 0 by omega, hlast] at hfound
      cases hfound
  case later =>
    refine ⟨91800, 91800, by decide, le_rfl, ?_⟩
    rw [(rtc_increment_hours hfull 91800).2]
    exact hmatch

/-- There the prediction answers that no interrupt is scheduled, and the alarm comes. -/
theorem rtc_spring_not_foretold :
    RtcReachable rtc_spring ∧ rtc_spring.reg_c = 0 ∧ ¬ RtcForetold rtc_spring := by
  have hclear : rtc_spring.reg_c = 0 := by decide +kernel
  exact ⟨rtc_spring_reachable, hclear,
    rtc_spring_far.not_foretold rtc_spring_reachable.bounded hclear⟩

/-- Of a clock just created with its update enabled the prediction holds. -/
theorem rtc_prediction_iff_update :
    RtcForetold (rtc_write_register rtc_one_tick rtc_reg_b 0x12).1 :=
  (rtc_prediction_iff (.write rtc_reg_b 0x12 rtc_one_tick_reachable)
    (by decide +kernel)).mpr (not_rtcAlarmFar (by decide +kernel)
      ⟨by decide +kernel, by decide +kernel, by decide +kernel⟩)

end Nxvm.Chips
