/-
The real-time clock (`rtc.h`, `rtc.c` of `rtc146818`).

The registers are the array by its index. What the output provider is told is returned beside
the clock, call by call, as the levels it is given.
-/
import Nxvm.Chips.Words
import Nxvm.Lib.Register
import Nxvm.Machine.Status

set_option autoImplicit false

namespace Nxvm.Chips

open Nxvm.Lib Nxvm.Lib.Register Nxvm.Machine

/-! ## Registers -/

def rtc_register_count : U8 := 0x80
def rtc_default_register_count : U8 := 0x40

def rtc_reg_second : U8 := 0x00
def rtc_reg_second_alarm : U8 := 0x01
def rtc_reg_minute : U8 := 0x02
def rtc_reg_minute_alarm : U8 := 0x03
def rtc_reg_hour : U8 := 0x04
def rtc_reg_hour_alarm : U8 := 0x05
def rtc_reg_day_week : U8 := 0x06
def rtc_reg_day_month : U8 := 0x07
def rtc_reg_month : U8 := 0x08
def rtc_reg_year : U8 := 0x09
def rtc_reg_a : U8 := 0x0a
def rtc_reg_b : U8 := 0x0b
def rtc_reg_c : U8 := 0x0c
def rtc_reg_d : U8 := 0x0d

def rtc_a_uip : U8 := 0x80
def rtc_b_set : U8 := 0x80
def rtc_b_pie : U8 := 0x40
def rtc_b_aie : U8 := 0x20
def rtc_b_uie : U8 := 0x10
def rtc_b_dm : U8 := 0x04
def rtc_b_24h : U8 := 0x02
/-- The daylight saving enable, which the source writes as a number. -/
def rtc_b_dse : U8 := 0x01
def rtc_c_irqf : U8 := 0x80
def rtc_c_pf : U8 := 0x40
def rtc_c_af : U8 := 0x20
def rtc_c_uf : U8 := 0x10
def rtc_d_vrt : U8 := 0x80

/-- `x86_rtc_calendar`. -/
structure RtcCalendar where
  second : U8
  minute : U8
  hour : U8
  day_week : U8
  day_month : U8
  month : U8
  year : U8
  second_ticks : U64
  periodic_ticks : U64
  deriving DecidableEq, Repr

/-- `x86_rtc`; of the output provider, whether there is one. -/
@[ext] structure Rtc where
  registers : U8 → U8
  register_count : U8
  calendar : RtcCalendar
  output : Bool
  ticks_per_second : U32
  uip_lead_ticks : U32
  update_ticks : U32
  daylight_fallback_done : Bool

namespace Rtc

def set_register (rtc : Rtc) (reg value : U8) : Rtc :=
  { rtc with registers := Function.update rtc.registers reg value }

/-- Register C rewritten. -/
def map_c (rtc : Rtc) (f : U8 → U8) : Rtc :=
  rtc.set_register rtc_reg_c (f (rtc.registers rtc_reg_c))

def reg_a (rtc : Rtc) : U8 := rtc.registers rtc_reg_a
def reg_b (rtc : Rtc) : U8 := rtc.registers rtc_reg_b
def reg_c (rtc : Rtc) : U8 := rtc.registers rtc_reg_c

/-- Ticks of a second, as wide as the ticks that are counted. -/
def second_length (rtc : Rtc) : U64 := rtc.ticks_per_second.setWidth 64

end Rtc

/-! ## Encodings -/

/-- `rtc_encode`. -/
def rtc_encode (rtc : Rtc) (value : U8) : U8 :=
  if is_set rtc.reg_b rtc_b_dm then value else ((value / 10) <<< 4) ||| (value % 10)

/-- `rtc_decode`. -/
def rtc_decode (rtc : Rtc) (value : U8) : U8 :=
  if is_set rtc.reg_b rtc_b_dm then value else (value >>> 4) * 10 + (value &&& 0x0f)

/-- `rtc_hour_encode`. -/
def rtc_hour_encode (rtc : Rtc) : U8 :=
  let hour := rtc.calendar.hour
  if is_set rtc.reg_b rtc_b_24h then rtc_encode rtc hour
  else
    let hour := if 12 ≤ hour then hour - 12 else hour
    let hour := if hour = 0 then 12 else hour
    rtc_encode rtc hour ||| (if 12 ≤ rtc.calendar.hour then 0x80 else 0)

/-- `rtc_hour_decode`. -/
def rtc_hour_decode (rtc : Rtc) (value : U8) : U8 :=
  if is_set rtc.reg_b rtc_b_24h then rtc_decode rtc value
  else
    let hour := rtc_decode rtc (value &&& 0x7f)
    let hour := if hour = 12 then 0 else hour
    hour + (if is_set value 0x80 then 12 else 0)

/-! ## Rates -/

/-- `rtc_divider_running`. -/
def rtc_divider_running (rtc : Rtc) : Bool := rtc.reg_a &&& 0x70 ≤ 0x20

/-- `rtc_divider_hz`. -/
def rtc_divider_hz (rtc : Rtc) : U32 :=
  let divider := rtc.reg_a &&& 0x70
  if divider = 0x20 then 32768
  else if divider = 0x10 then 1048576
  else if divider = 0x00 then 4194304
  else 0

/-- `rtc_periodic_hz`. -/
def rtc_periodic_hz (rtc : Rtc) : U32 :=
  let rate := rtc.reg_a &&& 0x0f
  let base := rtc_divider_hz rtc
  if base = 0 ∨ rate = 0 then 0
  else if rate = 1 then if base = 32768 then 256 else 32768
  else if rate = 2 then if base = 32768 then 128 else 16384
  else (32768 : U32) >>> (rate - 1).toNat

/-- `rtc_phase_ticks`. -/
def rtc_phase_ticks (configured ticks_per_second microseconds : U32) : U32 :=
  if configured ≠ 0 then configured
  else
    let converted := ticks_per_second.setWidth 64 * microseconds.setWidth 64 / (1000000 : U64)
    if converted = 0 then 1 else converted.setWidth 32

/-- `rtc_update_ticks`. -/
def rtc_update_ticks (rtc : Rtc) : U32 :=
  rtc_phase_ticks rtc.update_ticks rtc.ticks_per_second
    (if rtc_divider_hz rtc = 32768 then 1984 else 248)

/-! ## The interrupt -/

def rtc_irqf (rtc : Rtc) : Bool := is_set rtc.reg_c rtc_c_irqf

/-- A flag is set that register B enables. -/
def rtc_flag_enabled (flags enable : U8) : Bool :=
  is_set flags rtc_c_pf && is_set enable rtc_b_pie ||
    is_set flags rtc_c_af && is_set enable rtc_b_aie ||
    is_set flags rtc_c_uf && is_set enable rtc_b_uie

/-- `rtc_refresh_irq`, with the levels the output is given. -/
def rtc_refresh_irq (rtc : Rtc) : Rtc × List Bool :=
  let was_asserted := rtc_irqf rtc
  let next := rtc.map_c fun flags =>
    if rtc_flag_enabled rtc.reg_c rtc.reg_b then flags ||| rtc_c_irqf else flags &&& ~~~rtc_c_irqf
  (next, if rtc.output && was_asserted != rtc_irqf next then [!was_asserted] else [])

/-! ## The calendar -/

/-- `rtc_days_in_month`. -/
def rtc_days_in_month (calendar : RtcCalendar) : U8 :=
  let leap : U8 := if calendar.year &&& 3 = 0 then 1 else 0
  -- a month that is none keeps its value and has 31 days
  if calendar.month < 1 ∨ 12 < calendar.month then 31
  else if calendar.month = 2 then 28 + leap
  else if calendar.month = 4 ∨ calendar.month = 6 ∨ calendar.month = 9 ∨ calendar.month = 11 then 30
  else 31

/-- The hour after the carry of `rtc_increment_second`, with its daylight saving. -/
def rtc_shift_hour (rtc : Rtc) : Rtc :=
  let calendar := rtc.calendar
  if is_set rtc.reg_b rtc_b_dse ∧ calendar.hour = 2 ∧ calendar.day_week = 1 then
    if calendar.month = 4 ∧ 24 ≤ calendar.day_month then
      { rtc with calendar := { calendar with hour := 3 } }
    else if calendar.month = 10 ∧ 25 ≤ calendar.day_month ∧ !rtc.daylight_fallback_done then
      { rtc with calendar := { calendar with hour := 1 }, daylight_fallback_done := true }
    else rtc
  else rtc

/-- The day of `rtc_increment_second`. -/
def rtc_next_day (rtc : Rtc) : Rtc :=
  let calendar := { rtc.calendar with
    hour := 0
    day_week := if rtc.calendar.day_week = 7 then 1 else rtc.calendar.day_week + 1
    day_month := rtc.calendar.day_month + 1 }
  let rtc := { rtc with daylight_fallback_done := false }
  if calendar.day_month ≤ rtc_days_in_month calendar then { rtc with calendar }
  else
    let calendar := { calendar with day_month := 1, month := calendar.month + 1 }
    if calendar.month ≤ 12 then { rtc with calendar }
    else { rtc with calendar := { calendar with
      month := 1
      year := if calendar.year = 99 then 0 else calendar.year + 1 } }

/-- The hour of `rtc_increment_second`. -/
def rtc_next_hour (rtc : Rtc) : Rtc :=
  let rtc := rtc_shift_hour { rtc with calendar := { rtc.calendar with
    hour := rtc.calendar.hour + 1 } }
  if rtc.calendar.hour < 24 then rtc else rtc_next_day rtc

/-- The minute of `rtc_increment_second`. -/
def rtc_next_minute (rtc : Rtc) : Rtc :=
  let minute := rtc.calendar.minute + 1
  if minute < 60 then { rtc with calendar := { rtc.calendar with minute } }
  else rtc_next_hour { rtc with calendar := { rtc.calendar with minute := 0 } }

/-- `rtc_increment_second`. -/
def rtc_increment_second (rtc : Rtc) : Rtc :=
  let second := rtc.calendar.second + 1
  if second < 60 then { rtc with calendar := { rtc.calendar with second } }
  else rtc_next_minute { rtc with calendar := { rtc.calendar with second := 0 } }

/-- `rtc_alarm_matches`. -/
def rtc_alarm_matches (rtc : Rtc) : Bool :=
  let second := rtc.registers rtc_reg_second_alarm
  let minute := rtc.registers rtc_reg_minute_alarm
  let hour := rtc.registers rtc_reg_hour_alarm
  (second &&& 0xc0 = 0xc0 || second = rtc_encode rtc rtc.calendar.second) &&
    (minute &&& 0xc0 = 0xc0 || minute = rtc_encode rtc rtc.calendar.minute) &&
    (hour &&& 0xc0 = 0xc0 || hour = rtc_hour_encode rtc)

/-! ## Time -/

/-- A second of `x86_rtc_advance`. -/
def rtc_pass_second (rtc : Rtc) : Rtc :=
  let rtc := (rtc_increment_second rtc).map_c (· ||| rtc_c_uf)
  if rtc_alarm_matches rtc then rtc.map_c (· ||| rtc_c_af) else rtc

/-- The periodic edges of `x86_rtc_advance`. -/
def rtc_advance_periodic (rtc : Rtc) (elapsed_ticks : U64) : Rtc :=
  let periodic_hz := (rtc_periodic_hz rtc).setWidth 64
  let seconds := elapsed_ticks / rtc.second_length
  let phase := rtc.calendar.periodic_ticks + elapsed_ticks % rtc.second_length
  let edges := phase * periodic_hz / rtc.second_length -
    rtc.calendar.periodic_ticks * periodic_hz / rtc.second_length
  let rtc' := { rtc with calendar := { rtc.calendar with
    periodic_ticks := phase % rtc.second_length } }
  if periodic_hz ≠ 0 ∧ (seconds ≠ 0 ∨ edges ≠ 0) then rtc'.map_c (· ||| rtc_c_pf) else rtc'

/-- The seconds of `x86_rtc_advance`. -/
def rtc_advance_seconds (rtc : Rtc) (elapsed_ticks : U64) : Rtc :=
  let phase := rtc.calendar.second_ticks + elapsed_ticks % rtc.second_length
  let seconds := elapsed_ticks / rtc.second_length + phase / rtc.second_length
  let seconds := if is_set rtc.reg_b rtc_b_set then 0 else seconds
  rtc_pass_second^[seconds.toNat] { rtc with calendar := { rtc.calendar with
    second_ticks := phase % rtc.second_length } }

/-- `x86_rtc_advance`. -/
def rtc_advance (rtc : Rtc) (elapsed_ticks : U64) : Rtc × List Bool :=
  if elapsed_ticks = 0 ∨ !rtc_divider_running rtc then (rtc, [])
  else rtc_refresh_irq (rtc_advance_seconds (rtc_advance_periodic rtc elapsed_ticks) elapsed_ticks)

/-! ## The next interrupt -/

/-- The search of `rtc_ticks_until_alarm`, for so many seconds from `second` on. -/
def rtc_find_alarm (candidate : Rtc) (second : ℕ) : ℕ → Option ℕ
  | 0 => none
  | left + 1 =>
    let candidate := rtc_increment_second candidate
    if rtc_alarm_matches candidate then some second
    else rtc_find_alarm candidate (second + 1) left

/-- The seconds of a day that has the autumn's hour twice. -/
def rtc_alarm_seconds : ℕ := 25 * 60 * 60

/-- The ticks of `rtc_ticks_until_alarm`, with what its search finds. -/
def rtc_alarm_ticks (rtc : Rtc) : Option ℕ → Except Status U64
  | none => .error .invalid_state
  | some second =>
    let ticks := rtc.second_length - rtc.calendar.second_ticks
    let whole : U64 := BitVec.ofNat 64 second - 1
    if (BitVec.allOnes 64 - ticks) / rtc.second_length < whole then .error .invalid_state
    else .ok (ticks + whole * rtc.second_length)

/-- `rtc_ticks_until_alarm`. -/
def rtc_ticks_until_alarm (rtc : Rtc) : Except Status U64 :=
  if rtc.ticks_per_second = 0 ∨ rtc.second_length ≤ rtc.calendar.second_ticks then
    .error .invalid_argument
  else rtc_alarm_ticks rtc (rtc_find_alarm rtc 1 rtc_alarm_seconds)

/-- The periodic part of `x86_rtc_ticks_until_irq`. -/
def rtc_ticks_until_edge (rtc : Rtc) : U64 :=
  let periodic_hz := (rtc_periodic_hz rtc).setWidth 64
  let remaining := rtc.second_length -
    rtc.calendar.periodic_ticks * periodic_hz % rtc.second_length
  remaining / periodic_hz + (if remaining % periodic_hz ≠ 0 then 1 else 0)

/-- `x86_rtc_ticks_until_irq`. -/
def rtc_ticks_until_irq (rtc : Rtc) : Except Status U64 :=
  if !rtc_divider_running rtc then .error .invalid_state
  else
    let enable := rtc.reg_b
    let ticks := if is_set enable rtc_b_pie ∧ rtc_periodic_hz rtc ≠ 0 then rtc_ticks_until_edge rtc
      else BitVec.allOnes 64
    let update := rtc.second_length - rtc.calendar.second_ticks
    let ticks := if is_set enable rtc_b_uie ∧ !is_set enable rtc_b_set ∧ update < ticks then update
      else ticks
    let ticks := if is_set enable rtc_b_aie ∧ !is_set enable rtc_b_set then
        match rtc_ticks_until_alarm rtc with
        | .ok update => if update < ticks then update else ticks
        | .error _ => ticks
      else ticks
    if ticks = BitVec.allOnes 64 ∨ ticks = 0 then .error .invalid_state else .ok ticks

/-! ## Register accesses -/

/-- `rtc_uip_active`. -/
def rtc_uip_active (rtc : Rtc) : Bool :=
  let window := rtc.uip_lead_ticks.setWidth 64 + (rtc_update_ticks rtc).setWidth 64
  rtc_divider_running rtc && !is_set rtc.reg_b rtc_b_set && window < rtc.second_length &&
    rtc.second_length - window ≤ rtc.calendar.second_ticks

/-- `x86_rtc_read_register`. -/
def rtc_read_register (rtc : Rtc) (reg : U8) : U8 × Rtc × List Bool :=
  if rtc.register_count ≤ reg then (0, rtc, [])
  else if reg = rtc_reg_second then (rtc_encode rtc rtc.calendar.second, rtc, [])
  else if reg = rtc_reg_minute then (rtc_encode rtc rtc.calendar.minute, rtc, [])
  else if reg = rtc_reg_hour then (rtc_hour_encode rtc, rtc, [])
  else if reg = rtc_reg_day_week then (rtc_encode rtc rtc.calendar.day_week, rtc, [])
  else if reg = rtc_reg_day_month then (rtc_encode rtc rtc.calendar.day_month, rtc, [])
  else if reg = rtc_reg_month then (rtc_encode rtc rtc.calendar.month, rtc, [])
  else if reg = rtc_reg_year then (rtc_encode rtc rtc.calendar.year, rtc, [])
  else if reg = rtc_reg_a then
    (rtc.reg_a ||| (if rtc_uip_active rtc then rtc_a_uip else 0), rtc, [])
  else if reg = rtc_reg_c then
    (rtc.reg_c, rtc.set_register rtc_reg_c 0,
      if rtc_irqf rtc && rtc.output then [false] else [])
  else (rtc.registers reg, rtc, [])

/-- A write of register A. -/
def rtc_write_a (rtc : Rtc) (value : U8) : Rtc :=
  let was_reset := rtc.reg_a &&& 0x60 = 0x60
  let rtc := rtc.set_register rtc_reg_a (value &&& 0x7f)
  if !rtc_divider_running rtc then
    { rtc with calendar := { rtc.calendar with second_ticks := 0, periodic_ticks := 0 } }
  else if was_reset then
    let completion := rtc.second_length / 2 + (rtc_update_ticks rtc).setWidth 64
    { rtc with calendar := { rtc.calendar with
      second_ticks := if completion < rtc.second_length then rtc.second_length - completion
        else 0 } }
  else rtc

/-- The register of `x86_rtc_write_register`, before the interrupt is refreshed. -/
def rtc_store_register (rtc : Rtc) (reg value : U8) : Rtc :=
  let calendar := rtc.calendar
  if reg = rtc_reg_second then
    { rtc with calendar := { calendar with second := rtc_decode rtc (value &&& 0x7f) } }
  else if reg = rtc_reg_minute then
    { rtc with calendar := { calendar with minute := rtc_decode rtc value } }
  else if reg = rtc_reg_hour then
    { rtc with calendar := { calendar with hour := rtc_hour_decode rtc value } }
  else if reg = rtc_reg_day_week then
    { rtc with calendar := { calendar with day_week := rtc_decode rtc value } }
  else if reg = rtc_reg_day_month then
    { rtc with calendar := { calendar with day_month := rtc_decode rtc value } }
  else if reg = rtc_reg_month then
    { rtc with calendar := { calendar with month := rtc_decode rtc value } }
  else if reg = rtc_reg_year then
    { rtc with calendar := { calendar with year := rtc_decode rtc value } }
  else if reg = rtc_reg_a then rtc_write_a rtc value
  else if reg = rtc_reg_b then
    rtc.set_register reg (if is_set value rtc_b_set then value &&& ~~~rtc_b_uie else value)
  else if reg = rtc_reg_c ∨ reg = rtc_reg_d then rtc
  else rtc.set_register reg value

/-- `x86_rtc_write_register`. -/
def rtc_write_register (rtc : Rtc) (reg value : U8) : Rtc × List Bool :=
  if rtc.register_count ≤ reg then (rtc, [])
  else
    let moves_date := reg = rtc_reg_hour ∨ reg = rtc_reg_day_week ∨ reg = rtc_reg_day_month ∨
      reg = rtc_reg_month ∨ reg = rtc_reg_year
    let rtc := if moves_date then { rtc with daylight_fallback_done := false } else rtc
    rtc_refresh_irq (rtc_store_register rtc reg value)

/-- `x86_rtc_config`. -/
structure RtcConfig where
  ticks_per_second : U32
  uip_lead_ticks : U32
  update_ticks : U32
  extended_registers : Bool

/-- `x86_rtc_create`, where the allocation succeeds. -/
def rtc_create (config : RtcConfig) (output : Bool) : Except Status Rtc :=
  if config.ticks_per_second = 0 then .error .invalid_argument
  else .ok
    { registers := Function.update (Function.update (Function.update (fun _ => 0) rtc_reg_a 0x26)
        rtc_reg_b rtc_b_24h) rtc_reg_d rtc_d_vrt
      register_count :=
        if config.extended_registers then rtc_register_count else rtc_default_register_count
      calendar :=
        { second := 0, minute := 0, hour := 0, day_week := 6, day_month := 1, month := 1, year := 0
          second_ticks := 0, periodic_ticks := 0 }
      output
      ticks_per_second := config.ticks_per_second
      uip_lead_ticks := rtc_phase_ticks config.uip_lead_ticks config.ticks_per_second 244
      update_ticks := config.update_ticks
      daylight_fallback_done := false }

/-- `x86_rtc_reset`. -/
def rtc_reset (rtc : Rtc) : Rtc × List Bool :=
  let rtc := rtc.set_register rtc_reg_b
    (rtc.reg_b &&& (rtc_b_set ||| rtc_b_dm ||| rtc_b_24h ||| rtc_b_dse))
  let (_, rtc, calls) := rtc_read_register rtc rtc_reg_c
  (rtc.set_register rtc_reg_d rtc_d_vrt, calls)

end Nxvm.Chips
