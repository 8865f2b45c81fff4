/-
The prediction of the real-time clock (`x86_rtc_ticks_until_irq`).

Three sources may interrupt: a periodic edge, a completed second, and a second at which the alarm
matches. Each is due at a number of ticks and from there on for good; the prediction is the least
of those that register B enables. The alarm is looked for through a day of twenty-five hours
only.
-/
import Nxvm.Chips.RtcAdvance

set_option autoImplicit false

namespace Nxvm.Chips

open Nxvm.Lib Nxvm.Lib.Register Nxvm.Machine

/-! ## The seconds ahead -/

/-- The alarm matches at one of the next seconds. -/
def AlarmWithin (rtc : Rtc) (n : ℕ) : Prop :=
  ∃ k, 0 < k ∧ k ≤ n ∧ rtc_alarm_matches (rtc_increment_second^[k] rtc) = true

theorem alarmWithin_succ (rtc : Rtc) (n : ℕ) :
    AlarmWithin rtc (n + 1) ↔
      AlarmWithin rtc n ∨ rtc_alarm_matches (rtc_increment_second^[n + 1] rtc) = true := by
  constructor
  · rintro ⟨k, hpos, hle, hmatch⟩
    by_cases hlast : k = n + 1
    · rw [hlast] at hmatch
      exact Or.inr hmatch
    · exact Or.inl ⟨k, hpos, by omega, hmatch⟩
  · rintro (⟨k, hpos, hle, hmatch⟩ | hmatch)
    · exact ⟨k, hpos, by omega, hmatch⟩
    · exact ⟨n + 1, by omega, le_rfl, hmatch⟩

theorem rtc_increment_second_phases (rtc : Rtc) :
    (rtc_increment_second rtc).calendar.second_ticks = rtc.calendar.second_ticks ∧
      (rtc_increment_second rtc).calendar.periodic_ticks = rtc.calendar.periodic_ticks := by
  have hsame : rtc.mark id rtc.calendar.second_ticks rtc.calendar.periodic_ticks = rtc := by
    unfold Rtc.mark Rtc.map_c Rtc.set_register
    rw [id_eq, Function.update_eq_self]
  have hmark := rtc_increment_second_mark rtc id rtc.calendar.second_ticks
    rtc.calendar.periodic_ticks
  rw [hsame] at hmark
  constructor
  · rw [hmark]
    rfl
  · rw [hmark]
    rfl

theorem rtc_increment_second_map_c (rtc : Rtc) (f : U8 → U8) :
    rtc_increment_second (rtc.map_c f) = (rtc_increment_second rtc).map_c f := by
  obtain ⟨hs, hp⟩ := rtc_increment_second_phases rtc
  have hmark : rtc_increment_second (rtc.map_c f) =
      (rtc_increment_second rtc).mark f rtc.calendar.second_ticks rtc.calendar.periodic_ticks :=
    rtc_increment_second_mark rtc f rtc.calendar.second_ticks rtc.calendar.periodic_ticks
  rw [hmark, ← hs, ← hp]
  rfl

/-- The flags of a second, with or without a match. -/
def second_flags (matched : Bool) (flags : U8) : U8 :=
  if matched then flags ||| rtc_c_uf ||| rtc_c_af else flags ||| rtc_c_uf

theorem rtc_pass_second_eq (rtc : Rtc) :
    rtc_pass_second rtc = (rtc_increment_second rtc).map_c
      (second_flags (rtc_alarm_matches (rtc_increment_second rtc))) := by
  have hmatches : rtc_alarm_matches ((rtc_increment_second rtc).map_c (· ||| rtc_c_uf)) =
      rtc_alarm_matches (rtc_increment_second rtc) := rfl
  unfold rtc_pass_second second_flags
  dsimp only
  rw [hmatches]
  by_cases h : rtc_alarm_matches (rtc_increment_second rtc) = true
  · simp only [if_pos h]
    exact Rtc.map_c_map_c _ _ _
  · simp only [if_neg h]

/-- The flags that so many seconds set. -/
def passed_flags (rtc : Rtc) : ℕ → U8 → U8
  | 0, flags => flags
  | n + 1, flags =>
    second_flags (rtc_alarm_matches (rtc_increment_second^[n + 1] rtc)) (passed_flags rtc n flags)

/-- Seconds that pass are seconds of the calendar, and their flags. -/
theorem rtc_pass_seconds_eq (rtc : Rtc) (n : ℕ) :
    rtc_pass_second^[n] rtc = (rtc_increment_second^[n] rtc).map_c (passed_flags rtc n) := by
  induction n with
  | zero =>
    unfold Rtc.map_c Rtc.set_register passed_flags
    rw [Function.update_eq_self]
    rfl
  | succ n ih =>
    rw [Function.iterate_succ_apply', ih, rtc_pass_second_eq, rtc_increment_second_map_c,
      Rtc.map_c_map_c, ← Function.iterate_succ_apply' rtc_increment_second n rtc]
    rfl

theorem rtc_increment_seconds_same (n : ℕ) (rtc : Rtc) :
    RtcSameSettings rtc (rtc_increment_second^[n] rtc) := by
  induction n with
  | zero => exact .refl rtc
  | succ n ih =>
    rw [Function.iterate_succ_apply']
    exact ih.trans (rtc_increment_second_same _)

theorem rtc_increment_seconds_reg_c (n : ℕ) (rtc : Rtc) :
    (rtc_increment_second^[n] rtc).reg_c = rtc.reg_c := by
  induction n with
  | zero => rfl
  | succ n ih => rw [Function.iterate_succ_apply', rtc_increment_second_reg_c, ih]

/-- A second sets its flag, and the alarm's where it matches. -/
theorem second_flags_set (matched : Bool) (flags : U8) :
    is_set (second_flags matched flags) rtc_c_pf = is_set flags rtc_c_pf ∧
      is_set (second_flags matched flags) rtc_c_uf = true ∧
      is_set (second_flags matched flags) rtc_c_af = (is_set flags rtc_c_af || matched) := by
  revert matched flags
  decide

theorem passed_flags_set (rtc : Rtc) (flags : U8) (n : ℕ) :
    is_set (passed_flags rtc n flags) rtc_c_pf = is_set flags rtc_c_pf ∧
      (is_set (passed_flags rtc n flags) rtc_c_uf = true ↔
        is_set flags rtc_c_uf = true ∨ 0 < n) ∧
      (is_set (passed_flags rtc n flags) rtc_c_af = true ↔
        is_set flags rtc_c_af = true ∨ AlarmWithin rtc n) := by
  induction n with
  | zero =>
    refine ⟨rfl, ?_, ?_⟩
    · exact ⟨Or.inl, fun h => h.resolve_right (Nat.lt_irrefl 0)⟩
    · refine ⟨Or.inl, fun h => h.resolve_right ?_⟩
      rintro ⟨k, hpos, hle, -⟩
      omega
  | succ n ih =>
    obtain ⟨hpf, huf, haf⟩ := ih
    obtain ⟨hpf', huf', haf'⟩ := second_flags_set
      (rtc_alarm_matches (rtc_increment_second^[n + 1] rtc)) (passed_flags rtc n flags)
    refine ⟨hpf'.trans hpf, ?_, ?_⟩
    · exact iff_of_true huf' (Or.inr (Nat.succ_pos n))
    · rw [passed_flags, haf', Bool.or_eq_true, haf, alarmWithin_succ, or_assoc]

/-! ## What is due -/

/-- After so many ticks a flag is set that register B enables. -/
def RtcDue (rtc : Rtc) (n : ℕ) : Prop :=
  (is_set rtc.reg_b rtc_b_pie = true ∧ 0 < rtc_edges rtc n ∨
      is_set rtc.reg_b rtc_b_uie = true ∧ 0 < rtc_seconds rtc n) ∨
    is_set rtc.reg_b rtc_b_aie = true ∧ AlarmWithin rtc (rtc_seconds rtc n)

theorem set_pf_if_set (edges : ℕ) (flags : U8) :
    (is_set (set_pf_if edges flags) rtc_c_pf = true ↔
        is_set flags rtc_c_pf = true ∨ 0 < edges) ∧
      is_set (set_pf_if edges flags) rtc_c_uf = is_set flags rtc_c_uf ∧
      is_set (set_pf_if edges flags) rtc_c_af = is_set flags rtc_c_af := by
  have hor : ∀ flags : U8, is_set (flags ||| rtc_c_pf) rtc_c_pf = true ∧
      is_set (flags ||| rtc_c_pf) rtc_c_uf = is_set flags rtc_c_uf ∧
      is_set (flags ||| rtc_c_pf) rtc_c_af = is_set flags rtc_c_af := by decide
  unfold set_pf_if
  by_cases h : 0 < edges
  · rw [if_pos h]
    exact ⟨iff_of_true (hor flags).1 (Or.inr h), (hor flags).2⟩
  · rw [if_neg h]
    exact ⟨⟨Or.inl, fun h' => h'.resolve_right h⟩, rfl, rfl⟩

/-- From a clear register C, the flags of the ticks are what is due. -/
theorem rtc_flag_enabled_elapse {rtc : Rtc} (hclear : rtc.reg_c = 0) (n : ℕ) :
    rtc_flag_enabled (rtc_elapse rtc n).reg_c rtc.reg_b = true ↔ RtcDue rtc n := by
  have hflags : (rtc_elapse rtc n).reg_c =
      set_pf_if (rtc_edges rtc n) (passed_flags rtc (rtc_seconds rtc n) 0) := by
    unfold rtc_elapse
    rw [Rtc.mark_reg_c, rtc_pass_seconds_eq, Rtc.map_c_reg_c, rtc_increment_seconds_reg_c, hclear]
  obtain ⟨hpf, huf, haf⟩ := set_pf_if_set (rtc_edges rtc n)
    (passed_flags rtc (rtc_seconds rtc n) 0)
  obtain ⟨hpf', huf', haf'⟩ := passed_flags_set rtc 0 (rtc_seconds rtc n)
  rw [is_set_zero] at hpf' huf' haf'
  unfold rtc_flag_enabled RtcDue
  rw [hflags, Bool.or_eq_true, Bool.or_eq_true, Bool.and_eq_true, Bool.and_eq_true,
    Bool.and_eq_true, hpf, huf, haf, hpf', huf', haf']
  simp only [Bool.false_eq_true, false_or]
  rw [or_right_comm, and_comm, @and_comm (AlarmWithin _ _), @and_comm (0 < rtc_seconds _ _)]

theorem rtc_edges_pos_iff {rtc : Rtc} (h : RtcBounded rtc) (hhz : rtc_periodic_hz rtc ≠ 0) (n : ℕ) :
    0 < rtc_edges rtc n ↔ Rate.needed (rtc_periodic_hz rtc).toNat rtc.second_length.toNat
      (rtc_periodic_phase rtc) 1 ≤ n := by
  have hpos : 0 < (rtc_periodic_hz rtc).toNat :=
    Nat.pos_of_ne_zero (BitVec.toNat_ne_iff_ne.mpr hhz)
  exact Rate.le_delivered_iff hpos h.length_pos _ 1 n

/-- Without a rate there are no edges. -/
theorem rtc_edges_eq_zero {rtc : Rtc} (hhz : rtc_periodic_hz rtc = 0) (n : ℕ) :
    rtc_edges rtc n = 0 := by
  have hzero : (0 : U32).toNat = 0 := rfl
  unfold rtc_edges rtc_periodic_phase Rate.delivered
  rw [hhz, hzero, Nat.mul_zero, Nat.mul_zero, Nat.zero_mod, Nat.zero_add, Nat.zero_div]

/-- So many seconds are complete exactly from their last tick on. -/
theorem le_rtc_seconds_iff {rtc : Rtc} (h : RtcBounded rtc)
    (hset : is_set rtc.reg_b rtc_b_set = false) {k : ℕ} (n : ℕ) :
    k ≤ rtc_seconds rtc n ↔
      k * rtc.second_length.toNat - rtc.calendar.second_ticks.toNat ≤ n := by
  unfold rtc_seconds
  rw [if_neg (by rw [hset]; exact Bool.false_ne_true), Nat.le_div_iff_mul_le h.length_pos]
  omega

theorem rtc_seconds_eq_zero {rtc : Rtc} (hset : is_set rtc.reg_b rtc_b_set = true) (n : ℕ) :
    rtc_seconds rtc n = 0 :=
  if_pos hset

/-! ## The three predictions -/

/-- The search finds the first match, if there is one in its seconds. -/
theorem rtc_find_alarm_spec (rtc : Rtc) (left : ℕ) :
    ∀ passed, match rtc_find_alarm (rtc_increment_second^[passed] rtc) (passed + 1) left with
      | some second => passed < second ∧ second ≤ passed + left ∧
          rtc_alarm_matches (rtc_increment_second^[second] rtc) = true ∧
          ∀ k, passed < k → k < second →
            rtc_alarm_matches (rtc_increment_second^[k] rtc) = false
      | none => ∀ k, passed < k → k ≤ passed + left →
          rtc_alarm_matches (rtc_increment_second^[k] rtc) = false := by
  induction left with
  | zero =>
    intro passed k hk hle
    omega
  | succ left ih =>
    intro passed
    have hnext := ih (passed + 1)
    rw [rtc_find_alarm, ← Function.iterate_succ_apply' rtc_increment_second passed rtc]
    by_cases hmatch : rtc_alarm_matches (rtc_increment_second^[passed + 1] rtc) = true
    · rw [if_pos hmatch]
      exact ⟨by omega, by omega, hmatch, fun k hk hlt => by omega⟩
    · rw [Bool.not_eq_true] at hmatch
      rw [if_neg (by rw [hmatch]; exact Bool.false_ne_true)]
      -- the second passed over does not match
      have hover (k : ℕ) (hk : passed < k) (hrest : passed + 1 < k →
          rtc_alarm_matches (rtc_increment_second^[k] rtc) = false) :
          rtc_alarm_matches (rtc_increment_second^[k] rtc) = false := by
        by_cases hfirst : k = passed + 1
        · rw [hfirst]
          exact hmatch
        · exact hrest (by omega)
      cases hfind : rtc_find_alarm (rtc_increment_second^[passed + 1] rtc) (passed + 1 + 1)
        left with
      | some second =>
        rw [hfind] at hnext
        obtain ⟨hlt, hle, hfound, hnone⟩ := hnext
        exact ⟨by omega, by omega, hfound, fun k hk hbelow =>
          hover k hk fun hlater => hnone k hlater hbelow⟩
      | none =>
        rw [hfind] at hnext
        exact fun k hk hle => hover k hk fun hlater => hnext k hlater (by omega)

/-- The first second at which the alarm matches. -/
def FirstAlarm (rtc : Rtc) (second : ℕ) : Prop :=
  0 < second ∧ rtc_alarm_matches (rtc_increment_second^[second] rtc) = true ∧
    ∀ k, 0 < k → k < second → rtc_alarm_matches (rtc_increment_second^[k] rtc) = false

/-- The alarm has matched exactly from its first match on. -/
theorem FirstAlarm.within_iff {rtc : Rtc} {second : ℕ} (h : FirstAlarm rtc second) (n : ℕ) :
    AlarmWithin rtc n ↔ second ≤ n := by
  obtain ⟨hpos, hmatch, hbefore⟩ := h
  constructor
  · rintro ⟨k, hk, hle, hfound⟩
    by_contra hlt
    rw [hbefore k hk (by omega)] at hfound
    cases hfound
  · intro hle
    exact ⟨second, hpos, hle, hmatch⟩

theorem rtc_find_alarm_some {rtc : Rtc} {left second : ℕ}
    (h : rtc_find_alarm rtc 1 left = some second) : FirstAlarm rtc second ∧ second ≤ left := by
  have hspec := rtc_find_alarm_spec rtc left 0
  rw [Function.iterate_zero_apply, h] at hspec
  obtain ⟨hpos, hle, hmatch, hbefore⟩ := hspec
  exact ⟨⟨hpos, hmatch, hbefore⟩, by omega⟩

theorem rtc_find_alarm_none {rtc : Rtc} {left : ℕ} (h : rtc_find_alarm rtc 1 left = none) :
    ¬ AlarmWithin rtc left := by
  have hspec := rtc_find_alarm_spec rtc left 0
  rw [Function.iterate_zero_apply, h] at hspec
  rintro ⟨k, hpos, hle, hmatch⟩
  rw [hspec k hpos (by omega)] at hmatch
  cases hmatch

/-- The ticks up to a second's completion. -/
def rtc_ticks_to (rtc : Rtc) (second : ℕ) : ℕ :=
  second * rtc.second_length.toNat - rtc.calendar.second_ticks.toNat

theorem rtc_update_toNat {rtc : Rtc} (h : RtcBounded rtc) :
    (rtc.second_length - rtc.calendar.second_ticks).toNat = rtc_ticks_to rtc 1 := by
  rw [BitVec.toNat_sub_of_le (BitVec.le_def.mpr (Nat.le_of_lt h.second_lt)), rtc_ticks_to,
    Nat.one_mul]

/-- The ticks to a second of the search, as they are counted: nothing wraps. -/
theorem rtc_alarm_ticks_toNat {rtc : Rtc} (h : RtcBounded rtc) {second : ℕ} (hpos : 0 < second)
    (hle : second ≤ 2 ^ 17) :
    ¬ (BitVec.allOnes 64 - (rtc.second_length - rtc.calendar.second_ticks)) / rtc.second_length <
        BitVec.ofNat 64 second - 1 ∧
      (rtc.second_length - rtc.calendar.second_ticks +
        (BitVec.ofNat 64 second - 1) * rtc.second_length).toNat = rtc_ticks_to rtc second := by
  have hlen := second_length_lt rtc
  have hst := h.second_lt
  have hupdate := rtc_update_toNat h
  rw [rtc_ticks_to, Nat.one_mul] at hupdate
  have hwhole : (BitVec.ofNat 64 second - 1 : U64).toNat = second - 1 := by
    have hone : (1 : U64).toNat = 1 := rfl
    have hsecond : (BitVec.ofNat 64 second).toNat = second := by
      rw [BitVec.toNat_ofNat]
      exact Nat.mod_eq_of_lt (by omega)
    rw [BitVec.toNat_sub_of_le (by rw [BitVec.le_def, hsecond, hone]; omega), hsecond, hone]
  have hproduct : (second - 1) * rtc.second_length.toNat ≤ 2 ^ 17 * 2 ^ 32 :=
    Nat.mul_le_mul (by omega) (Nat.le_of_lt hlen)
  have hall : (BitVec.allOnes 64 - (rtc.second_length - rtc.calendar.second_ticks)).toNat =
      2 ^ 64 - 1 - (rtc.second_length.toNat - rtc.calendar.second_ticks.toNat) := by
    have hones : (BitVec.allOnes 64).toNat = 2 ^ 64 - 1 := BitVec.toNat_allOnes
    rw [BitVec.toNat_sub_of_le (by rw [BitVec.le_def, hones, hupdate]; omega), hones, hupdate]
  constructor
  · rw [BitVec.lt_def, BitVec.toNat_udiv, hwhole, hall, Nat.not_lt,
      Nat.le_div_iff_mul_le h.length_pos]
    omega
  · have hsum : rtc.second_length.toNat - rtc.calendar.second_ticks.toNat +
        (second - 1) * rtc.second_length.toNat = rtc_ticks_to rtc second := by
      obtain ⟨k, rfl⟩ := Nat.exists_eq_succ_of_ne_zero (Nat.ne_of_gt hpos)
      rw [rtc_ticks_to, Nat.succ_sub_one, Nat.succ_mul]
      omega
    rw [BitVec.toNat_add, BitVec.toNat_mul, hwhole, hupdate,
      Nat.mod_eq_of_lt (show (second - 1) * rtc.second_length.toNat < 2 ^ 64 by omega), ← hsum]
    exact Nat.mod_eq_of_lt (by omega)

/-- Ticks that reach the alarm, or none because it does not match for so many seconds. -/
def AlarmAnswer (rtc : Rtc) (seconds : ℕ) : Except Status U64 → Prop
  | .ok ticks => ∃ second, FirstAlarm rtc second ∧ second ≤ seconds ∧
      ticks.toNat = rtc_ticks_to rtc second
  | .error _ => ¬ AlarmWithin rtc seconds

theorem rtc_alarm_ticks_spec {rtc : Rtc} (h : RtcBounded rtc) {seconds : ℕ}
    (hle : seconds ≤ 2 ^ 17) :
    AlarmAnswer rtc seconds (rtc_alarm_ticks rtc (rtc_find_alarm rtc 1 seconds)) := by
  cases hfind : rtc_find_alarm rtc 1 seconds with
  | none => exact rtc_find_alarm_none hfind
  | some second =>
    obtain ⟨hfirst, hwithin⟩ := rtc_find_alarm_some hfind
    obtain ⟨hfits, hticks⟩ := rtc_alarm_ticks_toNat h hfirst.1 (hwithin.trans hle)
    rw [rtc_alarm_ticks, if_neg hfits]
    exact ⟨second, hfirst, hwithin, hticks⟩

theorem rtc_ticks_until_alarm_spec {rtc : Rtc} (h : RtcBounded rtc) :
    AlarmAnswer rtc rtc_alarm_seconds (rtc_ticks_until_alarm rtc) := by
  have hvalid : ¬ (rtc.ticks_per_second = 0 ∨ rtc.second_length ≤ rtc.calendar.second_ticks) := by
    rintro (hzero | hle)
    · have hpos := h.length_pos
      rw [Rtc.second_length, hzero] at hpos
      exact absurd hpos (by decide)
    · rw [BitVec.le_def] at hle
      have hst := h.second_lt
      omega
  rw [rtc_ticks_until_alarm, if_neg hvalid]
  exact rtc_alarm_ticks_spec h (by decide)

/-- The ticks until the next periodic edge, as they are counted. -/
theorem rtc_ticks_until_edge_toNat {rtc : Rtc} (h : RtcBounded rtc)
    (hhz : rtc_periodic_hz rtc ≠ 0) :
    (rtc_ticks_until_edge rtc).toNat = Rate.needed (rtc_periodic_hz rtc).toNat
      rtc.second_length.toNat (rtc_periodic_phase rtc) 1 := by
  have hlen := second_length_lt rtc
  have hlepos := h.length_pos
  have hp := h.periodic_lt
  have hle := rtc_periodic_hz_le rtc
  have hpos : 0 < (rtc_periodic_hz rtc).toNat :=
    Nat.pos_of_ne_zero (BitVec.toNat_ne_iff_ne.mpr hhz)
  have hwide : ((rtc_periodic_hz rtc).setWidth 64).toNat = (rtc_periodic_hz rtc).toNat := by
    rw [BitVec.toNat_setWidth]
    exact Nat.mod_eq_of_lt (by omega)
  have hphase : (rtc.calendar.periodic_ticks * (rtc_periodic_hz rtc).setWidth 64 %
      rtc.second_length).toNat = rtc_periodic_phase rtc := by
    rw [BitVec.toNat_umod, rtc_product_toNat (by omega)]
    rfl
  have hlt := rtc_periodic_phase_lt h
  have hremaining : (rtc.second_length - rtc.calendar.periodic_ticks *
      (rtc_periodic_hz rtc).setWidth 64 % rtc.second_length).toNat =
      rtc.second_length.toNat - rtc_periodic_phase rtc := by
    rw [BitVec.toNat_sub_of_le (by rw [BitVec.le_def, hphase]; omega), hphase]
  have hup : (if (rtc.second_length - rtc.calendar.periodic_ticks *
      (rtc_periodic_hz rtc).setWidth 64 % rtc.second_length) %
        (rtc_periodic_hz rtc).setWidth 64 ≠ 0 then (1 : U64) else 0).toNat =
      if (rtc.second_length.toNat - rtc_periodic_phase rtc) % (rtc_periodic_hz rtc).toNat ≠ 0
        then 1 else 0 := by
    have hiff := @BitVec.toNat_ne_iff_ne 64 ((rtc.second_length - rtc.calendar.periodic_ticks *
      (rtc_periodic_hz rtc).setWidth 64 % rtc.second_length) %
        (rtc_periodic_hz rtc).setWidth 64) 0
    rw [BitVec.toNat_umod, hremaining, hwide] at hiff
    by_cases hne : (rtc.second_length.toNat - rtc_periodic_phase rtc) %
        (rtc_periodic_hz rtc).toNat ≠ 0
    · rw [if_pos hne, if_pos (hiff.mp hne)]
      rfl
    · rw [if_neg hne, if_neg (mt hiff.mpr hne)]
      rfl
  have hquotient : (rtc.second_length.toNat - rtc_periodic_phase rtc) /
      (rtc_periodic_hz rtc).toNat ≤ rtc.second_length.toNat - rtc_periodic_phase rtc :=
    Nat.div_le_self _ _
  unfold rtc_ticks_until_edge
  dsimp only
  rw [BitVec.toNat_add, BitVec.toNat_udiv, hup, hremaining, hwide, Rate.needed, Nat.one_mul,
    Rate.add_pred_div hpos]
  apply Nat.mod_eq_of_lt
  split_ifs
  · omega
  · omega

/-! ## The least of them -/

/-- What becomes true at so many ticks, for good, or never where the ticks are the largest. -/
def RtcAwaits (P : ℕ → Prop) (ticks : U64) : Prop :=
  if ticks = BitVec.allOnes 64 then ∀ n, ¬ P n else ∀ n, P n ↔ ticks.toNat ≤ n

section RtcAwaits

variable {P Q : ℕ → Prop} {ticks update : U64}

theorem RtcAwaits.of_never (h : ∀ n, ¬ P n) : RtcAwaits P (BitVec.allOnes 64) := by
  rw [RtcAwaits, if_pos rfl]
  exact h

theorem RtcAwaits.of_due (hlt : ticks.toNat < 2 ^ 64 - 1) (h : ∀ n, P n ↔ ticks.toNat ≤ n) :
    RtcAwaits P ticks := by
  have hne : ticks ≠ BitVec.allOnes 64 := by
    rintro rfl
    rw [BitVec.toNat_allOnes] at hlt
    omega
  rw [RtcAwaits, if_neg hne]
  exact h

/-- The earlier of two is awaited. -/
theorem RtcAwaits.min (hP : RtcAwaits P ticks) (hlt : update.toNat < 2 ^ 64 - 1)
    (hQ : ∀ n, Q n ↔ update.toNat ≤ n) :
    RtcAwaits (fun n => P n ∨ Q n) (if update < ticks then update else ticks) := by
  by_cases hnever : ticks = BitVec.allOnes 64
  · have hupdate : update < ticks := by
      rw [hnever, BitVec.lt_def, BitVec.toNat_allOnes]
      exact hlt
    rw [RtcAwaits, if_pos hnever] at hP
    rw [if_pos hupdate]
    refine .of_due hlt fun n => ?_
    rw [or_iff_right (hP n), hQ]
  · rw [RtcAwaits, if_neg hnever] at hP
    by_cases hupdate : update < ticks
    · rw [if_pos hupdate]
      rw [BitVec.lt_def] at hupdate
      refine .of_due hlt fun n => ?_
      rw [hP, hQ]
      omega
    · rw [if_neg hupdate, RtcAwaits, if_neg hnever]
      rw [BitVec.lt_def] at hupdate
      intro n
      rw [hP, hQ]
      omega

/-- What never happens before is not awaited. -/
theorem RtcAwaits.keep (hP : RtcAwaits P ticks) (h : ∀ n, Q n → P n) :
    RtcAwaits (fun n => P n ∨ Q n) ticks := by
  have hsame (n : ℕ) : P n ∨ Q n ↔ P n := or_iff_left_of_imp (h n)
  unfold RtcAwaits at hP ⊢
  by_cases hnever : ticks = BitVec.allOnes 64
  · rw [if_pos hnever] at hP ⊢
    exact fun n hn => hP n ((hsame n).mp hn)
  · rw [if_neg hnever] at hP ⊢
    exact fun n => (hsame n).trans (hP n)

end RtcAwaits

/-- The alarm is all that is awaited, and it matches later than in twenty-five hours. -/
structure RtcAlarmFar (rtc : Rtc) : Prop where
  running : rtc_divider_running rtc = true
  enabled : is_set rtc.reg_b rtc_b_aie = true
  counting : is_set rtc.reg_b rtc_b_set = false
  no_update : is_set rtc.reg_b rtc_b_uie = false
  no_periodic : ¬ (is_set rtc.reg_b rtc_b_pie = true ∧ rtc_periodic_hz rtc ≠ 0)
  none_within : ¬ AlarmWithin rtc rtc_alarm_seconds
  later : ∃ n, AlarmWithin rtc n

section Prediction

variable {rtc : Rtc} (h : RtcBounded rtc)
include h

/-- A second has an edge, at any rate. -/
theorem rtc_edges_of_second (hhz : rtc_periodic_hz rtc ≠ 0) {n : ℕ}
    (hn : rtc.second_length.toNat ≤ n) : 0 < rtc_edges rtc n := by
  have hpos : 0 < (rtc_periodic_hz rtc).toNat :=
    Nat.pos_of_ne_zero (BitVec.toNat_ne_iff_ne.mpr hhz)
  have hle : n ≤ n * (rtc_periodic_hz rtc).toNat := Nat.le_mul_of_pos_right n hpos
  apply Nat.div_pos _ h.length_pos
  omega

/-- The periodic part of the prediction. -/
theorem rtc_awaits_edge :
    RtcAwaits (fun n => is_set rtc.reg_b rtc_b_pie = true ∧ 0 < rtc_edges rtc n)
      (if is_set rtc.reg_b rtc_b_pie = true ∧ rtc_periodic_hz rtc ≠ 0 then rtc_ticks_until_edge rtc
        else BitVec.allOnes 64) := by
  by_cases hpie : is_set rtc.reg_b rtc_b_pie = true ∧ rtc_periodic_hz rtc ≠ 0
  · have hlen := second_length_lt rtc
    have hedge := rtc_ticks_until_edge_toNat h hpie.2
    have hle := (rtc_edges_pos_iff h hpie.2 _).mp (rtc_edges_of_second h hpie.2 le_rfl)
    rw [if_pos hpie]
    refine .of_due (by omega) fun n => ?_
    rw [hedge, ← rtc_edges_pos_iff h hpie.2]
    exact and_iff_right hpie.1
  · rw [if_neg hpie]
    refine .of_never fun n hn => hpie ⟨hn.1, fun hhz => ?_⟩
    rw [rtc_edges_eq_zero hhz] at hn
    exact Nat.lt_irrefl 0 hn.2

/-- The update joined to what is awaited. -/
theorem rtc_awaits_update {P : ℕ → Prop} {ticks : U64} (hP : RtcAwaits P ticks) :
    RtcAwaits (fun n => P n ∨ is_set rtc.reg_b rtc_b_uie = true ∧ 0 < rtc_seconds rtc n)
      (if is_set rtc.reg_b rtc_b_uie = true ∧ (!is_set rtc.reg_b rtc_b_set) = true ∧
          rtc.second_length - rtc.calendar.second_ticks < ticks
        then rtc.second_length - rtc.calendar.second_ticks else ticks) := by
  have hlen := second_length_lt rtc
  have hupdate := rtc_update_toNat h
  by_cases hset : is_set rtc.reg_b rtc_b_set = true
  · rw [if_neg (by rw [hset]; simp)]
    refine hP.keep fun n hn => ?_
    rw [rtc_seconds_eq_zero hset] at hn
    exact absurd hn.2 (Nat.lt_irrefl 0)
  · rw [Bool.not_eq_true] at hset
    by_cases huie : is_set rtc.reg_b rtc_b_uie = true
    · have hif : (is_set rtc.reg_b rtc_b_uie = true ∧ (!is_set rtc.reg_b rtc_b_set) = true ∧
          rtc.second_length - rtc.calendar.second_ticks < ticks) ↔
          rtc.second_length - rtc.calendar.second_ticks < ticks := by
        rw [hset]
        exact (and_iff_right huie).trans (and_iff_right rfl)
      rw [if_congr hif rfl rfl]
      refine hP.min (by rw [hupdate, rtc_ticks_to]; omega) fun n => ?_
      rw [hupdate, rtc_ticks_to, ← le_rtc_seconds_iff h hset]
      exact and_iff_right huie
    · rw [if_neg fun hall => huie hall.1]
      exact hP.keep fun n hn => absurd hn.1 huie

/-- An alarm that the search does not find comes after every other source. -/
theorem rtc_alarm_after (hnone : ¬ AlarmWithin rtc rtc_alarm_seconds)
    (hfar : ¬ RtcAlarmFar rtc) (hrun : rtc_divider_running rtc = true) {n : ℕ}
    (haie : is_set rtc.reg_b rtc_b_aie = true) (hwithin : AlarmWithin rtc (rtc_seconds rtc n)) :
    is_set rtc.reg_b rtc_b_pie = true ∧ 0 < rtc_edges rtc n ∨
      is_set rtc.reg_b rtc_b_uie = true ∧ 0 < rtc_seconds rtc n := by
  have hseconds : rtc_alarm_seconds < rtc_seconds rtc n := by
    by_contra hle
    obtain ⟨k, hpos, hk, hmatch⟩ := hwithin
    exact hnone ⟨k, hpos, by omega, hmatch⟩
  have hset : is_set rtc.reg_b rtc_b_set = false := by
    by_contra hset
    rw [Bool.not_eq_false] at hset
    rw [rtc_seconds_eq_zero hset] at hseconds
    omega
  by_cases huie : is_set rtc.reg_b rtc_b_uie = true
  · exact Or.inr ⟨huie, by omega⟩
  · by_cases hpie : is_set rtc.reg_b rtc_b_pie = true ∧ rtc_periodic_hz rtc ≠ 0
    · -- so many seconds hold an edge
      have htwo : 2 ≤ rtc_seconds rtc n := by
        have hday : 2 ≤ rtc_alarm_seconds := by decide
        omega
      have hlt := h.second_lt
      have hticks := (le_rtc_seconds_iff h hset n).mp htwo
      exact Or.inl ⟨hpie.1, rtc_edges_of_second h hpie.2 (by omega)⟩
    · exact absurd ⟨hrun, haie, hset, Bool.not_eq_true _ ▸ huie, hpie, hnone, _, hwithin⟩
        hfar

/-- The alarm joined to the others. -/
theorem rtc_awaits_alarm {ticks : U64} (hrun : rtc_divider_running rtc = true)
    (hfar : ¬ RtcAlarmFar rtc)
    (hP : RtcAwaits (fun n => is_set rtc.reg_b rtc_b_pie = true ∧ 0 < rtc_edges rtc n ∨
      is_set rtc.reg_b rtc_b_uie = true ∧ 0 < rtc_seconds rtc n) ticks) :
    RtcAwaits (RtcDue rtc)
      (if is_set rtc.reg_b rtc_b_aie = true ∧ (!is_set rtc.reg_b rtc_b_set) = true then
        match rtc_ticks_until_alarm rtc with
        | .ok update => if update < ticks then update else ticks
        | .error _ => ticks
      else ticks) := by
  have hlen := second_length_lt rtc
  by_cases haie : is_set rtc.reg_b rtc_b_aie = true ∧ (!is_set rtc.reg_b rtc_b_set) = true
  · have hset : is_set rtc.reg_b rtc_b_set = false := Bool.not_eq_true' _ ▸ haie.2
    have hanswer := rtc_ticks_until_alarm_spec h
    rw [if_pos haie]
    cases hticks : rtc_ticks_until_alarm rtc with
    | ok update =>
      rw [hticks] at hanswer
      obtain ⟨second, hfirst, hday, hupdate⟩ := hanswer
      have hbound : second * rtc.second_length.toNat ≤ 2 ^ 17 * 2 ^ 32 :=
        Nat.mul_le_mul (hday.trans (by decide)) (Nat.le_of_lt hlen)
      refine hP.min (by rw [hupdate, rtc_ticks_to]; omega) fun n => ?_
      rw [hfirst.within_iff, le_rtc_seconds_iff h hset, hupdate]
      exact and_iff_right haie.1
    | error status =>
      rw [hticks] at hanswer
      exact hP.keep fun n hn => rtc_alarm_after h hanswer hfar hrun hn.1 hn.2
  · rw [if_neg haie]
    refine hP.keep fun n hn => absurd ⟨hn.1, ?_⟩ haie
    -- while the clock is set no second passes
    by_contra hset
    rw [Bool.not_eq_true, Bool.not_eq_false'] at hset
    obtain ⟨-, k, hpos, hle, -⟩ := hn
    rw [rtc_seconds_eq_zero hset] at hle
    omega

/-- Where the alarm is not too far, the answer is what becomes due first. -/
theorem rtc_ticks_until_irq_spec (hrun : rtc_divider_running rtc = true)
    (hfar : ¬ RtcAlarmFar rtc) (hnow : ¬ RtcDue rtc 0) :
    match rtc_ticks_until_irq rtc with
    | .ok ticks => ∀ n, RtcDue rtc n ↔ ticks.toNat ≤ n
    | .error status => status = .invalid_state ∧ ∀ n, ¬ RtcDue rtc n := by
  have hall := rtc_awaits_alarm h hrun hfar (rtc_awaits_update h (rtc_awaits_edge h))
  have hstopped : ¬ (!rtc_divider_running rtc) = true := by
    rw [hrun]
    exact Bool.false_ne_true
  unfold rtc_ticks_until_irq
  rw [if_neg hstopped]
  dsimp only
  generalize (if is_set rtc.reg_b rtc_b_aie = true ∧ (!is_set rtc.reg_b rtc_b_set) = true then _
    else _ : U64) = ticks at hall ⊢
  unfold RtcAwaits at hall
  by_cases hnever : ticks = BitVec.allOnes 64
  · rw [if_pos hnever] at hall
    rw [if_pos (Or.inl hnever)]
    exact ⟨rfl, hall⟩
  · rw [if_neg hnever] at hall
    have hzero : ticks ≠ 0 := by
      rintro rfl
      exact hnow ((hall 0).mpr (Nat.le_refl 0))
    rw [if_neg (not_or.mpr ⟨hnever, hzero⟩)]
    exact hall

/-- Where it is, nothing is announced. -/
theorem rtc_ticks_until_irq_far (hfar : RtcAlarmFar rtc) :
    rtc_ticks_until_irq rtc = .error .invalid_state := by
  have hanswer := rtc_ticks_until_alarm_spec h
  have hstopped : ¬ (!rtc_divider_running rtc) = true := by
    rw [hfar.running]
    exact Bool.false_ne_true
  have hupdate : ¬ (is_set rtc.reg_b rtc_b_uie = true ∧ (!is_set rtc.reg_b rtc_b_set) = true ∧
      rtc.second_length - rtc.calendar.second_ticks < BitVec.allOnes 64) := by
    rw [hfar.no_update]
    exact fun hall => Bool.false_ne_true hall.1
  have haie : is_set rtc.reg_b rtc_b_aie = true ∧ (!is_set rtc.reg_b rtc_b_set) = true := by
    rw [hfar.counting]
    exact ⟨hfar.enabled, rfl⟩
  unfold rtc_ticks_until_irq
  rw [if_neg hstopped]
  dsimp only
  rw [if_neg hfar.no_periodic, if_neg hupdate, if_pos haie]
  cases hticks : rtc_ticks_until_alarm rtc with
  | ok update =>
    rw [hticks] at hanswer
    obtain ⟨second, hfirst, hday, -⟩ := hanswer
    exact absurd ((hfirst.within_iff _).mpr hday) hfar.none_within
  | error status => rfl

end Prediction

/-! ## The interrupt -/

/-- An advance sets a flag that register B enables, and the output is told so. -/
def RtcAsserts (rtc : Rtc) (ticks : U64) : Prop :=
  let next := rtc_advance rtc ticks
  rtc_flag_enabled next.1.reg_c next.1.reg_b = true ∧ rtc_irqf next.1 = true ∧
    (rtc.output = true → next.2 = [true])

/-- Advances one after the other. -/
def rtc_advances (rtc : Rtc) (steps : List U64) : Rtc :=
  steps.foldl (fun rtc ticks => (rtc_advance rtc ticks).1) rtc

/-- The prediction: the least number of ticks that assert the interrupt, or none of any. -/
def RtcForetold (rtc : Rtc) : Prop :=
  match rtc_ticks_until_irq rtc with
  | .ok ticks => RtcAsserts rtc ticks ∧ ∀ fewer, fewer < ticks → ¬ RtcAsserts rtc fewer
  | .error status => status = .invalid_state ∧
      ∀ steps, rtc_irqf (rtc_advances rtc steps) = false

theorem rtc_irqf_refresh (rtc : Rtc) :
    rtc_irqf (rtc_refresh_irq rtc).1 = rtc_flag_enabled rtc.reg_c rtc.reg_b := by
  have hset : ∀ flags : U8, is_set (flags ||| rtc_c_irqf) rtc_c_irqf = true := by decide
  have hclear : ∀ flags : U8, is_set (flags &&& ~~~rtc_c_irqf) rtc_c_irqf = false := by decide
  unfold rtc_irqf
  rw [rtc_refresh_irq_eq, Rtc.map_c_reg_c, rtc_irq_flags]
  by_cases h : rtc_flag_enabled rtc.reg_c rtc.reg_b = true
  · rw [if_pos h, hset, h]
  · rw [if_neg h, hclear]
    exact (Bool.eq_false_iff.mpr h).symm

theorem rtc_flag_enabled_refresh (rtc : Rtc) :
    rtc_flag_enabled (rtc_refresh_irq rtc).1.reg_c rtc.reg_b =
      rtc_flag_enabled rtc.reg_c rtc.reg_b := by
  rw [← rtc_flag_enabled_without_irqf, ← rtc_flag_enabled_without_irqf _ rtc.reg_c]
  have h := congrFun (without_irqf_irq_flags rtc.reg_b) rtc.reg_c
  rw [rtc_refresh_irq_eq, Rtc.map_c_reg_c]
  exact congrArg (rtc_flag_enabled · rtc.reg_b) h

theorem rtc_not_due_now {rtc : Rtc} (h : RtcBounded rtc) : ¬ RtcDue rtc 0 := by
  have hedges : rtc_edges rtc 0 = 0 := Rate.delivered_zero (rtc_periodic_phase_lt h)
  have hseconds : rtc_seconds rtc 0 = 0 := by
    unfold rtc_seconds
    rw [Nat.add_zero, Nat.div_eq_of_lt h.second_lt, ite_self]
  unfold RtcDue
  rw [hedges, hseconds]
  rintro ((⟨-, hlt⟩ | ⟨-, hlt⟩) | ⟨-, k, hpos, hle, -⟩)
  · exact Nat.lt_irrefl 0 hlt
  · exact Nat.lt_irrefl 0 hlt
  · omega

section Asserts

variable {rtc : Rtc} (h : RtcBounded rtc) (hclear : rtc.reg_c = 0)
include h hclear

/-- From a clear register C an advance asserts what is due. -/
theorem rtc_asserts_iff (hrun : rtc_divider_running rtc = true) (ticks : U64) :
    RtcAsserts rtc ticks ↔ RtcDue rtc ticks.toNat := by
  have hirqf : rtc_irqf rtc = false := by
    unfold rtc_irqf
    rw [hclear, is_set_zero]
  by_cases hzero : ticks = 0
  · have hidle : rtc_advance rtc ticks = (rtc, []) := if_pos (Or.inl hzero)
    have hnone : ¬ RtcDue rtc ticks.toNat := by
      rw [hzero]
      exact rtc_not_due_now h
    refine iff_of_false ?_ hnone
    rintro ⟨-, hasserts, -⟩
    rw [hidle, hirqf] at hasserts
    cases hasserts
  · have hadvances : RtcAdvances rtc ticks := by
      refine not_or.mpr ⟨hzero, ?_⟩
      rw [hrun]
      exact Bool.false_ne_true
    have hreg_b := (rtc_elapse_same rtc ticks.toNat).reg_b
    have hlevel := rtc_irqf_refresh (rtc_elapse rtc ticks.toNat)
    have hflags := rtc_flag_enabled_refresh (rtc_elapse rtc ticks.toNat)
    rw [hreg_b] at hlevel hflags
    rw [← rtc_flag_enabled_elapse hclear, ← hflags]
    unfold RtcAsserts
    rw [rtc_advance_eq h hadvances]
    dsimp only
    rw [((rtc_elapse_same rtc ticks.toNat).trans (rtc_refresh_irq_same _)).reg_b]
    constructor
    · exact fun hall => hall.1
    · intro henabled
      have hasserted : rtc_irqf (rtc_refresh_irq (rtc_elapse rtc ticks.toNat)).1 = true := by
        rw [hlevel, ← hflags]
        exact henabled
      refine ⟨henabled, hasserted, fun hout => ?_⟩
      have hcalls : (rtc_refresh_irq (rtc_elapse rtc ticks.toNat)).2 =
          if (rtc_elapse rtc ticks.toNat).output &&
              rtc_irqf (rtc_elapse rtc ticks.toNat) !=
                rtc_irqf (rtc_refresh_irq (rtc_elapse rtc ticks.toNat)).1
            then [!rtc_irqf (rtc_elapse rtc ticks.toNat)] else [] := rfl
      rw [hcalls, hasserted, rtc_elapse_irqf, hirqf, (rtc_elapse_same rtc ticks.toNat).output,
        hout]
      rfl

/-- No ticks leave the clock as it is. -/
theorem rtc_refresh_elapse_zero : (rtc_refresh_irq (rtc_elapse rtc 0)).1 = rtc := by
  have hseconds : rtc_seconds rtc 0 = 0 := by
    unfold rtc_seconds
    rw [Nat.add_zero, Nat.div_eq_of_lt h.second_lt, ite_self]
  have hedges : rtc_edges rtc 0 = 0 := Rate.delivered_zero (rtc_periodic_phase_lt h)
  have hst : rtc_second_phase rtc 0 = rtc.calendar.second_ticks := by
    apply BitVec.eq_of_toNat_eq
    rw [rtc_second_phase_toNat h, Nat.add_zero, Nat.mod_eq_of_lt h.second_lt]
  have hp : rtc_periodic_left rtc 0 = rtc.calendar.periodic_ticks := by
    apply BitVec.eq_of_toNat_eq
    rw [rtc_periodic_left_toNat h, Nat.add_zero, Nat.mod_eq_of_lt h.periodic_lt]
  have hpf : set_pf_if 0 = id := rfl
  have helapse : rtc_elapse rtc 0 = rtc := by
    unfold rtc_elapse
    rw [hseconds, hedges, hst, hp, hpf]
    unfold Rtc.mark Rtc.map_c Rtc.set_register
    rw [id_eq, Function.iterate_zero_apply, Function.update_eq_self]
  have hflags : rtc_irq_flags rtc.reg_b (rtc.registers rtc_reg_c) = rtc.registers rtc_reg_c := by
    have hzero : rtc_flag_enabled 0 rtc.reg_b = false := by
      unfold rtc_flag_enabled
      rw [is_set_zero, is_set_zero, is_set_zero]
      rfl
    rw [show rtc.registers rtc_reg_c = 0 from hclear, rtc_irq_flags, hzero]
    rfl
  rw [helapse, rtc_refresh_irq_eq]
  unfold Rtc.map_c Rtc.set_register
  rw [hflags, Function.update_eq_self]

/-- Advances one after the other are the sum of their ticks. -/
theorem rtc_advances_eq (hrun : rtc_divider_running rtc = true) (steps : List U64) :
    rtc_advances rtc steps =
      (rtc_refresh_irq (rtc_elapse rtc (steps.map BitVec.toNat).sum)).1 := by
  have hfrom (n : ℕ) : rtc_advances (rtc_refresh_irq (rtc_elapse rtc n)).1 steps =
      (rtc_refresh_irq (rtc_elapse rtc (n + (steps.map BitVec.toNat).sum))).1 := by
    induction steps generalizing n with
    | nil => rfl
    | cons ticks steps ih =>
      have hbounded : RtcBounded (rtc_refresh_irq (rtc_elapse rtc n)).1 :=
        ⟨(rtc_elapse_bounded h n).length_pos, (rtc_elapse_bounded h n).second_lt,
          (rtc_elapse_bounded h n).periodic_lt⟩
      have hnext : (rtc_advance (rtc_refresh_irq (rtc_elapse rtc n)).1 ticks).1 =
          (rtc_refresh_irq (rtc_elapse rtc (n + ticks.toNat))).1 := by
        by_cases hzero : ticks = 0
        · rw [hzero]
          rfl
        · rw [rtc_advance_eq hbounded, rtc_refresh_elapse, rtc_elapse_add h]
          refine not_or.mpr ⟨hzero, ?_⟩
          rw [((rtc_elapse_same rtc n).trans (rtc_refresh_irq_same _)).divider_running, hrun]
          exact Bool.false_ne_true
      rw [List.map_cons, List.sum_cons, ← Nat.add_assoc, ← ih (n + ticks.toNat), ← hnext]
      rfl
  have hall := hfrom 0
  rwa [rtc_refresh_elapse_zero h hclear, Nat.zero_add] at hall

/-- No series of advances asserts the interrupt exactly when nothing is ever due. -/
theorem rtc_never_asserts_iff (hrun : rtc_divider_running rtc = true) :
    (∀ steps, rtc_irqf (rtc_advances rtc steps) = false) ↔ ∀ n, ¬ RtcDue rtc n := by
  have hirqf (n : ℕ) : rtc_irqf (rtc_refresh_irq (rtc_elapse rtc n)).1 = true ↔ RtcDue rtc n := by
    rw [rtc_irqf_refresh, (rtc_elapse_same rtc n).reg_b]
    exact rtc_flag_enabled_elapse hclear n
  constructor
  · intro hnever n hdue
    have hsteps := hnever (List.replicate n 1)
    rw [rtc_advances_eq h hclear hrun, List.map_replicate, List.sum_replicate_nat,
      show BitVec.toNat (1 : U64) = 1 from rfl, Nat.mul_one] at hsteps
    rw [(hirqf n).mpr hdue] at hsteps
    cases hsteps
  · intro hnever steps
    rw [rtc_advances_eq h hclear hrun]
    exact Bool.eq_false_iff.mpr (mt (hirqf _).mp (hnever _))

end Asserts

/-! ## Reachable clocks -/

/-- The clocks that the functions of the chip reach. -/
inductive RtcReachable : Rtc → Prop where
  | create {config : RtcConfig} {output : Bool} {rtc : Rtc}
      (created : rtc_create config output = .ok rtc) : RtcReachable rtc
  | read {rtc : Rtc} (reg : U8) (before : RtcReachable rtc) :
      RtcReachable (rtc_read_register rtc reg).2.1
  | write {rtc : Rtc} (reg value : U8) (before : RtcReachable rtc) :
      RtcReachable (rtc_write_register rtc reg value).1
  | reset {rtc : Rtc} (before : RtcReachable rtc) : RtcReachable (rtc_reset rtc).1
  | advance {rtc : Rtc} (ticks : U64) (before : RtcReachable rtc) :
      RtcReachable (rtc_advance rtc ticks).1

theorem RtcBounded.congr {rtc rtc' : Rtc} (h : RtcBounded rtc)
    (hlength : rtc'.second_length = rtc.second_length)
    (hsecond : rtc'.calendar.second_ticks = rtc.calendar.second_ticks)
    (hperiodic : rtc'.calendar.periodic_ticks = rtc.calendar.periodic_ticks) : RtcBounded rtc' := by
  constructor
  · rw [hlength]
    exact h.length_pos
  · rw [hlength, hsecond]
    exact h.second_lt
  · rw [hlength, hperiodic]
    exact h.periodic_lt

/-- A phase of at most a second has a tick at least. -/
theorem rtc_phase_ticks_ne_zero (configured ticks_per_second : U32) {microseconds : U32}
    (hle : microseconds.toNat ≤ 1000000) :
    rtc_phase_ticks configured ticks_per_second microseconds ≠ 0 := by
  have htps := ticks_per_second.isLt
  have hproduct : ticks_per_second.toNat * microseconds.toNat ≤ 2 ^ 32 * 1000000 :=
    Nat.mul_le_mul (Nat.le_of_lt htps) hle
  have hconverted : (ticks_per_second.setWidth 64 * microseconds.setWidth 64 /
      (1000000 : U64)).toNat = ticks_per_second.toNat * microseconds.toNat / 1000000 := by
    have hmillion : (1000000 : U64).toNat = 1000000 := rfl
    rw [BitVec.toNat_udiv, BitVec.toNat_mul, BitVec.toNat_setWidth, BitVec.toNat_setWidth, hmillion,
      Nat.mod_eq_of_lt (show ticks_per_second.toNat < 2 ^ 64 by omega),
      Nat.mod_eq_of_lt (show microseconds.toNat < 2 ^ 64 by omega),
      Nat.mod_eq_of_lt (by omega)]
  unfold rtc_phase_ticks
  by_cases hconfigured : configured ≠ 0
  · rw [if_pos hconfigured]
    exact hconfigured
  · rw [if_neg hconfigured]
    dsimp only
    by_cases hzero : ticks_per_second.setWidth 64 * microseconds.setWidth 64 / (1000000 : U64) = 0
    · rw [if_pos hzero]
      decide
    · rw [if_neg hzero]
      have hne := BitVec.toNat_ne_iff_ne.mpr hzero
      rw [hconverted] at hne
      -- the quotient is at most the ticks of a second, so it keeps its bits
      have hsmall : ticks_per_second.toNat * microseconds.toNat / 1000000 < 2 ^ 32 := by
        have hscaled : ticks_per_second.toNat * microseconds.toNat ≤
            ticks_per_second.toNat * 1000000 := Nat.mul_le_mul_left _ hle
        omega
      apply BitVec.toNat_ne_iff_ne.mp
      rw [BitVec.toNat_setWidth, hconverted, Nat.mod_eq_of_lt hsmall]
      exact hne

theorem rtc_update_ticks_pos (rtc : Rtc) : 0 < (rtc_update_ticks rtc).toNat := by
  have hne : rtc_update_ticks rtc ≠ 0 := by
    apply rtc_phase_ticks_ne_zero
    split_ifs
    · decide
    · decide
  exact Nat.pos_of_ne_zero (BitVec.toNat_ne_iff_ne.mpr hne)

theorem rtc_create_bounded {config : RtcConfig} {output : Bool} {rtc : Rtc}
    (h : rtc_create config output = .ok rtc) : RtcBounded rtc := by
  unfold rtc_create at h
  by_cases hzero : config.ticks_per_second = 0
  · rw [if_pos hzero] at h
    cases h
  · rw [if_neg hzero] at h
    cases h
    have hpos : 0 < (config.ticks_per_second.setWidth 64).toNat := by
      have hne := BitVec.toNat_ne_iff_ne.mpr hzero
      rw [BitVec.toNat_setWidth, Nat.mod_eq_of_lt (by omega)]
      exact Nat.pos_of_ne_zero hne
    exact ⟨hpos, hpos, hpos⟩

/-- The phase that a divider leaving its reset starts with lies within the second. -/
theorem rtc_write_a_bounded {rtc : Rtc} (h : RtcBounded rtc) (value : U8) :
    RtcBounded (rtc_write_a rtc value) := by
  have hset : RtcBounded (rtc.set_register rtc_reg_a (value &&& 0x7f)) := h.congr rfl rfl rfl
  have hpos := rtc_update_ticks_pos (rtc.set_register rtc_reg_a (value &&& 0x7f))
  unfold rtc_write_a
  generalize rtc.set_register rtc_reg_a (value &&& 0x7f) = next at hset hpos
  have hlen := second_length_lt next
  have hzero : (0 : U64).toNat = 0 := rfl
  dsimp only
  split_ifs with hstopped hreset hbefore
  · exact ⟨hset.length_pos, hset.length_pos, hset.length_pos⟩
  · refine ⟨hset.length_pos, ?_, hset.periodic_lt⟩
    have htwo : (2 : U64).toNat = 2 := rfl
    have hupdate := (rtc_update_ticks next).isLt
    have hcompletion : (next.second_length / 2 + (rtc_update_ticks next).setWidth 64).toNat =
        next.second_length.toNat / 2 + (rtc_update_ticks next).toNat := by
      rw [BitVec.toNat_add, BitVec.toNat_udiv, BitVec.toNat_setWidth, htwo,
        Nat.mod_eq_of_lt (show (rtc_update_ticks next).toNat < 2 ^ 64 by omega)]
      exact Nat.mod_eq_of_lt (by omega)
    rw [BitVec.lt_def, hcompletion] at hbefore
    show (next.second_length - (next.second_length / 2 +
      (rtc_update_ticks next).setWidth 64)).toNat < next.second_length.toNat
    rw [BitVec.toNat_sub_of_le (by rw [BitVec.le_def, hcompletion]; omega), hcompletion]
    omega
  · exact ⟨hset.length_pos, hset.length_pos, hset.periodic_lt⟩
  · exact hset

theorem rtc_store_register_bounded {rtc : Rtc} (h : RtcBounded rtc) (reg value : U8) :
    RtcBounded (rtc_store_register rtc reg value) := by
  unfold rtc_store_register
  dsimp only
  split_ifs
  case pos => exact h.congr rfl rfl rfl
  all_goals first
    | exact rtc_write_a_bounded h value
    | exact h.congr rfl rfl rfl

theorem rtc_refresh_irq_bounded {rtc : Rtc} (h : RtcBounded rtc) :
    RtcBounded (rtc_refresh_irq rtc).1 :=
  h.congr rfl rfl rfl

theorem rtc_write_register_bounded {rtc : Rtc} (h : RtcBounded rtc) (reg value : U8) :
    RtcBounded (rtc_write_register rtc reg value).1 := by
  unfold rtc_write_register
  by_cases hcount : rtc.register_count ≤ reg
  · rw [if_pos hcount]
    exact h
  · rw [if_neg hcount]
    apply rtc_refresh_irq_bounded
    apply rtc_store_register_bounded
    split_ifs
    · exact h.congr rfl rfl rfl
    · exact h

theorem rtc_read_register_bounded {rtc : Rtc} (h : RtcBounded rtc) (reg : U8) :
    RtcBounded (rtc_read_register rtc reg).2.1 := by
  have hite (c : Prop) [Decidable c] (x y : U8 × Rtc × List Bool) (hx : RtcBounded x.2.1)
      (hy : RtcBounded y.2.1) : RtcBounded (if c then x else y).2.1 := by
    split_ifs
    · exact hx
    · exact hy
  unfold rtc_read_register
  repeat' apply hite
  all_goals exact h.congr rfl rfl rfl

/-- The phases lie within their second in every clock that is reached. -/
theorem RtcReachable.bounded {rtc : Rtc} (h : RtcReachable rtc) : RtcBounded rtc := by
  induction h with
  | create created => exact rtc_create_bounded created
  | read reg before ih => exact rtc_read_register_bounded ih reg
  | write reg value before ih => exact rtc_write_register_bounded ih reg value
  | @reset rtc before ih =>
    have hset : RtcBounded (rtc.set_register rtc_reg_b
        (rtc.reg_b &&& (rtc_b_set ||| rtc_b_dm ||| rtc_b_24h ||| rtc_b_dse))) :=
      ih.congr rfl rfl rfl
    have hread := rtc_read_register_bounded hset rtc_reg_c
    exact hread.congr rfl rfl rfl
  | advance ticks before ih => exact rtc_advance_bounded ih ticks

/-- The alarm that is too far to be predicted still comes. -/
theorem RtcAlarmFar.due {rtc : Rtc} (hfar : RtcAlarmFar rtc) (h : RtcBounded rtc) :
    ∃ n, RtcDue rtc n := by
  obtain ⟨n, k, hpos, hle, hmatch⟩ := hfar.later
  have hseconds := (le_rtc_seconds_iff h hfar.counting (rtc_ticks_to rtc n)).mpr le_rfl
  exact ⟨rtc_ticks_to rtc n, Or.inr ⟨hfar.enabled, k, hpos, hle.trans hseconds, hmatch⟩⟩

theorem RtcAlarmFar.not_foretold {rtc : Rtc} (hfar : RtcAlarmFar rtc) (h : RtcBounded rtc)
    (hclear : rtc.reg_c = 0) : ¬ RtcForetold rtc := by
  intro hforetold
  unfold RtcForetold at hforetold
  rw [rtc_ticks_until_irq_far h hfar] at hforetold
  obtain ⟨-, hnever⟩ := hforetold
  obtain ⟨n, hdue⟩ := hfar.due h
  exact (rtc_never_asserts_iff h hclear hfar.running).mp hnever n hdue

/-- The prediction is right in every clock that is reached with register C clear, but where the
alarm is all that is awaited and its next match is further off than twenty-five hours. -/
theorem rtc_prediction_iff {rtc : Rtc} (hreachable : RtcReachable rtc) (hclear : rtc.reg_c = 0) :
    RtcForetold rtc ↔ ¬ RtcAlarmFar rtc := by
  have h := hreachable.bounded
  constructor
  · intro hforetold hfar
    exact hfar.not_foretold h hclear hforetold
  · intro hfar
    unfold RtcForetold
    by_cases hrun : rtc_divider_running rtc = true
    · have hspec := rtc_ticks_until_irq_spec h hrun hfar (rtc_not_due_now h)
      cases hticks : rtc_ticks_until_irq rtc with
      | ok ticks =>
        rw [hticks] at hspec
        refine ⟨(rtc_asserts_iff h hclear hrun ticks).mpr ((hspec _).mpr le_rfl), ?_⟩
        intro fewer hfewer hasserts
        have hdue := (hspec _).mp ((rtc_asserts_iff h hclear hrun fewer).mp hasserts)
        rw [BitVec.lt_def] at hfewer
        omega
      | error status =>
        rw [hticks] at hspec
        exact ⟨hspec.1, (rtc_never_asserts_iff h hclear hrun).mpr hspec.2⟩
    · -- a stopped divider answers so at once, and moves nothing
      have hstopped : (!rtc_divider_running rtc) = true := by
        rw [Bool.eq_false_iff.mpr hrun]
        rfl
      have hanswer : rtc_ticks_until_irq rtc = .error .invalid_state := if_pos hstopped
      rw [hanswer]
      refine ⟨rfl, fun steps => ?_⟩
      have hstays : rtc_advances rtc steps = rtc := by
        induction steps with
        | nil => rfl
        | cons ticks steps ih =>
          have hidle : (rtc_advance rtc ticks).1 = rtc :=
            congrArg Prod.fst (if_pos (Or.inr hstopped))
          show rtc_advances (rtc_advance rtc ticks).1 steps = rtc
          rw [hidle, ih]
      rw [hstays, rtc_irqf, hclear, is_set_zero]

end Nxvm.Chips
