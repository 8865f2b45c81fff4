/-
Time of the real-time clock, batched (`x86_rtc_advance`).

What some ticks do is stated once, for a natural number of them: so many periodic edges, so many
seconds, and the two phases (`rtc_elapse`). There the ticks add up; an advance is that and the
interrupt refreshed, which may be done once at the end.
-/
import Mathlib.Logic.Function.Iterate
import Nxvm.Chips.Rtc
import Nxvm.Lib.Rate

set_option autoImplicit false

namespace Nxvm.Chips

open Nxvm.Lib Nxvm.Lib.Register Nxvm.Machine

/-! ## Register C and the phases, beside the calendar -/

namespace Rtc

/-- Register C rewritten and the phases set. -/
def mark (rtc : Rtc) (f : U8 → U8) (second_ticks periodic_ticks : U64) : Rtc :=
  { rtc.map_c f with calendar := { rtc.calendar with second_ticks, periodic_ticks } }

variable (rtc : Rtc) (f g : U8 → U8) (second_ticks periodic_ticks : U64)

@[simp] theorem map_c_reg_b : (rtc.map_c f).reg_b = rtc.reg_b := rfl
@[simp] theorem map_c_reg_c : (rtc.map_c f).reg_c = f rtc.reg_c := rfl

theorem map_c_map_c : (rtc.map_c f).map_c g = rtc.map_c (g ∘ f) := by
  unfold map_c set_register
  dsimp only
  rw [Function.update_self, Function.update_idem]
  rfl

@[simp] theorem mark_reg_c : (rtc.mark f second_ticks periodic_ticks).reg_c = f rtc.reg_c := rfl

theorem mark_mark (second_ticks' periodic_ticks' : U64) :
    (rtc.mark f second_ticks periodic_ticks).mark g second_ticks' periodic_ticks' =
      rtc.mark (g ∘ f) second_ticks' periodic_ticks' := by
  have h := map_c_map_c rtc f g
  unfold mark
  rw [← h]
  rfl

theorem mark_map_c : (rtc.mark f second_ticks periodic_ticks).map_c g =
    rtc.mark (g ∘ f) second_ticks periodic_ticks :=
  mark_mark rtc f g second_ticks periodic_ticks second_ticks periodic_ticks

theorem map_c_mark : (rtc.map_c f).mark g second_ticks periodic_ticks =
    rtc.mark (g ∘ f) second_ticks periodic_ticks :=
  mark_mark rtc f g rtc.calendar.second_ticks rtc.calendar.periodic_ticks second_ticks
    periodic_ticks

end Rtc

section Mark

variable (rtc : Rtc) (f : U8 → U8) (second_ticks periodic_ticks : U64)

theorem mark_ite (c : Prop) [Decidable c] (rtc rtc' : Rtc) :
    (if c then rtc else rtc').mark f second_ticks periodic_ticks =
      if c then rtc.mark f second_ticks periodic_ticks
      else rtc'.mark f second_ticks periodic_ticks :=
  apply_ite (fun rtc : Rtc => rtc.mark f second_ticks periodic_ticks) c rtc rtc'

theorem rtc_shift_hour_mark : rtc_shift_hour (rtc.mark f second_ticks periodic_ticks) =
    (rtc_shift_hour rtc).mark f second_ticks periodic_ticks := by
  unfold rtc_shift_hour
  simp only [mark_ite]
  rfl

theorem rtc_next_day_mark : rtc_next_day (rtc.mark f second_ticks periodic_ticks) =
    (rtc_next_day rtc).mark f second_ticks periodic_ticks := by
  unfold rtc_next_day
  simp only [mark_ite]
  rfl

theorem rtc_next_hour_mark : rtc_next_hour (rtc.mark f second_ticks periodic_ticks) =
    (rtc_next_hour rtc).mark f second_ticks periodic_ticks := by
  have hshift := rtc_shift_hour_mark { rtc with calendar := { rtc.calendar with
    hour := rtc.calendar.hour + 1 } } f second_ticks periodic_ticks
  have hnext : rtc_next_hour (rtc.mark f second_ticks periodic_ticks) =
      let rtc' := rtc_shift_hour (Rtc.mark { rtc with calendar := { rtc.calendar with
        hour := rtc.calendar.hour + 1 } } f second_ticks periodic_ticks)
      if rtc'.calendar.hour < 24 then rtc' else rtc_next_day rtc' := rfl
  rw [hnext, hshift]
  dsimp only
  rw [rtc_next_day_mark]
  unfold rtc_next_hour
  dsimp only
  rw [mark_ite]
  rfl

theorem rtc_next_minute_mark : rtc_next_minute (rtc.mark f second_ticks periodic_ticks) =
    (rtc_next_minute rtc).mark f second_ticks periodic_ticks := by
  have hhour := rtc_next_hour_mark { rtc with calendar := { rtc.calendar with minute := 0 } } f
    second_ticks periodic_ticks
  unfold rtc_next_minute
  dsimp only
  rw [mark_ite, ← hhour]
  rfl

/-- The calendar does not look at register C or at the phases. -/
theorem rtc_increment_second_mark : rtc_increment_second (rtc.mark f second_ticks periodic_ticks) =
    (rtc_increment_second rtc).mark f second_ticks periodic_ticks := by
  have hminute := rtc_next_minute_mark { rtc with calendar := { rtc.calendar with second := 0 } } f
    second_ticks periodic_ticks
  unfold rtc_increment_second
  dsimp only
  rw [mark_ite, ← hminute]
  rfl

theorem rtc_alarm_matches_mark : rtc_alarm_matches (rtc.mark f second_ticks periodic_ticks) =
    rtc_alarm_matches rtc := rfl

/-- What leaves the flags of the update and of the alarm alone. -/
def KeepsFlags (f : U8 → U8) : Prop :=
  ∀ c, f (c ||| rtc_c_uf) = f c ||| rtc_c_uf ∧ f (c ||| rtc_c_af) = f c ||| rtc_c_af

variable {f}

theorem rtc_pass_second_mark (hf : KeepsFlags f) :
    rtc_pass_second (rtc.mark f second_ticks periodic_ticks) =
      (rtc_pass_second rtc).mark f second_ticks periodic_ticks := by
  have huf : (· ||| rtc_c_uf) ∘ f = f ∘ (· ||| rtc_c_uf) := funext fun c => ((hf c).1).symm
  have haf : (· ||| rtc_c_af) ∘ f = f ∘ (· ||| rtc_c_af) := funext fun c => ((hf c).2).symm
  unfold rtc_pass_second
  dsimp only
  rw [rtc_increment_second_mark, Rtc.mark_map_c, huf, ← Rtc.map_c_mark, rtc_alarm_matches_mark]
  by_cases h : rtc_alarm_matches ((rtc_increment_second rtc).map_c (· ||| rtc_c_uf)) = true
  · rw [if_pos h, if_pos h, Rtc.mark_map_c, haf, ← Rtc.map_c_mark]
  · rw [if_neg h, if_neg h]

theorem rtc_pass_seconds_mark (hf : KeepsFlags f) (n : ℕ) :
    rtc_pass_second^[n] (rtc.mark f second_ticks periodic_ticks) =
      (rtc_pass_second^[n] rtc).mark f second_ticks periodic_ticks := by
  have hcomm : Function.Semiconj (fun rtc : Rtc => rtc.mark f second_ticks periodic_ticks)
      rtc_pass_second rtc_pass_second :=
    fun rtc => (rtc_pass_second_mark rtc second_ticks periodic_ticks hf).symm
  exact ((hcomm.iterate_right n) rtc).symm

end Mark

/-! ## What so many ticks do -/

/-- The phases of a clock lie within its second. -/
structure RtcBounded (rtc : Rtc) : Prop where
  length_pos : 0 < rtc.second_length.toNat
  second_lt : rtc.calendar.second_ticks.toNat < rtc.second_length.toNat
  periodic_lt : rtc.calendar.periodic_ticks.toNat < rtc.second_length.toNat

/-- The part of a periodic interval that has passed, in ticks times the rate. -/
def rtc_periodic_phase (rtc : Rtc) : ℕ :=
  rtc.calendar.periodic_ticks.toNat * (rtc_periodic_hz rtc).toNat % rtc.second_length.toNat

/-- The periodic edges of so many ticks. -/
def rtc_edges (rtc : Rtc) (n : ℕ) : ℕ :=
  Rate.delivered (rtc_periodic_hz rtc).toNat rtc.second_length.toNat (rtc_periodic_phase rtc) n

/-- The seconds that so many ticks complete. -/
def rtc_seconds (rtc : Rtc) (n : ℕ) : ℕ :=
  if is_set rtc.reg_b rtc_b_set then 0
  else (rtc.calendar.second_ticks.toNat + n) / rtc.second_length.toNat

def rtc_second_phase (rtc : Rtc) (n : ℕ) : U64 :=
  BitVec.ofNat 64 ((rtc.calendar.second_ticks.toNat + n) % rtc.second_length.toNat)

def rtc_periodic_left (rtc : Rtc) (n : ℕ) : U64 :=
  BitVec.ofNat 64 ((rtc.calendar.periodic_ticks.toNat + n) % rtc.second_length.toNat)

/-- The periodic flag, set where there is an edge. -/
def set_pf_if (edges : ℕ) (flags : U8) : U8 := if 0 < edges then flags ||| rtc_c_pf else flags

/-- The clock after so many ticks, the interrupt not yet refreshed. -/
def rtc_elapse (rtc : Rtc) (n : ℕ) : Rtc :=
  (rtc_pass_second^[rtc_seconds rtc n] rtc).mark (set_pf_if (rtc_edges rtc n))
    (rtc_second_phase rtc n) (rtc_periodic_left rtc n)

theorem second_length_lt (rtc : Rtc) : rtc.second_length.toNat < 2 ^ 32 := by
  unfold Rtc.second_length
  rw [BitVec.toNat_setWidth]
  exact lt_of_le_of_lt (Nat.mod_le _ _) rtc.ticks_per_second.isLt

theorem rtc_periodic_hz_le (rtc : Rtc) : (rtc_periodic_hz rtc).toNat ≤ 32768 := by
  unfold rtc_periodic_hz
  dsimp only
  split_ifs
  · decide
  · decide
  · decide
  · decide
  · decide
  · rw [BitVec.toNat_ushiftRight]
    exact Nat.shiftRight_le _ _

theorem rtc_periodic_phase_lt {rtc : Rtc} (h : RtcBounded rtc) :
    rtc_periodic_phase rtc < rtc.second_length.toNat :=
  Nat.mod_lt _ h.length_pos

/-- The edges between two products, one of which is passed. -/
theorem edges_between {p r hz len : ℕ} (hlen : 0 < len) :
    (p + r) * hz / len - p * hz / len = (r * hz + p * hz % len) / len := by
  have hsplit := Nat.mod_add_div (p * hz) len
  have hsum : (p + r) * hz = r * hz + p * hz % len + len * (p * hz / len) := by
    rw [Nat.add_mul]
    omega
  rw [hsum, Nat.add_mul_div_left _ _ hlen, Nat.add_sub_cancel_right]

/-- Some of the seconds or of the rest give an edge, where there is a rate. -/
theorem edges_pos_iff {hz seconds rest : ℕ} (h : hz = 0 → rest = 0) :
    hz ≠ 0 ∧ (seconds ≠ 0 ∨ rest ≠ 0) ↔ 0 < seconds * hz + rest := by
  constructor
  · rintro ⟨hhz, hseconds | hrest⟩
    · have := Nat.mul_pos (Nat.pos_of_ne_zero hseconds) (Nat.pos_of_ne_zero hhz)
      omega
    · omega
  · intro hpos
    have hhz : hz ≠ 0 := by
      rintro rfl
      rw [h rfl] at hpos
      omega
    refine ⟨hhz, ?_⟩
    by_contra hnone
    rw [not_or, not_not, not_not] at hnone
    rw [hnone.1, hnone.2] at hpos
    omega

section Advance

variable {rtc : Rtc} (h : RtcBounded rtc) (elapsed_ticks : U64)
include h

/-- A phase is below two seconds. -/
theorem rtc_phase_toNat {phase : U64} (hphase : phase.toNat < rtc.second_length.toNat) :
    (phase + elapsed_ticks % rtc.second_length).toNat =
      phase.toNat + elapsed_ticks.toNat % rtc.second_length.toNat := by
  have hlen := second_length_lt rtc
  have hr := Nat.mod_lt elapsed_ticks.toNat h.length_pos
  rw [BitVec.toNat_add, BitVec.toNat_umod]
  exact Nat.mod_eq_of_lt (by omega)

/-- A phase advanced, within the second again. -/
theorem rtc_phase_left {phase : U64} (hphase : phase.toNat < rtc.second_length.toNat) :
    (phase + elapsed_ticks % rtc.second_length) % rtc.second_length =
      BitVec.ofNat 64 ((phase.toNat + elapsed_ticks.toNat) % rtc.second_length.toNat) := by
  have hlen := second_length_lt rtc
  have hlt := Nat.mod_lt (phase.toNat + elapsed_ticks.toNat) h.length_pos
  apply BitVec.eq_of_toNat_eq
  rw [BitVec.toNat_umod, rtc_phase_toNat h elapsed_ticks hphase, Nat.add_mod_mod,
    BitVec.toNat_ofNat]
  exact (Nat.mod_eq_of_lt (by omega)).symm

omit h in
/-- Two seconds of ticks times the rate do not wrap. -/
theorem rtc_product_toNat {ticks : U64} (hticks : ticks.toNat < 2 ^ 33) :
    (ticks * (rtc_periodic_hz rtc).setWidth 64).toNat =
      ticks.toNat * (rtc_periodic_hz rtc).toNat := by
  have hhz := rtc_periodic_hz_le rtc
  have hle : ticks.toNat * (rtc_periodic_hz rtc).toNat ≤ 2 ^ 33 * 32768 :=
    Nat.mul_le_mul (Nat.le_of_lt hticks) hhz
  rw [BitVec.toNat_mul, BitVec.toNat_setWidth,
    Nat.mod_eq_of_lt (show (rtc_periodic_hz rtc).toNat < 2 ^ 64 by omega)]
  exact Nat.mod_eq_of_lt (by omega)

/-- The edges of the rest of an advance, as they are counted. -/
theorem rtc_rest_edges_toNat :
    ((rtc.calendar.periodic_ticks + elapsed_ticks % rtc.second_length) *
          (rtc_periodic_hz rtc).setWidth 64 / rtc.second_length -
        rtc.calendar.periodic_ticks * (rtc_periodic_hz rtc).setWidth 64 /
          rtc.second_length).toNat =
      (elapsed_ticks.toNat % rtc.second_length.toNat * (rtc_periodic_hz rtc).toNat +
        rtc_periodic_phase rtc) / rtc.second_length.toNat := by
  have hlen := second_length_lt rtc
  have hr := Nat.mod_lt elapsed_ticks.toNat h.length_pos
  have hp := h.periodic_lt
  have hphase := rtc_phase_toNat h elapsed_ticks h.periodic_lt
  have hbefore := @rtc_product_toNat rtc rtc.calendar.periodic_ticks (by omega)
  have hafter := @rtc_product_toNat rtc
    (rtc.calendar.periodic_ticks + elapsed_ticks % rtc.second_length) (by omega)
  have hle : rtc.calendar.periodic_ticks.toNat * (rtc_periodic_hz rtc).toNat /
      rtc.second_length.toNat ≤
      (rtc.calendar.periodic_ticks.toNat + elapsed_ticks.toNat % rtc.second_length.toNat) *
        (rtc_periodic_hz rtc).toNat / rtc.second_length.toNat :=
    Nat.div_le_div_right (Nat.mul_le_mul_right _ (Nat.le_add_right _ _))
  rw [BitVec.toNat_sub_of_le]
  · rw [BitVec.toNat_udiv, BitVec.toNat_udiv, hbefore, hafter, hphase, edges_between h.length_pos]
    rfl
  · rw [BitVec.le_def, BitVec.toNat_udiv, BitVec.toNat_udiv, hbefore, hafter, hphase]
    exact hle

/-- The periodic flag is set exactly where the ticks have an edge. -/
theorem rtc_periodic_edge_iff :
    ((rtc_periodic_hz rtc).setWidth 64 ≠ 0 ∧ (elapsed_ticks / rtc.second_length ≠ 0 ∨
        (rtc.calendar.periodic_ticks + elapsed_ticks % rtc.second_length) *
            (rtc_periodic_hz rtc).setWidth 64 / rtc.second_length -
          rtc.calendar.periodic_ticks * (rtc_periodic_hz rtc).setWidth 64 / rtc.second_length ≠
            0)) ↔ 0 < rtc_edges rtc elapsed_ticks.toNat := by
  have hhz := rtc_periodic_hz_le rtc
  have hzero (x : U64) : x ≠ 0 ↔ x.toNat ≠ 0 := BitVec.toNat_ne_iff_ne.symm
  have hrest : (rtc_periodic_hz rtc).toNat = 0 →
      (elapsed_ticks.toNat % rtc.second_length.toNat * (rtc_periodic_hz rtc).toNat +
        rtc_periodic_phase rtc) / rtc.second_length.toNat = 0 := by
    intro hnone
    rw [rtc_periodic_phase, hnone, Nat.mul_zero, Nat.mul_zero, Nat.zero_mod, Nat.add_zero,
      Nat.zero_div]
  rw [hzero, hzero, hzero, rtc_rest_edges_toNat h, BitVec.toNat_udiv, BitVec.toNat_setWidth,
    Nat.mod_eq_of_lt (show _ < 2 ^ 64 by omega), edges_pos_iff hrest, rtc_edges,
    Rate.delivered_split h.length_pos]

/-- The periodic part of an advance is its edges. -/
theorem rtc_advance_periodic_eq :
    rtc_advance_periodic rtc elapsed_ticks =
      rtc.mark (set_pf_if (rtc_edges rtc elapsed_ticks.toNat)) rtc.calendar.second_ticks
        (rtc_periodic_left rtc elapsed_ticks.toNat) := by
  have hiff := rtc_periodic_edge_iff h elapsed_ticks
  unfold rtc_advance_periodic
  dsimp only
  rw [rtc_phase_left h elapsed_ticks h.periodic_lt]
  by_cases hedge : 0 < rtc_edges rtc elapsed_ticks.toNat
  · have hflag : set_pf_if (rtc_edges rtc elapsed_ticks.toNat) = fun flags => flags ||| rtc_c_pf :=
      funext fun flags => if_pos hedge
    rw [if_pos (hiff.mpr hedge), hflag]
    rfl
  · have hflag : set_pf_if (rtc_edges rtc elapsed_ticks.toNat) = fun flags => flags :=
      funext fun flags => if_neg hedge
    rw [if_neg (mt hiff.mp hedge), hflag]
    unfold Rtc.mark Rtc.map_c Rtc.set_register
    rw [Function.update_eq_self]
    rfl

/-- The seconds of an advance, as they are counted. -/
theorem rtc_seconds_toNat :
    (elapsed_ticks / rtc.second_length +
        (rtc.calendar.second_ticks + elapsed_ticks % rtc.second_length) /
          rtc.second_length).toNat =
      (rtc.calendar.second_ticks.toNat + elapsed_ticks.toNat) / rtc.second_length.toNat := by
  have hlen := h.length_pos
  have hst := h.second_lt
  have he := elapsed_ticks.isLt
  have hsplit := Nat.mod_add_div elapsed_ticks.toNat rtc.second_length.toNat
  have hsum : rtc.calendar.second_ticks.toNat + elapsed_ticks.toNat =
      rtc.calendar.second_ticks.toNat + elapsed_ticks.toNat % rtc.second_length.toNat +
        rtc.second_length.toNat * (elapsed_ticks.toNat / rtc.second_length.toNat) := by
    omega
  have hlt : (rtc.calendar.second_ticks.toNat + elapsed_ticks.toNat) / rtc.second_length.toNat <
      2 ^ 64 := by
    apply Nat.div_lt_of_lt_mul
    obtain ⟨k, hk⟩ := Nat.exists_eq_succ_of_ne_zero (Nat.ne_of_gt hlen)
    rw [hk] at hst ⊢
    omega
  rw [hsum, Nat.add_mul_div_left _ _ hlen] at hlt ⊢
  rw [BitVec.toNat_add, BitVec.toNat_udiv, BitVec.toNat_udiv,
    rtc_phase_toNat h elapsed_ticks h.second_lt, Nat.add_comm]
  exact Nat.mod_eq_of_lt hlt

/-- The seconds of an advance. -/
theorem rtc_advance_seconds_eq :
    rtc_advance_seconds rtc elapsed_ticks =
      rtc_pass_second^[rtc_seconds rtc elapsed_ticks.toNat]
        (rtc.mark id (rtc_second_phase rtc elapsed_ticks.toNat) rtc.calendar.periodic_ticks) := by
  have hstart : ({ rtc with calendar := { rtc.calendar with
      second_ticks := rtc_second_phase rtc elapsed_ticks.toNat } } : Rtc) =
      rtc.mark id (rtc_second_phase rtc elapsed_ticks.toNat) rtc.calendar.periodic_ticks := by
    unfold Rtc.mark Rtc.map_c Rtc.set_register
    rw [id_eq, Function.update_eq_self]
  unfold rtc_advance_seconds rtc_seconds
  dsimp only
  rw [rtc_phase_left h elapsed_ticks h.second_lt]
  by_cases hset : is_set rtc.reg_b rtc_b_set = true
  · rw [if_pos hset, if_pos hset, ← hstart]
    rfl
  · rw [if_neg hset, if_neg hset, rtc_seconds_toNat h, ← hstart]
    rfl

end Advance

theorem keepsFlags_pf (edges : ℕ) : KeepsFlags (set_pf_if edges) := by
  intro c
  unfold set_pf_if
  by_cases h : 0 < edges
  · rw [if_pos h, if_pos h, if_pos h]
    constructor
    · rw [BitVec.or_assoc, BitVec.or_comm rtc_c_uf, ← BitVec.or_assoc]
    · rw [BitVec.or_assoc, BitVec.or_comm rtc_c_af, ← BitVec.or_assoc]
  · rw [if_neg h, if_neg h, if_neg h]
    exact ⟨rfl, rfl⟩

/-- Neither the rates nor the length of a second depend on register C or on the phases. -/
theorem rtc_mark_bounded {rtc : Rtc} (h : RtcBounded rtc) (f : U8 → U8)
    {second_ticks periodic_ticks : U64} (hs : second_ticks.toNat < rtc.second_length.toNat)
    (hp : periodic_ticks.toNat < rtc.second_length.toNat) :
    RtcBounded (rtc.mark f second_ticks periodic_ticks) :=
  ⟨h.length_pos, hs, hp⟩

theorem rtc_second_phase_toNat {rtc : Rtc} (h : RtcBounded rtc) (n : ℕ) :
    (rtc_second_phase rtc n).toNat =
      (rtc.calendar.second_ticks.toNat + n) % rtc.second_length.toNat := by
  have hlen := second_length_lt rtc
  have hlt := Nat.mod_lt (rtc.calendar.second_ticks.toNat + n) h.length_pos
  rw [rtc_second_phase, BitVec.toNat_ofNat]
  exact Nat.mod_eq_of_lt (by omega)

theorem rtc_periodic_left_toNat {rtc : Rtc} (h : RtcBounded rtc) (n : ℕ) :
    (rtc_periodic_left rtc n).toNat =
      (rtc.calendar.periodic_ticks.toNat + n) % rtc.second_length.toNat := by
  have hlen := second_length_lt rtc
  have hlt := Nat.mod_lt (rtc.calendar.periodic_ticks.toNat + n) h.length_pos
  rw [rtc_periodic_left, BitVec.toNat_ofNat]
  exact Nat.mod_eq_of_lt (by omega)

/-- The advance is by some ticks, and the divider runs. -/
def RtcAdvances (rtc : Rtc) (elapsed_ticks : U64) : Prop :=
  ¬ (elapsed_ticks = 0 ∨ (!rtc_divider_running rtc) = true)

/-- An advance is what its ticks do, and the interrupt refreshed. -/
theorem rtc_advance_eq {rtc : Rtc} (h : RtcBounded rtc) {elapsed_ticks : U64}
    (hrun : RtcAdvances rtc elapsed_ticks) :
    rtc_advance rtc elapsed_ticks = rtc_refresh_irq (rtc_elapse rtc elapsed_ticks.toNat) := by
  have hp : (rtc_periodic_left rtc elapsed_ticks.toNat).toNat < rtc.second_length.toNat := by
    rw [rtc_periodic_left_toNat h]
    exact Nat.mod_lt _ h.length_pos
  have hseconds := rtc_advance_seconds_eq (rtc_mark_bounded h
    (set_pf_if (rtc_edges rtc elapsed_ticks.toNat)) h.second_lt hp) elapsed_ticks
  unfold rtc_advance
  rw [if_neg hrun, rtc_advance_periodic_eq h, hseconds, Rtc.mark_mark,
    Function.id_comp, rtc_pass_seconds_mark _ _ _ (keepsFlags_pf _)]
  rfl

/-! ## What an advance leaves -/

/-- All but the calendar, its fallback and register C. -/
structure RtcSameSettings (rtc rtc' : Rtc) : Prop where
  registers : ∀ reg, reg ≠ rtc_reg_c → rtc'.registers reg = rtc.registers reg
  register_count : rtc'.register_count = rtc.register_count
  output : rtc'.output = rtc.output
  ticks_per_second : rtc'.ticks_per_second = rtc.ticks_per_second
  uip_lead_ticks : rtc'.uip_lead_ticks = rtc.uip_lead_ticks
  update_ticks : rtc'.update_ticks = rtc.update_ticks

namespace RtcSameSettings

theorem refl (rtc : Rtc) : RtcSameSettings rtc rtc := ⟨fun _ _ => rfl, rfl, rfl, rfl, rfl, rfl⟩

theorem trans {a b c : Rtc} (h : RtcSameSettings a b) (h' : RtcSameSettings b c) :
    RtcSameSettings a c :=
  ⟨fun reg hreg => (h'.registers reg hreg).trans (h.registers reg hreg),
    h'.register_count.trans h.register_count, h'.output.trans h.output,
    h'.ticks_per_second.trans h.ticks_per_second, h'.uip_lead_ticks.trans h.uip_lead_ticks,
    h'.update_ticks.trans h.update_ticks⟩

theorem calendar (rtc : Rtc) (calendar : RtcCalendar) (daylight_fallback_done : Bool) :
    RtcSameSettings rtc { rtc with calendar, daylight_fallback_done } :=
  ⟨fun _ _ => rfl, rfl, rfl, rfl, rfl, rfl⟩

theorem mark (rtc : Rtc) (f : U8 → U8) (second_ticks periodic_ticks : U64) :
    RtcSameSettings rtc (rtc.mark f second_ticks periodic_ticks) :=
  ⟨fun _ hreg => Function.update_of_ne hreg _ _, rfl, rfl, rfl, rfl, rfl⟩

theorem map_c (rtc : Rtc) (f : U8 → U8) : RtcSameSettings rtc (rtc.map_c f) :=
  mark rtc f rtc.calendar.second_ticks rtc.calendar.periodic_ticks

variable {rtc rtc' : Rtc} (h : RtcSameSettings rtc rtc')
include h

theorem reg_a : rtc'.reg_a = rtc.reg_a := h.registers rtc_reg_a (by decide)

theorem reg_b : rtc'.reg_b = rtc.reg_b := h.registers rtc_reg_b (by decide)

theorem second_length : rtc'.second_length = rtc.second_length := by
  rw [Rtc.second_length, h.ticks_per_second]
  rfl

theorem periodic_hz : rtc_periodic_hz rtc' = rtc_periodic_hz rtc := by
  unfold rtc_periodic_hz rtc_divider_hz
  rw [h.reg_a]

theorem divider_running : rtc_divider_running rtc' = rtc_divider_running rtc := by
  unfold rtc_divider_running
  rw [h.reg_a]

end RtcSameSettings

theorem rtc_shift_hour_same (rtc : Rtc) : RtcSameSettings rtc (rtc_shift_hour rtc) := by
  unfold rtc_shift_hour
  dsimp only
  split_ifs
  · exact .calendar ..
  · exact .calendar ..
  · exact .refl rtc
  · exact .refl rtc

theorem rtc_next_day_same (rtc : Rtc) : RtcSameSettings rtc (rtc_next_day rtc) := by
  unfold rtc_next_day
  dsimp only
  split_ifs
  all_goals exact .calendar ..

theorem rtc_next_hour_same (rtc : Rtc) : RtcSameSettings rtc (rtc_next_hour rtc) := by
  have hshift := (RtcSameSettings.calendar rtc { rtc.calendar with hour := rtc.calendar.hour + 1 }
    rtc.daylight_fallback_done).trans (rtc_shift_hour_same _)
  unfold rtc_next_hour
  dsimp only
  split_ifs
  · exact hshift
  · exact hshift.trans (rtc_next_day_same _)

theorem rtc_next_minute_same (rtc : Rtc) : RtcSameSettings rtc (rtc_next_minute rtc) := by
  unfold rtc_next_minute
  dsimp only
  split_ifs
  · exact .calendar ..
  · exact (RtcSameSettings.calendar rtc _ _).trans (rtc_next_hour_same _)

theorem rtc_increment_second_same (rtc : Rtc) :
    RtcSameSettings rtc (rtc_increment_second rtc) := by
  unfold rtc_increment_second
  dsimp only
  split_ifs
  · exact .calendar ..
  · exact (RtcSameSettings.calendar rtc _ _).trans (rtc_next_minute_same _)

theorem rtc_pass_second_same (rtc : Rtc) : RtcSameSettings rtc (rtc_pass_second rtc) := by
  have hupdate := (rtc_increment_second_same rtc).trans (.map_c _ (· ||| rtc_c_uf))
  unfold rtc_pass_second
  dsimp only
  split_ifs
  · exact hupdate.trans (.map_c _ _)
  · exact hupdate

theorem rtc_pass_seconds_same (n : ℕ) (rtc : Rtc) :
    RtcSameSettings rtc (rtc_pass_second^[n] rtc) := by
  induction n with
  | zero => exact .refl rtc
  | succ n ih =>
    rw [Function.iterate_succ_apply']
    exact ih.trans (rtc_pass_second_same _)

theorem rtc_elapse_same (rtc : Rtc) (n : ℕ) : RtcSameSettings rtc (rtc_elapse rtc n) :=
  (rtc_pass_seconds_same _ rtc).trans (.mark ..)

/-- Register C with the interrupt flag that its flags and register B give. -/
def rtc_irq_flags (enable flags : U8) : U8 :=
  if rtc_flag_enabled flags enable then flags ||| rtc_c_irqf else flags &&& ~~~rtc_c_irqf

theorem rtc_refresh_irq_eq (rtc : Rtc) :
    (rtc_refresh_irq rtc).1 = rtc.map_c (rtc_irq_flags rtc.reg_b) := rfl

theorem rtc_refresh_irq_same (rtc : Rtc) : RtcSameSettings rtc (rtc_refresh_irq rtc).1 :=
  RtcSameSettings.map_c rtc (rtc_irq_flags rtc.reg_b)

theorem rtc_elapse_bounded {rtc : Rtc} (h : RtcBounded rtc) (n : ℕ) :
    RtcBounded (rtc_elapse rtc n) := by
  have hsame := (rtc_elapse_same rtc n).second_length
  constructor
  · rw [hsame]
    exact h.length_pos
  · rw [hsame]
    exact (rtc_second_phase_toNat h n).trans_lt (Nat.mod_lt _ h.length_pos)
  · rw [hsame]
    exact (rtc_periodic_left_toNat h n).trans_lt (Nat.mod_lt _ h.length_pos)

/-! ## Ticks add up -/

theorem rtc_edges_add {rtc : Rtc} (h : RtcBounded rtc) (a b : ℕ) :
    rtc_edges rtc (a + b) = rtc_edges rtc a + rtc_edges (rtc_elapse rtc a) b := by
  have hsame := rtc_elapse_same rtc a
  have hphase : rtc_periodic_phase (rtc_elapse rtc a) =
      Rate.carried (rtc_periodic_hz rtc).toNat rtc.second_length.toNat (rtc_periodic_phase rtc)
        a := by
    have hleft : (rtc_elapse rtc a).calendar.periodic_ticks.toNat =
        (rtc.calendar.periodic_ticks.toNat + a) % rtc.second_length.toNat :=
      rtc_periodic_left_toNat h a
    unfold rtc_periodic_phase Rate.carried
    rw [hsame.periodic_hz, hsame.second_length, hleft, Nat.mod_mul_mod, Nat.add_mul,
      Nat.add_mod_mod, Nat.add_comm]
  unfold rtc_edges
  rw [hphase, hsame.periodic_hz, hsame.second_length]
  exact Rate.delivered_add h.length_pos _ a b

theorem rtc_seconds_add {rtc : Rtc} (h : RtcBounded rtc) (a b : ℕ) :
    rtc_seconds rtc (a + b) = rtc_seconds rtc a + rtc_seconds (rtc_elapse rtc a) b := by
  have hsame := rtc_elapse_same rtc a
  have hphase : (rtc_elapse rtc a).calendar.second_ticks.toNat =
      (rtc.calendar.second_ticks.toNat + a) % rtc.second_length.toNat :=
    rtc_second_phase_toNat h a
  unfold rtc_seconds
  rw [hsame.reg_b, hsame.second_length, hphase]
  by_cases hset : is_set rtc.reg_b rtc_b_set = true
  · rw [if_pos hset, if_pos hset, if_pos hset]
  · have hsum : rtc.calendar.second_ticks.toNat + (a + b) =
        (rtc.calendar.second_ticks.toNat + a) % rtc.second_length.toNat + b +
          rtc.second_length.toNat *
            ((rtc.calendar.second_ticks.toNat + a) / rtc.second_length.toNat) := by
      have hsplit := Nat.mod_add_div (rtc.calendar.second_ticks.toNat + a) rtc.second_length.toNat
      omega
    rw [if_neg hset, if_neg hset, if_neg hset, hsum, Nat.add_mul_div_left _ _ h.length_pos,
      Nat.add_comm]

theorem rtc_second_phase_add {rtc : Rtc} (h : RtcBounded rtc) (a b : ℕ) :
    rtc_second_phase (rtc_elapse rtc a) b = rtc_second_phase rtc (a + b) := by
  have hleft : (rtc_elapse rtc a).calendar.second_ticks.toNat =
      (rtc.calendar.second_ticks.toNat + a) % rtc.second_length.toNat := rtc_second_phase_toNat h a
  unfold rtc_second_phase
  rw [(rtc_elapse_same rtc a).second_length, hleft, Nat.mod_add_mod, Nat.add_assoc]

theorem rtc_periodic_left_add {rtc : Rtc} (h : RtcBounded rtc) (a b : ℕ) :
    rtc_periodic_left (rtc_elapse rtc a) b = rtc_periodic_left rtc (a + b) := by
  have hleft : (rtc_elapse rtc a).calendar.periodic_ticks.toNat =
      (rtc.calendar.periodic_ticks.toNat + a) % rtc.second_length.toNat :=
    rtc_periodic_left_toNat h a
  unfold rtc_periodic_left
  rw [(rtc_elapse_same rtc a).second_length, hleft, Nat.mod_add_mod, Nat.add_assoc]

theorem set_pf_if_comp (a b : ℕ) : set_pf_if b ∘ set_pf_if a = set_pf_if (a + b) := by
  funext c
  unfold set_pf_if
  dsimp only [Function.comp]
  by_cases ha : 0 < a
  · rw [if_pos ha, if_pos (show 0 < a + b by omega)]
    by_cases hb : 0 < b
    · rw [if_pos hb, BitVec.or_assoc, BitVec.or_self]
    · rw [if_neg hb]
  · rw [if_neg ha, show a + b = b by omega]

/-- However the ticks are split up, the clock comes to the same. -/
theorem rtc_elapse_add {rtc : Rtc} (h : RtcBounded rtc) (a b : ℕ) :
    rtc_elapse (rtc_elapse rtc a) b = rtc_elapse rtc (a + b) := by
  have hseconds : rtc_pass_second^[rtc_seconds (rtc_elapse rtc a) b] (rtc_elapse rtc a) =
      (rtc_pass_second^[rtc_seconds rtc (a + b)] rtc).mark (set_pf_if (rtc_edges rtc a))
        (rtc_second_phase rtc a) (rtc_periodic_left rtc a) := by
    rw [rtc_seconds_add h, Nat.add_comm, Function.iterate_add_apply]
    exact rtc_pass_seconds_mark _ _ _ (keepsFlags_pf _) _
  have hall : rtc_elapse (rtc_elapse rtc a) b =
      (rtc_pass_second^[rtc_seconds (rtc_elapse rtc a) b] (rtc_elapse rtc a)).mark
        (set_pf_if (rtc_edges (rtc_elapse rtc a) b)) (rtc_second_phase (rtc_elapse rtc a) b)
        (rtc_periodic_left (rtc_elapse rtc a) b) := rfl
  rw [hall, hseconds, Rtc.mark_mark, set_pf_if_comp, ← rtc_edges_add h, rtc_second_phase_add h,
    rtc_periodic_left_add h]
  rfl

/-! ## The interrupt, once at the end -/

/-- Register C without the interrupt flag. -/
def without_irqf (flags : U8) : U8 := flags &&& ~~~rtc_c_irqf

theorem rtc_flag_enabled_without_irqf (enable flags : U8) :
    rtc_flag_enabled (without_irqf flags) enable = rtc_flag_enabled flags enable := by
  unfold rtc_flag_enabled without_irqf
  rw [is_set_masked _ (by decide), is_set_masked _ (by decide), is_set_masked _ (by decide)]

/-- The interrupt flag is not an input of its own refresh. -/
theorem rtc_irq_flags_without_irqf (enable : U8) :
    rtc_irq_flags enable ∘ without_irqf = rtc_irq_flags enable := by
  have hset : ∀ flags : U8, without_irqf flags ||| rtc_c_irqf = flags ||| rtc_c_irqf := by decide
  have hclear : ∀ flags : U8, without_irqf flags &&& ~~~rtc_c_irqf = flags &&& ~~~rtc_c_irqf := by
    decide
  funext flags
  unfold rtc_irq_flags
  dsimp only [Function.comp]
  rw [rtc_flag_enabled_without_irqf, hset, hclear]

theorem without_irqf_irq_flags (enable : U8) :
    without_irqf ∘ rtc_irq_flags enable = without_irqf := by
  have hset : ∀ flags : U8, without_irqf (flags ||| rtc_c_irqf) = without_irqf flags := by decide
  have hclear : ∀ flags : U8, without_irqf (flags &&& ~~~rtc_c_irqf) = without_irqf flags := by
    decide
  funext flags
  unfold rtc_irq_flags
  dsimp only [Function.comp]
  by_cases h : rtc_flag_enabled flags enable = true
  · rw [if_pos h, hset]
  · rw [if_neg h, hclear]

theorem keepsFlags_without_irqf : KeepsFlags without_irqf := by
  unfold KeepsFlags
  decide

/-- What keeps every flag may be done before the ticks or after. -/
theorem rtc_elapse_map_c (rtc : Rtc) {f : U8 → U8} (hf : KeepsFlags f)
    (hpf : ∀ c, f (c ||| rtc_c_pf) = f c ||| rtc_c_pf) (n : ℕ) :
    rtc_elapse (rtc.map_c f) n = (rtc_elapse rtc n).map_c f := by
  have hcomp (edges : ℕ) : set_pf_if edges ∘ f = f ∘ set_pf_if edges := by
    funext c
    unfold set_pf_if
    dsimp only [Function.comp]
    by_cases h : 0 < edges
    · rw [if_pos h, if_pos h, hpf]
    · rw [if_neg h, if_neg h]
  have hseconds := rtc_pass_seconds_mark rtc rtc.calendar.second_ticks rtc.calendar.periodic_ticks
    hf (rtc_seconds rtc n)
  have hall : rtc_elapse (rtc.map_c f) n =
      (rtc_pass_second^[rtc_seconds rtc n]
        (rtc.mark f rtc.calendar.second_ticks rtc.calendar.periodic_ticks)).mark
        (set_pf_if (rtc_edges rtc n)) (rtc_second_phase rtc n) (rtc_periodic_left rtc n) := rfl
  rw [hall, hseconds, Rtc.mark_mark, hcomp, ← Rtc.mark_map_c]
  rfl

/-- The interrupt refreshed on the way makes no difference. -/
theorem rtc_refresh_elapse (rtc : Rtc) (n : ℕ) :
    (rtc_refresh_irq (rtc_elapse (rtc_refresh_irq rtc).1 n)).1 =
      (rtc_refresh_irq (rtc_elapse rtc n)).1 := by
  have hclear (rtc : Rtc) :
      (rtc_refresh_irq (rtc.map_c without_irqf)).1 = (rtc_refresh_irq rtc).1 := by
    rw [rtc_refresh_irq_eq, rtc_refresh_irq_eq, Rtc.map_c_map_c, Rtc.map_c_reg_b,
      rtc_irq_flags_without_irqf]
  have hboth : (rtc_refresh_irq rtc).1.map_c without_irqf = rtc.map_c without_irqf := by
    rw [rtc_refresh_irq_eq, Rtc.map_c_map_c, without_irqf_irq_flags]
  have hpf : ∀ c, without_irqf (c ||| rtc_c_pf) = without_irqf c ||| rtc_c_pf := by decide
  rw [← hclear, ← rtc_elapse_map_c _ keepsFlags_without_irqf hpf, hboth,
    rtc_elapse_map_c _ keepsFlags_without_irqf hpf, hclear]

/-! ## The output -/

/-- The level that the calls leave on an output that stood at the interrupt flag. -/
def rtc_output_level (rtc : Rtc) (calls : List Bool) : Bool := calls.getLastD (rtc_irqf rtc)

/-- The calendar does not write to register C. -/
theorem rtc_increment_second_reg_c (rtc : Rtc) :
    (rtc_increment_second rtc).reg_c = rtc.reg_c := by
  have hsame : rtc.mark (fun _ => rtc.reg_c) rtc.calendar.second_ticks
      rtc.calendar.periodic_ticks = rtc := by
    unfold Rtc.mark Rtc.map_c Rtc.set_register Rtc.reg_c
    rw [Function.update_eq_self]
  have hmark := rtc_increment_second_mark rtc (fun _ => rtc.reg_c) rtc.calendar.second_ticks
    rtc.calendar.periodic_ticks
  rw [hsame] at hmark
  rw [hmark]
  rfl

/-- The flags leave the interrupt flag to its refresh. -/
theorem rtc_elapse_irqf (rtc : Rtc) (n : ℕ) : rtc_irqf (rtc_elapse rtc n) = rtc_irqf rtc := by
  have hor : ∀ flags : U8, is_set (flags ||| rtc_c_uf) rtc_c_irqf = is_set flags rtc_c_irqf ∧
      is_set (flags ||| rtc_c_af) rtc_c_irqf = is_set flags rtc_c_irqf ∧
      is_set (flags ||| rtc_c_pf) rtc_c_irqf = is_set flags rtc_c_irqf := by decide
  have hsecond (rtc : Rtc) : rtc_irqf (rtc_pass_second rtc) = rtc_irqf rtc := by
    have hupdate : rtc_irqf ((rtc_increment_second rtc).map_c (· ||| rtc_c_uf)) =
        rtc_irqf rtc := by
      unfold rtc_irqf
      rw [Rtc.map_c_reg_c, rtc_increment_second_reg_c]
      exact (hor _).1
    unfold rtc_pass_second
    dsimp only
    split_ifs
    · exact ((hor _).2.1).trans hupdate
    · exact hupdate
  have hseconds (k : ℕ) : rtc_irqf (rtc_pass_second^[k] rtc) = rtc_irqf rtc := by
    induction k with
    | zero => rfl
    | succ k ih => rw [Function.iterate_succ_apply', hsecond, ih]
  rw [← hseconds (rtc_seconds rtc n)]
  unfold rtc_elapse rtc_irqf set_pf_if
  rw [Rtc.mark_reg_c]
  split_ifs
  · exact (hor _).2.2
  · rfl

/-- The output follows the interrupt flag. -/
theorem rtc_refresh_irq_level (rtc : Rtc) :
    rtc_output_level rtc (rtc_refresh_irq rtc).2 =
      if rtc.output then rtc_irqf (rtc_refresh_irq rtc).1 else rtc_irqf rtc := by
  have hcalls : (rtc_refresh_irq rtc).2 =
      if rtc.output && rtc_irqf rtc != rtc_irqf (rtc_refresh_irq rtc).1 then [!rtc_irqf rtc]
      else [] := rfl
  rw [hcalls]
  unfold rtc_output_level
  cases rtc.output <;> cases rtc_irqf rtc <;> cases rtc_irqf (rtc_refresh_irq rtc).1 <;> rfl

theorem rtc_advance_level {rtc : Rtc} (h : RtcBounded rtc) {elapsed_ticks : U64}
    (hrun : RtcAdvances rtc elapsed_ticks) :
    rtc_output_level rtc (rtc_advance rtc elapsed_ticks).2 =
      if rtc.output then rtc_irqf (rtc_advance rtc elapsed_ticks).1 else rtc_irqf rtc := by
  have hlevel := rtc_refresh_irq_level (rtc_elapse rtc elapsed_ticks.toNat)
  unfold rtc_output_level at hlevel ⊢
  rw [rtc_elapse_irqf, (rtc_elapse_same rtc elapsed_ticks.toNat).output] at hlevel
  rw [rtc_advance_eq h hrun]
  exact hlevel

/-- The last call of two series is that of the second, or else of the first. -/
theorem rtc_output_level_append {rtc rtc' : Rtc} {calls calls' : List Bool}
    (h : rtc_output_level rtc calls = rtc_irqf rtc') :
    rtc_output_level rtc (calls ++ calls') = rtc_output_level rtc' calls' := by
  unfold rtc_output_level at h ⊢
  rw [← h, List.getLastD_eq_getLast?, List.getLastD_eq_getLast?, List.getLastD_eq_getLast?,
    List.getLast?_append]
  cases calls'.getLast? <;> rfl

theorem rtc_advance_idle {rtc : Rtc} {elapsed_ticks : U64} (h : ¬ RtcAdvances rtc elapsed_ticks) :
    rtc_advance rtc elapsed_ticks = (rtc, []) :=
  if_pos (not_not.mp h)

theorem rtc_advance_same (rtc : Rtc) (elapsed_ticks : U64) (h : RtcBounded rtc) :
    RtcSameSettings rtc (rtc_advance rtc elapsed_ticks).1 := by
  by_cases hrun : RtcAdvances rtc elapsed_ticks
  · rw [rtc_advance_eq h hrun]
    exact (rtc_elapse_same rtc _).trans (rtc_refresh_irq_same _)
  · rw [rtc_advance_idle hrun]
    exact .refl rtc

theorem rtc_advance_bounded {rtc : Rtc} (h : RtcBounded rtc) (elapsed_ticks : U64) :
    RtcBounded (rtc_advance rtc elapsed_ticks).1 := by
  by_cases hrun : RtcAdvances rtc elapsed_ticks
  · have helapse := rtc_elapse_bounded h elapsed_ticks.toNat
    rw [rtc_advance_eq h hrun]
    exact ⟨helapse.length_pos, helapse.second_lt, helapse.periodic_lt⟩
  · rw [rtc_advance_idle hrun]
    exact h

/-- Without a provider nothing is called. -/
theorem rtc_advance_silent {rtc : Rtc} (h : RtcBounded rtc) (hout : rtc.output = false)
    (elapsed_ticks : U64) : (rtc_advance rtc elapsed_ticks).2 = [] := by
  by_cases hrun : RtcAdvances rtc elapsed_ticks
  · have hout' : (rtc_elapse rtc elapsed_ticks.toNat).output = false :=
      (rtc_elapse_same rtc _).output.trans hout
    rw [rtc_advance_eq h hrun, rtc_refresh_irq]
    dsimp only
    rw [hout', Bool.false_and, if_neg Bool.false_ne_true]
  · rw [rtc_advance_idle hrun]

/-- Both advances move the clock. -/
theorem rtc_advance_add_clock {rtc : Rtc} (h : RtcBounded rtc) {a b : U64}
    (hsum : a.toNat + b.toNat < 2 ^ 64) (ha : RtcAdvances rtc a)
    (hb : RtcAdvances (rtc_advance rtc a).1 b) :
    RtcAdvances rtc (a + b) ∧
      (rtc_advance (rtc_advance rtc a).1 b).1 = (rtc_advance rtc (a + b)).1 := by
  have hadd : (a + b).toNat = a.toNat + b.toNat := by
    rw [BitVec.toNat_add]
    exact Nat.mod_eq_of_lt hsum
  have hab : RtcAdvances rtc (a + b) := by
    obtain ⟨hne, hrun⟩ := not_or.mp ha
    refine not_or.mpr ⟨fun h0 => hne ?_, hrun⟩
    apply BitVec.eq_of_toNat_eq
    have hzero := congrArg BitVec.toNat h0
    rw [hadd] at hzero
    exact Nat.eq_zero_of_add_eq_zero_right hzero
  refine ⟨hab, ?_⟩
  rw [rtc_advance_eq (rtc_advance_bounded h a) hb, rtc_advance_eq h hab, rtc_advance_eq h ha,
    rtc_refresh_elapse, rtc_elapse_add h, hadd]

/-- A clock of ten ticks a second and two periodic interrupts, just created. -/
def rtc_ten_ticks (periodic_ticks : U64) : Rtc :=
  { registers := Function.update (fun _ => 0) rtc_reg_a 0x2f
    register_count := rtc_default_register_count
    calendar :=
      { second := 0, minute := 0, hour := 0, day_week := 6, day_month := 1, month := 1, year := 0
        second_ticks := 0, periodic_ticks }
    output := true
    ticks_per_second := 10
    uip_lead_ticks := 1
    update_ticks := 1
    daylight_fallback_done := false }

end Nxvm.Chips
