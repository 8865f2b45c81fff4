/-
The counters of the audio unit stay in the ranges the reader of a stored unit
checks.

Most clocks of the unit touch none of them; the ones that do are taken one by one.
The frame counter is below the limit of its own mode because every write to the
mode register restarts it.
-/
import Mathlib.Data.BitVec
import Nxvm.Nes.Apu

set_option autoImplicit false

namespace Nxvm.Nes

open Nxvm.Lib Nxvm.Lib.Bits

/-- The cycle at which the frame counter starts over. -/
def frame_limit (frame_mode : U8) : ℕ := if frame_mode = 0 then 29829 else 37281

/-- The ranges of the unit's counters. -/
structure ApuCounters (pulse_phase : Table 2 U8)
    (triangle_phase linear bits output mode : U8) (cycles phase : U32) : Prop where
  pulse_phase_le : ∀ i, (pulse_phase i).toNat ≤ 7
  triangle_phase_le : triangle_phase.toNat ≤ 31
  linear_le : linear.toNat ≤ 127
  bits_le : bits.toNat ≤ 8
  output_le : output.toNat ≤ 127
  mode_le : mode.toNat ≤ 1
  cycles_lt : cycles.toNat < frame_limit mode
  phase_lt : phase.toNat < 236250000

/-- What the readers of a stored unit accept. -/
def Apu.InRange (apu : Apu) : Prop :=
  ApuCounters apu.pulse_phase apu.triangle_phase apu.triangle_linear apu.dmc_bits
    apu.dmc_output apu.frame_mode apu.frame_cycles apu.sample_phase

theorem apu_reset_in_range : core_apu_reset.InRange :=
  ⟨fun _ => (by decide : (0 : U8).toNat ≤ 7), by decide, by decide, by decide, by decide, by decide, by decide,
    by decide⟩

theorem frame_limit_pos (mode : U8) : 0 < frame_limit mode := by
  unfold frame_limit
  split <;> decide

/-! ## The frame sequencer -/

theorem clock_length_in_range {apu : Apu} (h : apu.InRange) :
    (core_apu_clock_length apu).InRange := h

theorem clock_sweep_in_range {apu : Apu} (h : apu.InRange) (channel : Fin 2) :
    (core_apu_clock_sweep apu channel).InRange := h

theorem clock_quarter_frame_in_range {apu : Apu} (h : apu.InRange) :
    (core_apu_clock_quarter_frame apu).InRange := by
  have hlinear := h.linear_le
  refine ⟨h.1, h.2, ?_, h.4, h.5, h.6, h.7, h.8⟩
  dsimp only [core_apu_clock_quarter_frame]
  have hmask : (apu.registers 8 &&& 0x7f).toNat ≤ 127 := and_toNat_le _ 0x7f
  split_ifs
  · exact hmask
  · bv_omega
  · exact hlinear

theorem clock_half_frame_in_range {apu : Apu} (h : apu.InRange) :
    (clock_half_frame apu).InRange :=
  clock_sweep_in_range (clock_sweep_in_range
    (clock_length_in_range (clock_quarter_frame_in_range h)) 0) 1

/-- The counter reaches the limit of its mode only to start over. -/
theorem clock_frame_in_range {apu : Apu} (h : apu.InRange) :
    (core_apu_clock_frame apu).InRange := by
  have hlt := h.cycles_lt
  have hmode := h.mode_le
  unfold core_apu_clock_frame
  dsimp only
  generalize hn : apu.frame_cycles + 1 = next
  have hnext : next.toNat = apu.frame_cycles.toNat + 1 := by
    unfold frame_limit at hlt
    split at hlt <;> bv_omega
  -- The ranges with the counter anywhere below its limit.
  have hat : ∀ cycles : U32, cycles.toNat < frame_limit apu.frame_mode →
      Apu.InRange { apu with frame_cycles := cycles } :=
    fun cycles hc => ⟨h.1, h.2, h.3, h.4, h.5, h.6, hc, h.8⟩
  have hzero : ∀ apu' : Apu, apu'.InRange → Apu.InRange { apu' with frame_cycles := 0 } :=
    fun apu' h' => ⟨h'.1, h'.2, h'.3, h'.4, h'.5, h'.6, frame_limit_pos _, h'.8⟩
  have hlimit : frame_limit apu.frame_mode = 29829 ∨ frame_limit apu.frame_mode = 37281 := by
    unfold frame_limit
    split
    · exact Or.inl rfl
    · exact Or.inr rfl
  split
  · rename_i h1
    refine clock_quarter_frame_in_range (hat next ?_)
    rcases h1 with h1 | h1 <;> subst h1 <;> rcases hlimit with hl | hl <;> rw [hl] <;> decide
  split
  · rename_i h2
    refine clock_half_frame_in_range (hat next ?_)
    subst h2
    rcases hlimit with hl | hl <;> rw [hl] <;> decide
  split
  · have hhalf := hzero _ (clock_half_frame_in_range (hat 0 (frame_limit_pos _)))
    exact hhalf
  split
  · have hhalf := hzero _ (clock_half_frame_in_range (hat 0 (frame_limit_pos _)))
    exact hhalf
  · rename_i h3 h4
    refine hat next ?_
    have hne : next.toNat ≠ frame_limit apu.frame_mode := by
      intro heq
      by_cases hm : apu.frame_mode = 0
      · rw [frame_limit, if_pos hm] at heq
        exact h3 ⟨hm, BitVec.eq_of_toNat_eq heq⟩
      · rw [frame_limit, if_neg hm] at heq
        exact h4 ⟨hm, BitVec.eq_of_toNat_eq heq⟩
    omega

/-! ## One cycle -/

theorem tick_pulses_in_range {apu : Apu} (h : apu.InRange) : (tick_pulses apu).InRange := by
  unfold tick_pulses
  dsimp only
  split
  · exact h
  · refine ⟨fun i => ?_, h.2, h.3, h.4, h.5, h.6, h.7, h.8⟩
    dsimp only
    split
    · exact and_toNat_le _ 7
    · exact h.1 i

theorem tick_triangle_in_range {apu : Apu} (h : apu.InRange) :
    (tick_triangle apu).InRange := by
  unfold tick_triangle
  split
  · refine ⟨h.1, ?_, h.3, h.4, h.5, h.6, h.7, h.8⟩
    dsimp only
    split
    · exact and_toNat_le _ 31
    · exact h.2
  · exact h

theorem tick_noise_in_range {apu : Apu} (h : apu.InRange) : (tick_noise apu).InRange := by
  unfold tick_noise
  split <;> exact h

theorem refill_dmc_in_range {apu : Apu} (h : apu.InRange) : (refill_dmc apu).InRange := by
  unfold refill_dmc
  split
  · exact ⟨h.1, h.2, h.3, (by decide : (8 : U8).toNat ≤ 8), h.5, h.6, h.7, h.8⟩
  · exact h

theorem shift_dmc_in_range {apu : Apu} (h : apu.InRange) : (shift_dmc apu).InRange := by
  have hbits := h.bits_le
  have hout := h.output_le
  unfold shift_dmc
  split
  · refine ⟨h.1, h.2, h.3, ?_, ?_, h.6, h.7, h.8⟩
    · dsimp only
      bv_omega
    · dsimp only
      split_ifs <;> bv_omega
  · exact h

theorem tick_dmc_in_range {apu : Apu} (h : apu.InRange) : (tick_dmc apu).InRange := by
  unfold tick_dmc
  dsimp only
  split
  · generalize hd : ({ apu with dmc_counter := _ } : Apu) = apu'
    have h' : apu'.InRange := hd ▸ h
    have hs := shift_dmc_in_range (refill_dmc_in_range h')
    split <;> exact hs
  · exact h

theorem emit_sample_phase (apu : Apu) :
    (core_apu_emit_sample apu).sample_phase = apu.sample_phase := by
  unfold core_apu_emit_sample
  split <;> rfl

/-- Every pass takes one period off, and the last one leaves less than a period. -/
theorem resample_in_range (n : ℕ) (apu : Apu)
    (h : Apu.InRange { apu with sample_phase := 0 })
    (hn : apu.sample_phase.toNat / 236250000 = n) : (resample^[n] apu).InRange := by
  induction n generalizing apu with
  | zero =>
    rw [Function.iterate_zero, id]
    exact ⟨h.1, h.2, h.3, h.4, h.5, h.6, h.7, by omega⟩
  | succ n ih =>
    rw [Function.iterate_succ_apply]
    refine ih (resample apu) ?_ ?_
    · unfold resample core_apu_emit_sample
      dsimp only
      split <;> exact h
    · rw [resample, emit_sample_phase]
      have hlt := apu.sample_phase.isLt
      bv_omega

theorem tick_samples_in_range {apu : Apu} (h : apu.InRange) : (tick_samples apu).InRange :=
  resample_in_range _ _ ⟨h.1, h.2, h.3, h.4, h.5, h.6, h.7,
    (by decide : (0 : U32).toNat < 236250000)⟩ rfl

/-- **One cycle** keeps every counter in range. -/
theorem apu_tick_in_range {apu : Apu} (h : apu.InRange) : (core_apu_tick apu).InRange :=
  tick_samples_in_range (tick_dmc_in_range (tick_noise_in_range (tick_triangle_in_range
    (tick_pulses_in_range (clock_frame_in_range h)))))

/-! ## Registers and transfers -/

theorem pulse_write_in_range {apu : Apu} (h : apu.InRange) (channel : Fin 2) (k value : U8) :
    (pulse_write apu channel k value).InRange := by
  unfold pulse_write
  split
  · exact h
  split
  · refine ⟨fun i => ?_, h.2, h.3, h.4, h.5, h.6, h.7, h.8⟩
    dsimp only
    split
    · exact Nat.zero_le _
    · exact h.1 i
  split <;> exact h

theorem enable_write_in_range {apu : Apu} (h : apu.InRange) (value : U8) :
    (enable_write apu value).InRange := by
  unfold enable_write
  dsimp only
  split_ifs <;> exact h

theorem frame_write_in_range {apu : Apu} (h : apu.InRange) (value : U8) :
    (frame_write apu value).InRange := by
  have hf : ∀ irq : Bool, Apu.InRange { apu with
      frame_mode := (value >>> 7) &&& 1, frame_cycles := 0, frame_irq := irq } :=
    fun irq => ⟨h.1, h.2, h.3, h.4, h.5, and_toNat_le _ 1, frame_limit_pos _, h.8⟩
  unfold frame_write
  dsimp only
  split
  · exact clock_length_in_range (hf _)
  · exact hf _

/-- **Every register write** keeps the counters in range. -/
theorem apu_cpu_write_in_range {apu : Apu} (h : apu.InRange) (register_index value : U8) :
    (core_apu_cpu_write apu register_index value).InRange := by
  unfold core_apu_cpu_write
  dsimp only
  split
  · exact h
  have h' : Apu.InRange { apu with
    registers := fun i => if i.val = register_index.toNat then value else apu.registers i } := h
  split
  · exact pulse_write_in_range h' _ _ _
  split
  · exact h'
  split
  · exact h'
  split
  · exact enable_write_in_range h' value
  split
  · exact frame_write_in_range h' value
  · exact h'

theorem apu_cpu_read_in_range {apu : Apu} (h : apu.InRange) :
    (core_apu_cpu_read apu).2.InRange := h

theorem take_dmc_request_in_range {apu apu' : Apu} {address : U16} (h : apu.InRange)
    (ht : core_apu_take_dmc_request apu = some (address, apu')) : apu'.InRange := by
  unfold core_apu_take_dmc_request at ht
  split at ht
  · simp at ht
  · simp only [Option.some.injEq, Prod.mk.injEq] at ht
    exact ht.2 ▸ h

theorem complete_dmc_read_in_range {apu : Apu} (h : apu.InRange) (value : U8) :
    (core_apu_complete_dmc_read apu value).InRange := by
  unfold core_apu_complete_dmc_read
  dsimp only
  split_ifs <;> exact h

theorem take_samples_in_range (capacity : ℕ) {apu : Apu} (h : apu.InRange) :
    (core_apu_take_samples capacity apu).2.InRange := by
  induction capacity generalizing apu with
  | zero => exact h
  | succ capacity ih =>
    rw [core_apu_take_samples]
    split
    · exact h
    · exact ih h

end Nxvm.Nes
