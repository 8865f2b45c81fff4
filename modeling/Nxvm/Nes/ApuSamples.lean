/-
The samples of the audio unit (`apu.c`).

The unit converts its cycles into samples at a fixed rate, carrying a phase, and puts the
samples into a ring that a reader empties at times of its own. A sample that finds the ring
full is dropped and counted. Here a run of the unit is followed with what it emits, drops and
hands out: the samples due are the emitted and the dropped ones, and the reader gets what was
emitted, in order, with the rest in the ring.
-/
import Nxvm.Lib.Ring
import Nxvm.Nes.Accepted

set_option autoImplicit false

namespace Nxvm.Nes

open Nxvm.Lib Nxvm.Lib.Bits

/-! ## The ring -/

/-- The fields that the sampling works on. -/
structure Sampler where
  sample_phase : U32
  samples : Table 512 U32
  sample_read : Fin 512
  sample_write : Fin 512
  sample_count : U16
  dropped_samples : U64

def sampler (apu : Apu) : Sampler :=
  { sample_phase := apu.sample_phase, samples := apu.samples, sample_read := apu.sample_read
    sample_write := apu.sample_write, sample_count := apu.sample_count
    dropped_samples := apu.dropped_samples }

/-- The slots of the ring, round and round. -/
def ring_slots (samples : Table 512 U32) (i : ℕ) : U32 := samples (Fin.ofNat 512 i)

/-- The samples that wait in the ring, the oldest first. -/
def Sampler.queued (sampler : Sampler) : List U32 :=
  Ring.window 512 (ring_slots sampler.samples) sampler.sample_read.val sampler.sample_count.toNat

/-- The places in the ring fit its count. -/
structure Sampler.Sound (sampler : Sampler) : Prop where
  count_le : sampler.sample_count.toNat ≤ 512
  write_eq : sampler.sample_write.val =
    (sampler.sample_read.val + sampler.sample_count.toNat) % 512

/-- A sample at the place of the next one. -/
def Sampler.push (s : Sampler) (sample : U32) : Sampler :=
  { s with
    samples := fun i => if i = s.sample_write then sample else s.samples i
    sample_write := s.sample_write + 1
    sample_count := s.sample_count + 1 }

/-- The ring without its oldest sample. -/
def Sampler.pop (s : Sampler) : Sampler :=
  { s with sample_read := s.sample_read + 1, sample_count := s.sample_count - 1 }

/-- A slot that is written is the slot of one place. -/
theorem ring_slots_write (samples : Table 512 U32) (place : Fin 512) (sample : U32) {i : ℕ}
    (h : i < 512) :
    ring_slots (fun j => if j = place then sample else samples j) i =
      Function.update (ring_slots samples) place.val sample i := by
  rw [ring_slots, Function.update_apply, ring_slots]
  have hval : (Fin.ofNat 512 i).val = i := Nat.mod_eq_of_lt h
  by_cases hplace : i = place.val
  · rw [if_pos hplace, if_pos (Fin.ext (hval.trans hplace))]
  · rw [if_neg hplace, if_neg]
    intro heq
    exact hplace (hval.symm.trans (congrArg Fin.val heq))

theorem push_count {s : Sampler} (hsound : s.Sound) (hroom : s.sample_count ≠ 512) :
    s.sample_count.toNat < 512 ∧ (s.sample_count + 1).toNat = s.sample_count.toNat + 1 := by
  have hle := hsound.count_le
  have hlt : s.sample_count.toNat < 512 := by
    refine Nat.lt_of_le_of_ne hle fun heq => hroom ?_
    exact BitVec.eq_of_toNat_eq heq
  exact ⟨hlt, by bv_omega⟩

/-- A sample that finds room is the last of the ring. -/
theorem queued_push {s : Sampler} (hsound : s.Sound) (hroom : s.sample_count ≠ 512)
    (sample : U32) : (s.push sample).queued = s.queued ++ [sample] := by
  obtain ⟨hlt, hcount⟩ := push_count hsound hroom
  rw [Sampler.queued, Sampler.push, hcount,
    Ring.window_congr (by decide) fun i => ring_slots_write s.samples s.sample_write sample,
    hsound.write_eq]
  exact @Ring.window_push _ _ [sample] _ _ _ hlt

theorem push_sound {s : Sampler} (hsound : s.Sound) (hroom : s.sample_count ≠ 512)
    (sample : U32) : (s.push sample).Sound := by
  obtain ⟨hlt, hcount⟩ := push_count hsound hroom
  have hwrite := hsound.write_eq
  have hnext : (s.sample_write + 1).val = (s.sample_write.val + 1) % 512 := rfl
  constructor
  · change (s.sample_count + 1).toNat ≤ 512
    omega
  · change (s.sample_write + 1).val = (s.sample_read.val + (s.sample_count + 1).toNat) % 512
    omega

/-- The oldest sample of the ring is the next one taken. -/
theorem queued_pop {s : Sampler} (h : s.sample_count ≠ 0) :
    s.queued = s.samples s.sample_read :: s.pop.queued := by
  have hcount : s.sample_count.toNat = 1 + (s.sample_count - 1).toNat := by bv_omega
  have hnext : (s.sample_read + 1).val = (s.sample_read.val + 1) % 512 := rfl
  have hfirst : Fin.ofNat 512 ((s.sample_read.val + 0) % 512) = s.sample_read := by
    apply Fin.ext
    have hlt := s.sample_read.isLt
    change (s.sample_read.val + 0) % 512 % 512 = s.sample_read.val
    omega
  have hone : Ring.window 512 (ring_slots s.samples) s.sample_read.val 1 =
      [s.samples s.sample_read] := by
    rw [Ring.window, List.range_one, List.map_singleton, ring_slots, hfirst]
  rw [Sampler.queued, Sampler.queued, Sampler.pop, hcount, ← Ring.window_append, hnext,
    Ring.window_mod, hone]
  rfl

theorem pop_sound {s : Sampler} (hsound : s.Sound) (h : s.sample_count ≠ 0) : s.pop.Sound := by
  have hle := hsound.count_le
  have hwrite := hsound.write_eq
  have hcount : s.sample_count.toNat = 1 + (s.sample_count - 1).toNat := by bv_omega
  have hnext : (s.sample_read + 1).val = (s.sample_read.val + 1) % 512 := rfl
  constructor
  · change (s.sample_count - 1).toNat ≤ 512
    omega
  · change s.sample_write.val = ((s.sample_read + 1).val + (s.sample_count - 1).toNat) % 512
    omega

/-! ## What the unit emits -/

/-- What `core_apu_emit_sample` puts into the ring: nothing when it is full. -/
def emitted_sample (apu : Apu) : Option U32 :=
  if apu.sample_count = 512 then none else some (clamp_sample (mixed_level apu))

/-- A full ring drops the sample. -/
theorem emit_sample_dropped {apu : Apu} (h : emitted_sample apu = none) :
    sampler (core_apu_emit_sample apu) =
      { sampler apu with dropped_samples := apu.dropped_samples + 1 } := by
  have hfull : apu.sample_count = 512 := by
    by_contra hroom
    rw [emitted_sample, if_neg hroom] at h
    cases h
  rw [core_apu_emit_sample, if_pos hfull]
  rfl

theorem emit_sample_pushed {apu : Apu} {sample : U32} (h : emitted_sample apu = some sample) :
    apu.sample_count ≠ 512 ∧
      sampler (core_apu_emit_sample apu) = (sampler apu).push sample := by
  by_cases hfull : apu.sample_count = 512
  · rw [emitted_sample, if_pos hfull] at h
    cases h
  · rw [emitted_sample, if_neg hfull] at h
    rw [core_apu_emit_sample, if_neg hfull, Option.some.inj h]
    exact ⟨hfull, rfl⟩

/-- What the passes of the resampling loop emit: nothing for a sample that is dropped. -/
def resampled : ℕ → Apu → List (Option U32)
  | 0, _ => []
  | passes + 1, apu => emitted_sample apu :: resampled passes (resample apu)

/-- The unit as the resampling loop of a cycle meets it. -/
def before_samples (apu : Apu) : Apu :=
  let apu := tick_dmc (tick_noise (tick_triangle (tick_pulses (core_apu_clock_frame apu))))
  { apu with sample_phase := apu.sample_phase + 6336000 }

/-- What a cycle emits. -/
def tick_emits (apu : Apu) : List (Option U32) :=
  resampled ((before_samples apu).sample_phase.toNat / 236250000) (before_samples apu)

theorem core_apu_tick_eq (apu : Apu) :
    core_apu_tick apu =
      resample^[(before_samples apu).sample_phase.toNat / 236250000] (before_samples apu) := rfl

/-! ## The level of a sample -/

theorem volume_le (volume : U8) (gain : U32) (h : gain.toNat ≤ 64) :
    (volume.zeroExtend 32 * gain).toNat ≤ 255 * 64 := by
  have hvolume := volume.isLt
  have hproduct : volume.toNat * gain.toNat ≤ 255 * 64 := Nat.mul_le_mul (by omega) h
  rw [BitVec.toNat_mul, BitVec.toNat_setWidth, Nat.mod_eq_of_lt (by omega : volume.toNat < 2 ^ 32),
    Nat.mod_eq_of_lt (by omega)]
  exact hproduct

theorem chosen_le {chosen : Prop} [Decidable chosen] {level : U32} {n : ℕ}
    (h : level.toNat ≤ n) : (if chosen then level else 0).toNat ≤ n := by
  split
  · exact h
  · exact Nat.zero_le n

theorem pulse_level_le (apu : Apu) (channel : Fin 2) :
    (pulse_level apu channel).toNat ≤ 255 * 64 := by
  rw [pulse_level]
  exact chosen_le (volume_le _ 64 (by decide))

/-- The level of the triangle channel, in the range of its phases. -/
theorem triangle_level_le {phase : U8} (h : phase.toNat ≤ 31) :
    ((if phase.toNat < 16 then phase.zeroExtend 32
      else 31 - phase.zeroExtend 32) * (32 : U32)).toNat ≤ 255 * 64 := by
  have hphase : (phase.zeroExtend 32 : U32).toNat = phase.toNat := by
    rw [BitVec.toNat_setWidth]
    omega
  split <;> bv_omega

theorem levels_sum_lt {first second triangle noise dmc : U32} (hfirst : first.toNat ≤ 255 * 64)
    (hsecond : second.toNat ≤ 255 * 64) (htriangle : triangle.toNat ≤ 255 * 64)
    (hnoise : noise.toNat ≤ 255 * 64) (hdmc : dmc.toNat ≤ 255 * 64) :
    ((first + second + triangle + noise + dmc) * 7).toNat < 2 ^ 31 := by
  have hpulses : (first + second).toNat ≤ 2 * (255 * 64) := by bv_omega
  have hmelody : (first + second + triangle).toNat ≤ 3 * (255 * 64) := by bv_omega
  have hnoisy : (first + second + triangle + noise).toNat ≤ 4 * (255 * 64) := by bv_omega
  have hsum : (first + second + triangle + noise + dmc).toNat ≤ 5 * (255 * 64) := by bv_omega
  have hgain : (7 : U32).toNat = 7 := rfl
  rw [BitVec.toNat_mul, hgain]
  exact lt_of_le_of_lt (Nat.mod_le _ _) (by omega)

/-- No sum of the channels comes near the sign bit. -/
theorem mixed_level_lt {apu : Apu} (h : apu.triangle_phase.toNat ≤ 31) :
    (mixed_level apu).toNat < 2 ^ 31 := by
  rw [mixed_level]
  apply levels_sum_lt
  · exact pulse_level_le apu 0
  · exact pulse_level_le apu 1
  · exact chosen_le (triangle_level_le h)
  · exact chosen_le (volume_le _ 48 (by decide))
  · exact chosen_le (volume_le _ 8 (by decide))

/-- A level of no sign is cut to the largest sample. -/
theorem clamp_sample_le {level : U32} (h : level.toNat < 2 ^ 31) :
    (clamp_sample level).toNat ≤ 32767 := by
  have hint : level.toInt = level.toNat := BitVec.toInt_eq_toNat_of_lt (by omega)
  have hlargest : (32767 : U32).toInt = 32767 := by decide
  have hleast : (-32768 : U32).toInt = -32768 := by decide
  rw [clamp_sample]
  split
  · decide
  · rename_i hlarge
    rw [BitVec.slt_iff_toInt_lt, hint, hlargest] at hlarge
    rw [if_neg]
    · omega
    · rw [BitVec.slt_iff_toInt_lt, hint, hleast]
      omega

/-! ## What leaves the sampling alone -/

theorem sampler_fields {apu : Apu} {s : Sampler} (h : sampler apu = s) :
    apu.sample_phase = s.sample_phase ∧ apu.dropped_samples = s.dropped_samples := by
  rw [← h]
  exact ⟨rfl, rfl⟩

theorem queued_phase (s : Sampler) (phase : U32) :
    Sampler.queued { s with sample_phase := phase } = s.queued := rfl

theorem sampler_clock_frame (apu : Apu) : sampler (core_apu_clock_frame apu) = sampler apu := by
  rw [core_apu_clock_frame]
  split
  · rfl
  split
  · rfl
  split
  · rfl
  split
  · rfl
  · rfl

theorem sampler_tick_pulses (apu : Apu) : sampler (tick_pulses apu) = sampler apu := by
  rw [tick_pulses]
  split <;> rfl

theorem sampler_tick_triangle (apu : Apu) : sampler (tick_triangle apu) = sampler apu := by
  rw [tick_triangle]
  split <;> rfl

theorem sampler_tick_noise (apu : Apu) : sampler (tick_noise apu) = sampler apu := by
  rw [tick_noise]
  split <;> rfl

theorem sampler_shift_dmc (apu : Apu) : sampler (shift_dmc (refill_dmc apu)) = sampler apu := by
  have hrefill : sampler (refill_dmc apu) = sampler apu := by
    rw [refill_dmc]
    split <;> rfl
  rw [shift_dmc]
  split
  · exact hrefill
  · exact hrefill

theorem sampler_tick_dmc (apu : Apu) : sampler (tick_dmc apu) = sampler apu := by
  rw [tick_dmc]
  dsimp only
  split
  · generalize hloaded : ({ apu with dmc_counter := _ } : Apu) = loaded
    have hsame : sampler loaded = sampler apu := by
      rw [← hloaded]
      rfl
    split
    · exact (sampler_shift_dmc loaded).trans hsame
    · exact (sampler_shift_dmc loaded).trans hsame
  · rfl

/-- The channels of a cycle leave the sampling to the resampling loop. -/
theorem sampler_before_samples (apu : Apu) :
    sampler (before_samples apu) =
      { sampler apu with sample_phase := apu.sample_phase + 6336000 } := by
  have hchannels : sampler (tick_dmc (tick_noise (tick_triangle (tick_pulses
      (core_apu_clock_frame apu))))) = sampler apu := by
    rw [sampler_tick_dmc, sampler_tick_noise, sampler_tick_triangle, sampler_tick_pulses,
      sampler_clock_frame]
  rw [before_samples]
  generalize tick_dmc (tick_noise (tick_triangle (tick_pulses (core_apu_clock_frame apu)))) = after
    at hchannels ⊢
  have hphase : after.sample_phase = apu.sample_phase :=
    congrArg Sampler.sample_phase hchannels
  rw [← hchannels, ← hphase]
  rfl

theorem sampler_pulse_write (apu : Apu) (channel : Fin 2) (k value : U8) :
    sampler (pulse_write apu channel k value) = sampler apu := by
  rw [pulse_write]
  split
  · rfl
  split
  · rfl
  split <;> rfl

theorem sampler_enable_write (apu : Apu) (value : U8) :
    sampler (enable_write apu value) = sampler apu := by
  simp only [enable_write]
  split
  · rfl
  split <;> rfl

theorem sampler_frame_write (apu : Apu) (value : U8) :
    sampler (frame_write apu value) = sampler apu := by
  rw [frame_write]
  split
  · split <;> rfl
  · split <;> rfl

theorem sampler_cpu_write (apu : Apu) (register_index value : U8) :
    sampler (core_apu_cpu_write apu register_index value) = sampler apu := by
  rw [core_apu_cpu_write]
  dsimp only
  split
  · rfl
  split
  · exact sampler_pulse_write _ _ _ value
  split
  · rfl
  split
  · rfl
  split
  · exact sampler_enable_write _ value
  split
  · exact sampler_frame_write _ value
  · rfl

theorem sampler_complete_dmc_read (apu : Apu) (value : U8) :
    sampler (core_apu_complete_dmc_read apu value) = sampler apu := by
  rw [core_apu_complete_dmc_read]
  dsimp only
  split
  · rfl
  split
  · rfl
  split <;> rfl

/-! ## Runs of the unit -/

/-- A call of the unit's interface. -/
inductive ApuCall where
  | tick
  | cpu_write (register_index value : U8)
  | cpu_read
  | take_dmc_request
  | complete_dmc_read (value : U8)
  | take_samples (capacity : U16)
  deriving DecidableEq

/-- A unit with what it has emitted, dropped and handed out. -/
structure ApuRun where
  apu : Apu
  emitted : List U32
  dropped : ℕ
  taken : List U32

/-- A call on the unit of a run. -/
def apu_call (run : ApuRun) : ApuCall → ApuRun
  | .tick =>
    { run with
      apu := core_apu_tick run.apu
      emitted := run.emitted ++ (tick_emits run.apu).filterMap id
      dropped := run.dropped + (tick_emits run.apu).count none }
  | .cpu_write register_index value =>
    { run with apu := core_apu_cpu_write run.apu register_index value }
  | .cpu_read => { run with apu := (core_apu_cpu_read run.apu).2 }
  | .take_dmc_request =>
    { run with apu := ((core_apu_take_dmc_request run.apu).map Prod.snd).getD run.apu }
  | .complete_dmc_read value => { run with apu := core_apu_complete_dmc_read run.apu value }
  | .take_samples capacity =>
    { run with
      apu := (core_apu_take_samples capacity.toNat run.apu).2
      taken := run.taken ++ (core_apu_take_samples capacity.toNat run.apu).1 }

/-- A run of calls on a unit. -/
def apu_run (apu : Apu) (calls : List ApuCall) : ApuRun :=
  calls.foldl apu_call { apu := apu, emitted := [], dropped := 0, taken := [] }

/-- The units that there are: of a reset, of an accepted stream, and after the calls of a run. -/
inductive ApuReachable : Apu → Prop where
  | reset : ApuReachable core_apu_reset
  | restored (apu : Apu) (h : ¬ apu_refused apu) : ApuReachable (without_samples apu)
  | called {apu : Apu} (h : ApuReachable apu) (call : ApuCall) :
    ApuReachable (apu_run apu [call]).apu

/-- What holds of every unit. -/
structure Apu.Sampling (apu : Apu) : Prop where
  in_range : apu.InRange
  ring : (sampler apu).Sound

/-- A pass of the resampling loop takes a period off the phase. -/
theorem resample_phase {apu : Apu} (h : 236250000 ≤ apu.sample_phase.toNat) :
    (resample apu).sample_phase.toNat + 236250000 = apu.sample_phase.toNat := by
  rw [resample, emit_sample_phase]
  dsimp only
  bv_omega

/-- A pass that drops its sample counts it and leaves the ring. -/
theorem resample_dropped {apu : Apu} (h : emitted_sample apu = none)
    (hsound : (sampler apu).Sound) :
    (sampler (resample apu)).Sound ∧ (sampler (resample apu)).queued = (sampler apu).queued ∧
      (resample apu).dropped_samples = apu.dropped_samples + 1 := by
  have hstep := @emit_sample_dropped
    { apu with sample_phase := apu.sample_phase - 236250000 } h
  have hdropped := congrArg Sampler.dropped_samples hstep
  rw [resample, hstep]
  exact ⟨⟨hsound.count_le, hsound.write_eq⟩, rfl, hdropped⟩

/-- A pass that emits a sample puts it behind the others. -/
theorem resample_emitted {apu : Apu} {sample : U32} (h : emitted_sample apu = some sample)
    (hsound : (sampler apu).Sound) :
    (sampler (resample apu)).Sound ∧
      (sampler (resample apu)).queued = (sampler apu).queued ++ [sample] ∧
      (resample apu).dropped_samples = apu.dropped_samples := by
  have hstep := @emit_sample_pushed
    { apu with sample_phase := apu.sample_phase - 236250000 } _ h
  have hstepped : (sampler { apu with sample_phase := apu.sample_phase - 236250000 }).Sound :=
    ⟨hsound.count_le, hsound.write_eq⟩
  have hdropped := congrArg Sampler.dropped_samples hstep.2
  rw [resample, hstep.2]
  exact ⟨push_sound hstepped hstep.1 sample, queued_push hstepped hstep.1 sample, hdropped⟩

/-- Some passes of the resampling loop: the ring gets what they emit, the rest is dropped. -/
theorem resampled_ring (passes : ℕ) {apu : Apu} (hsound : (sampler apu).Sound) :
    (sampler (resample^[passes] apu)).Sound ∧
      (sampler (resample^[passes] apu)).queued =
        (sampler apu).queued ++ (resampled passes apu).filterMap id ∧
      (resample^[passes] apu).dropped_samples =
        apu.dropped_samples + BitVec.ofNat 64 ((resampled passes apu).count none) := by
  induction passes generalizing apu with
  | zero =>
    refine ⟨hsound, (List.append_nil _).symm, ?_⟩
    exact (BitVec.add_zero _).symm
  | succ passes ih =>
    rw [Function.iterate_succ_apply, resampled]
    cases hemitted : emitted_sample apu with
    | none =>
      obtain ⟨hnext, hqueued, hdropped⟩ := resample_dropped hemitted hsound
      obtain ⟨hlast, hall, hcount⟩ := ih hnext
      refine ⟨hlast, ?_, ?_⟩
      · rw [hall, hqueued]
        rfl
      · rw [hcount, hdropped, List.count_cons_self, BitVec.add_assoc, BitVec.ofNat_add,
          BitVec.add_comm (BitVec.ofNat 64 _)]
        rfl
    | some sample =>
      obtain ⟨hnext, hqueued, hdropped⟩ := resample_emitted hemitted hsound
      obtain ⟨hlast, hall, hcount⟩ := ih hnext
      refine ⟨hlast, ?_, ?_⟩
      · rw [hall, hqueued, List.append_assoc]
        rfl
      · rw [hcount, hdropped, List.count_cons_of_ne (by simp)]

/-- Every pass takes its period. -/
theorem resampled_phase (passes : ℕ) {apu : Apu}
    (h : passes * 236250000 ≤ apu.sample_phase.toNat) :
    (resample^[passes] apu).sample_phase.toNat + passes * 236250000 =
      apu.sample_phase.toNat := by
  induction passes generalizing apu with
  | zero => rfl
  | succ passes ih =>
    rw [Nat.add_mul, Nat.one_mul] at h
    have hfirst : (resample apu).sample_phase.toNat + 236250000 = apu.sample_phase.toNat :=
      resample_phase (Nat.le_of_add_left_le h)
    rw [← hfirst] at h ⊢
    have hrest := ih (Nat.le_of_add_le_add_right h)
    rw [Function.iterate_succ_apply, Nat.add_mul, Nat.one_mul, ← Nat.add_assoc, hrest]

theorem resampled_length (passes : ℕ) (apu : Apu) : (resampled passes apu).length = passes := by
  induction passes generalizing apu with
  | zero => rfl
  | succ passes ih => rw [resampled, List.length_cons, ih]

theorem resample_triangle_phase (apu : Apu) :
    (resample apu).triangle_phase = apu.triangle_phase := by
  rw [resample, core_apu_emit_sample]
  split <;> rfl

/-- What is emitted is a sample of 15 bits. -/
theorem resampled_le (passes : ℕ) {apu : Apu} (h : apu.triangle_phase.toNat ≤ 31) :
    ∀ sample ∈ (resampled passes apu).filterMap id, sample.toNat ≤ 32767 := by
  induction passes generalizing apu with
  | zero =>
    intro sample hmem
    cases hmem
  | succ passes ih =>
    intro sample hmem
    have hrest := @ih (resample apu) (by rw [resample_triangle_phase]; exact h)
    rw [resampled] at hmem
    by_cases hfull : apu.sample_count = 512
    · rw [emitted_sample, if_pos hfull] at hmem
      exact hrest sample hmem
    · rw [emitted_sample, if_neg hfull, List.filterMap_cons_some (by rfl), List.mem_cons] at hmem
      cases hmem with
      | inl hnew =>
        rw [hnew]
        exact clamp_sample_le (mixed_level_lt h)
      | inr hmem => exact hrest sample hmem

theorem tick_emits_passes (outcomes : List (Option U32)) :
    (outcomes.filterMap id).length + outcomes.count none = outcomes.length := by
  induction outcomes with
  | nil => rfl
  | cons outcome outcomes ih =>
    cases outcome with
    | none =>
      rw [List.count_cons_self, List.length_cons, ← ih, List.filterMap_cons_none rfl]
      omega
    | some sample =>
      rw [List.count_cons_of_ne (by simp), List.length_cons, ← ih,
        List.filterMap_cons_some (by rfl), List.length_cons]
      omega

/-- A cycle: it emits and drops as many samples as periods went by. -/
theorem tick_sampling {apu : Apu} (h : apu.Sampling) :
    (core_apu_tick apu).Sampling ∧
      (sampler (core_apu_tick apu)).queued =
        (sampler apu).queued ++ (tick_emits apu).filterMap id ∧
      (core_apu_tick apu).dropped_samples =
        apu.dropped_samples + BitVec.ofNat 64 ((tick_emits apu).count none) ∧
      (core_apu_tick apu).sample_phase.toNat + (tick_emits apu).length * 236250000 =
        apu.sample_phase.toNat + 6336000 := by
  have hsampler := sampler_before_samples apu
  have hsound : (sampler (before_samples apu)).Sound := by
    rw [hsampler]
    exact ⟨h.ring.count_le, h.ring.write_eq⟩
  have hqueued : (sampler (before_samples apu)).queued = (sampler apu).queued := by
    rw [hsampler]
    exact queued_phase _ _
  obtain ⟨hadd, hdropped⟩ := sampler_fields hsampler
  have hphase : (before_samples apu).sample_phase.toNat = apu.sample_phase.toNat + 6336000 := by
    have hlt : apu.sample_phase.toNat < 236250000 := h.in_range.phase_lt
    rw [hadd]
    bv_omega
  have hring := resampled_ring ((before_samples apu).sample_phase.toNat / 236250000) hsound
  have htaken := resampled_phase ((before_samples apu).sample_phase.toNat / 236250000)
    (Nat.div_mul_le_self _ 236250000)
  rw [← core_apu_tick_eq] at hring htaken
  refine ⟨⟨apu_tick_in_range h.in_range, hring.1⟩, ?_, ?_, ?_⟩
  · rw [tick_emits, hring.2.1, hqueued]
  · rw [tick_emits, hring.2.2, hdropped]
    rfl
  · rw [tick_emits, resampled_length, htaken, hphase]

/-- The reader takes the oldest samples of the ring. -/
theorem take_samples_sampling (capacity : ℕ) {apu : Apu} (h : apu.Sampling) :
    (core_apu_take_samples capacity apu).2.Sampling ∧
      (core_apu_take_samples capacity apu).1 ++
          (sampler (core_apu_take_samples capacity apu).2).queued = (sampler apu).queued ∧
      (core_apu_take_samples capacity apu).2.dropped_samples = apu.dropped_samples ∧
      (core_apu_take_samples capacity apu).2.sample_phase = apu.sample_phase := by
  induction capacity generalizing apu with
  | zero => exact ⟨h, rfl, rfl, rfl⟩
  | succ capacity ih =>
    rw [core_apu_take_samples]
    by_cases hempty : apu.sample_count = 0
    · rw [if_pos hempty]
      exact ⟨h, rfl, rfl, rfl⟩
    · rw [if_neg hempty]
      obtain ⟨hsampling, hqueued, hdropped, hphase⟩ := @ih
        { apu with
          sample_read := apu.sample_read + 1, sample_count := apu.sample_count - 1 }
        ⟨h.in_range, pop_sound h.ring hempty⟩
      refine ⟨hsampling, ?_, hdropped, hphase⟩
      have hpop := queued_pop (s := sampler apu) hempty
      rw [hpop, List.cons_append]
      exact congrArg (apu.samples apu.sample_read :: ·) hqueued

/-- What a call leaves alone of the sampling keeps it. -/
theorem Apu.Sampling.same {apu other : Apu} (h : apu.Sampling) (hrange : other.InRange)
    (hsampler : sampler other = sampler apu) : other.Sampling :=
  ⟨hrange, hsampler ▸ h.ring⟩

/-- What a run has done since it began. -/
structure ApuRun.Conserves (start : Apu) (ticks : ℕ) (run : ApuRun) : Prop where
  sampling : run.apu.Sampling
  handed : run.taken ++ (sampler run.apu).queued = (sampler start).queued ++ run.emitted
  counted : run.apu.dropped_samples = start.dropped_samples + BitVec.ofNat 64 run.dropped
  due : run.apu.sample_phase.toNat + (run.emitted.length + run.dropped) * 236250000 =
    start.sample_phase.toNat + ticks * 6336000
  small : ∀ sample ∈ run.emitted, sample.toNat ≤ 32767

/-- A call that leaves the sampling alone. -/
theorem ApuRun.Conserves.same {start : Apu} {ticks : ℕ} {run : ApuRun} {apu : Apu}
    (h : run.Conserves start ticks) (hrange : apu.InRange)
    (hsampler : sampler apu = sampler run.apu) :
    ApuRun.Conserves start ticks { run with apu := apu } where
  sampling := h.sampling.same hrange hsampler
  handed := by
    dsimp only
    rw [hsampler]
    exact h.handed
  counted := (congrArg Sampler.dropped_samples hsampler).trans h.counted
  due := by
    have hphase : apu.sample_phase = run.apu.sample_phase :=
      congrArg Sampler.sample_phase hsampler
    dsimp only
    rw [hphase]
    exact h.due
  small := h.small

theorem tick_emits_le {apu : Apu} (h : apu.InRange) :
    ∀ sample ∈ (tick_emits apu).filterMap id, sample.toNat ≤ 32767 := by
  have hrange := tick_dmc_in_range (tick_noise_in_range (tick_triangle_in_range
    (tick_pulses_in_range (clock_frame_in_range h))))
  have hphase : (before_samples apu).triangle_phase.toNat ≤ 31 := by
    rw [before_samples]
    exact hrange.triangle_phase_le
  rw [tick_emits]
  exact resampled_le _ hphase

/-- The samples due after a tick more. -/
theorem due_succ {phase before start emitted dropped emitted' dropped' ticks num den : ℕ}
    (hphase : phase + (emitted' + dropped') * den = before + num)
    (hdue : before + (emitted + dropped) * den = start + ticks * num) :
    phase + (emitted + emitted' + (dropped + dropped')) * den = start + (ticks + 1) * num := by
  calc phase + (emitted + emitted' + (dropped + dropped')) * den
      = phase + (emitted' + dropped') * den + (emitted + dropped) * den := by
        rw [Nat.add_add_add_comm, Nat.add_mul, Nat.add_comm ((emitted + dropped) * den),
          Nat.add_assoc]
    _ = before + (emitted + dropped) * den + num := by rw [hphase, Nat.add_right_comm]
    _ = start + (ticks + 1) * num := by rw [hdue, Nat.add_mul, Nat.one_mul, Nat.add_assoc]

/-- A cycle of a run, from what it emits. -/
theorem ApuRun.Conserves.ticked {start apu : Apu} {ticks : ℕ} {run : ApuRun}
    (h : run.Conserves start ticks) {outcomes : List (Option U32)} (hsampling : apu.Sampling)
    (hqueued : (sampler apu).queued = (sampler run.apu).queued ++ outcomes.filterMap id)
    (hdropped : apu.dropped_samples =
      run.apu.dropped_samples + BitVec.ofNat 64 (outcomes.count none))
    (hphase : apu.sample_phase.toNat + outcomes.length * 236250000 =
      run.apu.sample_phase.toNat + 6336000)
    (hsmall : ∀ sample ∈ outcomes.filterMap id, sample.toNat ≤ 32767) :
    ApuRun.Conserves start (ticks + 1)
      { run with
        apu := apu
        emitted := run.emitted ++ outcomes.filterMap id
        dropped := run.dropped + outcomes.count none } where
  sampling := hsampling
  handed := by
    dsimp only
    rw [hqueued, ← List.append_assoc, h.handed, List.append_assoc]
  counted := by
    dsimp only
    rw [hdropped, h.counted, BitVec.add_assoc, ← BitVec.ofNat_add]
  due := by
    have hdue := h.due
    dsimp only
    rw [← tick_emits_passes outcomes] at hphase
    rw [List.length_append]
    exact due_succ hphase hdue
  small := by
    intro sample hmem
    cases List.mem_append.mp hmem with
    | inl hold => exact h.small sample hold
    | inr hnew => exact hsmall sample hnew

/-- A tick of a run. -/
theorem tick_conserves {start : Apu} {ticks : ℕ} {run : ApuRun}
    (h : run.Conserves start ticks) : (apu_call run .tick).Conserves start (ticks + 1) := by
  obtain ⟨hsampling, hqueued, hdropped, hphase⟩ := tick_sampling h.sampling
  rw [apu_call]
  exact h.ticked hsampling hqueued hdropped hphase (tick_emits_le h.sampling.in_range)

/-- A call of a run, with the tick that it may be. -/
theorem call_conserves {start : Apu} {ticks : ℕ} {run : ApuRun}
    (h : run.Conserves start ticks) (call : ApuCall) :
    (apu_call run call).Conserves start (ticks + [call].count .tick) := by
  cases call with
  | tick => exact tick_conserves h
  | cpu_write register_index value =>
    exact h.same (apu_cpu_write_in_range h.sampling.in_range _ _) (sampler_cpu_write _ _ _)
  | cpu_read => exact h.same (apu_cpu_read_in_range h.sampling.in_range) rfl
  | take_dmc_request =>
    rw [apu_call]
    cases hrequest : core_apu_take_dmc_request run.apu with
    | none => exact h
    | some request =>
      obtain ⟨address, apu⟩ := request
      refine h.same (take_dmc_request_in_range h.sampling.in_range hrequest) ?_
      rw [core_apu_take_dmc_request] at hrequest
      split at hrequest
      · cases hrequest
      · cases hrequest
        rfl
  | complete_dmc_read value =>
    exact h.same (complete_dmc_read_in_range h.sampling.in_range _)
      (sampler_complete_dmc_read _ _)
  | take_samples capacity =>
    obtain ⟨hsampling, hqueued, hdropped, hphase⟩ :=
      take_samples_sampling capacity.toNat h.sampling
    refine ⟨hsampling, ?_, ?_, ?_, h.small⟩
    · rw [apu_call, List.append_assoc, hqueued, h.handed]
    · rw [apu_call, hdropped, h.counted]
    · rw [apu_call, hphase]
      exact h.due

/-- A run from a unit that samples soundly. -/
theorem run_conserves {start : Apu} (calls : List ApuCall) {ticks : ℕ} {run : ApuRun}
    (h : run.Conserves start ticks) :
    (calls.foldl apu_call run).Conserves start (ticks + calls.count .tick) := by
  induction calls generalizing run ticks with
  | nil => exact h
  | cons call calls ih =>
    have hrest := ih (call_conserves h call)
    rw [Nat.add_assoc, ← List.count_append] at hrest
    exact hrest

theorem start_conserves {apu : Apu} (h : apu.Sampling) :
    ApuRun.Conserves apu 0 { apu := apu, emitted := [], dropped := 0, taken := [] } where
  sampling := h
  handed := (List.append_nil _).symm
  counted := (BitVec.add_zero _).symm
  due := by simp only [List.length_nil, Nat.add_zero, Nat.zero_mul]
  small sample hmem := absurd hmem List.not_mem_nil

/-- Every unit that there is samples soundly. -/
theorem reachable_sampling {apu : Apu} (h : ApuReachable apu) : apu.Sampling := by
  induction h with
  | reset => exact ⟨apu_reset_in_range, by decide, rfl⟩
  | restored apu h => exact ⟨apu_in_range h, Nat.zero_le _, rfl⟩
  | called h call ih => exact (call_conserves (start_conserves ih) call).sampling

/-- On every unit and over every run of calls: the samples emitted and dropped are as many as the
rate gives for the ticks of the run, the ring hands out what was emitted, in order and once, its
places fit, the phase does not overflow, every sample has 15 bits and the channels stay in their
ranges. -/
theorem apu_samples_conserved {apu : Apu} (h : ApuReachable apu) (calls : List ApuCall) :
    let run := apu_run apu calls
    run.emitted.length + run.dropped =
        (apu.sample_phase.toNat + calls.count .tick * 48000 * 132) / 236250000 ∧
      run.apu.dropped_samples = apu.dropped_samples + BitVec.ofNat 64 run.dropped ∧
      run.taken ++ (sampler run.apu).queued = (sampler apu).queued ++ run.emitted ∧
      run.apu.sample_count.toNat ≤ 512 ∧
      run.apu.sample_write.val =
        (run.apu.sample_read.val + run.apu.sample_count.toNat) % 512 ∧
      run.apu.sample_phase.toNat + 48000 * 132 < 2 ^ 32 ∧
      (∀ sample ∈ run.emitted, 0 ≤ sample.toInt ∧ sample.toInt ≤ 32767) ∧
      run.apu.dmc_output.toNat ≤ 127 ∧ run.apu.triangle_phase.toNat ≤ 31 ∧
      ∀ i, (run.apu.pulse_phase i).toNat ≤ 7 := by
  intro run
  have hrun : run.Conserves apu (0 + calls.count .tick) :=
    run_conserves calls (start_conserves (reachable_sampling h))
  have hphase : run.apu.sample_phase.toNat < 236250000 := hrun.sampling.in_range.phase_lt
  have hdue := hrun.due
  refine ⟨?_, hrun.counted, hrun.handed, hrun.sampling.ring.count_le, hrun.sampling.ring.write_eq,
    ?_, ?_, hrun.sampling.in_range.output_le, hrun.sampling.in_range.triangle_phase_le,
    hrun.sampling.in_range.pulse_phase_le⟩
  · rw [Nat.zero_add] at hdue
    rw [Nat.mul_assoc, ← hdue, Nat.add_mul_div_right _ _ (by decide), Nat.div_eq_of_lt hphase,
      Nat.zero_add]
  · omega
  · intro sample hmem
    have hle := hrun.small sample hmem
    have hint : sample.toInt = sample.toNat := BitVec.toInt_eq_toNat_of_lt (by omega)
    rw [hint]
    omega

theorem apu_samples_conserved_reset :
    (apu_run core_apu_reset (List.replicate 38 .tick)).emitted.length +
      (apu_run core_apu_reset (List.replicate 38 .tick)).dropped = 1 :=
  (apu_samples_conserved .reset (List.replicate 38 .tick)).1.trans (by decide)

end Nxvm.Nes
