/-
The audio unit (`apu.h`, `apu.c`).

The unit works on its own registers only and cannot fail. Its loops over channels
touch one channel at a time, so they are functions of the channel here; indices
into its tables are cut to the table's size by the masks and shifts that compute
them, and carry that as a proof.
-/
import Mathlib.Data.Fin.VecNotation
import Mathlib.Tactic.Common
import Nxvm.Lib.Bits
import Nxvm.Nes.Cartridge

set_option autoImplicit false

namespace Nxvm.Nes

open Nxvm.Lib Nxvm.Lib.Bits

instance sample_index : @NeZero ℕ (@Zero.ofOfNat0 ℕ (instOfNatNat 0)) 512 := ⟨by decide⟩

/-- `core_apu`. The places in the sample ring are kept inside it by their type. -/
structure Apu where
  registers : Table 24 U8
  pulse_timer : Table 2 U16
  pulse_counter : Table 2 U16
  triangle_timer : U16
  triangle_counter : U16
  noise_counter : U16
  noise_shift : U16
  dmc_counter : U16
  dmc_address : U16
  dmc_bytes_remaining : U16
  length : Table 4 U16
  pulse_phase : Table 2 U8
  triangle_phase : U8
  envelope_decay : Table 3 U8
  envelope_divider : Table 3 U8
  sweep_divider : Table 2 U8
  triangle_linear : U8
  dmc_shift : U8
  dmc_sample : U8
  dmc_bits : U8
  frame_mode : U8
  enabled : U8
  dmc_output : U8
  frame_cycles : U32
  sample_phase : U32
  samples : Table 512 U32
  sample_read : Fin 512
  sample_write : Fin 512
  sample_count : U16
  dropped_samples : U64
  frame_irq : Bool
  dmc_irq : Bool
  dmc_dma_requested : Bool
  envelope_start : Table 3 Bool
  sweep_reload : Table 2 Bool
  triangle_reload : Bool
  dmc_sample_empty : Bool
  pulse_even_cycle : Bool

/-! ## Tables -/

/-- `core_apu_length_table`. -/
def core_apu_length_table : Table 32 U16 :=
  ![10, 254, 20, 2, 40, 4, 80, 6, 160, 8, 60, 10, 14, 12, 26, 14,
    12, 16, 24, 18, 48, 20, 96, 22, 192, 24, 72, 26, 16, 28, 32, 30]

/-- `core_apu_noise_period`. -/
def core_apu_noise_period : Table 16 U16 :=
  ![4, 8, 16, 32, 64, 96, 128, 160, 202, 254, 380, 508, 762, 1016, 2034, 4068]

/-- `core_apu_dmc_period`. -/
def core_apu_dmc_period : Table 16 U16 :=
  ![428, 380, 340, 320, 286, 254, 226, 214, 190, 160, 142, 128, 106, 85, 72, 54]

/-- The sequence lengths of the four duties. -/
def duty : Table 4 U8 := ![1, 2, 4, 6]

/-- The length a register value selects. -/
def length_of (value : U8) : U16 :=
  core_apu_length_table ⟨(value >>> 3).toNat, ushiftRight_toNat_lt value 3 32 (by decide)⟩

/-- The duty a control value selects. -/
def duty_of (control : U8) : U8 :=
  duty ⟨(control >>> 6).toNat, ushiftRight_toNat_lt control 6 4 (by decide)⟩

/-- The register `k` of a pulse channel. -/
def pulse_register (apu : Apu) (channel : Fin 2) (k : Fin 4) : U8 :=
  apu.registers ⟨channel.val * 4 + k.val, by omega⟩

/-- The control registers of the four channels with a length counter. -/
def length_register : Fin 4 → Fin 24 := ![0, 4, 8, 12]

/-- The control registers of the three channels with an envelope. -/
def envelope_register : Fin 3 → Fin 24 := ![0, 4, 12]

/-- The bit of a channel in the enable register. -/
def channel_enabled (apu : Apu) (channel : Fin 4) : Bool :=
  apu.enabled &&& (1 <<< channel.val) != 0

/-! ## Samples -/

/-- What a pulse channel adds to the level. -/
def pulse_level (apu : Apu) (channel : Fin 2) : U32 :=
  let control := pulse_register apu channel 0
  let volume :=
    if control &&& 0x10 ≠ 0 then control &&& 0x0f
    else apu.envelope_decay (channel.castLE (by decide))
  if channel_enabled apu (channel.castLE (by decide)) ∧
      apu.length (channel.castLE (by decide)) ≠ 0 ∧ 8 ≤ (apu.pulse_timer channel).toNat ∧
      (apu.pulse_phase channel).toNat < (duty_of control).toNat then
    volume.zeroExtend 32 * 64
  else 0

/-- The level of all channels, before it is clamped. -/
def mixed_level (apu : Apu) : U32 :=
  let pulses := pulse_level apu 0 + pulse_level apu 1
  let triangle : U32 :=
    if apu.enabled &&& 4 ≠ 0 ∧ apu.length 2 ≠ 0 ∧ apu.triangle_linear ≠ 0 ∧
        2 ≤ apu.triangle_timer.toNat then
      (if apu.triangle_phase.toNat < 16 then apu.triangle_phase.zeroExtend 32
        else 31 - apu.triangle_phase.zeroExtend 32) * 32
    else 0
  let noise : U32 :=
    if apu.enabled &&& 8 ≠ 0 ∧ apu.length 3 ≠ 0 ∧ apu.noise_shift &&& 1 = 0 then
      (if apu.registers 12 &&& 0x10 ≠ 0 then apu.registers 12 &&& 0x0f
        else apu.envelope_decay 2).zeroExtend 32 * 48
    else 0
  let dmc : U32 := if apu.enabled &&& 16 ≠ 0 then apu.dmc_output.zeroExtend 32 * 8 else 0
  (pulses + triangle + noise + dmc) * 7

/-- The level cut to the range of a signed 16-bit sample. -/
def clamp_sample (level : U32) : U32 :=
  if (32767 : U32).slt level then 32767
  else if level.slt (-32768) then -32768
  else level

/-- `core_apu_emit_sample`. -/
def core_apu_emit_sample (apu : Apu) : Apu :=
  if apu.sample_count = 512 then { apu with dropped_samples := apu.dropped_samples + 1 }
  else
    { apu with
      samples := fun i =>
        if i = apu.sample_write then clamp_sample (mixed_level apu) else apu.samples i
      sample_write := apu.sample_write + 1
      sample_count := apu.sample_count + 1 }

/-! ## The frame sequencer -/

/-- `core_apu_clock_length`. -/
def core_apu_clock_length (apu : Apu) : Apu :=
  { apu with
    length := fun i =>
      if apu.registers (length_register i) &&& 0x20 = 0 ∧ apu.length i ≠ 0 then apu.length i - 1
      else apu.length i }

/-- `core_apu_clock_quarter_frame`. -/
def core_apu_clock_quarter_frame (apu : Apu) : Apu :=
  let control (i : Fin 3) := apu.registers (envelope_register i)
  { apu with
    envelope_start := fun _ => false
    envelope_decay := fun i =>
      if apu.envelope_start i then 15
      else if apu.envelope_divider i ≠ 0 then apu.envelope_decay i
      else if apu.envelope_decay i ≠ 0 then apu.envelope_decay i - 1
      else if control i &&& 0x20 ≠ 0 then 15
      else apu.envelope_decay i
    envelope_divider := fun i =>
      if apu.envelope_start i then control i &&& 15
      else if apu.envelope_divider i ≠ 0 then apu.envelope_divider i - 1
      else control i &&& 15
    triangle_linear :=
      if apu.triangle_reload then apu.registers 8 &&& 0x7f
      else if apu.triangle_linear ≠ 0 then apu.triangle_linear - 1
      else apu.triangle_linear
    triangle_reload := if apu.registers 8 &&& 0x80 = 0 then false else apu.triangle_reload }

/-- `core_apu_clock_sweep`. -/
def core_apu_clock_sweep (apu : Apu) (channel : Fin 2) : Apu :=
  let control := pulse_register apu channel 1
  let timer := apu.pulse_timer channel
  let change := timer >>> (control &&& 7).toNat
  let target :=
    if control &&& 8 ≠ 0 then timer - change - (if channel = 0 then 1 else 0)
    else timer + change
  let retimed := apu.sweep_divider channel = 0 ∧ control &&& 0x80 ≠ 0 ∧ control &&& 7 ≠ 0 ∧
    8 ≤ timer.toNat ∧ target.toNat ≤ 0x7ff
  let reload := apu.sweep_divider channel = 0 ∨ apu.sweep_reload channel
  { apu with
    pulse_timer := fun i => if i = channel ∧ retimed then target else apu.pulse_timer i
    sweep_divider := fun i =>
      if i = channel then
        if reload then (control >>> 4) &&& 7 else apu.sweep_divider i - 1
      else apu.sweep_divider i
    sweep_reload := fun i => if i = channel ∧ reload then false else apu.sweep_reload i }

/-- The clocks of a half frame. -/
def clock_half_frame (apu : Apu) : Apu :=
  let apu := core_apu_clock_length (core_apu_clock_quarter_frame apu)
  core_apu_clock_sweep (core_apu_clock_sweep apu 0) 1

/-- `core_apu_clock_frame`. -/
def core_apu_clock_frame (apu : Apu) : Apu :=
  let apu := { apu with frame_cycles := apu.frame_cycles + 1 }
  if apu.frame_cycles = 7457 ∨ apu.frame_cycles = 22371 then core_apu_clock_quarter_frame apu
  else if apu.frame_cycles = 14913 then clock_half_frame apu
  else if apu.frame_mode = 0 ∧ apu.frame_cycles = 29829 then
    let apu := clock_half_frame apu
    { apu with
      frame_irq := if apu.registers 23 &&& 0x40 = 0 then true else apu.frame_irq
      frame_cycles := 0 }
  else if apu.frame_mode ≠ 0 ∧ apu.frame_cycles = 37281 then
    { clock_half_frame apu with frame_cycles := 0 }
  else apu

/-- `core_apu_reset`. -/
def core_apu_reset : Apu where
  registers := Table.fill 0
  pulse_timer := Table.fill 0
  pulse_counter := Table.fill 0
  triangle_timer := 0
  triangle_counter := 0
  noise_counter := 0
  noise_shift := 1
  dmc_counter := 0
  dmc_address := 0
  dmc_bytes_remaining := 0
  length := Table.fill 0
  pulse_phase := Table.fill 0
  triangle_phase := 0
  envelope_decay := Table.fill 0
  envelope_divider := Table.fill 0
  sweep_divider := Table.fill 0
  triangle_linear := 0
  dmc_shift := 0
  dmc_sample := 0
  dmc_bits := 0
  frame_mode := 0
  enabled := 0
  dmc_output := 0
  frame_cycles := 0
  sample_phase := 0
  samples := Table.fill 0
  sample_read := 0
  sample_write := 0
  sample_count := 0
  dropped_samples := 0
  frame_irq := false
  dmc_irq := false
  dmc_dma_requested := false
  envelope_start := Table.fill false
  sweep_reload := Table.fill false
  triangle_reload := false
  dmc_sample_empty := true
  pulse_even_cycle := false

/-! ## One cycle

`core_apu_tick`, channel by channel. -/

/-- The pulse timers, clocked every other cycle. -/
def tick_pulses (apu : Apu) : Apu :=
  let apu := { apu with pulse_even_cycle := !apu.pulse_even_cycle }
  if !apu.pulse_even_cycle then apu
  else
    { apu with
      pulse_counter := fun i =>
        if apu.pulse_counter i = 0 then apu.pulse_timer i else apu.pulse_counter i - 1
      pulse_phase := fun i =>
        if apu.pulse_counter i = 0 then (apu.pulse_phase i + 1) &&& 7 else apu.pulse_phase i }

/-- The triangle timer. -/
def tick_triangle (apu : Apu) : Apu :=
  if apu.triangle_counter = 0 then
    { apu with
      triangle_counter := apu.triangle_timer
      triangle_phase :=
        if apu.enabled &&& 4 ≠ 0 ∧ apu.length 2 ≠ 0 ∧ apu.triangle_linear ≠ 0 ∧
            2 ≤ apu.triangle_timer.toNat then
          (apu.triangle_phase + 1) &&& 31
        else apu.triangle_phase }
  else { apu with triangle_counter := apu.triangle_counter - 1 }

/-- The noise timer and its shift register. -/
def tick_noise (apu : Apu) : Apu :=
  if apu.noise_counter = 0 then
    let tap := if apu.registers 14 &&& 0x80 ≠ 0 then 6 else 1
    let feedback := (apu.noise_shift ^^^ (apu.noise_shift >>> tap)) &&& 1
    { apu with
      noise_counter := core_apu_noise_period ⟨(apu.registers 14 &&& 15).toNat, and_toNat_lt _ _ _ (by decide)⟩
      noise_shift := (apu.noise_shift >>> 1) ||| (feedback <<< 14) }
  else { apu with noise_counter := apu.noise_counter - 1 }

/-- An empty shifter takes the buffered sample byte. -/
def refill_dmc (apu : Apu) : Apu :=
  if apu.dmc_bits = 0 ∧ !apu.dmc_sample_empty then
    { apu with dmc_shift := apu.dmc_sample, dmc_bits := 8, dmc_sample_empty := true }
  else apu

/-- One bit of the shifter moves the output up or down. -/
def shift_dmc (apu : Apu) : Apu :=
  if apu.dmc_bits ≠ 0 then
    { apu with
      dmc_output :=
        if apu.dmc_shift &&& 1 ≠ 0 then
          if apu.dmc_output.toNat ≤ 125 then apu.dmc_output + 2 else apu.dmc_output
        else if 2 ≤ apu.dmc_output.toNat then apu.dmc_output - 2
        else apu.dmc_output
      dmc_shift := apu.dmc_shift >>> 1
      dmc_bits := apu.dmc_bits - 1 }
  else apu

/-- The sample channel, which asks for a byte when its buffer is empty. -/
def tick_dmc (apu : Apu) : Apu :=
  if apu.dmc_counter = 0 then
    let apu := { apu with
      dmc_counter := core_apu_dmc_period ⟨(apu.registers 16 &&& 15).toNat, and_toNat_lt _ _ _ (by decide)⟩ }
    let apu := shift_dmc (refill_dmc apu)
    if apu.dmc_sample_empty ∧ apu.dmc_bytes_remaining ≠ 0 then
      { apu with dmc_dma_requested := true }
    else apu
  else { apu with dmc_counter := apu.dmc_counter - 1 }

/-- One pass of the resampling loop. -/
def resample (apu : Apu) : Apu :=
  core_apu_emit_sample { apu with sample_phase := apu.sample_phase - 236250000 }

/-- The resampling loop takes one period off the phase at each pass, so it makes as many
passes as periods go into the phase. -/
def tick_samples (apu : Apu) : Apu :=
  let apu := { apu with sample_phase := apu.sample_phase + 6336000 }
  resample^[apu.sample_phase.toNat / 236250000] apu

/-- `core_apu_tick`. -/
def core_apu_tick (apu : Apu) : Apu :=
  tick_samples (tick_dmc (tick_noise (tick_triangle (tick_pulses (core_apu_clock_frame apu)))))

/-! ## Registers -/

/-- Where a sample starts and how long it is. -/
def restart_sample (apu : Apu) : Apu :=
  { apu with
    dmc_address := 0xc000 + ((apu.registers 18).zeroExtend 16 <<< 6)
    dmc_bytes_remaining := ((apu.registers 19).zeroExtend 16 <<< 4) + 1 }

/-- A write to one of the registers of a pulse channel. -/
def pulse_write (apu : Apu) (channel : Fin 2) (k : U8) (value : U8) : Apu :=
  if k = 2 then
    { apu with
      pulse_timer := fun i =>
        if i = channel then (apu.pulse_timer i &&& 0x0700) ||| value.zeroExtend 16
        else apu.pulse_timer i }
  else if k = 3 then
    { apu with
      pulse_timer := fun i =>
        if i = channel then
          (apu.pulse_timer i &&& 0x00ff) ||| ((value &&& 7).zeroExtend 16 <<< 8)
        else apu.pulse_timer i
      length := fun i =>
        if i.val = channel.val ∧ channel_enabled apu i then length_of value else apu.length i
      pulse_phase := fun i => if i = channel then 0 else apu.pulse_phase i
      envelope_start := fun i => if i.val = channel.val then true else apu.envelope_start i }
  else if k = 1 then
    { apu with sweep_reload := fun i => if i = channel then true else apu.sweep_reload i }
  else apu

/-- A write to the high or the low timer register of the triangle channel. -/
def triangle_write (apu : Apu) (register_index value : U8) : Apu :=
  { apu with
    triangle_timer := (apu.registers 10).zeroExtend 16 |||
      ((apu.registers 11 &&& 7).zeroExtend 16 <<< 8)
    length := fun i =>
      if i = 2 ∧ register_index = 11 ∧ apu.enabled &&& 4 ≠ 0 then length_of value
      else apu.length i
    triangle_reload := if register_index = 11 then true else apu.triangle_reload }

/-- A write to the enable register. -/
def enable_write (apu : Apu) (value : U8) : Apu :=
  let apu := { apu with enabled := value &&& 31 }
  let apu := { apu with length := fun i => if channel_enabled apu i then apu.length i else 0 }
  let apu :=
    if apu.enabled &&& 16 = 0 then { apu with dmc_bytes_remaining := 0 }
    else if apu.dmc_bytes_remaining = 0 then restart_sample apu
    else apu
  { apu with dmc_irq := false }

/-- A write to the frame sequencer. -/
def frame_write (apu : Apu) (value : U8) : Apu :=
  let apu := { apu with
    frame_mode := (value >>> 7) &&& 1
    frame_cycles := 0
    frame_irq := if value &&& 0x40 ≠ 0 then false else apu.frame_irq }
  if apu.frame_mode ≠ 0 then core_apu_clock_length apu else apu

/-- `core_apu_cpu_write`. -/
def core_apu_cpu_write (apu : Apu) (register_index value : U8) : Apu :=
  if 24 ≤ register_index.toNat then apu
  else
    let apu := { apu with
      registers := fun i => if i.val = register_index.toNat then value else apu.registers i }
    if register_index.toNat < 8 then
      pulse_write apu (if register_index.toNat < 4 then 0 else 1) (register_index &&& 3) value
    else if register_index = 10 ∨ register_index = 11 then
      triangle_write apu register_index value
    else if register_index = 15 ∧ apu.enabled &&& 8 ≠ 0 then
      { apu with
        length := fun i => if i = 3 then length_of value else apu.length i
        envelope_start := fun i => if i = 2 then true else apu.envelope_start i }
    else if register_index = 21 then enable_write apu value
    else if register_index = 23 then frame_write apu value
    else apu

/-- `core_apu_cpu_read`. -/
def core_apu_cpu_read (apu : Apu) : U8 × Apu :=
  let flag (c : Bool) (bit : U8) : U8 := if c then bit else 0
  (flag (apu.length 0 != 0) 1 ||| flag (apu.length 1 != 0) 2 ||| flag (apu.length 2 != 0) 4 |||
      flag (apu.length 3 != 0) 8 ||| flag (apu.dmc_bytes_remaining != 0) 16 |||
      flag apu.frame_irq 0x40 ||| flag apu.dmc_irq 0x80,
    { apu with frame_irq := false })

/-- `core_apu_irq_asserted`. -/
def core_apu_irq_asserted (apu : Apu) : Bool := apu.frame_irq || apu.dmc_irq

/-! ## The sample channel's transfers -/

/-- `core_apu_take_dmc_request`: the address asked for, and the unit without the request. -/
def core_apu_take_dmc_request (apu : Apu) : Option (U16 × Apu) :=
  if !apu.dmc_dma_requested then none
  else some (apu.dmc_address, { apu with dmc_dma_requested := false })

/-- `core_apu_complete_dmc_read`. -/
def core_apu_complete_dmc_read (apu : Apu) (value : U8) : Apu :=
  if apu.dmc_bytes_remaining = 0 then apu
  else
    let apu := { apu with
      dmc_sample := value
      dmc_sample_empty := false
      dmc_address := if apu.dmc_address + 1 = 0 then 0x8000 else apu.dmc_address + 1
      dmc_bytes_remaining := apu.dmc_bytes_remaining - 1 }
    if apu.dmc_bytes_remaining = 0 ∧ apu.registers 16 &&& 0x40 ≠ 0 then restart_sample apu
    else if apu.dmc_bytes_remaining = 0 ∧ apu.registers 16 &&& 0x80 ≠ 0 then
      { apu with dmc_irq := true }
    else apu

/-- `core_apu_take_samples`. -/
def core_apu_take_samples : ℕ → Apu → List U32 × Apu
  | 0, apu => ([], apu)
  | capacity + 1, apu =>
    if apu.sample_count = 0 then ([], apu)
    else
      let rest := core_apu_take_samples capacity { apu with
        sample_read := apu.sample_read + 1
        sample_count := apu.sample_count - 1 }
      (apu.samples apu.sample_read :: rest.1, rest.2)

end Nxvm.Nes
