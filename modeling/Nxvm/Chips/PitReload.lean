/-
The counts that the interval timer loads (`pit.c`).

The bytes of a count go into the register that a load decodes, so that a load between the two
bytes of a count decodes a half of it. What is kept along a run is the bytes that a counter was
written since its control word: they say which counts are complete.
-/
import Nxvm.Chips.PitSound
import Nxvm.Lib.Bits

set_option autoImplicit false

namespace Nxvm.Chips

open Nxvm.Lib Nxvm.Lib.Register Nxvm.Machine

/-! ## The counts of a byte sequence -/

/-- A count of two bytes. -/
def count_of (low high : U8) : U16 := high.setWidth 16 <<< 8 ||| low.setWidth 16

/-- The counts that pairs of bytes complete. -/
def paired_counts : List U8 → List U16
  | low :: high :: rest => count_of low high :: paired_counts rest
  | _ => []

/-- The counts that the bytes written since a control word complete: by a low byte, by a high
byte, or by a pair. -/
def complete_counts (cw : U8) (bytes : List U8) : List U16 :=
  match vpit_get_cw_rw cw with
  | 1 => bytes.map fun low => count_of low 0
  | 2 => bytes.map fun high => count_of 0 high
  | 3 => paired_counts bytes
  | _ => []

theorem count_of_low (low : U8) : count_of low 0 = low.setWidth 16 := by
  simp [count_of]

theorem count_of_high (high : U8) : count_of 0 high = high.setWidth 16 <<< 8 := by
  simp [count_of]

/-- A first byte completes nothing. -/
theorem paired_counts_first : ∀ (bytes : List U8) (low : U8), bytes.length % 2 = 0 →
    paired_counts (bytes ++ [low]) = paired_counts bytes
  | [], _, _ => rfl
  | [_], _, h => absurd h Nat.one_ne_zero
  | first :: second :: rest, low, h => by
    have heven : rest.length % 2 = 0 := by
      simp only [List.length_cons] at h
      omega
    change count_of first second :: paired_counts (rest ++ [low]) = _
    rw [paired_counts_first rest low heven]
    rfl

/-- A second byte completes a count. -/
theorem paired_counts_second : ∀ (bytes : List U8) (low high : U8), bytes.length % 2 = 0 →
    paired_counts (bytes ++ [low, high]) = paired_counts bytes ++ [count_of low high]
  | [], _, _, _ => rfl
  | [_], _, _, h => absurd h Nat.one_ne_zero
  | first :: second :: rest, low, high, h => by
    have heven : rest.length % 2 = 0 := by
      simp only [List.length_cons] at h
      omega
    change count_of first second :: paired_counts (rest ++ [low, high]) = _
    rw [paired_counts_second rest low high heven]
    rfl

namespace PitCounter

variable {personality : PitPersonality} {counter : PitCounter}

/-! ## The ticks that load -/

/-- The next tick loads the counter. -/
def load_due (counter : PitCounter) : Bool :=
  (counter.flagReady || counter.flagLoadPending || counter.flagTrigger) &&
    match pit_mode counter.cw with
    | .mode0 | .mode4 => counter.flagLoadPending
    | .mode1 | .mode5 => counter.flagTrigger && counter.flagLoadPending
    | .mode2 =>
      counter.flagRestart || counter.flagLoadPending &&
        (!counter.flagActive || counter.flagGate && counter.flagPulseLow)
    | .mode3 =>
      counter.flagRestart || counter.flagLoadPending &&
        (!counter.flagActive || counter.flagGate && counter.phase = 1)

end PitCounter

/-- The programming of a counter: the fields that the written bytes are about. -/
structure PitProgram where
  cw : U8
  init : U16
  flagWrite : PitStatusRw
  reload : ℕ
  flagReady : Bool
  flagLoadPending : Bool
  flagRestart : Bool

/-- A first byte of a count has been written, and not the second. -/
def PitProgram.half_written (program : PitProgram) : Bool :=
  vpit_get_cw_rw program.cw = 3 && program.flagWrite = .msb

/-- A load is asked for: by a complete count, or by a gate that rose. -/
def PitProgram.load_asked (program : PitProgram) : Bool :=
  program.flagRestart || program.flagLoadPending

/-- A load decodes the count that is there. -/
def PitProgram.loaded (program : PitProgram) : PitProgram :=
  { program with
    reload := pit_decode program.cw program.init
    flagReady := true
    flagLoadPending := false
    flagRestart := false }

namespace PitCounter

variable {personality : PitPersonality} {counter : PitCounter}

/-- The programming of a counter. -/
def program (counter : PitCounter) : PitProgram :=
  { cw := counter.cw
    init := counter.init
    flagWrite := counter.flagWrite
    reload := counter.reload
    flagReady := counter.flagReady
    flagLoadPending := counter.flagLoadPending
    flagRestart := counter.flagRestart }

@[simp] theorem program_sync_count (counter : PitCounter) :
    program (sync_count counter) = program counter := rfl

@[simp] theorem program_decrement_count (counter : PitCounter) :
    program (decrement_count counter) = program counter := rfl

@[simp] theorem program_set_output_level (counter : PitCounter) (asserted : Bool) :
    program (set_output_level counter asserted) = program counter := by
  rw [set_output_level]
  split
  · rfl
  · rfl

@[simp] theorem program_load (personality : PitPersonality) (counter : PitCounter) :
    program (load personality counter) = (program counter).loaded := rfl

@[simp] theorem program_active (counter : PitCounter) (active : Bool) :
    program { counter with flagActive := active } = program counter := rfl

@[simp] theorem program_count_down (counter : PitCounter) :
    program (count_down counter) = program counter := by
  rw [count_down, program_sync_count]
  split
  · rw [program_set_output_level]
    rfl
  · rfl

theorem program_start_count (personality : PitPersonality) (counter : PitCounter) :
    program (start_count personality counter) =
      if counter.flagLoadPending then (program counter).loaded else program counter := by
  rw [start_count]
  split
  · rfl
  · rfl

theorem tick_mode0_program (personality : PitPersonality) (counter : PitCounter) :
    program (tick_mode0 personality counter) =
      if counter.flagLoadPending then (program counter).loaded else program counter := by
  rw [tick_mode0]
  split
  · rfl
  · split
    · rfl
    · rw [program_count_down]

theorem tick_mode1_program (personality : PitPersonality) (counter : PitCounter) :
    program (tick_mode1 personality counter) =
      if counter.flagTrigger && counter.flagLoadPending then (program counter).loaded
      else program counter := by
  rw [tick_mode1]
  split
  · rename_i htrigger
    rw [htrigger, Bool.true_and, program_set_output_level]
    exact program_start_count personality { counter with flagTrigger := false }
  · rename_i htrigger
    rw [Bool.not_eq_true] at htrigger
    rw [htrigger, Bool.false_and, if_neg Bool.false_ne_true]
    split
    · rfl
    · rw [program_count_down]

theorem tick_mode2_program (personality : PitPersonality) (counter : PitCounter) :
    program (tick_mode2 personality counter) =
      if counter.flagRestart || counter.flagLoadPending &&
          (!counter.flagActive || counter.flagGate && counter.flagPulseLow) then
        (program counter).loaded
      else program counter := by
  simp only [tick_mode2]
  split
  · rename_i hrestart
    simp [hrestart]
  · rename_i hrestart
    split
    · rename_i hload
      simp only [Bool.and_eq_true, Bool.not_eq_true'] at hload
      simp [hload]
    · rename_i hload
      split
      · rename_i hstays
        have hnone : (counter.flagLoadPending &&
            (!counter.flagActive || counter.flagGate && counter.flagPulseLow)) = false := by
          cases hactive : counter.flagActive with
          | false => simpa [hactive] using hload
          | true => simp_all
        simp [hrestart, hnone]
      · rename_i hcounts
        simp only [Bool.or_eq_true, Bool.not_eq_true', not_or, Bool.not_eq_false] at hcounts
        split
        · rename_i hpulse
          have hstart := program_start_count personality { counter with flagPulseLow := false }
          have hdue : (counter.flagRestart || counter.flagLoadPending &&
              (!counter.flagActive || counter.flagGate && counter.flagPulseLow)) =
              counter.flagLoadPending := by simp [hrestart, hcounts, hpulse]
          rw [hdue, program_sync_count, program_set_output_level]
          split
          · exact hstart
          · exact hstart
        · rename_i hpulse
          have hdue : (counter.flagRestart || counter.flagLoadPending &&
              (!counter.flagActive || counter.flagGate && counter.flagPulseLow)) =
              false := by simp [hrestart, hcounts, hpulse]
          rw [hdue, if_neg Bool.false_ne_true]
          split
          · rw [program_sync_count, program_set_output_level]
            rfl
          · rfl

theorem mode3_half_program (was_output : Bool) (counter : PitCounter) :
    program (mode3_half was_output counter) = program counter := by
  rw [mode3_half]
  split
  · split
    · rfl
    · rw [program_set_output_level]
      rfl
  · rw [program_set_output_level]
    rfl

theorem mode3_turn_program (personality : PitPersonality) (counter : PitCounter) :
    program (mode3_turn personality counter) =
      if counter.flagLoadPending then (program counter).loaded else program counter := by
  simp only [mode3_turn, mode3_half_program]
  split
  · rfl
  · rfl

theorem tick_mode3_program (personality : PitPersonality) (counter : PitCounter)
    (hphase : counter.flagActive = true → 0 < counter.phase) :
    program (tick_mode3 personality counter) =
      if counter.flagRestart || counter.flagLoadPending &&
          (!counter.flagActive || counter.flagGate && counter.phase = 1) then
        (program counter).loaded
      else program counter := by
  simp only [tick_mode3]
  split
  · rename_i hrestart
    simp [hrestart]
  · rename_i hrestart
    split
    · rename_i hload
      simp only [Bool.and_eq_true, Bool.not_eq_true'] at hload
      simp [hload]
    · rename_i hload
      split
      · rename_i hstays
        have hnone : (counter.flagLoadPending &&
            (!counter.flagActive || counter.flagGate && counter.phase = 1)) = false := by
          cases hactive : counter.flagActive with
          | false => simpa [hactive] using hload
          | true => simp_all
        simp [hrestart, hnone]
      · rename_i hcounts
        simp only [Bool.or_eq_true, Bool.not_eq_true', not_or, Bool.not_eq_false] at hcounts
        have hturns : decrement counter.phase = 0 ↔ counter.phase = 1 := by
          have hpos := hphase hcounts.1
          rw [decrement, if_neg (by omega)]
          omega
        rw [program_sync_count]
        split
        · rename_i hturn
          have hdue : (counter.flagRestart || counter.flagLoadPending &&
              (!counter.flagActive || counter.flagGate && counter.phase = 1)) =
              counter.flagLoadPending := by simp [hrestart, hcounts, hturns.mp hturn]
          rw [hdue, mode3_turn_program]
          rfl
        · rename_i hturn
          have hdue : (counter.flagRestart || counter.flagLoadPending &&
              (!counter.flagActive || counter.flagGate && counter.phase = 1)) =
              false := by
            have hone : counter.phase ≠ 1 := fun hone => hturn (hturns.mpr hone)
            simp [hrestart, hcounts, hone]
          rw [hdue, if_neg Bool.false_ne_true]
          rfl

theorem tick_mode4_or_5_program (personality : PitPersonality) (counter : PitCounter)
    (hmode : pit_mode counter.cw = .mode4 ∨ pit_mode counter.cw = .mode5) :
    program (tick_mode4_or_5 personality counter) =
      if counter.flagLoadPending && (pit_mode counter.cw = .mode4 || counter.flagTrigger) then
        (program counter).loaded
      else program counter := by
  simp only [tick_mode4_or_5]
  split
  · rename_i hload
    simp only [Bool.and_eq_true, decide_eq_true_eq] at hload
    simp [hload]
  · rename_i hload
    split
    · rename_i htrigger
      simp only [Bool.and_eq_true, decide_eq_true_eq] at htrigger
      have hdue : (counter.flagLoadPending &&
          (pit_mode counter.cw = .mode4 || counter.flagTrigger)) =
          counter.flagLoadPending := by simp [htrigger]
      rw [program_set_output_level, program_active, hdue]
      split
      · rfl
      · rfl
    · rename_i htrigger
      have hnone : (counter.flagLoadPending &&
          (pit_mode counter.cw = .mode4 || counter.flagTrigger)) = false := by
        cases hmode with
        | inl h4 => simpa [h4] using hload
        | inr h5 => simp_all
      rw [hnone, if_neg Bool.false_ne_true]
      split
      · rfl
      · split
        · rfl
        · split
          · rw [program_sync_count, program_set_output_level]
            split
            · rfl
            · rfl
          · rw [program_sync_count]
            split
            · rw [program_set_output_level]
              rfl
            · rfl

/-- What a tick makes of the programming: it loads the counter, when that is due. -/
theorem tick_program (personality : PitPersonality) (counter : PitCounter)
    (hphase : counter.flagActive = true → pit_mode counter.cw = .mode3 → 0 < counter.phase) :
    program (tick personality counter) =
      if load_due counter then (program counter).loaded else program counter := by
  rw [tick]
  split
  · rename_i hidle
    have hnone : load_due counter = false := by
      simp only [Bool.and_eq_true, Bool.not_eq_true'] at hidle
      simp [load_due, hidle]
    rw [hnone, if_neg Bool.false_ne_true]
  · rename_i hwakes
    have hguard : (counter.flagReady || counter.flagLoadPending || counter.flagTrigger) = true := by
      by_contra hnone
      simp only [Bool.or_eq_true, not_or, Bool.not_eq_true] at hnone
      exact hwakes (by simp [hnone])
    split
    · rename_i hruns
      have hnone : load_due counter = false := by
        rw [runs_on] at hruns
        rw [load_due, hguard]
        cases hmode : pit_mode counter.cw <;> simp_all
      rw [hnone, if_neg Bool.false_ne_true, program_decrement_count]
    · rw [load_due, hguard, Bool.true_and]
      cases hmode : pit_mode counter.cw with
      | mode0 => exact tick_mode0_program personality counter
      | mode1 => exact tick_mode1_program personality counter
      | mode2 => exact tick_mode2_program personality counter
      | mode3 => exact tick_mode3_program personality counter fun h => hphase h hmode
      | mode4 =>
        have h := tick_mode4_or_5_program personality counter (.inl hmode)
        simpa [hmode] using h
      | mode5 =>
        have h := tick_mode4_or_5_program personality counter (.inr hmode)
        rw [Bool.and_comm]
        simpa [hmode] using h

end PitCounter

/-! ## The bytes written -/

/-- What a counter's programming has to do with the bytes written since its control word. -/
structure PitProgram.Written (program : PitProgram) (bytes : List U8) : Prop where
  writes : vpit_get_cw_rw program.cw = 3 → (program.flagWrite = .msb ↔ bytes.length % 2 = 1)
  half : program.half_written = true →
    ∃ before low, bytes = before ++ [low] ∧ program.init = low.setWidth 16
  complete : program.half_written = false →
    ∀ count ∈ (complete_counts program.cw bytes).getLast?, program.init = count
  asked : program.load_asked = true ∨
      program.flagReady = true ∧ pit_mode program.cw ≠ .mode0 →
    complete_counts program.cw bytes ≠ []

/-- Nothing is loaded since the control word, or a count that the bytes completed. -/
def PitProgram.Programmed (program : PitProgram) (bytes : List U8) : Prop :=
  program.reload = 0 ∨
    ∃ count ∈ complete_counts program.cw bytes, program.reload = pit_decode program.cw count

namespace PitProgram

variable {program : PitProgram} {bytes : List U8}

/-- A fresh control word. -/
theorem Written.fresh (hwrite : vpit_get_cw_rw program.cw = 3 → program.flagWrite ≠ .msb)
    (hasked : program.load_asked = false)
    (hready : program.flagReady = true → pit_mode program.cw = .mode0) :
    program.Written [] where
  writes h3 := by simp [hwrite h3]
  half h := by
    simp only [half_written, Bool.and_eq_true, decide_eq_true_eq] at h
    exact absurd h.2 (hwrite h.1)
  complete _ count hcount := by
    have hnone : complete_counts program.cw [] = [] := by
      rw [complete_counts]
      split
      · rfl
      · rfl
      · rfl
      · rfl
    rw [hnone] at hcount
    cases hcount
  asked h := by
    rw [hasked] at h
    cases h with
    | inl h => cases h
    | inr h => exact absurd (hready h.1) h.2

/-- A load changes nothing of what was written. -/
theorem Written.loaded (h : program.Written bytes) (hasked : program.load_asked = true) :
    program.loaded.Written bytes where
  writes := h.writes
  half := h.half
  complete := h.complete
  asked _ := h.asked (.inl hasked)

/-- A load between counts decodes a complete one. -/
theorem Written.programmed (h : program.Written bytes) (hasked : program.load_asked = true)
    (hhalf : program.half_written = false) : program.loaded.Programmed bytes := by
  refine .inr ?_
  have hcounts := h.asked (.inl hasked)
  have hlast := List.getLast?_eq_some_getLast hcounts
  have hinit := h.complete hhalf _ hlast
  refine ⟨_, List.getLast_mem hcounts, ?_⟩
  rw [← hinit]
  rfl

/-- A complete count that is written waits to be loaded. -/
def completed (program : PitProgram) (init : U16) : PitProgram :=
  { program with
    init := init
    flagWrite := .ready
    flagReady := false
    flagLoadPending := true }

theorem Written.completed {init : U16} {value : U8}
    (hodd : vpit_get_cw_rw program.cw = 3 → (bytes ++ [value]).length % 2 = 0)
    (hcounts : complete_counts program.cw (bytes ++ [value]) =
      complete_counts program.cw bytes ++ [init]) :
    (program.completed init).Written (bytes ++ [value]) where
  writes h3 := by
    have heven := hodd h3
    constructor
    · exact nofun
    · intro h
      omega
  half h := by
    simp only [half_written, PitProgram.completed, Bool.and_eq_true] at h
    exact absurd h.2 nofun
  complete _ count hcount := by
    change count ∈ (complete_counts program.cw (bytes ++ [value])).getLast? at hcount
    rw [hcounts, List.getLast?_concat] at hcount
    exact Option.some.inj hcount
  asked _ := by
    change complete_counts program.cw (bytes ++ [value]) ≠ []
    rw [hcounts]
    exact List.append_ne_nil_of_right_ne_nil _ (List.cons_ne_nil _ _)

theorem Programmed.append (h : program.Programmed bytes) {value : U8} {counts : List U16}
    (hcounts : complete_counts program.cw (bytes ++ [value]) =
      complete_counts program.cw bytes ++ counts) : program.Programmed (bytes ++ [value]) := by
  refine h.imp_right fun ⟨count, hcount, hreload⟩ => ⟨count, ?_, hreload⟩
  rw [hcounts]
  exact List.mem_append_left _ hcount

end PitProgram

namespace PitCounter

variable {personality : PitPersonality} {counter : PitCounter} {bytes : List U8}

@[simp] theorem program_stop_mode0 (counter : PitCounter) :
    program (stop_mode0 counter) = program counter := by
  rw [stop_mode0]
  split
  · rw [program_set_output_level]
    rfl
  · rfl

theorem program_complete_count (counter : PitCounter) (init : U16) :
    program (complete_count { counter with init := init }) =
      (program counter).completed init := by
  rw [complete_count, program_stop_mode0]
  rfl

/-- The low byte of a count that holds no more. -/
theorem low_byte (low : U8) : low.setWidth 16 &&& (0x00ff : U16) = low.setWidth 16 := by
  apply BitVec.eq_of_toNat_eq
  have hlow := low.isLt
  rw [Bits.and_low_toNat _ _ 8 rfl, BitVec.toNat_setWidth]
  omega

/-- A byte written to a counter is one more, and what it completes follows what was complete. -/
theorem write_counter_written (h : (program counter).Written bytes) (value : U8) :
    (program (write_counter counter value)).Written (bytes ++ [value]) ∧
      (write_counter counter value).cw = counter.cw ∧
      (write_counter counter value).reload = counter.reload ∧
      ∃ counts, complete_counts counter.cw (bytes ++ [value]) =
        complete_counts counter.cw bytes ++ counts := by
  have hcw (init : U16) : (complete_count { counter with init := init }).cw = counter.cw :=
    congrArg PitProgram.cw (program_complete_count counter init)
  have hreload (init : U16) :
      (complete_count { counter with init := init }).reload = counter.reload :=
    congrArg PitProgram.reload (program_complete_count counter init)
  rw [write_counter]
  split
  · rename_i hrw
    have hcounts : complete_counts counter.cw (bytes ++ [value]) =
        complete_counts counter.cw bytes ++ [value.setWidth 16] := by
      simp only [complete_counts, hrw, List.map_append, List.map_cons, List.map_nil, count_of_low]
    refine ⟨?_, hcw _, hreload _, _, hcounts⟩
    rw [program_complete_count]
    refine .completed (fun h3 => ?_) hcounts
    exact absurd (hrw.symm.trans h3) (by decide)
  · rename_i hrw
    have hcounts : complete_counts counter.cw (bytes ++ [value]) =
        complete_counts counter.cw bytes ++ [value.setWidth 16 <<< 8] := by
      simp only [complete_counts, hrw, List.map_append, List.map_cons, List.map_nil,
        count_of_high]
    refine ⟨?_, hcw _, hreload _, _, hcounts⟩
    rw [program_complete_count]
    refine .completed (fun h3 => ?_) hcounts
    exact absurd (hrw.symm.trans h3) (by decide)
  · rename_i hrw
    have hlength : (bytes ++ [value]).length = bytes.length + 1 := List.length_append
    by_cases hmsb : counter.flagWrite = .msb
    · -- the second byte of a count
      have hhalf : (program counter).half_written = true := by
        simp only [PitProgram.half_written, Bool.and_eq_true, decide_eq_true_eq]
        exact ⟨hrw, hmsb⟩
      have hodd : bytes.length % 2 = 1 := (h.writes hrw).mp hmsb
      obtain ⟨before, low, rfl, hinit⟩ := h.half hhalf
      have heven : before.length % 2 = 0 := by
        rw [List.length_append, List.length_singleton] at hodd
        omega
      have hcounts : complete_counts counter.cw (before ++ [low] ++ [value]) =
          complete_counts counter.cw (before ++ [low]) ++
            [value.setWidth 16 <<< 8 ||| (counter.init &&& 0x00ff)] := by
        have hlow : counter.init = low.setWidth 16 := hinit
        simp only [complete_counts, hrw]
        rw [List.append_assoc, paired_counts_first before low heven]
        rw [List.singleton_append, paired_counts_second before low value heven, hlow, low_byte]
        rfl
      rw [if_pos hmsb]
      refine ⟨?_, hcw _, hreload _, _, hcounts⟩
      rw [program_complete_count]
      refine .completed (fun _ => ?_) hcounts
      omega
    · -- the first byte of a count
      have heven : bytes.length % 2 = 0 := by
        have hodd : bytes.length % 2 ≠ 1 := fun hodd => hmsb ((h.writes hrw).mpr hodd)
        omega
      have hcounts : complete_counts counter.cw (bytes ++ [value]) =
          complete_counts counter.cw bytes ++ [] := by
        simp only [complete_counts, hrw, List.append_nil]
        exact paired_counts_first bytes value heven
      rw [if_neg hmsb, program_stop_mode0]
      have hframe (other : PitCounter) : (stop_mode0 other).cw = other.cw ∧
          (stop_mode0 other).reload = other.reload :=
        ⟨congrArg PitProgram.cw (program_stop_mode0 other),
          congrArg PitProgram.reload (program_stop_mode0 other)⟩
      refine ⟨⟨fun _ => ?_, fun _ => ⟨bytes, value, rfl, rfl⟩, fun hwhole => ?_, fun hasked => ?_⟩,
        (hframe _).1, (hframe _).2, _, hcounts⟩
      · rw [hlength]
        simp only [program, true_iff]
        omega
      · simp [PitProgram.half_written, program, hrw] at hwhole
      · change complete_counts counter.cw (bytes ++ [value]) ≠ []
        rw [hcounts, List.append_nil]
        refine h.asked (hasked.imp_right fun hready => ⟨?_, hready.2⟩)
        have hboth := hready.1
        simp only [program, Bool.and_eq_true] at hboth
        exact hboth.1
  · rename_i h1 h2 h3
    have hnone (bytes : List U8) : complete_counts counter.cw bytes = [] := by
      rw [complete_counts]
      split
      · rename_i h
        exact absurd h h1
      · rename_i h
        exact absurd h h2
      · rename_i h
        exact absurd h h3
      · rfl
    refine ⟨⟨fun hrw => absurd hrw h3, fun hhalf => ?_, fun _ count hcount => ?_, fun hasked => ?_⟩,
      rfl, rfl, [], ?_⟩
    · simp only [PitProgram.half_written, Bool.and_eq_true, decide_eq_true_eq] at hhalf
      exact absurd hhalf.1 h3
    · change count ∈ (complete_counts counter.cw (bytes ++ [value])).getLast? at hcount
      rw [hnone] at hcount
      cases hcount
    · exact absurd (hnone bytes) (h.asked hasked)
    · rw [hnone, hnone]
      rfl

theorem write_control_written (counter : PitCounter) (value : U8) :
    (program (write_control counter value)).Written [] := by
  rw [write_control, program_set_output_level]
  refine .fresh (fun h3 => ?_) rfl fun h => by cases h
  have hrw : vpit_get_cw_rw value = 3 := h3
  simp only [program, hrw]
  decide

theorem write_control_reload (counter : PitCounter) (value : U8) :
    (write_control counter value).reload = 0 := by
  change (program (write_control counter value)).reload = 0
  rw [write_control, program_set_output_level]
  rfl

theorem reset_written (counter : PitCounter) : (program (reset counter)).Written [] := by
  refine .fresh (fun _ => nofun) rfl (fun _ => ?_)
  change pit_mode 0 = .mode0
  decide

theorem latch_count_program (counter : PitCounter) :
    program (latch_count counter) = program counter := by
  rw [latch_count]
  split
  · rfl
  · rfl

theorem latch_status_program (counter : PitCounter) :
    program (latch_status counter) = program counter := by
  rw [latch_status]
  split
  · rfl
  · rfl

theorem read_counter_program (counter : PitCounter) (inout_value : U8) :
    program (read_counter counter inout_value).2 = program counter := by
  have hread : program (if counter.flagLatch then counter else sync_count counter) =
      program counter := by
    split
    · rfl
    · rfl
  rw [read_counter]
  split
  · rfl
  · generalize (if counter.flagLatch then counter else sync_count counter) = other at hread
    rw [← hread]
    simp only
    split
    · rfl
    · rfl
    · split
      · rfl
      · rfl
    · rfl

/-- A gate that rises asks for the load of a loaded counter, and changes nothing else. -/
theorem set_gate_program (counter : PitCounter) (asserted : Bool) :
    program (set_gate counter asserted) = program counter ∨
      program (set_gate counter asserted) = { program counter with flagRestart := true } ∧
        (counter.flagLoadPending = true ∨
          counter.flagReady = true ∧ pit_mode counter.cw ≠ .mode0) := by
  rw [set_gate]
  split
  · exact .inl rfl
  simp only
  split
  · split
    · refine .inl ?_
      rw [program_set_output_level]
      rfl
    · exact .inl rfl
  · split
    · split
      · exact .inl rfl
      · exact .inl rfl
    · split
      · rename_i hmode
        split
        · rename_i hloaded
          refine .inr ⟨rfl, ?_⟩
          simp only [Bool.or_eq_true] at hloaded
          refine hloaded.symm.imp_right fun hready => ⟨hready, fun h0 => ?_⟩
          simp [h0] at hmode
        · exact .inl rfl
      · exact .inl rfl

theorem set_gate_written (h : (program counter).Written bytes) (asserted : Bool) :
    (program (set_gate counter asserted)).Written bytes := by
  cases set_gate_program counter asserted with
  | inl hsame => rwa [hsame]
  | inr hrestart =>
    rw [hrestart.1]
    refine ⟨h.writes, h.half, h.complete, fun _ => ?_⟩
    refine h.asked (hrestart.2.imp_left fun hpending => ?_)
    simp [PitProgram.load_asked, program, hpending]

theorem set_gate_programmed (h : (program counter).Programmed bytes) (asserted : Bool) :
    (program (set_gate counter asserted)).Programmed bytes := by
  cases set_gate_program counter asserted with
  | inl hsame => rwa [hsame]
  | inr hrestart =>
    rw [hrestart.1]
    exact h

/-- A load that is due was asked for. -/
theorem load_due_asked (h : load_due counter = true) :
    (program counter).load_asked = true := by
  simp only [PitProgram.load_asked, program, Bool.or_eq_true]
  simp only [load_due, Bool.and_eq_true] at h
  have hmode := h.2
  cases hcase : pit_mode counter.cw with
  | mode0 | mode4 =>
    simp only [hcase] at hmode
    exact .inr hmode
  | mode1 | mode5 =>
    simp only [hcase, Bool.and_eq_true] at hmode
    exact .inr hmode.2
  | mode2 | mode3 =>
    simp only [hcase, Bool.or_eq_true, Bool.and_eq_true] at hmode
    exact hmode.imp_right fun hload => hload.1

theorem tick_written (hsound : counter.Sound) (h : (program counter).Written bytes) :
    (program (tick personality counter)).Written bytes := by
  rw [tick_program personality counter hsound.turns]
  split
  · rename_i hdue
    exact h.loaded (load_due_asked hdue)
  · exact h

theorem tick_programmed (hsound : counter.Sound) (h : (program counter).Written bytes)
    (hmeets : ¬((program counter).half_written = true ∧ load_due counter = true))
    (hprogrammed : (program counter).Programmed bytes) :
    (program (tick personality counter)).Programmed bytes := by
  rw [tick_program personality counter hsound.turns]
  split
  · rename_i hdue
    have hwhole : (program counter).half_written = false :=
      Bool.eq_false_iff.mpr fun hhalf => hmeets ⟨hhalf, hdue⟩
    exact h.programmed (load_due_asked hdue) hwhole
  · exact hprogrammed

/-- A tick carries out a load that was asked for. -/
def loads (personality : PitPersonality) (counter : PitCounter) : Bool :=
  (program counter).load_asked && !(program (tick personality counter)).load_asked

theorem loads_eq (hsound : counter.Sound) : loads personality counter = load_due counter := by
  rw [loads, tick_program personality counter hsound.turns]
  cases hdue : load_due counter with
  | true =>
    rw [load_due_asked hdue]
    rfl
  | false =>
    cases hasked : (program counter).load_asked with
    | true => simp [hasked]
    | false => rfl

end PitCounter

/-! ## Runs -/

/-- The bytes written to the counters since their control words, after a register is written. -/
def pit_bytes_register (bytes : Table 3 (List U8)) (selector value : U8) : Table 3 (List U8) :=
  if selector.toNat ≥ 4 then bytes
  else
    match pit_select selector with
    | some id => Function.update bytes id (bytes id ++ [value])
    | none =>
      if h : vpit_get_cw_sc value < 3 then
        if vpit_get_cw_rw value = 0 then bytes
        else Function.update bytes ⟨vpit_get_cw_sc value, h⟩ []
      else bytes

/-- These bytes after a call. -/
def pit_bytes_call (bytes : Table 3 (List U8)) : PitCall → Table 3 (List U8)
  | .write_register selector value => pit_bytes_register bytes selector value
  | .read_counter _ _ => bytes
  | .set_output _ _ => bytes
  | .set_gate _ _ => bytes
  | .tick => bytes
  | .reset => fun _ => []

/-- The bytes that a run leaves. -/
def pit_bytes (calls : List PitCall) : Table 3 (List U8) :=
  calls.foldl pit_bytes_call fun _ => []

/-- A relation of each counter to its bytes. -/
def Pit.All (pit : Pit) (bytes : Table 3 (List U8)) (p : PitProgram → List U8 → Prop) : Prop :=
  ∀ id, p (PitCounter.program (pit.counters id)) (bytes id)

theorem pit_change_all {pit : Pit} {bytes : Table 3 (List U8)} {p : PitProgram → List U8 → Prop}
    (h : pit.All bytes p) (id : Fin 3) (change : PitCounter → PitCounter) (new : List U8)
    (hchange : p (PitCounter.program (change (pit.counters id))) new) :
    (pit_change pit id change).All (Function.update bytes id new) p := by
  intro other
  rw [pit_change_counters, Function.update_apply]
  by_cases hother : other = id
  · rw [if_pos hother, if_pos hother]
    exact hchange
  · rw [if_neg hother, if_neg hother]
    exact h other

/-- A change that leaves the programming. -/
theorem pit_change_same {pit : Pit} {bytes : Table 3 (List U8)}
    {p : PitProgram → List U8 → Prop} (h : pit.All bytes p) (id : Fin 3)
    (change : PitCounter → PitCounter)
    (hchange : ∀ counter, PitCounter.program (change counter) = PitCounter.program counter) :
    (pit_change pit id change).All bytes p := by
  have hall := pit_change_all h id change (bytes id) (by
    rw [hchange]
    exact h id)
  rwa [Function.update_eq_self] at hall

theorem pit_read_back_program (value : U8) (id : Fin 3) (counter : PitCounter) :
    PitCounter.program (pit_read_back value id counter) = PitCounter.program counter := by
  simp only [pit_read_back]
  split
  · rfl
  · split
    · split
      · rfl
      · exact PitCounter.latch_count_program counter
    · rw [PitCounter.latch_status_program]
      split
      · rfl
      · exact PitCounter.latch_count_program counter

/-- What holds of every counter and its bytes holds after a call, if a tick keeps it, and a
control word, a byte, a gate and a reset do. -/
theorem pit_call_all {pit : Pit} {bytes : Table 3 (List U8)} {p : PitProgram → List U8 → Prop}
    (h : pit.All bytes p) (call : PitCall)
    (hcontrol : ∀ counter value, p (PitCounter.program (PitCounter.write_control counter value)) [])
    (hbyte : ∀ id value, p (PitCounter.program (PitCounter.write_counter (pit.counters id) value))
      (bytes id ++ [value]))
    (hgate : ∀ id asserted,
      p (PitCounter.program (PitCounter.set_gate (pit.counters id) asserted)) (bytes id))
    (hreset : ∀ counter, p (PitCounter.program (PitCounter.reset counter)) [])
    (htick : call = .tick → ∀ id,
      p (PitCounter.program (PitCounter.tick pit.personality (pit.counters id))) (bytes id)) :
    (pit_call pit call).All (pit_bytes_call bytes call) p := by
  cases call with
  | write_register selector value =>
    simp only [pit_call, pit_write_register, pit_bytes_call, pit_bytes_register]
    by_cases hselector : selector.toNat ≥ 4
    · rw [if_pos hselector, if_pos hselector]
      exact h
    rw [if_neg hselector, if_neg hselector]
    cases pit_select selector with
    | some id =>
      exact pit_change_all h id (fun counter => PitCounter.write_counter counter value) _
        (hbyte id value)
    | none =>
      simp only [pit_write_control]
      by_cases hcounter : vpit_get_cw_sc value < 3
      · rw [dif_pos hcounter, dif_pos hcounter]
        by_cases hlatch : vpit_get_cw_rw value = 0
        · rw [if_pos hlatch, if_pos hlatch]
          exact pit_change_same h _ PitCounter.latch_count PitCounter.latch_count_program
        · rw [if_neg hlatch, if_neg hlatch]
          exact pit_change_all h _ (fun counter => PitCounter.write_control counter value) _
            (hcontrol _ value)
      · rw [dif_neg hcounter, dif_neg hcounter]
        by_cases hpersonality : pit.personality ≠ .personality_8254
        · rw [if_pos hpersonality]
          exact h
        · rw [if_neg hpersonality]
          intro id
          rw [pit_read_back_program]
          exact h id
  | read_counter id inout_value =>
    simp only [pit_call, pit_read_counter, pit_bytes_call]
    cases pit_select id with
    | none => exact h
    | some id =>
      exact pit_change_same h id (fun counter => (PitCounter.read_counter counter inout_value).2)
        fun counter => PitCounter.read_counter_program counter inout_value
  | set_output id provider =>
    simp only [pit_call, pit_set_output, pit_bytes_call]
    cases pit_select id with
    | none => exact h
    | some id =>
      exact pit_change_same h id (fun counter => { counter with output := provider })
        fun _ => rfl
  | set_gate id asserted =>
    simp only [pit_call, pit_set_gate, pit_bytes_call]
    cases pit_select id with
    | none => exact h
    | some id =>
      have hall := pit_change_all h id
        (fun counter => PitCounter.set_gate counter asserted) (bytes id) (hgate id asserted)
      rwa [Function.update_eq_self] at hall
  | tick => exact htick rfl
  | reset => exact fun id => hreset (pit.counters id)

theorem pit_call_written {pit : Pit} {bytes : Table 3 (List U8)} (hsound : pit.Sound)
    (h : pit.All bytes PitProgram.Written) (call : PitCall) :
    (pit_call pit call).All (pit_bytes_call bytes call) PitProgram.Written :=
  pit_call_all h call PitCounter.write_control_written
    (fun id value => (PitCounter.write_counter_written (h id) value).1)
    (fun id asserted => PitCounter.set_gate_written (h id) asserted) PitCounter.reset_written
    (fun _ id => PitCounter.tick_written (hsound id) (h id))

/-- The next call of a run loads no half of a count. -/
def Pit.Meets (pit : Pit) (call : PitCall) : Prop :=
  call = .tick → ∀ id, ¬((PitCounter.program (pit.counters id)).half_written = true ∧
    PitCounter.load_due (pit.counters id) = true)

theorem pit_call_programmed {pit : Pit} {bytes : Table 3 (List U8)} (hsound : pit.Sound)
    (hwritten : pit.All bytes PitProgram.Written) (h : pit.All bytes PitProgram.Programmed)
    (call : PitCall) (hmeets : pit.Meets call) :
    (pit_call pit call).All (pit_bytes_call bytes call) PitProgram.Programmed := by
  refine pit_call_all h call ?_ ?_ ?_ (fun _ => .inl rfl) ?_
  · intro counter value
    exact .inl (PitCounter.write_control_reload counter value)
  · intro id value
    obtain ⟨-, hcw, hreload, counts, hcounts⟩ :=
      PitCounter.write_counter_written (hwritten id) value
    have happend := (h id).append hcounts
    simp only [PitProgram.Programmed, PitCounter.program] at happend ⊢
    rwa [hcw, hreload]
  · intro id asserted
    exact PitCounter.set_gate_programmed (h id) asserted
  · intro htick id
    exact PitCounter.tick_programmed (hsound id) (hwritten id) (hmeets htick id) (h id)

theorem pit_run_written (personality : PitPersonality) (calls : List PitCall) :
    (pit_run personality calls).All (pit_bytes calls) PitProgram.Written := by
  induction calls using List.reverseRecOn with
  | nil => exact fun id => .fresh nofun rfl nofun
  | append_singleton calls call ih =>
    rw [pit_run, pit_bytes, List.foldl_concat, List.foldl_concat]
    exact pit_call_written (pit_run_sound personality calls) ih call

/-- Every count that a counter loads is a complete one, in just the runs in which no tick finds
a load due between the two bytes of a count. -/
theorem pit_reload_programmed_iff (personality : PitPersonality) (calls : List PitCall) :
    (∀ before after, calls = before ++ .tick :: after →
        (pit_run personality before).Meets .tick) ↔
      (∀ before after, calls = before ++ after → ∀ id,
        (PitCounter.program ((pit_run personality before).counters id)).Programmed
          (pit_bytes before id)) ∧
      (∀ before after, calls = before ++ .tick :: after → ∀ id,
        (PitCounter.program ((pit_run personality before).counters id)).half_written = true →
          PitCounter.loads personality ((pit_run personality before).counters id) = false) := by
  constructor
  · intro hmeets
    constructor
    · intro before
      induction before using List.reverseRecOn with
      | nil => exact fun _ _ id => .inl rfl
      | append_singleton before call ih =>
        intro after hsplit
        have hprefix : calls = before ++ call :: after := by
          rw [hsplit, List.append_assoc, List.singleton_append]
        rw [pit_run, pit_bytes, List.foldl_concat, List.foldl_concat]
        refine pit_call_programmed (pit_run_sound personality before)
          (pit_run_written personality before) (ih _ hprefix) call ?_
        rintro rfl
        exact hmeets before after hprefix rfl
    · intro before after hsplit id hhalf
      rw [PitCounter.loads_eq (pit_run_sound personality before id)]
      exact Bool.eq_false_iff.mpr fun hdue => hmeets before after hsplit rfl id ⟨hhalf, hdue⟩
  · rintro ⟨-, hloads⟩ before after hsplit - id ⟨hhalf, hdue⟩
    have hnone := hloads before after hsplit id hhalf
    rw [PitCounter.loads_eq (pit_run_sound personality before id), hdue] at hnone
    cases hnone

/-- Mode 2 of an LSB/MSB counter, loaded with 0x1234; then the low byte of the next count, and
a gate that rises before the high byte. -/
def gate_between_bytes : List PitCall :=
  [.set_gate 2 true, .write_register 3 0xb4, .write_register 2 0x34, .write_register 2 0x12,
    .tick, .write_register 2 0x78, .set_gate 2 false, .set_gate 2 true, .tick]

/-- The tick loads 0x78, which no bytes have completed. -/
theorem pit_reload_half_written :
    let program :=
      PitCounter.program ((pit_run .personality_8254 gate_between_bytes).counters 2)
    program.reload = 0x78 ∧ complete_counts program.cw (pit_bytes gate_between_bytes 2) = [0x1234] ∧
      ¬ program.Programmed (pit_bytes gate_between_bytes 2) := by
  have hcounts : complete_counts
      (PitCounter.program ((pit_run .personality_8254 gate_between_bytes).counters 2)).cw
      (pit_bytes gate_between_bytes 2) = [0x1234] := by decide
  refine ⟨rfl, hcounts, ?_⟩
  rw [PitProgram.Programmed, hcounts]
  simp only [List.mem_singleton, exists_eq_left]
  decide

end Nxvm.Chips
