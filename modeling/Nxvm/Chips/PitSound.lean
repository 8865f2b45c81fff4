/-
The counters of the interval timer in use (`pit.c`).

A counter in use has loaded a count, or is about to, and never counts from nothing. Every
operation of the chip keeps that, so that every run leaves such counters.
-/
import Nxvm.Chips.Pit

set_option autoImplicit false

namespace Nxvm.Chips

open Nxvm.Lib Nxvm.Lib.Register Nxvm.Machine

namespace PitCounter

variable {personality : PitPersonality} {counter : PitCounter}

/-! ## The fields that an operation sets -/

/-- An output is set, and its provider told of a change. -/
theorem set_output_level_eq (counter : PitCounter) (asserted : Bool) :
    set_output_level counter asserted =
      { counter with
        flagOutput := asserted
        told := if counter.flagOutput ≠ asserted ∧ counter.output then
          counter.told ++ [asserted] else counter.told } := by
  rw [set_output_level]
  by_cases h : counter.flagOutput = asserted
  · rw [if_pos h, if_neg (fun hchange => hchange.1 h), ← h]
  · simp [h]

/-- A decoded count is not zero. -/
theorem pit_decode_pos (cw : U8) (init : U16) : 0 < pit_decode cw init := by
  rw [pit_decode]
  split
  · split
    · decide
    · omega
  · split
    · decide
    · rename_i hinit
      refine Nat.pos_of_ne_zero fun hzero => hinit ?_
      exact BitVec.eq_of_toNat_eq hzero

/-! ## The counters in use -/

/-- What a counter in use relies on: it counts a loaded number, and never from zero. -/
structure Sound (counter : PitCounter) : Prop where
  loaded : counter.flagReady = true → pit_mode counter.cw = .mode0 ∨ 0 < counter.reload
  reloads : counter.flagActive = true → 0 < counter.reload
  counting : counter.flagActive = true →
    counter.flagReady = true ∨ counter.flagLoadPending = true
  triggered : pit_mode counter.cw ≠ .mode0 → counter.flagTrigger = true →
    counter.flagReady = true ∨ counter.flagLoadPending = true
  counts : counter.flagActive = true → pit_mode counter.cw ≠ .mode2 →
    pit_mode counter.cw ≠ .mode3 →
    0 < counter.remaining ∨ counter.flagPulseLow = true ∧
      (pit_mode counter.cw = .mode4 ∨ pit_mode counter.cw = .mode5)
  turns : counter.flagActive = true → pit_mode counter.cw = .mode3 → 0 < counter.phase

/-- An idle counter that is not loaded. -/
theorem Sound.idle (hready : counter.flagReady = true → pit_mode counter.cw = .mode0)
    (hactive : counter.flagActive = false) (htrigger : counter.flagTrigger = false) :
    counter.Sound where
  loaded h := .inl (hready h)
  reloads h := by rw [hactive] at h; cases h
  counting h := by rw [hactive] at h; cases h
  triggered _ h := by rw [htrigger] at h; cases h
  counts h := by rw [hactive] at h; cases h
  turns h := by rw [hactive] at h; cases h

/-- A counter that has loaded, or is about to, and counts from something. -/
theorem Sound.of_loaded
    (hready : counter.flagReady = true ∨ counter.flagLoadPending = true)
    (hreload : 0 < counter.reload)
    (hcounts : counter.flagActive = true → pit_mode counter.cw ≠ .mode2 →
      pit_mode counter.cw ≠ .mode3 → 0 < counter.remaining ∨ counter.flagPulseLow = true ∧
        (pit_mode counter.cw = .mode4 ∨ pit_mode counter.cw = .mode5))
    (hturns : counter.flagActive = true → pit_mode counter.cw = .mode3 → 0 < counter.phase) :
    counter.Sound :=
  ⟨fun _ => .inr hreload, fun _ => hreload, fun _ => hready, fun _ _ => hready, hcounts, hturns⟩

theorem load_reload_pos (personality : PitPersonality) (counter : PitCounter) :
    0 < (load personality counter).reload := pit_decode_pos _ _

theorem load_remaining_pos (personality : PitPersonality) (counter : PitCounter)
    (hmode : pit_mode counter.cw ≠ .mode3) : 0 < (load personality counter).remaining := by
  simp only [load, sync_count]
  rw [if_neg hmode]
  exact pit_decode_pos _ _

theorem load_phase_pos (personality : PitPersonality)
    (hmode : pit_mode counter.cw = .mode3) : 0 < (load personality counter).phase := by
  have hreload : 0 < decode_reload counter := pit_decode_pos _ _
  simp only [load, sync_count]
  rw [if_pos hmode]
  change 0 < (decode_reload counter + 1) / 2
  omega

/-- A loaded counter is sound, whatever it was. -/
theorem load_sound (personality : PitPersonality) (counter : PitCounter) :
    (load personality counter).Sound :=
  .of_loaded (.inl rfl) (load_reload_pos _ _)
    (fun _ _ hmode => .inl (load_remaining_pos _ _ hmode)) (fun _ hmode => load_phase_pos _ hmode)

theorem decrement_count_sound (h : counter.Sound) (hactive : counter.flagActive = false) :
    (decrement_count counter).Sound where
  loaded := h.loaded
  reloads := h.reloads
  counting := h.counting
  triggered := h.triggered
  counts hcounting := by
    change counter.flagActive = true at hcounting
    rw [hactive] at hcounting
    cases hcounting
  turns := h.turns

/-- A counter in mode 0 or 1 counts down to its end. -/
theorem count_down_sound (h : counter.Sound) (hactive : counter.flagActive = true)
    (hmode : pit_mode counter.cw = .mode0 ∨ pit_mode counter.cw = .mode1) :
    (count_down counter).Sound := by
  have hturns : pit_mode counter.cw ≠ .mode3 := by
    rintro h3
    rw [h3] at hmode
    cases hmode with
    | inl h => cases h
    | inr h => cases h
  simp only [count_down, sync_count, set_output_level_eq]
  split
  · exact .of_loaded (h.counting hactive) (h.reloads hactive) nofun nofun
  · rename_i hpos
    refine .of_loaded (h.counting hactive) (h.reloads hactive) (fun _ _ _ => .inl ?_) ?_
    · exact Nat.pos_of_ne_zero hpos
    · intro _ h3
      exact absurd h3 hturns

theorem tick_mode0_sound (h : counter.Sound) (hmode : pit_mode counter.cw = .mode0) :
    (tick_mode0 personality counter).Sound := by
  rw [tick_mode0]
  split
  · exact load_sound _ _
  · split
    · exact h
    · rename_i hcounts
      simp only [Bool.or_eq_true, Bool.not_eq_true', not_or, Bool.not_eq_false] at hcounts
      exact count_down_sound h hcounts.1 (.inl hmode)

/-- A triggered counter starts from its reload. -/
theorem triggered_sound {asserted : Bool}
    (hready : counter.flagReady = true ∨ counter.flagLoadPending = true)
    (hreload : 0 < counter.reload) (hremaining : 0 < counter.remaining)
    (hmode : pit_mode counter.cw ≠ .mode3) :
    (set_output_level { counter with flagActive := true } asserted).Sound := by
  rw [set_output_level_eq]
  exact .of_loaded hready hreload (fun _ _ _ => .inl hremaining)
    (fun _ h3 => absurd h3 hmode)

/-- A count that starts again starts from something. -/
theorem start_count_starts (personality : PitPersonality) (counter : PitCounter)
    (hready : counter.flagReady = true ∨ counter.flagLoadPending = true)
    (hreload : counter.flagLoadPending = false → 0 < counter.reload) :
    (start_count personality counter).cw = counter.cw ∧
      ((start_count personality counter).flagReady = true ∨
        (start_count personality counter).flagLoadPending = true) ∧
      0 < (start_count personality counter).reload ∧
      (pit_mode counter.cw ≠ .mode3 → 0 < (start_count personality counter).remaining) := by
  rw [start_count]
  split
  · exact ⟨rfl, .inl rfl, load_reload_pos _ _, load_remaining_pos _ _⟩
  · rename_i hpending
    have hpos := hreload (Bool.eq_false_iff.mpr hpending)
    exact ⟨rfl, hready, hpos, fun _ => hpos⟩

theorem tick_mode1_sound (h : counter.Sound) (hmode : pit_mode counter.cw = .mode1) :
    (tick_mode1 personality counter).Sound := by
  have hneither : pit_mode counter.cw ≠ .mode3 := by simp [hmode]
  rw [tick_mode1]
  split
  · rename_i htrigger
    have hready := h.triggered (by simp [hmode]) htrigger
    obtain ⟨hcw, hstarted, hreload, hremaining⟩ := start_count_starts personality
      { counter with flagTrigger := false } hready fun hpending =>
        (h.loaded (hready.resolve_right (Bool.eq_false_iff.mp hpending))).resolve_left
          (by simp [hmode])
    refine triggered_sound hstarted hreload (hremaining hneither) ?_
    change pit_mode (start_count personality { counter with flagTrigger := false }).cw ≠ _
    rw [hcw]
    exact hneither
  · split
    · exact h
    · rename_i hactive
      rw [Bool.not_eq_true', Bool.not_eq_false] at hactive
      exact count_down_sound h hactive (.inr hmode)

/-- In mode 2 a loaded counter may count from anything: the end of its period catches it. -/
theorem mode2_sound (hmode : pit_mode counter.cw = .mode2)
    (hready : counter.flagReady = true ∨ counter.flagLoadPending = true)
    (hreload : 0 < counter.reload) : counter.Sound := by
  refine .of_loaded hready hreload (fun _ h2 => absurd hmode h2) (fun _ h3 => ?_)
  rw [hmode] at h3
  cases h3

theorem tick_mode2_sound (h : counter.Sound) (hmode : pit_mode counter.cw = .mode2) :
    (tick_mode2 personality counter).Sound := by
  simp only [tick_mode2]
  split
  · exact load_sound _ _
  · split
    · exact load_sound _ _
    · split
      · exact h
      · rename_i hactive
        simp only [Bool.or_eq_true, Bool.not_eq_true', not_or, Bool.not_eq_false] at hactive
        have hreload := h.reloads hactive.1
        have hready := h.counting hactive.1
        split
        · obtain ⟨hcw, hstarted, hpos, -⟩ := start_count_starts personality
            { counter with flagPulseLow := false } hready fun _ => hreload
          have hmode2 : pit_mode
              (start_count personality { counter with flagPulseLow := false }).cw = .mode2 := by
            rw [hcw]
            exact hmode
          simp only [sync_count, set_output_level_eq]
          split
          · exact mode2_sound hmode2 hstarted hpos
          · exact mode2_sound hmode2 hstarted hpos
        · simp only [sync_count, set_output_level_eq]
          split
          · exact mode2_sound hmode hready hreload
          · exact mode2_sound hmode hready hreload

/-- In mode 3 a loaded counter is in a half of its period. -/
theorem mode3_sound (hmode : pit_mode counter.cw = .mode3)
    (hready : counter.flagReady = true ∨ counter.flagLoadPending = true)
    (hreload : 0 < counter.reload) (hphase : 0 < counter.phase) : counter.Sound :=
  .of_loaded hready hreload (fun _ _ h3 => absurd hmode h3) (fun _ _ => hphase)

theorem mode3_half_sound (was_output : Bool) (hmode : pit_mode counter.cw = .mode3)
    (hready : counter.flagReady = true ∨ counter.flagLoadPending = true)
    (hreload : 0 < counter.reload) : (mode3_half was_output counter).Sound := by
  have hhigh : 0 < mode3_high_length counter := by
    rw [mode3_high_length]
    omega
  simp only [mode3_half, set_output_level_eq]
  split
  · split
    · exact mode3_sound hmode hready hreload hhigh
    · rename_i hlow
      exact mode3_sound hmode hready hreload (Nat.pos_of_ne_zero hlow)
  · exact mode3_sound hmode hready hreload hhigh

theorem mode3_turn_sound (personality : PitPersonality) (counter : PitCounter)
    (hmode : pit_mode counter.cw = .mode3)
    (hready : counter.flagReady = true ∨ counter.flagLoadPending = true)
    (hreload : 0 < counter.reload) : (mode3_turn personality counter).Sound := by
  by_cases hpending : counter.flagLoadPending = true
  · simp only [mode3_turn, if_pos hpending]
    exact mode3_half_sound _ hmode (.inl rfl) (load_reload_pos personality counter)
  · simp only [mode3_turn, if_neg hpending]
    exact mode3_half_sound _ hmode hready hreload

theorem tick_mode3_sound (h : counter.Sound) (hmode : pit_mode counter.cw = .mode3) :
    (tick_mode3 personality counter).Sound := by
  simp only [tick_mode3]
  split
  · exact load_sound _ _
  · split
    · exact load_sound _ _
    · split
      · exact h
      · rename_i hactive
        simp only [Bool.or_eq_true, Bool.not_eq_true', not_or, Bool.not_eq_false] at hactive
        have hreload := h.reloads hactive.1
        have hready := h.counting hactive.1
        split
        · have hturned := mode3_turn_sound personality
            { counter with
              remaining := if counter.remaining > mode3_decrement personality counter then
                counter.remaining - mode3_decrement personality counter else 0
              phase := decrement counter.phase } hmode hready hreload
          exact ⟨hturned.loaded, hturned.reloads, hturned.counting, hturned.triggered,
            hturned.counts, hturned.turns⟩
        · rename_i hphase
          exact mode3_sound hmode hready hreload (Nat.pos_of_ne_zero hphase)

theorem tick_mode4_or_5_sound (h : counter.Sound)
    (hmode : pit_mode counter.cw = .mode4 ∨ pit_mode counter.cw = .mode5) :
    (tick_mode4_or_5 personality counter).Sound := by
  have hneither : pit_mode counter.cw ≠ .mode3 := by
    intro h3
    simp [h3] at hmode
  have hstops {other : PitCounter} (hcw : other.cw = counter.cw)
      (hready : other.flagReady = true ∨ other.flagLoadPending = true)
      (hreload : 0 < other.reload)
      (hcounts : other.flagActive = true → 0 < other.remaining ∨ other.flagPulseLow = true) :
      other.Sound := by
    refine .of_loaded hready hreload (fun hactive _ _ => ?_) (fun _ h3 => ?_)
    · rw [hcw]
      exact (hcounts hactive).imp_right fun hpulse => ⟨hpulse, hmode⟩
    · rw [hcw] at h3
      exact absurd h3 hneither
  simp only [tick_mode4_or_5]
  split
  · exact load_sound _ _
  · split
    · rename_i htrigger
      simp only [Bool.and_eq_true, decide_eq_true_eq] at htrigger
      have hready := h.triggered (by simp [htrigger.1]) htrigger.2
      rw [set_output_level_eq]
      by_cases hpending : counter.flagLoadPending = true
      · simp only [hpending, if_true]
        exact hstops rfl (.inl rfl) (load_reload_pos personality { counter with flagTrigger := false })
          fun _ => .inl (load_remaining_pos _ { counter with flagTrigger := false } hneither)
      · have hloaded := hready.resolve_right hpending
        have hpos : 0 < counter.reload := (h.loaded hloaded).resolve_left (by simp [htrigger.1])
        simp only [hpending, sync_count]
        exact hstops rfl (.inl hloaded) hpos fun _ => .inl hpos
    · split
      · exact h
      · rename_i hactive
        rw [Bool.not_eq_true', Bool.not_eq_false] at hactive
        have hreload := h.reloads hactive
        have hready := h.counting hactive
        split
        · exact h
        · split
          · simp only [sync_count, set_output_level_eq]
            split
            · exact hstops rfl hready hreload nofun
            · exact hstops rfl hready hreload nofun
          · simp only [sync_count, set_output_level_eq]
            split
            · exact hstops rfl hready hreload fun _ => .inr rfl
            · rename_i hpos
              exact hstops rfl hready hreload fun _ => .inl (Nat.pos_of_ne_zero hpos)

/-- A tick keeps a counter sound. -/
theorem tick_sound (h : counter.Sound) : (tick personality counter).Sound := by
  rw [tick]
  split
  · exact h
  · split
    · rename_i hruns
      simp only [runs_on, Bool.and_eq_true, Bool.not_eq_true'] at hruns
      exact decrement_count_sound h hruns.1.1.1.1.1
    · cases hmode : pit_mode counter.cw with
      | mode0 => exact tick_mode0_sound h hmode
      | mode1 => exact tick_mode1_sound h hmode
      | mode2 => exact tick_mode2_sound h hmode
      | mode3 => exact tick_mode3_sound h hmode
      | mode4 => exact tick_mode4_or_5_sound h (.inl hmode)
      | mode5 => exact tick_mode4_or_5_sound h (.inr hmode)

/-- A complete count waits for the tick that loads it. -/
theorem complete_count_sound (h : counter.Sound) : (complete_count counter).Sound := by
  rw [complete_count, stop_mode0]
  split
  · rename_i hmode
    rw [set_output_level_eq]
    refine ⟨nofun, nofun, nofun, fun h0 => absurd hmode h0, nofun, nofun⟩
  · exact ⟨nofun, h.reloads, fun _ => .inr rfl, fun _ _ => .inr rfl, h.counts, h.turns⟩

theorem write_counter_sound (h : counter.Sound) (value : U8) :
    (write_counter counter value).Sound := by
  have hinit (init : U16) : Sound { counter with init := init } :=
    ⟨h.loaded, h.reloads, h.counting, h.triggered, h.counts, h.turns⟩
  rw [write_counter]
  split
  · exact complete_count_sound (hinit _)
  · exact complete_count_sound (hinit _)
  · split
    · exact complete_count_sound (hinit _)
    · rw [stop_mode0]
      split
      · rename_i hmode
        rw [set_output_level_eq]
        refine ⟨fun _ => .inl hmode, nofun, nofun, fun h0 => absurd hmode h0, nofun, nofun⟩
      · rename_i hmode
        have hkeep : (counter.flagReady && pit_mode counter.cw ≠ .mode0) = counter.flagReady := by
          rw [decide_eq_true hmode, Bool.and_true]
        rw [hkeep]
        exact ⟨h.loaded, h.reloads, h.counting, h.triggered, h.counts, h.turns⟩
  · exact h

theorem write_control_sound (counter : PitCounter) (value : U8) :
    (write_control counter value).Sound := by
  rw [write_control, set_output_level_eq]
  exact .idle nofun rfl rfl

theorem set_gate_sound (h : counter.Sound) (asserted : Bool) :
    (set_gate counter asserted).Sound := by
  have hgate : Sound { counter with flagGate := asserted } :=
    ⟨h.loaded, h.reloads, h.counting, h.triggered, h.counts, h.turns⟩
  rw [set_gate]
  split
  · exact h
  simp only
  split
  · split
    · rename_i hmode
      rw [set_output_level_eq]
      refine ⟨h.loaded, h.reloads, h.counting, h.triggered, fun _ h2 h3 => ?_, h.turns⟩
      exact absurd hmode (not_or.mpr ⟨h2, h3⟩)
    · exact hgate
  · split
    · split
      · exact hgate
      · rename_i hloaded
        refine ⟨h.loaded, h.reloads, h.counting, fun _ _ => ?_, h.counts, h.turns⟩
        simp only [Bool.and_eq_true, Bool.not_eq_true', not_and, Bool.not_eq_false] at hloaded
        cases hready : counter.flagReady with
        | false => exact .inr (hloaded hready)
        | true => exact .inl rfl
    · split
      · split
        · exact ⟨h.loaded, h.reloads, h.counting, h.triggered, h.counts, h.turns⟩
        · exact hgate
      · exact hgate

theorem reset_sound (counter : PitCounter) : (reset counter).Sound := by
  refine .idle (fun _ => ?_) rfl rfl
  change pit_mode 0 = .mode0
  decide

theorem latch_count_sound (h : counter.Sound) : (latch_count counter).Sound := by
  rw [latch_count]
  split
  · exact h
  · exact ⟨h.loaded, h.reloads, h.counting, h.triggered, h.counts, h.turns⟩

theorem latch_status_sound (h : counter.Sound) : (latch_status counter).Sound := by
  rw [latch_status]
  split
  · exact h
  · exact ⟨h.loaded, h.reloads, h.counting, h.triggered, h.counts, h.turns⟩

theorem read_counter_sound (h : counter.Sound) (inout_value : U8) :
    (read_counter counter inout_value).2.Sound := by
  have hread (other : PitCounter)
      (hother : other = if counter.flagLatch then counter else sync_count counter) :
      other.Sound := by
    rw [hother]
    split
    · exact h
    · exact ⟨h.loaded, h.reloads, h.counting, h.triggered, h.counts, h.turns⟩
  rw [read_counter]
  split
  · exact ⟨h.loaded, h.reloads, h.counting, h.triggered, h.counts, h.turns⟩
  · have h := hread _ rfl
    generalize (if counter.flagLatch then counter else sync_count counter) = other at h
    simp only
    split
    · exact ⟨h.loaded, h.reloads, h.counting, h.triggered, h.counts, h.turns⟩
    · exact ⟨h.loaded, h.reloads, h.counting, h.triggered, h.counts, h.turns⟩
    · split
      · exact ⟨h.loaded, h.reloads, h.counting, h.triggered, h.counts, h.turns⟩
      · exact ⟨h.loaded, h.reloads, h.counting, h.triggered, h.counts, h.turns⟩
    · exact ⟨h.loaded, h.reloads, h.counting, h.triggered, h.counts, h.turns⟩

end PitCounter

/-! ## The chip -/

/-- All counters of a chip are sound. -/
def Pit.Sound (pit : Pit) : Prop := ∀ id, (pit.counters id).Sound

theorem pit_change_sound {pit : Pit} (h : pit.Sound) (id : Fin 3)
    (change : PitCounter → PitCounter)
    (hchange : (pit.counters id).Sound → (change (pit.counters id)).Sound) :
    (pit_change pit id change).Sound := by
  intro other
  rw [pit_change_counters]
  split
  · exact hchange (h id)
  · exact h other

theorem pit_write_control_sound {pit : Pit} (h : pit.Sound) (value : U8) :
    (pit_write_control pit value).Sound := by
  rw [pit_write_control]
  split
  · simp only
    split
    · exact pit_change_sound h _ _ PitCounter.latch_count_sound
    · exact pit_change_sound h _ _ fun _ => PitCounter.write_control_sound _ value
  · split
    · exact h
    · intro id
      have hcount : PitCounter.Sound (if is_set value vpit_rb_count then pit.counters id
          else PitCounter.latch_count (pit.counters id)) := by
        split
        · exact h id
        · exact PitCounter.latch_count_sound (h id)
      simp only [pit_read_back]
      split
      · exact h id
      · split
        · exact hcount
        · exact PitCounter.latch_status_sound hcount

theorem pit_call_sound {pit : Pit} (h : pit.Sound) (call : PitCall) :
    (pit_call pit call).Sound := by
  cases call with
  | write_register selector value =>
    rw [pit_call, pit_write_register]
    split
    · exact h
    · split
      · exact pit_write_control_sound h value
      · exact pit_change_sound h _ (fun counter => PitCounter.write_counter counter value)
          fun hcounter => PitCounter.write_counter_sound hcounter value
  | read_counter id inout_value =>
    rw [pit_call, pit_read_counter]
    split
    · exact h
    · exact pit_change_sound h _
        (fun counter => (PitCounter.read_counter counter inout_value).2)
        fun hcounter => PitCounter.read_counter_sound hcounter inout_value
  | set_output id provider =>
    rw [pit_call, pit_set_output]
    split
    · exact h
    · refine pit_change_sound h _ _ fun hcounter => ?_
      exact ⟨hcounter.loaded, hcounter.reloads, hcounter.counting, hcounter.triggered,
        hcounter.counts, hcounter.turns⟩
  | set_gate id asserted =>
    rw [pit_call, pit_set_gate]
    split
    · exact h
    · exact pit_change_sound h _ _ fun hcounter => PitCounter.set_gate_sound hcounter asserted
  | tick => exact fun id => PitCounter.tick_sound (h id)
  | reset => exact fun id => PitCounter.reset_sound _

/-- Every run leaves sound counters. -/
theorem pit_run_sound (personality : PitPersonality) (calls : List PitCall) :
    (pit_run personality calls).Sound := by
  have hrun {pit : Pit} (h : pit.Sound) : (calls.foldl pit_call pit).Sound := by
    induction calls generalizing pit with
    | nil => exact h
    | cons call calls ih => exact ih (pit_call_sound h call)
  exact hrun fun id => .idle nofun rfl rfl

end Nxvm.Chips
