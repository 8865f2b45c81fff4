/-
The output edges of the interval timer, told in advance (`pit.c`).

`x86_pit_ticks_until_output` tells in closed form after how many ticks an output moves next,
while a tick goes through six machines. A counter in use never counts from nothing, and so a
tick that the answer reaches beyond changes nothing but the counts.
-/
import Nxvm.Chips.PitSound

set_option autoImplicit false

namespace Nxvm.Chips

open Nxvm.Lib Nxvm.Lib.Register Nxvm.Machine

namespace PitCounter

variable {personality : PitPersonality} {counter : PitCounter}

/-! ## The ticks before an edge -/

/-- A counter with a change of its counts only. -/
def counted (counter : PitCounter) (remaining phase : ℕ) (count : U16) : PitCounter :=
  { counter with remaining := remaining, phase := phase, count := count }

/-- What a distance of more than one tick says of a counter. -/
theorem ticks_until_output_ok {n : ℕ} (hok : ticks_until_output personality counter = .ok n)
    (hn : n ≠ 1) :
    output_due counter = false ∧ counter.flagActive = true ∧ gated counter = false ∧
      n = output_distance personality counter ∧ n ≠ 0 := by
  rw [ticks_until_output] at hok
  split at hok
  · cases hok
    exact absurd rfl hn
  rename_i hdue
  split at hok
  · cases hok
  rename_i hactive
  split at hok
  · cases hok
  rename_i hdistance
  cases hok
  simp only [Bool.or_eq_true, Bool.not_eq_true', not_or, Bool.not_eq_true, Bool.not_eq_false]
    at hdue hactive
  exact ⟨hdue, hactive.1, hactive.2, rfl, hdistance⟩

/-- A counter that counts, with such a distance, is told just that. -/
theorem ticks_until_output_of_distance {n : ℕ} (hdue : output_due counter = false)
    (hactive : counter.flagActive = true) (hgated : gated counter = false)
    (hn : output_distance personality counter = n + 1) :
    ticks_until_output personality counter = .ok (n + 1) := by
  rw [ticks_until_output, hdue, hactive, hgated, hn]
  rfl

/-- A tick before the edge only counts. -/
theorem tick_before_edge {n : ℕ} (h : counter.Sound)
    (hok : ticks_until_output personality counter = .ok (n + 2)) :
    ∃ remaining phase count, tick personality counter = counted counter remaining phase count ∧
      output_distance personality (counted counter remaining phase count) = n + 1 := by
  obtain ⟨hdue, hactive, hgated, hn, -⟩ := ticks_until_output_ok hok (by omega)
  have hready : (!counter.flagReady && !counter.flagLoadPending && !counter.flagTrigger) =
      false := by
    cases h.counting hactive with
    | inl hready => simp [hready]
    | inr hpending => simp [hpending]
  have hruns : runs_on counter = false := by simp [runs_on, hactive]
  rw [output_distance] at hn
  rw [tick, hready, hruns]
  simp only [Bool.false_eq_true, if_false]
  cases hmode : pit_mode counter.cw with
  | mode0 =>
    simp only [hmode] at hn
    simp [output_due, hmode] at hdue
    simp [gated, hmode] at hgated
    refine ⟨n + 1, counter.phase, pit_encode_count counter.cw (n + 1), ?_, ?_⟩
    · simp [tick_mode0, hdue, hactive, hgated, count_down, ← hn, decrement, sync_count, counted]
    · simp [output_distance, counted, hmode]
  | mode1 =>
    simp only [hmode] at hn
    simp [output_due, hmode] at hdue
    refine ⟨n + 1, counter.phase, pit_encode_count counter.cw (n + 1), ?_, ?_⟩
    · simp [tick_mode1, hdue, hactive, count_down, ← hn, decrement, sync_count, counted]
    · simp [output_distance, counted, hmode]
  | mode2 =>
    simp only [hmode] at hn
    simp [output_due, hmode, hactive] at hdue
    simp [gated, hmode] at hgated
    split at hn
    · omega
    rename_i hpulse
    simp only [Bool.or_eq_true, decide_eq_true_eq, not_or, Bool.not_eq_true] at hpulse
    refine ⟨counter.remaining - 1, counter.phase,
      pit_encode_count counter.cw (counter.remaining - 1), ?_, ?_⟩
    · have hpos : counter.remaining ≠ 0 := by omega
      have hterminal : ¬ counter.remaining ≤ mode2_terminal personality + 1 := by
        cases personality with
        | personality_8254 =>
          change ¬ counter.remaining ≤ 2
          change n + 2 = counter.remaining - 1 at hn
          omega
        | personality_8253 =>
          change ¬ counter.remaining ≤ 1
          exact hpulse.2
      simp [tick_mode2, hdue, hactive, hgated, hpulse, hterminal, decrement, hpos, sync_count,
        counted]
    · have hmore : ¬ counter.remaining - 1 ≤ 1 ∨ n = 0 := by
        split at hn
        · omega
        · omega
      simp only [output_distance, counted, hmode, hpulse.1, Bool.false_or, decide_eq_true_eq]
      split
      · omega
      · omega
  | mode3 =>
    simp only [hmode] at hn
    simp [output_due, hmode, hactive] at hdue
    simp [gated, hmode] at hgated
    refine ⟨if counter.remaining > mode3_decrement personality counter then
      counter.remaining - mode3_decrement personality counter else 0, n + 1, pit_encode_count
        counter.cw (if counter.remaining > mode3_decrement personality counter then
          counter.remaining - mode3_decrement personality counter else 0), ?_, ?_⟩
    · simp [tick_mode3, hdue, hactive, hgated, ← hn, decrement, sync_count, counted]
    · simp [output_distance, counted, hmode]
  | mode4 =>
    simp only [hmode] at hn
    simp [output_due, hmode] at hdue
    simp [gated, hmode] at hgated
    split at hn
    · omega
    rename_i hpulse
    refine ⟨n + 1, counter.phase, pit_encode_count counter.cw (n + 1), ?_, ?_⟩
    · have hgate : counter.flagGate = true := by
        by_contra hlow
        exact hpulse (hgated (Bool.eq_false_iff.mpr hlow))
      simp [tick_mode4_or_5, hmode, hdue, hactive, hgate, hpulse, ← hn, decrement, sync_count,
        counted]
    · simp [output_distance, counted, hmode, hpulse]
  | mode5 =>
    simp only [hmode] at hn
    simp [output_due, hmode] at hdue
    split at hn
    · omega
    rename_i hpulse
    refine ⟨n + 1, counter.phase, pit_encode_count counter.cw (n + 1), ?_, ?_⟩
    · simp [tick_mode4_or_5, hmode, hdue, hactive, hpulse, ← hn, decrement, sync_count, counted]
    · simp [output_distance, counted, hmode, hpulse]

/-- A counter in use is some ticks away from its edge. -/
theorem output_distance_ne_zero (h : counter.Sound) (hactive : counter.flagActive = true) :
    output_distance personality counter ≠ 0 := by
  have hcounts := h.counts hactive
  rw [output_distance]
  cases hmode : pit_mode counter.cw with
  | mode0 | mode1 =>
    simp [hmode] at hcounts
    exact Nat.ne_of_gt hcounts
  | mode2 =>
    simp only
    split
    · decide
    · rename_i hpulse
      simp only [Bool.or_eq_true, decide_eq_true_eq, not_or] at hpulse
      split
      · omega
      · omega
  | mode3 => exact Nat.ne_of_gt (h.turns hactive hmode)
  | mode4 | mode5 =>
    simp [hmode] at hcounts
    simp only
    split
    · decide
    · rename_i hpulse
      exact Nat.ne_of_gt (hcounts.resolve_right hpulse)

theorem ticks_until_output_invalid (h : counter.Sound) :
    ticks_until_output personality counter = .error .invalid_state ↔
      output_due counter = false ∧ (counter.flagActive = false ∨ gated counter = true) := by
  rw [ticks_until_output]
  cases hdue : output_due counter with
  | true => simp
  | false =>
    by_cases hidle : counter.flagActive = false ∨ gated counter = true
    · simp [hidle]
    · have hactive : counter.flagActive = true := by
        rw [not_or, Bool.not_eq_false] at hidle
        exact hidle.1
      have hdistance : output_distance personality counter ≠ 0 :=
        output_distance_ne_zero h hactive
      simp [hidle, hdistance]

/-- A tick of a counter without a next edge counts at most. -/
theorem tick_without_edge (personality : PitPersonality) (hdue : output_due counter = false)
    (hidle : counter.flagActive = false ∨ gated counter = true) :
    ∃ remaining phase count, tick personality counter = counted counter remaining phase count := by
  have hstays : ∃ remaining phase count, counter = counted counter remaining phase count :=
    ⟨counter.remaining, counter.phase, counter.count, rfl⟩
  have hcounts : ∃ remaining phase count,
      decrement_count counter = counted counter remaining phase count :=
    ⟨_, counter.phase, _, rfl⟩
  rw [tick]
  split
  · exact hstays
  split
  · exact hcounts
  cases hmode : pit_mode counter.cw with
  | mode0 =>
    simp [output_due, hmode] at hdue
    simp [gated, hmode] at hidle
    simpa [tick_mode0, hdue, hidle] using hstays
  | mode1 =>
    simp [output_due, hmode] at hdue
    simp [gated, hmode] at hidle
    simpa [tick_mode1, hdue, hidle] using hstays
  | mode2 =>
    simp [output_due, hmode] at hdue
    simp [gated, hmode] at hidle
    have hload : (counter.flagLoadPending && !counter.flagActive) = false := by
      cases hpending : counter.flagLoadPending with
      | false => rfl
      | true => simp [hdue.2 hpending]
    simpa [tick_mode2, hdue, hload, hidle] using hstays
  | mode3 =>
    simp [output_due, hmode] at hdue
    simp [gated, hmode] at hidle
    have hload : (counter.flagLoadPending && !counter.flagActive) = false := by
      cases hpending : counter.flagLoadPending with
      | false => rfl
      | true => simp [hdue.2 hpending]
    simpa [tick_mode3, hdue, hload, hidle] using hstays
  | mode4 =>
    simp [output_due, hmode] at hdue
    simp [gated, hmode] at hidle
    cases hactive : counter.flagActive with
    | false => simpa [tick_mode4_or_5, hmode, hdue, hactive] using hstays
    | true =>
      have hgate := hidle.resolve_left (by simp [hactive])
      simpa [tick_mode4_or_5, hmode, hdue, hactive, hgate] using hstays
  | mode5 =>
    simp [output_due, hmode] at hdue
    simp [gated, hmode] at hidle
    simpa [tick_mode4_or_5, hmode, hdue, hidle] using hstays

/-- Before the edge the output stays, and the distance shrinks tick by tick. -/
theorem ticks_before_edge (k : ℕ) {n : ℕ} (h : counter.Sound)
    (hok : ticks_until_output personality counter = .ok n) (hk : k < n) :
    ((tick personality)^[k] counter).flagOutput = counter.flagOutput ∧
      ((tick personality)^[k] counter).told = counter.told ∧
      ticks_until_output personality ((tick personality)^[k] counter) = .ok (n - k) := by
  induction k generalizing counter n with
  | zero => exact ⟨rfl, rfl, hok⟩
  | succ k ih =>
    obtain ⟨m, rfl⟩ : ∃ m, n = m + 2 := ⟨n - 2, by omega⟩
    obtain ⟨hdue, hactive, hgated, -, -⟩ := ticks_until_output_ok hok (by omega)
    obtain ⟨remaining, phase, count, htick, hdistance⟩ := tick_before_edge h hok
    have hnext : ticks_until_output personality (tick personality counter) = .ok (m + 1) := by
      rw [htick]
      exact ticks_until_output_of_distance hdue hactive hgated hdistance
    obtain ⟨houtput, htold, huntil⟩ := ih (tick_sound h) hnext (by omega)
    rw [Function.iterate_succ_apply]
    rw [htick] at houtput htold huntil ⊢
    refine ⟨houtput, htold, ?_⟩
    rw [huntil]
    congr 1
    omega

/-- Without an edge ahead the output stays for good. -/
theorem ticks_without_edge (k : ℕ) (h : counter.Sound)
    (hinvalid : ticks_until_output personality counter = .error .invalid_state) :
    ((tick personality)^[k] counter).flagOutput = counter.flagOutput ∧
      ((tick personality)^[k] counter).told = counter.told := by
  induction k generalizing counter with
  | zero => exact ⟨rfl, rfl⟩
  | succ k ih =>
    obtain ⟨hdue, hidle⟩ := (ticks_until_output_invalid h).mp hinvalid
    obtain ⟨remaining, phase, count, htick⟩ :=
      tick_without_edge personality hdue hidle
    have hsound : (tick personality counter).Sound := tick_sound h
    rw [htick] at hsound
    obtain ⟨houtput, htold⟩ := ih hsound ((ticks_until_output_invalid hsound).mpr ⟨hdue, hidle⟩)
    rw [Function.iterate_succ_apply, htick]
    exact ⟨houtput, htold⟩

end PitCounter

/-! ## The chip -/

theorem pit_advance_personality (pit : Pit) (elapsed_ticks : ℕ) :
    (pit_advance pit elapsed_ticks).personality = pit.personality := by
  induction elapsed_ticks generalizing pit with
  | zero => rfl
  | succ n ih =>
    rw [pit_advance, Function.iterate_succ_apply]
    exact ih (pit_tick pit)

/-- Each counter goes through its own ticks. -/
theorem pit_advance_counters (pit : Pit) (elapsed_ticks : ℕ) (id : Fin 3) :
    (pit_advance pit elapsed_ticks).counters id =
      (PitCounter.tick pit.personality)^[elapsed_ticks] (pit.counters id) := by
  induction elapsed_ticks generalizing pit with
  | zero => rfl
  | succ n ih =>
    rw [pit_advance, Function.iterate_succ_apply, Function.iterate_succ_apply]
    exact ih (pit_tick pit)

/-- What the providers of a counter's output were told. -/
def pit_told (pit : Pit) (id : U8) : List Bool :=
  match pit_select id with
  | none => []
  | some id => (pit.counters id).told

/-- After any calls, an output does not move before the tick that the chip tells, and is told
the ticks that remain; where it tells none, the output does not move at all. -/
theorem pit_output_told_ahead (personality : PitPersonality) (calls : List PitCall) (id : U8) :
    let pit := pit_run personality calls
    (∀ n, pit_ticks_until_output pit id = .ok n → ∀ k < n,
        pit_get_output (pit_advance pit k) id = pit_get_output pit id ∧
          pit_told (pit_advance pit k) id = pit_told pit id ∧
          pit_ticks_until_output (pit_advance pit k) id = .ok (n - k)) ∧
      (pit_ticks_until_output pit id = .error .invalid_state → ∀ k,
        pit_get_output (pit_advance pit k) id = pit_get_output pit id ∧
          pit_told (pit_advance pit k) id = pit_told pit id) := by
  intro pit
  have h : pit.Sound := pit_run_sound personality calls
  simp only [pit_ticks_until_output, pit_get_output, pit_told]
  cases pit_select id with
  | none =>
    refine ⟨?_, fun _ _ => ⟨rfl, rfl⟩⟩
    intro n hok
    cases hok
  | some id =>
    simp only [pit_advance_counters, pit_advance_personality]
    constructor
    · intro n hok k hk
      exact PitCounter.ticks_before_edge k (h id) hok hk
    · intro hinvalid k
      exact PitCounter.ticks_without_edge k (h id) hinvalid

end Nxvm.Chips
