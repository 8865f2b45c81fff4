/-
The keyboard controller foretells its next event (`x86_kbc8042_ticks_until_event`).

Five things can happen in an advance: an output pulse ends, a scan byte is delivered, the
keyboard's BAT is taken, the waiting reply is published, a key repeats. Each has a gate and a
countdown behind it (`kbc_countdown`). The prediction looks at all five, and an advance that
is shorter than every open countdown only counts down, so that the prediction is as much
shorter afterwards; an advance of just that length performs one of them.
-/
import Nxvm.Chips.KbcClocks
import Nxvm.Chips.KbcReplyProgress

set_option autoImplicit false

namespace Nxvm.Chips

open Nxvm.Lib Nxvm.Lib.Register Nxvm.Machine

/-- `LIB_UINT64_MAX`. -/
def u64_max : ℕ := 2 ^ 64 - 1

/-! ## The prediction -/

section Link

variable {σ : Type} (link : KbcLink σ)

/-- `x86_kbc8042_ticks_until_event`; `none` is `LIB_STATUS_INVALID_STATE`. -/
def kbc_ticks_until_event (s : KbcState σ) : Option ℕ :=
  let ticks :=
    if s.chip.output_pulse_mask ≠ 0 then s.chip.output_pulse_remaining_ticks else u64_max
  let ticks :=
    if kbc_keyboard_serial_delivery_pending link s && s.chip.fifo.isEmpty then
      if s.chip.serial_delivery_remaining_ticks < ticks then
        s.chip.serial_delivery_remaining_ticks
      else ticks
    else ticks
  let keyboard := link.keyboard_inputs s.context
  let ticks :=
    if keyboard.bat_ready && s.chip.fifo.isEmpty && s.chip.delayed_response.isNone then 0
    else ticks
  let ticks :=
    match s.chip.delayed_response with
    | none => ticks
    | some reply =>
      if kbc_response_can_publish link s reply = true ∧ s.chip.response_remaining_ticks < ticks then
        s.chip.response_remaining_ticks
      else ticks
  let ticks :=
    if kbc_repeat_can_publish link s = true ∧ keyboard.repeat_ticks < ticks then
      keyboard.repeat_ticks
    else ticks
  if ticks = u64_max then none else some ticks

/-- What happens in an advance, in its order. -/
inductive KbcSource where
  | pulse
  | serial
  | bat
  | response
  | typematic
  deriving DecidableEq, Repr

def KbcSource.all : List KbcSource := [.pulse, .serial, .bat, .response, .typematic]

theorem KbcSource.mem_all (source : KbcSource) : source ∈ KbcSource.all := by
  cases source <;> decide

/-- How long it takes, where the gate is open. -/
def kbc_countdown (s : KbcState σ) : KbcSource → Option ℕ
  | .pulse =>
    if s.chip.output_pulse_mask ≠ 0 then some s.chip.output_pulse_remaining_ticks else none
  | .serial =>
    if kbc_keyboard_serial_delivery_pending link s && s.chip.fifo.isEmpty then
      some s.chip.serial_delivery_remaining_ticks
    else none
  | .bat =>
    if (link.keyboard_inputs s.context).bat_ready && s.chip.fifo.isEmpty &&
        s.chip.delayed_response.isNone then some 0
    else none
  | .response =>
    match s.chip.delayed_response with
    | none => none
    | some reply =>
      if kbc_response_can_publish link s reply then some s.chip.response_remaining_ticks else none
  | .typematic =>
    if kbc_repeat_can_publish link s then some (link.keyboard_inputs s.context).repeat_ticks
    else none

/-- The earlier of a time and a countdown that may be closed. -/
def earlier (ticks : ℕ) : Option ℕ → ℕ
  | none => ticks
  | some countdown => min ticks countdown

/-- The earliest is a bound, and it is the start or one of the countdowns. -/
theorem foldl_earlier (countdowns : List (Option ℕ)) (start : ℕ) :
    countdowns.foldl earlier start ≤ start ∧
      (∀ m, some m ∈ countdowns → countdowns.foldl earlier start ≤ m) ∧
      (countdowns.foldl earlier start = start ∨
        some (countdowns.foldl earlier start) ∈ countdowns) := by
  induction countdowns generalizing start with
  | nil => exact ⟨le_rfl, fun m hm => absurd hm List.not_mem_nil, Or.inl rfl⟩
  | cons countdown countdowns ih =>
    obtain ⟨hstart, hbelow, hreached⟩ := ih (earlier start countdown)
    rw [List.foldl_cons]
    have hle : earlier start countdown ≤ start := by
      cases countdown with
      | none => exact le_rfl
      | some m => exact Nat.min_le_left _ _
    refine ⟨hstart.trans hle, fun m hm => ?_, ?_⟩
    · rcases List.mem_cons.mp hm with rfl | hm
      · exact hstart.trans (Nat.min_le_right _ _)
      · exact hbelow m hm
    · rcases hreached with heq | hmem
      · cases countdown with
        | none => exact Or.inl heq
        | some m =>
          rcases Nat.le_total start m with hle | hle
          · exact Or.inl (heq.trans (Nat.min_eq_left hle))
          · refine Or.inr (List.mem_cons.mpr (Or.inl ?_))
            rw [heq, earlier, Nat.min_eq_right hle]
      · exact Or.inr (List.mem_cons_of_mem _ hmem)

theorem min_eq_ite (ticks countdown : ℕ) :
    (if countdown < ticks then countdown else ticks) = min ticks countdown := by
  split_ifs with h
  · exact (Nat.min_eq_right h.le).symm
  · exact (Nat.min_eq_left (Nat.le_of_not_lt h)).symm

/-- The prediction is the earliest countdown behind an open gate. -/
theorem kbc_ticks_until_event_eq {s : KbcState σ} (h : Clocked s.chip) :
    kbc_ticks_until_event link s =
      let ticks := (KbcSource.all.map (kbc_countdown link s)).foldl earlier u64_max
      if ticks = u64_max then none else some ticks := by
  have hpulse : s.chip.output_pulse_remaining_ticks ≤ u64_max :=
    h.pulse_remaining.le.trans (by decide)
  unfold kbc_ticks_until_event
  simp only [KbcSource.all, List.map_cons, List.map_nil, List.foldl_cons, List.foldl_nil]
  have hfirst : earlier u64_max (kbc_countdown link s .pulse) =
      if s.chip.output_pulse_mask ≠ 0 then s.chip.output_pulse_remaining_ticks else u64_max := by
    rw [kbc_countdown]
    split_ifs
    · exact Nat.min_eq_right hpulse
    · rfl
  have hserial (ticks : ℕ) : earlier ticks (kbc_countdown link s .serial) =
      if kbc_keyboard_serial_delivery_pending link s && s.chip.fifo.isEmpty then
        if s.chip.serial_delivery_remaining_ticks < ticks then
          s.chip.serial_delivery_remaining_ticks
        else ticks
      else ticks := by
    rw [min_eq_ite]
    rw [kbc_countdown]
    split_ifs <;> rfl
  have hbat (ticks : ℕ) : earlier ticks (kbc_countdown link s .bat) =
      if (link.keyboard_inputs s.context).bat_ready && s.chip.fifo.isEmpty &&
        s.chip.delayed_response.isNone then 0 else ticks := by
    rw [kbc_countdown]
    split_ifs
    · exact Nat.min_zero ticks
    · rfl
  have hresponse (ticks : ℕ) : earlier ticks (kbc_countdown link s .response) =
      match s.chip.delayed_response with
      | none => ticks
      | some reply =>
        if kbc_response_can_publish link s reply = true ∧
            s.chip.response_remaining_ticks < ticks then s.chip.response_remaining_ticks
        else ticks := by
    rw [kbc_countdown]
    cases s.chip.delayed_response with
    | none => rfl
    | some reply =>
      dsimp only
      by_cases hcan : kbc_response_can_publish link s reply = true
      · rw [if_pos hcan]
        simp only [hcan, true_and]
        exact (min_eq_ite _ _).symm
      · rw [if_neg hcan, if_neg fun h => hcan h.1]
        rfl
  have htypematic (ticks : ℕ) : earlier ticks (kbc_countdown link s .typematic) =
      if kbc_repeat_can_publish link s = true ∧
        (link.keyboard_inputs s.context).repeat_ticks < ticks then
          (link.keyboard_inputs s.context).repeat_ticks else ticks := by
    rw [kbc_countdown]
    by_cases hcan : kbc_repeat_can_publish link s = true
    · rw [if_pos hcan]
      simp only [hcan, true_and]
      exact (min_eq_ite _ _).symm
    · rw [if_neg hcan, if_neg fun h => hcan h.1]
      rfl
  rw [htypematic, hresponse, hbat, hserial, hfirst]

/-- No countdown is as long as the time that stands for none. -/
def Bounded (s : KbcState σ) : Prop :=
  ∀ source m, kbc_countdown link s source = some m → m < u64_max

theorem kbc_ticks_until_event_some {s : KbcState σ} (h : Clocked s.chip)
    (bounded : Bounded link s) (n : ℕ) :
    kbc_ticks_until_event link s = some n ↔
      (∃ source, kbc_countdown link s source = some n) ∧
        ∀ source m, kbc_countdown link s source = some m → n ≤ m := by
  obtain ⟨hstart, hbelow, hreached⟩ :=
    foldl_earlier (KbcSource.all.map (kbc_countdown link s)) u64_max
  rw [kbc_ticks_until_event_eq link h]
  dsimp only
  generalize (KbcSource.all.map (kbc_countdown link s)).foldl earlier u64_max = ticks
    at hstart hbelow hreached ⊢
  have hbelow' (source : KbcSource) (m : ℕ) (hm : kbc_countdown link s source = some m) :
      ticks ≤ m := hbelow m (List.mem_map.mpr ⟨source, source.mem_all, hm⟩)
  constructor
  · intro hsome
    split_ifs at hsome with hnone
    obtain rfl := Option.some.inj hsome
    obtain ⟨source, -, hsource⟩ := List.mem_map.mp (hreached.resolve_left hnone)
    exact ⟨⟨source, hsource⟩, hbelow'⟩
  · rintro ⟨⟨source, hsource⟩, hleast⟩
    have hle := hbelow' source n hsource
    have hlt := bounded source n hsource
    have hne : ticks ≠ u64_max := by omega
    obtain ⟨source', -, hsource'⟩ := List.mem_map.mp (hreached.resolve_left hne)
    have hge := hleast source' ticks hsource'
    rw [if_neg hne, Nat.le_antisymm hle hge]

theorem kbc_ticks_until_event_none {s : KbcState σ} (h : Clocked s.chip)
    (bounded : Bounded link s) :
    kbc_ticks_until_event link s = none ↔ ∀ source, kbc_countdown link s source = none := by
  obtain ⟨-, hbelow, hreached⟩ :=
    foldl_earlier (KbcSource.all.map (kbc_countdown link s)) u64_max
  rw [kbc_ticks_until_event_eq link h]
  dsimp only
  generalize (KbcSource.all.map (kbc_countdown link s)).foldl earlier u64_max = ticks
    at hbelow hreached ⊢
  constructor
  · intro hnone source
    split_ifs at hnone with hmax
    cases hsource : kbc_countdown link s source with
    | none => rfl
    | some m =>
      have hle := hbelow m (List.mem_map.mpr ⟨source, source.mem_all, hsource⟩)
      have hlt := bounded source m hsource
      omega
  · intro hclosed
    rw [if_pos]
    refine hreached.resolve_right fun hmem => ?_
    obtain ⟨source, -, hsource⟩ := List.mem_map.mp hmem
    rw [hclosed source] at hsource
    cases hsource

end Link

end Nxvm.Chips
