/-
An advance of the keyboard controller up to its next event, and to it.

The keyboard is steady: it changes when it is called, and its typematic countdown is what it
says (`SteadyLink`). Then an advance that is shorter than every open countdown finds every
gate as it was and moves nothing (`CountsDown`), and in one of just the shortest countdown
the first source that is due is served (`Performs`).
-/
import Nxvm.Chips.KbcDeadline
import Nxvm.Chips.KeyboardTypematic

set_option autoImplicit false

namespace Nxvm.Chips

open Nxvm.Lib Nxvm.Lib.Register Nxvm.Machine

/-! ## A steady keyboard -/

/-- A link to a keyboard whose inputs do not change by themselves: BAT is there to be taken
exactly when it is reported, and an advance repeats the key when it is as long as reported
and only shortens the countdown before. -/
structure SteadyLink (σ : Type) extends KbcLink σ where
  take_bat_idle : ∀ context, (keyboard_inputs context).bat_ready = false →
    keyboard_take_bat context = (false, context)
  take_bat_ready : ∀ context, (keyboard_inputs context).bat_ready = true →
    (keyboard_take_bat context).1 = true
  advance_early : ∀ context ticks, (keyboard_inputs context).repeat_pending = true →
    ticks < (keyboard_inputs context).repeat_ticks →
      ∃ context', keyboard_advance context ticks = .done false context' ∧
        keyboard_inputs context' = { keyboard_inputs context with
          repeat_ticks := (keyboard_inputs context).repeat_ticks - ticks }
  advance_due : ∀ context ticks, (keyboard_inputs context).repeat_pending = true →
    (keyboard_inputs context).repeat_ticks ≤ ticks →
      ∃ bytes next, keyboard_advance context ticks = .emit bytes next ∧
        bytes.length = (keyboard_inputs context).repeat_bytes
  repeat_ticks_lt : ∀ context, (keyboard_inputs context).repeat_pending = true →
    (keyboard_inputs context).repeat_ticks < u64_max

section Steady

variable {σ : Type} (link : SteadyLink σ)

theorem bounded_of_clocked {s : KbcState σ} (h : Clocked s.chip) : Bounded link.toKbcLink s := by
  have hwidth : u32_bound ≤ u64_max := by decide
  intro source m hm
  cases source with
  | pulse =>
    rw [kbc_countdown] at hm
    split_ifs at hm
    obtain rfl := Option.some.inj hm
    exact h.pulse_remaining.trans_le hwidth
  | serial =>
    rw [kbc_countdown] at hm
    split_ifs at hm
    obtain rfl := Option.some.inj hm
    exact h.serial_remaining.trans_le hwidth
  | bat =>
    rw [kbc_countdown] at hm
    split_ifs at hm
    obtain rfl := Option.some.inj hm
    decide
  | response =>
    rw [kbc_countdown] at hm
    cases hwaiting : s.chip.delayed_response with
    | none =>
      rw [hwaiting] at hm
      cases hm
    | some reply =>
      rw [hwaiting] at hm
      dsimp only at hm
      split_ifs at hm
      obtain rfl := Option.some.inj hm
      exact h.response_remaining.trans_le hwidth
  | typematic =>
    rw [kbc_countdown] at hm
    split_ifs at hm with hcan
    obtain rfl := Option.some.inj hm
    refine link.repeat_ticks_lt s.context ?_
    rw [kbc_repeat_can_publish] at hcan
    simp only [Bool.and_eq_true] at hcan
    exact hcan.1.1.1.1

/-! ## Before the event -/

/-- The countdowns of the controller, some ticks later. -/
def kbc_counted (chip : Kbc) (ticks : ℕ) : Kbc :=
  { chip with
    output_pulse_remaining_ticks :=
      if chip.output_pulse_mask ≠ 0 then chip.output_pulse_remaining_ticks - ticks
      else chip.output_pulse_remaining_ticks
    serial_delivery_remaining_ticks := chip.serial_delivery_remaining_ticks - ticks
    response_remaining_ticks :=
      if chip.delayed_response.isSome then chip.response_remaining_ticks - ticks
      else chip.response_remaining_ticks }

/-- The keyboard's inputs, some ticks later. -/
def keyboard_counted (s : KbcState σ) (ticks : ℕ) : KeyboardInputs :=
  { link.keyboard_inputs s.context with
    repeat_ticks :=
      if kbc_repeat_can_publish link.toKbcLink s then
        (link.keyboard_inputs s.context).repeat_ticks - ticks
      else (link.keyboard_inputs s.context).repeat_ticks }

/-- Nothing but countdowns changes in an advance: not the FIFO, a line, the port or a byte
that waits, and the link hears of nothing but the keyboard's own advance, which repeats
nothing. -/
def CountsDown (s : KbcState σ) (ticks : ℕ) : Prop :=
  ∃ context, kbc_advance link.toKbcLink s ticks =
      { s with chip := kbc_counted s.chip ticks, context } ∧
    (context = s.context ∨ link.keyboard_advance s.context ticks = .done false context) ∧
    link.keyboard_inputs context = keyboard_counted link s ticks

/-- No open gate comes to its end. -/
def Early (s : KbcState σ) (ticks : ℕ) : Prop :=
  ∀ source m, kbc_countdown link.toKbcLink s source = some m → ticks < m

variable {s : KbcState σ} {ticks : ℕ}

theorem kbc_advance_pulses_early (h : s.chip.output_pulse_mask ≠ 0 →
      ticks < s.chip.output_pulse_remaining_ticks) :
    kbc_advance_pulses link.toKbcLink s ticks = { s with chip := { s.chip with
      output_pulse_remaining_ticks :=
        if s.chip.output_pulse_mask ≠ 0 then s.chip.output_pulse_remaining_ticks - ticks
        else s.chip.output_pulse_remaining_ticks } } := by
  unfold kbc_advance_pulses
  by_cases hmask : s.chip.output_pulse_mask = 0
  · rw [if_pos hmask, if_neg (not_not.mpr hmask)]
  · rw [if_neg hmask, if_pos (h hmask), if_pos hmask]

theorem kbc_drain_keyboard_serial_early
    (h : kbc_keyboard_serial_delivery_pending link.toKbcLink s = true → s.chip.fifo = [] →
      s.chip.serial_delivery_remaining_ticks ≠ 0) :
    kbc_drain_keyboard_serial link.toKbcLink s = s := by
  unfold kbc_drain_keyboard_serial
  split_ifs with hgate
  · rfl
  · rw [not_or, not_not, Bool.not_eq_false] at hgate
    cases hfifo : s.chip.fifo with
    | nil => exact absurd hgate.1 (h hgate.2 hfifo)
    | cons entry rest => rfl

theorem kbc_advance_bat_early (h : s.chip.fifo = [] → s.chip.delayed_response = none →
      (link.keyboard_inputs s.context).bat_ready = false) :
    kbc_advance_bat link.toKbcLink s = s := by
  unfold kbc_advance_bat
  split_ifs with hgate
  · rw [Bool.and_eq_true, List.isEmpty_iff, Option.isNone_iff_eq_none] at hgate
    rw [link.take_bat_idle s.context (h hgate.1 hgate.2)]
    rfl
  · rfl

theorem kbc_advance_response_early
    (h : ∀ reply, s.chip.delayed_response = some reply →
      kbc_response_can_publish link.toKbcLink s reply = true →
        ticks < s.chip.response_remaining_ticks) :
    kbc_advance_response link.toKbcLink s ticks = { s with chip := { s.chip with
      response_remaining_ticks :=
        if s.chip.delayed_response.isSome then s.chip.response_remaining_ticks - ticks
        else s.chip.response_remaining_ticks } } := by
  unfold kbc_advance_response
  cases hwaiting : s.chip.delayed_response with
  | none => rfl
  | some reply =>
    dsimp only
    rw [Option.isSome_some, if_pos rfl]
    by_cases hearly : ticks < s.chip.response_remaining_ticks
    · rw [if_pos hearly]
    · have hcan : ¬ kbc_response_can_publish link.toKbcLink
          { s with chip := { s.chip with response_remaining_ticks := 0 } } reply = true :=
        fun hcan => hearly (h reply hwaiting hcan)
      rw [if_neg hearly, if_neg (by simpa [hwaiting] using hcan),
        Nat.sub_eq_zero_of_le (Nat.le_of_not_lt hearly)]

theorem kbc_advance_repeat_early (h : kbc_repeat_can_publish link.toKbcLink s = true →
      ticks < (link.keyboard_inputs s.context).repeat_ticks) :
    ∃ context, kbc_advance_repeat link.toKbcLink s ticks = { s with context } ∧
      (context = s.context ∨ link.keyboard_advance s.context ticks = .done false context) ∧
      link.keyboard_inputs context = keyboard_counted link s ticks := by
  unfold kbc_advance_repeat keyboard_counted
  by_cases hcan : kbc_repeat_can_publish link.toKbcLink s = true
  · have hpending : (link.keyboard_inputs s.context).repeat_pending = true := by
      have hgate := hcan
      rw [kbc_repeat_can_publish] at hgate
      simp only [Bool.and_eq_true] at hgate
      exact hgate.1.1.1.1
    obtain ⟨context, hadvance, hinputs⟩ := link.advance_early s.context ticks hpending (h hcan)
    rw [if_pos hcan, if_pos hcan, hadvance]
    exact ⟨context, rfl, Or.inr rfl, hinputs⟩
  · rw [if_neg hcan, if_neg hcan]
    exact ⟨s.context, rfl, Or.inl rfl, rfl⟩

/-- The controller with its pulses and its serial cadence counted down. -/
def kbc_ticked (s : KbcState σ) (ticks : ℕ) : KbcState σ :=
  { s with chip := { s.chip with
    output_pulse_remaining_ticks :=
      if s.chip.output_pulse_mask ≠ 0 then s.chip.output_pulse_remaining_ticks - ticks
      else s.chip.output_pulse_remaining_ticks
    serial_delivery_remaining_ticks := s.chip.serial_delivery_remaining_ticks - ticks } }

/-- An advance while no pulse ends. -/
theorem kbc_advance_ticked (h : s.chip.output_pulse_mask ≠ 0 →
      ticks < s.chip.output_pulse_remaining_ticks) :
    kbc_advance link.toKbcLink s ticks =
      kbc_advance_repeat link.toKbcLink (kbc_advance_response link.toKbcLink
        (kbc_advance_bat link.toKbcLink
          (kbc_drain_keyboard_serial link.toKbcLink (kbc_ticked s ticks))) ticks) ticks := by
  unfold kbc_advance
  dsimp only
  rw [kbc_advance_pulses_early link h]
  rfl

theorem drain_ticked_early (h : ∀ m, kbc_countdown link.toKbcLink s .serial = some m → ticks < m) :
    kbc_drain_keyboard_serial link.toKbcLink (kbc_ticked s ticks) = kbc_ticked s ticks := by
  refine kbc_drain_keyboard_serial_early link fun hpending hfifo => ?_
  have hgate : (kbc_keyboard_serial_delivery_pending link.toKbcLink s && s.chip.fifo.isEmpty) =
      true := Bool.and_eq_true_iff.mpr ⟨hpending, List.isEmpty_iff.mpr hfifo⟩
  exact Nat.sub_ne_zero_of_lt (h _ (by rw [kbc_countdown, if_pos hgate]))

/-- BAT is due at once where its gate is open. -/
theorem bat_closed (h : ∀ m, kbc_countdown link.toKbcLink s .bat = some m → ticks < m)
    (hfifo : s.chip.fifo = []) (hidle : s.chip.delayed_response = none) :
    (link.keyboard_inputs s.context).bat_ready = false := by
  cases hready : (link.keyboard_inputs s.context).bat_ready with
  | false => rfl
  | true =>
    have hzero := h 0 (by rw [kbc_countdown, hready, hfifo, hidle]; rfl)
    exact absurd hzero (Nat.not_lt_zero _)

theorem response_early
    (h : ∀ m, kbc_countdown link.toKbcLink s .response = some m → ticks < m) {reply : KbcReply}
    (hwaiting : s.chip.delayed_response = some reply)
    (hcan : kbc_response_can_publish link.toKbcLink s reply = true) :
    ticks < s.chip.response_remaining_ticks := by
  refine h _ ?_
  rw [kbc_countdown, hwaiting]
  exact if_pos hcan

/-- An advance that is shorter than every open countdown only counts down. -/
theorem kbc_advance_early (early : Early link s ticks) : CountsDown link s ticks := by
  have hpulse : s.chip.output_pulse_mask ≠ 0 → ticks < s.chip.output_pulse_remaining_ticks :=
    fun hmask => early .pulse _ (by rw [kbc_countdown, if_pos hmask])
  have hbat : kbc_advance_bat link.toKbcLink (kbc_ticked s ticks) = kbc_ticked s ticks :=
    kbc_advance_bat_early link fun hfifo hidle => bat_closed link (early .bat) hfifo hidle
  have hresponse := kbc_advance_response_early link (s := kbc_ticked s ticks)
    fun reply hwaiting hcan => response_early link (early .response) hwaiting hcan
  unfold CountsDown
  rw [kbc_advance_ticked link hpulse, drain_ticked_early link (early .serial), hbat, hresponse]
  exact kbc_advance_repeat_early link fun hcan =>
    early .typematic _ (by rw [kbc_countdown]; exact if_pos hcan)

/-- A countdown behind a gate that stays as it is. -/
theorem gate_map (gate : Prop) [Decidable gate] (countdown ticks : ℕ) :
    (if gate then some (countdown - ticks) else none) =
      (if gate then some countdown else none).map (· - ticks) := by
  split_ifs <;> rfl

/-- Every countdown is as much shorter afterwards. -/
theorem kbc_countdown_later (early : Early link s ticks) (source : KbcSource) :
    kbc_countdown link.toKbcLink (kbc_advance link.toKbcLink s ticks) source =
      (kbc_countdown link.toKbcLink s source).map (· - ticks) := by
  obtain ⟨context, hadvance, -, hinputs⟩ := kbc_advance_early link early
  rw [hadvance]
  have hpending : kbc_keyboard_serial_delivery_pending link.toKbcLink
      { s with chip := kbc_counted s.chip ticks, context } =
        kbc_keyboard_serial_delivery_pending link.toKbcLink s := by
    unfold kbc_keyboard_serial_delivery_pending
    rw [hinputs]
    rfl
  have hpublish (reply : KbcReply) : kbc_response_can_publish link.toKbcLink
      { s with chip := kbc_counted s.chip ticks, context } reply =
        kbc_response_can_publish link.toKbcLink s reply := by
    unfold kbc_response_can_publish
    rw [hpending]
    rfl
  have hrepeat : kbc_repeat_can_publish link.toKbcLink
      { s with chip := kbc_counted s.chip ticks, context } =
        kbc_repeat_can_publish link.toKbcLink s := by
    unfold kbc_repeat_can_publish
    rw [hinputs]
    rfl
  cases source with
  | pulse =>
    rw [kbc_countdown, kbc_countdown]
    rw [← gate_map]
    refine ite_congr rfl (fun hmask => ?_) fun _ => rfl
    rw [kbc_counted, if_pos hmask]
  | serial =>
    rw [kbc_countdown, kbc_countdown, hpending]
    exact gate_map _ _ _
  | bat =>
    rw [kbc_countdown, kbc_countdown, hinputs]
    change (if (link.keyboard_inputs s.context).bat_ready && s.chip.fifo.isEmpty &&
      s.chip.delayed_response.isNone then some 0 else none) = _
    split_ifs
    · exact congrArg some (Nat.zero_sub ticks).symm
    · rfl
  | response =>
    rw [kbc_countdown, kbc_countdown]
    have hwait : (kbc_counted s.chip ticks).delayed_response = s.chip.delayed_response := rfl
    dsimp only
    rw [hwait]
    cases hwaiting : s.chip.delayed_response with
    | none => rfl
    | some reply =>
      dsimp only
      rw [hpublish]
      simp only [kbc_counted, hwaiting, Option.isSome_some, if_true]
      exact gate_map _ _ _
  | typematic =>
    rw [kbc_countdown, kbc_countdown, hrepeat, hinputs]
    by_cases hcan : kbc_repeat_can_publish link.toKbcLink s = true
    · simp [keyboard_counted, hcan]
    · rw [if_neg hcan, if_neg hcan]
      rfl

/-! ## The event -/

/-- A source that is served by an advance: the pulsed pins are back, the oldest scan byte has
left the backlog, AAh or the waiting reply is put into the FIFO, or the key's bytes are put
into the backlog. -/
def Performs (s s' : KbcState σ) : KbcSource → Prop
  | .pulse => s'.chip.output_pulse_mask = 0
  | .serial => ∃ repeated k, k ≤ 1 ∧
    s'.chip.keyboard_serial = (s.chip.keyboard_serial.tail ++ repeated).drop k
  | .bat => ∃ events, s'.journal = s.journal ++ .queued (kbc_bat_ok, .keyboard) :: events
  | .response => ∃ reply events, s.chip.delayed_response = some reply ∧
    s'.chip.delayed_response = none ∧ s'.journal = s.journal ++ .published reply :: events
  | .typematic => ∃ bytes repeated k, k ≤ 1 ∧
    bytes.length = (link.keyboard_inputs s.context).repeat_bytes ∧ bytes ≠ [] ∧
    s'.chip.keyboard_serial = (s.chip.keyboard_serial ++ bytes ++ repeated).drop k

/-- What most parts of an advance leave alone. -/
structure Later (s s' : KbcState σ) : Prop where
  mask : s'.chip.output_pulse_mask = s.chip.output_pulse_mask
  delayed_response : s'.chip.delayed_response = s.chip.delayed_response
  journal : ∃ events, s'.journal = s.journal ++ events

theorem Later.trans {a b c : KbcState σ} (h : Later a b) (h' : Later b c) : Later a c := by
  obtain ⟨events, hb⟩ := h.journal
  obtain ⟨events', hc⟩ := h'.journal
  exact ⟨h'.mask.trans h.mask, h'.delayed_response.trans h.delayed_response,
    events ++ events', by rw [hc, hb, List.append_assoc]⟩

theorem KbcMoves.journal {s s' : KbcState σ} (moves : KbcMoves s s') :
    ∃ events, s'.journal = s.journal ++ events := by
  obtain ⟨events, hjournal, -⟩ := moves.steps.awaits.grows
  exact ⟨events, hjournal⟩

/-- What a byte of the backlog becomes leaves the backlog itself alone. -/
structure KeepsBacklog (chip chip' : Kbc) : Prop where
  mask : chip'.output_pulse_mask = chip.output_pulse_mask
  delayed_response : chip'.delayed_response = chip.delayed_response
  keyboard_serial : chip'.keyboard_serial = chip.keyboard_serial

theorem KeepsBacklog.trans {a b c : Kbc} (h : KeepsBacklog a b) (h' : KeepsBacklog b c) :
    KeepsBacklog a c :=
  ⟨h'.mask.trans h.mask, h'.delayed_response.trans h.delayed_response,
    h'.keyboard_serial.trans h.keyboard_serial⟩

theorem SameClocks.backlog {chip chip' : Kbc} (same : SameClocks chip chip') :
    KeepsBacklog chip chip' :=
  ⟨same.mask, same.delayed_response, same.keyboard_serial⟩

theorem kbc_translate_pause_byte_backlog (s : KbcState σ) (native_byte : U8) :
    KeepsBacklog s.chip (kbc_translate_pause_byte link.toKbcLink s native_byte).2.chip := by
  have hclear : KeepsBacklog s.chip (kbc_set_pause_bytes s []).chip := ⟨rfl, rfl, rfl⟩
  unfold kbc_translate_pause_byte kbc_enqueue_set1_pause
  dsimp only
  split_ifs
  · exact ⟨rfl, rfl, rfl⟩
  · exact ⟨rfl, rfl, rfl⟩
  · exact ⟨rfl, rfl, rfl⟩
  · exact ⟨rfl, rfl, rfl⟩
  · exact hclear.trans (kbc_queue_bytes_same link.toKbcLink _ _ _).backlog

theorem kbc_publish_native_byte_backlog (s : KbcState σ) (native_byte : U8) :
    KeepsBacklog s.chip (kbc_publish_native_byte link.toKbcLink s native_byte).2.chip := by
  have hbroken : KeepsBacklog s.chip (kbc_set_break_pending s false).chip := ⟨rfl, rfl, rfl⟩
  unfold kbc_publish_native_byte kbc_translate_set2_byte
  split_ifs
  · exact kbc_translate_pause_byte_backlog link s native_byte
  · exact (kbc_queue_byte_same link.toKbcLink s native_byte .keyboard).backlog
  · exact ⟨rfl, rfl, rfl⟩
  · cases keyboard_set2_to_set1 native_byte with
    | none => exact ⟨rfl, rfl, rfl⟩
    | some translated =>
      exact hbroken.trans (kbc_queue_byte_same link.toKbcLink _ _ _).backlog
  · cases keyboard_set2_to_set1 native_byte with
    | none => exact ⟨rfl, rfl, rfl⟩
    | some translated =>
      exact hbroken.trans (kbc_queue_byte_same link.toKbcLink _ _ _).backlog
  · exact (kbc_queue_byte_same link.toKbcLink s native_byte .keyboard).backlog

theorem kbc_queue_byte_ok (value : U8) (origin : KbcOrigin) (hempty : s.chip.fifo = []) :
    (kbc_queue_byte link.toKbcLink s value origin).1 = .ok ∧
      (kbc_queue_byte link.toKbcLink s value origin).2.journal =
        s.journal ++ [.queued (value, origin)] := by
  obtain ⟨hok, -, -, hjournal⟩ := kbc_enqueue_spec link.toKbcLink value origin (s := s)
    (by rw [hempty]; decide)
  unfold kbc_queue_byte
  dsimp only
  rw [if_pos hok]
  exact ⟨rfl, congrArg (· ++ _) hjournal⟩

/-- Into an empty FIFO every byte is delivered or not known. -/
theorem kbc_publish_native_byte_taken (clocked : Clocked s.chip) (hempty : s.chip.fifo = [])
    (native_byte : U8) :
    (kbc_publish_native_byte link.toKbcLink s native_byte).1 = .ok ∨
      (kbc_publish_native_byte link.toKbcLink s native_byte).1 = .unsupported := by
  have hqueue (value : U8) := (kbc_queue_byte_ok link value .keyboard hempty).1
  have hbroken (value : U8) := (kbc_queue_byte_ok link (s := kbc_set_break_pending s false) value
    .keyboard hempty).1
  unfold kbc_publish_native_byte kbc_translate_set2_byte
  split_ifs
  · unfold kbc_translate_pause_byte kbc_enqueue_set1_pause
    dsimp only
    rw [if_neg (Nat.not_le.mpr clocked.pause)]
    split_ifs with _ _ hroom
    · exact Or.inl rfl
    · exact Or.inr rfl
    · rw [show (kbc_set_pause_bytes s []).chip.fifo = [] from hempty] at hroom
      exact absurd hroom (by decide)
    · exact Or.inl rfl
  · exact Or.inl (hqueue _)
  · exact Or.inl rfl
  · cases keyboard_set2_to_set1 native_byte with
    | none => exact Or.inr rfl
    | some translated => exact Or.inl (hbroken _)
  · cases keyboard_set2_to_set1 native_byte with
    | none => exact Or.inr rfl
    | some translated => exact Or.inl (hbroken _)
  · exact Or.inl (hqueue _)

theorem kbc_drain_keyboard_serial_later (s : KbcState σ) :
    Later s (kbc_drain_keyboard_serial link.toKbcLink s) ∧
      ∃ k, k ≤ 1 ∧ (kbc_drain_keyboard_serial link.toKbcLink s).chip.keyboard_serial =
        s.chip.keyboard_serial.drop k := by
  have hjournal := (kbc_drain_keyboard_serial_moves link.toKbcLink s).journal
  suffices h : KeepsBacklog s.chip { (kbc_drain_keyboard_serial link.toKbcLink s).chip with
        keyboard_serial := s.chip.keyboard_serial } ∧
      ∃ k, k ≤ 1 ∧ (kbc_drain_keyboard_serial link.toKbcLink s).chip.keyboard_serial =
        s.chip.keyboard_serial.drop k from
    ⟨⟨h.1.mask, h.1.delayed_response, hjournal⟩, h.2⟩
  clear hjournal
  unfold kbc_drain_keyboard_serial
  split_ifs
  · exact ⟨⟨rfl, rfl, rfl⟩, 0, Nat.zero_le 1, rfl⟩
  · split
    · rename_i native_byte backlog hempty hserial
      have hkeeps := kbc_publish_native_byte_backlog link s native_byte
      dsimp only
      split_ifs
      · exact ⟨⟨hkeeps.mask, hkeeps.delayed_response, rfl⟩, 0, Nat.zero_le 1,
          hkeeps.keyboard_serial⟩
      all_goals
        refine ⟨⟨hkeeps.mask, hkeeps.delayed_response, rfl⟩, 1, le_rfl, ?_⟩
        rw [List.drop_one]
        exact congrArg List.tail hkeeps.keyboard_serial
    · exact ⟨⟨rfl, rfl, rfl⟩, 0, Nat.zero_le 1, rfl⟩

/-- A delivery that is due takes the oldest byte. -/
theorem kbc_drain_keyboard_serial_due (clocked : Clocked s.chip)
    (hpending : kbc_keyboard_serial_delivery_pending link.toKbcLink s = true)
    (hempty : s.chip.fifo = []) (hdue : s.chip.serial_delivery_remaining_ticks = 0) :
    (kbc_drain_keyboard_serial link.toKbcLink s).chip.keyboard_serial =
      s.chip.keyboard_serial.tail := by
  have hbacklog : s.chip.keyboard_serial ≠ [] := by
    intro hnone
    rw [kbc_keyboard_serial_delivery_pending, hnone] at hpending
    simp at hpending
  obtain ⟨native_byte, backlog, hserial⟩ := List.exists_cons_of_ne_nil hbacklog
  have htaken := kbc_publish_native_byte_taken link clocked hempty native_byte
  have hkeeps := kbc_publish_native_byte_backlog link s native_byte
  unfold kbc_drain_keyboard_serial
  rw [if_neg (by simp [hdue, hpending]), hempty, hserial]
  dsimp only
  rw [if_neg (by rcases htaken with h | h <;> simp [h])]
  dsimp only
  rw [hkeeps.keyboard_serial, hserial]

theorem kbc_run_keyboard_advance_later (s : KbcState σ) (keyboard : KeyboardAdvance σ) :
    KeepsBacklog s.chip { (kbc_run_keyboard_advance s keyboard).2.chip with
        keyboard_serial := s.chip.keyboard_serial } ∧
      ∃ repeated, (kbc_run_keyboard_advance s keyboard).2.chip.keyboard_serial =
        s.chip.keyboard_serial ++ repeated := by
  induction keyboard generalizing s with
  | done answer context => exact ⟨⟨rfl, rfl, rfl⟩, [], (List.append_nil _).symm⟩
  | emit bytes next ih =>
    obtain ⟨hkeeps, repeated, hserial⟩ := ih (kbc_queue_native_bytes s bytes).1
      (kbc_queue_native_bytes s bytes).2
    rw [kbc_run_keyboard_advance]
    have hmask := hkeeps.mask
    have hdelayed := hkeeps.delayed_response
    dsimp only at hmask hdelayed ⊢
    rw [hmask, hdelayed, hserial]
    unfold kbc_queue_native_bytes
    by_cases hfull : kbc_keyboard_serial_capacity - s.chip.keyboard_serial.length < bytes.length
    · rw [if_pos hfull]
      exact ⟨⟨rfl, rfl, rfl⟩, repeated, rfl⟩
    · rw [if_neg hfull]
      exact ⟨⟨rfl, rfl, rfl⟩, bytes ++ repeated, List.append_assoc ..⟩

theorem kbc_advance_repeat_later (s : KbcState σ) (ticks : ℕ) :
    Later s (kbc_advance_repeat link.toKbcLink s ticks) ∧
      ∃ repeated k, k ≤ 1 ∧ (kbc_advance_repeat link.toKbcLink s ticks).chip.keyboard_serial =
        (s.chip.keyboard_serial ++ repeated).drop k := by
  obtain ⟨hkeeps, repeated, hserial⟩ :=
    kbc_run_keyboard_advance_later s (link.keyboard_advance s.context ticks)
  have hran := (kbc_run_keyboard_advance_moves s (link.keyboard_advance s.context ticks)).journal
  unfold kbc_advance_repeat
  dsimp only
  generalize kbc_run_keyboard_advance s (link.keyboard_advance s.context ticks) = answer
    at hkeeps hserial hran ⊢
  have hlater : Later s answer.2 := ⟨hkeeps.mask, hkeeps.delayed_response, hran⟩
  split_ifs
  · obtain ⟨hdrained, k, hk, hdropped⟩ := kbc_drain_keyboard_serial_later link answer.2
    exact ⟨hlater.trans hdrained, repeated, k, hk, by rw [hdropped, hserial]⟩
  · exact ⟨hlater, repeated, 0, Nat.zero_le 1, hserial⟩
  · exact ⟨⟨rfl, rfl, [], (List.append_nil _).symm⟩, [], 0, Nat.zero_le 1,
      (List.append_nil _).symm⟩

theorem kbc_publish_response_backlog (s : KbcState σ) (reply : KbcReply) :
    (kbc_publish_response link.toKbcLink s reply).chip.output_pulse_mask =
        s.chip.output_pulse_mask ∧
      (kbc_publish_response link.toKbcLink s reply).chip.keyboard_serial =
        s.chip.keyboard_serial := by
  have hsame := kbc_enqueue_all_same link.toKbcLink s reply.bytes reply.origin
  exact ⟨hsame.mask, hsame.keyboard_serial⟩

theorem kbc_advance_response_backlog (s : KbcState σ) (ticks : ℕ) :
    (kbc_advance_response link.toKbcLink s ticks).chip.output_pulse_mask =
        s.chip.output_pulse_mask ∧
      (kbc_advance_response link.toKbcLink s ticks).chip.keyboard_serial =
        s.chip.keyboard_serial := by
  unfold kbc_advance_response
  cases s.chip.delayed_response with
  | none => exact ⟨rfl, rfl⟩
  | some reply =>
    dsimp only
    split_ifs
    · exact ⟨rfl, rfl⟩
    · exact kbc_publish_response_backlog link _ reply
    · exact ⟨rfl, rfl⟩

/-- A pulse that is over gives the pins back. -/
theorem performs_pulse (hdue : kbc_countdown link.toKbcLink s .pulse = some ticks) :
    Performs link s (kbc_advance link.toKbcLink s ticks) .pulse := by
  rw [kbc_countdown] at hdue
  split_ifs at hdue with hmask
  have hpulses : (kbc_advance_serial (kbc_advance_pulses link.toKbcLink s ticks)
      ticks).chip.output_pulse_mask = 0 := by
    unfold kbc_advance_pulses
    rw [if_neg hmask, if_neg (by rw [Option.some.inj hdue]; exact Nat.lt_irrefl ticks)]
    rfl
  unfold Performs kbc_advance
  dsimp only
  rw [(kbc_advance_repeat_later link _ ticks).1.mask, (kbc_advance_response_backlog link _ ticks).1,
    (kbc_advance_bat_same link.toKbcLink _).mask, (kbc_drain_keyboard_serial_later link _).1.mask,
    hpulses]

/-- No source in front of this one in an advance is due. -/
def FirstDue (s : KbcState σ) (ticks : ℕ) (source : KbcSource) : Prop :=
  kbc_countdown link.toKbcLink s source = some ticks ∧
    ∀ before m, before.ctorIdx < source.ctorIdx →
      kbc_countdown link.toKbcLink s before = some m → ticks < m

theorem FirstDue.pulse {source : KbcSource} (h : FirstDue link s ticks source)
    (hne : source ≠ .pulse) (hmask : s.chip.output_pulse_mask ≠ 0) :
    ticks < s.chip.output_pulse_remaining_ticks := by
  refine h.2 .pulse _ ?_ (by rw [kbc_countdown, if_pos hmask])
  cases source <;> first | exact absurd rfl hne | decide

theorem performs_serial (clocked : Clocked s.chip) (h : FirstDue link s ticks .serial) :
    Performs link s (kbc_advance link.toKbcLink s ticks) .serial := by
  have hdue := h.1
  rw [kbc_countdown] at hdue
  split_ifs at hdue with hgate
  rw [Bool.and_eq_true, List.isEmpty_iff] at hgate
  have hticked : Clocked (kbc_ticked s ticks).chip := by
    refine ⟨clocked.pause, ?_, (Nat.sub_le _ _).trans_lt clocked.serial_remaining,
      clocked.response_remaining, clocked.pulse, clocked.serial, clocked.response⟩
    unfold kbc_ticked
    dsimp only
    split_ifs
    · exact (Nat.sub_le _ _).trans_lt clocked.pulse_remaining
    · exact clocked.pulse_remaining
  have hzero : (kbc_ticked s ticks).chip.serial_delivery_remaining_ticks = 0 :=
    Nat.sub_eq_zero_of_le (Option.some.inj hdue).le
  have htaken := kbc_drain_keyboard_serial_due link hticked hgate.1 hgate.2 hzero
  obtain ⟨repeated, k, hk, hserial⟩ := (kbc_advance_repeat_later link
    (kbc_advance_response link.toKbcLink (kbc_advance_bat link.toKbcLink
      (kbc_drain_keyboard_serial link.toKbcLink (kbc_ticked s ticks))) ticks) ticks).2
  refine ⟨repeated, k, hk, ?_⟩
  rw [kbc_advance_ticked link (h.pulse link (by decide)), hserial,
    (kbc_advance_response_backlog link _ ticks).2,
    (kbc_advance_bat_same link.toKbcLink _).keyboard_serial, htaken]
  rfl

theorem performs_bat (h : FirstDue link s ticks .bat) :
    Performs link s (kbc_advance link.toKbcLink s ticks) .bat := by
  have hdue := h.1
  rw [kbc_countdown] at hdue
  split_ifs at hdue with hgate
  simp only [Bool.and_eq_true, List.isEmpty_iff, Option.isNone_iff_eq_none] at hgate
  obtain ⟨⟨hready, hempty⟩, hidle⟩ := hgate
  have hdrain := drain_ticked_early link fun m => h.2 .serial m (by decide)
  have hbat : (kbc_advance_bat link.toKbcLink (kbc_ticked s ticks)).journal =
      s.journal ++ [.queued (kbc_bat_ok, .keyboard)] := by
    have hopen : ((kbc_ticked s ticks).chip.fifo.isEmpty &&
        (kbc_ticked s ticks).chip.delayed_response.isNone) = true := by
      simp [kbc_ticked, hempty, hidle]
    have htake : (link.keyboard_take_bat (kbc_ticked s ticks).context).1 = true :=
      link.take_bat_ready s.context hready
    unfold kbc_advance_bat
    dsimp only
    rw [if_pos hopen, if_pos htake]
    exact (kbc_queue_byte_ok link (s := { kbc_ticked s ticks with
      context := (link.keyboard_take_bat (kbc_ticked s ticks).context).2 }) _ _ hempty).2
  obtain ⟨events, hresponse⟩ := (kbc_advance_response_moves link.toKbcLink
    (kbc_advance_bat link.toKbcLink (kbc_ticked s ticks)) ticks).journal
  obtain ⟨events', hrepeat⟩ := (kbc_advance_repeat_moves link.toKbcLink
    (kbc_advance_response link.toKbcLink
      (kbc_advance_bat link.toKbcLink (kbc_ticked s ticks)) ticks) ticks).journal
  refine ⟨events ++ events', ?_⟩
  rw [kbc_advance_ticked link (h.pulse link (by decide)), hdrain, hrepeat, hresponse, hbat]
  simp

theorem performs_response (h : FirstDue link s ticks .response) :
    Performs link s (kbc_advance link.toKbcLink s ticks) .response := by
  have hdue := h.1
  rw [kbc_countdown] at hdue
  cases hwaiting : s.chip.delayed_response with
  | none =>
    rw [hwaiting] at hdue
    cases hdue
  | some reply =>
    rw [hwaiting] at hdue
    dsimp only at hdue
    split_ifs at hdue with hcan
    have hdrain := drain_ticked_early link fun m => h.2 .serial m (by decide)
    -- BAT waits for the reply
    have hbat : kbc_advance_bat link.toKbcLink (kbc_ticked s ticks) = kbc_ticked s ticks := by
      refine kbc_advance_bat_early link fun _ hidle => ?_
      rw [show (kbc_ticked s ticks).chip.delayed_response = some reply from hwaiting] at hidle
      cases hidle
    have hpublished : kbc_advance_response link.toKbcLink (kbc_ticked s ticks) ticks =
        kbc_publish_response link.toKbcLink { kbc_ticked s ticks with
          chip := { (kbc_ticked s ticks).chip with response_remaining_ticks := 0 } } reply := by
      have hover : ¬ ticks < (kbc_ticked s ticks).chip.response_remaining_ticks :=
        Nat.not_lt.mpr (Option.some.inj hdue).le
      unfold kbc_advance_response
      rw [show (kbc_ticked s ticks).chip.delayed_response = some reply from hwaiting]
      dsimp only
      rw [if_neg hover]
      exact if_pos hcan
    have hroom : reply.bytes.length ≤ kbc_fifo_capacity - s.chip.fifo.length := by
      rw [kbc_response_can_publish] at hcan
      simp only [Bool.and_eq_true, decide_eq_true_eq] at hcan
      exact hcan.2
    have hpos := reply.length_pos
    obtain ⟨-, hjournal⟩ := kbc_enqueue_all link.toKbcLink reply.origin reply.bytes
      (s := { kbc_ticked s ticks with
        chip := { (kbc_ticked s ticks).chip with response_remaining_ticks := 0 } }) rfl
      (List.ne_nil_of_length_pos hpos)
      (by change s.chip.fifo.length + reply.bytes.length ≤ kbc_fifo_capacity; omega)
    obtain ⟨hlater, -⟩ := kbc_advance_repeat_later link (kbc_publish_response link.toKbcLink
      { kbc_ticked s ticks with
        chip := { (kbc_ticked s ticks).chip with response_remaining_ticks := 0 } } reply) ticks
    obtain ⟨events, hevents⟩ := hlater.journal
    refine ⟨reply, events, hwaiting, ?_, ?_⟩
    · rw [kbc_advance_ticked link (h.pulse link (by decide)), hdrain, hbat, hpublished,
        hlater.delayed_response]
      rfl
    · rw [kbc_advance_ticked link (h.pulse link (by decide)), hdrain, hbat, hpublished, hevents]
      change (_ ++ [KbcEvent.published reply]) ++ events = _
      rw [hjournal, List.append_assoc]
      rfl

theorem performs_typematic (h : FirstDue link s ticks .typematic) :
    Performs link s (kbc_advance link.toKbcLink s ticks) .typematic := by
  have hdue := h.1
  rw [kbc_countdown] at hdue
  split_ifs at hdue with hcan
  have hgate := hcan
  rw [kbc_repeat_can_publish] at hgate
  simp only [Bool.and_eq_true, decide_eq_true_eq] at hgate
  obtain ⟨⟨⟨⟨hpending, hsome⟩, -⟩, -⟩, hroom⟩ := hgate
  have hdrain := drain_ticked_early link fun m => h.2 .serial m (by decide)
  have hbat : kbc_advance_bat link.toKbcLink (kbc_ticked s ticks) = kbc_ticked s ticks :=
    kbc_advance_bat_early link fun hempty hidle =>
      bat_closed link (fun m => h.2 .bat m (by decide)) hempty hidle
  have hresponse := kbc_advance_response_early link (s := kbc_ticked s ticks)
    fun reply hwaiting hpublish =>
      response_early link (fun m => h.2 .response m (by decide)) hwaiting hpublish
  obtain ⟨bytes, next, hemit, hlength⟩ :=
    link.advance_due s.context ticks hpending (Option.some.inj hdue).le
  rw [kbc_advance_ticked link (h.pulse link (by decide)), hdrain, hbat, hresponse]
  obtain ⟨ready, hready, hserial, hcontext⟩ : ∃ ready : KbcState σ,
      ready = { kbc_ticked s ticks with chip := { (kbc_ticked s ticks).chip with
        response_remaining_ticks :=
          if (kbc_ticked s ticks).chip.delayed_response.isSome then
            (kbc_ticked s ticks).chip.response_remaining_ticks - ticks
          else (kbc_ticked s ticks).chip.response_remaining_ticks } } ∧
      ready.chip.keyboard_serial = s.chip.keyboard_serial ∧ ready.context = s.context :=
    ⟨_, rfl, rfl, rfl⟩
  have hopen : kbc_repeat_can_publish link.toKbcLink ready = true := by
    rw [hready]
    exact hcan
  rw [← hready]
  have hqueued : (kbc_queue_native_bytes ready bytes).2.chip.keyboard_serial =
      s.chip.keyboard_serial ++ bytes := by
    unfold kbc_queue_native_bytes
    rw [if_neg (by rw [hserial]; omega), hserial]
  obtain ⟨-, repeated, hran⟩ := kbc_run_keyboard_advance_later
    (kbc_queue_native_bytes ready bytes).2 (next (kbc_queue_native_bytes ready bytes).1)
  have hbytes : bytes ≠ [] := by
    rintro rfl
    exact hsome hlength.symm
  rw [Performs, kbc_advance_repeat, if_pos hopen, hcontext, hemit, kbc_run_keyboard_advance]
  dsimp only
  split_ifs
  · obtain ⟨-, k, hk, hdropped⟩ := kbc_drain_keyboard_serial_later link
      (kbc_run_keyboard_advance (kbc_queue_native_bytes ready bytes).2
        (next (kbc_queue_native_bytes ready bytes).1)).2
    refine ⟨bytes, repeated, k, hk, hlength, hbytes, ?_⟩
    rw [hdropped, hran, hqueued]
  · refine ⟨bytes, repeated, 0, Nat.zero_le 1, hlength, hbytes, ?_⟩
    rw [List.drop_zero, hran, hqueued]

/-- The first source that is due is served. -/
theorem FirstDue.performs (clocked : Clocked s.chip) {source : KbcSource}
    (h : FirstDue link s ticks source) :
    Performs link s (kbc_advance link.toKbcLink s ticks) source := by
  cases source with
  | pulse => exact performs_pulse link h.1
  | serial => exact performs_serial link clocked h
  | bat => exact performs_bat link h
  | response => exact performs_response link h
  | typematic => exact performs_typematic link h

/-- At the earliest countdown some source is the first that is due. -/
theorem first_due {n : ℕ} {source : KbcSource}
    (hdue : kbc_countdown link.toKbcLink s source = some n)
    (hleast : ∀ other m, kbc_countdown link.toKbcLink s other = some m → n ≤ m) :
    ∃ first, FirstDue link s n first := by
  by_cases hbefore : ∃ before : KbcSource, before.ctorIdx < source.ctorIdx ∧
      kbc_countdown link.toKbcLink s before = some n
  · obtain ⟨before, hlt, hn⟩ := hbefore
    exact first_due hn hleast
  · refine ⟨source, hdue, fun before m hlt hm => ?_⟩
    refine lt_of_le_of_ne (hleast before m hm) fun heq => ?_
    exact hbefore ⟨before, hlt, by rw [heq]; exact hm⟩
termination_by source.ctorIdx

/-! ## Reachable controllers -/

/-- What the prediction says of a controller is what its advances do. -/
structure Foretold (s : KbcState σ) : Prop where
  /-- Before the event only countdowns change, and the event comes nearer. -/
  early : ∀ n ticks, kbc_ticks_until_event link.toKbcLink s = some n → ticks < n →
    CountsDown link s ticks ∧
      kbc_ticks_until_event link.toKbcLink (kbc_advance link.toKbcLink s ticks) =
        some (n - ticks)
  /-- The event happens when it is due. -/
  due : ∀ n, kbc_ticks_until_event link.toKbcLink s = some n →
    ∃ source, FirstDue link s n source ∧
      Performs link s (kbc_advance link.toKbcLink s n) source
  /-- With no event to come nothing but countdowns ever changes. -/
  never : kbc_ticks_until_event link.toKbcLink s = none → ∀ ticks, CountsDown link s ticks ∧
    kbc_ticks_until_event link.toKbcLink (kbc_advance link.toKbcLink s ticks) = none

theorem foretold_of_clocked (clocked : Clocked s.chip) : Foretold link s := by
  have bounded := bounded_of_clocked link clocked
  refine ⟨fun n ticks hn hticks => ?_, fun n hn => ?_, fun hnone ticks => ?_⟩
  · obtain ⟨⟨source, hsource⟩, hleast⟩ :=
      (kbc_ticks_until_event_some link.toKbcLink clocked bounded n).mp hn
    have early : Early link s ticks := fun other m hm => hticks.trans_le (hleast other m hm)
    have later := kbc_countdown_later link early
    have clocked' := kbc_advance_clocked link.toKbcLink clocked ticks
    refine ⟨kbc_advance_early link early, ?_⟩
    rw [kbc_ticks_until_event_some link.toKbcLink clocked' (bounded_of_clocked link clocked')]
    refine ⟨⟨source, by rw [later, hsource]; rfl⟩, fun other m hm => ?_⟩
    rw [later] at hm
    obtain ⟨m', hm', rfl⟩ := Option.map_eq_some_iff.mp hm
    exact Nat.sub_le_sub_right (hleast other m' hm') ticks
  · obtain ⟨⟨source, hsource⟩, hleast⟩ :=
      (kbc_ticks_until_event_some link.toKbcLink clocked bounded n).mp hn
    obtain ⟨first, hfirst⟩ := first_due link hsource hleast
    exact ⟨first, hfirst, hfirst.performs link clocked⟩
  · rw [kbc_ticks_until_event_none link.toKbcLink clocked bounded] at hnone
    have early : Early link s ticks := fun other m hm => by
      rw [hnone other] at hm
      cases hm
    have clocked' := kbc_advance_clocked link.toKbcLink clocked ticks
    refine ⟨kbc_advance_early link early, ?_⟩
    rw [kbc_ticks_until_event_none link.toKbcLink clocked' (bounded_of_clocked link clocked')]
    exact fun other => by rw [kbc_countdown_later link early, hnone]; rfl

end Steady

/-- The keyboard on a board with no auxiliary device, no interrupt line and no extension,
which takes every byte and answers none. -/
def kbc_keyboard : SteadyLink Keyboard where
  keyboard_inputs := Keyboard.inputs
  keyboard_start := Keyboard.start
  keyboard_take_bat := Keyboard.take_bat
  keyboard_clear_bat := Keyboard.clear_bat
  keyboard_cancel_parameter keyboard := keyboard
  keyboard_write keyboard _ := .done keyboard
  aux_write keyboard _ := .done keyboard
  keyboard_accepted keyboard _ := keyboard
  keyboard_admit keyboard bytes _ := (.ok, bytes, keyboard)
  keyboard_advance := Keyboard.advance
  irq keyboard _ _ := keyboard
  output_port keyboard _ := keyboard
  command_extension := none
  take_bat_idle := Keyboard.take_bat_idle
  take_bat_ready := Keyboard.take_bat_ready
  advance_early := Keyboard.advance_early
  advance_due := Keyboard.advance_due
  repeat_ticks_lt keyboard h := by
    rw [Keyboard.inputs_repeat_ticks keyboard h]
    exact keyboard.remaining_lt.trans_le (by decide)

/-- A keyboard that repeats `A` every hundred ticks, for the first time in five hundred, with
BAT still to be taken. -/
def keyboard_held : Keyboard where
  scan_set := 2
  scanning := true
  startup_released := true
  bat_pending := true
  repeat_bytes := [0x1c]
  repeat_ticks := 100
  remaining_ticks := 500
  period_pos _ := by decide
  repeat_lt := by decide
  remaining_lt := by decide

end Nxvm.Chips
