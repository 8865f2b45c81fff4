/-
The countdowns of the keyboard controller stay within their width.

A countdown starts from a configured timing, which is 32 bits wide, and only goes down; and a
translation of Pause never has all of its eight bytes left over. Putting a byte into the FIFO
touches none of this (`SameClocks`), so that the invariant (`Clocked`) is kept by every call.
-/
import Nxvm.Chips.KbcMoves

set_option autoImplicit false

namespace Nxvm.Chips

open Nxvm.Lib Nxvm.Lib.Register Nxvm.Machine

/-! ## Bytes into the FIFO -/

/-- The countdowns, what they count for and the configured timings are as before. -/
structure SameClocks (chip chip' : Kbc) : Prop where
  keyboard_serial : chip'.keyboard_serial = chip.keyboard_serial
  delayed_response : chip'.delayed_response = chip.delayed_response
  polls : chip'.response_status_polls_remaining = chip.response_status_polls_remaining
  mask : chip'.output_pulse_mask = chip.output_pulse_mask
  pause : chip'.set2_pause_bytes = chip.set2_pause_bytes
  pulse_remaining : chip'.output_pulse_remaining_ticks = chip.output_pulse_remaining_ticks
  serial_remaining : chip'.serial_delivery_remaining_ticks = chip.serial_delivery_remaining_ticks
  response_remaining : chip'.response_remaining_ticks = chip.response_remaining_ticks
  pulse : chip'.output_pulse_ticks = chip.output_pulse_ticks
  serial : chip'.serial_delivery_ticks = chip.serial_delivery_ticks
  response : chip'.command_response_ticks = chip.command_response_ticks

namespace SameClocks

theorem refl (chip : Kbc) : SameClocks chip chip :=
  ⟨rfl, rfl, rfl, rfl, rfl, rfl, rfl, rfl, rfl, rfl, rfl⟩

theorem trans {a b c : Kbc} (h : SameClocks a b) (h' : SameClocks b c) : SameClocks a c :=
  ⟨h'.keyboard_serial.trans h.keyboard_serial, h'.delayed_response.trans h.delayed_response,
    h'.polls.trans h.polls, h'.mask.trans h.mask, h'.pause.trans h.pause,
    h'.pulse_remaining.trans h.pulse_remaining, h'.serial_remaining.trans h.serial_remaining,
    h'.response_remaining.trans h.response_remaining, h'.pulse.trans h.pulse,
    h'.serial.trans h.serial, h'.response.trans h.response⟩

theorem with_lines (chip : Kbc) (irq1 irq12 : Bool) :
    SameClocks chip (chip.with_lines irq1 irq12) :=
  ⟨rfl, rfl, rfl, rfl, rfl, rfl, rfl, rfl, rfl, rfl, rfl⟩

end SameClocks

section Link

variable {σ : Type} (link : KbcLink σ)

theorem kbc_refresh_current_irq_same (s : KbcState σ) :
    SameClocks s.chip (kbc_refresh_current_irq link s).chip := by
  rw [(kbc_refresh_current_irq_chip link s).1]
  exact .with_lines ..

theorem kbc_deassert_irq1_same (s : KbcState σ) :
    SameClocks s.chip (kbc_deassert_irq1 link s).chip := by
  rw [(kbc_deassert_irq1_chip link s).1]
  exact .with_lines ..

theorem kbc_deassert_irq12_same (s : KbcState σ) :
    SameClocks s.chip (kbc_deassert_irq12 link s).chip := by
  rw [(kbc_deassert_irq12_chip link s).1]
  exact .with_lines ..

theorem kbc_enqueue_same (s : KbcState σ) (value : U8) (origin : KbcOrigin) :
    SameClocks s.chip (kbc_enqueue link s value origin).2.chip := by
  unfold kbc_enqueue
  split_ifs
  · exact .refl s.chip
  all_goals
    refine SameClocks.trans ?_ (kbc_refresh_current_irq_same link _)
    exact ⟨rfl, rfl, rfl, rfl, rfl, rfl, rfl, rfl, rfl, rfl, rfl⟩

theorem kbc_queue_byte_same (s : KbcState σ) (value : U8) (origin : KbcOrigin) :
    SameClocks s.chip (kbc_queue_byte link s value origin).2.chip := by
  have h := kbc_enqueue_same link s value origin
  unfold kbc_queue_byte
  dsimp only
  split_ifs
  · exact h
  · exact h

theorem kbc_queue_bytes_same (s : KbcState σ) (bytes : List U8) (origin : KbcOrigin) :
    SameClocks s.chip (kbc_queue_bytes link s bytes origin).chip := by
  unfold kbc_queue_bytes
  induction bytes generalizing s with
  | nil => exact .refl s.chip
  | cons byte bytes ih => exact (kbc_queue_byte_same link s byte origin).trans (ih _)

theorem kbc_enqueue_all_same (s : KbcState σ) (bytes : List U8) (origin : KbcOrigin) :
    SameClocks s.chip
      (bytes.foldl (fun s byte => (kbc_enqueue link s byte origin).2) s).chip := by
  induction bytes generalizing s with
  | nil => exact .refl s.chip
  | cons byte bytes ih => exact (kbc_enqueue_same link s byte origin).trans (ih _)

/-! ## The invariant -/

/-- `LIB_UINT32_MAX` and what is below. -/
def u32_bound : ℕ := 2 ^ 32

theorem u32_bound_pos : 0 < u32_bound := by decide

theorem no_pause_bytes : ([] : List U8).length < pause_set2.length := by decide

/-- The countdowns and the timings are 32 bits wide, and Pause is not complete. -/
structure Clocked (chip : Kbc) : Prop where
  pause : chip.set2_pause_bytes.length < pause_set2.length
  pulse_remaining : chip.output_pulse_remaining_ticks < u32_bound
  serial_remaining : chip.serial_delivery_remaining_ticks < u32_bound
  response_remaining : chip.response_remaining_ticks < u32_bound
  pulse : chip.output_pulse_ticks < u32_bound
  serial : chip.serial_delivery_ticks < u32_bound
  response : chip.command_response_ticks < u32_bound

theorem Clocked.same {chip chip' : Kbc} (h : Clocked chip) (same : SameClocks chip chip') :
    Clocked chip' := by
  refine ⟨?_, ?_, ?_, ?_, ?_, ?_, ?_⟩
  · exact same.pause ▸ h.pause
  · exact same.pulse_remaining ▸ h.pulse_remaining
  · exact same.serial_remaining ▸ h.serial_remaining
  · exact same.response_remaining ▸ h.response_remaining
  · exact same.pulse ▸ h.pulse
  · exact same.serial ▸ h.serial
  · exact same.response ▸ h.response

variable {s : KbcState σ}

/-! ### The keyboard's stream -/

theorem kbc_queue_native_bytes_clocked (h : Clocked s.chip) (bytes : List U8) :
    Clocked (kbc_queue_native_bytes s bytes).2.chip := by
  unfold kbc_queue_native_bytes
  split_ifs
  · exact h
  · exact ⟨h.pause, h.pulse_remaining, h.serial, h.response_remaining, h.pulse, h.serial,
      h.response⟩
  · exact ⟨h.pause, h.pulse_remaining, h.serial_remaining, h.response_remaining, h.pulse,
      h.serial, h.response⟩

theorem kbc_reset_keyboard_stream_clocked (h : Clocked s.chip) :
    Clocked (kbc_reset_keyboard_stream s).chip :=
  ⟨no_pause_bytes, h.pulse_remaining, u32_bound_pos, h.response_remaining, h.pulse, h.serial,
    h.response⟩

theorem kbc_set_pause_bytes_clocked (h : Clocked s.chip) {bytes : List U8}
    (hbytes : bytes.length < pause_set2.length) :
    Clocked (kbc_set_pause_bytes s bytes).chip :=
  ⟨hbytes, h.pulse_remaining, h.serial_remaining, h.response_remaining, h.pulse, h.serial,
    h.response⟩

theorem kbc_set_break_pending_same (s : KbcState σ) (pending : Bool) :
    SameClocks s.chip (kbc_set_break_pending s pending).chip :=
  ⟨rfl, rfl, rfl, rfl, rfl, rfl, rfl, rfl, rfl, rfl, rfl⟩

theorem kbc_translate_set2_byte_clocked (h : Clocked s.chip) (native_byte : U8) :
    Clocked (kbc_translate_set2_byte link s native_byte).2.chip := by
  unfold kbc_translate_set2_byte
  by_cases hpause : s.chip.set2_pause_bytes ≠ [] ∨ native_byte = 0xe1
  · rw [if_pos hpause]
    unfold kbc_translate_pause_byte kbc_enqueue_set1_pause
    dsimp only
    have hclear := kbc_set_pause_bytes_clocked h no_pause_bytes
    split_ifs with _ hmore
    · exact h
    · exact kbc_set_pause_bytes_clocked h hmore
    · exact hclear
    · exact hclear
    · exact hclear.same (kbc_queue_bytes_same link _ _ _)
  · rw [if_neg hpause]
    split_ifs
    · exact h.same (kbc_queue_byte_same link s native_byte .keyboard)
    · exact h.same (kbc_set_break_pending_same s true)
    all_goals
      cases keyboard_set2_to_set1 native_byte with
      | none => exact h
      | some translated =>
        exact (h.same (kbc_set_break_pending_same s false)).same (kbc_queue_byte_same link _ _ _)

theorem kbc_publish_native_byte_clocked (h : Clocked s.chip) (native_byte : U8) :
    Clocked (kbc_publish_native_byte link s native_byte).2.chip := by
  unfold kbc_publish_native_byte
  split_ifs
  · exact kbc_translate_set2_byte_clocked link h native_byte
  · exact h.same (kbc_queue_byte_same link s native_byte .keyboard)

theorem kbc_drain_keyboard_serial_clocked (h : Clocked s.chip) :
    Clocked (kbc_drain_keyboard_serial link s).chip := by
  unfold kbc_drain_keyboard_serial
  split_ifs
  · exact h
  · split
    · rename_i native_byte backlog hempty hserial
      have hpublished := kbc_publish_native_byte_clocked link h native_byte
      dsimp only
      split_ifs
      · exact hpublished
      · exact ⟨hpublished.pause, hpublished.pulse_remaining, hpublished.serial,
          hpublished.response_remaining, hpublished.pulse, hpublished.serial,
          hpublished.response⟩
      · exact ⟨hpublished.pause, hpublished.pulse_remaining, hpublished.serial_remaining,
          hpublished.response_remaining, hpublished.pulse, hpublished.serial,
          hpublished.response⟩
    · exact h

/-! ### Time -/

theorem kbc_advance_pulses_clocked (h : Clocked s.chip) (elapsed_ticks : ℕ) :
    Clocked (kbc_advance_pulses link s elapsed_ticks).chip := by
  unfold kbc_advance_pulses
  split_ifs
  · exact h
  · exact ⟨h.pause, (Nat.sub_le _ _).trans_lt h.pulse_remaining, h.serial_remaining,
      h.response_remaining, h.pulse, h.serial, h.response⟩
  · exact ⟨h.pause, u32_bound_pos, h.serial_remaining, h.response_remaining, h.pulse, h.serial,
      h.response⟩

theorem kbc_advance_serial_clocked (h : Clocked s.chip) (elapsed_ticks : ℕ) :
    Clocked (kbc_advance_serial s elapsed_ticks).chip :=
  ⟨h.pause, h.pulse_remaining, (Nat.sub_le _ _).trans_lt h.serial_remaining,
    h.response_remaining, h.pulse, h.serial, h.response⟩

theorem kbc_advance_bat_same (s : KbcState σ) :
    SameClocks s.chip (kbc_advance_bat link s).chip := by
  unfold kbc_advance_bat
  dsimp only
  split_ifs
  · exact kbc_queue_byte_same link { s with context := (link.keyboard_take_bat s.context).2 } _ _
  · exact .refl s.chip
  · exact .refl s.chip

theorem kbc_publish_response_clocked (h : Clocked s.chip) (reply : KbcReply) :
    Clocked (kbc_publish_response link s reply).chip := by
  have hall := h.same (kbc_enqueue_all_same link s reply.bytes reply.origin)
  exact ⟨hall.pause, hall.pulse_remaining, hall.serial_remaining, hall.response_remaining,
    hall.pulse, hall.serial, hall.response⟩

theorem kbc_advance_response_clocked (h : Clocked s.chip) (elapsed_ticks : ℕ) :
    Clocked (kbc_advance_response link s elapsed_ticks).chip := by
  unfold kbc_advance_response
  cases s.chip.delayed_response with
  | none => exact h
  | some reply =>
    have hzero : Clocked { s.chip with response_remaining_ticks := 0 } :=
      ⟨h.pause, h.pulse_remaining, h.serial_remaining, u32_bound_pos, h.pulse, h.serial,
        h.response⟩
    dsimp only
    split_ifs
    · exact ⟨h.pause, h.pulse_remaining, h.serial_remaining,
        (Nat.sub_le _ _).trans_lt h.response_remaining, h.pulse, h.serial, h.response⟩
    · exact kbc_publish_response_clocked link (s := { s with chip := _ }) hzero reply
    · exact hzero

theorem kbc_run_keyboard_advance_clocked (h : Clocked s.chip) (keyboard : KeyboardAdvance σ) :
    Clocked (kbc_run_keyboard_advance s keyboard).2.chip := by
  induction keyboard generalizing s with
  | done answer context => exact h
  | emit bytes next ih => exact ih _ (kbc_queue_native_bytes_clocked h bytes)

theorem kbc_advance_repeat_clocked (h : Clocked s.chip) (elapsed_ticks : ℕ) :
    Clocked (kbc_advance_repeat link s elapsed_ticks).chip := by
  have hrun := kbc_run_keyboard_advance_clocked h (link.keyboard_advance s.context elapsed_ticks)
  unfold kbc_advance_repeat
  dsimp only
  split_ifs
  · exact kbc_drain_keyboard_serial_clocked link hrun
  · exact hrun
  · exact h

theorem kbc_advance_clocked (h : Clocked s.chip) (elapsed_ticks : ℕ) :
    Clocked (kbc_advance link s elapsed_ticks).chip := by
  have hpulses := kbc_advance_pulses_clocked link h elapsed_ticks
  have hdrained := kbc_drain_keyboard_serial_clocked link
    (kbc_advance_serial_clocked hpulses elapsed_ticks)
  have hbat := hdrained.same (kbc_advance_bat_same link _)
  exact kbc_advance_repeat_clocked link (kbc_advance_response_clocked link hbat elapsed_ticks)
    elapsed_ticks

/-! ### Replies and writes -/

theorem kbc_schedule_reply_clocked (h : Clocked s.chip) (reply : KbcReply) :
    Clocked (kbc_schedule_reply link s reply).chip := by
  have hscheduled : Clocked { s.chip with
      delayed_response := some reply
      response_remaining_ticks := s.chip.command_response_ticks
      response_status_polls_remaining := s.chip.command_response_status_polls } :=
    ⟨h.pause, h.pulse_remaining, h.serial_remaining, h.response, h.pulse, h.serial, h.response⟩
  unfold kbc_schedule_reply
  dsimp only
  split_ifs
  · exact h
  · exact kbc_advance_clocked link (s := { s.note (.handed reply) with chip := _ }) hscheduled 0
  · exact hscheduled

theorem kbc_schedule_response_clocked (h : Clocked s.chip) (bytes : List U8)
    (origin : KbcOrigin) : Clocked (kbc_schedule_response link s bytes origin).chip := by
  unfold kbc_schedule_response
  split_ifs
  · exact kbc_schedule_reply_clocked link h _
  · exact h

theorem kbc_receive_reply_clocked (h : Clocked s.chip) (origin : KbcOrigin) (bytes : List U8) :
    Clocked (kbc_receive_reply link s origin bytes).chip := by
  unfold kbc_receive_reply
  split_ifs <;> exact kbc_schedule_response_clocked link h _ origin

theorem kbc_run_endpoint_clocked (h : Clocked s.chip) (endpoint : EndpointWrite σ) :
    Clocked (kbc_run_endpoint link s endpoint).chip := by
  induction endpoint generalizing s with
  | done context => exact h
  | reply context origin bytes next ih =>
    exact ih _ (kbc_receive_reply_clocked link (s := { s with context }) h origin bytes)
  | reset_stream next ih => exact ih (kbc_reset_keyboard_stream_clocked h)

theorem kbc_flush_output_clocked (h : Clocked s.chip) :
    Clocked (kbc_flush_output link s).chip := by
  have hreset := kbc_reset_keyboard_stream_clocked h
  have hdiscarded : Clocked (kbc_discard_output (kbc_reset_keyboard_stream s)).chip :=
    ⟨hreset.pause, hreset.pulse_remaining, hreset.serial_remaining, u32_bound_pos, hreset.pulse,
      hreset.serial, hreset.response⟩
  refine Clocked.same ?_ (kbc_deassert_irq12_same link _)
  refine Clocked.same ?_ (kbc_deassert_irq1_same link _)
  exact hdiscarded

theorem kbc_set_command_byte_clocked (h : Clocked s.chip) (value : U8) :
    Clocked (kbc_set_command_byte link s value).chip := by
  have hstored : Clocked (kbc_store_command_byte s value).chip :=
    ⟨h.pause, h.pulse_remaining, h.serial_remaining, h.response_remaining, h.pulse, h.serial,
      h.response⟩
  unfold kbc_set_command_byte
  dsimp only
  refine Clocked.same ?_ (kbc_refresh_current_irq_same link _)
  split_ifs
  · exact kbc_advance_clocked link (s := { kbc_store_command_byte s value with
      context := (link.keyboard_start (kbc_store_command_byte s value).context).2 }) hstored 0
  · exact hstored
  · exact hstored

theorem kbc_store_system_clocked (h : Clocked s.chip) (system : Bool) :
    Clocked (kbc_store_system s system).chip :=
  ⟨h.pause, h.pulse_remaining, h.serial_remaining, h.response_remaining, h.pulse, h.serial,
    h.response⟩

theorem kbc_apply_output_port_clocked (h : Clocked s.chip) (value : U8) :
    Clocked (kbc_apply_output_port link s value).chip :=
  ⟨h.pause, h.pulse_remaining, h.serial_remaining, h.response_remaining, h.pulse, h.serial,
    h.response⟩

theorem kbc_set_pending_write_clocked (h : Clocked s.chip) (pending_write : KbcPendingWrite) :
    Clocked (kbc_set_pending_write s pending_write).chip :=
  ⟨h.pause, h.pulse_remaining, h.serial_remaining, h.response_remaining, h.pulse, h.serial,
    h.response⟩

theorem kbc_write_begin_clocked (h : Clocked s.chip) (command : Bool) :
    Clocked (kbc_write_begin s command).chip :=
  ⟨h.pause, h.pulse_remaining, h.serial_remaining, h.response_remaining, h.pulse, h.serial,
    h.response⟩

theorem kbc_write_end_clocked (h : Clocked s.chip) : Clocked (kbc_write_end s).chip :=
  ⟨h.pause, h.pulse_remaining, h.serial_remaining, h.response_remaining, h.pulse, h.serial,
    h.response⟩

theorem kbc_write_data_clocked (h : Clocked s.chip) (value : U8) :
    Clocked (kbc_write_data link s value).chip := by
  refine kbc_write_end_clocked ?_
  have hbegun := kbc_write_begin_clocked h false
  unfold kbc_write_data_body
  split
  · exact kbc_set_command_byte_clocked link (kbc_set_pending_write_clocked hbegun .none) value
  · exact kbc_set_pending_write_clocked (kbc_apply_output_port_clocked link hbegun value) .none
  · exact kbc_run_endpoint_clocked link (kbc_set_pending_write_clocked hbegun .none) _
  · exact kbc_set_pending_write_clocked hbegun .none
  · exact kbc_run_endpoint_clocked link hbegun _

theorem kbc_write_plain_command_clocked (h : Clocked s.chip) (command : U8) :
    Clocked (kbc_write_plain_command link s command).chip := by
  unfold kbc_write_plain_command kbc_pulse_output
  dsimp only
  split_ifs
  · exact ⟨h.pause, h.pulse, h.serial_remaining, h.response_remaining, h.pulse, h.serial,
      h.response⟩
  · exact ⟨h.pause, h.pulse, h.serial_remaining, h.response_remaining, h.pulse, h.serial,
      h.response⟩
  · exact h

theorem kbc_write_other_command_clocked (h : Clocked s.chip) (command : U8) :
    Clocked (kbc_write_other_command link s command).chip := by
  unfold kbc_write_other_command
  cases link.command_extension with
  | none => exact kbc_write_plain_command_clocked link h command
  | some extension =>
    dsimp only
    obtain ⟨result, context⟩ := extension s.context command s.chip.input_port s.chip.command_byte
    cases result with
    | special_read data =>
      exact ⟨h.pause, h.pulse_remaining, h.serial_remaining, h.response_remaining, h.pulse,
        h.serial, h.response⟩
    | handled => exact h
    | unhandled =>
      exact kbc_write_plain_command_clocked link (s := { s with context }) h command

theorem kbc_set_aux_enabled_clocked (h : Clocked s.chip) (aux_enabled : Bool) :
    Clocked (kbc_set_aux_enabled link s aux_enabled).chip := by
  unfold kbc_set_aux_enabled
  split_ifs
  · exact h
  · refine Clocked.same ?_ (kbc_refresh_current_irq_same link _)
    exact ⟨h.pause, h.pulse_remaining, h.serial_remaining, h.response_remaining, h.pulse,
      h.serial, h.response⟩

theorem kbc_self_test_clocked (h : Clocked s.chip) : Clocked (kbc_self_test link s).chip := by
  have hflushed := kbc_set_pending_write_clocked (kbc_flush_output_clocked link h) .none
  exact kbc_schedule_response_clocked link (kbc_store_system_clocked
    (kbc_set_command_byte_clocked link hflushed _) true) [0x55] .controller

theorem kbc_write_command_clocked (h : Clocked s.chip) (command : U8) :
    Clocked (kbc_write_command link s command).chip := by
  refine kbc_write_end_clocked ?_
  have hbegun := kbc_write_begin_clocked h true
  let is_clocked (s : KbcState σ) : Prop := Clocked s.chip
  have hreply (value : U8) :
      is_clocked (kbc_schedule_response_byte link (kbc_write_begin s true) value .controller) :=
    kbc_schedule_response_clocked link hbegun [value] .controller
  have hawait (pending_write : KbcPendingWrite) :
      is_clocked (kbc_await_data link (kbc_write_begin s true) pending_write) :=
    kbc_set_pending_write_clocked (s := { kbc_write_begin s true with context := _ }) hbegun
      pending_write
  have hcommand_byte (value : U8) :
      is_clocked (kbc_set_command_byte link (kbc_write_begin s true) value) :=
    kbc_set_command_byte_clocked link hbegun value
  have haux (enabled : Bool) :
      is_clocked (kbc_set_aux_enabled link (kbc_write_begin s true) enabled) :=
    kbc_set_aux_enabled_clocked link hbegun enabled
  change is_clocked (kbc_write_command_body link (kbc_write_begin s true) command)
  unfold kbc_write_command_body
  refine iteInduction (motive := is_clocked) (fun _ => hreply _) fun _ => ?_
  refine iteInduction (motive := is_clocked) (fun _ => hawait _) fun _ => ?_
  refine iteInduction (motive := is_clocked) (fun _ => kbc_self_test_clocked link hbegun) fun _ => ?_
  refine iteInduction (motive := is_clocked) (fun _ => hreply _) fun _ => ?_
  refine iteInduction (motive := is_clocked) (fun _ => hcommand_byte _) fun _ => ?_
  refine iteInduction (motive := is_clocked) (fun _ => hcommand_byte _) fun _ => ?_
  refine iteInduction (motive := is_clocked) (fun _ => haux _) fun _ => ?_
  refine iteInduction (motive := is_clocked) (fun _ => haux _) fun _ => ?_
  refine iteInduction (motive := is_clocked) (fun _ => hreply _) fun _ => ?_
  refine iteInduction (motive := is_clocked) (fun _ => hreply _) fun _ => ?_
  refine iteInduction (motive := is_clocked) (fun _ => hreply _) fun _ => ?_
  refine iteInduction (motive := is_clocked) (fun _ => hawait _) fun _ => ?_
  refine iteInduction (motive := is_clocked) (fun _ => hawait _) fun _ => ?_
  refine iteInduction (motive := is_clocked) (fun _ => hreply _) fun _ => ?_
  exact kbc_write_other_command_clocked link hbegun command

/-! ### Calls -/

/-- The timings of a call are 32 bits wide. -/
def KbcOp.Narrow : KbcOp σ → Prop
  | .set_command_response_timing ticks => ticks < u32_bound
  | .set_serial_delivery_timing ticks => ticks < u32_bound
  | .set_output_pulse_timing ticks => ticks < u32_bound
  | _ => True

theorem kbc_read_data_clocked (h : Clocked s.chip) : Clocked (kbc_read_data link s).2.chip := by
  unfold kbc_read_data kbc_dequeue
  split_ifs
  · exact ⟨h.pause, h.pulse_remaining, h.serial_remaining, h.response_remaining, h.pulse,
      h.serial, h.response⟩
  · split
    · exact h
    · rename_i entry rest hfifo
      have hpopped : Clocked (kbc_pop s entry rest).chip :=
        ⟨h.pause, h.pulse_remaining, h.serial_remaining, h.response_remaining, h.pulse,
          h.serial, h.response⟩
      have htaken : Clocked (kbc_take link s entry rest).chip := by
        refine Clocked.same ?_ (kbc_refresh_current_irq_same link _)
        unfold kbc_acknowledge
        split_ifs
        · exact hpopped.same (kbc_deassert_irq1_same link _)
        · exact hpopped.same (kbc_deassert_irq12_same link _)
        · exact hpopped
      exact kbc_drain_keyboard_serial_clocked link (kbc_advance_clocked link htaken 0)

theorem kbc_read_status_clocked (h : Clocked s.chip) :
    Clocked (kbc_read_status link s).2.chip := by
  have hpolled : Clocked (kbc_poll s).chip :=
    ⟨h.pause, h.pulse_remaining, h.serial_remaining, h.response_remaining, h.pulse, h.serial,
      h.response⟩
  unfold kbc_read_status
  dsimp only
  split_ifs
  · exact kbc_advance_clocked link hpolled 0
  · exact hpolled
  · exact h

theorem kbc_receive_keyboard_bytes_clocked (h : Clocked s.chip) (native_bytes : List U8) :
    Clocked (kbc_receive_keyboard_bytes link s native_bytes).2.chip := by
  unfold kbc_receive_keyboard_bytes
  dsimp only
  generalize link.keyboard_admit s.context native_bytes
    (kbc_keyboard_serial_capacity - s.chip.keyboard_serial.length) = admitted
  have hqueued := kbc_queue_native_bytes_clocked (s := { s with context := admitted.2.2 }) h
    admitted.2.1
  split_ifs
  · exact h
  · exact h
  · exact hqueued
  · exact kbc_drain_keyboard_serial_clocked link hqueued

theorem kbc_receive_aux_packet_clocked (h : Clocked s.chip) (b0 b1 b2 : U8) :
    Clocked (kbc_receive_aux_packet link s b0 b1 b2).2.chip := by
  unfold kbc_receive_aux_packet
  split_ifs
  · exact h
  · exact h.same (kbc_queue_bytes_same link s _ .aux)

theorem kbc_set_aux_present_clocked (h : Clocked s.chip) (present : Bool) :
    Clocked (kbc_set_aux_present link s present).chip := by
  have hstored : Clocked (kbc_store_aux_present s present).chip :=
    ⟨h.pause, h.pulse_remaining, h.serial_remaining, h.response_remaining, h.pulse, h.serial,
      h.response⟩
  unfold kbc_set_aux_present
  dsimp only
  refine Clocked.same ?_ (kbc_refresh_current_irq_same link _)
  split_ifs
  · exact hstored
  · exact hstored.same (kbc_deassert_irq12_same link _)

theorem kbc_reset_clocked (h : Clocked s.chip) : Clocked (kbc_reset link s).chip :=
  ⟨no_pause_bytes, u32_bound_pos, u32_bound_pos, u32_bound_pos, h.pulse, h.serial, h.response⟩

theorem kbc_create_clocked (context : σ) : Clocked (kbc_create link context).chip :=
  ⟨no_pause_bytes, u32_bound_pos, u32_bound_pos, u32_bound_pos, u32_bound_pos, u32_bound_pos,
    u32_bound_pos⟩

theorem kbc_apply_clocked (h : Clocked s.chip) {op : KbcOp σ} (hop : op.Narrow) :
    Clocked (kbc_apply link s op).chip := by
  cases op with
  | read_data => exact kbc_read_data_clocked link h
  | read_status => exact kbc_read_status_clocked link h
  | write_data value => exact kbc_write_data_clocked link h value
  | write_command command => exact kbc_write_command_clocked link h command
  | receive_keyboard_bytes native_bytes =>
    exact kbc_receive_keyboard_bytes_clocked link h native_bytes
  | receive_reply origin bytes => exact kbc_receive_reply_clocked link h origin bytes
  | receive_aux_packet b0 b1 b2 => exact kbc_receive_aux_packet_clocked link h b0 b1 b2
  | reset_keyboard_stream => exact kbc_reset_keyboard_stream_clocked h
  | advance elapsed_ticks => exact kbc_advance_clocked link h elapsed_ticks
  | reset => exact kbc_reset_clocked link h
  | set_aux_present present => exact kbc_set_aux_present_clocked link h present
  | set_reset_output_port value =>
    exact kbc_apply_output_port_clocked link (s := { s with chip := { s.chip with
      reset_output_port := value } }) ⟨h.pause, h.pulse_remaining, h.serial_remaining,
        h.response_remaining, h.pulse, h.serial, h.response⟩ value
  | set_command_response_timing ticks =>
    exact ⟨h.pause, h.pulse_remaining, h.serial_remaining, h.response_remaining, h.pulse,
      h.serial, hop⟩
  | set_serial_delivery_timing ticks =>
    exact kbc_drain_keyboard_serial_clocked link (s := { s with chip := { s.chip with
      serial_delivery_ticks := ticks, serial_delivery_remaining_ticks := 0 } })
      ⟨h.pause, h.pulse_remaining, u32_bound_pos, h.response_remaining, h.pulse, hop, h.response⟩
  | set_output_pulse_timing ticks =>
    exact ⟨h.pause, h.pulse_remaining, h.serial_remaining, h.response_remaining, hop, h.serial,
      h.response⟩
  | endpoints context => exact h
  | set_input_port | set_test_inputs | set_reset_system_flag | set_reset_command_byte
  | set_command_response_status_polls =>
    exact ⟨h.pause, h.pulse_remaining, h.serial_remaining, h.response_remaining, h.pulse,
      h.serial, h.response⟩

/-- Every reachable controller is within its widths. -/
theorem run_clocked (ops : List (KbcOp σ)) (hops : ∀ op ∈ ops, op.Narrow)
    (h : Clocked s.chip) : Clocked (ops.foldl (kbc_apply link) s).chip := by
  induction ops generalizing s with
  | nil => exact h
  | cons op ops ih =>
    exact ih (fun op hmem => hops op (List.mem_cons_of_mem _ hmem))
      (kbc_apply_clocked link h (hops op (List.mem_cons_self ..)))

end Link

end Nxvm.Chips
