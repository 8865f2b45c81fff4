/-
Replies of the keyboard controller.

The controller refines the transport: its journal replays to its FIFO and its waiting
reply, in every run. A waiting reply waits for a number of ticks, a number of status polls
and room in the FIFO, and a keyboard without deliverable bytes; no call makes any of the
first three worse while it waits, and a guest that lets time pass, polls and reads makes
each of them better.
-/
import Nxvm.Chips.KbcMoves
import Nxvm.Chips.KbcTransport
import Nxvm.Lib.Progress

set_option autoImplicit false

namespace Nxvm.Chips

open Nxvm.Lib Nxvm.Lib.Register Nxvm.Machine

/-! ## Steps -/

/-- One change of the FIFO or the waiting reply: a move, a byte taken from the FIFO, or a
change of the lines and what enables them. -/
inductive KbcStep {σ : Type} (s s' : KbcState σ) : Prop where
  | move (move : KbcMove s s')
  | pop (entry : KbcEntry) (before : s.chip.fifo = entry :: s'.chip.fifo)
      (waits : StillWaits s.chip s'.chip) (journal : s'.journal = s.journal ++ [.taken entry])
  | command (fifo : s'.chip.fifo = s.chip.fifo) (waits : StillWaits s.chip s'.chip)
      (journal : s'.journal = s.journal)

/-- Any number of steps. -/
def KbcSteps {σ : Type} : KbcState σ → KbcState σ → Prop := Relation.ReflTransGen KbcStep

section Steps

variable {σ : Type} (link : KbcLink σ)

theorem KbcSteps.refl (s : KbcState σ) : KbcSteps s s := Relation.ReflTransGen.refl

theorem KbcSteps.trans {a b c : KbcState σ} (h : KbcSteps a b) (h' : KbcSteps b c) :
    KbcSteps a c := Relation.ReflTransGen.trans h h'

theorem KbcMoves.steps {s s' : KbcState σ} (h : KbcMoves s s') : KbcSteps s s' := by
  induction h with
  | refl => exact .refl s
  | tail _ hmove ih => exact Relation.ReflTransGen.tail ih (.move hmove)

/-- A change of the lines and what enables them. -/
theorem steps_command {s s' : KbcState σ} (fifo : s'.chip.fifo = s.chip.fifo)
    (waits : StillWaits s.chip s'.chip) (journal : s'.journal = s.journal) : KbcSteps s s' :=
  Relation.ReflTransGen.single (.command fifo waits journal)

theorem kbc_refresh_current_irq_steps (s : KbcState σ) :
    KbcSteps s (kbc_refresh_current_irq link s) := by
  obtain ⟨hchip, hjournal⟩ := kbc_refresh_current_irq_chip link s
  refine steps_command ?_ ?_ hjournal <;> rw [hchip]
  · rfl
  · exact ⟨rfl, le_rfl, le_rfl⟩

theorem kbc_deassert_irq12_steps (s : KbcState σ) :
    KbcSteps s (kbc_deassert_irq12 link s) := by
  obtain ⟨hchip, hjournal⟩ := kbc_deassert_irq12_chip link s
  refine steps_command ?_ ?_ hjournal <;> rw [hchip]
  · rfl
  · exact ⟨rfl, le_rfl, le_rfl⟩

theorem kbc_deassert_irq1_steps (s : KbcState σ) : KbcSteps s (kbc_deassert_irq1 link s) := by
  obtain ⟨hchip, hjournal⟩ := kbc_deassert_irq1_chip link s
  refine steps_command ?_ ?_ hjournal <;> rw [hchip]
  · rfl
  · exact ⟨rfl, le_rfl, le_rfl⟩

theorem kbc_set_command_byte_steps (s : KbcState σ) (value : U8) :
    KbcSteps s (kbc_set_command_byte link s value) := by
  have hstored : KbcSteps s (kbc_store_command_byte s value) :=
    steps_command rfl ⟨rfl, le_rfl, le_rfl⟩ rfl
  unfold kbc_set_command_byte
  dsimp only
  refine hstored.trans (KbcSteps.trans ?_ (kbc_refresh_current_irq_steps link _))
  split_ifs
  · exact ((moves_context _ _).trans (kbc_advance_moves link _ 0)).steps
  · exact (moves_context _ _).steps
  · exact .refl _

theorem kbc_store_system_steps (s : KbcState σ) (system : Bool) :
    KbcSteps s (kbc_store_system s system) :=
  steps_command rfl ⟨rfl, le_rfl, le_rfl⟩ rfl

theorem kbc_set_aux_enabled_steps (s : KbcState σ) (aux_enabled : Bool) :
    KbcSteps s (kbc_set_aux_enabled link s aux_enabled) := by
  have hstored : KbcSteps s (kbc_store_aux_enabled s aux_enabled) :=
    steps_command rfl ⟨rfl, le_rfl, le_rfl⟩ rfl
  unfold kbc_set_aux_enabled
  split_ifs
  · exact .refl s
  · exact hstored.trans (kbc_refresh_current_irq_steps link _)

theorem kbc_set_aux_present_steps (s : KbcState σ) (present : Bool) :
    KbcSteps s (kbc_set_aux_present link s present) := by
  have hstored : KbcSteps s (kbc_store_aux_present s present) :=
    steps_command rfl ⟨rfl, le_rfl, le_rfl⟩ rfl
  unfold kbc_set_aux_present
  dsimp only
  refine hstored.trans (KbcSteps.trans ?_ (kbc_refresh_current_irq_steps link _))
  split_ifs
  · exact .refl _
  · exact kbc_deassert_irq12_steps link _

/-- A read of the FIFO takes its head, if it has one, and then only moves. -/
theorem kbc_take_steps {s : KbcState σ} {entry : KbcEntry} {rest : List KbcEntry}
    (hfifo : s.chip.fifo = entry :: rest) : KbcSteps s (kbc_take link s entry rest) := by
  have hpop : KbcSteps s (kbc_pop s entry rest) :=
    Relation.ReflTransGen.single (.pop entry hfifo ⟨rfl, le_rfl, le_rfl⟩ rfl)
  have hacknowledge (s : KbcState σ) : KbcSteps s (kbc_acknowledge link s entry.2) := by
    unfold kbc_acknowledge
    split_ifs
    · exact kbc_deassert_irq1_steps link s
    · exact kbc_deassert_irq12_steps link s
    · exact .refl s
  exact hpop.trans ((hacknowledge _).trans (kbc_refresh_current_irq_steps link _))

theorem kbc_read_data_steps (s : KbcState σ) : KbcSteps s (kbc_read_data link s).2 := by
  unfold kbc_read_data
  split_ifs
  · exact steps_command rfl ⟨rfl, le_rfl, le_rfl⟩ rfl
  · unfold kbc_dequeue
    cases hfifo : s.chip.fifo with
    | nil => exact .refl s
    | cons entry rest =>
      exact (kbc_take_steps link hfifo).trans
        ((kbc_advance_moves link _ 0).trans (kbc_drain_keyboard_serial_moves link _)).steps

theorem kbc_write_data_steps (s : KbcState σ) (value : U8) :
    KbcSteps s (kbc_write_data link s value) := by
  have hbody (s : KbcState σ) : KbcSteps s (kbc_write_data_body link s value) := by
    unfold kbc_write_data_body
    cases s.chip.pending_write with
    | none => exact (kbc_run_endpoint_moves link s _).steps
    | command_byte =>
      exact (kbc_set_pending_write_moves s .none).steps.trans
        (kbc_set_command_byte_steps link _ value)
    | output_port =>
      exact ((kbc_apply_output_port_moves link s value).trans
        (kbc_set_pending_write_moves _ .none)).steps
    | aux_device =>
      exact ((kbc_set_pending_write_moves s .none).trans (kbc_run_endpoint_moves link _ _)).steps
    | aux_discard => exact (kbc_set_pending_write_moves s .none).steps
  exact (kbc_write_begin_moves s false).steps.trans
    ((hbody _).trans (kbc_write_end_moves _).steps)

/-- The call discards the FIFO and the waiting reply. -/
def Clears : KbcOp σ → Prop
  | .write_command command => command = 0xaa
  | .reset => True
  | _ => False

theorem kbc_write_command_steps (s : KbcState σ) {command : U8} (hclears : command ≠ 0xaa) :
    KbcSteps s (kbc_write_command link s command) := by
  refine (kbc_write_begin_moves s true).steps.trans
    (KbcSteps.trans ?_ (kbc_write_end_moves _).steps)
  cases kbc_write_command_body_cases link (kbc_write_begin s true) command with
  | moves hmoves => exact hmoves.steps
  | self_test hcommand => exact absurd hcommand hclears
  | clock value hvalue hne hafter =>
    rw [hafter]
    exact kbc_set_command_byte_steps link _ value
  | aux enabled hcommand hafter =>
    rw [hafter]
    exact kbc_set_aux_enabled_steps link _ enabled

/-- A call that does not clear only takes steps. -/
theorem kbc_apply_steps (s : KbcState σ) {op : KbcOp σ} (hclears : ¬ Clears op) :
    KbcSteps s (kbc_apply link s op) := by
  have hbeside (chip : Kbc) (fifo : chip.fifo = s.chip.fifo) (waits : StillWaits s.chip chip) :
      KbcSteps s { s with chip } := steps_command fifo waits rfl
  cases op with
  | read_data => exact kbc_read_data_steps link s
  | read_status => exact (kbc_read_status_moves link s).steps
  | write_data value => exact kbc_write_data_steps link s value
  | write_command command => exact kbc_write_command_steps link s hclears
  | receive_keyboard_bytes native_bytes =>
    exact (kbc_receive_keyboard_bytes_moves link s native_bytes).steps
  | receive_reply origin bytes => exact (kbc_receive_reply_moves link s origin bytes).steps
  | receive_aux_packet b0 b1 b2 => exact (kbc_receive_aux_packet_moves link s b0 b1 b2).steps
  | reset_keyboard_stream => exact (kbc_reset_keyboard_stream_moves s).steps
  | advance elapsed_ticks => exact (kbc_advance_moves link s elapsed_ticks).steps
  | reset => exact absurd trivial hclears
  | set_aux_present present => exact kbc_set_aux_present_steps link s present
  | set_input_port value => exact hbeside _ rfl ⟨rfl, le_rfl, le_rfl⟩
  | set_test_inputs value => exact hbeside _ rfl ⟨rfl, le_rfl, le_rfl⟩
  | set_reset_output_port value =>
    exact (hbeside { s.chip with reset_output_port := value } rfl ⟨rfl, le_rfl, le_rfl⟩).trans
      (kbc_apply_output_port_moves link _ value).steps
  | set_reset_system_flag enabled =>
    exact (hbeside { s.chip with reset_system_flag := enabled } rfl ⟨rfl, le_rfl, le_rfl⟩).trans
      (kbc_store_system_steps _ enabled)
  | set_reset_command_byte value => exact hbeside _ rfl ⟨rfl, le_rfl, le_rfl⟩
  | set_command_response_timing ticks => exact hbeside _ rfl ⟨rfl, le_rfl, le_rfl⟩
  | set_command_response_status_polls polls => exact hbeside _ rfl ⟨rfl, le_rfl, le_rfl⟩
  | set_serial_delivery_timing ticks =>
    exact (hbeside { s.chip with serial_delivery_ticks := ticks
                                 serial_delivery_remaining_ticks := 0 } rfl
      ⟨rfl, le_rfl, le_rfl⟩).trans (kbc_drain_keyboard_serial_moves link _).steps
  | set_output_pulse_timing ticks => exact hbeside _ rfl ⟨rfl, le_rfl, le_rfl⟩
  | endpoints context => exact (moves_context s context).steps

/-! ## The transport -/

/-- The journal replays to the FIFO and the waiting reply. -/
def Replays (s : KbcState σ) : Prop :=
  KbcTransport.run ⟨[], none⟩ s.journal = some ⟨s.chip.fifo, s.chip.delayed_response⟩

/-- One more event. -/
theorem Replays.note {s s' : KbcState σ} (h : Replays s) {event : KbcEvent}
    (hjournal : s'.journal = s.journal ++ [event])
    (hstep : KbcTransport.step ⟨s.chip.fifo, s.chip.delayed_response⟩ event =
      some ⟨s'.chip.fifo, s'.chip.delayed_response⟩) : Replays s' := by
  unfold Replays at h ⊢
  rw [hjournal, KbcTransport.run_append, h]
  simp only [Option.bind_some, KbcTransport.run, hstep]

theorem Replays.same {s s' : KbcState σ} (h : Replays s) (hjournal : s'.journal = s.journal)
    (hfifo : s'.chip.fifo = s.chip.fifo)
    (hwaiting : s'.chip.delayed_response = s.chip.delayed_response) : Replays s' := by
  unfold Replays at h ⊢
  rw [hjournal, hfifo, hwaiting]
  exact h

theorem KbcMove.replays {s s' : KbcState σ} (hmove : KbcMove s s') (h : Replays s) :
    Replays s' := by
  cases hmove with
  | other lines waits hjournal => exact h.same hjournal lines.fifo waits.delayed_response
  | queue entry filled waits few hjournal =>
    refine h.note hjournal ?_
    rw [filled.fifo, waits.delayed_response]
    rfl
  | publish reply waiting filled published hjournal =>
    refine h.note hjournal ?_
    rw [filled.fifo, published]
    exact if_pos waiting
  | hand reply lines kept taken hjournal =>
    refine h.note hjournal ?_
    rw [lines.fifo]
    cases hwaiting : s.chip.delayed_response with
    | none =>
      rw [taken hwaiting]
      rfl
    | some other =>
      have hkept := (kept (by rw [hwaiting]; rfl)).delayed_response
      rw [hwaiting] at hkept
      rw [hkept]
      rfl

theorem KbcSteps.replays {s s' : KbcState σ} (hsteps : KbcSteps s s') (h : Replays s) :
    Replays s' := by
  induction hsteps with
  | refl => exact h
  | tail _ hstep ih =>
    cases hstep with
    | move hmove => exact hmove.replays ih
    | pop entry before waits hjournal =>
      refine ih.note hjournal ?_
      rw [before, waits.delayed_response]
      exact if_pos rfl
    | command hfifo waits hjournal => exact ih.same hjournal hfifo waits.delayed_response

/-- Discarding the output starts over. -/
theorem Replays.cleared {s s' : KbcState σ} (h : Replays s)
    (hjournal : s'.journal = s.journal ++ [.cleared]) (hfifo : s'.chip.fifo = [])
    (hwaiting : s'.chip.delayed_response = none) : Replays s' := by
  refine h.note hjournal ?_
  rw [hfifo, hwaiting]
  rfl

theorem kbc_self_test_replays {s : KbcState σ} (h : Replays s) :
    Replays (kbc_self_test link s) := by
  have hstream := (kbc_reset_keyboard_stream_moves s).steps.replays h
  have hdiscarded : Replays (kbc_discard_output (kbc_reset_keyboard_stream s)) :=
    hstream.cleared rfl rfl rfl
  have hflushed : Replays (kbc_flush_output link s) :=
    ((moves_context _ _).steps.trans ((kbc_deassert_irq1_steps link _).trans
      (kbc_deassert_irq12_steps link _))).replays hdiscarded
  unfold kbc_self_test
  exact ((kbc_set_pending_write_moves _ .none).steps.trans
    ((kbc_set_command_byte_steps link _ _).trans ((kbc_store_system_steps _ true).trans
      (kbc_schedule_response_moves link _ [0x55] .controller).steps))).replays hflushed

/-- Every call keeps the controller to the transport. -/
theorem kbc_apply_replays {s : KbcState σ} (h : Replays s) (op : KbcOp σ) :
    Replays (kbc_apply link s op) := by
  by_cases hclears : Clears op
  · cases op with
    | write_command command =>
      obtain rfl : command = 0xaa := hclears
      have hbody : kbc_write_command_body link (kbc_write_begin s true) 0xaa =
          kbc_self_test link (kbc_write_begin s true) := rfl
      have hbegun := (kbc_write_begin_moves s true).steps.replays h
      change Replays (kbc_write_end (kbc_write_command_body link (kbc_write_begin s true) 0xaa))
      rw [hbody]
      exact (kbc_write_end_moves _).steps.replays (kbc_self_test_replays link hbegun)
    | reset => exact h.cleared rfl rfl rfl
    | _ => exact hclears.elim
  · exact (kbc_apply_steps link s hclears).replays h

theorem kbc_create_replays (context : σ) : Replays (kbc_create link context) := rfl

end Steps

end Nxvm.Chips
