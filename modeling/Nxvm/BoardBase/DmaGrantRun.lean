/-
Runs of the two DMA controllers.

Any call keeps the cascade grant with a service of the primary, but for a master clear of
the primary: it drops the primary's service and leaves the cascade channel of the
secondary in service, with nothing to clock that would release it.
-/
import Nxvm.BoardBase.DmaGrant

set_option autoImplicit false

namespace Nxvm.BoardBase

open Nxvm.Lib Nxvm.Lib.Register Nxvm.Chips Nxvm.Machine

/-! ## Registers -/

/-- Only a master clear touches the service. -/
theorem dma_write_register_isr (dma : Dma) (selector value : U8) :
    (dma_write_register dma selector value).isr = if selector = 13 then none else dma.isr := by
  by_cases hclear : selector = 13
  · rw [if_pos hclear, hclear]
    rfl
  · rw [if_neg hclear]
    unfold dma_write_register dma_write_address dma_write_count
    dsimp only
    split_ifs <;> rfl

theorem dma_read_register_isr (dma : Dma) (selector io_value : U8) :
    (dma_read_register dma selector io_value).2.isr = dma.isr := by
  unfold dma_read_register
  dsimp only
  split_ifs <;> rfl

/-- The register of a port of the primary. -/
theorem dma_port_selector_primary {port_id : U16} (h : port_id.toNat < 0x10)
    (hclear : dma_port_selector port_id = 13) : port_id = 0x0d := by
  unfold dma_port_selector at hclear
  rw [if_neg (by omega)] at hclear
  bv_omega

theorem Held.of_isr {pair pair' : DmaPair} (h : Held pair)
    (hprimary : pair'.primary.device.isr = pair.primary.device.isr)
    (hsecondary : pair'.secondary.device.isr = pair.secondary.device.isr) : Held pair' := by
  unfold Held
  rw [hprimary, hsecondary]
  exact h

theorem Held.of_idle {pair : DmaPair} (h : pair.secondary.device.isr = none) : Held pair :=
  fun hcascade => nomatch h.symm.trans hcascade

theorem Held.update_cascade {pair : DmaPair} (h : Held pair) :
    Held (board_dma_update_cascade pair) :=
  h.inputs fun side => board_dma_update_cascade_inputs pair side

theorem Held.port_read {pair : DmaPair} (h : Held pair) (port_id : U16) (value : U8) :
    Held (dma_port_read pair port_id value).2 := by
  unfold dma_port_read
  dsimp only
  split_ifs
  · exact h
  · cases dma_controller port_id
    · exact h.of_isr (dma_read_register_isr _ _ _) rfl
    · exact h.of_isr rfl (dma_read_register_isr _ _ _)
  all_goals exact h

/-- The write does not clear the primary while the cascade channel is in service. -/
def ClearsSafely (pair : DmaPair) (port_id : U16) : Prop :=
  port_id = 0x0d → pair.secondary.device.isr ≠ some 0

theorem Held.port_write {pair : DmaPair} (h : Held pair) {port_id : U16} (value : U8)
    (hrouted : dma_port_is_routed port_id = true) (hsafe : ClearsSafely pair port_id) :
    Held (dma_port_write pair port_id value) := by
  unfold dma_port_write
  split_ifs with hplain hspare hpage hside
  · exact h
  · exact h
  · unfold DmaPair.set_page
    cases dma_controller port_id <;> exact h
  · -- a clear of the secondary releases the grant
    refine Held.update_cascade ?_
    have hisr := dma_write_register_isr pair.secondary.device (dma_port_selector port_id) value
    by_cases hclear : dma_port_selector port_id = 13
    · rw [if_pos hclear] at hisr
      exact Held.of_idle hisr
    · rw [if_neg hclear] at hisr
      exact h.of_isr rfl hisr
  · refine Held.update_cascade ?_
    have hisr := dma_write_register_isr pair.primary.device (dma_port_selector port_id) value
    by_cases hclear : dma_port_selector port_id = 13
    · have hlow : port_id.toNat < 0x10 := by
        have h80 : port_id ≠ 0x80 := fun h0 => hspare (by rw [h0]; decide)
        simp only [dma_port_is_routed, Bool.or_eq_true, decide_eq_true_eq] at hrouted
        bv_omega
      have hcascade := hsafe (dma_port_selector_primary hlow hclear)
      exact fun h0 => absurd h0 hcascade
    · rw [if_neg hclear] at hisr
      exact h.of_isr hisr rfl

/-! ## Time -/

section Run

variable {σ : Type} (devices : DmaDevices σ)

/-- Changes of inputs leave what a clock has done. -/
theorem Clocked.inputs {pair mid pair' : DmaPair} (h : Clocked pair mid)
    (hinputs : ∀ side, InputsOnly (mid.device side) (pair'.device side)) : Clocked pair pair' := by
  have hprimary : InputsOnly mid.primary.device pair'.primary.device := hinputs .primary
  have hsecondary : InputsOnly mid.secondary.device pair'.secondary.device := hinputs .secondary
  constructor
  case held => exact h.held.inputs hinputs
  case commands =>
    exact ⟨hprimary.same_service.command.trans h.commands.primary,
      hsecondary.same_service.command.trans h.commands.secondary⟩
  case less =>
    intro henabled hbusy
    have hsame : pair_left pair' = pair_left mid := by
      unfold pair_left
      rw [InputsOnly.service_left hprimary, InputsOnly.service_left hsecondary,
        hsecondary.same_service.isr]
    rw [hsame]
    exact h.less henabled hbusy

theorem board_dma_tick_clocked {s : DmaPair × σ} (hheld : Held s.1) :
    Clocked s.1 (board_dma_tick devices s).1 :=
  (board_dma_advance_one_clocked devices hheld).inputs
    fun side => board_dma_update_cascade_inputs _ side

theorem Held.advance_transaction (elapsed_ticks : ℕ) {s : DmaPair × σ} (h : Held s.1) :
    Held (board_dma_advance_transaction devices elapsed_ticks s).1 := by
  induction elapsed_ticks generalizing s with
  | zero => exact h
  | succ elapsed_ticks ih =>
    have htick := (board_dma_tick_clocked devices h).held
    unfold board_dma_advance_transaction
    dsimp only
    split_ifs
    · exact htick
    · exact ih htick

/-- One tick at a time, the pair is idle before long. -/
theorem board_dma_advance_idle {s : DmaPair × σ} (hheld : Held s.1) (henabled : BothEnabled s.1) :
    ∃ n ≤ 1310728, Idle ((board_dma_advance_transaction devices 1)^[n] s).1 := by
  have hkeep (s : DmaPair × σ) (hs : Held s.1 ∧ BothEnabled s.1) :
      Held (board_dma_tick devices s).1 ∧ BothEnabled (board_dma_tick devices s).1 :=
    have h := board_dma_tick_clocked devices hs.1
    ⟨h.held, h.commands.both_enabled hs.2⟩
  have hless (s : DmaPair × σ) (hs : Held s.1 ∧ BothEnabled s.1) (hbusy : ¬ Idle s.1) :
      pair_left (board_dma_tick devices s).1 < pair_left s.1 :=
    (board_dma_tick_clocked devices hs.1).less hs.2 hbusy
  obtain ⟨n, hn, -, hidle⟩ := reaches_within (fun s => pair_left s.1) hkeep hless s
    ⟨hheld, henabled⟩
  have hbound : pair_left s.1 ≤ 1310728 := by
    have hprimary := service_left_le s.1.primary.device
    have hsecondary := service_left_le s.1.secondary.device
    unfold pair_left
    split_ifs <;> omega
  have htick : board_dma_advance_transaction devices 1 = board_dma_tick devices := by
    funext s
    simp [board_dma_advance_transaction]
  rw [htick]
  exact ⟨n, hn.trans hbound, hidle⟩

/-- The next tick grants a request of an idle pair. -/
theorem board_dma_advance_grants {s : DmaPair × σ} (henabled : BothEnabled s.1) (hidle : Idle s.1)
    (hpending : board_dma_has_pending_request s.1 = true) :
    ∃ channel, Granted s.1 (board_dma_advance_transaction devices 1 s).1 channel := by
  obtain ⟨channel, hgranted⟩ := board_dma_arbitrate_grants henabled hidle hpending
  have harbitrate : board_dma_advance_one devices s = (board_dma_arbitrate s.1, s.2) := by
    unfold board_dma_advance_one
    dsimp only
    simp only [dma_get_signals, henabled.1, henabled.2, hidle.1, hidle.2]
    rfl
  have htick : (board_dma_advance_transaction devices 1 s).1 =
      board_dma_update_cascade (board_dma_arbitrate s.1) := by
    rw [← show (board_dma_advance_one devices s).1 = board_dma_arbitrate s.1 by rw [harbitrate]]
    rfl
  rw [htick]
  exact ⟨channel, hgranted.secondary, hgranted.requested, hgranted.primary⟩

/-- The cascade channel is in service and nothing of the primary is. -/
def Stuck (pair : DmaPair) : Prop :=
  pair.secondary.device.isr = some 0 ∧ pair.primary.device.isr = none

/-- Time does not release a cascade grant without a service. -/
theorem board_dma_advance_stuck (elapsed_ticks : ℕ) {s : DmaPair × σ} (h : Stuck s.1) :
    Stuck (board_dma_advance_transaction devices elapsed_ticks s).1 := by
  have hone {s : DmaPair × σ} (h : Stuck s.1) : board_dma_advance_one devices s = s := by
    unfold board_dma_advance_one
    simp only [dma_get_signals, h.1, h.2, Option.isSome_none, Bool.and_false, ne_eq,
      not_true_eq_false, if_false, Bool.false_eq_true, ite_self]
  have htick {s : DmaPair × σ} (h : Stuck s.1) : Stuck (board_dma_tick devices s).1 := by
    unfold board_dma_tick
    rw [hone h]
    exact ⟨h.1, h.2⟩
  induction elapsed_ticks generalizing s with
  | zero => exact h
  | succ elapsed_ticks ih =>
    unfold board_dma_advance_transaction
    dsimp only
    split_ifs
    · exact htick h
    · exact ih (htick h)

/-! ## Runs -/

/-- The call does not clear the primary while the cascade channel is in service. -/
def OpClearsSafely (s : DmaPair × σ) : DmaPairOp σ → Prop
  | .port_write port_id _ => ClearsSafely s.1 port_id
  | _ => True

/-- No call of the run clears the primary while the cascade channel is in service. -/
def RunClearsSafely (s : DmaPair × σ) : List (DmaPairOp σ) → Prop
  | [] => True
  | op :: ops => OpClearsSafely s op ∧ RunClearsSafely (board_dma_apply devices s op) ops

/-- One call keeps the grant with a service. -/
theorem board_dma_apply_held {s : DmaPair × σ} (h : Held s.1) {op : DmaPairOp σ}
    (hop : OpClearsSafely s op) : Held (board_dma_apply devices s op).1 := by
  cases op with
  | port_write port_id value =>
    simp only [board_dma_apply]
    split_ifs with hrouted
    · exact h.port_write value hrouted hop
    · exact h
  | port_read port_id value =>
    simp only [board_dma_apply]
    split_ifs
    · exact h.port_read port_id value
    · exact h
  | request request => exact h.inputs fun side => board_dma_request_inputs s.1 request side
  | advance elapsed_ticks => exact h.advance_transaction devices elapsed_ticks
  | reset => exact Held.of_idle rfl
  | machine s' => exact h

theorem run_held (ops : List (DmaPairOp σ)) {s : DmaPair × σ} (h : Held s.1)
    (hops : RunClearsSafely devices s ops) :
    Held (ops.foldl (board_dma_apply devices) s).1 := by
  induction ops generalizing s with
  | nil => exact h
  | cons op ops ih => exact ih (board_dma_apply_held devices h hops.1) hops.2

/-- In every run that does not clear the primary under the cascade grant, the cascade
channel is in service only while the primary serves a channel of its own. With both chips
enabled the bus is free again before long, and a free bus is granted to a request. -/
theorem board_dma_grant_held (page_ports_plain_scratch : Bool) (machine : σ)
    (ops : List (DmaPairOp σ))
    (hops : RunClearsSafely devices ( board_dma_initialize page_ports_plain_scratch, machine) ops) :
    let s := ops.foldl (board_dma_apply devices)
      ( board_dma_initialize page_ports_plain_scratch, machine)
    (s.1.secondary.device.isr = some 0 → s.1.primary.device.isr ≠ none) ∧
      (BothEnabled s.1 →
        (∃ n ≤ 1310728, Idle ((board_dma_advance_transaction devices 1)^[n] s).1) ∧
        (Idle s.1 → board_dma_has_pending_request s.1 = true →
          ∃ channel, Granted s.1 (board_dma_advance_transaction devices 1 s).1 channel)) := by
  intro s
  have hheld : Held s.1 := run_held devices ops (Held.of_idle rfl) hops
  exact ⟨hheld, fun henabled => ⟨board_dma_advance_idle devices hheld henabled,
    fun hidle hpending => board_dma_advance_grants devices henabled hidle hpending⟩⟩

end Run

/-- Memory and devices that accept every cycle. -/
def accepting_devices : DmaDevices Unit where
  cycle _ s _ _ _ _ _ byte := (.ok, byte, s, [])
  terminal _ s _ _ := (s, [])

/-- Unmasks the cascade and programs a block transfer on channel 1 of the primary, which a
device requests; one tick grants it. -/
def block_transfer : List (DmaPairOp Unit) :=
  [.port_write 0xd4 0x00, .port_write 0x0b 0x85, .port_write 0x03 0xff, .port_write 0x03 0xff,
    .port_write 0x0a 0x01, .request (.assert 1), .advance 1]

/-- The block transfer is granted through the cascade, and then the bus is freed. -/
theorem board_dma_grant_held_block :
    let s := block_transfer.foldl (board_dma_apply accepting_devices)
      ( board_dma_initialize false, ())
    s.1.secondary.device.isr = some 0 ∧ s.1.primary.device.isr ≠ none ∧
      ∃ n ≤ 1310728, Idle ((board_dma_advance_transaction accepting_devices 1)^[n] s).1 := by
  intro s
  have hops : RunClearsSafely accepting_devices ( board_dma_initialize false, ())
      block_transfer := by
    simp [block_transfer, RunClearsSafely, OpClearsSafely, ClearsSafely]
  have h := board_dma_grant_held accepting_devices false () block_transfer hops
  have hcascade : s.1.secondary.device.isr = some 0 := by decide
  have henabled : BothEnabled s.1 := by
    unfold BothEnabled
    decide
  exact ⟨hcascade, h.1 hcascade, (h.2 henabled).1⟩

/-- A master clear of the primary during the block transfer, then a request on channel 5. -/
def cleared_transfer : List (DmaPairOp Unit) :=
  block_transfer ++
    [.port_write 0x0d 0x00, .port_write 0xd4 0x01, .request (.assert 5), .advance 1]

/-- However long the pair advances, the cascade channel stays in service, the primary serves
nothing and the request is not granted. -/
theorem board_dma_grant_stuck :
    let s := cleared_transfer.foldl (board_dma_apply accepting_devices)
      ( board_dma_initialize false, ())
    BothEnabled s.1 ∧ board_dma_has_pending_request s.1 = true ∧
      ∀ elapsed_ticks, Stuck (board_dma_advance_transaction accepting_devices elapsed_ticks s).1 := by
  intro s
  have hstuck : Stuck s.1 := by
    unfold Stuck
    decide
  have henabled : BothEnabled s.1 := by
    unfold BothEnabled
    decide
  exact ⟨henabled, by decide, fun elapsed_ticks =>
    board_dma_advance_stuck accepting_devices elapsed_ticks hstuck⟩

end Nxvm.BoardBase
