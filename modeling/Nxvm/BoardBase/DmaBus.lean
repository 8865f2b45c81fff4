/-
The two DMA controllers of the board (`dma_bus.h`, `dma_bus.c`).

The primary controller requests the bus through channel 0 of the secondary: a service of
the primary takes a grant of both chips, and one clock is given to one chip at a time.

Memory and the devices are a parameter. They answer a bus cycle, and while they do they
may assert and deassert requests and end the process, through the board's calls.
-/
import Mathlib.Data.Fin.VecNotation
import Nxvm.Chips.DmaService

set_option autoImplicit false

namespace Nxvm.BoardBase

open Nxvm.Lib Nxvm.Lib.Register Nxvm.Chips Nxvm.Machine

/-! ## The pair -/

/-- `t_dma`, without its links. -/
structure DmaController where
  device : Dma
  page : Table 4 U8

/-- `x86_nxvm_board_dma_bus` with two controllers. The spare and scratch registers are
those of the primary. -/
structure DmaPair where
  primary : DmaController
  secondary : DmaController
  page_spare : Table 8 U8
  page_scratch : Table 16 U8
  page_ports_plain_scratch : Bool

/-- Which controller a call is about. -/
inductive DmaSide where
  | primary
  | secondary
  deriving DecidableEq, Repr

def DmaPair.controller (pair : DmaPair) : DmaSide → DmaController
  | .primary => pair.primary
  | .secondary => pair.secondary

def DmaPair.device (pair : DmaPair) (side : DmaSide) : Dma := (pair.controller side).device

def DmaPair.set_device (pair : DmaPair) (side : DmaSide) (device : Dma) : DmaPair :=
  match side with
  | .primary => { pair with primary := { pair.primary with device } }
  | .secondary => { pair with secondary := { pair.secondary with device } }

def DmaPair.set_page (pair : DmaPair) (side : DmaSide) (channel : Fin 4) (value : U8) : DmaPair :=
  match side with
  | .primary =>
    { pair with primary := { pair.primary with
        page := Function.update pair.primary.page channel value } }
  | .secondary =>
    { pair with secondary := { pair.secondary with
        page := Function.update pair.secondary.page channel value } }

/-- What `x86_nxvm_board_dma_initialize` publishes for two controllers. -/
def board_dma_initialize (page_ports_plain_scratch : Bool) : DmaPair :=
  { primary := { device := dma_create, page := Table.fill 0 }
    secondary := { device := dma_create, page := Table.fill 0 }
    page_spare := Table.fill 0, page_scratch := Table.fill 0, page_ports_plain_scratch }

/-- `x86_nxvm_board_dma_update_cascade`: the primary asks for the bus. -/
def board_dma_update_cascade (pair : DmaPair) : DmaPair :=
  let signals := dma_get_signals pair.primary.device
  pair.set_device .secondary
    (dma_set_request pair.secondary.device 0
      (signals.enabled && (decide (signals.requests ≠ 0) || signals.active_channel.isSome)))

/-! ## Ports -/

/-- `dma_controller`. -/
def dma_controller (port_id : U16) : DmaSide :=
  if (0x89 ≤ port_id.toNat ∧ port_id.toNat ≤ 0x8f) ∨ 0xc0 ≤ port_id.toNat then .secondary
  else .primary

/-- `dma_page_channel`. -/
def dma_page_channel (port_id : U16) : Fin 4 :=
  if port_id = 0x81 ∨ port_id = 0x89 then 2
  else if port_id = 0x82 ∨ port_id = 0x8a then 3
  else if port_id = 0x83 ∨ port_id = 0x8b then 1
  else 0

/-- `dma_page_spare_index`. -/
def dma_page_spare_index (port_id : U16) : Fin 8 :=
  if port_id = 0x84 then 0
  else if port_id = 0x85 then 1
  else if port_id = 0x86 then 2
  else if port_id = 0x88 then 3
  else if port_id = 0x8c then 4
  else if port_id = 0x8d then 5
  else if port_id = 0x8e then 6
  else 7

/-- The ports of spare page registers. -/
def is_spare_port (port_id : U16) : Bool :=
  decide (port_id ∈ ([0x80, 0x84, 0x85, 0x86, 0x88, 0x8c, 0x8d, 0x8e] : List U16))

/-- The scratch register of a page port. -/
def page_scratch_index (port_id : U16) : Fin 16 :=
  ⟨port_id.toNat % 16, Nat.mod_lt _ (by decide)⟩

/-- The ports that `x86_nxvm_board_dma_initialize` routes for two controllers. -/
def dma_port_is_routed (port_id : U16) : Bool :=
  decide (port_id.toNat < 0x10) || decide (0x80 ≤ port_id.toNat ∧ port_id.toNat ≤ 0x8f) ||
    decide (0xc0 ≤ port_id.toNat ∧ port_id.toNat ≤ 0xde ∧ port_id.toNat % 2 = 0)

/-- The chip register of a port, past the page ports. -/
def dma_port_selector (port_id : U16) : U8 :=
  if 0xc0 ≤ port_id.toNat then BitVec.ofNat 8 ((port_id.toNat - 0xc0) / 2)
  else port_id.setWidth 8

/-- `dma_port_read`, for the byte it answers. -/
def dma_port_read (pair : DmaPair) (port_id : U16) (value : U8) : U8 × DmaPair :=
  if pair.page_ports_plain_scratch ∧ 0x80 ≤ port_id.toNat ∧ port_id.toNat ≤ 0x8f then
    (pair.page_scratch (page_scratch_index port_id), pair)
  else if port_id.toNat < 0x10 ∨ (0xc0 ≤ port_id.toNat ∧ port_id.toNat ≤ 0xde ∧
      port_id.toNat % 2 = 0) then
    let side := dma_controller port_id
    let read := dma_read_register (pair.device side) (dma_port_selector port_id) value
    (read.1, pair.set_device side read.2)
  else if is_spare_port port_id then (pair.page_spare (dma_page_spare_index port_id), pair)
  else if 0x81 ≤ port_id.toNat ∧ port_id.toNat ≤ 0x8f then
    ((pair.controller (dma_controller port_id)).page (dma_page_channel port_id), pair)
  else (value, pair)

/-- `dma_port_write`. -/
def dma_port_write (pair : DmaPair) (port_id : U16) (value : U8) : DmaPair :=
  if pair.page_ports_plain_scratch ∧ 0x80 ≤ port_id.toNat ∧ port_id.toNat ≤ 0x8f then
    { pair with page_scratch :=
        Function.update pair.page_scratch (page_scratch_index port_id) value }
  else if is_spare_port port_id then
    { pair with page_spare :=
        Function.update pair.page_spare (dma_page_spare_index port_id) value }
  else if 0x81 ≤ port_id.toNat ∧ port_id.toNat ≤ 0x8f then
    pair.set_page (dma_controller port_id) (dma_page_channel port_id) value
  else
    let side := if 0xc0 ≤ port_id.toNat then .secondary else .primary
    board_dma_update_cascade
      (pair.set_device side
        (dma_write_register (pair.device side) (dma_port_selector port_id) value))

/-! ## Requests -/

/-- A device's call, by the number of its channel on the board. -/
inductive DmaRequest where
  | assert (channel : Fin 8)
  | deassert (channel : Fin 8)
  | terminate (channel : Fin 8)
  deriving DecidableEq, Repr

/-- The chip of a channel of the board, and its channel there. -/
def request_side (channel : Fin 8) : DmaSide := if channel.val < 4 then .primary else .secondary

def request_channel (channel : Fin 8) : Fin 4 := ⟨channel.val % 4, Nat.mod_lt _ (by decide)⟩

/-- `x86_nxvm_board_dma_set_drq`. Channel 4 is the cascade and no device's. -/
def board_dma_set_drq (pair : DmaPair) (channel : Fin 8) (asserted : Bool) : DmaPair :=
  if channel = 4 then pair
  else
    board_dma_update_cascade
      (pair.set_device (request_side channel)
        (dma_set_request (pair.device (request_side channel)) (request_channel channel) asserted))

/-- `x86_nxvm_board_dma_request_terminate`. -/
def board_dma_request_terminate (pair : DmaPair) (channel : Fin 8) : DmaPair :=
  if channel = 4 then pair
  else
    let dma := pair.device (request_side channel)
    if (dma_get_signals dma).active_channel = some (request_channel channel) then
      pair.set_device (request_side channel) (dma_terminate dma)
    else pair

/-- `x86_nxvm_board_dma_request_assert`, `_deassert` and `_terminate`, with the pair's own
bindings. -/
def board_dma_request (pair : DmaPair) : DmaRequest → DmaPair
  | .assert channel => board_dma_set_drq pair channel true
  | .deassert channel => board_dma_set_drq pair channel false
  | .terminate channel => board_dma_request_terminate pair channel

/-! ## Cycles -/

/-- Memory and devices: the answer to a bus cycle at a physical address, and the call at a
terminal count, each with the requests made meanwhile. -/
structure DmaDevices (σ : Type) where
  cycle : DmaPair → σ → DmaSide → DmaCycle → Fin 4 → ℕ → ℕ → U8 →
    Status × U8 × σ × List DmaRequest
  terminal : DmaPair → σ → DmaSide → Fin 4 → σ × List DmaRequest

/-- The page register of a channel, where the boards with plain page ports keep it. -/
def page_index (side : DmaSide) (channel : Fin 4) : Fin 16 :=
  match side with
  | .primary => ![7, 3, 1, 2] channel
  | .secondary => ![15, 11, 9, 10] channel

/-- The physical address of a cycle. The secondary moves words, but for memory cycles. -/
def dma_physical (pair : DmaPair) (side : DmaSide) (word : Bool) (channel : Fin 4)
    (address : U16) : ℕ :=
  let page := if pair.page_ports_plain_scratch then pair.page_scratch (page_index side channel)
    else (pair.controller side).page channel
  if word then (page &&& 0xfe).toNat * 0x10000 + address.toNat * 2
  else page.toNat * 0x10000 + address.toNat

section Cycles

variable {σ : Type} (devices : DmaDevices σ)

/-- `dma_bus_cycle`, with the pair around the chip that asks. -/
def dma_bus_cycle (side : DmaSide) (kind : DmaCycle) (channel : Fin 4) (address : U16) (byte : U8)
    (pair : DmaPair) (s : σ) : Status × U8 × DmaPair × σ :=
  let memory_only := decide (kind = .memory_read) || decide (kind = .memory_write)
  let word := decide (side = .secondary) && !memory_only
  let answer := devices.cycle pair s side kind channel (dma_physical pair side word channel address)
    (if word then 2 else 1) byte
  let status := if kind = .verify then .ok else answer.1
  (status, if status = .ok ∧ kind = .memory_read then answer.2.1 else byte,
    answer.2.2.2.foldl board_dma_request pair, answer.2.2.1)

/-- `dma_bus_terminal`. -/
def dma_bus_terminal (side : DmaSide) (channel : Fin 4) (pair : DmaPair) (s : σ) : DmaPair × σ :=
  let answer := devices.terminal pair s side channel
  (answer.2.foldl board_dma_request pair, answer.1)

/-! ## Requests are inputs -/

theorem DmaPair.device_set_device (pair : DmaPair) (side side' : DmaSide) (device : Dma) :
    (pair.set_device side device).device side' =
      if side' = side then device else pair.device side' := by
  cases side <;> cases side' <;> rfl

theorem set_device_inputs {pair : DmaPair} {side : DmaSide} {device : Dma}
    (h : InputsOnly (pair.device side) device) (side' : DmaSide) :
    InputsOnly (pair.device side') ((pair.set_device side device).device side') := by
  rw [DmaPair.device_set_device]
  split_ifs with hside
  · rw [hside]
    exact h
  · exact InputsOnly.refl _

theorem board_dma_update_cascade_inputs (pair : DmaPair) (side : DmaSide) :
    InputsOnly (pair.device side) ((board_dma_update_cascade pair).device side) :=
  set_device_inputs ⟨_, _, rfl⟩ side

/-- A device's call changes inputs of the chips only. -/
theorem board_dma_request_inputs (pair : DmaPair) (request : DmaRequest) (side : DmaSide) :
    InputsOnly (pair.device side) ((board_dma_request pair request).device side) := by
  have hdrq (channel : Fin 8) (asserted : Bool) :
      InputsOnly (pair.device side) ((board_dma_set_drq pair channel asserted).device side) := by
    unfold board_dma_set_drq
    split_ifs
    · exact InputsOnly.refl _
    · exact (set_device_inputs ⟨_, _, rfl⟩ side).trans (board_dma_update_cascade_inputs _ side)
  cases request with
  | assert channel => exact hdrq channel true
  | deassert channel => exact hdrq channel false
  | terminate channel =>
    simp only [board_dma_request, board_dma_request_terminate]
    split_ifs
    · exact InputsOnly.refl _
    · exact set_device_inputs ⟨_, _, rfl⟩ side
    · exact InputsOnly.refl _

theorem requests_inputs (requests : List DmaRequest) (pair : DmaPair) (side : DmaSide) :
    InputsOnly (pair.device side) ((requests.foldl board_dma_request pair).device side) := by
  induction requests generalizing pair with
  | nil => exact InputsOnly.refl _
  | cons request requests ih => exact (board_dma_request_inputs pair request side).trans (ih _)

/-- The bus of one chip: the other chip, the devices and the board are the rest. -/
def pair_bus (side : DmaSide) : DmaBus (DmaPair × σ) where
  cycle kind channel address byte s :=
    match dma_bus_cycle devices side kind channel address byte (s.2.1.set_device side s.1) s.2.2 with
    | (status, byte, pair, devices) => (status, byte, pair.device side, pair, devices)
  terminal channel s :=
    match dma_bus_terminal devices side channel (s.2.1.set_device side s.1) s.2.2 with
    | (pair, devices) => (pair.device side, pair, devices)
  cycle_inputs kind channel address byte s := by
    have h (requests : List DmaRequest) :=
      requests_inputs requests (s.2.1.set_device side s.1) side
    rw [DmaPair.device_set_device, if_pos rfl] at h
    exact h _
  terminal_inputs channel s := by
    have h (requests : List DmaRequest) :=
      requests_inputs requests (s.2.1.set_device side s.1) side
    rw [DmaPair.device_set_device, if_pos rfl] at h
    exact h _

/-! ## Time -/

/-- `dma_bus_advance`. -/
def dma_bus_advance (side : DmaSide) (s : DmaPair × σ) : DmaPair × σ :=
  match dma_advance (pair_bus devices side) (s.1.device side, s) with
  | (dma, pair, devices) => (pair.set_device side dma, devices)

/-- The grant of the primary that goes with the cascade grant. There is a request then. -/
def grant_primary (pair : DmaPair) (requests : U8) : DmaPair :=
  match dma_select pair.primary.device requests with
  | some channel => pair.set_device .primary (dma_grant pair.primary.device channel false)
  | none => pair

/-- The requests that arbitration sees: the secondary's own, and its cascade when the primary
has a request for it. -/
def arbitration_requests (pair : DmaPair) : U8 :=
  let first := dma_get_signals pair.primary.device
  let second := dma_get_signals pair.secondary.device
  (second.requests &&& 0x0e) |||
    (if first.enabled && decide (first.requests ≠ 0) then second.requests &&& 1 else 0)

/-- The arbitration of `x86_nxvm_board_dma_advance_one`, when no channel is in service. -/
def board_dma_arbitrate (pair : DmaPair) : DmaPair :=
  match dma_select pair.secondary.device (arbitration_requests pair) with
  | none => pair
  | some channel =>
    let granted := pair.set_device .secondary
      (dma_grant pair.secondary.device channel (decide (channel = 0)))
    if channel = 0 then grant_primary granted (dma_get_signals pair.primary.device).requests
    else granted

/-- `x86_nxvm_board_dma_advance_one`. -/
def board_dma_advance_one (s : DmaPair × σ) : DmaPair × σ :=
  let first := dma_get_signals s.1.primary.device
  let second := dma_get_signals s.1.secondary.device
  if !second.enabled then s
  else
    match second.active_channel with
    | some channel =>
      if channel ≠ 0 then dma_bus_advance devices .secondary s
      else if first.enabled && first.active_channel.isSome then
        let s := dma_bus_advance devices .primary s
        if (dma_get_signals s.1.primary.device).active_channel = none then
          (s.1.set_device .secondary (dma_release s.1.secondary.device), s.2)
        else s
      else s
    | none =>
      if first.enabled && first.active_channel.isSome then dma_bus_advance devices .primary s
      else (board_dma_arbitrate s.1, s.2)

/-- `x86_nxvm_board_dma_has_pending_request`. -/
def board_dma_has_pending_request (pair : DmaPair) : Bool :=
  let first := dma_get_signals pair.primary.device
  let second := dma_get_signals pair.secondary.device
  second.enabled &&
    (second.active_channel.isSome || decide (second.requests &&& 0x0e ≠ 0) ||
      (first.enabled && (first.active_channel.isSome || decide (first.requests ≠ 0)) &&
        decide (second.requests &&& 1 ≠ 0)))

/-- Nothing is requested and nothing in service. -/
def board_dma_is_quiet (pair : DmaPair) : Bool :=
  let first := dma_get_signals pair.primary.device
  let second := dma_get_signals pair.secondary.device
  decide (first.requests = 0) && first.active_channel.isNone &&
    decide (second.requests = 0) && second.active_channel.isNone

/-- One round of `x86_nxvm_board_dma_advance_transaction`. -/
def board_dma_tick (s : DmaPair × σ) : DmaPair × σ :=
  let s := board_dma_advance_one devices s
  (board_dma_update_cascade s.1, s.2)

/-- `x86_nxvm_board_dma_advance_transaction`. It stops early on a quiet pair. -/
def board_dma_advance_transaction : ℕ → DmaPair × σ → DmaPair × σ
  | 0, s => s
  | elapsed_ticks + 1, s =>
    let s := board_dma_tick devices s
    if 0 < elapsed_ticks ∧ board_dma_is_quiet s.1 then s
    else board_dma_advance_transaction elapsed_ticks s

/-- `x86_nxvm_board_dma_reset`. -/
def board_dma_reset (pair : DmaPair) : DmaPair :=
  { pair with
    primary := { device := dma_reset pair.primary.device, page := Table.fill 0 }
    secondary := { device := dma_reset pair.secondary.device, page := Table.fill 0 }
    page_spare := Table.fill 0, page_scratch := Table.fill 0 }

/-! ## Operations -/

/-- What can happen to the pair: a guest's access to a routed port, a device's call, time, a
reset, and anything at all in the rest of the machine. -/
inductive DmaPairOp (σ : Type) where
  | port_write (port_id : U16) (value : U8)
  | port_read (port_id : U16) (value : U8)
  | request (request : DmaRequest)
  | advance (elapsed_ticks : ℕ)
  | reset
  | machine (s : σ)

/-- The pair and the rest of the machine afterwards. -/
def board_dma_apply (s : DmaPair × σ) : DmaPairOp σ → DmaPair × σ
  | .port_write port_id value =>
    (if dma_port_is_routed port_id then dma_port_write s.1 port_id value else s.1, s.2)
  | .port_read port_id value =>
    (if dma_port_is_routed port_id then (dma_port_read s.1 port_id value).2 else s.1, s.2)
  | .request request => (board_dma_request s.1 request, s.2)
  | .advance elapsed_ticks => board_dma_advance_transaction devices elapsed_ticks s
  | .reset => (board_dma_reset s.1, s.2)
  | .machine s' => (s.1, s')

end Cycles

end Nxvm.BoardBase
