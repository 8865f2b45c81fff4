/-
A whole transfer of a DMA channel (`dma.c`).

A channel is programmed with an address and a count, and its device keeps its request. Clock by
clock, with a grant whenever the chip is idle, the transfers follow one after the other from
the address on, one more than the count; then the terminal count is signalled. What is carried
along is the address and the count that are left.
-/
import Nxvm.Chips.DmaSelect
import Nxvm.Chips.DmaService

set_option autoImplicit false

namespace Nxvm.Chips

open Nxvm.Lib Nxvm.Lib.Register Nxvm.Machine

/-! ## What a chip does on its bus -/

/-- A call of the bus. -/
inductive DmaEvent where
  | cycle (kind : DmaCycle) (channel : Fin 4) (address : U16)
  | terminal (channel : Fin 4)
  deriving DecidableEq

section Transfer

variable {κ : Type}

/-- A bus with a record of its calls. -/
def recorded (bus : DmaBus κ) : DmaBus (κ × List DmaEvent) where
  cycle kind channel address byte s :=
    match bus.cycle kind channel address byte (s.1, s.2.1) with
    | (status, byte, dma, k) => (status, byte, dma, k, s.2.2 ++ [.cycle kind channel address])
  terminal channel s :=
    match bus.terminal channel (s.1, s.2.1) with
    | (dma, k) => (dma, k, s.2.2 ++ [.terminal channel])
  cycle_inputs kind channel address byte s :=
    bus.cycle_inputs kind channel address byte (s.1, s.2.1)
  terminal_inputs channel s := bus.terminal_inputs channel (s.1, s.2.1)

/-- A clock of a chip in service; an idle one is granted the pending channel it selects. -/
def dma_step (bus : DmaBus κ) (cascade : Bool) (s : Dma × κ) : Dma × κ :=
  match s.1.isr with
  | some _ => dma_advance bus s
  | none =>
    match dma_select s.1 (dma_pending_requests s.1) with
    | some channel => (dma_grant s.1 channel cascade, s.2)
    | none => s

/-! ## The device and the program -/

/-- The device of a channel asserts its request, and no other channel is pending. -/
structure Requests (channel : Fin 4) (dma : Dma) : Prop where
  asserted : is_set dma.status (status_drq channel) = true
  others : ∀ other, other ≠ channel → (dma_pending_requests dma).getLsbD other.val = false

/-- The cycles of a channel succeed; its device keeps the request and does not end the process. -/
structure Steady (bus : DmaBus κ) (channel : Fin 4) : Prop where
  ok : ∀ kind address byte s, (bus.cycle kind channel address byte s).1 = .ok
  cycle_requests : ∀ kind address byte s, Requests channel s.1 →
    Requests channel (bus.cycle kind channel address byte s).2.2.1
  cycle_eop : ∀ kind address byte s,
    (bus.cycle kind channel address byte s).2.2.1.flagEOP = s.1.flagEOP
  terminal_requests : ∀ s, Requests channel s.1 → Requests channel (bus.terminal channel s).1

/-- A channel that transfers for its device: in single or block mode, and not masked. -/
structure Programmed (start : Dma) (channel : Fin 4) (kind : DmaCycle) : Prop where
  mode : (start.mode channel &&& 0xc0) >>> 6 = 1 ∨ (start.mode channel &&& 0xc0) >>> 6 = 2
  kind : transfer_kind (start.mode channel) = some kind
  own : is_memory_to_memory start channel = false
  mask : is_set start.mask (drq channel) = false

/-- The address after a transfer. -/
def stepped (down : Bool) (address : U16) : U16 := if down then address - 1 else address + 1

/-- The direction of a channel. -/
def goes_down (dma : Dma) (channel : Fin 4) : Bool := is_set (dma.mode channel) mode_aids

/-- Between two transfers: the program is that of the start, and so much is left of it. -/
structure Transferring (start : Dma) (channel : Fin 4) (address count : U16) (dma : Dma) :
    Prop where
  mode : dma.mode = start.mode
  command : dma.command = start.command
  request : dma.request = start.request
  mask : dma.mask = start.mask
  baseAddr : dma.baseAddr = start.baseAddr
  baseCount : dma.baseCount = start.baseCount
  address : dma.currAddr channel = address
  count : dma.currCount channel = count
  flagEOP : dma.flagEOP = false
  requests : Requests channel dma
  isr : dma.isr = none ∨ dma.isr = some channel ∧ dma.phase ≠ .idle

/-- After the terminal count. -/
structure Completed (start : Dma) (channel : Fin 4) (dma : Dma) : Prop where
  isr : dma.isr = none
  flagEOP : dma.flagEOP = false
  mode : dma.mode = start.mode
  command : dma.command = start.command
  request : dma.request = start.request &&& ~~~drq channel
  baseAddr : dma.baseAddr = start.baseAddr
  baseCount : dma.baseCount = start.baseCount
  tc : is_set dma.status (drq channel) = true
  reloaded : is_set (start.mode channel) mode_ai = true →
    dma.currAddr channel = start.baseAddr channel ∧
      dma.currCount channel = start.baseCount channel ∧ dma.mask = start.mask
  masked : is_set (start.mode channel) mode_ai = false → is_set dma.mask (drq channel) = true
  requests : Requests channel dma

/-! ## One transfer -/

variable {bus : DmaBus κ} {channel : Fin 4} {kind : DmaCycle} {start dma : Dma}
  {address count : U16}

theorem transfer_of_ok {s : Dma × κ} {byte : U8} {k : κ}
    (h : bus.cycle kind channel (s.1.currAddr channel) 0 s = (.ok, byte, dma, k)) :
    transfer bus kind channel s =
      (true, { count_down dma channel with
        currAddr := next_address (count_down dma channel) channel }, k) := by
  rw [transfer, h]
  rfl

/-- A transfer is a cycle at the address, and counts. -/
theorem transmission_recorded (hsteady : Steady bus channel)
    (hkind : transfer_kind (dma.mode channel) = some kind) (hrequests : Requests channel dma)
    (hEOP : dma.flagEOP = false) (k : κ) (log : List DmaEvent) :
    ∃ status k', Requests channel { dma with status := status } ∧
      transmission (recorded bus) channel (dma, k, log) =
        (true,
          { dma with
            status := status
            currCount := Function.update dma.currCount channel (dma.currCount channel - 1)
            flagEOP := decide (dma.currCount channel = 0)
            currAddr := Function.update dma.currAddr channel
              (stepped (goes_down dma channel) (dma.currAddr channel)) },
          k', log ++ [.cycle kind channel (dma.currAddr channel)]) := by
  have hok := hsteady.ok kind (dma.currAddr channel) 0 (dma, k)
  have hkeeps := hsteady.cycle_requests kind (dma.currAddr channel) 0 (dma, k) hrequests
  have heop := hsteady.cycle_eop kind (dma.currAddr channel) 0 (dma, k)
  have hinputs := bus.cycle_inputs kind channel (dma.currAddr channel) 0 (dma, k)
  obtain ⟨status, flagEOP, hdma⟩ := hinputs
  cases hanswer : bus.cycle kind channel (dma.currAddr channel) 0 (dma, k) with
  | mk answered rest =>
    obtain ⟨byte, dma', k'⟩ := rest
    simp only [hanswer] at hok hkeeps heop hdma
    subst hok hdma
    have hcall : (recorded bus).cycle kind channel (dma.currAddr channel) 0 (dma, k, log) =
        (.ok, byte, { dma with status := status, flagEOP := flagEOP }, k',
          log ++ [.cycle kind channel (dma.currAddr channel)]) := by
      change (match bus.cycle kind channel (dma.currAddr channel) 0 (dma, k) with
        | (status, byte, dma', k') =>
          (status, byte, dma', k', log ++ [DmaEvent.cycle kind channel (dma.currAddr channel)])) = _
      rw [hanswer]
    refine ⟨status, k', ⟨hkeeps.asserted, hkeeps.others⟩, ?_⟩
    have hwrap : dma.currCount channel - 1 = 0xffff ↔ dma.currCount channel = 0 := by
      constructor
      · intro h
        bv_omega
      · intro h
        rw [h]
        rfl
    rw [transmission, hkind]
    refine (transfer_of_ok hcall).trans ?_
    simp only [count_down, next_address, hwrap]
    have hclear : flagEOP = false := heop.trans hEOP
    rw [stepped, goes_down, hclear]
    by_cases hzero : dma.currCount channel = 0
    · simp [hzero]
    · simp

/-- The end of a process without the end of process. -/
theorem execute_end_open {s : Dma × κ} (h : s.1.flagEOP = false) :
    execute_end bus channel false s = s := by
  rw [execute_end, h]
  simp only [Bool.false_eq_true, if_false]
  obtain ⟨dma, k⟩ := s
  simp only at h
  rw [← h]

/-- The lines of a channel and of another one. -/
theorem getLsbD_drq_other {other : Fin 4} (h : other ≠ channel) :
    (drq channel).getLsbD other.val = false := by
  rw [getLsbD_drq]
  simp [h]

/-- The pending lines of the other channels depend on their own bits, the modes and the
command. -/
theorem pending_other {dma' : Dma} {other : Fin 4}
    (hstatus : is_set dma'.status (status_drq other) = is_set dma.status (status_drq other))
    (hmask : is_set dma'.mask (drq other) = is_set dma.mask (drq other))
    (hrequest : is_set dma'.request (drq other) = is_set dma.request (drq other))
    (hmode : dma'.mode = dma.mode) (hcommand : dma'.command = dma.command) :
    (dma_pending_requests dma').getLsbD other.val =
      (dma_pending_requests dma).getLsbD other.val := by
  rw [dma_pending_requests_line, dma_pending_requests_line, hstatus, hmask,
    dma_software_request_is_valid, dma_software_request_is_valid, hrequest, hmode, hcommand]

theorem is_set_or_drq (x : U8) {other : Fin 4} (h : other ≠ channel) :
    is_set (x ||| drq channel) (drq other) = is_set x (drq other) := by
  rw [is_set_drq, is_set_drq, BitVec.getLsbD_or, getLsbD_drq_other h, Bool.or_false]

theorem is_set_clear_drq (x : U8) {other : Fin 4} (h : other ≠ channel) :
    is_set (x &&& ~~~drq channel) (drq other) = is_set x (drq other) := by
  have hother : other.val < 8 := by omega
  rw [is_set_drq, is_set_drq, BitVec.getLsbD_and, BitVec.getLsbD_not, getLsbD_drq_other h]
  simp [hother]

theorem is_set_or_drq_self (x : U8) : is_set (x ||| drq channel) (drq channel) = true := by
  rw [is_set_drq, BitVec.getLsbD_or, getLsbD_drq]
  simp

theorem is_set_status_or_drq (x : U8) (other : Fin 4) :
    is_set (x ||| drq channel) (status_drq other) = is_set x (status_drq other) := by
  have hnone : (drq channel).getLsbD (other.val + 4) = false := by
    revert channel other
    decide
  rw [is_set_status_drq, is_set_status_drq, BitVec.getLsbD_or, hnone, Bool.or_false]

/-- The requests stay, whatever happens to the request and the mask of the channel itself. -/
theorem Requests.of_channel (h : Requests channel dma) (dma' : Dma)
    (hstatus : ∀ other, is_set dma'.status (status_drq other) =
      is_set dma.status (status_drq other))
    (hmask : ∀ other, other ≠ channel →
      is_set dma'.mask (drq other) = is_set dma.mask (drq other))
    (hrequest : ∀ other, other ≠ channel →
      is_set dma'.request (drq other) = is_set dma.request (drq other))
    (hmode : dma'.mode = dma.mode) (hcommand : dma'.command = dma.command) :
    Requests channel dma' where
  asserted := (hstatus channel).trans h.asserted
  others other hother := by
    rw [pending_other (hstatus other) (hmask other hother) (hrequest other hother) hmode
      hcommand]
    exact h.others other hother

/-- The terminal count completes the process. -/
theorem execute_end_completes (hsteady : Steady bus channel)
    (hEOP : dma.flagEOP = true) (hrequests : Requests channel dma) (k : κ)
    (log : List DmaEvent) (hmode : dma.mode = start.mode) (hcommand : dma.command = start.command)
    (hrequest : dma.request = start.request) (hmask : dma.mask = start.mask)
    (hbaseAddr : dma.baseAddr = start.baseAddr) (hbaseCount : dma.baseCount = start.baseCount) :
    ∃ dma' k', execute_end (recorded bus) channel false (dma, k, log) =
        (dma', k', log ++ [.terminal channel]) ∧
      Completed start channel dma' := by
  have hreleased : Requests channel
      { dma_release dma with request := (dma_release dma).request &&& ~~~drq channel } :=
    hrequests.of_channel _ (fun _ => rfl) (fun _ _ => rfl)
      (fun _ hother => is_set_clear_drq _ hother) rfl rfl
  have hterminal := hsteady.terminal_requests
    ({ dma_release dma with request := (dma_release dma).request &&& ~~~drq channel }, k) hreleased
  have hinputs := bus.terminal_inputs channel
    ({ dma_release dma with request := (dma_release dma).request &&& ~~~drq channel }, k)
  obtain ⟨status, flagEOP, hdma⟩ := hinputs
  cases hanswer : bus.terminal channel
      ({ dma_release dma with request := (dma_release dma).request &&& ~~~drq channel }, k) with
  | mk dma' k' =>
    simp only [hanswer] at hterminal hdma
    subst hdma
    have hcall : (recorded bus).terminal channel
        ({ dma_release dma with request := (dma_release dma).request &&& ~~~drq channel },
          k, log) =
        ({ dma_release dma with
          request := (dma_release dma).request &&& ~~~drq channel
          status := status, flagEOP := flagEOP }, k', log ++ [.terminal channel]) := by
      change (match bus.terminal channel ({ dma_release dma with
          request := (dma_release dma).request &&& ~~~drq channel }, k) with
        | (dma', k') => (dma', k', log ++ [DmaEvent.terminal channel])) = _
      rw [hanswer]
    have hloop : complete_channel (recorded bus) (dma_release dma, k, log) channel =
        (if is_set (dma.mode channel) mode_ai then
          { dma_release dma with
            request := (dma_release dma).request &&& ~~~drq channel
            status := status
            flagEOP := flagEOP
            currAddr := Function.update dma.currAddr channel (dma.baseAddr channel)
            currCount := Function.update dma.currCount channel (dma.baseCount channel) }
        else
          { dma_release dma with
            request := (dma_release dma).request &&& ~~~drq channel
            status := status
            flagEOP := flagEOP
            mask := dma.mask ||| drq channel },
          k', log ++ [.terminal channel]) := by
      rw [complete_channel, hcall]
      simp only
      split
      · rename_i hai
        have hai' : is_set (dma.mode channel) mode_ai = true := hai
        rw [if_pos hai']
        rfl
      · rename_i hai
        have hai' : ¬ is_set (dma.mode channel) mode_ai = true := hai
        rw [if_neg hai']
        rfl
    simp only [execute_end, hEOP, if_true, dma_complete_transfer, Bool.false_eq_true, if_false,
      List.foldl_cons, List.foldl_nil, hloop]
    refine ⟨_, k', rfl, ?_⟩
    cases hai : is_set (dma.mode channel) mode_ai with
    | true =>
      simp only [if_true]
      have hrequests' := hterminal.of_channel
        { dma_release dma with
          request := (dma_release dma).request &&& ~~~drq channel
          status := status ||| drq channel
          flagEOP := false
          currAddr := Function.update dma.currAddr channel (dma.baseAddr channel)
          currCount := Function.update dma.currCount channel (dma.baseCount channel) }
        (fun other => is_set_status_or_drq status other) (fun _ _ => rfl) (fun _ _ => rfl) rfl rfl
      refine ⟨rfl, rfl, hmode, hcommand, ?_, hbaseAddr, hbaseCount, is_set_or_drq_self status,
        fun _ => ⟨?_, ?_, hmask⟩, fun hoff => ?_, hrequests'⟩
      · change dma.request &&& ~~~drq channel = _
        rw [hrequest]
      · change Function.update dma.currAddr channel (dma.baseAddr channel) channel = _
        rw [Function.update_self, hbaseAddr]
      · change Function.update dma.currCount channel (dma.baseCount channel) channel = _
        rw [Function.update_self, hbaseCount]
      · rw [← hmode, hai] at hoff
        cases hoff
    | false =>
      simp only [Bool.false_eq_true, if_false]
      have hrequests' := hterminal.of_channel
        { dma_release dma with
          request := (dma_release dma).request &&& ~~~drq channel
          status := status ||| drq channel
          flagEOP := false
          mask := dma.mask ||| drq channel }
        (fun other => is_set_status_or_drq status other) (fun _ hother => is_set_or_drq _ hother)
        (fun _ _ => rfl) rfl rfl
      refine ⟨rfl, rfl, hmode, hcommand, ?_, hbaseAddr, hbaseCount, is_set_or_drq_self status,
        fun hon => ?_, fun _ => is_set_or_drq_self _, hrequests'⟩
      · change dma.request &&& ~~~drq channel = _
        rw [hrequest]
      · rw [← hmode, hai] at hon
        cases hon

/-! ## `Execute` -/

/-- A rotation does not matter to the transfers. -/
theorem Transferring.rotated (h : Transferring start channel address count dma) (drx : Fin 4) :
    Transferring start channel address count { dma with drx := drx } :=
  ⟨h.mode, h.command, h.request, h.mask, h.baseAddr, h.baseCount, h.address, h.count, h.flagEOP,
    ⟨h.requests.asserted, h.requests.others⟩, h.isr⟩

/-- What a transfer leaves: the address and the count of the next one. -/
theorem transferring_transmission (hsteady : Steady bus channel)
    (hprogrammed : Programmed start channel kind)
    (h : Transferring start channel address count dma) (k : κ) (log : List DmaEvent) :
    ∃ dma' k', transmission (recorded bus) channel (dma, k, log) =
        (true, dma', k', log ++ [.cycle kind channel address]) ∧
      Transferring start channel (stepped (goes_down start channel) address) (count - 1)
        { dma' with flagEOP := false } ∧
      dma'.flagEOP = decide (count = 0) ∧ dma'.isr = dma.isr ∧ dma'.phase = dma.phase := by
  have hkind : transfer_kind (dma.mode channel) = some kind := by
    rw [h.mode]
    exact hprogrammed.kind
  obtain ⟨status, k', hrequests, hcall⟩ :=
    transmission_recorded hsteady hkind h.requests h.flagEOP k log
  have hdown : goes_down dma channel = goes_down start channel := by
    rw [goes_down, goes_down, h.mode]
  rw [h.address, h.count, hdown] at hcall
  refine ⟨_, k', hcall, ?_, rfl, rfl, rfl⟩
  exact ⟨h.mode, h.command, h.request, h.mask, h.baseAddr, h.baseCount, Function.update_self _ _ _,
    Function.update_self _ _ _, rfl, ⟨hrequests.asserted, hrequests.others⟩, h.isr⟩

/-- A release leaves the transfers that remain. -/
theorem Transferring.released (h : Transferring start channel address count dma) :
    Transferring start channel address count (dma_release dma) :=
  ⟨h.mode, h.command, h.request, h.mask, h.baseAddr, h.baseCount, h.address, h.count, h.flagEOP,
    ⟨h.requests.asserted, h.requests.others⟩, .inl rfl⟩

/-- The mode of a channel that is programmed for its device executes a transfer: a single one
releases the bus before the end, a block keeps it. -/
theorem execute_mode_transfer (hprogrammed : Programmed start channel kind)
    (h : Transferring start channel address count dma) (request_asserted : Bool)
    {bus : DmaBus κ} {k : κ} {after : Dma × κ}
    (hcall : transmission bus channel (dma, k) = (true, after)) :
    execute_mode bus channel request_asserted (dma, k) =
      if after.1.flagEOP = false ∧ (start.mode channel &&& 0xc0) >>> 6 = 1 then
        execute_end bus channel false (dma_release after.1, after.2)
      else execute_end bus channel false after := by
  have hmode : dma.mode channel = start.mode channel := congrFun h.mode channel
  have hEOP := h.flagEOP
  have hone : (start.mode channel &&& 0xc0) >>> 6 = 1 ∨ (start.mode channel &&& 0xc0) >>> 6 = 2 :=
    hprogrammed.mode
  rw [execute_mode]
  simp only [hmode]
  cases hone with
  | inl hsingle =>
    rw [hsingle]
    simp only [execute_single, execute_transfer, hEOP, hcall, Bool.not_false, if_true]
    cases after.1.flagEOP with
    | true => rfl
    | false => rfl
  | inr hblock =>
    rw [hblock]
    simp only [execute_block, execute_transfer, hEOP, hcall, Bool.not_false, if_true]
    rw [if_neg (by decide), if_neg (by decide), if_neg (fun hfirst => absurd hfirst.2 (by decide))]

/-- The service of a device is a transfer of its channel. -/
theorem execute_own (hprogrammed : Programmed start channel kind)
    (h : Transferring start channel address count dma) (bus : DmaBus κ) (k : κ) :
    ∃ drx request_asserted, execute bus channel (dma, k) =
      execute_mode bus channel request_asserted ({ dma with drx := drx }, k) := by
  have hown : is_memory_to_memory dma channel = false := by
    rw [is_memory_to_memory_congr h.request h.command]
    exact hprogrammed.own
  simp only [execute, hown, Bool.false_eq_true, if_false]
  by_cases hrotates : is_set dma.command command_r = true
  · rw [if_pos hrotates]
    exact ⟨channel + 1, _, rfl⟩
  · rw [if_neg hrotates]
    exact ⟨dma.drx, _, rfl⟩

/-- A transfer with a count left. -/
theorem execute_transfers (hsteady : Steady bus channel)
    (hprogrammed : Programmed start channel kind)
    (h : Transferring start channel address count dma) (hcount : count ≠ 0) (k : κ)
    (log : List DmaEvent) :
    ∃ dma' k', execute (recorded bus) channel (dma, k, log) =
        (dma', k', log ++ [.cycle kind channel address]) ∧
      Transferring start channel (stepped (goes_down start channel) address) (count - 1) dma' ∧
      (dma'.isr = none ∨ dma'.isr = dma.isr ∧ dma'.phase = dma.phase) := by
  obtain ⟨drx, request_asserted, hown⟩ :=
    execute_own hprogrammed h (recorded bus) (k, log)
  obtain ⟨dma', k', hcall, hleft, heop, hisr, hphase⟩ :=
    transferring_transmission hsteady hprogrammed (h.rotated drx) k log
  have hopen : dma'.flagEOP = false := heop.trans (decide_eq_false hcount)
  have hleft' : Transferring start channel (stepped (goes_down start channel) address)
      (count - 1) dma' := by
    rw [← hopen] at hleft
    exact hleft
  rw [hown, execute_mode_transfer hprogrammed (h.rotated drx) _ hcall]
  split
  · refine ⟨dma_release dma', k', ?_, hleft'.released, .inl rfl⟩
    exact execute_end_open (s := (dma_release dma', k', _)) hopen
  · refine ⟨dma', k', ?_, hleft', .inr ⟨hisr, hphase⟩⟩
    exact execute_end_open (s := (dma', k', _)) hopen

/-- The last transfer. -/
theorem execute_completes (hsteady : Steady bus channel)
    (hprogrammed : Programmed start channel kind)
    (h : Transferring start channel address 0 dma) (k : κ) (log : List DmaEvent) :
    ∃ dma' k', execute (recorded bus) channel (dma, k, log) =
        (dma', k', log ++ [.cycle kind channel address, .terminal channel]) ∧
      Completed start channel dma' := by
  obtain ⟨drx, request_asserted, hown⟩ :=
    execute_own hprogrammed h (recorded bus) (k, log)
  obtain ⟨dma', k', hcall, hleft, heop, -, -⟩ :=
    transferring_transmission hsteady hprogrammed (h.rotated drx) k log
  have hclosed : dma'.flagEOP = true := heop.trans (decide_eq_true rfl)
  rw [hown, execute_mode_transfer hprogrammed (h.rotated drx) _ hcall,
    if_neg (fun hopen => by simp [hclosed] at hopen)]
  obtain ⟨done, k'', hend, hcompleted⟩ := execute_end_completes hsteady hclosed
    ⟨hleft.requests.asserted, hleft.requests.others⟩ k' (log ++ [.cycle kind channel address])
    hleft.mode hleft.command hleft.request hleft.mask hleft.baseAddr hleft.baseCount
  refine ⟨done, k'', ?_, hcompleted⟩
  rw [hend, List.append_assoc]
  rfl

/-! ## Clocks -/

/-- Clocks until the next transfer, its own included: an idle chip is granted first. -/
def clocks_left (dma : Dma) : ℕ :=
  match dma.isr with
  | none => 5
  | some _ => phase_left dma.phase

/-- The only request is granted. -/
theorem dma_step_grant {bus : DmaBus κ} (hprogrammed : Programmed start channel kind)
    (h : Transferring start channel address count dma) (hidle : dma.isr = none) (cascade : Bool)
    (k : κ) :
    dma_step bus cascade (dma, k) = (dma_grant dma channel cascade, k) := by
  have hpending : (dma_pending_requests dma).getLsbD channel.val = true := by
    rw [dma_pending_requests_line, h.requests.asserted, h.mask, hprogrammed.mask]
    rfl
  have hselect := dma_select_only hpending h.requests.others
  simp only [dma_step, hidle, hselect]

theorem Transferring.granted (h : Transferring start channel address count dma)
    (hidle : dma.isr = none) (cascade : Bool) :
    Transferring start channel address count (dma_grant dma channel cascade) ∧
      clocks_left (dma_grant dma channel cascade) < clocks_left dma := by
  have hphase : (dma_grant dma channel cascade).phase = .s1 ∨
      (dma_grant dma channel cascade).phase = .s11 := by
    simp only [dma_grant]
    split
    · exact .inr rfl
    · exact .inl rfl
  have hisr : (dma_grant dma channel cascade).isr = some channel := rfl
  constructor
  · refine ⟨h.mode, h.command, h.request, h.mask, h.baseAddr, h.baseCount, h.address, h.count,
      h.flagEOP, ⟨h.requests.asserted, h.requests.others⟩, .inr ⟨rfl, ?_⟩⟩
    cases hphase with
    | inl h1 =>
      rw [h1]
      decide
    | inr h11 =>
      rw [h11]
      decide
  · rw [clocks_left, clocks_left, hidle, hisr]
    exact Nat.lt_succ_of_le (phase_left_le _)

/-- A clock that only goes to the next state of the chip. -/
theorem Transferring.next_phase (h : Transferring start channel address count dma)
    (hisr : dma.isr = some channel) {phase : DmaPhase} (hphase : phase ≠ .idle)
    (hleft : phase_left phase < phase_left dma.phase) :
    Transferring start channel address count { dma with phase := phase } ∧
      clocks_left { dma with phase := phase } < clocks_left dma := by
  constructor
  · exact ⟨h.mode, h.command, h.request, h.mask, h.baseAddr, h.baseCount, h.address, h.count,
      h.flagEOP, ⟨h.requests.asserted, h.requests.others⟩, .inr ⟨hisr, hphase⟩⟩
  · rw [clocks_left, clocks_left, hisr]
    exact hleft

/-- Whatever state follows a transfer, the next one is left. -/
theorem Transferring.after_transfer (h : Transferring start channel address count dma)
    {phase : DmaPhase} (hphase : phase ≠ .idle) (hisr : dma.isr = none ∨ dma.isr = some channel) :
    Transferring start channel address count { dma with phase := phase } :=
  ⟨h.mode, h.command, h.request, h.mask, h.baseAddr, h.baseCount, h.address, h.count, h.flagEOP,
    ⟨h.requests.asserted, h.requests.others⟩, hisr.imp_right fun hisr => ⟨hisr, hphase⟩⟩

/-- A step of a transfer: to a state nearer to the next cycle, or that cycle. -/
theorem dma_step_transferring (hsteady : Steady bus channel)
    (hprogrammed : Programmed start channel kind)
    (h : Transferring start channel address count dma) (cascade : Bool) (k : κ)
    (log : List DmaEvent) :
    (∃ dma', dma_step (recorded bus) cascade (dma, k, log) = (dma', k, log) ∧
      Transferring start channel address count dma' ∧ clocks_left dma' < clocks_left dma) ∨
    (count ≠ 0 ∧ ∃ dma' k', dma_step (recorded bus) cascade (dma, k, log) =
        (dma', k', log ++ [.cycle kind channel address]) ∧
      Transferring start channel (stepped (goes_down start channel) address) (count - 1) dma') ∨
    (count = 0 ∧ ∃ dma' k', dma_step (recorded bus) cascade (dma, k, log) =
        (dma', k', log ++ [.cycle kind channel address, .terminal channel]) ∧
      Completed start channel dma') := by
  cases h.isr with
  | inl hidle =>
    obtain ⟨hgranted, hleft⟩ := h.granted hidle cascade
    exact .inl ⟨_, dma_step_grant hprogrammed h hidle cascade (k, log), hgranted, hleft⟩
  | inr hserved =>
    obtain ⟨hisr, hnotidle⟩ := hserved
    have hadvance : dma_step (recorded bus) cascade (dma, k, log) =
        dma_advance (recorded bus) (dma, k, log) := by
      simp only [dma_step, hisr]
    -- the clocks between two transfers
    have hnext (phase : DmaPhase) (hphase : phase ≠ .idle)
        (hleft : phase_left phase < phase_left dma.phase)
        (hstep : dma_advance (recorded bus) (dma, k, log) = ({ dma with phase := phase }, k, log)) :
        ∃ dma', dma_step (recorded bus) cascade (dma, k, log) = (dma', k, log) ∧
          Transferring start channel address count dma' ∧ clocks_left dma' < clocks_left dma := by
      obtain ⟨hstays, hless⟩ := h.next_phase hisr hphase hleft
      exact ⟨_, hadvance.trans hstep, hstays, hless⟩
    -- the clock of a transfer, with the state that the source chooses after it
    have htransfer (next : DmaPhase)
        (hnext : (execute (recorded bus) channel (dma, k, log)).1.phase = dma.phase →
          next ≠ .idle)
        (hstep : dma_advance (recorded bus) (dma, k, log) =
          if (execute (recorded bus) channel (dma, k, log)).1.isr.isSome then
            ({ (execute (recorded bus) channel (dma, k, log)).1 with phase := next },
              (execute (recorded bus) channel (dma, k, log)).2)
          else execute (recorded bus) channel (dma, k, log)) :
        (count ≠ 0 ∧ ∃ dma' k', dma_step (recorded bus) cascade (dma, k, log) =
            (dma', k', log ++ [.cycle kind channel address]) ∧
          Transferring start channel (stepped (goes_down start channel) address) (count - 1)
            dma') ∨
        (count = 0 ∧ ∃ dma' k', dma_step (recorded bus) cascade (dma, k, log) =
            (dma', k', log ++ [.cycle kind channel address, .terminal channel]) ∧
          Completed start channel dma') := by
      by_cases hcount : count = 0
      · subst hcount
        obtain ⟨dma', k', hexecute, hcompleted⟩ := execute_completes hsteady hprogrammed h k log
        rw [hexecute] at hstep
        refine .inr ⟨rfl, dma', k', ?_, hcompleted⟩
        rw [hadvance, hstep, hcompleted.isr]
        rfl
      · obtain ⟨dma', k', hexecute, hleft, hgoes⟩ :=
          execute_transfers hsteady hprogrammed h hcount k log
        rw [hexecute] at hstep hnext
        refine .inl ⟨hcount, ?_⟩
        rw [hadvance, hstep]
        cases hgoes with
        | inl hreleased =>
          refine ⟨dma', k', ?_, hleft⟩
          rw [hreleased]
          rfl
        | inr hkept =>
          have hsome : dma'.isr.isSome = true := by
            rw [hkept.1, hisr]
            rfl
          refine ⟨_, k', ?_, hleft.after_transfer (hnext hkept.2) (.inr (hkept.1.trans hisr))⟩
          exact if_pos hsome
    cases hphase : dma.phase with
    | idle => exact absurd hphase hnotidle
    | s1 =>
      refine .inl (hnext .s2 (by decide) (by rw [hphase]; decide) ?_)
      simp only [dma_advance, hisr, hphase]
    | s2 =>
      refine .inl (hnext (if is_set dma.command command_tm then .s4 else .s3) ?_ ?_ ?_)
      · split
        · decide
        · decide
      · rw [hphase]
        split
        · decide
        · decide
      · simp only [dma_advance, hisr, hphase]
    | s3 =>
      refine .inl (hnext .s4 (by decide) (by rw [hphase]; decide) ?_)
      simp only [dma_advance, hisr, hphase]
    | s4 =>
      refine .inr (htransfer
        (if dma_address_high_changed (dma.currAddr channel)
          ((execute (recorded bus) channel (dma, k, log)).1.currAddr channel) then .s1 else .s2)
        (fun _ => ?_) ?_)
      · split
        · decide
        · decide
      · simp only [dma_advance, hisr, hphase]
    | s11 =>
      refine .inl (hnext .s12 (by decide) (by rw [hphase]; decide) ?_)
      simp only [dma_advance, hisr, hphase]
    | s12 =>
      refine .inl (hnext .s13 (by decide) (by rw [hphase]; decide) ?_)
      simp only [dma_advance, hisr, hphase]
    | s13 =>
      refine .inl (hnext .s14 (by decide) (by rw [hphase]; decide) ?_)
      simp only [dma_advance, hisr, hphase]
    | s14 =>
      -- without a byte to write the chip stays where it is
      refine .inr (htransfer
        (if (execute (recorded bus) channel (dma, k, log)).1.flagM2MWrite then .s21
          else (execute (recorded bus) channel (dma, k, log)).1.phase)
        (fun hsame => ?_) ?_)
      · split
        · decide
        · rw [hsame, hphase]
          decide
      · simp only [dma_advance, hisr, hphase]
        generalize execute (recorded bus) channel (dma, k, log) = after
        by_cases hwrite : after.1.flagM2MWrite = true
        · simp only [hwrite, Bool.and_true, if_true]
        · have hboth : ¬ (after.1.isr.isSome && after.1.flagM2MWrite) = true := by simp [hwrite]
          rw [if_neg hwrite, if_neg hboth]
          split
          · rfl
          · rfl
    | s21 =>
      refine .inl (hnext .s22 (by decide) (by rw [hphase]; decide) ?_)
      simp only [dma_advance, hisr, hphase]
    | s22 =>
      refine .inl (hnext .s23 (by decide) (by rw [hphase]; decide) ?_)
      simp only [dma_advance, hisr, hphase]
    | s23 =>
      refine .inl (hnext .s24 (by decide) (by rw [hphase]; decide) ?_)
      simp only [dma_advance, hisr, hphase]
    | s24 =>
      refine .inr (htransfer
        (if dma_address_high_changed (dma.currAddr 0)
          ((execute (recorded bus) channel (dma, k, log)).1.currAddr 0) then .s11 else .s12)
        (fun _ => ?_) ?_)
      · split
        · decide
        · decide
      · simp only [dma_advance, hisr, hphase]

/-! ## The whole transfer -/

/-- The cycles of a transfer from an address on, one more than the count. -/
def cycles (down : Bool) (kind : DmaCycle) (channel : Fin 4) : U16 → ℕ → List DmaEvent
  | address, 0 => [.cycle kind channel address]
  | address, count + 1 =>
    .cycle kind channel address :: cycles down kind channel (stepped down address) count

/-- The address of the transfer `i`. -/
def address_of (down : Bool) (address : U16) (i : ℕ) : U16 :=
  if down then address - BitVec.ofNat 16 i else address + BitVec.ofNat 16 i

theorem address_of_stepped (down : Bool) (address : U16) (i : ℕ) :
    address_of down (stepped down address) i = address_of down address (i + 1) := by
  cases down with
  | true =>
    change address - 1 - BitVec.ofNat 16 i = address - BitVec.ofNat 16 (i + 1)
    rw [BitVec.ofNat_add, BitVec.add_comm, BitVec.sub_sub]
    rfl
  | false =>
    change address + 1 + BitVec.ofNat 16 i = address + BitVec.ofNat 16 (i + 1)
    rw [BitVec.ofNat_add, BitVec.add_assoc, BitVec.add_comm (BitVec.ofNat 16 i)]
    rfl

theorem cycles_eq (down : Bool) (kind : DmaCycle) (channel : Fin 4) (address : U16) (count : ℕ) :
    cycles down kind channel address count = (List.range (count + 1)).map fun i =>
      .cycle kind channel (address_of down address i) := by
  induction count generalizing address with
  | zero =>
    have hfirst : address_of down address 0 = address := by
      cases down <;> simp [address_of]
    rw [cycles, List.range_one, List.map_singleton, hfirst]
  | succ count ih =>
    have hfirst : address_of down address 0 = address := by
      cases down <;> simp [address_of]
    rw [cycles, ih, List.range_succ_eq_map (n := count + 1), List.map_cons, List.map_map, hfirst]
    congr 1
    refine List.map_congr_left fun i _ => ?_
    rw [address_of_stepped]
    rfl

/-- From any state of the transfer the next cycle comes. -/
theorem reaches_cycle (hsteady : Steady bus channel) (hprogrammed : Programmed start channel kind)
    (h : Transferring start channel address count dma) (cascade : Bool) (k : κ)
    (log : List DmaEvent) :
    ∃ n dma' k',
      (count ≠ 0 ∧ (dma_step (recorded bus) cascade)^[n] (dma, k, log) =
          (dma', k', log ++ [.cycle kind channel address]) ∧
        Transferring start channel (stepped (goes_down start channel) address) (count - 1) dma') ∨
      (count = 0 ∧ (dma_step (recorded bus) cascade)^[n] (dma, k, log) =
          (dma', k', log ++ [.cycle kind channel address, .terminal channel]) ∧
        Completed start channel dma') := by
  induction hclocks : clocks_left dma using Nat.strongRecOn generalizing dma with
  | ind m ih =>
    obtain ⟨dma', hstep, hstays, hless⟩ | ⟨hcount, dma', k', hstep, hleft⟩ |
        ⟨hcount, dma', k', hstep, hcompleted⟩ :=
      dma_step_transferring hsteady hprogrammed h cascade k log
    · obtain ⟨n, dma'', k'', hlater⟩ := ih _ (hclocks ▸ hless) hstays rfl
      refine ⟨n + 1, dma'', k'', ?_⟩
      rw [Function.iterate_succ_apply, hstep]
      exact hlater
    · exact ⟨1, dma', k', .inl ⟨hcount, hstep, hleft⟩⟩
    · exact ⟨1, dma', k', .inr ⟨hcount, hstep, hcompleted⟩⟩

/-- All cycles come, and then the terminal count. -/
theorem transferring_completes (hsteady : Steady bus channel)
    (hprogrammed : Programmed start channel kind)
    (h : Transferring start channel address count dma) (cascade : Bool) (k : κ)
    (log : List DmaEvent) :
    ∃ n dma' k', (dma_step (recorded bus) cascade)^[n] (dma, k, log) =
        (dma', k', log ++ cycles (goes_down start channel) kind channel address count.toNat ++
          [.terminal channel]) ∧
      Completed start channel dma' := by
  induction hm : count.toNat generalizing dma address count k log with
  | zero =>
    have hzero : count = 0 := BitVec.eq_of_toNat_eq hm
    obtain ⟨n, dma', k', ⟨hcount, -, -⟩ | ⟨-, hsteps, hcompleted⟩⟩ :=
      reaches_cycle hsteady hprogrammed h cascade k log
    · exact absurd hzero hcount
    · refine ⟨n, dma', k', ?_, hcompleted⟩
      rw [hsteps, cycles, List.append_assoc]
      rfl
  | succ m ih =>
    obtain ⟨n, dma', k', ⟨-, hsteps, hleft⟩ | ⟨hcount, -, -⟩⟩ :=
      reaches_cycle hsteady hprogrammed h cascade k log
    · have hpred : (count - 1).toNat = m := by bv_omega
      obtain ⟨n', done, k'', hrest, hcompleted⟩ := ih hleft k' _ hpred
      refine ⟨n' + n, done, k'', ?_, hcompleted⟩
      rw [Function.iterate_add_apply, hsteps, hrest, cycles, List.append_assoc log]
      rfl
    · rw [hcount] at hm
      cases hm

/-- A masked channel is not granted again. -/
theorem Completed.idle {bus : DmaBus κ} (h : Completed start channel dma)
    (hai : is_set (start.mode channel) mode_ai = false) (cascade : Bool) (k : κ) :
    dma_step bus cascade (dma, k) = (dma, k) := by
  have hnone (other : Fin 4) : (dma_pending_requests dma).getLsbD other.val = false := by
    by_cases hother : other = channel
    · subst hother
      have hcleared : is_set dma.request (drq other) = false := by
        rw [h.request, is_set_drq, BitVec.getLsbD_and, BitVec.getLsbD_not, getLsbD_drq]
        simp
      rw [dma_pending_requests_line, h.masked hai, dma_software_request_is_valid, hcleared]
      simp
    · exact h.requests.others other hother
  have hselect := dma_select_none hnone
  simp only [dma_step, h.isr, hselect]

/-- With auto-initialisation the channel is ready for the next pass, from its base registers. -/
theorem Completed.again (h : Completed start channel dma)
    (hprogrammed : Programmed start channel kind)
    (hai : is_set (start.mode channel) mode_ai = true) :
    Programmed dma channel kind ∧
      Transferring dma channel (start.baseAddr channel) (start.baseCount channel) dma := by
  obtain ⟨haddr, hcount, hmask⟩ := h.reloaded hai
  have hown : is_memory_to_memory dma channel = false := by
    by_cases hzero : channel = 0
    · subst hzero
      have hcleared : is_set dma.request (drq 0) = false := by
        rw [h.request, is_set_drq, BitVec.getLsbD_and, BitVec.getLsbD_not, getLsbD_drq]
        simp
      rw [is_memory_to_memory, hcleared]
      rfl
    · simp [is_memory_to_memory, hzero]
  constructor
  · refine ⟨?_, ?_, hown, ?_⟩
    · rw [h.mode]
      exact hprogrammed.mode
    · rw [h.mode]
      exact hprogrammed.kind
    · rw [hmask]
      exact hprogrammed.mask
  · exact ⟨rfl, rfl, rfl, rfl, rfl, rfl, haddr, hcount, h.flagEOP, h.requests, .inl h.isr⟩

/-- The calls of the bus in a pass: the cycles, from the address on and one more than the
count, and the terminal count. -/
def pass (dma : Dma) (channel : Fin 4) (kind : DmaCycle) (address count : U16) : List DmaEvent :=
  ((List.range (count.toNat + 1)).map fun i =>
    .cycle kind channel (address_of (goes_down dma channel) address i)) ++ [.terminal channel]

/-- A completed pass after a completed pass. -/
theorem Completed.trans {dma' : Dma} (h : Completed start channel dma)
    (hai : is_set (start.mode channel) mode_ai = true) (h' : Completed dma channel dma') :
    Completed start channel dma' where
  isr := h'.isr
  flagEOP := h'.flagEOP
  mode := h'.mode.trans h.mode
  command := h'.command.trans h.command
  request := by rw [h'.request, h.request, BitVec.and_assoc, BitVec.and_self]
  baseAddr := h'.baseAddr.trans h.baseAddr
  baseCount := h'.baseCount.trans h.baseCount
  tc := h'.tc
  reloaded _ := by
    have hmode : is_set (dma.mode channel) mode_ai = true := by
      rw [h.mode]
      exact hai
    obtain ⟨haddr, hcount, hmask⟩ := h'.reloaded hmode
    rw [haddr, hcount, hmask, h.baseAddr, h.baseCount]
    exact ⟨rfl, rfl, (h.reloaded hai).2.2⟩
  masked hoff := by
    rw [hai] at hoff
    cases hoff
  requests := h'.requests

/-- A request that is kept starts pass after pass of an auto-initialised channel. -/
theorem passes_again (hsteady : Steady bus channel) (hprogrammed : Programmed start channel kind)
    (h : Completed start channel dma) (hai : is_set (start.mode channel) mode_ai = true)
    (cascade : Bool) (k : κ) (log : List DmaEvent) (passes : ℕ) :
    ∃ n dma' k', (dma_step (recorded bus) cascade)^[n] (dma, k, log) =
        (dma', k', log ++ (List.replicate passes
          (pass start channel kind (start.baseAddr channel) (start.baseCount channel))).flatten) ∧
      Completed start channel dma' := by
  induction passes generalizing dma k log with
  | zero => exact ⟨0, dma, k, by simp, h⟩
  | succ passes ih =>
    obtain ⟨hready, htransferring⟩ := h.again hprogrammed hai
    obtain ⟨n, dma', k', hsteps, hcompleted⟩ :=
      transferring_completes hsteady hready htransferring cascade k log
    obtain ⟨n', done, k'', hrest, hdone⟩ := ih (h.trans hai hcompleted) k' _
    refine ⟨n' + n, done, k'', ?_, hdone⟩
    have hdown : goes_down dma channel = goes_down start channel := by
      rw [goes_down, goes_down, h.mode]
    rw [Function.iterate_add_apply, hsteps, hrest, hdown, cycles_eq, List.replicate_succ,
      List.flatten_cons, pass]
    simp only [List.append_assoc]

/-- An idle chip with a single request, for a channel with `address` and `count` in single or
block mode, makes the calls of one pass; then the terminal count bit is set. The channel is
masked and never served again, or it is reloaded, and the request goes on with pass after pass
from the base registers. -/
theorem dma_transfer_completes (hsteady : Steady bus channel)
    (hprogrammed : Programmed start channel kind) (hrequests : Requests channel start)
    (hidle : start.isr = none) (hEOP : start.flagEOP = false) (cascade : Bool) (k : κ) :
    let first := pass start channel kind (start.currAddr channel) (start.currCount channel)
    let next := pass start channel kind (start.baseAddr channel) (start.baseCount channel)
    ∃ n dma' k',
      (dma_step (recorded bus) cascade)^[n] (start, k, []) = (dma', k', first) ∧
        is_set dma'.status (drq channel) = true ∧ dma'.isr = none ∧
        (is_set (start.mode channel) mode_ai = false →
          is_set dma'.mask (drq channel) = true ∧
            ∀ m, (dma_step (recorded bus) cascade)^[m + n] (start, k, []) = (dma', k', first)) ∧
        (is_set (start.mode channel) mode_ai = true →
          dma'.currAddr channel = start.baseAddr channel ∧
            dma'.currCount channel = start.baseCount channel ∧ dma'.mask = start.mask ∧
            ∀ passes, ∃ m, ((dma_step (recorded bus) cascade)^[m + n] (start, k, [])).2.2 =
              first ++ (List.replicate passes next).flatten) := by
  intro first next
  have hstart : Transferring start channel (start.currAddr channel) (start.currCount channel)
      start :=
    ⟨rfl, rfl, rfl, rfl, rfl, rfl, rfl, rfl, hEOP, hrequests, .inl hidle⟩
  obtain ⟨n, dma', k', hsteps, hcompleted⟩ :=
    transferring_completes hsteady hprogrammed hstart cascade k []
  have hfirst : (dma_step (recorded bus) cascade)^[n] (start, k, []) = (dma', k', first) := by
    rw [hsteps, List.nil_append, cycles_eq]
    rfl
  refine ⟨n, dma', k', hfirst, hcompleted.tc, hcompleted.isr, fun hai => ?_, fun hai => ?_⟩
  · refine ⟨hcompleted.masked hai, fun m => ?_⟩
    rw [Function.iterate_add_apply, hfirst]
    exact Function.iterate_fixed (hcompleted.idle hai cascade (k', first)) m
  · obtain ⟨haddr, hcount, hmask⟩ := hcompleted.reloaded hai
    refine ⟨haddr, hcount, hmask, fun passes => ?_⟩
    obtain ⟨m, dma'', k'', hagain, -⟩ :=
      passes_again hsteady hprogrammed hcompleted hai cascade k' first passes
    refine ⟨m, ?_⟩
    rw [Function.iterate_add_apply, hfirst, hagain]

end Transfer

/-! ## A chip of one channel -/

/-- A bus without anything else on it: every cycle succeeds. -/
def quiet_bus : DmaBus Unit where
  cycle _ _ _ byte s := (.ok, byte, s)
  terminal _ s := s
  cycle_inputs _ _ _ _ s := InputsOnly.refl s.1
  terminal_inputs _ s := InputsOnly.refl s.1

theorem quiet_bus_steady (channel : Fin 4) : Steady quiet_bus channel :=
  ⟨fun _ _ _ _ => rfl, fun _ _ _ _ h => h, fun _ _ _ _ => rfl, fun _ h => h⟩

/-- Channel 1 of a reset chip, programmed for two bytes from 0x00ff on, with its request. -/
def two_bytes (mode : U8) : Dma :=
  let dma := dma_write_register (dma_write_register dma_create 2 0xff) 2 0x00
  let dma := dma_write_register (dma_write_register dma 3 0x01) 3 0x00
  dma_set_request (dma_write_register (dma_write_register dma 11 mode) 10 0x01) 1 true

/-- Two bytes to memory in single mode. -/
theorem dma_transfer_completes_two_bytes :
    ∃ n, ((dma_step (recorded quiet_bus) false)^[n] (two_bytes 0x45, (), [])).2.2 =
      [.cycle .device_to_memory 1 0x00ff, .cycle .device_to_memory 1 0x0100, .terminal 1] := by
  have hrequests : Requests 1 (two_bytes 0x45) := ⟨by decide, by decide⟩
  have hprogrammed : Programmed (two_bytes 0x45) 1 .device_to_memory :=
    ⟨by decide, by decide, by decide, by decide⟩
  obtain ⟨n, dma', k', hsteps, -⟩ :=
    dma_transfer_completes (quiet_bus_steady 1) hprogrammed hrequests rfl rfl false ()
  refine ⟨n, ?_⟩
  rw [hsteps]
  rfl

/-- With auto-initialisation there are further cycles, though nothing is programmed anew. -/
theorem dma_transfer_goes_on :
    ((dma_step (recorded quiet_bus) false)^[10] (two_bytes 0x55, (), [])).2.2 =
        [.cycle .device_to_memory 1 0x00ff, .cycle .device_to_memory 1 0x0100, .terminal 1] ∧
      ((dma_step (recorded quiet_bus) false)^[15] (two_bytes 0x55, (), [])).2.2 =
        [.cycle .device_to_memory 1 0x00ff, .cycle .device_to_memory 1 0x0100, .terminal 1,
          .cycle .device_to_memory 1 0x00ff] := by
  constructor
  · rfl
  · rfl

end Nxvm.Chips
