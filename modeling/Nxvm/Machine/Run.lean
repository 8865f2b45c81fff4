/-
Running the machine (`x86_core_machine_run`, `machine.c`): one loop that lets the
processor execute within a budget of instructions and ticks, and publishes the
time of every wait, hold and retirement to the scheduler.

An iteration of the loop is cut here where the source falls through from one part
of its body to the next. Each part is a `Phase`: it goes on to the next part,
starts the next iteration, or returns.
-/
import Nxvm.Machine.Scheduler

set_option autoImplicit false

namespace Nxvm.Machine

variable {σ : Type}

/-- `x86_core_machine_stop_reason`. -/
inductive StopReason where
  | none
  | budget
  | paused
  | requested
  | reset_requested
  | waiting_for_interrupt
  | fault
  deriving DecidableEq, Repr

/-- `x86_core_machine_run_budget`: zero is no bound. -/
structure RunBudget where
  instructions : ℕ
  ticks : ℕ
  deriving DecidableEq, Repr

/-- `x86_core_machine_run_result`. -/
structure RunResult where
  reason : StopReason
  executed : ℕ
  ticks : ℕ
  elapsed_ticks : ℕ
  linear_pc : ℕ
  detail : ℕ
  deriving DecidableEq, Repr

/-- `x86_core_machine_time_publication_origin`. -/
inductive PublicationOrigin where
  | cpu_retirement
  | external_wait
  | deadline
  | cpu_event
  | cpu_execution
  deriving DecidableEq, Repr

/-- The details of the faults the loop reports itself. -/
def fault_time : ℕ := 0x54494d45
def fault_time_unqualified : ℕ := 0x54494d55
def fault_firmware : ℕ := 0x46575245

/-- `VCPUINS_EXCEPT_SHUTDOWN`. -/
def except_shutdown : ℕ := 0x20000000

/-! ## Publishing time -/

def retirement_time_is_qualified (env : Environment σ) (m : CoreMachine σ) : Bool :=
  m.retirement_time_contract != .physical ||
    (m.time_axis_verified_physical &&
      !(env.cpu_capture_timing m.owner).source_timing_unallocated &&
      env.retirement_qualification_contains m.owner)

/-- Whether a publication of this origin is refused under the physical contract. -/
def publication_refused (env : Environment σ) (m : CoreMachine σ)
    (origin : PublicationOrigin) : Bool :=
  m.retirement_time_contract == .physical && origin != .cpu_retirement && origin != .deadline &&
    (origin != .cpu_execution || !retirement_time_is_qualified env m)

def publish_elapsed_ticks (env : Environment σ) (m : CoreMachine σ) (elapsed_ticks : ℕ)
    (origin : PublicationOrigin) : Status × CoreMachine σ :=
  if elapsed_ticks = 0 ∨ uint64_max - m.elapsed_ticks < elapsed_ticks then
    (.invalid_argument, m)
  else if publication_refused env m origin then (.invalid_state, m)
  else
    let m := advance_scheduler env m elapsed_ticks
    (if m.lifecycle = .faulted then .internal_error else .ok, m)

def publish_successful_retirement (env : Environment σ) (m : CoreMachine σ) :
    Bool × CoreMachine σ :=
  let m := if m.retirement_observation_bound then
      m.after (env.retirement_observation_publish m.cpu_retirement_source_ticks m.owner)
    else m
  (retirement_time_is_qualified env m, m)

def begin_retirement_wait (m : CoreMachine σ) (wait_ticks completion_ticks source_ticks : ℕ)
    (retires : Bool) : CoreMachine σ :=
  { m with
    cpu_retirement_wait_pending := true
    cpu_retirement_wait_ticks := wait_ticks
    cpu_retirement_completion_ticks := completion_ticks
    cpu_retirement_source_ticks := source_ticks
    cpu_retirement_wait_retires := retires }

/-! ## Resets -/

/-- What a reset of the processor discards of the execution. -/
def discard_execution (m : CoreMachine σ) : CoreMachine σ :=
  { m with
    cpu_retirement_wait_pending := false
    cpu_retirement_wait_ticks := 0
    cpu_retirement_completion_ticks := 0
    cpu_retirement_source_ticks := 0
    cpu_retirement_wait_retires := false
    external_cycle_round_ticks := 0
    external_cycle_round_overflow := false
    fault_detail := 0 }

def processor_reset (env : Environment σ) (m : CoreMachine σ) (kind : ResetKind) :
    Status × CoreMachine σ :=
  if kind = .soft then
    let a := env.cpu_state_soft_reset m.owner
    let m := m.after a
    if a.value ≠ .ok then (a.value, m) else (.ok, discard_execution m)
  else (.ok, discard_execution (m.after (env.cpu_state_reset m.owner)))

def cold_reset (env : Environment σ) (m : CoreMachine σ) : Status × CoreMachine σ :=
  let m := m.after (env.cold_reset_owners m.owner)
  let m : CoreMachine σ :=
    { discard_execution m with
      stop_requested := false
      elapsed_ticks := 0
      refresh_cycle_ticks_remaining := 0
      cpu_cycle_bus_ready := true
      transaction := { owner := .none, hold_owner := .none, hold_acknowledged := false } }
  match env.firmware_reset with
  | some f =>
      let a := f m.owner
      let m := m.after a
      if a.value ≠ .ok then (a.value, { m with lifecycle := .initialized })
      else (.ok, { m with lifecycle := .stopped })
  | none => (.ok, { m with lifecycle := .stopped })

/-- `x86_core_machine_reset`. -/
def machine_reset (env : Environment σ) (m : CoreMachine σ) : Status × CoreMachine σ :=
  if m.lifecycle = .running then (.invalid_state, m) else cold_reset env m

/-! ## The state of the loop -/

/-- The machine and the result so far. -/
structure Run (σ : Type) where
  machine : CoreMachine σ
  result : RunResult

/-- How a part of the loop's body ends. -/
inductive Phase (σ : Type) where
  | next (r : Run σ)
  | again (r : Run σ)
  | done (status : Status) (r : Run σ)

/-- The next part of the body, where this one goes on to it. -/
def Phase.and_then (p : Phase σ) (f : Run σ → Phase σ) : Phase σ :=
  match p with
  | .next r => f r
  | .again r => .again r
  | .done status r => .done status r

/-- The run with another machine. -/
def Run.with_machine (r : Run σ) (m : CoreMachine σ) : Run σ := { r with machine := m }

/-- The run in another lifecycle. -/
def Run.with_lifecycle (r : Run σ) (lifecycle : Lifecycle) : Run σ :=
  { r with machine := { r.machine with lifecycle := lifecycle } }

/-- `result->reason` and `result->linear_pc` set. -/
def Run.stopped_for (env : Environment σ) (r : Run σ) (reason : StopReason) : Run σ :=
  { r with
    result :=
      { r.result with reason := reason, linear_pc := env.cpu_linear_pc r.machine.owner } }

/-- `result->elapsed_ticks = machine->elapsed_ticks`. -/
def Run.stamped (r : Run σ) : Run σ :=
  { r with result := { r.result with elapsed_ticks := r.machine.elapsed_ticks } }

/-- `result->ticks += ticks`. -/
def Run.charged (r : Run σ) (ticks : ℕ) : Run σ :=
  { r with result := { r.result with ticks := r.result.ticks + ticks } }

/-- `++result->executed`. -/
def Run.retired (r : Run σ) : Run σ :=
  { r with result := { r.result with executed := (r.result.executed + 1) % 2 ^ 64 } }

/-- A return with `INTERNAL_ERROR` and the machine's fault. -/
def Run.faulted (env : Environment σ) (r : Run σ) : Phase σ :=
  let r := r.stopped_for env .fault
  .done .internal_error
    { r with result := { r.result with detail := r.machine.fault_detail } }

/-- A return with a fault the loop reports itself. -/
def Run.fault (env : Environment σ) (r : Run σ) (detail : ℕ) : Phase σ :=
  (r.with_machine (report_fault r.machine detail)).faulted env

def complete_run_boundary (env : Environment σ) (r : Run σ) : Phase σ :=
  let ran := r.machine.call env.firmware_after_run .ok
  let r := r.with_machine ran.2
  if ran.1 ≠ .ok then
    let m := report_fault r.machine fault_firmware
    .done .internal_error
      { machine := m, result := { r.result with reason := .fault, detail := m.fault_detail } }
  else if r.machine.stop_requested then
    .done .ok { r with result := { r.result with reason := .requested } }
  else .done .ok r

def complete_cpu_fault (env : Environment σ) (r : Run σ) : Phase σ :=
  r.stamped.fault env r.machine.fault_detail

/-- The machine paused with a reason, at a boundary of the run. -/
def Run.pause (env : Environment σ) (r : Run σ) (reason : StopReason) : Phase σ :=
  complete_run_boundary env ((r.with_lifecycle .paused).stopped_for env reason)

/-- The machine paused with a reason, without the boundary. -/
def Run.pause_quietly (env : Environment σ) (r : Run σ) (reason : StopReason) : Phase σ :=
  .done .ok ((r.with_lifecycle .paused).stopped_for env reason).stamped

/-- `finish_shutdown`, with what both its callers do next. -/
def finish_shutdown (env : Environment σ) (r : Run σ) : Phase σ :=
  let asked := if env.cpu_is_system_waiting r.machine.owner then (false, r.machine)
    else r.machine.call env.attachment_shutdown_reset false
  let r := r.with_machine asked.2
  if asked.1 then .again r
  else
    let r := ((r.with_lifecycle .paused).stopped_for env .waiting_for_interrupt).stamped
    complete_run_boundary env { r with result := { r.result with detail := except_shutdown } }

/-! ## The parts of an iteration -/

/-- A fault reported meanwhile, a shutdown the board takes as a reset, a pause the debugger
asked for. -/
def phase_interruptions (env : Environment σ) (r : Run σ) : Phase σ :=
  if r.machine.lifecycle = .faulted then r.faulted env
  else
    let asked := r.machine.call env.attachment_shutdown_reset false
    let consumed := if asked.1 then
        asked.2.call (some env.execution_consume_shutdown_request) false
      else (false, asked.2)
    if consumed.1 then
      let reset := processor_reset env { consumed.2 with lifecycle := .paused } .hard
      .done .ok (((r.with_machine reset.2).with_lifecycle .stopped).stopped_for env
        .reset_requested)
    else
      let pause := consumed.2.call (some env.execution_consume_debug_pause_request) false
      let r := r.with_machine pause.2
      if pause.1 then r.pause env .paused else .next r

/-- Whether the run is to stop: it was asked to, or the processor was and has no fault
pending. -/
def stop_asked (env : Environment σ) (cpu_fault_pending : Bool) (m : CoreMachine σ) :
    Bool × CoreMachine σ :=
  if m.stop_requested then (true, m)
  else if cpu_fault_pending then (false, m)
  else m.call (some env.execution_consume_stop_request) false

/-- A stop: the machine is reset cold. -/
def phase_stop (env : Environment σ) (cpu_fault_pending : Bool) (r : Run σ) : Phase σ :=
  let asked := stop_asked env cpu_fault_pending r.machine
  if asked.1 then
    let reset := cold_reset env { asked.2 with lifecycle := .paused }
    let r := r.with_machine reset.2
    if reset.1 ≠ .ok then .done reset.1 r else .done .ok (r.stopped_for env .requested)
  else .next (r.with_machine asked.2)

/-- A reset of the processor. -/
def phase_reset (env : Environment σ) (r : Run σ) : Phase σ :=
  let asked := r.machine.call (some env.execution_consume_reset_request) .none
  let r := r.with_machine asked.2
  if asked.1 ≠ .none then
    let reset := processor_reset env r.machine asked.1
    let r := r.with_machine reset.2
    if reset.1 ≠ .ok then .done reset.1 r
    else .done .ok ((r.with_lifecycle .stopped).stopped_for env .reset_requested)
  else .next r

/-- The ticks of a span that fit into the budget. -/
def RunBudget.clip (budget : RunBudget) (r : Run σ) (ticks : ℕ) : ℕ :=
  if budget.ticks ≠ 0 ∧ budget.ticks - r.result.ticks < ticks then
    budget.ticks - r.result.ticks
  else ticks

/-- A refresh cycle that holds the bus. -/
def phase_refresh (env : Environment σ) (budget : RunBudget) (r : Run σ) : Phase σ :=
  let r := r.with_machine (scheduler_observed env r.machine)
  if r.machine.refresh_cycle_ticks_remaining ≠ 0 then
    let ticks := budget.clip r r.machine.refresh_cycle_ticks_remaining
    if uint64_max - r.result.ticks < ticks ∨ uint64_max - r.machine.elapsed_ticks < ticks then
      r.fault env fault_time
    else
      let published := publish_elapsed_ticks env r.machine ticks .deadline
      let r := r.with_machine published.2
      if published.1 ≠ .ok then .done .internal_error r
      else .again (r.charged ticks).stamped
  else .next r

/-- One tick of waiting for the outside, charged before it is published. -/
def external_wait_tick (env : Environment σ) (r : Run σ) : Status × Run σ :=
  let r := r.charged 1
  let published := publish_elapsed_ticks env r.machine 1 .external_wait
  let r := r.with_machine published.2
  (published.1, if published.1 = .ok then r.stamped else r)

/-- No tick is left in the result or on the clock. -/
def Run.out_of_time (r : Run σ) : Bool :=
  r.result.ticks == uint64_max || r.machine.elapsed_ticks == uint64_max

/-- A hold the board asserts. -/
def phase_hold (env : Environment σ) (r : Run σ) : Phase σ :=
  let held := r.machine.call env.attachment_cpu_hold_asserted false
  let r := r.with_machine held.2
  if held.1 then
    if r.out_of_time then r.fault env fault_time
    else
      let waited := external_wait_tick env r
      if waited.1 ≠ .ok then .done .internal_error waited.2 else .again waited.2
  else .next r

/-- The ready line that a pending retirement waits for. -/
def phase_ready (env : Environment σ) (r : Run σ) : Phase σ :=
  if r.machine.cpu_retirement_wait_pending ∧
      r.machine.transaction_contract.cpu_cycle_bus_ready_gate_enabled ∧
      !r.machine.cpu_cycle_bus_ready then
    if r.out_of_time then r.fault env fault_time
    else
      let waited := external_wait_tick env r
      if waited.1 ≠ .ok then .done .internal_error waited.2 else .again waited.2
  else .next r

/-- The board's wait of a pending retirement, tick by tick. -/
def phase_board_wait (env : Environment σ) (r : Run σ) : Phase σ :=
  if r.machine.cpu_retirement_wait_pending ∧ r.machine.cpu_retirement_wait_ticks ≠ 0 then
    if r.out_of_time then r.stamped.fault env fault_time
    else
      let m : CoreMachine σ :=
        { r.machine with cpu_retirement_wait_ticks := r.machine.cpu_retirement_wait_ticks - 1 }
      let waited := external_wait_tick env (r.with_machine m)
      let r := waited.2
      if waited.1 ≠ .ok then .done .internal_error r
      else if !r.machine.cpu_profile_v30 && r.machine.cpu_retirement_wait_retires &&
          env.cpu_is_halted r.machine.owner then r.pause env .waiting_for_interrupt
      else if r.machine.cpu_retirement_wait_ticks ≠ 0 then .again r
      else .next r
  else .next r

/-- The part of the completion that belongs to events, as measured when the body reaches the
pending retirement. -/
def retirement_event_ticks (env : Environment σ) (m : CoreMachine σ) : ℕ :=
  if m.cpu_retirement_wait_retires then (env.cpu_capture_timing m.owner).event_ticks else 0

/-- The end of an iteration in which an instruction retired. -/
def phase_retired (env : Environment σ) (r : Run σ) : Phase σ :=
  let pause := r.machine.call (some env.execution_consume_debug_pause_request) false
  let r := r.with_machine pause.2
  if pause.1 then r.pause env .paused
  else
    let r := r.with_machine (r.machine.after (env.execution_poll_wait r.machine.owner))
    if env.cpu_is_halted r.machine.owner || env.cpu_is_system_waiting r.machine.owner then
      r.pause env .waiting_for_interrupt
    else .again r

/-- What is left of a pending event, and what follows where nothing is. -/
def finish_event (env : Environment σ) (cpu_fault_pending : Bool) (event_ticks : ℕ)
    (r : Run σ) : Phase σ :=
  let m : CoreMachine σ :=
    { r.machine with
      cpu_retirement_completion_ticks :=
        r.machine.cpu_retirement_completion_ticks - event_ticks }
  if m.cpu_retirement_completion_ticks ≠ 0 then .again (r.with_machine m)
  else
    let m : CoreMachine σ :=
      { m with cpu_retirement_wait_pending := false, cpu_retirement_source_ticks := 0 }
    let r := r.with_machine m
    if cpu_fault_pending then complete_cpu_fault env r
    else if env.cpu_is_shutdown m.owner then finish_shutdown env r
    else
      let r := r.with_lifecycle .paused
      let stalled := if env.cpu_is_system_waiting r.machine.owner then (true, r.machine)
        else r.machine.call (some env.execution_consume_wait_stall) false
      let r := r.with_machine stalled.2
      .done .ok
        (r.stopped_for env (if stalled.1 then .waiting_for_interrupt else .budget)).stamped

/-- A pending wait of an event: it retires nothing and is spent as far as the budget goes. -/
def complete_event (env : Environment σ) (budget : RunBudget) (cpu_fault_pending : Bool)
    (r : Run σ) : Phase σ :=
  let event_ticks := budget.clip r r.machine.cpu_retirement_completion_ticks
  if event_ticks ≠ 0 then
    let published := publish_elapsed_ticks env r.machine event_ticks .cpu_event
    let r := r.with_machine published.2
    if published.1 ≠ .ok then .done .internal_error r
    else finish_event env cpu_fault_pending event_ticks (r.charged event_ticks).stamped
  else finish_event env cpu_fault_pending event_ticks r

/-- The part of a pending retirement that fits into the budget where the whole does not. -/
def retire_partly (env : Environment σ) (budget : RunBudget) (r : Run σ) : Phase σ :=
  if r.machine.maximum_instruction_ticks = 0 ∧ r.result.ticks < budget.ticks then
    let ticks := budget.ticks - r.result.ticks
    let published := publish_elapsed_ticks env r.machine ticks .cpu_execution
    let r := r.with_machine published.2
    if published.1 ≠ .ok then r.fault env fault_time_unqualified
    else
      let m : CoreMachine σ :=
        { r.machine with
          cpu_retirement_completion_ticks := r.machine.cpu_retirement_completion_ticks - ticks }
      ((r.with_machine m).charged ticks).pause_quietly env .budget
  else r.pause_quietly env .budget

/-- A pending retirement that takes place. -/
def retire_pending (env : Environment σ) (cpu_fault_pending : Bool)
    (retiring_ticks event_ticks : ℕ) (r : Run σ) : Phase σ :=
  let retirement := publish_successful_retirement env r.machine
  let r := r.with_machine retirement.2
  if !retirement.1 then
    (r.with_machine (report_fault r.machine fault_time_unqualified)).stamped.faulted env
  else
    let r := r.retired.charged retiring_ticks
    let published := publish_elapsed_ticks env r.machine retiring_ticks .cpu_retirement
    let r := r.with_machine published.2
    if published.1 ≠ .ok then .done .internal_error r
    else
      let m : CoreMachine σ :=
        { r.machine with
          cpu_retirement_completion_ticks := event_ticks
          cpu_retirement_source_ticks := 0
          cpu_retirement_wait_retires := false }
      let r := (r.with_machine m).stamped
      if event_ticks ≠ 0 then .again r
      else
        let r := r.with_machine { r.machine with cpu_retirement_wait_pending := false }
        if cpu_fault_pending then complete_cpu_fault env r else phase_retired env r

/-- A pending retirement whose waits are over. -/
def phase_completion (env : Environment σ) (budget : RunBudget) (cpu_fault_pending : Bool)
    (event_ticks : ℕ) (r : Run σ) : Phase σ :=
  if !r.machine.cpu_retirement_wait_pending then .next r
  else
    let completion_ticks := r.machine.cpu_retirement_completion_ticks
    let retiring_ticks := completion_ticks - event_ticks
    if completion_ticks < event_ticks ∨ uint64_max - r.result.ticks < completion_ticks ∨
        uint64_max - r.machine.elapsed_ticks < completion_ticks then
      (r.with_machine (report_fault r.machine fault_time)).stamped.faulted env
    else if r.machine.cpu_retirement_wait_retires ∧ budget.ticks ≠ 0 ∧
        budget.ticks - r.result.ticks < retiring_ticks then retire_partly env budget r
    else if !r.machine.cpu_retirement_wait_retires then
      complete_event env budget cpu_fault_pending r
    else retire_pending env cpu_fault_pending retiring_ticks event_ticks r

/-- The largest instruction has to fit into what is left of the budget. -/
def phase_budget (env : Environment σ) (budget : RunBudget) (r : Run σ) : Phase σ :=
  if budget.ticks ≠ 0 ∧ budget.ticks - r.result.ticks < r.machine.maximum_instruction_ticks then
    r.stamped.pause env .budget
  else .next r

/-- The machine after one round of the processor. -/
def execute_round (env : Environment σ) (m : CoreMachine σ) : CoreMachine σ :=
  let a := env.execution_refresh m.owner
  let m := m.after a
  { m with
    fault_detail := a.value.fault_detail.getD m.fault_detail
    external_cycle_round_ticks := a.value.external_cycle_round_ticks
    external_cycle_round_overflow :=
      m.external_cycle_round_overflow || a.value.external_cycle_round_overflow }

/-- The retirement of an instruction at once. -/
def retire_at_once (env : Environment σ) (instruction_ticks : ℕ) (r : Run σ) : Phase σ :=
  let retirement := publish_successful_retirement env
    { r.machine with cpu_retirement_source_ticks := instruction_ticks }
  let r := r.with_machine retirement.2
  if !retirement.1 then
    (r.with_machine (report_fault r.machine fault_time_unqualified)).stamped.faulted env
  else
    let r := r.retired.charged instruction_ticks
    let published := publish_elapsed_ticks env r.machine instruction_ticks .cpu_retirement
    let r := r.with_machine published.2
    if published.1 ≠ .ok then
      (r.with_machine (report_fault r.machine fault_time)).stamped.faulted env
    else
      let r := (r.with_machine { r.machine with cpu_retirement_source_ticks := 0 }).stamped
      if r.machine.fault_detail ≠ 0 then complete_cpu_fault env r else phase_retired env r

/-- The retirement of an instruction, at once or after a wait. -/
def retire_instruction (env : Environment σ) (timing : Timing) (r : Run σ) : Phase σ :=
  let m := r.machine
  let instruction_ticks := timing.ticks + timing.event_ticks + m.external_cycle_round_ticks
  if timing.ticks = 0 ∨ m.external_cycle_round_overflow ∨ uint64_max < instruction_ticks ∨
      uint64_max - r.result.ticks < instruction_ticks ∨
      uint64_max - m.elapsed_ticks < instruction_ticks then
    (r.with_machine (report_fault m fault_time)).stamped.faulted env
  else
    let m := if m.retirement_time_contract = .physical ∨ m.retirement_observation_bound then
        m.after (env.retirement_observation_capture_eligibility_key m.owner)
      else m
    if m.maximum_instruction_ticks = 0 ∨ m.external_cycle_round_ticks ≠ 0 ∨
        timing.event_ticks ≠ 0 then
      .again (r.with_machine (begin_retirement_wait m m.external_cycle_round_ticks
        (instruction_ticks - m.external_cycle_round_ticks)
        (if m.maximum_instruction_ticks = 0 then timing.ticks else instruction_ticks) true))
    else retire_at_once env instruction_ticks (r.with_machine m)

/-- The processor has delivered a fault or an event, or recorded a fault, and its
instruction did not retire. -/
def event_delivered (env : Environment σ) (timing : Timing) (m : CoreMachine σ) :
    Bool × CoreMachine σ :=
  if m.fault_detail ≠ 0 ∨ timing.event_ticks ≠ 0 then (timing.ticks == 0, m)
  else
    let delivered := m.call (some env.execution_consume_instruction_fault_delivery) false
    (delivered.1 && timing.ticks == 0, delivered.2)

/-- What follows a round that ended without an event: the processor shut down, stalls or
stays halted, or its instruction retires. -/
def settle_round (env : Environment σ) (was_halted : Bool) (timing : Timing) (r : Run σ) :
    Phase σ :=
  if env.cpu_is_shutdown r.machine.owner then finish_shutdown env r
  else
    let stalled := r.machine.call (some env.execution_consume_wait_stall) false
    let r := r.with_machine stalled.2
    if stalled.1 || (was_halted && env.cpu_is_halted r.machine.owner) then
      r.stamped.pause env .waiting_for_interrupt
    else
      let m := r.machine
      let m := if m.fault_detail = 0 ∧
          m.transaction_contract.cpu_prefetch_reservation_enabled ∧
          !env.cpu_is_system_waiting m.owner then
          m.after (env.execution_reserve_prefetch m.owner)
        else m
      retire_instruction env timing (r.with_machine m)

/-- One round of the processor. -/
def phase_execute (env : Environment σ) (r : Run σ) : Phase σ :=
  let was_halted := env.cpu_is_halted r.machine.owner
  let r := r.with_machine (execute_round env r.machine)
  if r.machine.lifecycle = .faulted then r.stamped.faulted env
  else
    let timing := env.cpu_capture_timing r.machine.owner
    let delivered := event_delivered env timing r.machine
    let r := r.with_machine delivered.2
    if delivered.1 then
      if r.machine.external_cycle_round_overflow then
        (r.with_machine (report_fault r.machine fault_time)).stamped.faulted env
      else if r.machine.external_cycle_round_ticks ≠ 0 ∨ timing.event_ticks ≠ 0 then
        .again (r.with_machine (begin_retirement_wait r.machine
          r.machine.external_cycle_round_ticks timing.event_ticks 0 false))
      else if r.machine.fault_detail ≠ 0 then complete_cpu_fault env r
      else if !env.cpu_is_shutdown r.machine.owner then r.pause_quietly env .budget
      else settle_round env was_halted timing r
    else settle_round env was_halted timing r

/-! ## The loop -/

/-- The part of an iteration before any time is published for the outside. -/
def requests (env : Environment σ) (r : Run σ) : Phase σ :=
  (phase_interruptions env r).and_then (phase_stop env (r.machine.fault_detail != 0))

/-- One iteration of the loop. `cpu_fault_pending` is sampled at its start, the ticks of a
pending event when the body reaches the pending retirement. -/
def execute_step (env : Environment σ) (budget : RunBudget) (r : Run σ) : Phase σ :=
  let cpu_fault_pending := r.machine.fault_detail != 0
  ((((requests env r).and_then (phase_reset env)).and_then (phase_refresh env budget)).and_then
    (phase_hold env)).and_then fun r =>
      let event_ticks := retirement_event_ticks env r.machine
      ((((phase_ready env r).and_then (phase_board_wait env)).and_then
        (phase_completion env budget cpu_fault_pending event_ticks)).and_then
        (phase_budget env budget)).and_then (phase_execute env)

/-- The condition of the loop. -/
def RunBudget.lasts (budget : RunBudget) (r : Run σ) : Bool :=
  (r.machine.cpu_retirement_wait_pending || budget.instructions == 0 ||
    decide (r.result.executed < budget.instructions)) &&
  (budget.ticks == 0 || decide (r.result.ticks < budget.ticks))

/-- The loop, for at most `fuel` iterations. -/
def execute_loop (env : Environment σ) (budget : RunBudget) : ℕ → Run σ → Option (Status × Run σ)
  | 0, _ => none
  | fuel + 1, r =>
      if budget.lasts r then
        match execute_step env budget r with
        | .next r | .again r => execute_loop env budget fuel r
        | .done status r => some (status, r)
      else
        match r.pause env .budget with
        | .done status r => some (status, r)
        | .next r | .again r => some (.ok, r)

/-- The result a run starts from. -/
def Run.start (env : Environment σ) (m : CoreMachine σ) : Run σ :=
  { machine := m
    result :=
      { reason := .none, executed := 0, ticks := 0, elapsed_ticks := m.elapsed_ticks,
        linear_pc := env.cpu_linear_pc m.owner, detail := 0 } }

def execute_budget (env : Environment σ) (fuel : ℕ) (m : CoreMachine σ) (budget : RunBudget) :
    Option (Status × Run σ) :=
  let r := Run.start env m
  if m.lifecycle = .faulted then
    some (.internal_error,
      { r with result := { r.result with reason := .fault, detail := m.fault_detail } })
  else if m.lifecycle ≠ .stopped ∧ m.lifecycle ≠ .paused then some (.invalid_state, r)
  else if budget.instructions = 0 ∧ budget.ticks = 0 then some (.invalid_argument, r)
  else if m.stop_requested then
    let reset := cold_reset env m
    let r := r.with_machine reset.2
    if reset.1 ≠ .ok then some (reset.1, r) else some (.ok, r.stopped_for env .requested)
  else execute_loop env budget fuel (r.with_lifecycle .running)

/-- What `run` makes of the end of the loop. -/
def Run.finish (env : Environment σ) (start_tick : ℕ) (status : Status) (r : Run σ) :
    Status × Run σ :=
  if r.machine.lifecycle = .faulted then
    (.internal_error,
      { r with
        result :=
          { r.result with
            reason := .fault
            detail := r.machine.fault_detail
            ticks := r.machine.elapsed_ticks - start_tick
            elapsed_ticks := r.machine.elapsed_ticks
            linear_pc := env.cpu_linear_pc r.machine.owner } })
  else (status, r)

def machine_run (env : Environment σ) (fuel : ℕ) (m : CoreMachine σ) (budget : RunBudget) :
    Option (Status × Run σ) :=
  (execute_budget env fuel m budget).map fun e => e.2.finish env m.elapsed_ticks e.1

end Nxvm.Machine
