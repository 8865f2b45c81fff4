/-
Advancing the machine's time (`machine_scheduler.c`): the scheduler cuts a span of
ticks at the deadlines its owners report, and lets every owner work up to each cut.

The deadlines come from the timeline, the coprocessor, the processor's wait, the
refresh cycle and the board. `Deadline` says what is pending; `scheduler_due_tick`
is what the source makes of the reports.
-/
import Nxvm.Machine.CoreMachine

set_option autoImplicit false

namespace Nxvm.Machine

variable {σ : Type}

/-! ## Bus transactions (`transaction.c`) -/

def transaction_hold_request (t : Transaction) (owner : TransactionOwner) :
    Status × Transaction :=
  if owner = .none ∨ t.owner ≠ .none ∨ t.hold_owner ≠ .none then (.invalid_argument, t)
  else (.ok, { t with hold_owner := owner, hold_acknowledged := false })

def transaction_hold_acknowledge (t : Transaction) (owner : TransactionOwner) :
    Status × Transaction :=
  if owner = .none ∨ t.owner ≠ .none ∨ t.hold_owner ≠ owner ∨ t.hold_acknowledged then
    (.invalid_argument, t)
  else (.ok, { t with hold_acknowledged := true })

def transaction_hold_release (t : Transaction) (owner : TransactionOwner) : Transaction :=
  if owner = .none ∨ t.hold_owner ≠ owner ∨ t.owner ≠ .none then t
  else { t with hold_owner := .none, hold_acknowledged := false }

def transaction_begin (t : Transaction) (owner : TransactionOwner) : Status × Transaction :=
  if owner = .none ∨ t.owner ≠ .none ∨
      (t.hold_owner ≠ .none ∧ (t.hold_owner ≠ owner ∨ !t.hold_acknowledged)) then
    (.invalid_argument, t)
  else (.ok, { t with owner := owner })

def transaction_commit (t : Transaction) : Transaction := { t with owner := .none }

/-! ## The refresh cycle -/

/-- The end of a refresh cycle: the cycle is committed, the board told, the bus let go. -/
def refresh_finish (env : Environment σ) (m : CoreMachine σ) : CoreMachine σ :=
  let m := { m with transaction := transaction_commit m.transaction }
  let m := (m.call env.attachment_refresh_complete ()).2
  { m with transaction := transaction_hold_release m.transaction .refresh }

def refresh_hold_advance (env : Environment σ) (source_ticks : ℕ) (m : CoreMachine σ) :
    CoreMachine σ :=
  if m.refresh_cycle_ticks_remaining ≠ 0 then
    if source_ticks < m.refresh_cycle_ticks_remaining then
      { m with
        refresh_cycle_ticks_remaining := m.refresh_cycle_ticks_remaining - source_ticks }
    else refresh_finish env { m with refresh_cycle_ticks_remaining := 0 }
  else
    let asked := m.call env.attachment_refresh_request false
    let m := asked.2
    if !asked.1 then m
    else
      let hold := transaction_hold_request m.transaction .refresh
      if hold.1 ≠ .ok then m
      else
        let acknowledged := transaction_hold_acknowledge hold.2 .refresh
        let begun := transaction_begin acknowledged.2 .refresh
        if acknowledged.1 = .ok ∧ begun.1 = .ok then
          let m :=
            { m with
              transaction := begun.2
              refresh_cycle_ticks_remaining :=
                m.transaction_contract.refresh_cycle_source_ticks }
          if m.refresh_cycle_ticks_remaining ≠ 0 then m else refresh_finish env m
        else
          { m with transaction := transaction_hold_release acknowledged.2 .refresh }

/-! ## Observing the deadlines -/

/-- `time_observation`, the members a caller of the scheduler reads. -/
inductive TimeProgress where
  | idle
  | immediate
  | l1_compatibility
  | deadline
  deriving DecidableEq, Repr

structure TimeObservation where
  elapsed_ticks : ℕ
  next_deadline_tick : ℕ
  next_deadline_valid : Bool
  progress_disposition : TimeProgress
  deriving DecidableEq, Repr

/-- The nearest deadline found so far, as ticks from now with 0 for none, and whether one
is due already. -/
structure Nearest where
  source_ticks : ℕ
  immediate_due : Bool
  deriving DecidableEq, Repr

/-- `deadline_consider_absolute`, with its answer kept in the result. -/
def Nearest.consider_absolute (n : Nearest) (now due_tick : ℕ) : Nearest :=
  if due_tick ≤ now then { n with immediate_due := true }
  else if n.source_ticks = 0 ∨ due_tick - now < n.source_ticks then
    { n with source_ticks := due_tick - now }
  else n

/-- A report as a tick of the clock, where there is one. -/
def Nearest.consider_due (n : Nearest) (now : ℕ) (due_tick : Option ℕ) : Nearest :=
  match due_tick with
  | some due_tick => n.consider_absolute now due_tick
  | none => n

/-- Whether an owner is due at once. -/
def Nearest.consider_immediate (n : Nearest) (immediate_due : Bool) : Nearest :=
  { n with immediate_due := n.immediate_due || immediate_due }

/-- A report in ticks from now, left out where it is past the end of the clock. -/
def Nearest.consider_device (n : Nearest) (now : ℕ) (device_ticks : Option ℕ) : Nearest :=
  match device_ticks with
  | some ticks => if ticks ≤ uint64_max - now then n.consider_absolute now (now + ticks) else n
  | none => n

/-- A report in ticks from now with 0 for none. -/
def Nearest.consider_source (n : Nearest) (ticks : ℕ) : Nearest :=
  if ticks ≠ 0 ∧ (n.source_ticks = 0 ∨ ticks < n.source_ticks) then
    { n with source_ticks := ticks }
  else n

/-- What the board reports. -/
def board_deadline (env : Environment σ) (m : CoreMachine σ) : BoardDeadline :=
  match env.attachment_deadline with
  | some f => f m.owner m.elapsed_ticks
  | none => {}

/-- NEC's initial poll belongs to the completing instruction: while its retirement is
pending the wait has no deadline. -/
def wait_poll_ticks (env : Environment σ) (m : CoreMachine σ) : Option ℕ :=
  if m.cpu_profile_v30 ∧
      (m.cpu_retirement_source_ticks ≠ 0 ∨ m.cpu_retirement_wait_pending) then none
  else env.execution_wait_poll_ticks m.owner

/-- All reports together, in the order of the source. -/
def nearest_deadline (env : Environment σ) (m : CoreMachine σ) : Nearest :=
  let now := m.elapsed_ticks
  let n : Nearest := { source_ticks := 0, immediate_due := false }
  let n := n.consider_due now (env.timeline_next_due m.owner)
  let n := n.consider_device now (env.fpu_ticks_until_completion m.owner)
  let n := n.consider_device now (wait_poll_ticks env m)
  let n := n.consider_source m.refresh_cycle_ticks_remaining
  let board := board_deadline env m
  let n := n.consider_immediate board.immediate_due
  n.consider_source board.source_ticks

def capture_time_with_board (env : Environment σ) (m : CoreMachine σ) :
    TimeObservation × BoardDeadline :=
  let board := board_deadline env m
  let n := nearest_deadline env m
  let observation : TimeObservation :=
    { elapsed_ticks := m.elapsed_ticks, next_deadline_tick := 0, next_deadline_valid := false,
      progress_disposition := .idle }
  if n.immediate_due then
    ({ observation with progress_disposition := .immediate }, board)
  else if board.l1_compatibility then
    ({ observation with progress_disposition := .l1_compatibility }, board)
  else
    let observation := if n.source_ticks ≠ 0 then
      { observation with progress_disposition := .deadline } else observation
    if board.fast_advance_blocked then (observation, board)
    else if n.source_ticks ≠ 0 ∧ n.source_ticks ≤ uint64_max - m.elapsed_ticks then
      ({ observation with
          next_deadline_tick := m.elapsed_ticks + n.source_ticks
          next_deadline_valid := true }, board)
    else (observation, board)

/-! ## The loop -/

def arbitration_advance (env : Environment σ) (source_ticks : ℕ) (m : CoreMachine σ) :
    CoreMachine σ :=
  if source_ticks = 0 then m
  else
    let m := refresh_hold_advance env source_ticks m
    m.after (env.arbitrate source_ticks m)

def internal_advance (env : Environment σ) (source_ticks : ℕ) (m : CoreMachine σ) :
    CoreMachine σ :=
  if source_ticks = 0 then m else m.after (env.internal_advance source_ticks m)

/-- How far one round of the scheduler goes. -/
def scheduler_due_tick (env : Environment σ) (target_tick : ℕ) (m : CoreMachine σ) : ℕ :=
  let observed := capture_time_with_board env m
  let observation := observed.1
  let board := observed.2
  if board.l1_compatibility then m.elapsed_ticks + 1
  else if observation.next_deadline_valid ∧ observation.next_deadline_tick > m.elapsed_ticks ∧
      observation.next_deadline_tick < target_tick then observation.next_deadline_tick
  else if board.fast_advance_blocked then m.elapsed_ticks + 1
  else target_tick

/-- The machine a round of the scheduler observes: a board that asks for a refresh cycle of
some length has got it. -/
def scheduler_observed (env : Environment σ) (m : CoreMachine σ) : CoreMachine σ :=
  if m.transaction_contract.refresh_cycle_source_ticks ≠ 0 then refresh_hold_advance env 0 m
  else m

/-- One round of `advance_scheduler`. -/
def scheduler_step (env : Environment σ) (target_tick : ℕ) (m : CoreMachine σ) :
    CoreMachine σ :=
  let m := scheduler_observed env m
  let due_tick := scheduler_due_tick env target_tick m
  let source_ticks := due_tick - m.elapsed_ticks
  let m := { m with elapsed_ticks := due_tick }
  let m := m.after (env.timeline_advance due_tick m.owner)
  let m := arbitration_advance env source_ticks m
  let m := (m.call (env.attachment_before_internal_advance.map fun f => f source_ticks due_tick)
    ()).2
  let m := internal_advance env source_ticks m
  (m.call (env.attachment_after_internal_advance.map fun f => f source_ticks due_tick) ()).2

/-! ### A round goes forward -/

theorem refresh_finish_undisturbed (env : Environment σ) (m : CoreMachine σ) :
    Undisturbed m (refresh_finish env m) := by
  have h := CoreMachine.call_undisturbed
    { m with transaction := transaction_commit m.transaction } env.attachment_refresh_complete ()
  exact ⟨h.elapsed_ticks, h.wait_pending, h.wait_ticks, h.completion_ticks, h.wait_retires,
    h.maximum_instruction_ticks, h.retirement_time_contract, h.lifecycle⟩

theorem refresh_hold_advance_undisturbed (env : Environment σ) (source_ticks : ℕ)
    (m : CoreMachine σ) : Undisturbed m (refresh_hold_advance env source_ticks m) := by
  have hasked := m.call_undisturbed env.attachment_refresh_request false
  unfold refresh_hold_advance
  dsimp only
  split_ifs
  · exact ⟨rfl, rfl, rfl, rfl, rfl, rfl, rfl, Or.inl rfl⟩
  · have h := refresh_finish_undisturbed env { m with refresh_cycle_ticks_remaining := 0 }
    exact ⟨h.elapsed_ticks, h.wait_pending, h.wait_ticks, h.completion_ticks, h.wait_retires,
      h.maximum_instruction_ticks, h.retirement_time_contract, h.lifecycle⟩
  · exact hasked
  · exact hasked
  · exact ⟨hasked.elapsed_ticks, hasked.wait_pending, hasked.wait_ticks,
      hasked.completion_ticks, hasked.wait_retires, hasked.maximum_instruction_ticks,
      hasked.retirement_time_contract, hasked.lifecycle⟩
  · refine Undisturbed.trans (Undisturbed.trans hasked ?_) (refresh_finish_undisturbed env _)
    exact ⟨rfl, rfl, rfl, rfl, rfl, rfl, rfl, Or.inl rfl⟩
  · exact ⟨hasked.elapsed_ticks, hasked.wait_pending, hasked.wait_ticks,
      hasked.completion_ticks, hasked.wait_retires, hasked.maximum_instruction_ticks,
      hasked.retirement_time_contract, hasked.lifecycle⟩

theorem scheduler_observed_undisturbed (env : Environment σ) (m : CoreMachine σ) :
    Undisturbed m (scheduler_observed env m) := by
  unfold scheduler_observed
  split_ifs
  · exact refresh_hold_advance_undisturbed env 0 m
  · exact Undisturbed.refl m

theorem arbitration_advance_undisturbed (env : Environment σ) (source_ticks : ℕ)
    (m : CoreMachine σ) : Undisturbed m (arbitration_advance env source_ticks m) := by
  unfold arbitration_advance
  split_ifs
  · exact Undisturbed.refl m
  · exact (refresh_hold_advance_undisturbed env source_ticks m).trans
      (CoreMachine.after_undisturbed _ _)

theorem internal_advance_undisturbed (env : Environment σ) (source_ticks : ℕ)
    (m : CoreMachine σ) : Undisturbed m (internal_advance env source_ticks m) := by
  unfold internal_advance
  split_ifs
  · exact Undisturbed.refl m
  · exact CoreMachine.after_undisturbed _ _

/-- A round moves the clock to the tick it chose and disturbs nothing else. -/
theorem scheduler_step_undisturbed (env : Environment σ) (target_tick : ℕ)
    (m : CoreMachine σ) :
    Undisturbed
      { m with elapsed_ticks := scheduler_due_tick env target_tick (scheduler_observed env m) }
      (scheduler_step env target_tick m) := by
  have h := scheduler_observed_undisturbed env m
  unfold scheduler_step
  dsimp only
  refine Undisturbed.trans ?_ (CoreMachine.call_undisturbed ..)
  refine Undisturbed.trans ?_ (internal_advance_undisturbed ..)
  refine Undisturbed.trans ?_ (CoreMachine.call_undisturbed ..)
  refine Undisturbed.trans ?_ (arbitration_advance_undisturbed ..)
  refine Undisturbed.trans ?_ (CoreMachine.after_undisturbed ..)
  exact ⟨rfl, h.wait_pending, h.wait_ticks, h.completion_ticks, h.wait_retires,
    h.maximum_instruction_ticks, h.retirement_time_contract, h.lifecycle⟩

theorem scheduler_due_tick_bounds (env : Environment σ) (target_tick : ℕ) (m : CoreMachine σ)
    (h : m.elapsed_ticks < target_tick) :
    m.elapsed_ticks < scheduler_due_tick env target_tick m ∧
      scheduler_due_tick env target_tick m ≤ target_tick := by
  unfold scheduler_due_tick
  dsimp only
  split_ifs <;> omega

theorem scheduler_step_elapsed (env : Environment σ) (target_tick : ℕ) (m : CoreMachine σ) :
    (scheduler_step env target_tick m).elapsed_ticks =
      scheduler_due_tick env target_tick (scheduler_observed env m) :=
  (scheduler_step_undisturbed env target_tick m).elapsed_ticks

theorem scheduler_step_bounds (env : Environment σ) (target_tick : ℕ) (m : CoreMachine σ)
    (h : m.elapsed_ticks < target_tick) :
    m.elapsed_ticks < (scheduler_step env target_tick m).elapsed_ticks ∧
      (scheduler_step env target_tick m).elapsed_ticks ≤ target_tick := by
  have he := (scheduler_observed_undisturbed env m).elapsed_ticks
  rw [scheduler_step_elapsed]
  have hb := scheduler_due_tick_bounds env target_tick (scheduler_observed env m) (by omega)
  omega

def advance_scheduler_loop (env : Environment σ) (target_tick : ℕ) (m : CoreMachine σ) :
    CoreMachine σ :=
  if _h : m.elapsed_ticks < target_tick then
    advance_scheduler_loop env target_tick (scheduler_step env target_tick m)
  else m
termination_by target_tick - m.elapsed_ticks
decreasing_by
  have := scheduler_step_bounds env target_tick m _h
  omega

def advance_scheduler (env : Environment σ) (m : CoreMachine σ) (elapsed_ticks : ℕ) :
    CoreMachine σ :=
  if elapsed_ticks = 0 ∨ uint64_max - m.elapsed_ticks < elapsed_ticks then m
  else
    let m := advance_scheduler_loop env (m.elapsed_ticks + elapsed_ticks) m
    m.after (env.provider_advance elapsed_ticks m.owner)

end Nxvm.Machine
