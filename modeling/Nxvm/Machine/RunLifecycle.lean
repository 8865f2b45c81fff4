/-
In which lifecycle a run leaves the machine (`machine.c`).

`execute_budget` puts the machine into RUNNING and has to put it into another
lifecycle on every way out. Five ways out forget to: a soft reset the processor
refuses, and a publication of time that is refused without a fault. What is
refused is said by `StepRefused`, part by part of an iteration, of the state the
part starts from.
-/
import Nxvm.Machine.Run

set_option autoImplicit false

namespace Nxvm.Machine

variable {σ : Type}

/-! ## Parts that may refuse -/

/-- `p` returns with `bad` exactly if something was refused, and else with `good`, or goes
on with `next` or `again`. -/
def Phase.Splits (p : Phase σ) (refused : Prop) (next again good bad : Run σ → Prop) : Prop :=
  match p with
  | .next r => ¬ refused ∧ next r
  | .again r => ¬ refused ∧ again r
  | .done _ r => (refused ∧ bad r) ∨ (¬ refused ∧ good r)

/-- A later part refuses where the parts before it go on to it and it refuses there. -/
def Phase.Later (p : Phase σ) (refused : Run σ → Prop) : Prop := ∃ r, p = .next r ∧ refused r

section Splits

variable {p : Phase σ} {refused : Prop} {next next' again good bad : Run σ → Prop}

theorem Phase.Splits.and_then {f : Run σ → Phase σ} {refused' : Run σ → Prop}
    (h : p.Splits refused next again good bad)
    (hf : ∀ r, next r → (f r).Splits (refused' r) next' again good bad) :
    (p.and_then f).Splits (refused ∨ p.Later refused') next' again good bad := by
  cases p with
  | next r =>
    obtain ⟨hnot, hnext⟩ := h
    have hr := hf r hnext
    have hiff : (refused ∨ (Phase.next r).Later refused') ↔ refused' r := by
      constructor
      · rintro (h | ⟨r', he, h⟩)
        · exact absurd h hnot
        · cases he
          exact h
      · intro h
        exact Or.inr ⟨r, rfl, h⟩
    rw [hiff]
    exact hr
  | again r =>
    refine ⟨?_, h.2⟩
    rintro (hr | ⟨r', he, _⟩)
    · exact h.1 hr
    · cases he
  | done status r =>
    have hiff : (refused ∨ (Phase.done status r).Later refused') ↔ refused := by
      constructor
      · rintro (h | ⟨r', he, _⟩)
        · exact h
        · cases he
      · exact Or.inl
    rw [hiff]
    exact h

theorem Phase.later_and_then (p : Phase σ) (f : Run σ → Phase σ) (refused : Run σ → Prop) :
    (p.and_then f).Later refused ↔ p.Later fun r => (f r).Later refused := by
  cases p <;> simp [Phase.and_then, Phase.Later]

theorem Phase.later_or (p : Phase σ) (refused refused' : Run σ → Prop) :
    (p.Later fun r => refused r ∨ refused' r) ↔ p.Later refused ∨ p.Later refused' := by
  cases p <;> simp [Phase.Later]

theorem Phase.not_later_false (p : Phase σ) : ¬ p.Later fun _ => False := by
  rintro ⟨r, _, h⟩
  exact h

theorem Phase.Splits.of_iff {refused' : Prop} (h : p.Splits refused next again good bad)
    (he : refused ↔ refused') : p.Splits refused' next again good bad := by
  rw [← he]
  exact h

/-- A return where nothing was refused. -/
theorem Phase.Splits.returns {status : Status} {r : Run σ} (h : good r) :
    (Phase.done status r).Splits False next again good bad :=
  Or.inr ⟨not_false, h⟩

end Splits

/-! ## Publications -/

theorem advance_scheduler_loop_undisturbed (env : Environment σ) (target_tick : ℕ)
    (m : CoreMachine σ) (h : m.elapsed_ticks ≤ target_tick) :
    Undisturbed { m with elapsed_ticks := target_tick }
      (advance_scheduler_loop env target_tick m) := by
  induction m using advance_scheduler_loop.induct env target_tick with
  | case1 m hlt ih =>
    rw [advance_scheduler_loop, dif_pos hlt]
    have hstep := scheduler_step_undisturbed env target_tick m
    refine Undisturbed.trans ?_ (ih (scheduler_step_bounds env target_tick m hlt).2)
    exact ⟨rfl, hstep.wait_pending, hstep.wait_ticks, hstep.completion_ticks,
      hstep.wait_retires, hstep.maximum_instruction_ticks, hstep.retirement_time_contract,
      hstep.lifecycle⟩
  | case2 m hge =>
    rw [advance_scheduler_loop, dif_neg hge]
    exact ⟨by dsimp only; omega, rfl, rfl, rfl, rfl, rfl, rfl, Or.inl rfl⟩

theorem advance_scheduler_undisturbed (env : Environment σ) (m : CoreMachine σ) (ticks : ℕ)
    (hpos : 0 < ticks) (hfit : ticks ≤ uint64_max - m.elapsed_ticks) :
    Undisturbed { m with elapsed_ticks := m.elapsed_ticks + ticks }
      (advance_scheduler env m ticks) := by
  unfold advance_scheduler
  rw [if_neg (by omega)]
  exact (advance_scheduler_loop_undisturbed env _ m (by omega)).trans
    (CoreMachine.after_undisturbed _ _)

/-- What became of a publication. -/
inductive Published (env : Environment σ) (m : CoreMachine σ) (ticks : ℕ)
    (origin : PublicationOrigin) : Status × CoreMachine σ → Prop where
  | invalid (h : ticks = 0 ∨ uint64_max - m.elapsed_ticks < ticks) :
      Published env m ticks origin (.invalid_argument, m)
  | refused (hpos : 0 < ticks) (hfit : ticks ≤ uint64_max - m.elapsed_ticks)
      (h : publication_refused env m origin = true) :
      Published env m ticks origin (.invalid_state, m)
  | published (hpos : 0 < ticks) (hfit : ticks ≤ uint64_max - m.elapsed_ticks)
      (h : publication_refused env m origin = false) (status : Status) (m' : CoreMachine σ)
      (hm : Undisturbed { m with elapsed_ticks := m.elapsed_ticks + ticks } m')
      (hs : status = .ok ↔ m'.lifecycle ≠ .faulted) :
      Published env m ticks origin (status, m')

theorem publish_elapsed_ticks_published (env : Environment σ) (m : CoreMachine σ) (ticks : ℕ)
    (origin : PublicationOrigin) :
    Published env m ticks origin (publish_elapsed_ticks env m ticks origin) := by
  unfold publish_elapsed_ticks
  by_cases hbad : ticks = 0 ∨ uint64_max - m.elapsed_ticks < ticks
  · rw [if_pos hbad]
    exact .invalid hbad
  · rw [if_neg hbad]
    cases href : publication_refused env m origin with
    | true =>
      rw [if_pos rfl]
      exact .refused (by omega) (by omega) href
    | false =>
      rw [if_neg (by simp)]
      refine .published (by omega) (by omega) href _ _
        (advance_scheduler_undisturbed env m ticks (by omega) (by omega)) ?_
      split_ifs with hf <;> simp [hf]

/-! ## Lifecycles inside an iteration -/

/-- A run inside the loop: the machine runs, or some call faulted it. -/
structure Run.Live (r : Run σ) : Prop where
  lifecycle : r.machine.lifecycle = .running ∨ r.machine.lifecycle = .faulted
  clock : r.machine.elapsed_ticks ≤ uint64_max

/-- A part that keeps the loop live, and returns in RUNNING exactly if it refuses. -/
abbrev Phase.Settles (p : Phase σ) (refused : Prop) : Prop :=
  p.Splits refused Run.Live Run.Live (fun r => r.machine.lifecycle ≠ .running)
    (fun r => r.machine.lifecycle = .running)

theorem Run.Live.undisturbed {r : Run σ} {m : CoreMachine σ} (h : r.Live)
    (hm : Undisturbed r.machine m) (result : RunResult) :
    Run.Live { machine := m, result := result } where
  lifecycle := by
    rcases hm.lifecycle with he | hf
    · rw [he]
      exact h.lifecycle
    · exact Or.inr hf
  clock := by
    rw [hm.elapsed_ticks]
    exact h.clock

/-- A live run that is not faulted runs. -/
theorem Run.Live.running {r : Run σ} (h : r.Live) (hf : r.machine.lifecycle ≠ .faulted) :
    r.machine.lifecycle = .running :=
  h.lifecycle.resolve_right hf

theorem Undisturbed.left {m m' : CoreMachine σ} (h : Undisturbed m m')
    (hl : m.lifecycle ≠ .running) : m'.lifecycle ≠ .running := by
  rcases h.lifecycle with he | hf
  · rw [he]
    exact hl
  · rw [hf]
    decide

theorem report_fault_left (m : CoreMachine σ) (detail : ℕ) :
    (report_fault m detail).lifecycle ≠ .running := by
  rcases report_fault_lifecycle m detail with h | h <;> rw [h] <;> decide

section Returns

variable {next again bad : Run σ → Prop} (env : Environment σ)

/-- The way out of a part that does not refuse. -/
abbrev Phase.Leaves (p : Phase σ) (next again bad : Run σ → Prop) : Prop :=
  p.Splits False next again (fun r => r.machine.lifecycle ≠ .running) bad

theorem Run.fault_leaves (r : Run σ) (detail : ℕ) :
    (r.fault env detail).Leaves next again bad :=
  Phase.Splits.returns (report_fault_left r.machine detail)

theorem Run.reported_leaves (r : Run σ) (m : CoreMachine σ) (detail : ℕ) :
    ((r.with_machine (report_fault m detail)).stamped.faulted env).Leaves next again bad :=
  Phase.Splits.returns (report_fault_left m detail)

theorem complete_run_boundary_leaves (r : Run σ) (h : r.machine.lifecycle ≠ .running) :
    (complete_run_boundary env r).Leaves next again bad := by
  have hcall := (r.machine.call_undisturbed env.firmware_after_run .ok).left h
  unfold complete_run_boundary
  dsimp only
  split_ifs
  · exact Phase.Splits.returns (report_fault_left _ _)
  · exact Phase.Splits.returns hcall
  · exact Phase.Splits.returns hcall

theorem Run.pause_leaves (r : Run σ) (reason : StopReason) :
    (r.pause env reason).Leaves next again bad :=
  complete_run_boundary_leaves env _ (by simp [Run.with_lifecycle, Run.stopped_for])

theorem Run.pause_quietly_leaves (r : Run σ) (reason : StopReason) :
    (r.pause_quietly env reason).Leaves next again bad :=
  Phase.Splits.returns (by simp [Run.with_lifecycle, Run.stopped_for, Run.stamped])

theorem complete_cpu_fault_leaves (r : Run σ) :
    (complete_cpu_fault env r).Leaves next again bad :=
  Run.fault_leaves env _ _

theorem finish_shutdown_leaves (r : Run σ) (h : r.Live) :
    (finish_shutdown env r).Leaves next Run.Live bad := by
  unfold finish_shutdown
  dsimp only
  generalize hasked : (if env.cpu_is_system_waiting r.machine.owner = true then (false, r.machine)
    else r.machine.call env.attachment_shutdown_reset false) = asked
  have hm : Undisturbed r.machine asked.2 := by
    rw [← hasked]
    split_ifs
    · exact Undisturbed.refl _
    · exact r.machine.call_undisturbed env.attachment_shutdown_reset false
  split_ifs
  · exact ⟨not_false, h.undisturbed hm r.result⟩
  · exact complete_run_boundary_leaves env _
      (by simp [Run.with_lifecycle, Run.stopped_for, Run.stamped])

end Returns

/-! ## What is refused -/

/-- Under the physical contract no time is published for the outside. -/
def external_refused (m : CoreMachine σ) : Prop :=
  m.retirement_time_contract = .physical ∧ m.lifecycle ≠ .faulted

/-- The processor refuses the soft reset it is asked for. -/
def reset_refused (env : Environment σ) (r : Run σ) : Prop :=
  let asked := r.machine.call (some env.execution_consume_reset_request) .none
  asked.1 = .soft ∧ (env.cpu_state_soft_reset asked.2.owner).value ≠ .ok ∧
    (asked.2.after (env.cpu_state_soft_reset asked.2.owner)).lifecycle ≠ .faulted

/-- A hold is asserted that may not take time. -/
def hold_refused (env : Environment σ) (r : Run σ) : Prop :=
  let held := r.machine.call env.attachment_cpu_hold_asserted false
  held.1 = true ∧ (r.with_machine held.2).out_of_time = false ∧ external_refused held.2

/-- The bus is not ready and may not take time. -/
def ready_refused (r : Run σ) : Prop :=
  r.machine.cpu_retirement_wait_pending = true ∧
    r.machine.transaction_contract.cpu_cycle_bus_ready_gate_enabled = true ∧
    r.machine.cpu_cycle_bus_ready = false ∧ r.out_of_time = false ∧ external_refused r.machine

/-- The board waits and may not take time. -/
def board_wait_refused (r : Run σ) : Prop :=
  r.machine.cpu_retirement_wait_pending = true ∧ r.machine.cpu_retirement_wait_ticks ≠ 0 ∧
    r.out_of_time = false ∧ external_refused r.machine

/-- The completion of a pending retirement is one the loop goes into. -/
def completion_fits (event_ticks : ℕ) (r : Run σ) : Prop :=
  r.machine.cpu_retirement_wait_pending = true ∧
    event_ticks ≤ r.machine.cpu_retirement_completion_ticks ∧
    r.machine.cpu_retirement_completion_ticks ≤ uint64_max - r.result.ticks ∧
    r.machine.cpu_retirement_completion_ticks ≤ uint64_max - r.machine.elapsed_ticks

/-- An event may not take time. -/
def event_refused (budget : RunBudget) (event_ticks : ℕ) (r : Run σ) : Prop :=
  completion_fits event_ticks r ∧ r.machine.cpu_retirement_wait_retires = false ∧
    budget.clip r r.machine.cpu_retirement_completion_ticks ≠ 0 ∧ external_refused r.machine

/-- An instruction retires in no time. -/
def empty_retirement (env : Environment σ) (event_ticks : ℕ) (r : Run σ) : Prop :=
  completion_fits event_ticks r ∧ r.machine.cpu_retirement_wait_retires = true ∧
    r.machine.cpu_retirement_completion_ticks = event_ticks ∧
    (publish_successful_retirement env r.machine).1 = true ∧
    (publish_successful_retirement env r.machine).2.lifecycle ≠ .faulted

/-- Something is refused in the parts of an iteration that follow the hold. -/
def completion_refused (env : Environment σ) (budget : RunBudget) (r : Run σ) : Prop :=
  ready_refused r ∨ (phase_ready env r).Later fun r₁ =>
    board_wait_refused r₁ ∨ (phase_board_wait env r₁).Later fun r₂ =>
      event_refused budget (retirement_event_ticks env r.machine) r₂ ∨
        empty_retirement env (retirement_event_ticks env r.machine) r₂

/-- Something is refused in the iteration that starts from `r`. -/
def StepRefused (env : Environment σ) (budget : RunBudget) (r : Run σ) : Prop :=
  (requests env r).Later fun r₁ =>
    reset_refused env r₁ ∨
      ((phase_reset env r₁).and_then (phase_refresh env budget)).Later fun r₂ =>
        hold_refused env r₂ ∨ (phase_hold env r₂).Later (completion_refused env budget)

/-! ## The parts of an iteration -/

section Parts

variable (env : Environment σ) (budget : RunBudget)

/-- A live run on which the budget still has ticks to spend. -/
structure Run.Lasting (budget : RunBudget) (r : Run σ) : Prop extends Run.Live r where
  ticks : budget.ticks = 0 ∨ r.result.ticks < budget.ticks

theorem Run.Lasting.undisturbed {budget : RunBudget} {r : Run σ} {m : CoreMachine σ}
    (h : r.Lasting budget) (hm : Undisturbed r.machine m) : (r.with_machine m).Lasting budget where
  toLive := h.toLive.undisturbed hm r.result
  ticks := h.ticks

theorem cold_reset_left (m : CoreMachine σ) : (cold_reset env m).2.lifecycle ≠ .running := by
  unfold cold_reset
  cases env.firmware_reset with
  | none => simp
  | some f =>
    dsimp only
    split_ifs <;> simp

theorem phase_interruptions_leaves {r : Run σ} (h : r.Lasting budget) :
    (phase_interruptions env r).Leaves (Run.Lasting budget) Run.Live
      (fun r => r.machine.lifecycle = .running) := by
  unfold phase_interruptions
  split_ifs with hf
  · exact Phase.Splits.returns (by simp [Run.stopped_for, hf])
  · have hasked := r.machine.call_undisturbed env.attachment_shutdown_reset false
    generalize r.machine.call env.attachment_shutdown_reset false = asked at hasked ⊢
    have hconsumed : Undisturbed r.machine (if asked.1 then
        asked.2.call (some env.execution_consume_shutdown_request) false
      else (false, asked.2)).2 := by
      split_ifs
      · exact hasked.trans (asked.2.call_undisturbed _ _)
      · exact hasked
    dsimp only
    generalize (if asked.1 then
        asked.2.call (some env.execution_consume_shutdown_request) false
      else (false, asked.2)) = consumed at hconsumed ⊢
    split_ifs
    · exact Phase.Splits.returns (by simp [Run.stopped_for, Run.with_lifecycle])
    · exact Run.pause_leaves env _ _
    · exact ⟨not_false, h.undisturbed (hconsumed.trans (consumed.2.call_undisturbed _ _))⟩

theorem stop_asked_undisturbed (cpu_fault_pending : Bool) (m : CoreMachine σ) :
    Undisturbed m (stop_asked env cpu_fault_pending m).2 := by
  unfold stop_asked
  split_ifs
  · exact Undisturbed.refl m
  · exact Undisturbed.refl m
  · exact m.call_undisturbed _ _

theorem phase_stop_leaves (cpu_fault_pending : Bool) {r : Run σ} (h : r.Lasting budget) :
    (phase_stop env cpu_fault_pending r).Leaves (Run.Lasting budget) Run.Live
      (fun r => r.machine.lifecycle = .running) := by
  unfold phase_stop
  dsimp only
  split_ifs
  · exact Phase.Splits.returns (cold_reset_left env _)
  · exact Phase.Splits.returns (cold_reset_left env _)
  · exact ⟨not_false, h.undisturbed (stop_asked_undisturbed env _ _)⟩

theorem requests_leaves {r : Run σ} (h : r.Lasting budget) :
    (requests env r).Leaves (Run.Lasting budget) Run.Live
      (fun r => r.machine.lifecycle = .running) := by
  refine ((phase_interruptions_leaves env budget h).and_then
    (fun _ h => phase_stop_leaves env budget _ h)).of_iff ?_
  simp [Phase.Later]

/-- A reset is refused where the processor refuses it. -/
theorem phase_reset_settles {r : Run σ} (h : r.Lasting budget) :
    (phase_reset env r).Splits (reset_refused env r) (Run.Lasting budget) Run.Live
      (fun r => r.machine.lifecycle ≠ .running) (fun r => r.machine.lifecycle = .running) := by
  have hasked := r.machine.call_undisturbed (some env.execution_consume_reset_request) .none
  unfold phase_reset reset_refused
  generalize r.machine.call (some env.execution_consume_reset_request) .none = asked
    at hasked ⊢
  dsimp only
  by_cases hnone : asked.1 = .none
  · rw [if_neg (by simp [hnone])]
    exact ⟨by simp [hnone], h.undisturbed hasked⟩
  rw [if_pos hnone]
  by_cases hsoft : asked.1 = .soft
  · have hafter := asked.2.after_undisturbed (env.cpu_state_soft_reset asked.2.owner)
    have hlive := (h.undisturbed (hasked.trans hafter)).lifecycle
    by_cases hok : (env.cpu_state_soft_reset asked.2.owner).value = .ok
    · rw [if_neg (by simp [processor_reset, hsoft, hok, Run.with_machine])]
      exact Or.inr ⟨by simp [hok], by simp [Run.with_lifecycle, Run.stopped_for]⟩
    · rw [if_pos (by simp [processor_reset, hsoft, hok, Run.with_machine])]
      by_cases hf : (asked.2.after (env.cpu_state_soft_reset asked.2.owner)).lifecycle = .faulted
      · refine Or.inr ⟨by simp [hf], ?_⟩
        simp [processor_reset, hsoft, hok, Run.with_machine, hf]
      · refine Or.inl ⟨⟨hsoft, hok, hf⟩, ?_⟩
        simpa [processor_reset, hsoft, hok, Run.with_machine, hf] using hlive
  · rw [if_neg (by simp [processor_reset, hsoft])]
    exact Or.inr ⟨by simp [hsoft], by simp [Run.with_lifecycle, Run.stopped_for]⟩

/-- Nothing is refused in the time a refresh cycle takes. -/
theorem phase_refresh_leaves {r : Run σ} (h : r.Lasting budget) :
    (phase_refresh env budget r).Leaves Run.Live Run.Live
      (fun r => r.machine.lifecycle = .running) := by
  have hobserved := h.undisturbed (scheduler_observed_undisturbed env r.machine)
  unfold phase_refresh
  generalize r.with_machine (scheduler_observed env r.machine) = r' at hobserved ⊢
  dsimp only
  by_cases hticks : r'.machine.refresh_cycle_ticks_remaining = 0
  · rw [if_neg (by simp [hticks])]
    exact ⟨not_false, hobserved.toLive⟩
  rw [if_pos hticks]
  have hclip : budget.clip r' r'.machine.refresh_cycle_ticks_remaining ≠ 0 := by
    have := hobserved.ticks
    unfold RunBudget.clip
    split_ifs <;> omega
  generalize budget.clip r' r'.machine.refresh_cycle_ticks_remaining = ticks at hclip ⊢
  by_cases hfit : uint64_max - r'.result.ticks < ticks ∨
      uint64_max - r'.machine.elapsed_ticks < ticks
  · rw [if_pos hfit]
    exact Run.fault_leaves env _ _
  rw [if_neg hfit]
  have hclock := hobserved.clock
  have hpublished := publish_elapsed_ticks_published env r'.machine ticks .deadline
  generalize publish_elapsed_ticks env r'.machine ticks .deadline = published at hpublished ⊢
  cases hpublished with
  | invalid hbad => omega
  | refused _ _ hrefused => simp [publication_refused] at hrefused
  | published _ _ _ status m hm hstatus =>
    have hlive := hobserved.lifecycle
    dsimp only
    split_ifs with hs
    · refine Phase.Splits.returns ?_
      have : m.lifecycle = .faulted := by
        by_contra hne
        exact hs (hstatus.2 hne)
      simp [Run.with_machine, this]
    · refine ⟨not_false, ?_, ?_⟩
      · rcases hm.lifecycle with he | hf
        · simpa [Run.stamped, Run.charged, Run.with_machine, he] using hlive
        · exact Or.inr hf
      · have := hm.elapsed_ticks
        simp only [Run.stamped, Run.charged, Run.with_machine] at this ⊢
        omega

/-- What became of one tick of an external wait: it is charged in every case. -/
inductive Waited (r : Run σ) : Status × Run σ → Prop where
  | refused (h : r.machine.retirement_time_contract = .physical) :
      Waited r (.invalid_state, r.charged 1)
  | waited (h : r.machine.retirement_time_contract ≠ .physical) (m : CoreMachine σ)
      (hm : Undisturbed { r.machine with elapsed_ticks := r.machine.elapsed_ticks + 1 } m)
      (hf : m.lifecycle ≠ .faulted) : Waited r (.ok, ((r.charged 1).with_machine m).stamped)
  | faulted (h : r.machine.retirement_time_contract ≠ .physical) (m : CoreMachine σ)
      (hm : Undisturbed { r.machine with elapsed_ticks := r.machine.elapsed_ticks + 1 } m)
      (hf : m.lifecycle = .faulted) (status : Status) (hs : status ≠ .ok) :
      Waited r (status, (r.charged 1).with_machine m)

theorem external_wait_tick_waited {r : Run σ} (h : r.Live) (htime : r.out_of_time = false) :
    Waited r (external_wait_tick env r) := by
  have hclock := h.clock
  have hroom : r.machine.elapsed_ticks ≠ uint64_max := by
    simp [Run.out_of_time] at htime
    exact htime.2
  unfold external_wait_tick
  have hpublished := publish_elapsed_ticks_published env (r.charged 1).machine 1 .external_wait
  have hm : (r.charged 1).machine = r.machine := rfl
  dsimp only
  generalize publish_elapsed_ticks env (r.charged 1).machine 1 .external_wait = published
    at hpublished ⊢
  rw [hm] at hpublished
  cases hpublished with
  | invalid hbad => omega
  | refused _ _ hrefused =>
    simp [publication_refused] at hrefused
    exact .refused hrefused
  | published _ _ hnot status m hm hs =>
    simp [publication_refused] at hnot
    by_cases hf : m.lifecycle = .faulted
    · have hne : status ≠ .ok := fun he => hs.1 he hf
      dsimp only
      rw [if_neg hne]
      exact .faulted hnot m hm hf status hne
    · obtain rfl := hs.2 hf
      exact .waited hnot m hm hf

/-- A wait that may not take time refuses, unless the machine is faulted already. -/
theorem phase_waits_settles {r : Run σ} {f : Run σ → Phase σ} (h : r.Live)
    (htime : r.out_of_time = false)
    (hf : ∀ r, r.Live → (f r).Leaves Run.Live Run.Live (fun r => r.machine.lifecycle = .running)) :
    (if (external_wait_tick env r).1 ≠ .ok then
        Phase.done .internal_error (external_wait_tick env r).2
      else f (external_wait_tick env r).2).Settles (external_refused r.machine) := by
  have hwaited := external_wait_tick_waited env h htime
  generalize external_wait_tick env r = waited at hwaited ⊢
  cases hwaited with
  | refused hp =>
    rw [if_pos (by simp)]
    by_cases hf : r.machine.lifecycle = .faulted
    · exact Or.inr ⟨fun hr => hr.2 hf, by simp [Run.charged, hf]⟩
    · exact Or.inl ⟨⟨hp, hf⟩, h.running hf⟩
  | waited hp m hm hok =>
    rw [if_neg (by simp)]
    have hroom : r.machine.elapsed_ticks ≠ uint64_max := by
      simp [Run.out_of_time] at htime
      exact htime.2
    have hclock := h.clock
    refine (hf _ ⟨?_, ?_⟩).of_iff ⟨False.elim, fun hr => hp hr.1⟩
    · rcases hm.lifecycle with he | he
      · simpa [Run.stamped, Run.charged, Run.with_machine, he] using h.lifecycle
      · exact absurd he hok
    · have := hm.elapsed_ticks
      simp only [Run.stamped, Run.charged, Run.with_machine] at this ⊢
      omega
  | faulted hp m hm hok status hs =>
    rw [if_pos hs]
    exact Or.inr ⟨fun hr => hp hr.1, by simp [Run.with_machine, hok]⟩

theorem phase_hold_settles {r : Run σ} (h : r.Live) :
    (phase_hold env r).Settles (hold_refused env r) := by
  have hheld := r.machine.call_undisturbed env.attachment_cpu_hold_asserted false
  unfold phase_hold hold_refused
  generalize r.machine.call env.attachment_cpu_hold_asserted false = held at hheld ⊢
  have hlive : (r.with_machine held.2).Live := h.undisturbed hheld r.result
  dsimp only
  cases hasserted : held.1 with
  | false =>
    rw [if_neg (by simp)]
    exact ⟨by simp, hlive⟩
  | true =>
    rw [if_pos rfl]
    cases htime : (r.with_machine held.2).out_of_time with
    | true =>
      rw [if_pos rfl]
      exact (Run.fault_leaves env _ _).of_iff (by simp)
    | false =>
      rw [if_neg (by simp)]
      exact (phase_waits_settles (f := .again) env hlive htime
        fun _ h => ⟨not_false, h⟩).of_iff
        (by simp [Run.with_machine])

theorem phase_ready_settles {r : Run σ} (h : r.Live) :
    (phase_ready env r).Settles (ready_refused r) := by
  unfold phase_ready ready_refused
  split_ifs with hwait htime
  · exact (Run.fault_leaves env _ _).of_iff (by simp [htime])
  · have htime : r.out_of_time = false := by simpa using htime
    refine (phase_waits_settles (f := .again) env h htime fun _ h => ⟨not_false, h⟩).of_iff ?_
    simp only [Bool.not_eq_true'] at hwait
    simp [hwait, htime]
  · refine ⟨fun hr => hwait ?_, h⟩
    simp [hr.1, hr.2.1, hr.2.2.1]

theorem phase_board_wait_settles {r : Run σ} (h : r.Live) :
    (phase_board_wait env r).Settles (board_wait_refused r) := by
  unfold phase_board_wait board_wait_refused
  dsimp only
  by_cases hwait : r.machine.cpu_retirement_wait_pending = true ∧
      r.machine.cpu_retirement_wait_ticks ≠ 0
  case neg =>
    rw [if_neg hwait]
    exact ⟨fun hr => hwait ⟨hr.1, hr.2.1⟩, h⟩
  rw [if_pos hwait]
  cases htime : r.out_of_time with
  | true =>
    rw [if_pos rfl]
    exact (Run.fault_leaves env _ _).of_iff (by simp)
  | false =>
    rw [if_neg (by simp)]
    generalize hspent : (r.with_machine { r.machine with
      cpu_retirement_wait_ticks := r.machine.cpu_retirement_wait_ticks - 1 }) = spent
    have hlive : spent.Live := by
      subst hspent
      exact ⟨h.lifecycle, h.clock⟩
    have hleft : spent.out_of_time = false := by
      subst hspent
      exact htime
    have hrefused : external_refused spent.machine ↔ external_refused r.machine := by
      subst hspent
      rfl
    refine (phase_waits_settles (f := fun r =>
        if !r.machine.cpu_profile_v30 && r.machine.cpu_retirement_wait_retires &&
            env.cpu_is_halted r.machine.owner then r.pause env .waiting_for_interrupt
        else if r.machine.cpu_retirement_wait_ticks ≠ 0 then .again r
        else .next r) env hlive hleft fun r h => ?_).of_iff ?_
    · split_ifs
      · exact Run.pause_leaves env _ _
      · exact ⟨not_false, h⟩
      · exact ⟨not_false, h⟩
    · rw [hrefused]
      simp [hwait]

/-- Time published from a live run leaves it live, unless the publication is refused. -/
theorem Run.Live.published {r : Run σ} {m : CoreMachine σ} (h : r.Live) (ticks : ℕ)
    (hfit : ticks ≤ uint64_max - r.machine.elapsed_ticks)
    (hm : Undisturbed { r.machine with elapsed_ticks := r.machine.elapsed_ticks + ticks } m)
    (result : RunResult) : Run.Live { machine := m, result := result } := by
  have hclock := h.clock
  have hlive : Run.Live (r.with_machine
      { r.machine with elapsed_ticks := r.machine.elapsed_ticks + ticks }) :=
    ⟨h.lifecycle, by simp only [Run.with_machine]; omega⟩
  exact hlive.undisturbed hm result

theorem finish_event_leaves (cpu_fault_pending : Bool) (event_ticks : ℕ) {r : Run σ}
    (h : r.Live) :
    (finish_event env cpu_fault_pending event_ticks r).Leaves Run.Live Run.Live
      (fun r => r.machine.lifecycle = .running) := by
  unfold finish_event
  dsimp only
  split_ifs
  · exact ⟨not_false, h.lifecycle, h.clock⟩
  · exact complete_cpu_fault_leaves env _
  · exact finish_shutdown_leaves env _ ⟨h.lifecycle, h.clock⟩
  all_goals
    refine Phase.Splits.returns ?_
    first
    | exact Undisturbed.left (CoreMachine.call_undisturbed _ _ _) (by simp [Run.with_lifecycle])
    | simp [Run.with_lifecycle, Run.stopped_for, Run.stamped, Run.with_machine]

theorem complete_event_settles (cpu_fault_pending : Bool) {r : Run σ} (h : r.Live)
    (hfit : r.machine.cpu_retirement_completion_ticks ≤ uint64_max - r.machine.elapsed_ticks) :
    (complete_event env budget cpu_fault_pending r).Settles
      (budget.clip r r.machine.cpu_retirement_completion_ticks ≠ 0 ∧
        external_refused r.machine) := by
  have hclip : budget.clip r r.machine.cpu_retirement_completion_ticks ≤
      r.machine.cpu_retirement_completion_ticks := by
    unfold RunBudget.clip
    split_ifs <;> omega
  unfold complete_event
  generalize budget.clip r r.machine.cpu_retirement_completion_ticks = ticks at hclip ⊢
  dsimp only
  by_cases hzero : ticks = 0
  · rw [if_neg (by simp [hzero])]
    exact (finish_event_leaves env _ _ h).of_iff (by simp [hzero])
  rw [if_pos hzero]
  have hpublished := publish_elapsed_ticks_published env r.machine ticks .cpu_event
  generalize publish_elapsed_ticks env r.machine ticks .cpu_event = published at hpublished ⊢
  cases hpublished with
  | invalid hbad => omega
  | refused _ _ hrefused =>
    simp [publication_refused] at hrefused
    rw [if_pos (by simp)]
    by_cases hf : r.machine.lifecycle = .faulted
    · exact Or.inr ⟨fun hr => hr.2.2 hf, by simp [Run.with_machine, hf]⟩
    · exact Or.inl ⟨⟨hzero, hrefused, hf⟩, h.running hf⟩
  | published _ hticks hnot status m hm hs =>
    simp [publication_refused] at hnot
    have hiff : False ↔ ticks ≠ 0 ∧ external_refused r.machine :=
      ⟨False.elim, fun hr => hnot hr.2.1⟩
    refine Phase.Splits.of_iff ?_ hiff
    by_cases hok : status = .ok
    · rw [if_neg (by simp [hok])]
      exact finish_event_leaves env _ _ (h.published ticks hticks hm _)
    · rw [if_pos (by simpa using hok)]
      refine Phase.Splits.returns ?_
      have : m.lifecycle = .faulted := by
        by_contra hne
        exact hok (hs.2 hne)
      simp [Run.with_machine, this]

theorem retire_partly_leaves (r : Run σ) :
    (retire_partly env budget r).Leaves Run.Live Run.Live
      (fun r => r.machine.lifecycle = .running) := by
  unfold retire_partly
  dsimp only
  split_ifs
  · exact Run.fault_leaves env _ _
  · exact Run.pause_quietly_leaves env _ _
  · exact Run.pause_quietly_leaves env _ _

theorem phase_retired_leaves {r : Run σ} (h : r.Live) :
    (phase_retired env r).Leaves Run.Live Run.Live (fun r => r.machine.lifecycle = .running) := by
  have hasked := r.machine.call_undisturbed (some env.execution_consume_debug_pause_request) false
  unfold phase_retired
  dsimp only
  split_ifs
  · exact Run.pause_leaves env _ _
  · exact Run.pause_leaves env _ _
  · exact ⟨not_false, h.undisturbed (hasked.trans (CoreMachine.after_undisturbed _ _)) r.result⟩

theorem publish_successful_retirement_undisturbed (m : CoreMachine σ) :
    Undisturbed m (publish_successful_retirement env m).2 := by
  unfold publish_successful_retirement
  dsimp only
  split_ifs
  · exact m.after_undisturbed _
  · exact Undisturbed.refl m

theorem retire_pending_settles (cpu_fault_pending : Bool) (retiring_ticks event_ticks : ℕ)
    {r : Run σ} (h : r.Live)
    (hfit : retiring_ticks ≤ uint64_max - r.machine.elapsed_ticks) :
    (retire_pending env cpu_fault_pending retiring_ticks event_ticks r).Settles
      (retiring_ticks = 0 ∧ (publish_successful_retirement env r.machine).1 = true ∧
        (publish_successful_retirement env r.machine).2.lifecycle ≠ .faulted) := by
  have hretirement := publish_successful_retirement_undisturbed env r.machine
  unfold retire_pending
  generalize publish_successful_retirement env r.machine = retirement at hretirement ⊢
  have hlive := h.undisturbed hretirement r.result
  have hclock := hretirement.elapsed_ticks
  dsimp only
  cases hqualified : retirement.1 with
  | false =>
    rw [if_pos (by simp)]
    exact (Run.reported_leaves env _ _ _).of_iff (by simp)
  | true =>
    rw [if_neg (by simp)]
    have hm : (((r.with_machine retirement.2).retired).charged retiring_ticks).machine =
        retirement.2 := rfl
    have hpublished := publish_elapsed_ticks_published env
      (((r.with_machine retirement.2).retired).charged retiring_ticks).machine retiring_ticks
      .cpu_retirement
    generalize publish_elapsed_ticks env
      (((r.with_machine retirement.2).retired).charged retiring_ticks).machine retiring_ticks
      .cpu_retirement = published at hpublished ⊢
    rw [hm] at hpublished
    cases hpublished with
    | invalid hbad =>
      have hzero : retiring_ticks = 0 := by omega
      rw [if_pos (by simp)]
      by_cases hf : retirement.2.lifecycle = .faulted
      · exact Or.inr ⟨fun hr => hr.2.2 hf, by simp [Run.with_machine, hf]⟩
      · exact Or.inl ⟨⟨hzero, rfl, hf⟩, hlive.running hf⟩
    | refused _ _ hrefused => simp [publication_refused] at hrefused
    | published hpos hticks _ status m hm hs =>
      have hiff : False ↔ retiring_ticks = 0 ∧ true = true ∧ retirement.2.lifecycle ≠ .faulted :=
        ⟨False.elim, fun hr => by omega⟩
      refine Phase.Splits.of_iff ?_ hiff
      have hlive' := hlive.published retiring_ticks hticks hm
      by_cases hok : status = .ok
      · rw [if_neg (by simp [hok])]
        have hleft : ∀ result, Run.Live { machine := { m with
            cpu_retirement_completion_ticks := event_ticks
            cpu_retirement_source_ticks := 0
            cpu_retirement_wait_retires := false }, result := result } := fun result =>
          ⟨(hlive' result).lifecycle, (hlive' result).clock⟩
        split_ifs
        · exact ⟨not_false, hleft _⟩
        · exact complete_cpu_fault_leaves env _
        · exact phase_retired_leaves env ⟨(hlive' r.result).lifecycle, (hlive' r.result).clock⟩
      · rw [if_pos (by simpa using hok)]
        refine Phase.Splits.returns ?_
        have : m.lifecycle = .faulted := by
          by_contra hne
          exact hok (hs.2 hne)
        simp [Run.with_machine, this]

theorem phase_completion_settles (cpu_fault_pending : Bool) (event_ticks : ℕ) {r : Run σ}
    (h : r.Live) :
    (phase_completion env budget cpu_fault_pending event_ticks r).Settles
      (event_refused budget event_ticks r ∨ empty_retirement env event_ticks r) := by
  unfold phase_completion event_refused empty_retirement completion_fits
  dsimp only
  cases hpending : r.machine.cpu_retirement_wait_pending with
  | false =>
    rw [if_pos (by simp)]
    exact ⟨by simp, h⟩
  | true =>
    rw [if_neg (by simp)]
    split_ifs with hbad hpart hevent
    · exact (Run.reported_leaves env _ _ _).of_iff (by simp; omega)
    · refine (retire_partly_leaves env budget r).of_iff ⟨False.elim, ?_⟩
      rintro (hr | hr)
      · simp [hpart.1] at hr
      · omega
    · have hretires : r.machine.cpu_retirement_wait_retires = false := by simpa using hevent
      refine (complete_event_settles env budget cpu_fault_pending h (by omega)).of_iff ?_
      simp [hretires]
      omega
    · have hretires : r.machine.cpu_retirement_wait_retires = true := by simpa using hevent
      refine (retire_pending_settles env cpu_fault_pending
        (r.machine.cpu_retirement_completion_ticks - event_ticks) event_ticks h
        (by omega)).of_iff ?_
      constructor
      · rintro ⟨hzero, hrest⟩
        exact Or.inr ⟨⟨rfl, by omega, by omega, by omega⟩, hretires, by omega, hrest⟩
      · rintro (hr | hr)
        · simp [hretires] at hr
        · exact ⟨by omega, hr.2.2.2⟩

theorem phase_budget_leaves {r : Run σ} (h : r.Live) :
    (phase_budget env budget r).Leaves Run.Live Run.Live
      (fun r => r.machine.lifecycle = .running) := by
  unfold phase_budget
  split_ifs
  · exact Run.pause_leaves env _ _
  · exact ⟨not_false, h⟩

theorem retire_at_once_leaves (instruction_ticks : ℕ) {r : Run σ} (h : r.Live) :
    (retire_at_once env instruction_ticks r).Leaves Run.Live Run.Live
      (fun r => r.machine.lifecycle = .running) := by
  have hretirement := publish_successful_retirement_undisturbed env
    { r.machine with cpu_retirement_source_ticks := instruction_ticks }
  unfold retire_at_once
  generalize publish_successful_retirement env
    { r.machine with cpu_retirement_source_ticks := instruction_ticks } = retirement
    at hretirement ⊢
  have hlive : (r.with_machine retirement.2).Live :=
    Run.Live.undisturbed (r := r.with_machine { r.machine with
      cpu_retirement_source_ticks := instruction_ticks }) ⟨h.lifecycle, h.clock⟩ hretirement _
  dsimp only
  have hm : (((r.with_machine retirement.2).retired).charged instruction_ticks).machine =
      retirement.2 := rfl
  have hpublished := publish_elapsed_ticks_published env
    (((r.with_machine retirement.2).retired).charged instruction_ticks).machine
    instruction_ticks .cpu_retirement
  generalize publish_elapsed_ticks env
    (((r.with_machine retirement.2).retired).charged instruction_ticks).machine
    instruction_ticks .cpu_retirement = published at hpublished ⊢
  rw [hm] at hpublished
  split_ifs with hqualified hstatus
  · exact Run.reported_leaves env _ _ _
  · exact Run.reported_leaves env _ _ _
  all_goals
    cases hpublished with
    | invalid _ => simp at hstatus
    | refused _ _ _ => simp at hstatus
    | published _ hticks _ status m hm _ =>
      have hleft := hlive.published instruction_ticks hticks hm r.result
      first
      | exact complete_cpu_fault_leaves env _
      | exact phase_retired_leaves env ⟨hleft.lifecycle, hleft.clock⟩

theorem retire_instruction_leaves (timing : Timing) {r : Run σ} (h : r.Live) :
    (retire_instruction env timing r).Leaves Run.Live Run.Live
      (fun r => r.machine.lifecycle = .running) := by
  unfold retire_instruction
  dsimp only
  by_cases hbad : timing.ticks = 0 ∨ r.machine.external_cycle_round_overflow ∨
      uint64_max < timing.ticks + timing.event_ticks + r.machine.external_cycle_round_ticks ∨
      uint64_max - r.result.ticks <
        timing.ticks + timing.event_ticks + r.machine.external_cycle_round_ticks ∨
      uint64_max - r.machine.elapsed_ticks <
        timing.ticks + timing.event_ticks + r.machine.external_cycle_round_ticks
  · rw [if_pos hbad]
    exact Run.reported_leaves env _ _ _
  rw [if_neg hbad]
  have hkey : Undisturbed r.machine
      (if r.machine.retirement_time_contract = .physical ∨
          r.machine.retirement_observation_bound then
        r.machine.after (env.retirement_observation_capture_eligibility_key r.machine.owner)
      else r.machine) := by
    split_ifs
    · exact r.machine.after_undisturbed _
    · exact Undisturbed.refl _
  generalize (if r.machine.retirement_time_contract = .physical ∨
      r.machine.retirement_observation_bound then
    r.machine.after (env.retirement_observation_capture_eligibility_key r.machine.owner)
      else r.machine) = m at hkey ⊢
  have hlive := h.undisturbed hkey r.result
  split_ifs
  · exact ⟨not_false, hlive.lifecycle, hlive.clock⟩
  · exact ⟨not_false, hlive.lifecycle, hlive.clock⟩
  · exact retire_at_once_leaves env _ hlive

theorem execute_round_undisturbed (m : CoreMachine σ) : Undisturbed m (execute_round env m) := by
  have h := m.after_undisturbed (env.execution_refresh m.owner)
  exact ⟨h.elapsed_ticks, h.wait_pending, h.wait_ticks, h.completion_ticks, h.wait_retires,
    h.maximum_instruction_ticks, h.retirement_time_contract, h.lifecycle⟩

theorem event_delivered_undisturbed (timing : Timing) (m : CoreMachine σ) :
    Undisturbed m (event_delivered env timing m).2 := by
  unfold event_delivered
  split_ifs
  · exact Undisturbed.refl m
  · exact m.call_undisturbed _ _

theorem settle_round_leaves (was_halted : Bool) (timing : Timing) {r : Run σ} (h : r.Live) :
    (settle_round env was_halted timing r).Leaves Run.Live Run.Live
      (fun r => r.machine.lifecycle = .running) := by
  have hstalled := r.machine.call_undisturbed (some env.execution_consume_wait_stall) false
  have hlive := h.undisturbed hstalled r.result
  unfold settle_round
  dsimp only
  split_ifs
  · exact finish_shutdown_leaves env r h
  · exact Run.pause_leaves env _ _
  · exact retire_instruction_leaves env timing
      (hlive.undisturbed (CoreMachine.after_undisturbed _ _) r.result)
  · exact retire_instruction_leaves env timing hlive

theorem phase_execute_leaves {r : Run σ} (h : r.Live) :
    (phase_execute env r).Leaves Run.Live Run.Live
      (fun r => r.machine.lifecycle = .running) := by
  have hround := h.undisturbed (execute_round_undisturbed env r.machine) r.result
  unfold phase_execute
  dsimp only
  generalize execute_round env r.machine = m at hround ⊢
  split_ifs with hf
  · refine Phase.Splits.returns ?_
    simp only [Run.with_machine] at hf
    simp [Run.with_machine, Run.stamped, Run.stopped_for, hf]
  all_goals
    have hdelivered := hround.undisturbed (event_delivered_undisturbed env
      (env.cpu_capture_timing m.owner) m) r.result
  · exact Run.reported_leaves env _ _ _
  · exact ⟨not_false, hdelivered.lifecycle, hdelivered.clock⟩
  · exact complete_cpu_fault_leaves env _
  · exact Run.pause_quietly_leaves env _ _
  · exact settle_round_leaves env _ _ hdelivered
  · exact settle_round_leaves env _ _ hdelivered

end Parts

/-! ## Iterations and runs -/

section Runs

variable (env : Environment σ) (budget : RunBudget)

theorem execute_step_settles {r : Run σ} (h : r.Lasting budget) :
    (execute_step env budget r).Settles (StepRefused env budget r) := by
  have hrest : ∀ r₁ : Run σ, r₁.Live → Phase.Settles
      (((((phase_ready env r₁).and_then (phase_board_wait env)).and_then
        (phase_completion env budget (r.machine.fault_detail != 0)
          (retirement_event_ticks env r₁.machine))).and_then
        (phase_budget env budget)).and_then (phase_execute env))
      (completion_refused env budget r₁) := by
    intro r₁ h₁
    refine (((((phase_ready_settles env h₁).and_then
      fun _ h => phase_board_wait_settles env h).and_then
      fun _ h => phase_completion_settles env budget _ _ h).and_then
      fun _ h => phase_budget_leaves env budget h).and_then
      fun _ h => phase_execute_leaves env h).of_iff ?_
    simp [completion_refused, Phase.later_and_then, Phase.later_or, Phase.not_later_false,
      or_assoc]
  refine (((((requests_leaves env budget h).and_then
    fun _ h => phase_reset_settles env budget h).and_then
    fun _ h => phase_refresh_leaves env budget h).and_then
    fun _ h => phase_hold_settles env h).and_then hrest).of_iff ?_
  simp [StepRefused, Phase.later_and_then, Phase.later_or, Phase.not_later_false, or_assoc]

/-- The runs at which the loop starts an iteration, from `r` on. -/
inductive Run.Reaches (env : Environment σ) (budget : RunBudget) : Run σ → Run σ → Prop where
  | refl (r : Run σ) : Run.Reaches env budget r r
  | step {r r' s : Run σ} (hl : budget.lasts r = true)
      (hs : execute_step env budget r = .again r' ∨ execute_step env budget r = .next r')
      (h : Run.Reaches env budget r' s) : Run.Reaches env budget r s

/-- The loop, started from `r`, starts an iteration from a run with `P`. -/
def Run.Meets (env : Environment σ) (budget : RunBudget) (P : Run σ → Prop) (r : Run σ) : Prop :=
  ∃ s, Run.Reaches env budget r s ∧ budget.lasts s = true ∧ P s

variable {env budget} {P : Run σ → Prop} {r r' : Run σ}

theorem Run.meets_ended (hl : budget.lasts r = false) : ¬ r.Meets env budget P := by
  rintro ⟨s, hreach, hs⟩
  cases hreach with
  | refl _ => simp [hl] at hs
  | step hl' _ _ => simp [hl] at hl'

theorem Run.meets_done {status : Status} (hl : budget.lasts r = true)
    (hs : execute_step env budget r = .done status r') : r.Meets env budget P ↔ P r := by
  constructor
  · rintro ⟨s, hreach, hP⟩
    cases hreach with
    | refl _ => exact hP.2
    | step _ hs' _ => rcases hs' with e | e <;> rw [hs] at e <;> cases e
  · exact fun hP => ⟨r, .refl r, hl, hP⟩

theorem Run.meets_step (hl : budget.lasts r = true)
    (hs : execute_step env budget r = .again r' ∨ execute_step env budget r = .next r')
    (hP : ¬ P r) : r.Meets env budget P ↔ r'.Meets env budget P := by
  constructor
  · rintro ⟨s, hreach, hs'⟩
    cases hreach with
    | refl _ => exact absurd hs'.2 hP
    | @step _ r₁ _ _ hs₁ hreach =>
      have hr : r' = r₁ := by
        rcases hs with e | e <;> rcases hs₁ with e' | e' <;> rw [e] at e' <;> injection e'
      rw [hr]
      exact ⟨s, hreach, hs'⟩
  · rintro ⟨s, hreach, hs'⟩
    exact ⟨s, .step hl hs hreach, hs'⟩

/-- A loop whose iterations and whose end split, splits: it ends with `bad` exactly if one of
its iterations refuses. Iterations that are excluded need not split. -/
theorem execute_loop_splits (live good bad refused excluded : Run σ → Prop)
    (hstep : ∀ r, live r → budget.lasts r = true → ¬ excluded r →
      (execute_step env budget r).Splits (refused r) live live good bad)
    (hend : ∀ r, live r →
      (r.pause env .budget).Splits False (fun _ => False) (fun _ => False) good bad)
    (fuel : ℕ) {status : Status} (h : live r) (hexcluded : ¬ r.Meets env budget excluded)
    (he : execute_loop env budget fuel r = some (status, r')) :
    (r.Meets env budget refused ∧ bad r') ∨ (¬ r.Meets env budget refused ∧ good r') := by
  induction fuel generalizing r with
  | zero => simp [execute_loop] at he
  | succ fuel ih =>
    rw [execute_loop] at he
    cases hlasts : budget.lasts r with
    | true =>
      rw [if_pos hlasts] at he
      have hnot : ¬ excluded r := fun hx => hexcluded ⟨r, .refl r, hlasts, hx⟩
      have hsplit := hstep r h hlasts hnot
      cases hp : execute_step env budget r with
      | next r₁ =>
        rw [hp] at hsplit he
        rw [Run.meets_step hlasts (Or.inr hp) hnot] at hexcluded
        rw [Run.meets_step hlasts (Or.inr hp) hsplit.1]
        exact ih hsplit.2 hexcluded he
      | again r₁ =>
        rw [hp] at hsplit he
        rw [Run.meets_step hlasts (Or.inl hp) hnot] at hexcluded
        rw [Run.meets_step hlasts (Or.inl hp) hsplit.1]
        exact ih hsplit.2 hexcluded he
      | done status₁ r₁ =>
        rw [hp] at hsplit he
        simp only [Option.some.injEq, Prod.mk.injEq] at he
        obtain ⟨-, rfl⟩ := he
        rw [Run.meets_done hlasts hp]
        exact hsplit
    | false =>
      rw [if_neg (by simp [hlasts])] at he
      have hsplit := hend r h
      cases hp : r.pause env .budget with
      | next _ =>
        rw [hp] at hsplit
        exact hsplit.2.elim
      | again _ =>
        rw [hp] at hsplit
        exact hsplit.2.elim
      | done status₁ r₁ =>
        rw [hp] at hsplit he
        simp only [Option.some.injEq, Prod.mk.injEq] at he
        obtain ⟨-, rfl⟩ := he
        rcases hsplit with ⟨hf, _⟩ | ⟨_, hgood⟩
        · exact hf.elim
        · exact Or.inr ⟨Run.meets_ended hlasts, hgood⟩

end Runs

/-! ## Runs of the machine -/

/-- The machine and the budget pass the checks of `run`. -/
def passes_checks (m : CoreMachine σ) (budget : RunBudget) : Prop :=
  (m.lifecycle = .stopped ∨ m.lifecycle = .paused) ∧
    (budget.instructions ≠ 0 ∨ budget.ticks ≠ 0)

/-- `run` goes into its loop. -/
def enters_loop (m : CoreMachine σ) (budget : RunBudget) : Prop :=
  passes_checks m budget ∧ m.stop_requested = false

/-- A run of the machine has an iteration that starts from a state with `P`. -/
def run_meets (env : Environment σ) (budget : RunBudget) (P : Run σ → Prop)
    (m : CoreMachine σ) : Prop :=
  enters_loop m budget ∧ ((Run.start env m).with_lifecycle .running).Meets env budget P

/-- The result of a run that has spent and executed nothing. -/
def RunResult.Empty (result : RunResult) (elapsed_ticks : ℕ) : Prop :=
  result.executed = 0 ∧ result.ticks = 0 ∧ result.elapsed_ticks = elapsed_ticks

/-- A run that does not get into its loop leaves the machine as it is, or resets it cold. -/
theorem execute_budget_cases {env : Environment σ} {fuel : ℕ} {m : CoreMachine σ}
    {budget : RunBudget} {status : Status} {r : Run σ}
    (he : execute_budget env fuel m budget = some (status, r)) :
    (¬ enters_loop m budget ∧
        ((r.machine = m ∧ r.result.Empty m.elapsed_ticks) ∨
          (passes_checks m budget ∧ m.stop_requested = true ∧
            r.machine = (cold_reset env m).2))) ∨
      (enters_loop m budget ∧ execute_loop env budget fuel
        ((Run.start env m).with_lifecycle .running) = some (status, r)) := by
  unfold execute_budget at he
  dsimp only at he
  split_ifs at he with hfaulted hlifecycle hbudget hstop hreset
  · cases he
    refine Or.inl ⟨fun h => ?_, Or.inl ⟨rfl, rfl, rfl, rfl⟩⟩
    simp [enters_loop, passes_checks, hfaulted] at h
  · cases he
    refine Or.inl ⟨fun h => ?_, Or.inl ⟨rfl, rfl, rfl, rfl⟩⟩
    rcases h.1.1 with h | h
    · exact hlifecycle.1 h
    · exact hlifecycle.2 h
  · cases he
    refine Or.inl ⟨fun h => ?_, Or.inl ⟨rfl, rfl, rfl, rfl⟩⟩
    have := h.1.2
    omega
  all_goals
    have hpasses : passes_checks m budget := ⟨by tauto, by omega⟩
  · cases he
    exact Or.inl ⟨fun h => by simp [enters_loop, hstop] at h, Or.inr ⟨hpasses, hstop, rfl⟩⟩
  · cases he
    exact Or.inl ⟨fun h => by simp [enters_loop, hstop] at h, Or.inr ⟨hpasses, hstop, rfl⟩⟩
  · exact Or.inr ⟨⟨hpasses, by simpa using hstop⟩, he⟩

theorem Run.finish_machine (env : Environment σ) (start_tick : ℕ) (status : Status) (r : Run σ) :
    (r.finish env start_tick status).2.machine = r.machine := by
  unfold Run.finish
  split_ifs <;> rfl

theorem machine_run_executed {env : Environment σ} {fuel : ℕ} {m : CoreMachine σ}
    {budget : RunBudget} {status : Status} {r : Run σ}
    (he : machine_run env fuel m budget = some (status, r)) :
    ∃ status' r', execute_budget env fuel m budget = some (status', r') ∧
      r'.finish env m.elapsed_ticks status' = (status, r) := by
  unfold machine_run at he
  cases hb : execute_budget env fuel m budget with
  | none => simp [hb] at he
  | some e =>
    refine ⟨e.1, e.2, rfl, ?_⟩
    simpa [hb] using he

/-- A board that holds the bus. -/
def holding_environment : Environment Unit :=
  { idle_environment with
    attachment_cpu_hold_asserted := some fun _ => { value := true, owner := () } }

/-- A processor that stays halted. -/
def halted_environment : Environment Unit := { idle_environment with cpu_is_halted := fun _ => true }

/-- A machine whose time is that of the physical retirement contract. -/
def physical_machine : CoreMachine Unit :=
  { idle_machine with
    retirement_time_contract := .physical
    time_axis_verified_physical := true }

end Nxvm.Machine
