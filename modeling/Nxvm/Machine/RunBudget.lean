/-
What a run says it has spent (`machine.c`).

The result of a run counts the ticks it has published and the instructions it has
retired. Time is published from many places of the loop. All of them keep the count
even with the clock of the machine and within the budget, but for the waits for the
outside, which charge their tick before it is published.
-/
import Nxvm.Machine.RunLifecycle

set_option autoImplicit false

namespace Nxvm.Machine

variable {σ : Type}

/-! ## What a run has spent -/

/-- The result counts the time since `start_tick` and keeps to the budget. -/
structure Run.Even (budget : RunBudget) (start_tick : ℕ) (r : Run σ) : Prop where
  ticks : start_tick + r.result.ticks = r.machine.elapsed_ticks
  stamp : r.result.elapsed_ticks = r.machine.elapsed_ticks
  within : budget.ticks ≠ 0 → r.result.ticks ≤ budget.ticks
  executed : budget.instructions ≠ 0 → r.result.executed ≤ budget.instructions

/-- A faulted run, whose ticks `run` counts itself: the clock keeps to the budget. -/
structure Run.FaultedEven (budget : RunBudget) (start_tick : ℕ) (r : Run σ) : Prop where
  faulted : r.machine.lifecycle = .faulted
  since : start_tick ≤ r.machine.elapsed_ticks
  within : budget.ticks ≠ 0 → r.machine.elapsed_ticks ≤ start_tick + budget.ticks
  executed : budget.instructions ≠ 0 → r.result.executed ≤ budget.instructions

/-- What `run` makes of the end of the loop is even. -/
def Run.Accounts (budget : RunBudget) (start_tick : ℕ) (r : Run σ) : Prop :=
  r.Even budget start_tick ∨ r.FaultedEven budget start_tick

/-- A tick is charged that was not published. -/
def Run.Overcharged (start_tick : ℕ) (r : Run σ) : Prop :=
  r.machine.lifecycle ≠ .faulted ∧ start_tick + r.result.ticks = r.machine.elapsed_ticks + 1

/-- A run inside the loop, of a machine with this bound on its instructions. A retirement
that is pending still has its instruction in the budget. -/
structure Run.Paced (budget : RunBudget) (start_tick maximum : ℕ) (r : Run σ) : Prop
    extends Run.Live r, Run.Even budget start_tick r where
  bound : r.machine.maximum_instruction_ticks = maximum
  retiring : budget.instructions ≠ 0 → r.machine.cpu_retirement_wait_pending = true →
    r.machine.cpu_retirement_wait_retires = true → r.result.executed < budget.instructions

/-- An iteration whose instruction is in the budget, unless a retirement is pending. -/
structure Run.Roomy (budget : RunBudget) (start_tick maximum : ℕ) (r : Run σ) : Prop
    extends Run.Paced budget start_tick maximum r where
  room : r.machine.cpu_retirement_wait_pending = true ∨ budget.instructions = 0 ∨
    r.result.executed < budget.instructions

/-- An iteration with a tick left in the budget. -/
structure Run.Pacing (budget : RunBudget) (start_tick maximum : ℕ) (r : Run σ) : Prop
    extends Run.Roomy budget start_tick maximum r where
  lasting : budget.ticks = 0 ∨ r.result.ticks < budget.ticks

/-- No retirement is pending, and an instruction is in the budget. -/
structure Run.Free (budget : RunBudget) (start_tick maximum : ℕ) (r : Run σ) : Prop
    extends Run.Paced budget start_tick maximum r where
  idle : r.machine.cpu_retirement_wait_pending = false
  free : budget.instructions = 0 ∨ r.result.executed < budget.instructions

/-- The largest instruction is in the budget. -/
structure Run.Fitting (budget : RunBudget) (start_tick maximum : ℕ) (r : Run σ) : Prop
    extends Run.Free budget start_tick maximum r where
  fits : budget.ticks = 0 ∨ maximum ≤ budget.ticks - r.result.ticks

section Preserved

variable {budget : RunBudget} {start_tick maximum : ℕ} {r : Run σ} {m : CoreMachine σ}

/-- The account depends on the clock and the counts only. -/
theorem Run.Even.of_same {r' : Run σ} (h : r.Even budget start_tick)
    (hclock : r'.machine.elapsed_ticks = r.machine.elapsed_ticks)
    (hticks : r'.result.ticks = r.result.ticks)
    (hstamp : r'.result.elapsed_ticks = r.machine.elapsed_ticks)
    (hexecuted : r'.result.executed = r.result.executed) : r'.Even budget start_tick where
  ticks := by
    rw [hclock, hticks]
    exact h.ticks
  stamp := by rw [hstamp, hclock]
  within := by
    rw [hticks]
    exact h.within
  executed := by
    rw [hexecuted]
    exact h.executed

theorem Run.Even.restamped (h : r.Even budget start_tick) : r.stamped.Even budget start_tick :=
  h.of_same rfl rfl rfl rfl

theorem Run.Paced.undisturbed (h : r.Paced budget start_tick maximum)
    (hm : Undisturbed r.machine m) : (r.with_machine m).Paced budget start_tick maximum where
  toLive := h.toLive.undisturbed hm r.result
  toEven := h.toEven.of_same hm.elapsed_ticks rfl h.stamp rfl
  bound := hm.maximum_instruction_ticks.trans h.bound
  retiring := by
    have := h.retiring
    simp only [Run.with_machine, hm.wait_pending, hm.wait_retires]
    exact this

/-- A change of what is pending that makes no retirement pending. -/
theorem Run.Paced.of_machine (h : r.Paced budget start_tick maximum)
    (hlifecycle : m.lifecycle = r.machine.lifecycle)
    (hclock : m.elapsed_ticks = r.machine.elapsed_ticks)
    (hbound : m.maximum_instruction_ticks = r.machine.maximum_instruction_ticks)
    (hretiring : m.cpu_retirement_wait_pending = true → m.cpu_retirement_wait_retires = true →
      r.machine.cpu_retirement_wait_pending = true ∧
        r.machine.cpu_retirement_wait_retires = true) :
    (r.with_machine m).Paced budget start_tick maximum where
  lifecycle := by
    rw [Run.with_machine, hlifecycle]
    exact h.lifecycle
  clock := by
    rw [Run.with_machine, hclock]
    exact h.clock
  toEven := h.toEven.of_same hclock rfl h.stamp rfl
  bound := hbound.trans h.bound
  retiring := fun hne hpending hretires =>
    h.retiring hne (hretiring hpending hretires).1 (hretiring hpending hretires).2

theorem Run.Roomy.undisturbed (h : r.Roomy budget start_tick maximum)
    (hm : Undisturbed r.machine m) : (r.with_machine m).Roomy budget start_tick maximum where
  toPaced := h.toPaced.undisturbed hm
  room := by
    have := h.room
    simp only [Run.with_machine, hm.wait_pending]
    exact this

theorem Run.Pacing.undisturbed (h : r.Pacing budget start_tick maximum)
    (hm : Undisturbed r.machine m) : (r.with_machine m).Pacing budget start_tick maximum where
  toRoomy := h.toRoomy.undisturbed hm
  lasting := h.lasting

theorem Run.Fitting.undisturbed (h : r.Fitting budget start_tick maximum)
    (hm : Undisturbed r.machine m) : (r.with_machine m).Fitting budget start_tick maximum where
  toPaced := h.toPaced.undisturbed hm
  idle := hm.wait_pending.trans h.idle
  free := h.free
  fits := h.fits

/-- Ticks that are charged and published, within the budget. -/
theorem Run.Even.spent {r' : Run σ} (h : r.Even budget start_tick) (ticks : ℕ)
    (hclock : r'.machine.elapsed_ticks = r.machine.elapsed_ticks + ticks)
    (hticks : r'.result.ticks = r.result.ticks + ticks)
    (hstamp : r'.result.elapsed_ticks = r'.machine.elapsed_ticks)
    (hwithin : budget.ticks ≠ 0 → r.result.ticks + ticks ≤ budget.ticks)
    (hexecuted : budget.instructions ≠ 0 → r'.result.executed ≤ budget.instructions) :
    r'.Even budget start_tick where
  ticks := by
    have := h.ticks
    omega
  stamp := hstamp
  within := by
    rw [hticks]
    exact hwithin
  executed := hexecuted

theorem Run.Even.faulted {r' : Run σ} (h : r.Even budget start_tick) (ticks : ℕ)
    (hclock : r'.machine.elapsed_ticks = r.machine.elapsed_ticks + ticks)
    (hwithin : budget.ticks ≠ 0 → r.result.ticks + ticks ≤ budget.ticks)
    (hexecuted : budget.instructions ≠ 0 → r'.result.executed ≤ budget.instructions)
    (hf : r'.machine.lifecycle = .faulted) : r'.FaultedEven budget start_tick where
  faulted := hf
  since := by
    have := h.ticks
    omega
  within := by
    intro hne
    have := h.ticks
    have := hwithin hne
    omega
  executed := hexecuted

theorem Run.Paced.published (h : r.Paced budget start_tick maximum) (ticks : ℕ)
    (hfit : ticks ≤ uint64_max - r.machine.elapsed_ticks)
    (hm : Undisturbed { r.machine with elapsed_ticks := r.machine.elapsed_ticks + ticks } m)
    (hwithin : budget.ticks ≠ 0 → r.result.ticks + ticks ≤ budget.ticks) :
    ((r.with_machine m).charged ticks).stamped.Paced budget start_tick maximum where
  toLive := h.toLive.published ticks hfit hm _
  toEven := h.toEven.spent ticks hm.elapsed_ticks rfl rfl hwithin h.executed
  bound := hm.maximum_instruction_ticks.trans h.bound
  retiring := by
    have := h.retiring
    simp only [Run.stamped, Run.charged, Run.with_machine, hm.wait_pending, hm.wait_retires]
    exact this

end Preserved

/-! ## Ways out -/

section Returns

variable {budget : RunBudget} {start_tick maximum : ℕ} (env : Environment σ)
  {next again : Run σ → Prop}

/-- A part that keeps the account even, unless it charges a tick it may not publish. -/
abbrev Phase.Pays (budget : RunBudget) (start_tick : ℕ) (p : Phase σ) (refused : Prop)
    (next again : Run σ → Prop) : Prop :=
  p.Splits refused next again (Run.Accounts budget start_tick) (Run.Overcharged start_tick)

theorem Run.fault_pays {r : Run σ} (h : r.Even budget start_tick) (detail : ℕ) :
    (r.fault env detail).Pays budget start_tick False next again :=
  Phase.Splits.returns (Or.inl
    (h.of_same (report_fault_undisturbed r.machine detail).elapsed_ticks rfl h.stamp rfl))

theorem report_fault_faulted {m : CoreMachine σ} (detail : ℕ) (h : m.lifecycle = .faulted) :
    report_fault m detail = m := by
  unfold report_fault
  rw [h]

/-- A fault reported of a run that may be faulted already. -/
theorem Run.fault_accounts {r : Run σ} (h : r.Accounts budget start_tick) (detail : ℕ) :
    (r.fault env detail).Pays budget start_tick False next again := by
  rcases h with h | h
  · exact Run.fault_pays env h detail
  · have hm := report_fault_faulted detail h.faulted
    refine Phase.Splits.returns (Or.inr ⟨?_, ?_, ?_, h.executed⟩) <;>
      simp only [Run.with_machine, Run.stopped_for, hm]
    · exact h.faulted
    · exact h.since
    · exact h.within

theorem Run.reported_pays {r : Run σ} (h : r.Even budget start_tick) (detail : ℕ) :
    ((r.with_machine (report_fault r.machine detail)).stamped.faulted env).Pays budget start_tick
      False next again := by
  have hm := (report_fault_undisturbed r.machine detail).elapsed_ticks
  exact Phase.Splits.returns (Or.inl (h.of_same hm rfl hm rfl))

theorem Run.reported_accounts {r : Run σ} (h : r.Accounts budget start_tick) (detail : ℕ) :
    ((r.with_machine (report_fault r.machine detail)).stamped.faulted env).Pays budget start_tick
      False next again := by
  rcases h with h | h
  · exact Run.reported_pays env h detail
  · have hm := report_fault_faulted detail h.faulted
    refine Phase.Splits.returns (Or.inr ⟨?_, ?_, ?_, h.executed⟩) <;>
      simp only [Run.with_machine, Run.stamped, Run.stopped_for, hm]
    · exact h.faulted
    · exact h.since
    · exact h.within

theorem complete_run_boundary_pays {r : Run σ} (h : r.Even budget start_tick) :
    (complete_run_boundary env r).Pays budget start_tick False next again := by
  have hcall := (r.machine.call_undisturbed env.firmware_after_run .ok).elapsed_ticks
  unfold complete_run_boundary
  dsimp only
  split_ifs
  · have hm := (report_fault_undisturbed
      (r.machine.call env.firmware_after_run .ok).2 fault_firmware).elapsed_ticks
    exact Phase.Splits.returns (Or.inl (h.of_same (hm.trans hcall) rfl h.stamp rfl))
  · exact Phase.Splits.returns (Or.inl (h.of_same hcall rfl h.stamp rfl))
  · exact Phase.Splits.returns (Or.inl (h.of_same hcall rfl h.stamp rfl))

theorem Run.pause_pays {r : Run σ} (h : r.Even budget start_tick) (reason : StopReason) :
    (r.pause env reason).Pays budget start_tick False next again :=
  complete_run_boundary_pays env (h.of_same rfl rfl h.stamp rfl)

theorem Run.pause_quietly_pays {r : Run σ} (h : r.Even budget start_tick)
    (reason : StopReason) :
    (r.pause_quietly env reason).Pays budget start_tick False next again :=
  Phase.Splits.returns (Or.inl (h.of_same rfl rfl rfl rfl))

theorem complete_cpu_fault_pays {r : Run σ} (h : r.Even budget start_tick) :
    (complete_cpu_fault env r).Pays budget start_tick False next again :=
  Run.fault_pays env h.restamped _

theorem finish_shutdown_pays {r : Run σ} (h : r.Paced budget start_tick maximum) :
    (finish_shutdown env r).Pays budget start_tick False next
      (Run.Paced budget start_tick maximum) := by
  unfold finish_shutdown
  dsimp only
  generalize hasked : (if env.cpu_is_system_waiting r.machine.owner = true then (false, r.machine)
    else r.machine.call env.attachment_shutdown_reset false) = asked
  have hm : Undisturbed r.machine asked.2 := by
    rw [← hasked]
    split_ifs
    · exact Undisturbed.refl _
    · exact r.machine.call_undisturbed env.attachment_shutdown_reset false
  have hpaced := h.undisturbed hm
  split_ifs
  · exact ⟨not_false, hpaced⟩
  · exact complete_run_boundary_pays env (hpaced.toEven.of_same rfl rfl rfl rfl)

end Returns

/-! ## The parts of an iteration -/

/-- An iteration of the loop that stops the machine, and resets it cold. -/
def stops_cold (env : Environment σ) (r : Run σ) : Prop :=
  (phase_interruptions env r).Later fun r' =>
    (stop_asked env (r.machine.fault_detail != 0) r'.machine).1 = true

section Parts

variable {budget : RunBudget} {start_tick maximum : ℕ} (env : Environment σ)

theorem phase_interruptions_pays {r : Run σ} (h : r.Pacing budget start_tick maximum) :
    (phase_interruptions env r).Pays budget start_tick False
      (Run.Pacing budget start_tick maximum) (Run.Paced budget start_tick maximum) := by
  unfold phase_interruptions
  split_ifs with hf
  · exact Phase.Splits.returns (Or.inl (h.toEven.of_same rfl rfl h.stamp rfl))
  · have hasked := r.machine.call_undisturbed env.attachment_shutdown_reset false
    generalize r.machine.call env.attachment_shutdown_reset false = asked at hasked ⊢
    have hconsumed : Undisturbed r.machine (if asked.1 then
        asked.2.call (some env.execution_consume_shutdown_request) false
      else (false, asked.2)).2 := by
      split_ifs
      · exact hasked.trans (asked.2.call_undisturbed _ _)
      · exact hasked
    dsimp only
    generalize (if asked.1 then
        asked.2.call (some env.execution_consume_shutdown_request) false
      else (false, asked.2)) = consumed at hconsumed ⊢
    have hpause := h.undisturbed (hconsumed.trans (consumed.2.call_undisturbed
      (some env.execution_consume_debug_pause_request) false))
    split_ifs
    · have hm := (CoreMachine.after_undisturbed { consumed.2 with lifecycle := .paused }
        (env.cpu_state_reset consumed.2.owner)).elapsed_ticks
      exact Phase.Splits.returns (Or.inl
        (h.toEven.of_same (hm.trans hconsumed.elapsed_ticks) rfl h.stamp rfl))
    · exact Run.pause_pays env hpause.toEven _
    · exact ⟨not_false, hpause⟩

theorem requests_pays {r : Run σ} (h : r.Pacing budget start_tick maximum)
    (hcold : ¬ stops_cold env r) :
    (requests env r).Pays budget start_tick False
      (Run.Pacing budget start_tick maximum) (Run.Paced budget start_tick maximum) := by
  have hinterruptions := phase_interruptions_pays env h
  unfold requests
  unfold stops_cold at hcold
  cases hp : phase_interruptions env r with
  | next r' =>
    rw [hp] at hinterruptions hcold
    have hasked : (stop_asked env (r.machine.fault_detail != 0) r'.machine).1 = false := by
      by_contra hne
      exact hcold ⟨r', rfl, by simpa using hne⟩
    simp only [Phase.and_then, phase_stop, hasked]
    exact ⟨not_false, hinterruptions.2.undisturbed (stop_asked_undisturbed env _ _)⟩
  | again r' =>
    rw [hp] at hinterruptions
    exact hinterruptions
  | done status r' =>
    rw [hp] at hinterruptions
    exact hinterruptions

theorem phase_reset_pays {r : Run σ} (h : r.Pacing budget start_tick maximum) :
    (phase_reset env r).Pays budget start_tick False
      (Run.Pacing budget start_tick maximum) (Run.Paced budget start_tick maximum) := by
  have hasked := r.machine.call_undisturbed (some env.execution_consume_reset_request) .none
  unfold phase_reset
  generalize r.machine.call (some env.execution_consume_reset_request) .none = asked
    at hasked ⊢
  have hreset : (processor_reset env asked.2 asked.1).2.elapsed_ticks =
      r.machine.elapsed_ticks := by
    unfold processor_reset
    dsimp only
    split_ifs <;>
      exact (asked.2.after_undisturbed _).elapsed_ticks.trans hasked.elapsed_ticks
  dsimp only
  split_ifs
  · exact Phase.Splits.returns (Or.inl (h.toEven.of_same hreset rfl h.stamp rfl))
  · exact Phase.Splits.returns (Or.inl (h.toEven.of_same hreset rfl h.stamp rfl))
  · exact ⟨not_false, h.undisturbed hasked⟩

theorem RunBudget.clip_within {r : Run σ} (h : r.Even budget start_tick) (ticks : ℕ) :
    budget.ticks ≠ 0 → r.result.ticks + budget.clip r ticks ≤ budget.ticks := by
  intro hne
  have := h.within hne
  unfold RunBudget.clip
  split_ifs <;> omega

/-- A publication that is charged once it is made. -/
theorem publish_elapsed_ticks_pays {r : Run σ} (h : r.Paced budget start_tick maximum)
    (ticks : ℕ) (origin : PublicationOrigin)
    (hwithin : budget.ticks ≠ 0 → r.result.ticks + ticks ≤ budget.ticks)
    {published : Status × CoreMachine σ}
    (he : publish_elapsed_ticks env r.machine ticks origin = published) :
    (published.1 ≠ .ok ∧ (r.with_machine published.2).Accounts budget start_tick) ∨
      (published.1 = .ok ∧
        ((r.with_machine published.2).charged ticks).stamped.Paced budget start_tick maximum ∧
        Undisturbed { r.machine with elapsed_ticks := r.machine.elapsed_ticks + ticks }
          published.2) := by
  have hpublished := publish_elapsed_ticks_published env r.machine ticks origin
  rw [he] at hpublished
  cases hpublished with
  | invalid _ => exact Or.inl ⟨by simp, Or.inl h.toEven⟩
  | refused _ _ _ => exact Or.inl ⟨by simp, Or.inl h.toEven⟩
  | published _ hfit _ status m hm hs =>
    by_cases hok : status = .ok
    · exact Or.inr ⟨hok, h.published ticks hfit hm hwithin, hm⟩
    · have hf : m.lifecycle = .faulted := by
        by_contra hne
        exact hok (hs.2 hne)
      exact Or.inl ⟨hok, Or.inr
        (h.toEven.faulted ticks hm.elapsed_ticks hwithin h.executed hf)⟩

theorem phase_refresh_pays {r : Run σ} (h : r.Pacing budget start_tick maximum) :
    (phase_refresh env budget r).Pays budget start_tick False
      (Run.Pacing budget start_tick maximum) (Run.Paced budget start_tick maximum) := by
  have hobserved := h.undisturbed (scheduler_observed_undisturbed env r.machine)
  unfold phase_refresh
  generalize r.with_machine (scheduler_observed env r.machine) = r' at hobserved ⊢
  have hwithin := RunBudget.clip_within hobserved.toEven
    r'.machine.refresh_cycle_ticks_remaining
  dsimp only
  generalize budget.clip r' r'.machine.refresh_cycle_ticks_remaining = ticks at hwithin ⊢
  have hpays := publish_elapsed_ticks_pays env hobserved.toPaced ticks .deadline hwithin rfl
  split_ifs with hticks hfit hs
  · exact Run.fault_pays env hobserved.toEven _
  · rcases hpays with ⟨_, haccounts⟩ | ⟨hok, _⟩
    · exact Phase.Splits.returns haccounts
    · exact absurd hok hs
  · rcases hpays with ⟨hne, _⟩ | ⟨_, hpaced, _⟩
    · exact absurd hne hs
    · exact ⟨not_false, hpaced⟩
  · exact ⟨not_false, hobserved⟩

/-- One tick of an external wait that the budget has left: it is charged and not published
exactly under the physical contract. -/
theorem phase_waits_pays {next again : Run σ → Prop} {r : Run σ} {f : Run σ → Phase σ}
    (h : r.Pacing budget start_tick maximum) (htime : r.out_of_time = false)
    (hf : ∀ r, r.Roomy budget start_tick maximum →
      (f r).Pays budget start_tick False next again) :
    (if (external_wait_tick env r).1 ≠ .ok then
        Phase.done .internal_error (external_wait_tick env r).2
      else f (external_wait_tick env r).2).Pays budget start_tick (external_refused r.machine)
      next again := by
  have hwaited := external_wait_tick_waited env h.toLive htime
  generalize external_wait_tick env r = waited at hwaited ⊢
  have hwithin : budget.ticks ≠ 0 → r.result.ticks + 1 ≤ budget.ticks := by
    intro hne
    rcases h.lasting with h | h
    · exact absurd h hne
    · exact h
  cases hwaited with
  | refused hp =>
    rw [if_pos (by simp)]
    by_cases hf : r.machine.lifecycle = .faulted
    · exact Or.inr ⟨fun hr => hr.2 hf, Or.inr (h.toEven.faulted 0 rfl h.within h.executed hf)⟩
    · have hticks := h.ticks
      refine Or.inl ⟨⟨hp, hf⟩, hf, ?_⟩
      simp only [Run.charged]
      omega
  | waited hp m hm hok =>
    rw [if_neg (by simp)]
    have hroom : 1 ≤ uint64_max - r.machine.elapsed_ticks := by
      have := h.clock
      simp [Run.out_of_time] at htime
      omega
    refine (hf _ ⟨h.toPaced.published 1 hroom hm hwithin, ?_⟩).of_iff
      ⟨False.elim, fun hr => hp hr.1⟩
    have := h.room
    simp only [Run.stamped, Run.charged, Run.with_machine, hm.wait_pending]
    exact this
  | faulted hp m hm hok status hs =>
    rw [if_pos hs]
    exact Or.inr ⟨fun hr => hp hr.1, Or.inr
      (h.toEven.faulted 1 hm.elapsed_ticks hwithin h.executed hok)⟩

theorem phase_hold_pays {r : Run σ} (h : r.Pacing budget start_tick maximum) :
    (phase_hold env r).Pays budget start_tick (hold_refused env r)
      (Run.Pacing budget start_tick maximum) (Run.Paced budget start_tick maximum) := by
  have hheld := r.machine.call_undisturbed env.attachment_cpu_hold_asserted false
  unfold phase_hold hold_refused
  generalize r.machine.call env.attachment_cpu_hold_asserted false = held at hheld ⊢
  have hpacing := h.undisturbed hheld
  dsimp only
  cases hasserted : held.1 with
  | false =>
    rw [if_neg (by simp)]
    exact ⟨by simp, hpacing⟩
  | true =>
    rw [if_pos rfl]
    cases htime : (r.with_machine held.2).out_of_time with
    | true =>
      rw [if_pos rfl]
      exact (Run.fault_pays env hpacing.toEven _).of_iff (by simp)
    | false =>
      rw [if_neg (by simp)]
      exact (phase_waits_pays (f := .again) env hpacing htime
        fun _ h => ⟨not_false, h.toPaced⟩).of_iff (by simp [Run.with_machine])

theorem phase_ready_pays {r : Run σ} (h : r.Pacing budget start_tick maximum) :
    (phase_ready env r).Pays budget start_tick (ready_refused r)
      (Run.Pacing budget start_tick maximum) (Run.Paced budget start_tick maximum) := by
  unfold phase_ready ready_refused
  split_ifs with hwait htime
  · exact (Run.fault_pays env h.toEven _).of_iff (by simp [htime])
  · have htime : r.out_of_time = false := by simpa using htime
    refine (phase_waits_pays (f := .again) env h htime
      fun _ h => ⟨not_false, h.toPaced⟩).of_iff ?_
    simp only [Bool.not_eq_true'] at hwait
    simp [hwait, htime]
  · refine ⟨fun hr => hwait ?_, h⟩
    simp [hr.1, hr.2.1, hr.2.2.1]

theorem phase_board_wait_pays {r : Run σ} (h : r.Pacing budget start_tick maximum) :
    (phase_board_wait env r).Pays budget start_tick (board_wait_refused r)
      (Run.Roomy budget start_tick maximum) (Run.Paced budget start_tick maximum) := by
  unfold phase_board_wait board_wait_refused
  dsimp only
  by_cases hwait : r.machine.cpu_retirement_wait_pending = true ∧
      r.machine.cpu_retirement_wait_ticks ≠ 0
  case neg =>
    rw [if_neg hwait]
    exact ⟨fun hr => hwait ⟨hr.1, hr.2.1⟩, h.toRoomy⟩
  rw [if_pos hwait]
  cases htime : r.out_of_time with
  | true =>
    rw [if_pos rfl]
    exact (Run.fault_pays env h.toEven.restamped _).of_iff
      (by simp)
  | false =>
    rw [if_neg (by simp)]
    generalize hspent : (r.with_machine { r.machine with
      cpu_retirement_wait_ticks := r.machine.cpu_retirement_wait_ticks - 1 }) = spent
    have hpacing : spent.Pacing budget start_tick maximum := by
      subst hspent
      exact ⟨⟨h.toPaced.of_machine rfl rfl rfl And.intro, h.room⟩, h.lasting⟩
    have hleft : spent.out_of_time = false := by
      subst hspent
      exact htime
    have hrefused : external_refused spent.machine ↔ external_refused r.machine := by
      subst hspent
      rfl
    refine (phase_waits_pays (f := fun r =>
        if !r.machine.cpu_profile_v30 && r.machine.cpu_retirement_wait_retires &&
            env.cpu_is_halted r.machine.owner then r.pause env .waiting_for_interrupt
        else if r.machine.cpu_retirement_wait_ticks ≠ 0 then .again r
        else .next r) env hpacing hleft fun r h => ?_).of_iff ?_
    · split_ifs
      · exact Run.pause_pays env h.toEven _
      · exact ⟨not_false, h.toPaced⟩
      · exact ⟨not_false, h⟩
    · rw [hrefused]
      simp [hwait]

theorem finish_event_pays (cpu_fault_pending : Bool) (event_ticks : ℕ) {r : Run σ}
    {next : Run σ → Prop} (h : r.Paced budget start_tick maximum) :
    (finish_event env cpu_fault_pending event_ticks r).Pays budget start_tick False next
      (Run.Paced budget start_tick maximum) := by
  unfold finish_event
  dsimp only
  split_ifs
  · exact ⟨not_false, h.of_machine rfl rfl rfl And.intro⟩
  · exact complete_cpu_fault_pays env (h.toEven.of_same rfl rfl h.stamp rfl)
  · exact finish_shutdown_pays env (h.of_machine rfl rfl rfl (by simp))
  all_goals
    try exact Phase.Splits.returns (Or.inl (h.toEven.of_same rfl rfl rfl rfl))
  all_goals
    have hstalled := (CoreMachine.call_undisturbed
      { r.machine with
        cpu_retirement_completion_ticks := r.machine.cpu_retirement_completion_ticks - event_ticks
        cpu_retirement_wait_pending := false
        cpu_retirement_source_ticks := 0
        lifecycle := .paused } (some env.execution_consume_wait_stall) false).elapsed_ticks
    exact Phase.Splits.returns (Or.inl (h.toEven.of_same hstalled rfl hstalled rfl))

theorem complete_event_pays (cpu_fault_pending : Bool) {r : Run σ} {next : Run σ → Prop}
    (h : r.Paced budget start_tick maximum) :
    (complete_event env budget cpu_fault_pending r).Pays budget start_tick False next
      (Run.Paced budget start_tick maximum) := by
  have hwithin := RunBudget.clip_within h.toEven r.machine.cpu_retirement_completion_ticks
  unfold complete_event
  generalize budget.clip r r.machine.cpu_retirement_completion_ticks = ticks at hwithin ⊢
  have hpays := publish_elapsed_ticks_pays env h ticks .cpu_event hwithin rfl
  dsimp only
  split_ifs with hticks hs
  · rcases hpays with ⟨_, haccounts⟩ | ⟨hok, _⟩
    · exact Phase.Splits.returns haccounts
    · exact absurd hok hs
  · rcases hpays with ⟨hne, _⟩ | ⟨_, hpaced, _⟩
    · exact absurd hne hs
    · exact finish_event_pays env _ _ hpaced
  · exact finish_event_pays env _ _ h

theorem retire_partly_pays {r : Run σ} {next again : Run σ → Prop}
    (h : r.Paced budget start_tick maximum) :
    (retire_partly env budget r).Pays budget start_tick False next again := by
  have hwithin : budget.ticks ≠ 0 →
      r.result.ticks + (budget.ticks - r.result.ticks) ≤ budget.ticks := by
    intro hne
    have := h.within hne
    omega
  have hpays := publish_elapsed_ticks_pays env h (budget.ticks - r.result.ticks) .cpu_execution
    hwithin rfl
  unfold retire_partly
  dsimp only
  split_ifs with hpart hs
  · rcases hpays with ⟨_, haccounts⟩ | ⟨hok, _⟩
    · exact Run.fault_accounts env haccounts _
    · exact absurd hok hs
  · rcases hpays with ⟨hne, _⟩ | ⟨_, hpaced, _⟩
    · exact absurd hne hs
    · exact Phase.Splits.returns (Or.inl (hpaced.toEven.of_same rfl rfl rfl rfl))
  · exact Run.pause_quietly_pays env h.toEven _

theorem phase_retired_pays {r : Run σ} {next : Run σ → Prop}
    (h : r.Paced budget start_tick maximum) :
    (phase_retired env r).Pays budget start_tick False next
      (Run.Paced budget start_tick maximum) := by
  have hasked := h.undisturbed
    (r.machine.call_undisturbed (some env.execution_consume_debug_pause_request) false)
  have hpolled := hasked.undisturbed (CoreMachine.after_undisturbed _ (env.execution_poll_wait
    (r.machine.call (some env.execution_consume_debug_pause_request) false).2.owner))
  unfold phase_retired
  dsimp only
  split_ifs
  · exact Run.pause_pays env hasked.toEven _
  · exact Run.pause_pays env hpolled.toEven _
  · exact ⟨not_false, hpolled⟩

/-- A retirement that is published at its end: it is counted and charged before. -/
theorem retirement_pays {r : Run σ} (h : r.Paced budget start_tick maximum) (ticks : ℕ)
    (hfit : ticks ≤ uint64_max - r.machine.elapsed_ticks)
    (hwithin : budget.ticks ≠ 0 → r.result.ticks + ticks ≤ budget.ticks)
    (hroom : budget.instructions ≠ 0 → r.result.executed < budget.instructions)
    {published : Status × CoreMachine σ}
    (he : publish_elapsed_ticks env r.machine ticks .cpu_retirement = published) :
    (published.1 ≠ .ok ∧
        (((r.retired).charged ticks).with_machine published.2).Accounts budget start_tick) ∨
      (published.1 = .ok ∧
        published.2.cpu_retirement_wait_pending = r.machine.cpu_retirement_wait_pending ∧
        ∀ r' : Run σ,
        r'.machine.lifecycle = published.2.lifecycle →
        r'.machine.elapsed_ticks = published.2.elapsed_ticks →
        r'.machine.maximum_instruction_ticks = published.2.maximum_instruction_ticks →
        (r'.machine.cpu_retirement_wait_pending = false ∨
          r'.machine.cpu_retirement_wait_retires = false) →
        r'.result.ticks = r.result.ticks + ticks →
        r'.result.elapsed_ticks = published.2.elapsed_ticks →
        r'.result.executed = (r.result.executed + 1) % 2 ^ 64 →
        r'.Paced budget start_tick maximum) := by
  have hexecuted : budget.instructions ≠ 0 →
      (r.result.executed + 1) % 2 ^ 64 ≤ budget.instructions := by
    intro hne
    exact (Nat.mod_le _ _).trans (hroom hne)
  have hpublished := publish_elapsed_ticks_published env r.machine ticks .cpu_retirement
  rw [he] at hpublished
  cases hpublished with
  | refused _ _ hrefused => simp [publication_refused] at hrefused
  | invalid hbad =>
    obtain rfl : ticks = 0 := by omega
    exact Or.inl ⟨by simp, Or.inl (h.toEven.spent 0 rfl rfl h.stamp hwithin hexecuted)⟩
  | published _ _ _ status m hm hs =>
    by_cases hok : status = .ok
    · refine Or.inr ⟨hok, hm.wait_pending, fun r' hl hc hb hp hticks hstamp he => ?_⟩
      have hpaced := h.published ticks hfit hm hwithin
      exact
        { lifecycle := by
            rw [hl]
            exact hpaced.lifecycle
          clock := by
            rw [hc]
            exact hpaced.clock
          toEven := h.toEven.spent ticks (hc.trans hm.elapsed_ticks) hticks
            (hstamp.trans hc.symm) hwithin (by rw [he]; exact hexecuted)
          bound := hb.trans hpaced.bound
          retiring := by
            intro _ hpending hretires
            rcases hp with hp | hp
            · exact absurd (hp.symm.trans hpending) (by decide)
            · exact absurd (hp.symm.trans hretires) (by decide) }
    · have hf : m.lifecycle = .faulted := by
        by_contra hne
        exact hok (hs.2 hne)
      exact Or.inl ⟨hok, Or.inr
        (h.toEven.faulted ticks hm.elapsed_ticks hwithin hexecuted hf)⟩

theorem retire_pending_pays (cpu_fault_pending : Bool) (retiring_ticks event_ticks : ℕ)
    {r : Run σ} {next : Run σ → Prop} (h : r.Paced budget start_tick maximum)
    (hpending : r.machine.cpu_retirement_wait_pending = true)
    (hretires : r.machine.cpu_retirement_wait_retires = true)
    (hfit : retiring_ticks ≤ uint64_max - r.machine.elapsed_ticks)
    (hwithin : budget.ticks ≠ 0 → r.result.ticks + retiring_ticks ≤ budget.ticks) :
    (retire_pending env cpu_fault_pending retiring_ticks event_ticks r).Pays budget start_tick
      False next (Run.Paced budget start_tick maximum) := by
  have hretirement := publish_successful_retirement_undisturbed env r.machine
  have hpaced := h.undisturbed hretirement
  have hroom := fun hne => h.retiring hne hpending hretires
  have hclock := hretirement.elapsed_ticks
  unfold retire_pending
  generalize publish_successful_retirement env r.machine = retirement at hpaced hclock ⊢
  have hpays := retirement_pays env hpaced retiring_ticks
    (by rw [Run.with_machine, hclock]; exact hfit) hwithin hroom rfl
  dsimp only
  split_ifs with hqualified hs hevent hfault
  · exact Run.reported_pays env hpaced.toEven _
  · rcases hpays with ⟨_, haccounts⟩ | ⟨hok, _⟩
    · exact Phase.Splits.returns haccounts
    · exact absurd hok hs
  all_goals
    rcases hpays with ⟨hne, _⟩ | ⟨_, _, hpaid⟩
    · exact absurd hne hs
  · exact ⟨not_false, hpaid _ rfl rfl rfl (Or.inr rfl) rfl rfl rfl⟩
  · refine complete_cpu_fault_pays env (@Run.Paced.toEven _ budget start_tick maximum _ ?_)
    exact hpaid _ rfl rfl rfl (Or.inl rfl) rfl rfl rfl
  · refine phase_retired_pays env ?_
    exact hpaid _ rfl rfl rfl (Or.inl rfl) rfl rfl rfl

theorem phase_completion_pays (cpu_fault_pending : Bool) (event_ticks : ℕ) {r : Run σ}
    (h : r.Roomy budget start_tick maximum) :
    (phase_completion env budget cpu_fault_pending event_ticks r).Pays budget start_tick False
      (Run.Free budget start_tick maximum) (Run.Paced budget start_tick maximum) := by
  unfold phase_completion
  dsimp only
  cases hpending : r.machine.cpu_retirement_wait_pending with
  | false =>
    rw [if_pos (by simp)]
    refine ⟨not_false, h.toPaced, hpending, ?_⟩
    have := h.room
    simpa [hpending] using this
  | true =>
    rw [if_neg (by simp)]
    split_ifs with hbad hpart hevent
    · exact Run.reported_pays env h.toEven _
    · exact retire_partly_pays env h.toPaced
    · exact complete_event_pays env cpu_fault_pending h.toPaced
    · have hretires : r.machine.cpu_retirement_wait_retires = true := by simpa using hevent
      refine retire_pending_pays env cpu_fault_pending _ event_ticks h.toPaced hpending hretires
        (by omega) ?_
      intro hne
      have := h.within hne
      have : ¬ budget.ticks - r.result.ticks <
          r.machine.cpu_retirement_completion_ticks - event_ticks :=
        fun hlt => hpart ⟨hretires, hne, hlt⟩
      omega

theorem phase_budget_pays {r : Run σ} (h : r.Free budget start_tick maximum) :
    (phase_budget env budget r).Pays budget start_tick False
      (Run.Fitting budget start_tick maximum) (Run.Paced budget start_tick maximum) := by
  unfold phase_budget
  split_ifs with hfits
  · exact Run.pause_pays env h.toEven.restamped _
  · refine ⟨not_false, h, ?_⟩
    rw [h.bound] at hfits
    omega

theorem retire_at_once_pays (instruction_ticks : ℕ) {r : Run σ} {next : Run σ → Prop}
    (h : r.Free budget start_tick maximum)
    (hfit : instruction_ticks ≤ uint64_max - r.machine.elapsed_ticks)
    (hwithin : budget.ticks ≠ 0 → r.result.ticks + instruction_ticks ≤ budget.ticks) :
    (retire_at_once env instruction_ticks r).Pays budget start_tick False next
      (Run.Paced budget start_tick maximum) := by
  have hretirement := publish_successful_retirement_undisturbed env
    { r.machine with cpu_retirement_source_ticks := instruction_ticks }
  have hsourced : (r.with_machine
      { r.machine with cpu_retirement_source_ticks := instruction_ticks }).Paced budget
      start_tick maximum := h.toPaced.of_machine rfl rfl rfl And.intro
  have hpaced := hsourced.undisturbed hretirement
  have hclock : _ = r.machine.elapsed_ticks := hretirement.elapsed_ticks
  have hwait : _ = r.machine.cpu_retirement_wait_pending := hretirement.wait_pending
  have hroom : budget.instructions ≠ 0 → r.result.executed < budget.instructions :=
    fun hne => h.free.resolve_left hne
  unfold retire_at_once
  generalize publish_successful_retirement env
    { r.machine with cpu_retirement_source_ticks := instruction_ticks } = retirement
    at hpaced hclock hwait ⊢
  have hpays := retirement_pays env hpaced instruction_ticks
    (by simp only [Run.with_machine]; rw [hclock]; exact hfit) hwithin hroom rfl
  dsimp only
  split_ifs with hqualified hs hfault
  · exact Run.reported_pays env hpaced.toEven _
  · rcases hpays with ⟨_, haccounts⟩ | ⟨hok, _⟩
    · exact Run.reported_accounts env haccounts _
    · exact absurd hok hs
  all_goals
    rcases hpays with ⟨hne, _⟩ | ⟨_, hleft, hpaid⟩
    · exact absurd hne hs
    have hidle := hleft.trans (hwait.trans h.idle)
  · refine complete_cpu_fault_pays env (@Run.Paced.toEven _ budget start_tick maximum _ ?_)
    exact hpaid _ rfl rfl rfl (Or.inl hidle) rfl rfl rfl
  · refine phase_retired_pays env ?_
    exact hpaid _ rfl rfl rfl (Or.inl hidle) rfl rfl rfl

theorem retire_instruction_pays (timing : Timing) {r : Run σ} {next : Run σ → Prop}
    (h : r.Fitting budget start_tick maximum)
    (htiming : maximum ≠ 0 → timing.ticks ≤ maximum) :
    (retire_instruction env timing r).Pays budget start_tick False next
      (Run.Paced budget start_tick maximum) := by
  unfold retire_instruction
  dsimp only
  by_cases hbad : timing.ticks = 0 ∨ r.machine.external_cycle_round_overflow ∨
      uint64_max < timing.ticks + timing.event_ticks + r.machine.external_cycle_round_ticks ∨
      uint64_max - r.result.ticks <
        timing.ticks + timing.event_ticks + r.machine.external_cycle_round_ticks ∨
      uint64_max - r.machine.elapsed_ticks <
        timing.ticks + timing.event_ticks + r.machine.external_cycle_round_ticks
  · rw [if_pos hbad]
    exact Run.reported_pays env h.toEven _
  rw [if_neg hbad]
  have hkey : Undisturbed r.machine
      (if r.machine.retirement_time_contract = .physical ∨
          r.machine.retirement_observation_bound then
        r.machine.after (env.retirement_observation_capture_eligibility_key r.machine.owner)
      else r.machine) := by
    split_ifs
    · exact r.machine.after_undisturbed _
    · exact Undisturbed.refl _
  have hexternal : (if r.machine.retirement_time_contract = .physical ∨
          r.machine.retirement_observation_bound then
        r.machine.after (env.retirement_observation_capture_eligibility_key r.machine.owner)
      else r.machine).external_cycle_round_ticks = r.machine.external_cycle_round_ticks := by
    split_ifs
    · exact r.machine.after_external_cycle_round_ticks _
    · rfl
  generalize (if r.machine.retirement_time_contract = .physical ∨
      r.machine.retirement_observation_bound then
    r.machine.after (env.retirement_observation_capture_eligibility_key r.machine.owner)
      else r.machine) = m at hkey hexternal ⊢
  have hfitting := h.undisturbed hkey
  -- an instruction that begins to wait for its retirement is still in the budget
  have hwaits : ∀ wait_ticks completion_ticks source_ticks retires,
      (r.with_machine (begin_retirement_wait m wait_ticks completion_ticks source_ticks
        retires)).Paced budget start_tick maximum := fun _ _ _ _ =>
    { lifecycle := hfitting.lifecycle
      clock := hfitting.clock
      toEven := hfitting.toEven.of_same rfl rfl hfitting.stamp rfl
      bound := hfitting.bound
      retiring := fun hne _ _ => h.free.resolve_left hne }
  by_cases hwait : m.maximum_instruction_ticks = 0 ∨ m.external_cycle_round_ticks ≠ 0 ∨
      timing.event_ticks ≠ 0
  · rw [if_pos hwait]
    exact ⟨not_false, hwaits _ _ _ _⟩
  rw [if_neg hwait]
  refine retire_at_once_pays env _ hfitting.toFree ?_ ?_
  · have := hkey.elapsed_ticks
    simp only [Run.with_machine]
    omega
  · intro hne
    have hbound : m.maximum_instruction_ticks = maximum := hfitting.bound
    have hwithin := h.within hne
    have hticks := htiming (by omega)
    have hfits := h.fits.resolve_left hne
    simp only [Run.with_machine]
    omega

theorem settle_round_pays (was_halted : Bool) (timing : Timing) {r : Run σ} {next : Run σ → Prop}
    (h : r.Fitting budget start_tick maximum)
    (htiming : maximum ≠ 0 → timing.ticks ≤ maximum) :
    (settle_round env was_halted timing r).Pays budget start_tick False next
      (Run.Paced budget start_tick maximum) := by
  have hstalled := r.machine.call_undisturbed (some env.execution_consume_wait_stall) false
  have hfitting := h.undisturbed hstalled
  unfold settle_round
  dsimp only
  split_ifs
  · exact finish_shutdown_pays env h.toPaced
  · exact Run.pause_pays env hfitting.toEven.restamped _
  · have hreserved := CoreMachine.after_undisturbed
      (r.machine.call (some env.execution_consume_wait_stall) false).2
      (env.execution_reserve_prefetch
        (r.machine.call (some env.execution_consume_wait_stall) false).2.owner)
    exact retire_instruction_pays env timing (hfitting.undisturbed hreserved) htiming
  · exact retire_instruction_pays env timing hfitting htiming

theorem phase_execute_pays {r : Run σ} {next : Run σ → Prop}
    (h : r.Fitting budget start_tick maximum)
    (htiming : ∀ owner, maximum ≠ 0 → (env.cpu_capture_timing owner).ticks ≤ maximum) :
    (phase_execute env r).Pays budget start_tick False next
      (Run.Paced budget start_tick maximum) := by
  have hexecuted := execute_round_undisturbed env r.machine
  have hround := h.undisturbed hexecuted
  unfold phase_execute
  dsimp only
  generalize execute_round env r.machine = m at hexecuted hround ⊢
  have hdelivered := event_delivered_undisturbed env (env.cpu_capture_timing m.owner) m
  have hfitting := hround.undisturbed hdelivered
  split_ifs
  · exact Phase.Splits.returns (Or.inl (hround.toEven.of_same rfl rfl rfl rfl))
  · exact Run.reported_pays env hfitting.toEven _
  · exact ⟨not_false,
      { lifecycle := hfitting.lifecycle
        clock := hfitting.clock
        toEven := hfitting.toEven.of_same rfl rfl hfitting.stamp rfl
        bound := hfitting.bound
        retiring := fun _ _ hretires => absurd hretires (by simp [begin_retirement_wait,
          Run.with_machine]) }⟩
  · exact complete_cpu_fault_pays env hfitting.toEven
  · exact Run.pause_quietly_pays env hfitting.toEven _
  · exact settle_round_pays env _ _ hfitting (htiming _)
  · exact settle_round_pays env _ _ hfitting (htiming _)

end Parts

/-! ## Iterations and runs -/

/-- A tick is waited for in the iteration that starts from `r` which may not be published: of
a hold, of the ready line or of the board. -/
def WaitRefused (env : Environment σ) (budget : RunBudget) (r : Run σ) : Prop :=
  (((requests env r).and_then (phase_reset env)).and_then (phase_refresh env budget)).Later
    fun r₁ => hold_refused env r₁ ∨ (phase_hold env r₁).Later
      fun r₂ => ready_refused r₂ ∨ (phase_ready env r₂).Later board_wait_refused

/-- `run` resets the machine cold: it was asked to stop before or while it runs. -/
def resets_cold (env : Environment σ) (budget : RunBudget) (m : CoreMachine σ) : Prop :=
  (passes_checks m budget ∧ m.stop_requested = true) ∨ run_meets env budget (stops_cold env) m

theorem execute_step_pays (env : Environment σ) (budget : RunBudget) {start_tick maximum : ℕ}
    {r : Run σ} (h : r.Paced budget start_tick maximum) (hlasts : budget.lasts r = true)
    (hcold : ¬ stops_cold env r)
    (htiming : ∀ owner, maximum ≠ 0 → (env.cpu_capture_timing owner).ticks ≤ maximum) :
    (execute_step env budget r).Pays budget start_tick (WaitRefused env budget r)
      (Run.Paced budget start_tick maximum) (Run.Paced budget start_tick maximum) := by
  have hpacing : r.Pacing budget start_tick maximum := by
    simp [RunBudget.lasts] at hlasts
    exact ⟨⟨h, or_assoc.1 hlasts.1⟩, hlasts.2⟩
  have hrest : ∀ r₁ : Run σ, r₁.Pacing budget start_tick maximum → Phase.Pays budget start_tick
      (((((phase_ready env r₁).and_then (phase_board_wait env)).and_then
        (phase_completion env budget (r.machine.fault_detail != 0)
          (retirement_event_ticks env r₁.machine))).and_then
        (phase_budget env budget)).and_then (phase_execute env))
      (ready_refused r₁ ∨ (phase_ready env r₁).Later board_wait_refused)
      (Run.Paced budget start_tick maximum) (Run.Paced budget start_tick maximum) := by
    intro r₁ h₁
    refine (((((phase_ready_pays env h₁).and_then
      fun _ h => phase_board_wait_pays env h).and_then
      fun _ h => phase_completion_pays env _ _ h).and_then
      fun _ h => phase_budget_pays env h).and_then
      fun _ h => phase_execute_pays env h htiming).of_iff ?_
    simp [Phase.not_later_false]
  refine (((((requests_pays env hpacing hcold).and_then
    fun _ h => phase_reset_pays env h).and_then
    fun _ h => phase_refresh_pays env h).and_then
    fun _ h => phase_hold_pays env h).and_then hrest).of_iff ?_
  simp [WaitRefused, Phase.later_and_then, Phase.later_or, Phase.not_later_false]

/-- `run` counts the ticks of a faulted machine anew. -/
theorem Run.Accounts.finished {budget : RunBudget} {start_tick : ℕ} {r : Run σ}
    (h : r.Accounts budget start_tick) (env : Environment σ) (status : Status) :
    (r.finish env start_tick status).2.Even budget start_tick := by
  unfold Run.finish
  split_ifs with hf
  · rcases h with h | h
    · have hticks := h.ticks
      have hwithin := h.within
      exact ⟨by dsimp only; omega, rfl, by dsimp only; omega, h.executed⟩
    · have hsince := h.since
      have hwithin := h.within
      exact ⟨by dsimp only; omega, rfl, by dsimp only; omega, h.executed⟩
  · rcases h with h | h
    · exact h
    · exact absurd h.faulted hf

/-- A run that resets nothing cold, of a processor that keeps to its bound: its result tells
the ticks that have passed and keeps to the budget, exactly if no tick of a wait for the
outside was refused. -/
theorem machine_run_counts (env : Environment σ) (fuel : ℕ) (m : CoreMachine σ)
    (budget : RunBudget) (hclock : m.elapsed_ticks ≤ uint64_max)
    (htiming : ∀ owner, m.maximum_instruction_ticks ≠ 0 →
      (env.cpu_capture_timing owner).ticks ≤ m.maximum_instruction_ticks)
    (hcold : ¬ resets_cold env budget m) (status : Status) (r : Run σ)
    (he : machine_run env fuel m budget = some (status, r)) :
    (m.elapsed_ticks + r.result.ticks = r.machine.elapsed_ticks ∧
        r.result.elapsed_ticks = r.machine.elapsed_ticks ∧
        (budget.ticks ≠ 0 → r.result.ticks ≤ budget.ticks) ∧
        (budget.instructions ≠ 0 → r.result.executed ≤ budget.instructions)) ↔
      ¬ run_meets env budget (WaitRefused env budget) m := by
  obtain ⟨status', r', he', hfinish⟩ := machine_run_executed he
  have heven : r'.Accounts budget m.elapsed_ticks → r.Even budget m.elapsed_ticks := by
    intro h
    have := h.finished env status'
    rw [hfinish] at this
    exact this
  rcases execute_budget_cases he' with ⟨hout, hr⟩ | ⟨hin, hloop⟩
  · refine iff_of_true ?_ fun h => hout h.1
    rcases hr with ⟨hm, hexecuted, hticks, hstamp⟩ | ⟨hpasses, hstop, _⟩
    · have h := heven (Or.inl ⟨by rw [hm, hticks]; rfl, by rw [hm, hstamp], by omega, by omega⟩)
      exact ⟨h.ticks, h.stamp, h.within, h.executed⟩
    · exact absurd (Or.inl ⟨hpasses, hstop⟩) hcold
  · have hpaced : ((Run.start env m).with_lifecycle .running).Paced budget m.elapsed_ticks
        m.maximum_instruction_ticks :=
      { lifecycle := Or.inl rfl
        clock := hclock
        toEven := ⟨rfl, rfl, fun _ => Nat.zero_le _, fun _ => Nat.zero_le _⟩
        bound := rfl
        retiring := fun hne _ _ => Nat.pos_of_ne_zero hne }
    have hstops : ¬ ((Run.start env m).with_lifecycle .running).Meets env budget
        (stops_cold env) := fun h => hcold (Or.inr ⟨hin, h⟩)
    have hsplits := execute_loop_splits
      (Run.Paced budget m.elapsed_ticks m.maximum_instruction_ticks)
      (Run.Accounts budget m.elapsed_ticks) (Run.Overcharged m.elapsed_ticks)
      (WaitRefused env budget) (stops_cold env)
      (fun _ h hl hx => execute_step_pays env budget h hl hx htiming)
      (fun _ h => Run.pause_pays env h.toEven .budget) fuel hpaced hstops hloop
    rcases hsplits with ⟨hmeets, hnot, hover⟩ | ⟨hnot, haccounts⟩
    · refine iff_of_false ?_ (not_not.2 ⟨hin, hmeets⟩)
      rw [Run.finish, if_neg hnot] at hfinish
      cases hfinish
      rintro ⟨hticks, _⟩
      omega
    · have h := heven haccounts
      exact iff_of_true ⟨h.ticks, h.stamp, h.within, h.executed⟩ fun hm => hnot hm.2

theorem machine_run_counts_halted :
    ∃ status r, machine_run halted_environment 1 physical_machine
        { instructions := 1, ticks := 0 } = some (status, r) ∧
      ((physical_machine.elapsed_ticks + r.result.ticks = r.machine.elapsed_ticks ∧
          r.result.elapsed_ticks = r.machine.elapsed_ticks ∧
          (0 ≠ 0 → r.result.ticks ≤ 0) ∧ (1 ≠ 0 → r.result.executed ≤ 1)) ↔
        ¬ run_meets halted_environment { instructions := 1, ticks := 0 }
          (WaitRefused halted_environment { instructions := 1, ticks := 0 })
          physical_machine) := by
  have hcold : ¬ resets_cold halted_environment { instructions := 1, ticks := 0 }
      physical_machine := by
    rintro (⟨_, hstop⟩ | ⟨_, s, hreach, _, hs⟩)
    · exact absurd hstop (by decide)
    · cases hreach with
      | refl _ =>
        obtain ⟨_, hr, hs⟩ := hs
        cases hr
        exact absurd hs (by decide)
      | step _ hr _ => rcases hr with hr | hr <;> cases hr
  exact ⟨_, _, rfl, machine_run_counts halted_environment 1 physical_machine
    { instructions := 1, ticks := 0 } (Nat.zero_le _) (fun _ _ => Nat.le_refl 1) hcold _ _ rfl⟩

/-- A hold under the physical contract is charged and never passes. -/
theorem machine_run_held_overcharged :
    ∃ status r, machine_run holding_environment 1 physical_machine
        { instructions := 1, ticks := 0 } = some (status, r) ∧
      r.result.ticks = 1 ∧ r.machine.elapsed_ticks = physical_machine.elapsed_ticks :=
  ⟨_, _, rfl, rfl, rfl⟩

end Nxvm.Machine
