/-
Which deadlines the scheduler keeps (`machine_scheduler.c`).

A round of `advance_scheduler` should never pass a deadline that is still ahead.
It does so in exactly one situation (`Skips`): some owner is due at once, nothing
else holds the round to one tick, and another owner's deadline lies before the
target. The observation then says "immediate" and leaves the nearest deadline out.
-/
import Nxvm.Machine.Scheduler

set_option autoImplicit false

namespace Nxvm.Machine

variable {σ : Type}

/-! ## What is pending -/

/-- `tick` is a deadline some owner has. -/
inductive Deadline (env : Environment σ) (m : CoreMachine σ) : ℕ → Prop where
  | timeline {due_tick : ℕ} (h : env.timeline_next_due m.owner = some due_tick) :
      Deadline env m due_tick
  | fpu {ticks : ℕ} (h : env.fpu_ticks_until_completion m.owner = some ticks) :
      Deadline env m (m.elapsed_ticks + ticks)
  | wait_poll {ticks : ℕ} (h : wait_poll_ticks env m = some ticks) :
      Deadline env m (m.elapsed_ticks + ticks)
  | refresh (h : m.refresh_cycle_ticks_remaining ≠ 0) :
      Deadline env m (m.elapsed_ticks + m.refresh_cycle_ticks_remaining)
  | board (h : (board_deadline env m).source_ticks ≠ 0) :
      Deadline env m (m.elapsed_ticks + (board_deadline env m).source_ticks)

/-- A round at `m` passes a deadline that is ahead. -/
def Skips (env : Environment σ) (target_tick : ℕ) (m : CoreMachine σ) : Prop :=
  (nearest_deadline env m).immediate_due = true ∧
    (board_deadline env m).l1_compatibility = false ∧
    (board_deadline env m).fast_advance_blocked = false ∧
    ∃ tick, Deadline env m tick ∧ m.elapsed_ticks < tick ∧ tick < target_tick

/-! ## The nearest deadline -/

/-- A tick the nearest deadline answers for: it is past, beyond the clock, or not before
the nearest. -/
def Nearest.Covers (n : Nearest) (now tick : ℕ) : Prop :=
  tick ≤ now ∨ uint64_max < tick ∨ (n.source_ticks ≠ 0 ∧ now + n.source_ticks ≤ tick)

/-- The nearest deadline only comes nearer. -/
def Nearest.Nearer (n n' : Nearest) : Prop :=
  ∀ now tick, n.Covers now tick → n'.Covers now tick

theorem Nearest.consider_absolute_spec (n : Nearest) (now due_tick : ℕ) :
    n.Nearer (n.consider_absolute now due_tick) ∧
      (n.consider_absolute now due_tick).Covers now due_tick := by
  unfold Nearest.consider_absolute Nearest.Nearer Nearest.Covers
  split_ifs <;> grind

theorem Nearest.consider_device_spec (n : Nearest) (now : ℕ) (device_ticks : Option ℕ) :
    n.Nearer (n.consider_device now device_ticks) ∧
      ∀ ticks, device_ticks = some ticks →
        (n.consider_device now device_ticks).Covers now (now + ticks) := by
  cases device_ticks with
  | none => exact ⟨fun _ _ h => h, fun ticks h => by cases h⟩
  | some ticks =>
    unfold Nearest.consider_device
    dsimp only
    split_ifs with hfit
    · obtain ⟨hn, hc⟩ := n.consider_absolute_spec now (now + ticks)
      refine ⟨hn, fun ticks' h => ?_⟩
      cases h
      exact hc
    · refine ⟨fun _ _ h => h, fun ticks' h => ?_⟩
      cases h
      right; left
      omega

theorem Nearest.consider_due_spec (n : Nearest) (now : ℕ) (due_tick : Option ℕ) :
    n.Nearer (n.consider_due now due_tick) ∧
      ∀ tick, due_tick = some tick → (n.consider_due now due_tick).Covers now tick := by
  cases due_tick with
  | none => exact ⟨fun _ _ h => h, fun tick h => by cases h⟩
  | some due_tick =>
    obtain ⟨hn, hc⟩ := n.consider_absolute_spec now due_tick
    refine ⟨hn, fun tick h => ?_⟩
    cases h
    exact hc

theorem Nearest.consider_immediate_nearer (n : Nearest) (immediate_due : Bool) :
    n.Nearer (n.consider_immediate immediate_due) :=
  fun _ _ h => h

theorem Nearest.consider_source_spec (n : Nearest) (now ticks : ℕ) :
    n.Nearer (n.consider_source ticks) ∧
      (ticks ≠ 0 → (n.consider_source ticks).Covers now (now + ticks)) := by
  unfold Nearest.consider_source Nearest.Nearer Nearest.Covers
  split_ifs <;> grind

/-- The nearest deadline answers for every deadline. -/
theorem nearest_deadline_covers (env : Environment σ) (m : CoreMachine σ) {tick : ℕ}
    (h : Deadline env m tick) : (nearest_deadline env m).Covers m.elapsed_ticks tick := by
  unfold nearest_deadline
  dsimp only
  -- the reports, each added to what the ones before it found
  obtain ⟨_, hdue⟩ := Nearest.consider_due_spec { source_ticks := 0, immediate_due := false }
    m.elapsed_ticks (env.timeline_next_due m.owner)
  generalize Nearest.consider_due { source_ticks := 0, immediate_due := false }
    m.elapsed_ticks (env.timeline_next_due m.owner) = n₀ at hdue
  obtain ⟨h₁, hfpu⟩ := n₀.consider_device_spec m.elapsed_ticks
    (env.fpu_ticks_until_completion m.owner)
  generalize n₀.consider_device m.elapsed_ticks (env.fpu_ticks_until_completion m.owner) = n₁
    at h₁ hfpu
  obtain ⟨h₂, hpoll⟩ := n₁.consider_device_spec m.elapsed_ticks (wait_poll_ticks env m)
  generalize n₁.consider_device m.elapsed_ticks (wait_poll_ticks env m) = n₂ at h₂ hpoll
  obtain ⟨h₃, hrefresh⟩ := n₂.consider_source_spec m.elapsed_ticks
    m.refresh_cycle_ticks_remaining
  generalize n₂.consider_source m.refresh_cycle_ticks_remaining = n₃ at h₃ hrefresh
  have h₄ := n₃.consider_immediate_nearer (board_deadline env m).immediate_due
  generalize n₃.consider_immediate (board_deadline env m).immediate_due = n₄ at h₄
  obtain ⟨h₅, hboard⟩ := n₄.consider_source_spec m.elapsed_ticks
    (board_deadline env m).source_ticks
  cases h with
  | timeline h => exact h₅ _ _ (h₄ _ _ (h₃ _ _ (h₂ _ _ (h₁ _ _ (hdue _ h)))))
  | fpu h => exact h₅ _ _ (h₄ _ _ (h₃ _ _ (h₂ _ _ (hfpu _ h))))
  | wait_poll h => exact h₅ _ _ (h₄ _ _ (h₃ _ _ (hpoll _ h)))
  | refresh h => exact h₅ _ _ (h₄ _ _ (hrefresh h))
  | board h => exact hboard h

/-! ## Being due at once -/

@[simp] theorem Nearest.consider_source_immediate (n : Nearest) (ticks : ℕ) :
    (n.consider_source ticks).immediate_due = n.immediate_due := by
  unfold Nearest.consider_source
  split_ifs <;> rfl

theorem Nearest.consider_absolute_immediate (n : Nearest) (now due_tick : ℕ) :
    (n.consider_absolute now due_tick).immediate_due =
      (n.immediate_due || decide (due_tick ≤ now)) := by
  unfold Nearest.consider_absolute
  split_ifs <;> simp [*]

theorem Nearest.consider_due_immediate (n : Nearest) (now : ℕ) (due_tick : Option ℕ) :
    (n.consider_due now due_tick).immediate_due =
      (n.immediate_due || due_tick.any fun tick => decide (tick ≤ now)) := by
  cases due_tick with
  | none => simp [Nearest.consider_due]
  | some tick => exact n.consider_absolute_immediate now tick

theorem Nearest.consider_device_immediate (n : Nearest) (now : ℕ) (device_ticks : Option ℕ) :
    (n.consider_device now device_ticks).immediate_due =
      (n.immediate_due || device_ticks == some 0) := by
  cases device_ticks with
  | none => simp [Nearest.consider_device]
  | some ticks =>
    unfold Nearest.consider_device
    dsimp only
    split_ifs with hfit
    · rw [n.consider_absolute_immediate]
      congr 1
      simp only [Bool.beq_eq_decide_eq, Option.some.injEq, decide_eq_decide]
      omega
    · have hne : ticks ≠ 0 := by omega
      simp [hne]

/-- Who can make the observation immediate. -/
theorem nearest_deadline_immediate (env : Environment σ) (m : CoreMachine σ) :
    (nearest_deadline env m).immediate_due =
      ((env.timeline_next_due m.owner).any (fun tick => decide (tick ≤ m.elapsed_ticks)) ||
        env.fpu_ticks_until_completion m.owner == some 0 || wait_poll_ticks env m == some 0 ||
        (board_deadline env m).immediate_due) := by
  unfold nearest_deadline
  dsimp only
  rw [Nearest.consider_source_immediate]
  unfold Nearest.consider_immediate
  dsimp only
  rw [Nearest.consider_source_immediate, Nearest.consider_device_immediate,
    Nearest.consider_device_immediate, Nearest.consider_due_immediate, Bool.false_or]

/-! ## One round -/

/-- A round keeps every deadline that is ahead, unless it is one that skips. -/
theorem scheduler_due_tick_keeps (env : Environment σ) (target_tick : ℕ) (m : CoreMachine σ)
    (hnow : m.elapsed_ticks < target_tick) (hmax : target_tick ≤ uint64_max) :
    (∀ tick, Deadline env m tick → m.elapsed_ticks < tick →
        scheduler_due_tick env target_tick m ≤ tick) ↔ ¬ Skips env target_tick m := by
  have hobserved : (capture_time_with_board env m).2 = board_deadline env m := by
    unfold capture_time_with_board
    dsimp only
    split_ifs <;> rfl
  constructor
  · rintro hkeeps ⟨himm, hl1, hfast, tick, hd, hahead, hbefore⟩
    have hvalid : (capture_time_with_board env m).1.next_deadline_valid = false := by
      unfold capture_time_with_board
      dsimp only
      rw [if_pos himm]
    have hdue : scheduler_due_tick env target_tick m = target_tick := by
      unfold scheduler_due_tick
      dsimp only
      rw [hobserved, hl1, hfast, hvalid]
      simp
    have := hkeeps tick hd hahead
    omega
  · intro hskips tick hd hahead
    have hcovers := nearest_deadline_covers env m hd
    unfold scheduler_due_tick
    dsimp only
    rw [hobserved]
    by_cases hl1 : (board_deadline env m).l1_compatibility = true
    · rw [if_pos hl1]
      omega
    · rw [if_neg hl1]
      by_cases hfast : (board_deadline env m).fast_advance_blocked = true
      · have hvalid : (capture_time_with_board env m).1.next_deadline_valid = false := by
          unfold capture_time_with_board
          dsimp only
          rw [if_neg hl1, if_pos hfast]
          split_ifs <;> rfl
        rw [hvalid, if_neg (by simp), if_pos hfast]
        omega
      · rw [if_neg hfast]
        by_cases himm : (nearest_deadline env m).immediate_due = true
        · -- due at once: the round goes to the target, so nothing may lie before it
          have hnot : ¬ tick < target_tick := fun hbefore => hskips
            ⟨himm, by simpa using hl1, by simpa using hfast, tick, hd, hahead, hbefore⟩
          split_ifs <;> omega
        · unfold capture_time_with_board
          dsimp only
          rw [if_neg himm, if_neg hl1, if_neg hfast]
          unfold Nearest.Covers at hcovers
          split_ifs <;> grind

/-! ## Whole spans -/

/-- The machines at which a round of the loop starts. -/
inductive SchedulerRound (env : Environment σ) (target_tick : ℕ) :
    CoreMachine σ → CoreMachine σ → Prop where
  | here {m : CoreMachine σ} (h : m.elapsed_ticks < target_tick) :
      SchedulerRound env target_tick m m
  | later {m m' : CoreMachine σ} (h : m.elapsed_ticks < target_tick)
      (h' : SchedulerRound env target_tick (scheduler_step env target_tick m) m') :
      SchedulerRound env target_tick m m'

theorem SchedulerRound.before {env : Environment σ} {target_tick : ℕ} {m m' : CoreMachine σ}
    (h : SchedulerRound env target_tick m m') : m'.elapsed_ticks < target_tick := by
  induction h with
  | here h => exact h
  | later _ _ ih => exact ih

theorem advance_scheduler_loop_elapsed (env : Environment σ) (target_tick : ℕ)
    (m : CoreMachine σ) (h : m.elapsed_ticks ≤ target_tick) :
    (advance_scheduler_loop env target_tick m).elapsed_ticks = target_tick := by
  induction m using advance_scheduler_loop.induct env target_tick with
  | case1 m hlt ih =>
    rw [advance_scheduler_loop, dif_pos hlt]
    exact ih (scheduler_step_bounds env target_tick m hlt).2
  | case2 m hge =>
    rw [advance_scheduler_loop, dif_neg hge]
    omega

/-- The scheduler moves the clock by exactly the span. -/
theorem advance_scheduler_elapsed (env : Environment σ) (m : CoreMachine σ) (ticks : ℕ)
    (hpos : 0 < ticks) (hfit : m.elapsed_ticks + ticks ≤ uint64_max) :
    (advance_scheduler env m ticks).elapsed_ticks = m.elapsed_ticks + ticks := by
  unfold advance_scheduler
  rw [if_neg (by omega)]
  dsimp only
  rw [(CoreMachine.after_undisturbed _ _).elapsed_ticks]
  exact advance_scheduler_loop_elapsed env _ m (by omega)

/-- What a span of the scheduler should do: every round goes forward and passes no deadline
that is ahead when it observes, and the clock ends at the span's end. -/
def KeepsDeadlines (env : Environment σ) (m : CoreMachine σ) (ticks : ℕ) : Prop :=
  let target_tick := m.elapsed_ticks + ticks
  (∀ m', SchedulerRound env target_tick m m' →
    m'.elapsed_ticks + 1 ≤ (scheduler_step env target_tick m').elapsed_ticks ∧
      ∀ tick, Deadline env (scheduler_observed env m') tick →
        (scheduler_observed env m').elapsed_ticks < tick →
        (scheduler_step env target_tick m').elapsed_ticks ≤ tick) ∧
    (advance_scheduler env m ticks).elapsed_ticks = target_tick

/-- A span keeps its deadlines exactly where none of its rounds is one that skips. -/
theorem advance_scheduler_keeps_deadlines (env : Environment σ) (m : CoreMachine σ) (ticks : ℕ)
    (hpos : 0 < ticks) (hfit : m.elapsed_ticks + ticks ≤ uint64_max) :
    KeepsDeadlines env m ticks ↔
      ∀ m', SchedulerRound env (m.elapsed_ticks + ticks) m m' →
        ¬ Skips env (m.elapsed_ticks + ticks) (scheduler_observed env m') := by
  have hround : ∀ m', SchedulerRound env (m.elapsed_ticks + ticks) m m' →
      ((∀ tick, Deadline env (scheduler_observed env m') tick →
        (scheduler_observed env m').elapsed_ticks < tick →
        (scheduler_step env (m.elapsed_ticks + ticks) m').elapsed_ticks ≤ tick) ↔
      ¬ Skips env (m.elapsed_ticks + ticks) (scheduler_observed env m')) := by
    intro m' h
    have he := (scheduler_observed_undisturbed env m').elapsed_ticks
    rw [scheduler_step_elapsed]
    exact scheduler_due_tick_keeps env _ _ (by rw [he]; exact h.before) hfit
  constructor
  · intro hkeeps m' h
    exact (hround m' h).mp (hkeeps.1 m' h).2
  · intro hskips
    refine ⟨fun m' h => ⟨?_, (hround m' h).mpr (hskips m' h)⟩,
      advance_scheduler_elapsed env m ticks hpos hfit⟩
    exact (scheduler_step_bounds env _ m' h.before).1

/-- A board that wants a look every three ticks. -/
def every_three_ticks : Environment Unit :=
  { idle_environment with attachment_deadline := some fun _ _ => { source_ticks := 3 } }

theorem advance_scheduler_keeps_every_three : KeepsDeadlines every_three_ticks idle_machine 10 := by
  apply (advance_scheduler_keeps_deadlines every_three_ticks idle_machine 10 (by decide)
    (by decide)).mpr
  rintro m' _ ⟨himm, _⟩
  generalize scheduler_observed every_three_ticks m' = m at himm
  have hpoll : wait_poll_ticks every_three_ticks m = none := ite_self none
  rw [nearest_deadline_immediate, hpoll] at himm
  cases himm

/-- A board with a disk controller that is due at once, and an event of the timeline at
tick 5. -/
def due_at_once : Environment Unit :=
  { idle_environment with
    timeline_next_due := fun _ => some 5
    attachment_deadline := some fun _ _ => { immediate_due := true } }

/-- Retiring ten ticks goes past the event at tick 5 in one round. -/
theorem advance_scheduler_skips_event : ¬ KeepsDeadlines due_at_once idle_machine 10 := by
  intro h
  have hfive := (h.1 idle_machine (SchedulerRound.here (by decide))).2 5
    (Deadline.timeline rfl) (by decide)
  have hten : (scheduler_step due_at_once 10 idle_machine).elapsed_ticks = 10 := by decide
  change (scheduler_step due_at_once 10 idle_machine).elapsed_ticks ≤ 5 at hfive
  omega

end Nxvm.Machine
