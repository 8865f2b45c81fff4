/-
Refresh and the bus, over whole runs of the machine.

While a refresh cycle lasts, the bus is the refresh's. Whatever order processor, attachment
and scheduler work in, nothing else begins meanwhile, and every refresh cycle is completed
once, unless a cold reset takes it off the bus.
-/
import Nxvm.Bus.Arbitration
import Nxvm.Bus.Ownership

set_option autoImplicit false

namespace Nxvm.Bus

open Nxvm.Machine (Status TransactionOwner TimeObservation BoardDeadline)
open Nxvm.Cpu (Profile cpu_profile_has_protected_architecture)

section Refresh

variable {σ : Type} (a : Attachment σ)

/-- The transaction is sound for what is left of the refresh cycle. -/
def BusMachine.Sound (m : BusMachine σ) : Prop :=
  Bus.Sound m.refresh_cycle_ticks_remaining m.transaction

/-- A step of the scheduler. -/
structure Advances (m m' : BusMachine σ) : Prop where
  sound : m.Sound → m'.Sound
  grown : Grows m.transaction.trace m'.transaction.trace
  contract : m'.transaction_contract = m.transaction_contract
  elapsed : m'.elapsed_ticks = m.elapsed_ticks

theorem Advances.refl (m : BusMachine σ) : Advances m m := ⟨id, Grows.refl _, rfl, rfl⟩

theorem Advances.trans {m m' m'' : BusMachine σ} (h : Advances m m') (h' : Advances m' m'') :
    Advances m m'' :=
  ⟨fun hs => h'.sound (h.sound hs), h.grown.trans h'.grown, h'.contract.trans h.contract,
    h'.elapsed.trans h.elapsed⟩

theorem Keeps.advances {m m' : BusMachine σ} (h : Keeps m m') : Advances m m' := by
  refine ⟨fun hs => ?_, h.moves.grown, h.schedule.contract, h.schedule.elapsed⟩
  unfold BusMachine.Sound
  rw [h.schedule.remaining]
  exact h.moves.sound hs

theorem Callback.keeps (callback : Callback σ) (m : BusMachine σ) : Keeps m (callback.call m).2 :=
  callback.attached.keeps m

theorem Keeps.with_context (m : BusMachine σ) (context : σ) : Keeps m (m.with_context context) :=
  ⟨⟨rfl, rfl, rfl⟩, Moves.refl _ _⟩

/-! ## The refresh cycle -/

/-- The end of the refresh cycle that runs is its completion. -/
theorem refresh_finish_spec {n : ℕ} (hn : n ≠ 0) {m : BusMachine σ}
    (hremaining : m.refresh_cycle_ticks_remaining = 0) :
    (Bus.Sound n m.transaction → (refresh_finish a m).Sound) ∧
      Grows m.transaction.trace (refresh_finish a m).transaction.trace ∧
      SameSchedule m (refresh_finish a m) ∧
      refresh_completions m.transaction.trace <
        refresh_completions (refresh_finish a m).transaction.trace := by
  have hcommit := transaction_commit_grown m.transaction
  have hmark : Grows (transaction_commit m.transaction).trace
      (mark_refresh_complete (transaction_commit m.transaction)).trace := Grows.complete _
  have hrest : Keeps
      (m.with_transaction (mark_refresh_complete (transaction_commit m.transaction)))
      (refresh_finish a m) :=
    (a.refresh_complete.keeps _).trans (Keeps.of_moves (transaction_hold_release_moves _))
  refine ⟨fun h => ?_, (hcommit.trans hmark).trans hrest.moves.grown,
    ⟨hrest.schedule.contract, hrest.schedule.elapsed, hrest.schedule.remaining⟩, ?_⟩
  · refine hrest.advances.sound ?_
    unfold BusMachine.Sound
    rw [BusMachine.with_transaction_remaining, hremaining]
    exact (refresh_complete_sound hn h).1
  · have hlast := hrest.moves.grown.completions_le
    have hone : refresh_completions (mark_refresh_complete
        (transaction_commit m.transaction)).trace =
        refresh_completions (transaction_commit m.transaction).trace + 1 := List.count_cons_self
    rw [BusMachine.with_transaction_transaction, hone] at hlast
    exact (Nat.lt_succ_of_le hcommit.completions_le).trans_le hlast

theorem refresh_occupy_advances {begun : TransactionState} {m : BusMachine σ}
    (hbegun : m.Sound → ∀ n, n ≠ 0 → Bus.Sound n begun)
    (hgrown : Grows m.transaction.trace begun.trace) :
    Advances m (refresh_occupy a begun m) := by
  unfold refresh_occupy
  dsimp only
  split_ifs with hlength
  · exact ⟨fun h => hbegun h _ hlength, hgrown, rfl, rfl⟩
  · obtain ⟨hsound, hfinish, hschedule, -⟩ := refresh_finish_spec a (n := 1) Nat.one_ne_zero
      (m := { m with
        transaction := begun
        refresh_cycle_ticks_remaining := m.transaction_contract.refresh_cycle_source_ticks })
      (not_not.mp hlength)
    exact ⟨fun h => hsound (hbegun h 1 Nat.one_ne_zero), hgrown.trans hfinish,
      hschedule.contract, hschedule.elapsed⟩

theorem transaction_hold_acknowledge_ok {state : TransactionState} {owner : TransactionOwner}
    (h : (transaction_hold_acknowledge state owner).1 = .ok) :
    (transaction_hold_acknowledge state owner).2.owner = .none ∧
      (transaction_hold_acknowledge state owner).2.hold_owner = owner ∧
      (transaction_hold_acknowledge state owner).2.hold_acknowledged = true := by
  unfold transaction_hold_acknowledge at h ⊢
  split_ifs at h ⊢ with hdenied
  simp only [not_or, not_not, ne_eq] at hdenied
  exact ⟨hdenied.2.1, hdenied.2.2.1, rfl⟩

theorem refresh_start_advances (address : ℕ) {m : BusMachine σ}
    (hremaining : m.refresh_cycle_ticks_remaining = 0) :
    Advances m (refresh_start a address m) := by
  have hheld : Moves m.refresh_cycle_ticks_remaining m.transaction
      (transaction_hold_request m.transaction .refresh address).2 :=
    transaction_hold_request_moves _ _
  have hacknowledged := hheld.trans
    (transaction_hold_acknowledge_moves TransactionOwner.refresh)
  unfold refresh_start
  dsimp only
  split_ifs with hrequest hacknowledge hbegin
  · exact Advances.refl m
  · exact (Keeps.of_moves (hacknowledged.trans (transaction_hold_release_moves _))).advances
  · -- A refused begin leaves the transaction as it was.
    refine (Keeps.of_moves (hacknowledged.trans (Moves.trans ?_
      (transaction_hold_release_moves _)))).advances
    unfold transaction_begin at hbegin ⊢
    split_ifs at hbegin ⊢
    · exact Moves.refl _ _
    · exact absurd rfl hbegin
  · obtain ⟨hnone, hhold, hack⟩ := transaction_hold_acknowledge_ok (not_not.mp hacknowledge)
    have hadmitted : ¬ transaction_denies (transaction_hold_acknowledge
        (transaction_hold_request m.transaction .refresh address).2 .refresh).2 .refresh :=
      fun hdenies => hbegin (by simp [transaction_begin_denied hdenies])
    rw [transaction_begin_admitted hadmitted]
    refine refresh_occupy_advances a (fun h n hn => ?_)
      (hacknowledged.grown.trans (Grows.record _ _))
    refine transaction_begun_refresh_sound hn ?_ hnone hhold hack _ _ _ _
    have hsound := hacknowledged.sound h
    rw [hremaining] at hsound
    exact hsound

/-- The refresh goes on by some ticks. A cycle that runs is completed where they reach its
end. -/
theorem refresh_hold_advance_advances (source_ticks : ℕ) (m : BusMachine σ) :
    Advances m (refresh_hold_advance a source_ticks m) := by
  unfold refresh_hold_advance
  split_ifs with hrunning hleft
  · refine ⟨fun h => ?_, Grows.refl _, rfl, rfl⟩
    have hne : m.refresh_cycle_ticks_remaining - source_ticks ≠ 0 := by omega
    exact ⟨fun _ => h.owned hrunning, ⟨fun _ => hne, fun _ => h.running.mpr hrunning⟩, h.in_order,
      h.counted⟩
  · obtain ⟨hsound, hgrown, hschedule, -⟩ := refresh_finish_spec a hrunning
      (m := { m with refresh_cycle_ticks_remaining := 0 }) rfl
    exact ⟨hsound, hgrown, hschedule.contract, hschedule.elapsed⟩
  · have hcontext := (Keeps.with_context m (a.refresh_request m.context).2).advances
    dsimp only
    cases (a.refresh_request m.context).1 with
    | none => exact hcontext
    | some address => exact hcontext.trans (refresh_start_advances a address (not_not.mp hrunning))

/-- A cycle that runs goes on or is completed. -/
theorem refresh_hold_advance_running (source_ticks : ℕ) {m : BusMachine σ}
    (hrunning : m.refresh_cycle_ticks_remaining ≠ 0) :
    (source_ticks < m.refresh_cycle_ticks_remaining ∧
        (refresh_hold_advance a source_ticks m).refresh_cycle_ticks_remaining =
          m.refresh_cycle_ticks_remaining - source_ticks) ∨
      refresh_completions m.transaction.trace <
        refresh_completions (refresh_hold_advance a source_ticks m).transaction.trace := by
  unfold refresh_hold_advance
  rw [if_pos hrunning]
  split_ifs with hleft
  · exact Or.inl ⟨hleft, rfl⟩
  · exact Or.inr (refresh_finish_spec a hrunning
      (m := { m with refresh_cycle_ticks_remaining := 0 }) rfl).2.2.2

/-! ## DMA and the processor -/

theorem refresh_requested_keeps (m : BusMachine σ) : Keeps m (refresh_requested a m).2 :=
  Keeps.with_context m _

theorem dma_requested_keeps (m : BusMachine σ) : Keeps m (dma_requested a m).2 :=
  Keeps.with_context m _

theorem dma_held_advance_keeps (dma_ticks : ℕ) (m : BusMachine σ) :
    Keeps m (dma_held_advance a dma_ticks m) := by
  have hacknowledge : Keeps m
      (m.with_transaction (transaction_hold_acknowledge m.transaction .dma).2) :=
    Keeps.of_moves (transaction_hold_acknowledge_moves .dma)
  unfold dma_held_advance
  dsimp only
  split_ifs
  · exact (hacknowledge.trans ((a.dma_advance dma_ticks).keeps _)).trans
      (Keeps.of_moves (transaction_hold_release_moves .dma))
  · exact hacknowledge.trans (Keeps.of_moves (transaction_hold_release_moves .dma))

theorem dma_hold_advance_keeps (dma_ticks : ℕ) (bus_used : Bool) (m : BusMachine σ) :
    Keeps m (dma_hold_advance a dma_ticks bus_used m).2 := by
  have hasked : Keeps m (if cpu_profile_has_protected_architecture m.cpu_profile ∧ dma_ticks ≠ 0
      then dma_requested a m else (false, m)).2 := by
    split_ifs
    · exact dma_requested_keeps a m
    · exact Keeps.refl m
  unfold dma_hold_advance
  dsimp only
  refine iteInduction (motive := fun r : Bool × BusMachine σ => Keeps m r.2) (fun _ => ?_)
    fun _ => ?_
  · exact (hasked.trans (Keeps.of_moves (transaction_hold_request_moves .dma 0))).trans
      (dma_held_advance_keeps a dma_ticks _)
  · exact hasked.trans ((a.dma_advance dma_ticks).keeps _)

theorem dma_quantum_keeps (bus_used : Bool) (m : BusMachine σ) :
    Keeps m (dma_quantum a bus_used m).2 := by
  have hasked := dma_requested_keeps a m
  unfold dma_quantum
  dsimp only
  split_ifs
  · exact hasked
  · exact ⟨⟨hasked.schedule.contract, hasked.schedule.elapsed, hasked.schedule.remaining⟩,
      hasked.moves⟩
  · have hgrant : Keeps m (dma_grant_advance a (dma_requested a m).2) :=
      hasked.trans (dma_hold_advance_keeps a 1 false _)
    exact ⟨⟨hgrant.schedule.contract, hgrant.schedule.elapsed, hgrant.schedule.remaining⟩,
      hgrant.moves⟩
  · exact hasked

theorem dma_quanta_keeps (dma_ticks : ℕ) (bus_used : Bool) (m : BusMachine σ) :
    Keeps m (dma_quanta a dma_ticks bus_used m).2 := by
  induction dma_ticks generalizing bus_used m with
  | zero => exact Keeps.refl m
  | succ dma_ticks ih => exact (dma_quantum_keeps a bus_used m).trans (ih _ _)

theorem dma_arbitrate_keeps (dma_ticks : ℕ) (refresh_occupied bus_used : Bool)
    (m : BusMachine σ) : Keeps m (dma_arbitrate a dma_ticks refresh_occupied bus_used m).2 := by
  unfold dma_arbitrate
  split_ifs
  · exact Keeps.refl m
  · exact dma_quanta_keeps a dma_ticks bus_used m
  · exact dma_hold_advance_keeps a dma_ticks bus_used m

theorem cpu_advance_prefetch_reservation_keeps (refresh_pending : Bool) (m : BusMachine σ) :
    Keeps m (cpu_advance_prefetch_reservation a refresh_pending m) := by
  have hrefresh := refresh_requested_keeps a m
  have hdma := hrefresh.trans (dma_requested_keeps a _)
  unfold cpu_advance_prefetch_reservation
  dsimp only
  split_ifs
  · exact Keeps.refl m
  · exact hrefresh
  · exact hdma
  · exact hdma.trans (CpuProgram.keeps _ _)

/-! ## A round -/

/-- After the refresh of a round, the rest of the arbitration keeps to it. -/
theorem arbitration_advance_refresh {source_ticks : ℕ} (hticks : source_ticks ≠ 0)
    (m : BusMachine σ) :
    ∃ asked, Keeps m asked ∧
      Keeps (refresh_hold_advance a source_ticks asked) (arbitration_advance a source_ticks m) := by
  have hasked : Keeps m (refresh_requested a (m.with_context (a.dma_ticks source_ticks
      m.context).2)).2 :=
    (Keeps.with_context m _).trans (refresh_requested_keeps a _)
  refine ⟨_, hasked, ?_⟩
  unfold arbitration_advance
  rw [if_neg hticks]
  exact ((dma_arbitrate_keeps a _ _ _ _).trans (CpuProgram.keeps _ _)).trans
    (cpu_advance_prefetch_reservation_keeps a _ _)

theorem arbitration_advance_advances (source_ticks : ℕ) (m : BusMachine σ) :
    Advances m (arbitration_advance a source_ticks m) := by
  by_cases hticks : source_ticks = 0
  · unfold arbitration_advance
    rw [if_pos hticks]
    exact Advances.refl m
  · obtain ⟨asked, hasked, hrest⟩ := arbitration_advance_refresh a hticks m
    exact (hasked.advances.trans (refresh_hold_advance_advances a source_ticks asked)).trans
      hrest.advances

/-- What is left of a refresh cycle after some ticks; or it has been completed. -/
def Elapsed (source_ticks : ℕ) (m m' : BusMachine σ) : Prop :=
  (source_ticks < m.refresh_cycle_ticks_remaining ∧
      m'.refresh_cycle_ticks_remaining = m.refresh_cycle_ticks_remaining - source_ticks) ∨
    refresh_completions m.transaction.trace < refresh_completions m'.transaction.trace

theorem Elapsed.keeps {source_ticks : ℕ} {first m m' m'' : BusMachine σ} (hbefore : Keeps first m)
    (h : Elapsed source_ticks m m') (hafter : Keeps m' m'') : Elapsed source_ticks first m'' := by
  obtain ⟨hlt, hleft⟩ | hdone := h
  · rw [hbefore.schedule.remaining] at hlt hleft
    exact Or.inl ⟨hlt, hafter.schedule.remaining.trans hleft⟩
  · exact Or.inr ((hbefore.moves.grown.completions_le.trans_lt hdone).trans_le
      hafter.moves.grown.completions_le)

theorem arbitration_advance_elapsed {source_ticks : ℕ} (hticks : source_ticks ≠ 0)
    {m : BusMachine σ} (hrunning : m.refresh_cycle_ticks_remaining ≠ 0) :
    Elapsed source_ticks m (arbitration_advance a source_ticks m) := by
  obtain ⟨asked, hasked, hrest⟩ := arbitration_advance_refresh a hticks m
  refine Elapsed.keeps hasked (refresh_hold_advance_running a source_ticks ?_) hrest
  rw [hasked.schedule.remaining]
  exact hrunning

/-- Around the arbitration of a round, everything keeps to the bus. -/
theorem scheduler_advance_to_arbitration (due_tick : ℕ) (m : BusMachine σ) :
    ∃ before, Keeps { m with elapsed_ticks := due_tick } before ∧
      Keeps (arbitration_advance a (due_tick - m.elapsed_ticks) before)
        (scheduler_advance_to a due_tick m) := by
  refine ⟨_, (a.timeline_advance due_tick).keeps _, ?_⟩
  have hinternal (source_ticks : ℕ) (m : BusMachine σ) :
      Keeps m (if source_ticks = 0 then m else (a.internal_advance source_ticks m.context).run m) := by
    split_ifs
    · exact Keeps.refl m
    · exact CpuProgram.keeps _ _
  unfold scheduler_advance_to
  exact (((a.before_internal_advance _ _).keeps _).trans (hinternal _ _)).trans
    ((a.after_internal_advance _ _).keeps _)

theorem scheduler_advance_to_spec (due_tick : ℕ) (m : BusMachine σ) :
    (m.Sound → (scheduler_advance_to a due_tick m).Sound) ∧
      Grows m.transaction.trace (scheduler_advance_to a due_tick m).transaction.trace ∧
      (scheduler_advance_to a due_tick m).elapsed_ticks = due_tick := by
  obtain ⟨before, hbefore, hafter⟩ := scheduler_advance_to_arbitration a due_tick m
  have hsteps := (hbefore.advances.trans (arbitration_advance_advances a _ before)).trans
    hafter.advances
  exact ⟨fun h => hsteps.sound h, hsteps.grown, hsteps.elapsed⟩

theorem scheduler_advance_to_elapsed {due_tick : ℕ} {m : BusMachine σ}
    (hdue : m.elapsed_ticks < due_tick) (hrunning : m.refresh_cycle_ticks_remaining ≠ 0) :
    Elapsed (due_tick - m.elapsed_ticks) m (scheduler_advance_to a due_tick m) := by
  obtain ⟨before, hbefore, hafter⟩ := scheduler_advance_to_arbitration a due_tick m
  have hstill : before.refresh_cycle_ticks_remaining ≠ 0 := by
    rw [hbefore.schedule.remaining]
    exact hrunning
  have h := arbitration_advance_elapsed a (Nat.sub_ne_zero_of_lt hdue) hstill
  have hkept : Elapsed (due_tick - m.elapsed_ticks) { m with elapsed_ticks := due_tick }
      (scheduler_advance_to a due_tick m) := h.keeps hbefore hafter
  exact hkept

theorem scheduler_observed_advances (m : BusMachine σ) : Advances m (scheduler_observed a m) := by
  unfold scheduler_observed
  split_ifs
  · exact refresh_hold_advance_advances a 0 m
  · exact Advances.refl m

/-- A refresh cycle that runs is only observed. -/
theorem scheduler_observed_running {m : BusMachine σ}
    (hrunning : m.refresh_cycle_ticks_remaining ≠ 0) : scheduler_observed a m = m := by
  unfold scheduler_observed
  split_ifs
  · unfold refresh_hold_advance
    rw [if_pos hrunning, if_pos (Nat.pos_of_ne_zero hrunning)]
    rfl
  · rfl

theorem scheduler_round_spec {target_tick : ℕ} {m : BusMachine σ}
    (htarget : m.elapsed_ticks < target_tick) :
    (m.Sound → (scheduler_round a target_tick m).Sound) ∧
      Grows m.transaction.trace (scheduler_round a target_tick m).transaction.trace ∧
      m.elapsed_ticks < (scheduler_round a target_tick m).elapsed_ticks ∧
      (scheduler_round a target_tick m).elapsed_ticks ≤ target_tick := by
  have hobserved := scheduler_observed_advances a m
  obtain ⟨hsound, hgrown, helapsed⟩ := scheduler_advance_to_spec a (due_tick
    (a.capture_time_with_board (scheduler_observed a m).elapsed_ticks
      (scheduler_observed a m).refresh_cycle_ticks_remaining (scheduler_observed a m).context)
    (scheduler_observed a m).elapsed_ticks target_tick) (scheduler_observed a m)
  have hbefore : (scheduler_observed a m).elapsed_ticks < target_tick := by
    rw [hobserved.elapsed]
    exact htarget
  have hbounds := due_tick_bounds (a.capture_time_with_board
    (scheduler_observed a m).elapsed_ticks
    (scheduler_observed a m).refresh_cycle_ticks_remaining (scheduler_observed a m).context) hbefore
  refine ⟨fun h => hsound (hobserved.sound h), hobserved.grown.trans hgrown, ?_⟩
  unfold scheduler_round
  rw [helapsed]
  refine ⟨?_, hbounds.2⟩
  have hlt := hbounds.1
  rw [hobserved.elapsed] at hlt ⊢
  exact hlt

/-! ## The scheduler -/

theorem scheduler_rounds_spec (target_tick rounds : ℕ) (m : BusMachine σ) :
    (m.Sound → (scheduler_rounds a target_tick rounds m).Sound) ∧
      Grows m.transaction.trace (scheduler_rounds a target_tick rounds m).transaction.trace := by
  induction rounds generalizing m with
  | zero => exact ⟨id, Grows.refl _⟩
  | succ rounds ih =>
    unfold scheduler_rounds
    split_ifs with htarget
    · obtain ⟨hsound, hgrown, -⟩ := scheduler_round_spec a htarget
      obtain ⟨hsounds, hgrowns⟩ := ih (scheduler_round a target_tick m)
      exact ⟨fun h => hsounds (hsound h), hgrown.trans hgrowns⟩
    · exact ⟨id, Grows.refl _⟩

/-- A refresh cycle is completed in rounds that go to its end or further. -/
theorem scheduler_rounds_complete {target_tick : ℕ} (rounds : ℕ) {m : BusMachine σ}
    (hrunning : m.refresh_cycle_ticks_remaining ≠ 0)
    (hend : m.elapsed_ticks + m.refresh_cycle_ticks_remaining ≤ target_tick)
    (hrounds : target_tick ≤ m.elapsed_ticks + rounds) :
    refresh_completions m.transaction.trace <
      refresh_completions (scheduler_rounds a target_tick rounds m).transaction.trace := by
  induction rounds generalizing m with
  | zero => omega
  | succ rounds ih =>
    have htarget : m.elapsed_ticks < target_tick := by omega
    obtain ⟨-, hgrown, hlt, hto⟩ := scheduler_round_spec a htarget
    have hround : Elapsed ((scheduler_round a target_tick m).elapsed_ticks - m.elapsed_ticks) m
        (scheduler_round a target_tick m) := by
      have hspec := scheduler_advance_to_spec a (due_tick
        (a.capture_time_with_board m.elapsed_ticks m.refresh_cycle_ticks_remaining m.context)
        m.elapsed_ticks target_tick) m
      unfold scheduler_round at hlt ⊢
      rw [scheduler_observed_running a hrunning, hspec.2.2] at hlt ⊢
      exact scheduler_advance_to_elapsed a hlt hrunning
    unfold scheduler_rounds
    rw [if_pos htarget]
    obtain ⟨hless, hleft⟩ | hdone := hround
    · refine hgrown.completions_le.trans_lt (ih ?_ ?_ ?_) <;> omega
    · exact hdone.trans_le (scheduler_rounds_spec a _ _ _).2.completions_le

theorem advance_scheduler_spec (elapsed_ticks : ℕ) (m : BusMachine σ) :
    (m.Sound → (advance_scheduler a elapsed_ticks m).Sound) ∧
      Grows m.transaction.trace (advance_scheduler a elapsed_ticks m).transaction.trace := by
  unfold advance_scheduler
  split_ifs
  · exact ⟨id, Grows.refl _⟩
  · obtain ⟨hsound, hgrown⟩ := scheduler_rounds_spec a (m.elapsed_ticks + elapsed_ticks)
      elapsed_ticks m
    have hprovider := ((a.provider_advance elapsed_ticks).keeps (scheduler_rounds a
      (m.elapsed_ticks + elapsed_ticks) elapsed_ticks m)).advances
    exact ⟨fun h => hprovider.sound (hsound h), hgrown.trans hprovider.grown⟩

theorem advance_scheduler_complete {elapsed_ticks : ℕ} {m : BusMachine σ}
    (hrunning : m.refresh_cycle_ticks_remaining ≠ 0)
    (hend : m.refresh_cycle_ticks_remaining ≤ elapsed_ticks)
    (hclock : m.elapsed_ticks + elapsed_ticks ≤ Machine.uint64_max) :
    refresh_completions m.transaction.trace <
      refresh_completions (advance_scheduler a elapsed_ticks m).transaction.trace := by
  unfold advance_scheduler
  rw [if_neg (by omega)]
  have hrounds := scheduler_rounds_complete a elapsed_ticks hrunning (by omega) le_rfl
  exact hrounds.trans_le
    ((a.provider_advance elapsed_ticks).keeps _).moves.grown.completions_le

/-! ## The machine -/

theorem cold_reset_sound {m : BusMachine σ} (h : m.Sound) : (cold_reset a m).Sound := by
  have hbefore := (CpuProgram.keeps (a.cpu_state_reset m.context) m).trans (a.reset_devices.keeps _)
  have hafter := (a.reset_clocks.keeps (reset_fields
    (a.reset_devices.call ((a.cpu_state_reset m.context).run m)).2)).trans (a.firmware_reset.keeps _)
  exact hafter.advances.sound (transaction_reset_sound (hbefore.advances.sound h))

theorem Operation.run_sound (operation : Operation σ) {m : BusMachine σ} (h : m.Sound) :
    (operation.run a m).Sound := by
  cases operation with
  | cpu program => exact (CpuProgram.keeps _ m).advances.sound h
  | board program => exact (program.keeps m).advances.sound h
  | dma_hold_request =>
    exact (Keeps.of_moves (transaction_hold_request_moves .dma 0)).advances.sound h
  | dma_hold_acknowledge =>
    exact (Keeps.of_moves (transaction_hold_acknowledge_moves .dma)).advances.sound h
  | dma_hold_release =>
    exact (Keeps.of_moves (transaction_hold_release_moves .dma)).advances.sound h
  | refresh_hold_advance source_ticks =>
    exact (refresh_hold_advance_advances a source_ticks m).sound h
  | arbitration_advance source_ticks =>
    exact (arbitration_advance_advances a source_ticks m).sound h
  | advance_scheduler elapsed_ticks => exact (advance_scheduler_spec a elapsed_ticks m).1 h
  | cold_reset => exact cold_reset_sound a h

/-- Only a cold reset puts a reset into the trace. -/
theorem Operation.run_grown {operation : Operation σ} (hresets : operation.resets = false)
    (m : BusMachine σ) : Grows m.transaction.trace (operation.run a m).transaction.trace := by
  cases operation with
  | cpu program => exact (CpuProgram.keeps _ m).moves.grown
  | board program => exact (program.keeps m).moves.grown
  | dma_hold_request => exact (transaction_hold_request_moves .dma 0 : Moves 0 _ _).grown
  | dma_hold_acknowledge => exact (transaction_hold_acknowledge_moves .dma : Moves 0 _ _).grown
  | dma_hold_release => exact (transaction_hold_release_moves .dma : Moves 0 _ _).grown
  | refresh_hold_advance source_ticks => exact (refresh_hold_advance_advances a source_ticks m).grown
  | arbitration_advance source_ticks => exact (arbitration_advance_advances a source_ticks m).grown
  | advance_scheduler elapsed_ticks => exact (advance_scheduler_spec a elapsed_ticks m).2
  | cold_reset => nomatch hresets

theorem run_sound (operations : List (Operation σ)) {m : BusMachine σ} (h : m.Sound) :
    (run a operations m).Sound := by
  induction operations generalizing m with
  | nil => exact h
  | cons operation operations ih => exact ih (operation.run_sound a h)

theorem run_reset_free {operations : List (Operation σ)}
    (hresets : ∀ operation ∈ operations, operation.resets = false) {m : BusMachine σ}
    (h : BusEvent.reset ∉ m.transaction.trace) :
    BusEvent.reset ∉ (run a operations m).transaction.trace := by
  induction operations generalizing m with
  | nil => exact h
  | cons operation operations ih =>
    rw [List.forall_mem_cons] at hresets
    exact ih hresets.2 fun hmem => h ((Operation.run_grown a hresets.1 m).reset_mem hmem)

/-- What holds of a machine and its refresh. -/
structure RefreshKept (m : BusMachine σ) : Prop where
  /-- What occupies the bus is the refresh, which holds it. -/
  owned : m.refresh_cycle_ticks_remaining ≠ 0 → m.transaction.owner = .refresh ∧
    m.transaction.hold_owner = .refresh ∧ m.transaction.hold_acknowledged = true
  /-- Meanwhile nobody is admitted. -/
  alone : m.refresh_cycle_ticks_remaining ≠ 0 →
    ∀ owner, transaction_denies m.transaction owner
  /-- Nothing ever began while a refresh cycle ran, and each completion was of one that ran. -/
  in_order : InOrder m.transaction.trace
  running : refresh_running m.transaction.trace = true ↔ m.refresh_cycle_ticks_remaining ≠ 0
  /-- Each refresh cycle that was begun is completed, was taken back by a reset, or runs. -/
  completed : refresh_starts m.transaction.trace =
    refresh_completions m.transaction.trace + refresh_aborts m.transaction.trace +
      (if m.refresh_cycle_ticks_remaining ≠ 0 then 1 else 0)
  /-- One that runs is completed when time goes on to its end. -/
  completes : ∀ elapsed_ticks, m.refresh_cycle_ticks_remaining ≠ 0 →
    m.refresh_cycle_ticks_remaining ≤ elapsed_ticks →
    m.elapsed_ticks + elapsed_ticks ≤ Machine.uint64_max →
    refresh_completions m.transaction.trace <
      refresh_completions (advance_scheduler a elapsed_ticks m).transaction.trace
  /-- The counters, of 64 bits, agree with what was begun. -/
  counted : CountersAgree m.transaction

theorem BusMachine.Sound.refresh_kept {m : BusMachine σ} (h : m.Sound) : RefreshKept a m where
  owned := h.owned
  alone hne owner := by
    refine denies_of_owner ?_
    rw [(h.owned hne).1]
    decide
  in_order := h.in_order
  running := h.running
  completed := by
    have hstarts := h.in_order.refresh_starts
    by_cases hne : m.refresh_cycle_ticks_remaining ≠ 0
    · rw [if_pos hne, hstarts, h.running.mpr hne]
      rfl
    · rw [if_neg hne, hstarts, Bool.eq_false_iff.mpr fun hrun => hne (h.running.mp hrun)]
      rfl
  completes _ := advance_scheduler_complete a
  counted := h.counted

/-- Whatever processor, attachment and scheduler do, and in which order: a refresh cycle has
the bus to itself and is completed once, and the counters agree. Only a cold reset takes a
refresh cycle back. -/
theorem refresh_keeps_bus (contract : BusContract) (profile : Profile) (context : σ)
    (operations : List (Operation σ)) :
    RefreshKept a (run a operations (neutral_create contract profile context)) ∧
      ((∀ operation ∈ operations, operation.resets = false) →
        refresh_aborts
          (run a operations (neutral_create contract profile context)).transaction.trace = 0) := by
  refine ⟨BusMachine.Sound.refresh_kept a (run_sound a operations sound_initialize), fun h => ?_⟩
  refine refresh_aborts_eq_zero (run_reset_free a h ?_)
  exact List.not_mem_nil

end Refresh

end Nxvm.Bus
