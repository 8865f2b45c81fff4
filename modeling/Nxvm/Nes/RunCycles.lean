/-
A run is charged the slots it takes.

An instruction, an interrupt and a reset are charged by themselves. The two transfers that
hold the processor are charged at the end of their service, by what the counter of slots has
moved: a service takes no more slots than its budget, so that the difference is a number of
32 bits. A pass of the loop is one of these, and the run adds its passes up.
-/
import Nxvm.Nes.Cycles
import Nxvm.Nes.Run

set_option autoImplicit false

namespace Nxvm.Nes

open Nxvm.Lib Nxvm.Lib.Exec
open Nxvm.Machine (Status)

/-- `n` slots were taken, and as many cycles were counted. -/
def Counted (n : ℕ) (m m' : Console) : Prop :=
  m'.slots = m.slots + BitVec.ofNat 64 n ∧ m'.cycles = m.cycles + BitVec.ofNat 64 n

theorem Counted.none (m : Console) : Counted 0 m m :=
  ⟨(BitVec.add_zero _).symm, (BitVec.add_zero _).symm⟩

theorem Counted.trans {i j : ℕ} {a b c : Console} (h : Counted i a b) (h' : Counted j b c) :
    Counted (i + j) a c := by
  obtain ⟨hslots, hcycles⟩ := h
  obtain ⟨hslots', hcycles'⟩ := h'
  refine ⟨?_, ?_⟩
  · rw [hslots', hslots, BitVec.ofNat_add, BitVec.add_assoc]
  · rw [hcycles', hcycles, BitVec.ofNat_add, BitVec.add_assoc]

/-! ## The parts of a run -/

theorem zeroExtend_cycles (cycles : U32) :
    cycles.zeroExtend 64 = BitVec.ofNat 64 cycles.toNat := by
  apply BitVec.eq_of_toNat_eq
  have hlt := cycles.isLt
  rw [BitVec.toNat_setWidth, BitVec.toNat_ofNat]

/-- An instruction that does not trap. -/
theorem step_cycles {m m' : Console} {cycles : U32} (h : core_machine_step m = .ok cycles m')
    (htrap : m'.trap.trap_valid = false) : Counted cycles.toNat m m' := by
  have hcharged := step_charged h htrap
  rw [zeroExtend_cycles] at hcharged
  exact hcharged

/-- An interrupt that is served, or nothing. -/
theorem service_interrupt_cycles {m m' : Console} {serviced : Bool}
    (h : core_machine_service_interrupt m = .ok serviced m') :
    Counted (if serviced then 7 else 0) m m' := by
  have hcharged := service_interrupt_charged h
  cases serviced with
  | true => exact hcharged
  | false => exact hcharged

/-- A reset takes seven slots. At power-on the cycles start from nothing. -/
theorem reset_cycles {kind : ResetKind} {m m' : Console} {u : Unit}
    (h : core_machine_reset kind m = .ok u m') :
    m'.slots = m.slots + 7 ∧ m'.cycles = (reset_state kind m).cycles + 7 := by
  unfold core_machine_reset at h
  rw [update_bind_run] at h
  obtain ⟨done, m₁, hsequence, hcount⟩ := bind_eq_ok.mp h
  obtain ⟨hslots, -, hcycles⟩ := reset_sequence_clocked.after hsequence
  cases hcount
  refine ⟨?_, ?_⟩
  · show m₁.slots = _
    rw [hslots]
    cases kind with
    | power => rfl
    | warm => rfl
  · show (if kind = .power then (7 : U64) else m₁.cycles + 7) = _
    cases kind with
    | power => rfl
    | warm =>
      rw [if_neg (by decide), hcycles]

/-! ## The transfers that hold the processor -/

/-- `x` makes `n` transfers at most, when it ends well. -/
abbrev AtMost {α : Type} (n : ℕ) (x : NesM α) : Prop :=
  Spends transfers (fun _ k => k ≤ n) (fun _ => True) x

theorem dma_read_at_most (address : U16) (phase : U8) : AtMost 1 (dma_read address phase) := by
  refine ⟨fun h => ?_, fun _ => trivial⟩
  unfold dma_read at h
  obtain ⟨r, m₁, hr, h₁⟩ := bind_eq_ok.mp h
  rw [update_bind_run] at h₁
  obtain ⟨value, m₂, hvalue, hdone⟩ := bind_eq_ok.mp h₁
  obtain ⟨rfl, rfl⟩ := rethrow_eq_ok hvalue
  cases hdone
  obtain ⟨-, -, hafter⟩ := status_of_clocked (bus_read_takes address) hr rfl
  exact ⟨1, le_rfl, hafter⟩

theorem dma_write_at_most : AtMost 1 dma_write := by
  refine ⟨fun {m u m'} h => ?_, fun _ => trivial⟩
  unfold dma_write at h
  rw [get_bind_run] at h
  obtain ⟨r, m₁, hr, h₁⟩ := bind_eq_ok.mp h
  rw [update_bind_run, update_bind_run] at h₁
  obtain ⟨rfl, rfl⟩ := rethrow_eq_ok h₁
  obtain ⟨-, -, hafter⟩ := status_of_clocked (bus_write_takes _ _) hr rfl
  refine ⟨1, le_rfl, ?_⟩
  split
  · exact hafter
  · exact hafter

theorem dma_cycle_at_most : AtMost 1 dma_cycle := by
  unfold dma_cycle
  refine Spends.bind (S := fun _ _ k => k ≤ 1) Takes.of_get (fun m => ?_) (by omega)
  refine .ite (fun _ => dma_read_at_most _ _) fun _ => ?_
  refine .ite (fun _ => dma_read_at_most _ _) fun _ => ?_
  exact .ite (fun _ => dma_read_at_most _ _) fun _ => dma_write_at_most

theorem dmc_advance_quiet : Quiet dmc_advance := by
  intro m
  unfold dmc_advance
  dsimp only
  split
  · exact ⟨rfl, rfl, rfl⟩
  · exact ⟨rfl, rfl, rfl⟩

theorem dmc_cycle_at_most : AtMost 1 dmc_cycle := by
  have hclocked : Clocked 1 dmc_cycle := by
    unfold dmc_cycle
    refine .bind (j := 1) .of_get (fun m => ?_) rfl
    refine .bind (j := 0) (bus_read_takes _) (fun value => ?_) rfl
    refine .bind (j := 0) (update_clocked fun _ => ⟨rfl, rfl, rfl⟩) (fun _ => ?_) rfl
    exact update_clocked dmc_advance_quiet
  exact ⟨fun h => ⟨1, le_rfl, hclocked.after h⟩, fun _ => trivial⟩

/-- The loop of a transfer takes no more cycles than its budget. -/
theorem transfer_loop_at_most {active : Console → Bool} {cycle : NesM Unit}
    (hcycle : AtMost 1 cycle) (budget : ℕ) : AtMost budget (transfer_loop active cycle budget) := by
  induction budget with
  | zero => exact .of_pure (Nat.le_refl 0)
  | succ budget ih =>
    unfold transfer_loop
    refine Spends.bind (S := fun _ _ k => k ≤ budget + 1) Takes.of_get (fun m => ?_) (by omega)
    refine .ite (fun _ => ?_) fun _ => .of_pure (Nat.zero_le _)
    exact Spends.bind hcycle (fun _ => ih) fun _ _ _ _ hi hj => by omega

/-- A service that ends is charged what it took, within its budget. -/
theorem service_done_charged {m m₁ m' : Console} {n : ℕ} {budget : U32} {answer : Option U32}
    (hn : n ≤ budget.toNat) (hafter : transfers.after n m m₁)
    (h : service_done m.slots m₁ = .ok answer m') :
    answer = some (BitVec.ofNat 32 n) ∧ Counted n m m' := by
  obtain ⟨hslots, -, hcycles⟩ := hafter
  have hlt := budget.isLt
  have hcount : service_cycles m.slots m₁ = BitVec.ofNat 32 n := by
    unfold service_cycles
    rw [hslots, BitVec.add_comm, BitVec.add_sub_cancel]
    apply BitVec.eq_of_toNat_eq
    rw [BitVec.truncate_eq_setWidth, BitVec.toNat_setWidth, BitVec.toNat_ofNat,
      BitVec.toNat_ofNat]
    omega
  unfold service_done at h
  rw [get_bind_run] at h
  rw [update_bind_run] at h
  cases h
  refine ⟨congrArg some hcount, hslots, ?_⟩
  show m₁.cycles + (service_cycles m.slots m₁).zeroExtend 64 = _
  rw [hcount, hcycles, zeroExtend_cycles, BitVec.toNat_ofNat,
    Nat.mod_eq_of_lt (Nat.lt_of_le_of_lt hn hlt)]

/-- What a service answers, and what it took. -/
def ServiceCharged (budget : U32) (answer : Option U32) (m m' : Console) : Prop :=
  match answer with
  | none => Counted 0 m m'
  | some cycles => ∃ n ≤ budget.toNat, cycles = BitVec.ofNat 32 n ∧ Counted n m m'

/-- A service: a transfer is started, runs within the budget and is charged. -/
theorem service_charged {loop : NesM Unit} {budget : U32} {answer : Option U32}
    {m started m' : Console} (hloop : AtMost budget.toNat loop)
    (hstart : started.slots = m.slots ∧ started.trace_count = m.trace_count ∧
      started.cycles = m.cycles)
    (h : (loop >>= fun _ => service_done m.slots) started = .ok answer m') :
    ServiceCharged budget answer m m' := by
  obtain ⟨u, m₁, hrun, hdone⟩ := bind_eq_ok.mp h
  obtain ⟨n, hn, hslots, htrace, hcycles⟩ := hloop.ok hrun
  rw [hstart.1] at hslots
  rw [hstart.2.1] at htrace
  rw [hstart.2.2] at hcycles
  obtain ⟨rfl, hcharged⟩ := service_done_charged hn ⟨hslots, htrace, hcycles⟩ hdone
  exact ⟨n, hn, rfl, hcharged⟩

theorem service_dma_charged {budget : U32} {answer : Option U32} {m m' : Console}
    (h : core_machine_service_dma_budget budget m = .ok answer m') :
    ServiceCharged budget answer m m' := by
  unfold core_machine_service_dma_budget at h
  rw [get_bind_run] at h
  split at h
  · cases h
    exact .none m
  · rw [update_bind_run] at h
    refine service_charged (transfer_loop_at_most dma_cycle_at_most _) ?_ h
    unfold dma_start
    split
    · exact ⟨rfl, rfl, rfl⟩
    · exact ⟨rfl, rfl, rfl⟩

theorem service_dmc_charged {budget : U32} {answer : Option U32} {m m' : Console}
    (h : core_machine_service_dmc_budget budget m = .ok answer m') :
    ServiceCharged budget answer m m' := by
  unfold core_machine_service_dmc_budget at h
  rw [get_bind_run] at h
  cases hstart : dmc_start m with
  | none =>
    rw [hstart] at h
    cases h
    exact .none m
  | some started =>
    rw [hstart] at h
    dsimp only at h
    rw [update_bind_run] at h
    refine service_charged (transfer_loop_at_most dmc_cycle_at_most _) ?_ h
    unfold dmc_start at hstart
    split at hstart
    · cases hstart
      exact ⟨rfl, rfl, rfl⟩
    · obtain ⟨r, -, rfl⟩ := Option.map_eq_some_iff.mp hstart
      exact ⟨rfl, rfl, rfl⟩

/-! ## The run -/

/-- A pass that does not trap is charged what it took: its budget at most, or the seven cycles
of an instruction or an interrupt. -/
theorem serve_charged {budget : U32} {result result' : RunResult} {m m' : Console}
    (h : serve budget result m = .ok result' m') (htrap : m'.trap.trap_valid = false) :
    ∃ n, Counted n m m' ∧ result'.cycles = result.cycles + BitVec.ofNat 32 n ∧
      (n ≤ budget.toNat ∨ n ≤ 7) := by
  unfold serve at h
  obtain ⟨dmc, m₁, hdmc, h⟩ := bind_eq_ok.mp h
  have hdmc := service_dmc_charged hdmc
  cases dmc with
  | some cycles =>
    obtain ⟨n, hn, rfl, hcharged⟩ := hdmc
    cases h
    exact ⟨n, hcharged, rfl, .inl hn⟩
  | none =>
    obtain ⟨dma, m₂, hdma, h⟩ := bind_eq_ok.mp h
    have hdma := service_dma_charged hdma
    cases dma with
    | some cycles =>
      obtain ⟨n, hn, rfl, hcharged⟩ := hdma
      cases h
      refine ⟨0 + n, Counted.trans hdmc hcharged, ?_, .inl (by omega)⟩
      rw [Nat.zero_add]
    | none =>
      have hnothing : Counted 0 m m₂ := Counted.trans hdmc hdma
      obtain ⟨serviced, m₃, hinterrupt, h⟩ := bind_eq_ok.mp h
      have hinterrupt := service_interrupt_cycles hinterrupt
      cases serviced with
      | true =>
        cases h
        exact ⟨0 + 7, hnothing.trans hinterrupt, rfl, .inr le_rfl⟩
      | false =>
        obtain ⟨cycles, m₄, hstep, h⟩ := bind_eq_ok.mp h
        rw [get_bind_run] at h
        cases h
        have hcharged := (hnothing.trans hinterrupt).trans (step_cycles hstep htrap)
        refine ⟨_, hcharged, ?_, .inr ?_⟩
        · show result.cycles + cycles = _
          simp
        · have hbound := (step_bound hstep).2
          simpa using hbound

/-- A run that has trapped is over. -/
theorem trapped_run {instruction_limit cycle_limit : U32} {honor_breakpoints : Bool} {passes : ℕ}
    {result result' : RunResult} {m m' : Console}
    (h : execute_loop instruction_limit cycle_limit honor_breakpoints passes result m =
      .ok result' m')
    (htrap : m.trap.trap_valid = true) : m' = m := by
  cases passes with
  | zero => cases h
  | succ passes =>
    have hstop : (!may_continue instruction_limit cycle_limit result m) = true := by
      unfold may_continue
      rw [htrap]
      simp
    unfold execute_loop at h
    rw [get_bind_run, if_pos hstop] at h
    unfold run_done at h
    rw [get_bind_run] at h
    cases h
    rfl

/-- **Along a run without a trap slots and cycles grow alike**, and the result tells them. -/
theorem execute_loop_charged {instruction_limit cycle_limit : U32} {honor_breakpoints : Bool}
    {passes : ℕ} {result result' : RunResult} {m m' : Console}
    (h : execute_loop instruction_limit cycle_limit honor_breakpoints passes result m =
      .ok result' m')
    (htrap : m'.trap.trap_valid = false) :
    ∃ n, Counted n m m' ∧ result'.cycles = result.cycles + BitVec.ofNat 32 n ∧
      (cycle_limit.toNat + 6 < 2 ^ 32 → result'.cycles.toNat = result.cycles.toNat + n) := by
  have hnothing {c c' : U32} (hc : c' = c) : c' = c + BitVec.ofNat 32 0 ∧
      (cycle_limit.toNat + 6 < 2 ^ 32 → c'.toNat = c.toNat + 0) := by
    rw [hc]
    exact ⟨(BitVec.add_zero c).symm, fun _ => rfl⟩
  induction passes generalizing result m with
  | zero => cases h
  | succ passes ih =>
    unfold execute_loop at h
    rw [get_bind_run] at h
    split at h
    · unfold run_done at h
      rw [get_bind_run] at h
      cases h
      exact ⟨0, .none _, hnothing rfl⟩
    rename_i hgoes
    split at h
    · rw [update_bind_run] at h
      cases h
      exact ⟨0, .none _, hnothing rfl⟩
    obtain ⟨u, m₁, hbypass, h⟩ := bind_eq_ok.mp h
    have hquiet : Counted 0 m m₁ := by
      unfold perform_if at hbypass
      split at hbypass
      · cases hbypass
        exact .none m
      · cases hbypass
        exact .none m
    obtain ⟨result₁, m₂, hserve, h⟩ := bind_eq_ok.mp h
    have htrap₂ : m₂.trap.trap_valid = false := by
      by_contra htrapped
      rw [Bool.not_eq_false] at htrapped
      rw [trapped_run h htrapped, htrapped] at htrap
      cases htrap
    obtain ⟨i, hcharged, hcycles, hbound⟩ := serve_charged hserve htrap₂
    obtain ⟨j, hrest, hcycles', hexact⟩ := ih h
    refine ⟨i + j, ?_, ?_, ?_⟩
    · have hall := (hquiet.trans hcharged).trans hrest
      rwa [Nat.zero_add] at hall
    · rw [hcycles', hcycles, BitVec.ofNat_add, BitVec.add_assoc]
    · intro hlimit
      have hbelow : result.cycles.toNat < cycle_limit.toNat := by
        simp only [may_continue, Bool.not_eq_true', Bool.not_eq_false, Bool.and_eq_true,
          decide_eq_true_eq] at hgoes
        exact BitVec.lt_def.mp hgoes.1.2
      have hbudget : (cycle_limit - result.cycles).toNat =
          cycle_limit.toNat - result.cycles.toNat := BitVec.toNat_sub_of_le (by
            exact BitVec.le_def.mpr hbelow.le)
      rw [hbudget] at hbound
      have hpass : result₁.cycles.toNat = result.cycles.toNat + i := by
        rw [hcycles, BitVec.toNat_add, BitVec.toNat_ofNat]
        omega
      rw [hexact hlimit, hpass, Nat.add_assoc]

/-- **Cycles are slots**: of an instruction, an interrupt, a reset and a run. The cycles of a
run's result have 32 bits; below a limit that cannot overflow they are the slots themselves. -/
theorem cycles_are_slots :
    (∀ (m m' : Console) (cycles : U32), core_machine_step m = .ok cycles m' →
      m'.trap.trap_valid = false → Counted cycles.toNat m m') ∧
    (∀ (m m' : Console) (serviced : Bool), core_machine_service_interrupt m = .ok serviced m' →
      Counted (if serviced then 7 else 0) m m') ∧
    (∀ (kind : ResetKind) (m m' : Console), core_machine_reset kind m = .ok () m' →
      m'.slots = m.slots + 7 ∧ m'.cycles = (reset_state kind m).cycles + 7) ∧
    (∀ (passes : ℕ) (instruction_limit cycle_limit : U32) (honor_breakpoints : Bool)
      (m m' : Console) (result : RunResult),
      core_machine_execute passes instruction_limit cycle_limit honor_breakpoints m =
        .ok result m' →
      m'.trap.trap_valid = false →
      ∃ n, Counted n m m' ∧ result.cycles = BitVec.ofNat 32 n ∧
        (cycle_limit.toNat + 6 < 2 ^ 32 → result.cycles.toNat = n)) := by
  refine ⟨?_, ?_, ?_, ?_⟩
  · intro m m' cycles hstep htrap
    exact step_cycles hstep htrap
  · intro m m' serviced hinterrupt
    exact service_interrupt_cycles hinterrupt
  · intro kind m m' hreset
    exact reset_cycles hreset
  · intro passes instruction_limit cycle_limit honor_breakpoints m m' result hrun htrap
    unfold core_machine_execute at hrun
    split at hrun
    · cases hrun
    · obtain ⟨n, hcharged, hcycles, hexact⟩ := execute_loop_charged hrun htrap
      refine ⟨n, hcharged, ?_, ?_⟩
      · rw [hcycles]
        exact BitVec.zero_add _
      · intro hlimit
        rw [hexact hlimit]
        exact Nat.zero_add n

/-- A machine with nothing in its memory: its first instruction is a break. -/
def idle_console : Console :=
  Console.zero
    { unmapped_cartridge [] ⟨16384, 8192, 0, 2, false, false⟩ with prg := List.replicate 16384 0 } 0

theorem cycles_are_slots_idle :
    ∃ result m', core_machine_execute 3 1 100 true idle_console = .ok result m' ∧
      ∃ n, Counted n idle_console m' ∧ result.cycles.toNat = n := by
  have hends : (match core_machine_execute 3 1 100 true idle_console with
      | .ok _ m' => !m'.trap.trap_valid
      | .error _ _ => false) = true := by
    decide +kernel
  cases hrun : core_machine_execute 3 1 100 true idle_console with
  | error e m' =>
    rw [hrun] at hends
    cases hends
  | ok result m' =>
    rw [hrun] at hends
    have htrap : m'.trap.trap_valid = false := by simpa using hends
    obtain ⟨n, hcounted, -, hexact⟩ :=
      cycles_are_slots.2.2.2 3 1 100 true idle_console m' result hrun htrap
    exact ⟨result, m', rfl, n, hcounted, hexact (by decide)⟩

end Nxvm.Nes
