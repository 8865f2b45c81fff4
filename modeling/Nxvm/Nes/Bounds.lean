/-
No access of the console leaves its array.

The units keep their own invariants; what is added here are the machine's counters:
the controller's shift, the trace, the breakpoints and the phases of interrupts and
of the two transfers that hold the processor. A computation is safe when it takes
valid machines to valid machines and stops nowhere because of an access.
-/
import Nxvm.Nes.ApuBounds
import Nxvm.Nes.PpuBounds
import Nxvm.Nes.Processor
import Nxvm.Nes.Run

set_option autoImplicit false

namespace Nxvm.Nes

open Nxvm.Lib Nxvm.Lib.Exec
open Nxvm.Machine (Status)

/-! ## The invariant -/

/-- The ranges of the machine's own counters. -/
structure MachineCounters (controller_index : U8) (trace_count : U32) (breakpoint_count : U16)
    (interrupt_phase dma_phase : U8) (dma_index : U16) (dma_active : Bool) (dmc_phase : U8)
    (dmc_active : Bool) : Prop where
  controller_index_le : controller_index.toNat ≤ 8
  trace_count_le : trace_count.toNat ≤ 16
  breakpoint_count_le : breakpoint_count.toNat ≤ 16
  interrupt_phase_le : interrupt_phase.toNat ≤ 2
  dma_phase_le : dma_phase.toNat ≤ 3
  dma_index_le : dma_index.toNat ≤ 256
  dma_index_lt : dma_active = true → dma_index.toNat < 256
  dmc_phase_le : dmc_phase.toNat ≤ 4
  dmc_phase_lt : dmc_active = true → dmc_phase.toNat < 4

/-- What the readers of a stored machine accept. -/
def CoreMachine.Counters {γ : Type} (m : CoreMachine γ) : Prop :=
  MachineCounters m.controller.index m.trace_count m.breakpoint_count m.interrupt_phase
    m.dma_phase m.dma_index m.dma_active m.dmc_dma_phase m.dmc_dma_active

/-- A machine whose cartridge is the one created as `origin` and whose counters are all in
range. -/
structure Console.Valid (origin : Cartridge Bytes) (m : Console) : Prop where
  cartridge : m.cartridge.Valid origin
  ppu : m.ppu.InRange
  apu : m.apu.InRange
  counters : m.Counters

/-- The faults of a computation that stays inside its arrays. -/
def in_bounds (e : Stop) : Prop := e ≠ .out_of_bounds

/-- From every valid machine `x` ends in a valid machine, and never because of an access. -/
def NesSafe (origin : Cartridge Bytes) {α : Type} (x : NesM α) : Prop :=
  Triple (Console.Valid origin) x (fun _ => Console.Valid origin)
    (fun e m => in_bounds e ∧ m.Valid origin)

namespace NesSafe

variable {origin : Cartridge Bytes} {α β : Type}

theorem of_pure (a : α) : NesSafe origin (pure a : NesM α) := fun _ hm => hm

theorem of_fail (status : Status) : NesSafe origin (fail status : NesM α) :=
  fun _ hm => ⟨nofun, hm⟩

theorem of_get : NesSafe origin get := fun _ hm => hm

theorem bind {x : NesM α} {f : α → NesM β} (hx : NesSafe origin x)
    (hf : ∀ a, NesSafe origin (f a)) : NesSafe origin (x >>= f) := Triple.bind hx hf

theorem ite {c : Prop} [Decidable c] {x y : NesM α} (hx : c → NesSafe origin x)
    (hy : ¬ c → NesSafe origin y) : NesSafe origin (if c then x else y) := Triple.ite hx hy

/-- The machine read is valid. -/
theorem bind_get {f : Console → NesM β} (hf : ∀ m, m.Valid origin → NesSafe origin (f m)) :
    NesSafe origin (get >>= f) := fun m hm => hf m hm m hm

theorem of_update {f : Console → Console} (hf : ∀ m, m.Valid origin → (f m).Valid origin) :
    NesSafe origin (update f) := hf

/-- A checked access that has an answer. -/
theorem bind_option {o : Option α} {f : α → NesM β} (ho : o.isSome)
    (hf : ∀ a, o = some a → NesSafe origin (f a)) :
    NesSafe origin (of_option .out_of_bounds o >>= f) := by
  obtain ⟨a, rfl⟩ := Option.isSome_iff_exists.mp ho
  exact hf a rfl

theorem of_option {o : Option α} (ho : o.isSome) :
    NesSafe origin (of_option .out_of_bounds o) := by
  obtain ⟨a, rfl⟩ := Option.isSome_iff_exists.mp ho
  exact of_pure a

theorem of_on_video {x : PpuM α} (hx : PpuSafe origin x) : NesSafe origin (on_video x) := by
  intro m hm
  have hv := hx ⟨m.ppu, m.cartridge⟩ ⟨hm.ppu, hm.cartridge⟩
  unfold on_video
  cases h : x ⟨m.ppu, m.cartridge⟩ with
  | ok a v =>
    rw [h] at hv
    exact ⟨hv.cartridge, hv.ppu, hm.apu, hm.counters⟩
  | error e v =>
    rw [h] at hv
    exact hv.elim

end NesSafe

/-! ## The bus -/

section Bus

variable {origin : Cartridge Bytes}

theorem bus_trace_safe (address : U16) (value : U8) (kind : TransferKind) :
    NesSafe origin (core_bus_trace address value kind) := by
  unfold core_bus_trace
  refine Triple.bind_get fun m hm => .ite (fun _ => ?_) fun hroom => ?_
  · exact .of_pure fun _ h => h ▸ hm
  · obtain ⟨trace, htrace⟩ :=
      Option.isSome_iff_exists.mp ((Table.isSome_write m.trace _).mpr (not_le.mp hroom))
    rw [htrace]
    refine .of_update ?_
    rintro m' rfl
    refine ⟨hm.cartridge, hm.ppu, hm.apu, { hm.counters with trace_count_le := ?_ }⟩
    show (m'.trace_count + 1).toNat ≤ 16
    bv_omega

/-- The lines of the machine are no part of the invariant. -/
theorem Console.Valid.nmi_line {m : Console} (hm : m.Valid origin) (asserted : Bool) :
    (core_machine_set_ppu_nmi_line m asserted).Valid origin :=
  ⟨hm.cartridge, hm.ppu, hm.apu, hm.counters⟩

theorem Console.Valid.apu_changed {m : Console} (hm : m.Valid origin) {apu : Apu}
    (ha : apu.InRange) : Console.Valid origin { m with apu := apu } :=
  ⟨hm.cartridge, hm.ppu, ha, hm.counters⟩

theorem bus_slot_safe : NesSafe origin core_bus_slot := by
  unfold core_bus_slot
  refine .bind (.of_update fun _ hm => ⟨hm.cartridge, hm.ppu, hm.apu, hm.counters⟩) fun _ =>
    .bind (.of_on_video ppu_tick_safe) fun _ => .bind (.of_on_video ppu_tick_safe) fun _ =>
    .bind (.of_on_video ppu_tick_safe) fun _ =>
    .bind (.of_update fun _ hm => hm.apu_changed (apu_tick_in_range hm.apu)) fun _ =>
    .bind (.of_update fun _ hm => hm.nmi_line _) fun _ => .bind ?_ fun _ => ?_
  · exact .of_update fun _ hm => ⟨hm.cartridge, hm.ppu, hm.apu, hm.counters⟩
  · exact .of_update fun _ hm => ⟨hm.cartridge, hm.ppu, hm.apu, hm.counters⟩

theorem read_done_safe (address : U16) (value : U8) :
    NesSafe origin (bus_read_done address value) :=
  .bind (.of_update fun _ hm => ⟨hm.cartridge, hm.ppu, hm.apu, hm.counters⟩) fun _ =>
    .bind (bus_trace_safe _ _ _) fun _ => .of_pure _

theorem cartridge_read_safe (address : U16) : NesSafe origin (cartridge_read address) :=
  .bind_get fun _ hm => .of_option (cpu_read_in_bounds hm.cartridge address)

theorem controller_read_index {c : Controller} (h : c.index.toNat ≤ 8) :
    (core_controller_read c).2.index.toNat ≤ 8 := by
  unfold core_controller_read
  split
  · exact h
  split
  · next hlt =>
    show (c.index + 1).toNat ≤ 8
    bv_omega
  · exact h

theorem device_read_safe (address : U16) : NesSafe origin (device_read address) := by
  unfold device_read
  refine .bind_get fun m hm => ?_
  dsimp only
  refine .ite (fun _ => ?_) fun _ => .ite (fun _ => ?_) fun _ => .ite (fun _ => ?_) fun _ =>
    .ite (fun _ => ?_) fun _ => .ite (fun _ => .of_pure _) fun _ => .ite (fun _ => .of_pure _)
    fun _ => .ite (fun _ => cartridge_read_safe _) fun _ => .ite (fun _ => .of_pure _) fun _ =>
    .ite (fun _ => cartridge_read_safe _) fun _ => .of_fail _
  · exact .of_option ((Table.isSome_read _).mpr (Bits.and_toNat_lt address 0x07ff 2048 (by decide)))
  · exact .of_on_video (ppu_cpu_read_safe _)
  · refine .bind (.of_update fun m hm => ?_) fun _ => .of_pure _
    exact hm.apu_changed (apu_cpu_read_in_range hm.apu)
  · refine .bind (.of_update fun _ hm => ⟨hm.cartridge, hm.ppu, hm.apu, ?_⟩) fun _ => .of_pure _
    exact { hm.counters with
      controller_index_le := controller_read_index hm.counters.controller_index_le }

theorem bus_read_safe (address : U16) : NesSafe origin (core_bus_read address) := by
  unfold core_bus_read
  refine .bind .of_get fun m => .ite (fun _ => ?_) fun _ => ?_
  · exact .bind (.of_on_video (ppu_cpu_read_safe _)) fun _ => .bind bus_slot_safe fun _ =>
      read_done_safe _ _
  · exact .bind bus_slot_safe fun _ => .bind (device_read_safe _) fun _ => read_done_safe _ _

theorem cartridge_write_safe (address : U16) (value : U8) :
    NesSafe origin (cartridge_write address value) := by
  unfold cartridge_write
  refine Triple.bind_get fun m hm => ?_
  obtain ⟨taken, c, hwrite, hc, -⟩ := cpu_write_valid hm.cartridge address value
  rw [hwrite, of_option_some, pure_bind]
  refine Triple.bind (M := fun _ => Console.Valid origin) (.of_update ?_) fun _ => .of_pure
    fun _ h => h
  rintro m' rfl
  exact ⟨hc, hm.ppu, hm.apu, hm.counters⟩

theorem write_strobe_index {c : Controller} (value : U8) (h : c.index.toNat ≤ 8) :
    (core_controller_write_strobe c value).index.toNat ≤ 8 := by
  unfold core_controller_write_strobe
  dsimp only
  split
  · exact (by decide : (0 : U8).toNat ≤ 8)
  · exact h

theorem apu_write_safe (address : U16) (value : U8) : NesSafe origin (apu_write address value) :=
  .bind (.of_update fun _ hm => hm.apu_changed (apu_cpu_write_in_range hm.apu _ _)) fun _ =>
    .of_update fun _ hm => ⟨hm.cartridge, hm.ppu, hm.apu, hm.counters⟩

theorem device_write_safe (address : U16) (value : U8) :
    NesSafe origin (device_write address value) := by
  unfold device_write
  refine .bind_get fun m _ => ?_
  dsimp only
  refine .ite (fun _ => ?_) fun _ => .ite (fun _ => ?_) fun _ => .ite (fun _ => ?_) fun _ =>
    .ite (fun _ => apu_write_safe _ _) fun _ => .ite (fun _ => apu_write_safe _ _) fun _ =>
    .ite (fun _ => ?_) fun _ => .ite (fun _ => ?_) fun _ => .ite (fun _ => ?_) fun _ =>
    .ite (fun _ => .of_pure _) fun _ => .of_fail _
  · refine .bind_option ((Table.isSome_write _ _).mpr ?_) fun _ _ => ?_
    · exact Bits.and_toNat_lt address 0x07ff 2048 (by decide)
    · exact .of_update fun _ hm => ⟨hm.cartridge, hm.ppu, hm.apu, hm.counters⟩
  · exact .bind (.of_on_video (ppu_cpu_write_safe _ _)) fun _ =>
      .of_update fun _ hm => hm.nmi_line _
  · refine .of_update fun _ hm => ⟨hm.cartridge, hm.ppu, hm.apu, ?_⟩
    exact { hm.counters with
      controller_index_le := write_strobe_index value hm.counters.controller_index_le }
  · exact .of_update fun _ hm => ⟨hm.cartridge, hm.ppu, hm.apu, hm.counters⟩
  · refine .bind (cartridge_write_safe _ _) fun taken => .ite (fun _ => .of_fail _) fun _ => ?_
    exact .of_update fun _ hm => ⟨hm.cartridge, hm.ppu, hm.apu, hm.counters⟩
  · exact .bind (cartridge_write_safe _ _) fun _ => .of_pure _

theorem bus_write_safe (address : U16) (value : U8) :
    NesSafe origin (core_bus_write address value) :=
  .bind bus_slot_safe fun _ => .bind
    (.of_update fun _ hm => ⟨hm.cartridge, hm.ppu, hm.apu, hm.counters⟩) fun _ =>
    .bind (bus_trace_safe _ _ _) fun _ => device_write_safe _ _

/-! ## The processor -/

/-- A change of registers keeps a machine valid. -/
theorem Console.Valid.internal {m m' : Console} (h : Internal m m') (hm : m.Valid origin) :
    m'.Valid origin := by
  have field {γ : Type} (f : Console → γ) : f (beside m') = f (beside m) :=
    congrArg f h.beside_eq
  have hc := hm.counters
  have hcartridge : m'.cartridge = m.cartridge := field (·.cartridge)
  have hppu : m'.ppu = m.ppu := field (·.ppu)
  have hapu : m'.apu = m.apu := field (·.apu)
  have hindex : m'.controller.index = m.controller.index := field (·.controller.index)
  have hbreakpoints : m'.breakpoint_count = m.breakpoint_count := field (·.breakpoint_count)
  have hdma_phase : m'.dma_phase = m.dma_phase := field (·.dma_phase)
  have hdma_index : m'.dma_index = m.dma_index := field (·.dma_index)
  have hdma_active : m'.dma_active = m.dma_active := field (·.dma_active)
  have hdmc_phase : m'.dmc_dma_phase = m.dmc_dma_phase := field (·.dmc_dma_phase)
  have hdmc_active : m'.dmc_dma_active = m.dmc_dma_active := field (·.dmc_dma_active)
  refine ⟨hcartridge ▸ hm.cartridge, hppu ▸ hm.ppu, hapu ▸ hm.apu, ?_⟩
  unfold CoreMachine.Counters
  rw [hindex, hbreakpoints, hdma_phase, hdma_index, hdma_active, hdmc_phase, hdmc_active]
  refine { hc with trace_count_le := ?_, interrupt_phase_le := ?_ }
  · rcases h.trace with ht | ht
    · rw [ht]
      exact hc.trace_count_le
    · rw [ht]
      decide
  · rcases h.phase with hp | hp
    · rw [hp]
      exact hc.interrupt_phase_le
    · exact hp

theorem valid_closed (origin : Cartridge Bytes) : Closed (Console.Valid origin) in_bounds where
  read := bus_read_safe
  write := bus_write_safe
  internal _ _ := Console.Valid.internal
  status _ := nofun

theorem Processor.safe {α : Type} {x : NesM α} (hx : Processor x) : NesSafe origin x :=
  hx.keeps (valid_closed origin)

/-! ## Transfers that hold the processor -/

theorem rethrow_safe {α : Type} (r : Except Status α) : NesSafe origin (rethrow r) :=
  (rethrow_processor r).safe

theorem status_of_safe {α : Type} {x : NesM α} (hx : NesSafe origin x) :
    NesSafe origin (status_of x) := by
  refine Triple.intro (fun m r m' hm h => ?_) (fun m e m' hm h => ?_)
  · rcases status_of_eq_ok.mp h with ⟨a, -, hxa⟩ | ⟨s, -, hxs⟩
    · exact hx.of_ok hm hxa
    · exact (hx.of_error hm hxs).2
  · exact hx.of_error hm (status_of_eq_error h).1

theorem transfer_loop_safe {active : Console → Bool} {cycle : NesM Unit}
    (hcycle : Triple (fun m => m.Valid origin ∧ active m = true) cycle
      (fun _ => Console.Valid origin) (fun e m => in_bounds e ∧ m.Valid origin)) (budget : ℕ) :
    NesSafe origin (transfer_loop active cycle budget) := by
  induction budget with
  | zero => exact .of_pure _
  | succ budget ih =>
    refine Triple.bind_get fun m hm => .ite (fun hactive => ?_) fun _ => ?_
    · refine Triple.bind (M := fun _ => Console.Valid origin) ?_ fun _ => ih
      refine hcycle.conseq ?_ (fun _ _ h => h) fun _ _ h => h
      rintro m' rfl
      exact ⟨hm, hactive⟩
    · exact .of_pure fun _ h => h ▸ hm

theorem dma_read_safe (address : U16) {phase : U8} (hphase : phase.toNat ≤ 3) :
    NesSafe origin (dma_read address phase) := by
  unfold dma_read
  refine .bind (status_of_safe (bus_read_safe address)) fun r => .bind (.of_update fun _ hm => ?_)
    fun _ => .bind (rethrow_safe r) fun _ => .of_pure _
  exact ⟨hm.cartridge, hm.ppu, hm.apu, { hm.counters with dma_phase_le := hphase }⟩

/-- The index of an active transfer is inside the page; the byte that ends the page ends the
transfer. -/
theorem dma_index_step {index : U16} (h : index.toNat < 256) :
    (index + 1).toNat ≤ 256 ∧ (index + 1 ≠ 256 → (index + 1).toNat < 256) := by
  refine ⟨by bv_omega, fun hne => ?_⟩
  have hne' : (index + 1).toNat ≠ 256 := fun he => hne (BitVec.eq_of_toNat_eq he)
  bv_omega

theorem dma_write_safe :
    Triple (fun m => m.Valid origin ∧ m.dma_active = true) dma_write
      (fun _ => Console.Valid origin) (fun e m => in_bounds e ∧ m.Valid origin) := by
  unfold dma_write
  refine Triple.bind_get fun m hm => ?_
  refine Triple.bind (M := fun _ m => m.Valid origin ∧ m.dma_active = true) ?_ fun r => ?_
  · have hbus : Respects (Frame.same fun m : Console => m.dma_active)
        (status_of (core_bus_write 0x2004 m.dma_latch)) :=
      status_of_respects ((bus_write_bus _ _).mono fun _ _ h =>
        congrArg (fun s : CoreMachine Unit => s.dma_active) h)
    have hsafe : NesSafe origin (core_bus_write 0x2004 m.dma_latch) := bus_write_safe _ _
    have hkeep := Triple.keep (status_of_safe hsafe) hbus (· = true)
    refine hkeep.conseq ?_ (fun _ _ h => h) fun _ _ h => h.1
    rintro m' rfl
    exact hm
  · -- Between the two updates the index may be one past an active transfer's.
    refine Triple.bind (M := fun _ m => Console.Valid origin
      (if m.dma_index = 256 then { m with dma_active := false } else { m with dma_phase := 2 }))
      (.of_update ?_) fun _ => .bind (M := fun _ => Console.Valid origin)
      (.of_update fun _ h => h) fun _ => rethrow_safe r
    rintro m ⟨hm, hactive⟩
    have hlt := hm.counters.dma_index_lt hactive
    obtain ⟨hle, hne⟩ := dma_index_step hlt
    dsimp only
    split
    · refine ⟨hm.cartridge, hm.ppu, hm.apu, ?_⟩
      exact { hm.counters with dma_index_le := hle, dma_index_lt := nofun }
    · next h =>
      refine ⟨hm.cartridge, hm.ppu, hm.apu, ?_⟩
      exact { hm.counters with
        dma_index_le := hle
        dma_index_lt := fun _ => hne h
        dma_phase_le := (by decide : (2 : U8).toNat ≤ 3) }

theorem dma_cycle_safe :
    Triple (fun m => m.Valid origin ∧ m.dma_active = true) dma_cycle
      (fun _ => Console.Valid origin) (fun e m => in_bounds e ∧ m.Valid origin) := by
  have plain {x : NesM Unit} (hx : NesSafe origin x) (m : Console) (hm : m.Valid origin) :
      Triple (fun m' => m' = m) x (fun _ => Console.Valid origin)
        (fun e m => in_bounds e ∧ m.Valid origin) :=
    Triple.conseq hx (fun _ h => h ▸ hm) (fun _ _ h => h) fun _ _ h => h
  unfold dma_cycle
  refine Triple.bind_get fun m hm => .ite (fun _ => ?_) fun _ => .ite (fun _ => ?_) fun _ =>
    .ite (fun _ => ?_) fun _ => ?_
  · refine plain (dma_read_safe _ ?_) m hm.1
    split <;> decide
  · exact plain (dma_read_safe _ (by decide)) m hm.1
  · exact plain (dma_read_safe _ (by decide)) m hm.1
  · exact dma_write_safe.conseq (fun _ h => h ▸ hm) (fun _ _ h => h) fun _ _ h => h

theorem service_done_safe (start_slots : U64) : NesSafe origin (service_done start_slots) :=
  .bind .of_get fun _ => .bind
    (.of_update fun _ hm => ⟨hm.cartridge, hm.ppu, hm.apu, hm.counters⟩) fun _ => .of_pure _

theorem service_dma_safe (budget : U32) :
    NesSafe origin (core_machine_service_dma_budget budget) := by
  unfold core_machine_service_dma_budget
  refine .bind .of_get fun m => .ite (fun _ => .of_pure _) fun _ => ?_
  refine .bind (.of_update fun m hm => ?_) fun _ =>
    .bind (transfer_loop_safe dma_cycle_safe _) fun _ => service_done_safe _
  unfold dma_start
  split
  · exact hm
  · refine ⟨hm.cartridge, hm.ppu, hm.apu, ?_⟩
    exact { hm.counters with
      dma_phase_le := (by decide : (0 : U8).toNat ≤ 3)
      dma_index_le := (by decide : (0 : U16).toNat ≤ 256)
      dma_index_lt := fun _ => (by decide : (0 : U16).toNat < 256) }

theorem dmc_advance_valid {m : Console} (hm : m.Valid origin) (hactive : m.dmc_dma_active = true) :
    (dmc_advance m).Valid origin := by
  have hlt := hm.counters.dmc_phase_lt hactive
  unfold dmc_advance
  dsimp only
  split
  · refine ⟨hm.cartridge, hm.ppu, complete_dmc_read_in_range hm.apu _, ?_⟩
    refine { hm.counters with dmc_phase_le := ?_, dmc_phase_lt := nofun }
    show (m.dmc_dma_phase + 1).toNat ≤ 4
    bv_omega
  · next h =>
    refine ⟨hm.cartridge, hm.ppu, hm.apu, ?_⟩
    have hne : (m.dmc_dma_phase + 1).toNat ≠ 4 := fun he => h (BitVec.eq_of_toNat_eq he)
    refine { hm.counters with dmc_phase_le := ?_, dmc_phase_lt := fun _ => ?_ }
    · show (m.dmc_dma_phase + 1).toNat ≤ 4
      bv_omega
    · show (m.dmc_dma_phase + 1).toNat < 4
      bv_omega

theorem dmc_cycle_safe :
    Triple (fun m => m.Valid origin ∧ m.dmc_dma_active = true) dmc_cycle
      (fun _ => Console.Valid origin) (fun e m => in_bounds e ∧ m.Valid origin) := by
  unfold dmc_cycle
  refine Triple.bind_get fun m hm => ?_
  refine Triple.bind (M := fun _ m => m.Valid origin ∧ m.dmc_dma_active = true) ?_ fun v => ?_
  · have hbus (address : U16) : Respects (Frame.same fun m : Console => m.dmc_dma_active)
        (core_bus_read address) :=
      (bus_read_bus _).mono fun _ _ h =>
        congrArg (fun s : CoreMachine Unit => s.dmc_dma_active) h
    refine (Triple.keep (bus_read_safe _) (hbus _) (· = true)).conseq ?_
      (fun _ _ h => h) fun _ _ h => h.1
    rintro m' rfl
    exact hm
  · refine Triple.bind (M := fun _ m => m.Valid origin ∧ m.dmc_dma_active = true)
      (.of_update ?_) fun _ => .of_update fun m hm => dmc_advance_valid hm.1 hm.2
    rintro m ⟨hm, hactive⟩
    exact ⟨⟨hm.cartridge, hm.ppu, hm.apu, hm.counters⟩, hactive⟩

theorem dmc_start_valid {m started : Console} (hm : m.Valid origin)
    (h : dmc_start m = some started) : started.Valid origin := by
  unfold dmc_start at h
  split at h
  · cases h
    exact hm
  · obtain ⟨r, hr, rfl⟩ := Option.map_eq_some_iff.mp h
    have hapu := take_dmc_request_in_range hm.apu hr
    refine ⟨hm.cartridge, hm.ppu, hapu, ?_⟩
    exact { hm.counters with
      dmc_phase_le := (by decide : (0 : U8).toNat ≤ 4)
      dmc_phase_lt := fun _ => (by decide : (0 : U8).toNat < 4) }

theorem service_dmc_safe (budget : U32) :
    NesSafe origin (core_machine_service_dmc_budget budget) := by
  unfold core_machine_service_dmc_budget
  refine .bind_get fun m hm => ?_
  cases hstart : dmc_start m with
  | none => exact .of_pure _
  | some started =>
    exact .bind (.of_update fun _ _ => dmc_start_valid hm hstart) fun _ =>
      .bind (transfer_loop_safe dmc_cycle_safe _) fun _ => service_done_safe _

/-! ## Runs -/

theorem serve_safe (budget : U32) (result : RunResult) : NesSafe origin (serve budget result) := by
  refine .bind (service_dmc_safe budget) fun dmc => ?_
  cases dmc with
  | some cycles => exact .of_pure _
  | none =>
    refine .bind (service_dma_safe budget) fun dma => ?_
    cases dma with
    | some cycles => exact .of_pure _
    | none =>
      exact .bind service_interrupt_processor.safe fun _ => .ite (fun _ => .of_pure _) fun _ =>
        .bind step_processor.safe fun _ => .bind .of_get fun _ => .of_pure _

/-- Running out of passes is no access either. -/
theorem execute_loop_safe (instruction_limit cycle_limit : U32) (honor_breakpoints : Bool)
    (passes : ℕ) (result : RunResult) :
    NesSafe origin (execute_loop instruction_limit cycle_limit honor_breakpoints passes result) := by
  induction passes generalizing result with
  | zero => exact fun _ hm => ⟨nofun, hm⟩
  | succ passes ih =>
    refine .bind .of_get fun m => .ite (fun _ => ?_) fun _ => .ite (fun _ => ?_) fun _ => ?_
    · exact .bind .of_get fun _ => .of_pure _
    · exact .bind (.of_update fun _ hm => ⟨hm.cartridge, hm.ppu, hm.apu, hm.counters⟩)
        fun _ => .of_pure _
    · refine .bind (Triple.of_perform_if (fun _ => ?_) fun _ _ hm => hm) fun _ =>
        .bind (serve_safe _ _) fun result => ih result
      exact .of_update fun _ hm => ⟨hm.cartridge, hm.ppu, hm.apu, hm.counters⟩

theorem execute_safe (passes : ℕ) (instruction_limit cycle_limit : U32)
    (honor_breakpoints : Bool) :
    NesSafe origin (core_machine_execute passes instruction_limit cycle_limit
      honor_breakpoints) :=
  .ite (fun _ => .of_fail _) fun _ => execute_loop_safe _ _ _ _ _

/-! ## Reset and creation -/

/-- A reset needs no counter of the machine to be in range but the ones it leaves alone. -/
theorem reset_state_valid {m : Console} (hm : m.Valid origin) (kind : ResetKind) :
    (reset_state kind m).Valid origin := by
  have hcounters : MachineCounters 0 0 m.breakpoint_count 0 0 0 false 0 false :=
    { hm.counters with
      controller_index_le := by decide
      trace_count_le := by decide
      interrupt_phase_le := by decide
      dma_phase_le := by decide
      dma_index_le := by decide
      dma_index_lt := nofun
      dmc_phase_le := by decide
      dmc_phase_lt := nofun }
  have hppu := ppu_reset_in_range hm.ppu kind
  cases kind with
  | power => exact ⟨hm.cartridge, hppu, apu_reset_in_range, hcounters⟩
  | warm => exact ⟨hm.cartridge, hppu, apu_reset_in_range, hcounters⟩

theorem reset_safe (kind : ResetKind) : NesSafe origin (core_machine_reset kind) := by
  have hstack : NesSafe origin reset_stack_cycle :=
    .bind .of_get fun _ => .bind (bus_read_safe _) fun _ =>
      .of_update fun _ hm => ⟨hm.cartridge, hm.ppu, hm.apu, hm.counters⟩
  refine .bind (.of_update fun m hm => reset_state_valid hm kind) fun _ => .bind ?_ fun _ => ?_
  · exact .bind .of_get fun _ => .bind (bus_read_safe _) fun _ => .bind (bus_read_safe _)
      fun _ => .bind hstack fun _ => .bind hstack fun _ => .bind hstack fun _ =>
      .bind (bus_read_safe _) fun _ => .bind (bus_read_safe _) fun _ =>
      .of_update fun _ hm => ⟨hm.cartridge, hm.ppu, hm.apu, hm.counters⟩
  · exact .of_update fun _ hm => ⟨hm.cartridge, hm.ppu, hm.apu, hm.counters⟩

/-- **Creation.** A machine that was created is valid, over the cartridge created from the
same image. -/
theorem machine_create_valid {image : Bytes} {initial_ram_byte : U8} {m : Console}
    (h : core_machine_create image initial_ram_byte = .ok m) :
    ∃ origin, core_cartridge_create image = .ok origin ∧ m.Valid origin := by
  unfold core_machine_create at h
  cases hcartridge : core_cartridge_create image with
  | error e => simp [hcartridge] at h
  | ok cartridge =>
    refine ⟨cartridge, rfl, ?_⟩
    have hzero : (Console.zero cartridge initial_ram_byte).Valid cartridge := by
      have hcounters : MachineCounters 0 0 0 0 0 0 false 0 false :=
        ⟨by decide, by decide, by decide, by decide, by decide, by decide, nofun,
          by decide, nofun⟩
      exact ⟨cartridge_create_valid hcartridge, zero_in_range, apu_reset_in_range, hcounters⟩
    rw [hcartridge] at h
    dsimp only at h
    cases hreset : core_machine_reset .power (Console.zero cartridge initial_ram_byte) with
    | ok u m' =>
      rw [hreset] at h
      cases h
      exact (reset_safe .power).of_ok hzero hreset
    | error e m' =>
      rw [hreset] at h
      cases h

/-! ## The host -/

theorem breakpoint_set_valid {m m' : Console} (hm : m.Valid origin) {address : U16}
    {enabled : Bool} (h : core_machine_breakpoint_set m address enabled = .ok m') :
    m'.Valid origin := by
  have hcount := hm.counters.breakpoint_count_le
  unfold core_machine_breakpoint_set at h
  cases hfind : breakpoint_find m address with
  | some index =>
    rw [hfind] at h
    dsimp only at h
    split at h
    · cases h
      exact hm
    · cases h
      refine ⟨hm.cartridge, hm.ppu, hm.apu, { hm.counters with breakpoint_count_le := ?_ }⟩
      -- A breakpoint that was found is below the count, so the count is not zero.
      have hbelow : index.val < m.breakpoint_count.toNat := by
        have hp := List.find?_some hfind
        simp only [Bool.and_eq_true, decide_eq_true_eq] at hp
        exact hp.1
      show (m.breakpoint_count - 1).toNat ≤ 16
      bv_omega
  | none =>
    rw [hfind] at h
    dsimp only at h
    split at h
    · cases h
      exact hm
    split at h
    · cases h
    · next hroom =>
      cases h
      refine ⟨hm.cartridge, hm.ppu, hm.apu, { hm.counters with breakpoint_count_le := ?_ }⟩
      show (m.breakpoint_count + 1).toNat ≤ 16
      bv_omega

theorem battery_restore_valid {m m' : Console} (hm : m.Valid origin) {battery : Battery}
    (h : core_machine_battery_restore m battery = .ok m') : m'.Valid origin := by
  unfold core_machine_battery_restore at h
  split at h
  · cases h
  · next hmatches =>
    cases h
    -- Only a board with a battery has bytes to restore, and only one board has a battery.
    have hbacked : m.cartridge.battery_backed = true := by
      by_contra hn
      apply hmatches
      by_cases hzero : battery.byte_count = 0
      · exact Or.inl hzero
      · refine Or.inr (Or.inl ?_)
        rw [core_cartridge_battery_ram_byte_count, if_neg hn]
        exact hzero
    have hm4 := hm.cartridge.battery hbacked
    exact ⟨hm.cartridge.work_ram_changed hm4 List.length_ofFn false, hm.ppu, hm.apu, hm.counters⟩

end Bus

end Nxvm.Nes
