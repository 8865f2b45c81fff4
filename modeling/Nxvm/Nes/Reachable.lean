/-
The consoles that can exist, and that none of them accesses anything outside its
arrays.

A console comes from an image. After that the host may call anything, in any order:
the interface of the machine, the steps the machine is made of, the accesses of the
units and the cartridge, and the reader of stored consoles with any stream.
-/
import Nxvm.Nes.Accepted

set_option autoImplicit false

namespace Nxvm.Nes

open Nxvm.Lib Nxvm.Lib.Exec
open Nxvm.Machine (Status)

/-! ## Operations -/

/-- What can be called on a console. -/
inductive Operation where
  /-- `core_machine_reset` -/
  | reset (kind : ResetKind)
  /-- `core_machine_set_interrupt_lines` -/
  | set_interrupt_lines (irq_asserted nmi_asserted : Bool)
  /-- `core_machine_set_ppu_nmi_line` -/
  | set_ppu_nmi_line (asserted : Bool)
  /-- `core_machine_run` -/
  | run (passes : ℕ) (instruction_limit cycle_limit : U32)
  /-- `core_machine_debug_step` -/
  | debug_step (passes : ℕ) (instruction_limit cycle_limit : U32)
  /-- `core_machine_poke` -/
  | poke (address : U16) (bytes : Bytes)
  /-- `core_machine_breakpoint_set` -/
  | breakpoint_set (address : U16) (enabled : Bool)
  /-- `core_machine_take_audio` -/
  | take_audio (capacity : ℕ)
  /-- `core_machine_set_buttons` -/
  | set_buttons (buttons : U8)
  /-- `core_machine_tap_buttons` -/
  | tap_buttons (buttons : U8)
  /-- `core_machine_clear_transient_buttons` -/
  | clear_transient_buttons
  /-- `core_machine_battery_restore` -/
  | battery_restore (battery : Battery)
  /-- `core_machine_battery_mark_clean` -/
  | battery_mark_clean
  /-- `core_machine_step` -/
  | step
  /-- `core_machine_service_interrupt` -/
  | service_interrupt
  /-- `core_machine_service_dma_budget` -/
  | service_dma (budget : U32)
  /-- `core_machine_service_dmc_budget` -/
  | service_dmc (budget : U32)
  /-- `core_bus_read` -/
  | bus_read (address : U16)
  /-- `core_bus_write` -/
  | bus_write (address : U16) (value : U8)
  /-- `core_bus_slot` -/
  | bus_slot
  /-- `core_ppu_tick` -/
  | ppu_tick
  /-- `core_ppu_cpu_read` -/
  | ppu_cpu_read (register_index : U8)
  /-- `core_ppu_cpu_write` -/
  | ppu_cpu_write (register_index value : U8)
  /-- `core_cartridge_cpu_read` -/
  | cartridge_cpu_read (address : U16)
  /-- `core_cartridge_cpu_write` -/
  | cartridge_cpu_write (address : U16) (value : U8)
  /-- `core_cartridge_ppu_read` -/
  | cartridge_ppu_read (address : U16)
  /-- `core_cartridge_ppu_write` -/
  | cartridge_ppu_write (address : U16) (value : U8)
  /-- `core_cartridge_ppu_a12_tick` -/
  | cartridge_ppu_a12_tick (high : Bool)

/-- A call that may be refused. -/
def accept_if (f : Console → Except Status Console) : NesM Unit := do
  let m ← get
  match f m with
  | .ok m' => update fun _ => m'
  | .error status => fail status

/-- An access of the cartridge, and what is done with its answer. -/
def cartridge_access {α : Type} (access : Cartridge Bytes → Option α) (f : α → NesM Unit) :
    NesM Unit := do
  let m ← get
  let a ← of_option .out_of_bounds (access m.cartridge)
  f a

/-- The call, without what it answers. -/
def Operation.perform : Operation → NesM Unit
  | .reset kind => core_machine_reset kind
  | .set_interrupt_lines irq nmi => update fun m => core_machine_set_interrupt_lines m irq nmi
  | .set_ppu_nmi_line asserted => update fun m => core_machine_set_ppu_nmi_line m asserted
  | .run passes instruction_limit cycle_limit => do
    let _ ← core_machine_run passes instruction_limit cycle_limit
    pure ()
  | .debug_step passes instruction_limit cycle_limit => do
    let _ ← core_machine_debug_step passes instruction_limit cycle_limit
    pure ()
  | .poke address bytes => accept_if fun m => core_machine_poke m address bytes
  | .breakpoint_set address enabled =>
    accept_if fun m => core_machine_breakpoint_set m address enabled
  | .take_audio capacity => update fun m => (core_machine_take_audio m capacity).2
  | .set_buttons buttons => update fun m => core_machine_set_buttons m buttons
  | .tap_buttons buttons => update fun m => core_machine_tap_buttons m buttons
  | .clear_transient_buttons => update core_machine_clear_transient_buttons
  | .battery_restore battery => accept_if fun m => core_machine_battery_restore m battery
  | .battery_mark_clean => update core_machine_battery_mark_clean
  | .step => do
    let _ ← core_machine_step
    pure ()
  | .service_interrupt => do
    let _ ← core_machine_service_interrupt
    pure ()
  | .service_dma budget => do
    let _ ← core_machine_service_dma_budget budget
    pure ()
  | .service_dmc budget => do
    let _ ← core_machine_service_dmc_budget budget
    pure ()
  | .bus_read address => do
    let _ ← core_bus_read address
    pure ()
  | .bus_write address value => core_bus_write address value
  | .bus_slot => core_bus_slot
  | .ppu_tick => on_video core_ppu_tick
  | .ppu_cpu_read register_index => do
    let _ ← on_video (core_ppu_cpu_read register_index)
    pure ()
  | .ppu_cpu_write register_index value => on_video (core_ppu_cpu_write register_index value)
  | .cartridge_cpu_read address =>
    cartridge_access (fun c => core_cartridge_cpu_read c address) fun _ => pure ()
  | .cartridge_cpu_write address value =>
    cartridge_access (fun c => core_cartridge_cpu_write c address value) fun r =>
      update fun m => { m with cartridge := r.2 }
  | .cartridge_ppu_read address =>
    cartridge_access (fun c => core_cartridge_ppu_read c address) fun _ => pure ()
  | .cartridge_ppu_write address value =>
    cartridge_access (fun c => core_cartridge_ppu_write c address value) fun c =>
      update fun m => { m with cartridge := c }
  | .cartridge_ppu_a12_tick high =>
    update fun m => { m with cartridge := core_cartridge_ppu_a12_tick m.cartridge high }

section Operations

variable {origin : Cartridge Bytes}

theorem accept_if_safe {f : Console → Except Status Console}
    (hf : ∀ m m', m.Valid origin → f m = .ok m' → m'.Valid origin) :
    NesSafe origin (accept_if f) := by
  refine .bind_get fun m hm => ?_
  cases h : f m with
  | ok m' => exact .of_update fun _ _ => hf m m' hm h
  | error status => exact .of_fail status

theorem poke_valid {m m' : Console} (hm : m.Valid origin) {address : U16} {bytes : Bytes}
    (h : core_machine_poke m address bytes = .ok m') : m'.Valid origin := by
  unfold core_machine_poke at h
  split at h
  · cases h
  · cases h
    exact ⟨hm.cartridge, hm.ppu, hm.apu, hm.counters⟩

theorem battery_clean_valid {m : Console} (hm : m.Valid origin) :
    (core_machine_battery_mark_clean m).Valid origin := by
  have hr := hm.cartridge.registers
  exact ⟨hm.cartridge.registers_changed (by constructor <;> rfl)
    ⟨hr.1, hr.2, hr.3, hr.4, hr.5, hr.6, hr.7, hr.8⟩, hm.ppu, hm.apu, hm.counters⟩

theorem cartridge_access_safe {α : Type} {access : Cartridge Bytes → Option α}
    {f : α → NesM Unit}
    (h : ∀ c, c.Valid origin → ∃ a, access c = some a ∧ NesSafe origin (f a)) :
    NesSafe origin (cartridge_access access f) := by
  refine .bind_get fun m hm => ?_
  obtain ⟨a, ha, hf⟩ := h m.cartridge hm.cartridge
  rw [ha]
  exact hf

/-- **No call leaves its arrays**, and every call leaves a valid console. -/
theorem Operation.safe (operation : Operation) : NesSafe origin operation.perform := by
  have answer {α : Type} {x : NesM α} (hx : NesSafe origin x) :
      NesSafe origin (do let _ ← x; pure ()) := .bind hx fun _ => .of_pure ()
  have kept (f : Console → Console) (h : ∀ m, m.Valid origin → (f m).Valid origin) :
      NesSafe origin (update f) := .of_update h
  cases operation with
  | reset kind => exact reset_safe kind
  | set_interrupt_lines irq nmi =>
    exact kept _ fun _ hm => ⟨hm.cartridge, hm.ppu, hm.apu, hm.counters⟩
  | set_ppu_nmi_line asserted => exact kept _ fun _ hm => hm.nmi_line asserted
  | run passes instruction_limit cycle_limit => exact answer (execute_safe _ _ _ _)
  | debug_step passes instruction_limit cycle_limit => exact answer (execute_safe _ _ _ _)
  | poke address bytes => exact accept_if_safe fun _ _ hm => poke_valid hm
  | breakpoint_set address enabled => exact accept_if_safe fun _ _ hm => breakpoint_set_valid hm
  | take_audio capacity =>
    exact kept _ fun _ hm => hm.apu_changed (take_samples_in_range capacity hm.apu)
  | set_buttons buttons => exact kept _ fun _ hm => ⟨hm.cartridge, hm.ppu, hm.apu, hm.counters⟩
  | tap_buttons buttons => exact kept _ fun _ hm => ⟨hm.cartridge, hm.ppu, hm.apu, hm.counters⟩
  | clear_transient_buttons =>
    exact kept _ fun _ hm => ⟨hm.cartridge, hm.ppu, hm.apu, hm.counters⟩
  | battery_restore battery => exact accept_if_safe fun _ _ hm => battery_restore_valid hm
  | battery_mark_clean => exact kept _ fun _ hm => battery_clean_valid hm
  | step => exact answer step_processor.safe
  | service_interrupt => exact answer service_interrupt_processor.safe
  | service_dma budget => exact answer (service_dma_safe budget)
  | service_dmc budget => exact answer (service_dmc_safe budget)
  | bus_read address => exact answer (bus_read_safe address)
  | bus_write address value => exact bus_write_safe address value
  | bus_slot => exact bus_slot_safe
  | ppu_tick => exact .of_on_video ppu_tick_safe
  | ppu_cpu_read register_index => exact answer (.of_on_video (ppu_cpu_read_safe _))
  | ppu_cpu_write register_index value => exact .of_on_video (ppu_cpu_write_safe _ _)
  | cartridge_cpu_read address =>
    rw [Operation.perform]
    refine cartridge_access_safe fun c hc => ?_
    obtain ⟨value, hvalue⟩ := Option.isSome_iff_exists.mp (cpu_read_in_bounds hc address)
    exact ⟨value, hvalue, .of_pure ()⟩
  | cartridge_cpu_write address value =>
    rw [Operation.perform]
    refine cartridge_access_safe fun c hc => ?_
    obtain ⟨taken, c', hwrite, hc', -⟩ := cpu_write_valid hc address value
    exact ⟨_, hwrite, kept _ fun _ hm => ⟨hc', hm.ppu, hm.apu, hm.counters⟩⟩
  | cartridge_ppu_read address =>
    rw [Operation.perform]
    refine cartridge_access_safe fun c hc => ?_
    obtain ⟨value, hvalue⟩ := Option.isSome_iff_exists.mp (ppu_read_in_bounds hc address)
    exact ⟨value, hvalue, .of_pure ()⟩
  | cartridge_ppu_write address value =>
    rw [Operation.perform]
    refine cartridge_access_safe fun c hc => ?_
    obtain ⟨c', hwrite, hc'⟩ := ppu_write_valid hc address value
    exact ⟨_, hwrite, kept _ fun _ hm => ⟨hc', hm.ppu, hm.apu, hm.counters⟩⟩
  | cartridge_ppu_a12_tick high =>
    exact kept _ fun _ hm => ⟨ppu_a12_tick_valid hm.cartridge high, hm.ppu, hm.apu, hm.counters⟩

/-- A computation keeps the invariant however it ends. -/
theorem NesSafe.final_valid {α : Type} {x : NesM α} (hx : NesSafe origin x) {m : Console}
    (hm : m.Valid origin) : (final x m).Valid origin := by
  have hv := hx m hm
  unfold final
  cases h : x m with
  | ok a m' =>
    rw [h] at hv
    exact hv
  | error e m' =>
    rw [h] at hv
    exact hv.2

end Operations

/-! ## Reachable consoles -/

/-- The consoles there can be for an image. -/
inductive Reachable (image : Bytes) : Console → Prop where
  | create {initial_ram_byte : U8} {m : Console}
      (h : core_machine_create image initial_ram_byte = .ok m) : Reachable image m
  | operation {m : Console} (operation : Operation) (hm : Reachable image m) :
      Reachable image (final operation.perform m)
  /-- A stored console was taken back, from wherever the running one lies in memory. -/
  | snapshot {σ : Type} {st st' : Store} {context context' : σ} (read : ReadCallback σ)
      (grants : Address → Bool) (hm : Reachable image st.console) (hsep : st.Separate)
      (h : core_snapshot_read read grants (st, context) = .ok () (st', context')) :
      Reachable image st'.console

/-- **A reachable console is valid**, over the cartridge its image makes. -/
theorem Reachable.valid {image : Bytes} {m : Console} (h : Reachable image m) :
    ∃ origin, core_cartridge_create image = .ok origin ∧ m.Valid origin := by
  induction h with
  | create h => exact machine_create_valid h
  | operation operation hm ih =>
    obtain ⟨origin, hcreate, hvalid⟩ := ih
    exact ⟨origin, hcreate, operation.safe.final_valid hvalid⟩
  | snapshot read grants hm hsep h ih =>
    obtain ⟨origin, hcreate, hvalid⟩ := ih
    exact ⟨origin, hcreate, (snapshot_read_safe read grants).of_ok ⟨hsep, hvalid⟩ h⟩

/-! ## Accesses -/

/-- Every access of `m` is inside its array, and no number of banks it divides by is zero. -/
structure InBounds (m : Console) : Prop where
  /-- no call ends because of an access -/
  operations : ∀ (operation : Operation) (m' : Console),
    operation.perform m ≠ .error .out_of_bounds m'
  /-- neither does taking back a stream, whatever it holds -/
  snapshots : ∀ {σ : Type} (read : ReadCallback σ) (grants : Address → Bool) (st : Store)
    (context : σ) (s' : Store × σ), st.console = m → st.Separate →
    core_snapshot_read read grants (st, context) ≠ .error .out_of_bounds s'
  cpu_read : ∀ address, (core_cartridge_cpu_read m.cartridge address).isSome
  cpu_write : ∀ address value, (core_cartridge_cpu_write m.cartridge address value).isSome
  ppu_read : ∀ address, (core_cartridge_ppu_read m.cartridge address).isSome
  ppu_write : ∀ address value, (core_cartridge_ppu_write m.cartridge address value).isSome
  ciram_address : ∀ address : U16, 0x2000 ≤ address.toNat → address.toNat < 0x3000 →
    (core_cartridge_ciram_address m.cartridge address).toNat < 2048
  prg_banks : 0 < m.cartridge.prg_bytes / 16384
  chr_banks : 0 < m.cartridge.chr_bytes / 8192
  prg_pages : BitVec.ofNat 32 (m.cartridge.prg_bytes / 8192) ≠ 0
  chr_pages : BitVec.ofNat 32 (m.cartridge.chr_bytes / 1024) ≠ 0

/-- **No access of a reachable console leaves its array.** -/
theorem reachable_in_bounds {image : Bytes} {m : Console} (h : Reachable image m) :
    InBounds m := by
  obtain ⟨origin, -, hm⟩ := h.valid
  have pages {n : ℕ} (hpos : 0 < n) (hle : n ≤ 512) : BitVec.ofNat 32 n ≠ 0 := fun h0 => by
    have := congrArg BitVec.toNat h0
    simp at this
    omega
  have hprg := hm.cartridge.board.prg_le
  have hchr := hm.cartridge.board.chr_le
  have hprg0 := hm.cartridge.board.prg_pos
  have hchr0 := hm.cartridge.board.chr_pos
  exact
    { operations := fun operation m' he => (operation.safe.of_error hm he).1 rfl
      snapshots := fun read grants st context s' hst hsep he =>
        (snapshot_read_safe read grants).of_error ⟨hsep, hst ▸ hm⟩ he rfl
      cpu_read := cpu_read_in_bounds hm.cartridge
      cpu_write := fun address value => by
        obtain ⟨taken, c, hwrite, -⟩ := cpu_write_valid hm.cartridge address value
        rw [hwrite]
        rfl
      ppu_read := ppu_read_in_bounds hm.cartridge
      ppu_write := fun address value => by
        obtain ⟨c, hwrite, -⟩ := ppu_write_valid hm.cartridge address value
        rw [hwrite]
        rfl
      ciram_address := fun _ => ciram_address_lt m.cartridge
      prg_banks := Nat.div_pos hprg0 (by decide)
      chr_banks := Nat.div_pos hchr0 (by decide)
      prg_pages := pages (by omega) (by omega)
      chr_pages := pages (by omega) (by omega) }

/-- An image of the simplest board, with nothing in its memory. -/
def blank_image : Bytes :=
  [0x4e, 0x45, 0x53, 0x1a, 1, 1, 0, 0, 0, 0, 0, 0, 0, 0, 0, 0] ++ List.replicate 24576 0

theorem reachable_in_bounds_blank :
    ∃ m, core_machine_create blank_image 0 = .ok m ∧ InBounds m := by
  have hcreated : (match core_machine_create blank_image 0 with
      | .ok _ => true
      | .error _ => false) = true := by
    decide +kernel
  cases hcreate : core_machine_create blank_image 0 with
  | error e =>
    rw [hcreate] at hcreated
    cases hcreated
  | ok m => exact ⟨m, rfl, reachable_in_bounds (.create hcreate)⟩

end Nxvm.Nes
