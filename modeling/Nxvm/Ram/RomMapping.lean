/-
The machine's own ROM mappings (`rom_mapping_interface.c`).

A ROM mapping is a copy of an image, an alias of one shows part of it elsewhere, and a reset
window is an alias of every mapping in a range. A window that cannot be completed removes the
aliases it has made so far, by their owners.
-/
import Nxvm.Ram.Register

set_option autoImplicit false

namespace Nxvm.Ram

open Nxvm.Chips (U8 U32)
open Nxvm.Machine (Status Lifecycle)

/-! ## The callbacks -/

namespace ImmutableRomMapping

variable {σ : Type} (mapping : ImmutableRomMapping)

/-- Where an access lies in the image, if it does. -/
def offset (physical : U32) (byte : ℕ) : Option ℕ :=
  if physical < mapping.physical_start then none
  else
    let offset := physical.toNat - mapping.physical_start.toNat
    if offset > mapping.bytes ∨ byte > mapping.bytes - offset then none else some offset

def rom_mapping_read : DeviceRead σ := fun state physical byte _ =>
  match mapping.offset physical byte with
  | none => (.internal_error, [], state)
  | some offset => (.ok, (List.range byte).map fun index => mapping.image (offset + index), state)

/-- A decoded ROM consumes a write. -/
def rom_mapping_write : DeviceWrite σ := fun state physical bytes =>
  match mapping.offset physical bytes.length with
  | none => (.internal_error, state)
  | some _ => (.ok, state)

def rom_mapping_query : DeviceQuery σ := fun _ physical byte _ =>
  match mapping.offset physical byte with
  | none => .internal_error
  | some _ => .ok

def route (mode : ProviderMode) : DeviceRoute σ where
  physical_start := mapping.physical_start
  bytes := mapping.bytes
  callbacks :=
    ⟨some mapping.rom_mapping_read, some mapping.rom_mapping_write, some mapping.rom_mapping_query⟩
  mode := mode
  failure := false

end ImmutableRomMapping

namespace MachineMemory

variable {σ : Type} (m : MachineMemory σ)

/-! ## Mappings and aliases -/

def immutable_rom_mapping_capacity : ℕ := 8

/-- The machine is in the phase in which this caller may map ROM. -/
def rom_mapping_is_open (firmware_call : Bool) : Bool :=
  if firmware_call then
    m.firmware_operation_active && m.firmware_context_active && m.firmware_context_configuring
  else m.configuration_is_open

/-- A mapping in the next slot, with its route. -/
def install_rom_mapping (mapping : ImmutableRomMapping) (mode : ProviderMode) :
    Status × MachineMemory σ :=
  let (status, m) := m.install_memory_device_routes [mapping.route mode] none none
    (some (.rom_mapping m.immutable_rom_mappings.length))
  if status ≠ .ok then (status, m)
  else (.ok, { m with immutable_rom_mappings := m.immutable_rom_mappings ++ [mapping] })

def register_immutable_rom_mapping_internal (physical_start : U32) (image : Option (ℕ → U8))
    (bytes : ℕ) (firmware_call : Bool) : Status × MachineMemory σ :=
  match image with
  | none => (.invalid_argument, m)
  | some image =>
    if bytes = 0 ∨ (physical_start.toNat + bytes) % 2 ^ 64 > 2 ^ 32 then (.invalid_argument, m)
    else if !m.rom_mapping_is_open firmware_call then (.invalid_state, m)
    else if m.immutable_rom_mappings.length ≥ immutable_rom_mapping_capacity then (.no_memory, m)
    else
      let (granted, m) := m.allocate
      if granted then m.install_rom_mapping ⟨physical_start, bytes, image, true⟩ .standard
      else (.no_memory, m)

def register_immutable_rom_mapping (physical_start : U32) (image : Option (ℕ → U8))
    (bytes : ℕ) : Status × MachineMemory σ :=
  m.register_immutable_rom_mapping_internal physical_start image bytes false

def register_immutable_rom_mapping_alias_internal (source_start physical_start : U32)
    (bytes : ℕ) (firmware_call raw_decode : Bool) : Status × MachineMemory σ :=
  if bytes = 0 ∨ (physical_start.toNat + bytes) % 2 ^ 64 > 2 ^ 32 then (.invalid_argument, m)
  else if !m.rom_mapping_is_open firmware_call then (.invalid_state, m)
  else if m.immutable_rom_mappings.length ≥ immutable_rom_mapping_capacity then (.no_memory, m)
  else
    let source := m.immutable_rom_mappings.find? fun candidate =>
      decide (candidate.physical_start ≤ source_start) &&
        decide ((source_start.toNat - candidate.physical_start.toNat + bytes) % 2 ^ 64 ≤
          candidate.bytes)
    match source with
    | none => (.invalid_argument, m)
    | some source =>
      let source_offset := source_start.toNat - source.physical_start.toNat
      m.install_rom_mapping
        ⟨physical_start, bytes, fun index => source.image (source_offset + index), false⟩
        (if raw_decode then .reset_overlay else .overlay)

def register_immutable_rom_mapping_alias (source_start physical_start : U32) (bytes : ℕ) :
    Status × MachineMemory σ :=
  m.register_immutable_rom_mapping_alias_internal source_start physical_start bytes false false

def register_immutable_rom_mapping_reset_alias (source_start physical_start : U32) (bytes : ℕ) :
    Status × MachineMemory σ :=
  m.register_immutable_rom_mapping_alias_internal source_start physical_start bytes false true

def register_immutable_rom_mapping_from_firmware (physical_start : U32)
    (image : Option (ℕ → U8)) (bytes : ℕ) : Status × MachineMemory σ :=
  m.register_immutable_rom_mapping_internal physical_start image bytes true

def register_immutable_rom_mapping_alias_from_firmware (source_start physical_start : U32)
    (bytes : ℕ) : Status × MachineMemory σ :=
  m.register_immutable_rom_mapping_alias_internal source_start physical_start bytes true false

/-! ## Reset windows -/

/-- The last mapping, with everything its slot owns. -/
def rollback_last : MachineMemory σ :=
  let m := (m.remove_memory_device_routes
    (.rom_mapping (m.immutable_rom_mappings.length - 1))).2
  { m with immutable_rom_mappings := m.immutable_rom_mappings.dropLast }

def rollback_mappings : ℕ → MachineMemory σ → MachineMemory σ
  | 0, m => m
  | count + 1, m => rollback_mappings count m.rollback_last

def rollback_immutable_rom_mappings (mapping_count : ℕ) : MachineMemory σ :=
  rollback_mappings (m.immutable_rom_mappings.length - mapping_count) m

/-- The part of a mapping in a window: where it starts, and its bytes. -/
def window_part (mapping : ImmutableRomMapping) (source_start : U32) (bytes : ℕ) :
    Option (U32 × ℕ) :=
  let window_end := source_start.toNat + bytes
  let mapping_end := (mapping.physical_start.toNat + mapping.bytes) % 2 ^ 64
  if mapping_end ≤ source_start.toNat ∨ mapping.physical_start.toNat ≥ window_end then none
  else
    let start := if mapping.physical_start < source_start then source_start
      else mapping.physical_start
    some (start, (2 ^ 64 + min mapping_end window_end - start.toNat) % 2 ^ 64)

/-- The aliases of the mappings there were, up to the first that fails. -/
def reset_window_aliases (source_start physical_start : U32) (bytes boundary : ℕ) :
    List ImmutableRomMapping → Status → MachineMemory σ → Status × MachineMemory σ
  | [], status, m => (status, m)
  | mapping :: mappings, status, m =>
    match window_part mapping source_start bytes with
    | none => reset_window_aliases source_start physical_start bytes boundary mappings status m
    | some part =>
      let (status, m) := m.register_immutable_rom_mapping_reset_alias part.1
        (physical_start + (part.1 - source_start)) part.2
      if status ≠ .ok then (status, m.rollback_immutable_rom_mappings boundary)
      else reset_window_aliases source_start physical_start bytes boundary mappings status m

def register_immutable_rom_mapping_reset_window (source_start physical_start : U32)
    (bytes : ℕ) : Status × MachineMemory σ :=
  if bytes = 0 ∨ bytes > 2 ^ 32 - source_start.toNat ∨ bytes > 2 ^ 32 - physical_start.toNat then
    (.invalid_argument, m)
  else if !m.configuration_is_open then (.invalid_state, m)
  else reset_window_aliases source_start physical_start bytes m.immutable_rom_mappings.length
    m.immutable_rom_mappings .invalid_argument m

/-! ## What a mapping leaves -/

variable {m}

/-- A mapping more in the next slot, which owned nothing before. -/
def Mapped (m m' : MachineMemory σ) : Prop :=
  m.owns (.rom_mapping m.immutable_rom_mappings.length) = false ∧
    ∃ mapping extended, Extended (.rom_mapping m.immutable_rom_mappings.length) m extended ∧
      m' = { extended with immutable_rom_mappings := m.immutable_rom_mappings ++ [mapping] }

theorem install_rom_mapping_spec (mapping : ImmutableRomMapping) (mode : ProviderMode) :
    let installed := m.install_rom_mapping mapping mode
    (installed.1 ≠ .ok ∧ Untouched m installed.2) ∨ (installed.1 = .ok ∧ Mapped m installed.2) := by
  dsimp only
  rw [install_rom_mapping]
  dsimp only
  by_cases hok : (m.install_memory_device_routes [mapping.route mode] none none
      (some (.rom_mapping m.immutable_rom_mappings.length))).1 = .ok
  · rw [if_neg (not_not.mpr hok)]
    obtain ⟨hfree, hextended⟩ := install_routes_only hok
    refine .inr ⟨rfl, hfree, mapping, _, hextended, ?_⟩
    obtain ⟨added, -, capacity, grants, hsame⟩ := hextended
    rw [hsame]
  · rw [if_pos hok]
    exact .inl ⟨hok, install_failed hok⟩

theorem register_alias_spec (source_start physical_start : U32) (bytes : ℕ)
    (firmware_call raw_decode : Bool) :
    let registered := m.register_immutable_rom_mapping_alias_internal source_start physical_start
      bytes firmware_call raw_decode
    (registered.1 ≠ .ok ∧ Untouched m registered.2) ∨
      (registered.1 = .ok ∧ Mapped m registered.2) := by
  dsimp only
  unfold register_immutable_rom_mapping_alias_internal
  split
  · exact .inl ⟨by simp, .refl m⟩
  split
  · exact .inl ⟨by simp, .refl m⟩
  split
  · exact .inl ⟨by simp, .refl m⟩
  dsimp only
  split
  · exact .inl ⟨by simp, .refl m⟩
  · exact install_rom_mapping_spec _ _

theorem register_mapping_spec (physical_start : U32) (image : Option (ℕ → U8)) (bytes : ℕ)
    (firmware_call : Bool) :
    let registered := m.register_immutable_rom_mapping_internal physical_start image bytes
      firmware_call
    (registered.1 ≠ .ok ∧ Untouched m registered.2) ∨
      (registered.1 = .ok ∧ ∃ m', Untouched m m' ∧ Mapped m' registered.2) := by
  dsimp only
  unfold register_immutable_rom_mapping_internal
  split
  · exact .inl ⟨by simp, .refl m⟩
  split
  · exact .inl ⟨by simp, .refl m⟩
  split
  · exact .inl ⟨by simp, .refl m⟩
  split
  · exact .inl ⟨by simp, .refl m⟩
  dsimp only [allocate]
  have hallocated : Untouched m { m with grants := fun later => m.grants (later + 1) } :=
    ⟨_, _, rfl⟩
  split
  · obtain ⟨hfailed, huntouched⟩ | ⟨hok, hmapped⟩ := install_rom_mapping_spec
      (m := { m with grants := fun later => m.grants (later + 1) })
      ⟨physical_start, bytes, ‹ℕ → U8›, true⟩ .standard
    · exact .inl ⟨hfailed, hallocated.trans huntouched⟩
    · exact .inr ⟨hok, _, hallocated, hmapped⟩
  · exact .inl ⟨by simp, hallocated⟩

/-! ## Rolling back -/

/-- Mappings one after the other, each in the slot behind the ones before. -/
inductive Grown (m : MachineMemory σ) : MachineMemory σ → Prop
  | refl : Grown m m
  | mapped {m' m''} (h : Grown m m') (hmapped : Mapped m' m'') : Grown m m''

theorem Mapped.frame {m' : MachineMemory σ} (h : Mapped m m') :
    m'.lifecycle = m.lifecycle ∧ m'.parity = m.parity ∧
      m'.immutable_rom_mappings.length = m.immutable_rom_mappings.length + 1 := by
  obtain ⟨-, mapping, extended, ⟨added, -, capacity, grants, rfl⟩, rfl⟩ := h
  exact ⟨rfl, rfl, by simp⟩

theorem Grown.frame {m' : MachineMemory σ} (h : Grown m m') :
    m'.lifecycle = m.lifecycle ∧ m'.parity = m.parity ∧
      m.immutable_rom_mappings.length ≤ m'.immutable_rom_mappings.length := by
  induction h with
  | refl => exact ⟨rfl, rfl, le_rfl⟩
  | mapped _ hmapped ih =>
    obtain ⟨hlifecycle, hparity, hlength⟩ := hmapped.frame
    exact ⟨hlifecycle.trans ih.1, hparity.trans ih.2.1, by omega⟩

variable (m) in
/-- The parity belongs to the composition. -/
def ParityOutside : Prop :=
  ∀ slot, m.parity.map Parity.parity_owner ≠ some (.rom_mapping slot)

/-- The slot of the last mapping owns what was appended with it, and nothing else. -/
theorem Mapped.rollback_last {m' m'' : MachineMemory σ} (h : Mapped m m')
    (huntouched : Untouched m' m'') (hstopped : m.lifecycle ≠ .running)
    (houtside : m.ParityOutside) : Untouched m m''.rollback_last := by
  obtain ⟨hfree, mapping, extended, ⟨added, howner, capacity, grants, rfl⟩, rfl⟩ := h
  obtain ⟨capacity', grants', rfl⟩ := huntouched
  simp only [owns, Bool.or_eq_false_iff, List.any_eq_false, decide_eq_true_eq] at hfree
  obtain ⟨hproviders, hobservers⟩ := hfree
  refine ⟨capacity', grants', ?_⟩
  rw [MachineMemory.rollback_last, remove_memory_device_routes]
  dsimp only
  rw [if_neg hstopped, List.length_append, List.length_singleton, Nat.add_sub_cancel,
    unregister_owner]
  dsimp only
  rw [if_neg (houtside _), List.dropLast_concat, List.filter_append]
  have hkept : m.device_providers.filter (fun provider =>
      provider.owner ≠ .rom_mapping m.immutable_rom_mappings.length) = m.device_providers :=
    List.filter_eq_self.mpr fun provider hmem => by simpa using hproviders provider hmem
  have hdropped : added.filter (fun provider =>
      provider.owner ≠ .rom_mapping m.immutable_rom_mappings.length) = [] :=
    List.filter_eq_nil_iff.mpr fun provider hmem => by simpa using howner provider hmem
  have hobserved : m.write_observers.filter (fun observer =>
      observer.owner ≠ .rom_mapping m.immutable_rom_mappings.length) = m.write_observers :=
    List.filter_eq_self.mpr fun observer hmem => by simpa using hobservers observer hmem
  rw [hkept, hdropped, hobserved, List.append_nil]

theorem Grown.rollback {m' m'' : MachineMemory σ} (h : Grown m m')
    (huntouched : Untouched m' m'') (hstopped : m.lifecycle ≠ .running)
    (houtside : m.ParityOutside) :
    Untouched m
      (m''.rollback_immutable_rom_mappings m.immutable_rom_mappings.length) := by
  induction h generalizing m'' with
  | refl =>
    have hlength : m''.immutable_rom_mappings.length = m.immutable_rom_mappings.length := by
      obtain ⟨capacity, grants, rfl⟩ := huntouched
      rfl
    rw [rollback_immutable_rom_mappings, hlength, Nat.sub_self]
    exact huntouched
  | @mapped before after h hmapped ih =>
    obtain ⟨hlifecycle, hparity, hle⟩ := h.frame
    have hlast : Untouched before m''.rollback_last :=
      hmapped.rollback_last huntouched (by rw [hlifecycle]; exact hstopped) fun slot => by
        rw [hparity]
        exact houtside slot
    have hlength : m''.immutable_rom_mappings.length =
        before.immutable_rom_mappings.length + 1 := by
      obtain ⟨capacity, grants, rfl⟩ := huntouched
      exact hmapped.frame.2.2
    have hlength' : m''.rollback_last.immutable_rom_mappings.length =
        before.immutable_rom_mappings.length := by
      obtain ⟨capacity, grants, hsame⟩ := hlast
      rw [hsame]
    have hih := ih hlast
    rw [rollback_immutable_rom_mappings, hlength'] at hih
    rw [rollback_immutable_rom_mappings, hlength, Nat.succ_sub hle]
    exact hih

/-- A window that fails has taken back the aliases it had made. -/
theorem reset_window_aliases_spec {m' : MachineMemory σ} (h : Grown m m')
    (hstopped : m.lifecycle ≠ .running) (houtside : m.ParityOutside)
    (source_start physical_start : U32) (bytes : ℕ) (mappings : List ImmutableRomMapping)
    (status : Status) (hstarted : status ≠ .ok → m' = m) :
    let window := reset_window_aliases source_start physical_start bytes
      m.immutable_rom_mappings.length mappings status m'
    (window.1 ≠ .ok ∧ Untouched m window.2) ∨ (window.1 = .ok ∧ Grown m window.2) := by
  dsimp only
  induction mappings generalizing m' status with
  | nil =>
    by_cases hok : status = .ok
    · exact .inr ⟨hok, h⟩
    · refine .inl ⟨hok, ?_⟩
      rw [reset_window_aliases, hstarted hok]
      exact .refl m
  | cons mapping mappings ih =>
    rw [reset_window_aliases]
    cases window_part mapping source_start bytes with
    | none => exact ih h status hstarted
    | some part =>
      dsimp only
      rw [register_immutable_rom_mapping_reset_alias]
      obtain ⟨hfailed, huntouched⟩ | ⟨hok, hmapped⟩ := register_alias_spec (m := m') part.1
        (physical_start + (part.1 - source_start)) part.2 false true
      · rw [if_pos hfailed]
        exact .inl ⟨hfailed, h.rollback huntouched hstopped houtside⟩
      · rw [if_neg (not_not.mpr hok)]
        exact ih (h.mapped hmapped) _ fun hnot => absurd hok hnot

theorem reset_window_spec (houtside : m.ParityOutside) (source_start physical_start : U32)
    (bytes : ℕ) :
    let window := m.register_immutable_rom_mapping_reset_window source_start physical_start bytes
    (window.1 ≠ .ok ∧ Untouched m window.2) ∨ (window.1 = .ok ∧ Grown m window.2) := by
  dsimp only
  rw [register_immutable_rom_mapping_reset_window]
  split
  · exact .inl ⟨by simp, .refl m⟩
  split
  · exact .inl ⟨by simp, .refl m⟩
  · rename_i hopen
    have hstopped : m.lifecycle ≠ .running := by
      intro hrunning
      simp [configuration_is_open, hrunning] at hopen
    exact reset_window_aliases_spec .refl hstopped houtside _ _ _ _ _ fun _ => rfl

/-! ## Calls -/

/-- What the composition asks of a machine that it configures. -/
inductive Call (σ : Type) where
  | install_memory_device_routes (routes : List (DeviceRoute σ))
      (observer : Option (WriteObserver σ)) (parity : Option (ParityConfig σ))
      (object : Option ℕ)
  | register_immutable_rom_mapping (physical_start : U32) (image : Option (ℕ → U8)) (bytes : ℕ)
  | register_immutable_rom_mapping_alias (source_start physical_start : U32) (bytes : ℕ)
  | register_immutable_rom_mapping_reset_alias (source_start physical_start : U32) (bytes : ℕ)
  | register_immutable_rom_mapping_reset_window (source_start physical_start : U32) (bytes : ℕ)

variable (m) in
def perform : Call σ → Status × MachineMemory σ
  | .install_memory_device_routes routes observer parity object =>
    m.install_memory_device_routes routes observer parity (object.map .composition)
  | .register_immutable_rom_mapping physical_start image bytes =>
    m.register_immutable_rom_mapping physical_start image bytes
  | .register_immutable_rom_mapping_alias source_start physical_start bytes =>
    m.register_immutable_rom_mapping_alias source_start physical_start bytes
  | .register_immutable_rom_mapping_reset_alias source_start physical_start bytes =>
    m.register_immutable_rom_mapping_reset_alias source_start physical_start bytes
  | .register_immutable_rom_mapping_reset_window source_start physical_start bytes =>
    m.register_immutable_rom_mapping_reset_window source_start physical_start bytes

/-- What a machine has registered after any calls, those that failed among them. -/
inductive Reachable : MachineMemory σ → Prop
  | created {machine : MachineMemory σ} (hparity : machine.parity = none) : Reachable machine
  | configured {machine : MachineMemory σ} (h : Reachable machine) (call : Call σ) :
      Reachable (machine.perform call).2
  | mapped_by_firmware {machine : MachineMemory σ} (h : Reachable machine) (physical_start : U32)
      (image : Option (ℕ → U8)) (bytes : ℕ) :
      Reachable
        (machine.register_immutable_rom_mapping_from_firmware physical_start image bytes).2
  | aliased_by_firmware {machine : MachineMemory σ} (h : Reachable machine)
      (source_start physical_start : U32) (bytes : ℕ) :
      Reachable (machine.register_immutable_rom_mapping_alias_from_firmware source_start
        physical_start bytes).2
  | removed {machine : MachineMemory σ} (h : Reachable machine) (object : ℕ) :
      Reachable (machine.remove_memory_device_routes (.composition object)).2
  | rolled_back {machine : MachineMemory σ} (h : Reachable machine) (mapping_count : ℕ) :
      Reachable (machine.rollback_immutable_rom_mappings mapping_count)
  -- whatever else the machine does leaves the parity to its owner
  | other {machine machine' : MachineMemory σ} (h : Reachable machine)
      (howner : machine'.parity.map Parity.parity_owner =
        machine.parity.map Parity.parity_owner) : Reachable machine'

theorem ParityOutside.of_parity {m' : MachineMemory σ} (h : m.ParityOutside)
    (hparity : m'.parity = m.parity) : m'.ParityOutside := by
  intro slot
  rw [hparity]
  exact h slot

theorem ParityOutside.of_none (hnone : m.parity = none) : m.ParityOutside := by
  intro slot
  rw [hnone]
  exact nofun

theorem Untouched.parity {m' : MachineMemory σ} (h : Untouched m m') : m'.parity = m.parity := by
  obtain ⟨capacity, grants, rfl⟩ := h
  rfl

/-- A removal releases the parity or leaves it. -/
theorem ParityOutside.removed (h : m.ParityOutside) (owner : Owner) :
    (m.remove_memory_device_routes owner).2.ParityOutside := by
  rw [remove_memory_device_routes]
  split
  · exact h
  · dsimp only
    split
    · exact .of_none rfl
    · exact h

theorem ParityOutside.rolled_back {count : ℕ} (h : m.ParityOutside) :
    (rollback_mappings count m).ParityOutside := by
  induction count generalizing m with
  | zero => exact h
  | succ count ih => exact ih (h.removed _)

theorem ParityOutside.performed (h : m.ParityOutside) (call : Call σ) :
    (m.perform call).2.ParityOutside := by
  cases call with
  | install_memory_device_routes routes observer parity object =>
    cases object with
    | none =>
      have hfailed : (m.install_memory_device_routes routes observer parity none).1 ≠ .ok := by
        unfold install_memory_device_routes
        split
        · exact nofun
        · exact nofun
      exact h.of_parity (install_failed hfailed).parity
    | some object =>
      obtain hsame | howner :=
        m.install_parity_owner routes observer parity (.composition object)
      · exact h.of_parity hsame
      · intro slot
        change Option.map _ (m.install_memory_device_routes routes observer parity
          (some (.composition object))).2.parity ≠ _
        rw [howner]
        simp
  | register_immutable_rom_mapping physical_start image bytes =>
    obtain ⟨-, huntouched⟩ | ⟨-, m', huntouched, hmapped⟩ :=
      register_mapping_spec (m := m) physical_start image bytes false
    · exact h.of_parity huntouched.parity
    · exact h.of_parity (hmapped.frame.2.1.trans huntouched.parity)
  | register_immutable_rom_mapping_alias source_start physical_start bytes =>
    obtain ⟨-, huntouched⟩ | ⟨-, hmapped⟩ :=
      register_alias_spec (m := m) source_start physical_start bytes false false
    · exact h.of_parity huntouched.parity
    · exact h.of_parity hmapped.frame.2.1
  | register_immutable_rom_mapping_reset_alias source_start physical_start bytes =>
    obtain ⟨-, huntouched⟩ | ⟨-, hmapped⟩ :=
      register_alias_spec (m := m) source_start physical_start bytes false true
    · exact h.of_parity huntouched.parity
    · exact h.of_parity hmapped.frame.2.1
  | register_immutable_rom_mapping_reset_window source_start physical_start bytes =>
    obtain ⟨-, huntouched⟩ | ⟨-, hgrown⟩ :=
      reset_window_spec h source_start physical_start bytes
    · exact h.of_parity huntouched.parity
    · exact h.of_parity hgrown.frame.2.1

theorem Reachable.parity_outside (h : Reachable m) : m.ParityOutside := by
  induction h with
  | created hparity => exact .of_none hparity
  | configured _ call ih => exact ih.performed call
  | mapped_by_firmware _ physical_start image bytes ih =>
    obtain ⟨-, huntouched⟩ | ⟨-, m', huntouched, hmapped⟩ :=
      register_mapping_spec physical_start image bytes true
    · exact ih.of_parity huntouched.parity
    · exact ih.of_parity (hmapped.frame.2.1.trans huntouched.parity)
  | aliased_by_firmware _ source_start physical_start bytes ih =>
    obtain ⟨-, huntouched⟩ | ⟨-, hmapped⟩ :=
      register_alias_spec source_start physical_start bytes true false
    · exact ih.of_parity huntouched.parity
    · exact ih.of_parity hmapped.frame.2.1
  | removed _ object ih => exact ih.removed _
  | rolled_back _ mapping_count ih => exact ih.rolled_back
  | other _ howner ih =>
    intro slot
    rw [howner]
    exact ih slot

theorem perform_failed (h : m.ParityOutside) (call : Call σ)
    (hfailed : (m.perform call).1 ≠ .ok) : Untouched m (m.perform call).2 := by
  cases call with
  | install_memory_device_routes routes observer parity object => exact install_failed hfailed
  | register_immutable_rom_mapping physical_start image bytes =>
    obtain ⟨-, huntouched⟩ | ⟨hok, -⟩ :=
      register_mapping_spec (m := m) physical_start image bytes false
    · exact huntouched
    · exact absurd hok hfailed
  | register_immutable_rom_mapping_alias source_start physical_start bytes =>
    obtain ⟨-, huntouched⟩ | ⟨hok, -⟩ :=
      register_alias_spec (m := m) source_start physical_start bytes false false
    · exact huntouched
    · exact absurd hok hfailed
  | register_immutable_rom_mapping_reset_alias source_start physical_start bytes =>
    obtain ⟨-, huntouched⟩ | ⟨hok, -⟩ :=
      register_alias_spec (m := m) source_start physical_start bytes false true
    · exact huntouched
    · exact absurd hok hfailed
  | register_immutable_rom_mapping_reset_window source_start physical_start bytes =>
    obtain ⟨-, huntouched⟩ | ⟨hok, -⟩ := reset_window_spec h source_start physical_start bytes
    · exact huntouched
    · exact absurd hok hfailed

/-- A call that fails has registered nothing and taken nothing back, and every access goes where
it went before. -/
theorem failed_call_undone (h : Reachable m) (call : Call σ)
    (hfailed : (m.perform call).1 ≠ .ok) :
    (m.perform call).2.device_providers = m.device_providers ∧
      (m.perform call).2.write_observers = m.write_observers ∧
      (m.perform call).2.parity = m.parity ∧
      (m.perform call).2.immutable_rom_mappings = m.immutable_rom_mappings ∧
      (m.perform call).2.ram = m.ram := by
  obtain ⟨capacity, grants, hsame⟩ := perform_failed h.parity_outside call hfailed
  rw [hsame]
  exact ⟨rfl, rfl, rfl, rfl, rfl⟩

/-- A machine with room for three providers, whose allocator has two blocks left. -/
def small_machine : MachineMemory Unit where
  lifecycle := .initialized
  execution_provider_frozen := false
  firmware_operation_active := false
  firmware_context_active := false
  firmware_context_configuring := false
  firmware_context_bound := false
  address_clear_mask := 0
  address_decode_first := 0
  address_decode_last := 0xffffffff
  backing := some fun _ => 0
  installed_bytes := 0x100000
  mappings := []
  mappings_frozen := false
  parity := none
  write_observers := []
  device_providers := []
  device_provider_capacity := 3
  immutable_rom_mappings := []
  grants later := decide (later < 2)

/-- It maps two images. -/
def mapped_machine : MachineMemory Unit :=
  ((small_machine.perform
    (.register_immutable_rom_mapping 0xf0000 (some fun _ => 0xea) 16)).2.perform
      (.register_immutable_rom_mapping 0xf0010 (some fun _ => 0x90) 16)).2

/-- There is no room for the alias of the second in a window over both. -/
theorem failed_call_undone_window :
    let call := .register_immutable_rom_mapping_reset_window 0xf0000 0xfff0000 32
    (mapped_machine.perform call).2.device_providers = mapped_machine.device_providers ∧
      (mapped_machine.perform call).2.write_observers = mapped_machine.write_observers ∧
      (mapped_machine.perform call).2.parity = mapped_machine.parity ∧
      (mapped_machine.perform call).2.immutable_rom_mappings =
        mapped_machine.immutable_rom_mappings ∧
      (mapped_machine.perform call).2.ram = mapped_machine.ram :=
  failed_call_undone (.configured (.configured (.created rfl) _) _) _ (by decide)

end MachineMemory

end Nxvm.Ram
