/-
Registering owners of physical memory (`memory.c`, `memory_interface.c`).

An owner publishes its routes, a write observer and the parity of the RAM in one call. What a
call that fails has done so far is taken back from the counts it began with.
-/
import Nxvm.Machine.CoreMachine
import Nxvm.Ram.Read

set_option autoImplicit false

namespace Nxvm.Ram

open Nxvm.Chips (U8 U32)
open Nxvm.Machine (Status Lifecycle)

/-! ## Owners and what they publish -/

/-- Who something is registered for: the slot of one of the machine's own ROM mappings, or an
object of the composition. -/
inductive Owner where
  | rom_mapping (slot : ℕ)
  | composition (object : ℕ)
  deriving DecidableEq, Repr

abbrev DeviceWrite (σ : Type) := σ → U32 → List U8 → Status × σ

abbrev DeviceQuery (σ : Type) := σ → U32 → ℕ → MemoryAccess → Status

abbrev WriteObserver (σ : Type) := σ → U32 → ℕ → σ

abbrev ParityFaultObserver (σ : Type) := σ → U32 → σ

/-- `x86_core_machine_memory_device_callbacks`. -/
structure DeviceCallbacks (σ : Type) where
  read : Option (DeviceRead σ)
  write : Option (DeviceWrite σ)
  query : Option (DeviceQuery σ)

/-- `x86_core_machine_memory_provider_mode`, and what else a caller may put there. -/
inductive ProviderMode where
  | standard
  | overlay
  | reset_overlay
  | replacement
  | fallback
  | cpu_overlay
  | partial_replacement
  | other (value : ℕ)
  deriving DecidableEq, Repr

/-- `x86_core_machine_memory_device_route`. -/
structure DeviceRoute (σ : Type) where
  physical_start : U32
  bytes : ℕ
  callbacks : DeviceCallbacks σ
  mode : ProviderMode
  failure : Bool

/-- `x86_core_machine_memory_parity_config`. -/
structure ParityConfig (σ : Type) where
  bytes : ℕ
  fault : Option (ParityFaultObserver σ)

/-! ## The machine -/

/-- `x86_core_machine_memory_device_provider`. -/
structure RegisteredProvider (σ : Type) where
  device : DeviceProvider σ
  write : DeviceWrite σ
  owner : Owner
  overlay : Bool

/-- `x86_core_machine_memory_write_observer_slot`. -/
structure WriteObserverSlot (σ : Type) where
  callback : WriteObserver σ
  owner : Owner

/-- The parity of the RAM, when it has one. -/
structure Parity (σ : Type) where
  parity : ℕ → U8
  parity_bytes : ℕ
  parity_fault : ParityFaultObserver σ
  parity_owner : Owner

/-- `x86_core_machine_immutable_rom_mapping`. -/
structure ImmutableRomMapping where
  physical_start : U32
  bytes : ℕ
  image : ℕ → U8
  owns_image : Bool

/-- `x86_core_machine` with its `t_ram`, as far as registering uses them. The allocator will
answer as `grants` says. -/
structure MachineMemory (σ : Type) where
  lifecycle : Lifecycle
  execution_provider_frozen : Bool
  firmware_operation_active : Bool
  firmware_context_active : Bool
  firmware_context_configuring : Bool
  firmware_context_bound : Bool
  address_clear_mask : U32
  address_decode_first : U32
  address_decode_last : U32
  backing : Option (ℕ → U8)
  installed_bytes : ℕ
  mappings : List MemoryMapping
  mappings_frozen : Bool
  parity : Option (Parity σ)
  write_observers : List (WriteObserverSlot σ)
  device_providers : List (RegisteredProvider σ)
  device_provider_capacity : ℕ
  immutable_rom_mappings : List ImmutableRomMapping
  grants : ℕ → Bool

namespace MachineMemory

variable {σ : Type} (m : MachineMemory σ)

/-- The memory as its accesses see it. -/
def ram : RamConfig σ where
  address_clear_mask := m.address_clear_mask
  address_decode_first := m.address_decode_first
  address_decode_last := m.address_decode_last
  backing := m.backing
  parity := m.parity.map Parity.parity
  parity_bytes := (m.parity.map Parity.parity_bytes).getD 0
  installed_bytes := m.installed_bytes
  mappings := m.mappings
  device_provider_count := m.device_providers.length
  device_providers index := (m.device_providers.get index).device

def configuration_is_open : Bool :=
  decide (m.lifecycle = .initialized) && !m.execution_provider_frozen &&
    !m.firmware_operation_active

/-- A firmware provider is configuring this machine. -/
def firmware_is_configuring : Bool :=
  decide (m.lifecycle = .initialized) && !m.execution_provider_frozen &&
    m.firmware_operation_active && m.firmware_context_active && m.firmware_context_configuring &&
    m.firmware_context_bound

/-- `lib_allocate_zero`: whether there is memory. -/
def allocate : Bool × MachineMemory σ :=
  (m.grants 0, { m with grants := fun later => m.grants (later + 1) })

/-! ## Parity -/

def enable_parity (bytes : ℕ) (fault : Option (ParityFaultObserver σ)) (owner : Owner) :
    Status × MachineMemory σ :=
  match fault with
  | none => (.invalid_argument, m)
  | some fault =>
    if bytes = 0 ∨ bytes > m.installed_bytes ∨ m.mappings_frozen ∨ m.parity.isSome then
      (.invalid_argument, m)
    else
      let (granted, m) := m.allocate
      if granted then (.ok, { m with parity := some ⟨fun _ => 0, bytes, fault, owner⟩ })
      else (.no_memory, m)

def release_parity : MachineMemory σ := { m with parity := none }

/-! ## Write observers -/

def write_observer_capacity : ℕ := 4

def register_write_observer (callback : WriteObserver σ) (owner : Owner) :
    Status × MachineMemory σ :=
  if m.mappings_frozen then (.invalid_argument, m)
  else if m.write_observers.length ≥ write_observer_capacity then (.no_memory, m)
  else (.ok, { m with write_observers := m.write_observers ++ [⟨callback, owner⟩] })

/-! ## Providers -/

def device_provider_initial_capacity : ℕ := 12

def device_provider_limit : ℕ := 64

def validate_device_provider (physical_start : U32) (bytes : ℕ) (callbacks : DeviceCallbacks σ)
    (overlay : Bool) : Status :=
  let end_ := (physical_start.toNat + bytes) % 2 ^ 64
  if bytes = 0 ∨ callbacks.read.isNone ∨ callbacks.write.isNone ∨ callbacks.query.isNone ∨
      m.mappings_frozen then .invalid_argument
  else if end_ > 2 ^ 32 ∨ m.device_providers.length ≥ device_provider_limit then .no_memory
  else if !overlay ∧ m.device_providers.any fun existing =>
      let existing_end := (existing.device.physical_start.toNat + existing.device.bytes) % 2 ^ 64
      !existing.overlay && decide (physical_start.toNat < existing_end) &&
        decide (existing.device.physical_start.toNat < end_) then .invalid_argument
  else .ok

/-- Room for one more provider. -/
def reserve_device_provider : Status × MachineMemory σ :=
  if m.device_providers.length < m.device_provider_capacity then (.ok, m)
  else if m.device_provider_capacity ≥ device_provider_limit then (.no_memory, m)
  else
    let capacity := if m.device_provider_capacity = 0 then device_provider_initial_capacity
      else m.device_provider_capacity * 2
    let (granted, m) := m.allocate
    if granted then (.ok, { m with device_provider_capacity := min capacity device_provider_limit })
    else (.no_memory, m)

/-- How the kinds of providers differ. -/
structure ProviderFlags where
  overlay : Bool
  raw_decode : Bool
  replacement : Bool
  fallback : Bool

def append_device_provider (flags : ProviderFlags) (physical_start : U32) (bytes : ℕ)
    (callbacks : DeviceCallbacks σ) (owner : Owner) (failure : Bool) : MachineMemory σ :=
  match callbacks.read, callbacks.write, callbacks.query with
  | some read, some write, some query =>
    { m with device_providers := m.device_providers ++ [{
        device := {
          physical_start := physical_start
          bytes := bytes
          read := read
          read_instruction := none
          cache_probe := none
          query := query
          failure := failure
          raw_decode := flags.raw_decode
          cpu_only := false
          replacement := flags.replacement
          partial_claim := false
          fallback := flags.fallback
          probe_reads := no_probe_reads }
        write := write
        owner := owner
        overlay := flags.overlay }] }
  | _, _, _ => m

/-- A provider of some kind: checked, given room, appended. -/
def register_provider (flags : ProviderFlags) (physical_start : U32) (bytes : ℕ)
    (callbacks : DeviceCallbacks σ) (owner : Owner) (failure : Bool) :
    Status × MachineMemory σ :=
  match m.validate_device_provider physical_start bytes callbacks flags.overlay with
  | .ok =>
    let (status, m) := m.reserve_device_provider
    if status ≠ .ok then (status, m)
    else (.ok, m.append_device_provider flags physical_start bytes callbacks owner failure)
  | status => (status, m)

def register_device_provider :=
  m.register_provider ⟨false, false, false, false⟩

def register_overlay_device_provider :=
  m.register_provider ⟨true, false, false, false⟩

def register_raw_overlay_device_provider :=
  m.register_provider ⟨true, true, false, false⟩

def register_replacement_device_provider :=
  m.register_provider ⟨true, false, true, false⟩

def register_fallback_device_provider :=
  m.register_provider ⟨true, false, false, true⟩

/-- A change of the provider appended last. -/
def change_last_provider (change : DeviceProvider σ → DeviceProvider σ) : MachineMemory σ :=
  let changed := m.device_providers.modify (m.device_providers.length - 1) fun provider =>
    { provider with device := change provider.device }
  { m with device_providers := changed }

/-! ## Routes -/

/-- One route, by its mode. -/
def install_route (route : DeviceRoute σ) (owner : Owner) : Status × MachineMemory σ :=
  match route.mode with
  | .standard =>
    m.register_device_provider route.physical_start route.bytes route.callbacks owner
      route.failure
  | .overlay =>
    m.register_overlay_device_provider route.physical_start route.bytes route.callbacks owner
      route.failure
  | .reset_overlay | .cpu_overlay =>
    let (status, m) := m.register_raw_overlay_device_provider route.physical_start route.bytes
      route.callbacks owner route.failure
    if status = .ok then
      (status, m.change_last_provider fun device =>
        { device with cpu_only := decide (route.mode = .cpu_overlay) })
    else (status, m)
  | .replacement | .partial_replacement =>
    let (status, m) := m.register_replacement_device_provider route.physical_start route.bytes
      route.callbacks owner route.failure
    if status = .ok ∧ route.mode = .partial_replacement then
      (status, m.change_last_provider fun device => { device with partial_claim := true })
    else (status, m)
  | .fallback =>
    m.register_fallback_device_provider route.physical_start route.bytes route.callbacks owner
      route.failure
  | .other _ => (.invalid_argument, m)

/-- The routes in their order, up to the first that fails. -/
def install_routes (owner : Owner) : List (DeviceRoute σ) → MachineMemory σ →
    Status × MachineMemory σ
  | [], m => (.ok, m)
  | route :: routes, m =>
    let (status, m) := m.install_route route owner
    if status ≠ .ok then (status, m) else install_routes owner routes m

/-- The owner has a provider or a write observer already. -/
def owns (owner : Owner) : Bool :=
  (m.device_providers.any fun provider => decide (provider.owner = owner)) ||
    m.write_observers.any fun observer => decide (observer.owner = owner)

/-- The parity, when the caller asks for it. -/
def install_parity (parity : Option (ParityConfig σ)) (owner : Owner) :
    Status × MachineMemory σ :=
  match parity with
  | none => (.ok, m)
  | some parity => m.enable_parity parity.bytes parity.fault owner

/-- The observer, when the caller has one. -/
def install_observer (observer : Option (WriteObserver σ)) (owner : Owner) :
    Status × MachineMemory σ :=
  match observer with
  | none => (.ok, m)
  | some observer => m.register_write_observer observer owner

/-- The counts from before, and the parity released if it was enabled. -/
def undo_routes (provider_count observer_count : ℕ) (parity : Option (ParityConfig σ)) :
    MachineMemory σ :=
  let m := { m with
    device_providers := m.device_providers.take provider_count
    write_observers := m.write_observers.take observer_count }
  if parity.isSome then m.release_parity else m

def install_memory_device_routes (routes : List (DeviceRoute σ))
    (observer : Option (WriteObserver σ)) (parity : Option (ParityConfig σ))
    (owner : Option Owner) : Status × MachineMemory σ :=
  if !m.configuration_is_open && !m.firmware_is_configuring then (.invalid_state, m)
  else
    match owner with
    | none => (.invalid_argument, m)
    | some owner =>
      if routes.isEmpty ∧ observer.isNone ∧ parity.isNone then (.invalid_argument, m)
      else if m.owns owner then (.invalid_state, m)
      else
        let provider_count := m.device_providers.length
        let observer_count := m.write_observers.length
        let (status, m) := m.install_parity parity owner
        if status ≠ .ok then (status, m)
        else
          let (status, m) := install_routes owner routes m
          let (status, m) := if status = .ok then m.install_observer observer owner
            else (status, m)
          if status ≠ .ok then (status, m.undo_routes provider_count observer_count parity)
          else (status, m)

/-! ## Removal -/

def unregister_owner (owner : Owner) : MachineMemory σ :=
  { m with
    device_providers := m.device_providers.filter fun provider => provider.owner ≠ owner
    write_observers := m.write_observers.filter fun observer => observer.owner ≠ owner }

def remove_memory_device_routes (owner : Owner) : Status × MachineMemory σ :=
  if m.lifecycle = .running then (.invalid_state, m)
  else
    let m := m.unregister_owner owner
    if m.parity.map Parity.parity_owner = some owner then (.ok, m.release_parity) else (.ok, m)

/-! ## What a registration leaves -/

variable {m}

/-- Only the room for providers and what the allocator will answer differ. -/
def Untouched (m m' : MachineMemory σ) : Prop :=
  ∃ capacity grants, m' = { m with device_provider_capacity := capacity, grants := grants }

/-- One more provider of the owner is the last. -/
def Appended (owner : Owner) (m m' : MachineMemory σ) : Prop :=
  ∃ provider : RegisteredProvider σ, provider.owner = owner ∧
    Untouched { m with device_providers := m.device_providers ++ [provider] } m'

/-- The providers behind the earlier ones are the owner's. -/
def Extended (owner : Owner) (m m' : MachineMemory σ) : Prop :=
  ∃ added : List (RegisteredProvider σ), (∀ provider ∈ added, provider.owner = owner) ∧
    Untouched { m with device_providers := m.device_providers ++ added } m'

theorem Untouched.refl (m : MachineMemory σ) : Untouched m m := ⟨_, _, rfl⟩

theorem Untouched.trans {m₁ m₂ m₃ : MachineMemory σ} (h : Untouched m₁ m₂)
    (h' : Untouched m₂ m₃) : Untouched m₁ m₃ := by
  obtain ⟨capacity, grants, rfl⟩ := h
  obtain ⟨capacity', grants', rfl⟩ := h'
  exact ⟨_, _, rfl⟩

theorem Untouched.extended {owner : Owner} {m' : MachineMemory σ} (h : Untouched m m') :
    Extended owner m m' := by
  refine ⟨[], by simp, ?_⟩
  rw [List.append_nil]
  exact h

theorem Appended.extended {owner : Owner} {m' : MachineMemory σ} (h : Appended owner m m') :
    Extended owner m m' := by
  obtain ⟨provider, howner, h⟩ := h
  exact ⟨[provider], by simpa using howner, h⟩

theorem Extended.trans {owner : Owner} {m₁ m₂ m₃ : MachineMemory σ} (h : Extended owner m₁ m₂)
    (h' : Extended owner m₂ m₃) : Extended owner m₁ m₃ := by
  obtain ⟨added, howner, capacity, grants, rfl⟩ := h
  obtain ⟨added', howner', capacity', grants', rfl⟩ := h'
  refine ⟨added ++ added', fun provider hmem => ?_, capacity', grants', ?_⟩
  · rcases List.mem_append.mp hmem with hmem | hmem
    · exact howner provider hmem
    · exact howner' provider hmem
  · rw [← List.append_assoc]

theorem reserve_untouched : Untouched m m.reserve_device_provider.2 := by
  rw [reserve_device_provider]
  split
  · exact .refl m
  · split
    · exact .refl m
    · dsimp only [allocate]
      cases m.grants 0 with
      | true => exact ⟨_, _, rfl⟩
      | false => exact ⟨_, _, rfl⟩

/-- What passes the check has its callbacks. -/
theorem append_appended {flags : ProviderFlags} {physical_start : U32} {bytes : ℕ}
    {callbacks : DeviceCallbacks σ} {owner : Owner} {failure : Bool} {m' : MachineMemory σ}
    (hvalid : m.validate_device_provider physical_start bytes callbacks flags.overlay = .ok)
    (h : Untouched m m') :
    Appended owner m
      (m'.append_device_provider flags physical_start bytes callbacks owner failure) := by
  obtain ⟨capacity, grants, rfl⟩ := h
  rw [validate_device_provider] at hvalid
  dsimp only at hvalid
  split_ifs at hvalid with hargument
  simp only [not_or, Option.isNone_iff_eq_none, ← ne_eq, Option.ne_none_iff_exists'] at hargument
  obtain ⟨-, ⟨read, hread⟩, ⟨write, hwrite⟩, ⟨query, hquery⟩, -⟩ := hargument
  simp only [append_device_provider, hread, hwrite, hquery]
  exact ⟨_, rfl, _, _, rfl⟩

theorem register_provider_spec (flags : ProviderFlags) (physical_start : U32) (bytes : ℕ)
    (callbacks : DeviceCallbacks σ) (owner : Owner) (failure : Bool) :
    let registered := m.register_provider flags physical_start bytes callbacks owner failure
    (registered.1 = .ok ∧ Appended owner m registered.2) ∨
      (registered.1 ≠ .ok ∧ Untouched m registered.2) := by
  dsimp only
  rw [register_provider]
  cases hvalid : m.validate_device_provider physical_start bytes callbacks flags.overlay with
  | ok =>
    dsimp only
    split_ifs with hreserved
    · exact .inr ⟨hreserved, reserve_untouched⟩
    · exact .inl ⟨rfl, append_appended hvalid reserve_untouched⟩
  | _ => exact .inr ⟨by simp, .refl m⟩

/-- A change of the last provider is a change of the one that was appended. -/
theorem Appended.changed {owner : Owner} {m' : MachineMemory σ} (h : Appended owner m m')
    (change : DeviceProvider σ → DeviceProvider σ) :
    Appended owner m (m'.change_last_provider change) := by
  obtain ⟨provider, howner, capacity, grants, rfl⟩ := h
  refine ⟨{ provider with device := change provider.device }, howner, capacity, grants, ?_⟩
  rw [change_last_provider]
  dsimp only
  rw [List.length_append, List.length_singleton, Nat.add_sub_cancel, List.modify_eq_take_drop,
    List.take_left, List.drop_left]
  rfl

theorem install_route_spec (route : DeviceRoute σ) (owner : Owner) :
    ((m.install_route route owner).1 = .ok ∧ Appended owner m (m.install_route route owner).2) ∨
      ((m.install_route route owner).1 ≠ .ok ∧
        Untouched m (m.install_route route owner).2) := by
  have hchanged (flags : ProviderFlags) (change : DeviceProvider σ → DeviceProvider σ)
      (cond : Status → Prop) [∀ status, Decidable (cond status)]
      (hcond : ∀ status, cond status → status = .ok) :
      let registered := m.register_provider flags route.physical_start route.bytes route.callbacks
        owner route.failure
      let installed := if cond registered.1 then
        (registered.1, registered.2.change_last_provider change) else registered
      (installed.1 = .ok ∧ Appended owner m installed.2) ∨
        (installed.1 ≠ .ok ∧ Untouched m installed.2) := by
    dsimp only
    have hspec := register_provider_spec (m := m) flags route.physical_start route.bytes
      route.callbacks owner route.failure
    split_ifs with hok
    · obtain ⟨hstatus, happended⟩ | ⟨hstatus, -⟩ := hspec
      · exact .inl ⟨hstatus, happended.changed change⟩
      · exact absurd (hcond _ hok) hstatus
    · exact hspec
  rw [install_route]
  cases hmode : route.mode with
  | standard => exact register_provider_spec _ _ _ _ _ _
  | overlay => exact register_provider_spec _ _ _ _ _ _
  | fallback => exact register_provider_spec _ _ _ _ _ _
  | other value => exact .inr ⟨by simp, .refl m⟩
  | reset_overlay => exact hchanged _ _ (· = .ok) fun _ h => h
  | cpu_overlay => exact hchanged _ _ (· = .ok) fun _ h => h
  | replacement =>
    simp only [reduceCtorEq, and_false, if_false]
    exact register_provider_spec _ _ _ _ _ _
  | partial_replacement =>
    simp only [and_true]
    exact hchanged _ _ (· = .ok) fun _ h => h

theorem install_routes_extended (owner : Owner) (routes : List (DeviceRoute σ)) :
    Extended owner m (install_routes owner routes m).2 := by
  induction routes generalizing m with
  | nil => exact (Untouched.refl m).extended
  | cons route routes ih =>
    have hfirst : Extended owner m (m.install_route route owner).2 := by
      obtain ⟨-, happended⟩ | ⟨-, huntouched⟩ := m.install_route_spec route owner
      · exact happended.extended
      · exact huntouched.extended
    rw [install_routes]
    dsimp only
    split_ifs with hfailed
    · exact hfirst
    · exact hfirst.trans ih

/-! ## What a call leaves -/

/-- The parity from before, or where there was none, a new one of the owner. -/
theorem install_parity_spec (parity : Option (ParityConfig σ)) (owner : Owner) :
    ((m.install_parity parity owner).1 ≠ .ok ∧ Untouched m (m.install_parity parity owner).2) ∨
      ((m.install_parity parity owner).1 = .ok ∧ ∃ new grants,
        (m.install_parity parity owner).2 = { m with parity := new, grants := grants } ∧
          if parity.isSome then m.parity = none ∧ new.map Parity.parity_owner = some owner
          else new = m.parity) := by
  cases parity with
  | none => exact .inr ⟨rfl, _, _, rfl, rfl⟩
  | some parity =>
    obtain ⟨bytes, fault⟩ := parity
    cases fault with
    | none => exact .inl ⟨by simp [install_parity, enable_parity], .refl m⟩
    | some fault =>
      simp only [install_parity, enable_parity]
      by_cases hrefused :
        bytes = 0 ∨ bytes > m.installed_bytes ∨ m.mappings_frozen = true ∨ m.parity.isSome = true
      · rw [if_pos hrefused]
        exact .inl ⟨by simp, .refl m⟩
      · rw [if_neg hrefused]
        have hnone : m.parity = none := by
          simp only [not_or] at hrefused
          simpa using hrefused.2.2.2
        cases hgranted : m.grants 0 with
        | true =>
          simp only [allocate, hgranted, if_true]
          exact .inr ⟨trivial, _, _, rfl, hnone, rfl⟩
        | false =>
          simp only [allocate, hgranted, Bool.false_eq_true, if_false]
          exact .inl ⟨by simp, _, _, rfl⟩

/-- The observer comes last: where it fails there is none to take back. -/
theorem install_observer_spec (observer : Option (WriteObserver σ)) (owner : Owner) :
    (m.install_observer observer owner).1 = .ok ∨ (m.install_observer observer owner).2 = m := by
  cases observer with
  | none => exact .inl rfl
  | some callback =>
    rw [install_observer, register_write_observer]
    split_ifs with hfrozen hfull
    · exact .inr rfl
    · exact .inr rfl
    · exact .inl rfl

/-- The counts from before take back whatever was appended, and the release of the parity
leaves none, as it was. -/
theorem undo_routes_untouched {parity : Option (ParityConfig σ)} {owner : Owner}
    {new : Option (Parity σ)} {grants : ℕ → Bool} {m' : MachineMemory σ}
    (hparity : if parity.isSome then m.parity = none ∧ new.map Parity.parity_owner = some owner
      else new = m.parity)
    (h : Extended owner { m with parity := new, grants := grants } m') :
    Untouched m (m'.undo_routes m.device_providers.length m.write_observers.length parity) := by
  obtain ⟨added, -, capacity, grants', rfl⟩ := h
  refine ⟨capacity, grants', ?_⟩
  rw [undo_routes]
  dsimp only
  rw [List.take_left, List.take_length]
  cases parity with
  | none =>
    rw [show new = m.parity from hparity]
    rfl
  | some parity =>
    have hnone : m.parity = none := hparity.1
    simp only [Option.isSome_some, if_true, release_parity, hnone]

variable (m) in
/-- What a call that succeeds has published: the parity, the routes behind the earlier ones, and
the observer. -/
def Published (owner : Owner) (observer : Option (WriteObserver σ))
    (parity : Option (ParityConfig σ)) (m' : MachineMemory σ) : Prop :=
  m.owns owner = false ∧ ∃ new grants extended,
    (if parity.isSome then m.parity = none ∧ new.map Parity.parity_owner = some owner
      else new = m.parity) ∧
    Extended owner { m with parity := new, grants := grants } extended ∧
    m' = (extended.install_observer observer owner).2

/-- A call publishes everything or nothing. -/
theorem install_spec (routes : List (DeviceRoute σ)) (observer : Option (WriteObserver σ))
    (parity : Option (ParityConfig σ)) (owner : Owner) :
    let installed := m.install_memory_device_routes routes observer parity (some owner)
    (installed.1 ≠ .ok ∧ Untouched m installed.2) ∨
      (installed.1 = .ok ∧ m.Published owner observer parity installed.2) := by
  dsimp only
  unfold install_memory_device_routes
  split
  · exact .inl ⟨by simp, .refl m⟩
  dsimp only
  split
  · exact .inl ⟨by simp, .refl m⟩
  split
  · exact .inl ⟨by simp, .refl m⟩
  rename_i hfree
  obtain ⟨hstatus, huntouched⟩ | ⟨hstatus, new, grants, henabled, hparity⟩ :=
    m.install_parity_spec parity owner
  · rw [if_pos hstatus]
    exact .inl ⟨hstatus, huntouched⟩
  rw [if_neg (not_not.mpr hstatus), henabled]
  have hextended :=
    install_routes_extended (m := { m with parity := new, grants := grants }) owner routes
  generalize install_routes owner routes { m with parity := new, grants := grants } = routed
    at hextended ⊢
  obtain ⟨status, extended⟩ := routed
  dsimp only at hextended ⊢
  by_cases hroutes : status = .ok
  · rw [if_pos hroutes]
    by_cases hok : (extended.install_observer observer owner).1 = .ok
    · rw [if_neg (not_not.mpr hok)]
      exact .inr ⟨hok, by simpa using hfree, new, grants, extended, hparity, hextended, rfl⟩
    · rw [if_pos hok, (extended.install_observer_spec observer owner).resolve_left hok]
      exact .inl ⟨hok, undo_routes_untouched hparity hextended⟩
  · rw [if_neg hroutes, if_pos hroutes]
    exact .inl ⟨hroutes, undo_routes_untouched hparity hextended⟩

theorem install_failed {routes : List (DeviceRoute σ)} {observer : Option (WriteObserver σ)}
    {parity : Option (ParityConfig σ)} {owner : Option Owner}
    (hfailed : (m.install_memory_device_routes routes observer parity owner).1 ≠ .ok) :
    Untouched m (m.install_memory_device_routes routes observer parity owner).2 := by
  cases owner with
  | none =>
    unfold install_memory_device_routes
    split
    · exact .refl m
    · exact .refl m
  | some owner =>
    obtain ⟨-, huntouched⟩ | ⟨hok, -⟩ := m.install_spec routes observer parity owner
    · exact huntouched
    · exact absurd hok hfailed

/-- Routes alone that are published are of an owner that had nothing before. -/
theorem install_routes_only {routes : List (DeviceRoute σ)} {owner : Owner}
    (hok : (m.install_memory_device_routes routes none none (some owner)).1 = .ok) :
    m.owns owner = false ∧
      Extended owner m (m.install_memory_device_routes routes none none (some owner)).2 := by
  obtain ⟨hfailed, -⟩ | ⟨-, hfree, new, grants, extended, hparity, hextended, hlast⟩ :=
    m.install_spec routes none none owner
  · exact absurd hok hfailed
  · rw [hlast]
    refine ⟨hfree, Extended.trans ?_ hextended⟩
    rw [show new = m.parity from hparity]
    exact Untouched.extended ⟨_, _, rfl⟩

/-- The parity stays whose it was, or becomes the owner's. -/
theorem install_parity_owner (routes : List (DeviceRoute σ)) (observer : Option (WriteObserver σ))
    (parity : Option (ParityConfig σ)) (owner : Owner) :
    let installed := (m.install_memory_device_routes routes observer parity (some owner)).2
    installed.parity = m.parity ∨ installed.parity.map Parity.parity_owner = some owner := by
  dsimp only
  obtain ⟨-, capacity, grants, hsame⟩ | ⟨-, -, new, grants, extended, hparity, hextended, hlast⟩ :=
    m.install_spec routes observer parity owner
  · rw [hsame]
    exact .inl rfl
  · have hnew : (m.install_memory_device_routes routes observer parity (some owner)).2.parity =
        new := by
      obtain ⟨added, -, capacity, grants', rfl⟩ := hextended
      rw [hlast]
      cases observer with
      | none => rfl
      | some callback =>
        rw [install_observer, register_write_observer]
        split_ifs with hfrozen hfull
        · rfl
        · rfl
        · rfl
    rw [hnew]
    cases parity with
    | none => exact .inl hparity
    | some parity => exact .inr hparity.2

end MachineMemory

end Nxvm.Ram
