/-
The routes of physical memory (`memory.h`, `memory.c`).

An access goes to a device provider whose window holds the whole access and whose query does
not decline it, to a selected alias, or to the RAM behind the address decode. Which one it is
depends on the width of the access: a provider is asked about the access as a whole.

`σ` is the state of the devices behind the providers.
-/
import Nxvm.Chips.Words
import Nxvm.Machine.Status
import Mathlib.Data.List.FinRange

set_option autoImplicit false

namespace Nxvm.Ram

open Nxvm.Chips (U8 U32)
open Nxvm.Machine (Status)

/-! ## Configurations -/

/-- `x86_core_machine_memory_access`. -/
inductive MemoryAccess where
  | read
  | write
  deriving DecidableEq, Repr

/-- `x86_core_machine_memory_mapping`. -/
structure MemoryMapping where
  physical_start : U32
  backing_start : U32
  bytes : ℕ
  selected : Bool
  deriving DecidableEq, Repr

/-- `x86_core_machine_memory_device_read`: address, number of bytes and `observe_only`. -/
abbrev DeviceRead (σ : Type) := σ → U32 → ℕ → Bool → Status × List U8 × σ

/-- A line of which a read is what its bytes read one by one, without side effects. -/
def ReadsAsBytes {σ : Type} (read : DeviceRead σ) (state : σ) (physical : U32) : Prop :=
  ∃ bytes : Fin 16 → U8,
    (∀ i : Fin 16, read state (physical + BitVec.ofNat 32 i.val) 1 false =
      (.ok, [bytes i], state)) ∧
      read state physical 16 false = (.ok, List.ofFn bytes, state)

theorem no_probe_reads {σ : Type} {read : DeviceRead σ} (probe : σ → U32 → ℕ → Bool)
    (h : none = some probe) (state : σ) (physical : U32)
    (_ : probe state physical 16 = true) : ReadsAsBytes read state physical := by
  cases h

/-- `x86_core_machine_memory_device_provider`, as far as reads use it. A cache probe accepts
only lines that read as their bytes. -/
structure DeviceProvider (σ : Type) where
  physical_start : U32
  bytes : ℕ
  read : DeviceRead σ
  read_instruction : Option (DeviceRead σ)
  cache_probe : Option (σ → U32 → ℕ → Bool)
  query : σ → U32 → ℕ → MemoryAccess → Status
  failure : Bool
  raw_decode : Bool
  cpu_only : Bool
  replacement : Bool
  partial_claim : Bool
  fallback : Bool
  probe_reads : ∀ probe, cache_probe = some probe → ∀ state physical,
    probe state physical 16 = true → ReadsAsBytes read state physical

/-- `t_ram`, as far as reads use it. -/
structure RamConfig (σ : Type) where
  address_clear_mask : U32
  address_decode_first : U32
  address_decode_last : U32
  backing : Option (ℕ → U8)
  parity : Option (ℕ → U8)
  parity_bytes : ℕ
  installed_bytes : ℕ
  mappings : List MemoryMapping
  device_provider_count : ℕ
  device_providers : Fin device_provider_count → DeviceProvider σ

section Route

variable {σ : Type} (ram : RamConfig σ)

/-! ## Address decode -/

def decode_address (offset : U32) : U32 :=
  if ram.address_clear_mask = 0 ∨ offset < ram.address_decode_first ∨
      offset > ram.address_decode_last then offset
  else offset &&& ~~~ram.address_clear_mask

/-- The next addresses do not decode to the next bytes, or might not. -/
def crosses_decode (physical : U32) (bytes : ℕ) : Bool :=
  let mask := ram.address_clear_mask
  let last := physical.toNat + bytes - 1
  if bytes ≤ 1 ∨ mask = 0 ∨ last > 0xffffffff ∨ last < ram.address_decode_first.toNat ∨
      physical > ram.address_decode_last then false
  else if (decode_address ram physical).toNat + bytes - 1 ≠
      (decode_address ram (BitVec.ofNat 32 last)).toNat then true
  else
    let step := mask &&& (~~~mask + 1)
    decide (physical &&& ~~~(step - 1) ≠ BitVec.ofNat 32 last &&& ~~~(step - 1))

/-- The window of `size` bytes from `start` holds the access. -/
def holds (start : U32) (size : ℕ) (physical : U32) (bytes : ℕ) : Bool :=
  decide (start.toNat ≤ physical.toNat) && decide (physical.toNat + bytes - start.toNat ≤ size)

/-- The window meets the access. -/
def meets (start : U32) (size : ℕ) (physical : U32) (bytes : ℕ) : Bool :=
  decide (physical.toNat < start.toNat + size) && decide (start.toNat < physical.toNat + bytes)

/-- The byte of the backing an address of a mapping stands for. -/
def MemoryMapping.offset (mapping : MemoryMapping) (physical : U32) : ℕ :=
  mapping.backing_start.toNat + (physical.toNat - mapping.physical_start.toNat)

def memory_offset (physical decoded : U32) (size : ℕ) : Except Status ℕ :=
  if ram.backing.isNone then .error .invalid_argument
  else
    let mapped := ram.mappings.find? fun mapping =>
      holds mapping.physical_start mapping.bytes physical size
    let offset := match mapped with
      | some mapping => mapping.offset physical
      | none => decoded.toNat
    if offset > ram.installed_bytes ∨ size > ram.installed_bytes - offset then
      .error .internal_error
    else .ok offset

/-! ## Providers -/

/-- The window of a provider that this kind of access may see holds the access. -/
def sees (cpu_access : Bool) (physical : U32) (bytes : ℕ)
    (index : Fin ram.device_provider_count) : Bool :=
  let provider := ram.device_providers index
  !(provider.cpu_only && !cpu_access) &&
    holds provider.physical_start provider.bytes physical bytes

/-- Replacement, ordinary, then fallback. -/
def provider_tier (index : Fin ram.device_provider_count) : ℕ :=
  let provider := ram.device_providers index
  if provider.replacement then 0 else if provider.fallback then 2 else 1

/-- Who is asked before the address is decoded, in the order of registration. -/
def raw_candidates (cpu_access : Bool) (physical : U32) (bytes : ℕ) :
    List (Fin ram.device_provider_count) :=
  (List.finRange ram.device_provider_count).filter fun index =>
    (ram.device_providers index).raw_decode && sees ram cpu_access physical bytes index

/-- Who is asked after it: by tier, then in the order of registration. -/
def decoded_candidates (cpu_access : Bool) (wrapped : U32) (bytes : ℕ) :
    List (Fin ram.device_provider_count) :=
  let matched := (List.finRange ram.device_provider_count).filter
    (sees ram cpu_access wrapped bytes)
  [0, 1, 2].flatMap fun tier => matched.filter fun index => provider_tier ram index = tier

/-- The first candidate that does not decline, with its answer. -/
def first_answer (state : σ) (candidates : List (Fin ram.device_provider_count))
    (physical : U32) (bytes : ℕ) (access : MemoryAccess) :
    Option (Fin ram.device_provider_count × Status) :=
  (candidates.map fun index =>
    (index, (ram.device_providers index).query state physical bytes access)).find?
    fun answer => answer.2 ≠ .unsupported

/-! ## Routes -/

/-- Where an access goes. A failure names the provider it is of and the address that was
asked about. -/
inductive Route (count : ℕ) where
  | failed (status : Status) (provider : Option (Fin count × U32))
  | provider (index : Fin count) (physical : U32)
  | ram (physical : U32) (offset : ℕ)
  deriving DecidableEq, Repr

/-- The route by an answer. -/
def answered {count : ℕ} (physical : U32) (answer : Fin count × Status) : Route count :=
  if answer.2 = .ok then .provider answer.1 physical
  else .failed answer.2 (some (answer.1, physical))

/-- The route behind the raw providers and the aliases. -/
def decoded_route (state : σ) (physical : U32) (bytes : ℕ) (access : MemoryAccess)
    (cpu_access : Bool) : Route ram.device_provider_count :=
  let wrapped := decode_address ram physical
  match first_answer ram state (decoded_candidates ram cpu_access wrapped bytes) wrapped bytes
    access with
  | some answer => answered wrapped answer
  | none =>
    match memory_offset ram physical wrapped bytes with
    | .ok offset => .ram wrapped offset
    | .error status => .failed status none

def route_resolve (state : σ) (physical : U32) (bytes : ℕ) (access : MemoryAccess)
    (cpu_access : Bool) : Route ram.device_provider_count :=
  if bytes = 0 then .failed .invalid_argument none
  else
    match first_answer ram state (raw_candidates ram cpu_access physical bytes) physical bytes
      access with
    | some answer => answered physical answer
    | none =>
      match ram.mappings.find? fun mapping => mapping.selected &&
        holds mapping.physical_start mapping.bytes physical bytes with
      | some mapping => .ram (decode_address ram physical) (mapping.offset physical)
      | none => decoded_route ram state physical bytes access cpu_access

/-- No alias, no address-line change and no provider at any byte. -/
def is_plain_span (physical : U32) (bytes : ℕ) : Bool :=
  decide (ram.address_clear_mask = 0) && ram.mappings.isEmpty &&
    decide (bytes ≤ 2 ^ 32 - physical.toNat) &&
    (List.finRange ram.device_provider_count).all fun index =>
      !meets (ram.device_providers index).physical_start (ram.device_providers index).bytes
        physical bytes

/-- Raw providers first, then by tier. -/
def provider_rank (index : Fin ram.device_provider_count) : ℕ :=
  let provider := ram.device_providers index
  if provider.raw_decode then 0
  else if provider.replacement then 1 else if provider.fallback then 3 else 2

def higher_provider (candidate selected : Fin ram.device_provider_count) : Bool :=
  if candidate = selected then false
  else
    decide (provider_rank ram candidate < provider_rank ram selected) ||
      (decide (provider_rank ram candidate = provider_rank ram selected) &&
        decide (candidate < selected))

def has_partial_claim : Bool :=
  (List.finRange ram.device_provider_count).any fun index =>
    (ram.device_providers index).partial_claim &&
      decide ((ram.device_providers index).bytes ≠ 0)

/-! ## Who answers -/

variable {ram}

end Route

end Nxvm.Ram
