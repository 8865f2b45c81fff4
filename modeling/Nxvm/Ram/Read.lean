/-
Reading physical memory (`memory.c`).

A read of several bytes is made as a whole where its bytes would all go the same way, and
else byte by byte. What a read reports to the observers of faults is part of its result.
-/
import Nxvm.Ram.Route

set_option autoImplicit false

namespace Nxvm.Ram

open Nxvm.Chips (U8 U32)
open Nxvm.Machine (Status)

/-! ## Results -/

/-- What the failure observer of a provider and the parity observer are told. -/
inductive Report (count : ℕ) where
  | provider_failure (provider : Fin count) (physical : U32) (bytes : ℕ)
      (access : MemoryAccess) (status : Status)
  | parity_fault (physical : U32)
  deriving DecidableEq, Repr

/-- The status of a read, the bytes at its destination, and what it leaves. -/
structure ReadResult (count : ℕ) (σ : Type) where
  status : Status
  bytes : List U8
  state : σ
  reports : List (Report count)

/-- How a read is made: who reads, and what for. -/
structure ReadMode where
  observe_only : Bool
  instruction_fetch : Bool
  cpu_access : Bool

section Read

variable {σ : Type} (ram : RamConfig σ)

def memory_odd_parity (value : U8) : U8 :=
  (List.range 8).foldl (fun parity bit => parity ^^^ ((value >>> bit) &&& 1)) 0

def note_provider_failure (provider : Fin ram.device_provider_count) (physical : U32)
    (bytes : ℕ) (access : MemoryAccess) (status : Status) :
    List (Report ram.device_provider_count) :=
  if !(ram.device_providers provider).failure ∨ status = .ok ∨ status = .unsupported then []
  else [.provider_failure provider physical bytes access status]

/-- A route that failed, to those it concerns. -/
def note_route_failure (bytes : ℕ) (status : Status)
    (provider : Option (Fin ram.device_provider_count × U32)) :
    List (Report ram.device_provider_count) :=
  match provider with
  | some asked => note_provider_failure ram asked.1 asked.2 bytes .read status
  | none => []

/-! ## One owner -/

/-- The first of the bytes whose parity is not the stored one. -/
def parity_reports (mode : ReadMode) (physical : U32) (offset : ℕ) (bytes : List U8) :
    List (Report ram.device_provider_count) :=
  match ram.parity with
  | none => []
  | some parity =>
    if mode.observe_only ∨ ram.parity_bytes ≤ offset then []
    else
      let checked := min bytes.length (ram.parity_bytes - offset)
      let wrong := (List.range checked).find? fun index =>
        parity (offset + index) ≠ memory_odd_parity (bytes.getD index 0)
      match wrong with
      | some index => [.parity_fault (physical + BitVec.ofNat 32 index)]
      | none => []

/-- A copy out of the backing. -/
def read_backing (mode : ReadMode) (state : σ) (physical : U32) (offset byte : ℕ) :
    ReadResult ram.device_provider_count σ :=
  match ram.backing with
  | none => ⟨.invalid_argument, [], state, []⟩
  | some backing =>
    let bytes := (List.range byte).map fun index => backing (offset + index)
    ⟨.ok, bytes, state, parity_reports ram mode physical offset bytes⟩

/-- The read callback that is made, and the ordinary one after an instruction source that has
nothing. -/
def provider_read (provider : DeviceProvider σ) (mode : ReadMode) (state : σ) (physical : U32)
    (byte : ℕ) : Status × List U8 × σ :=
  match provider.read_instruction with
  | none => provider.read state physical byte mode.observe_only
  | some read_instruction =>
    if mode.instruction_fetch then
      let called := read_instruction state physical byte mode.observe_only
      if called.1 = .unsupported then
        provider.read called.2.2 physical byte mode.observe_only
      else called
    else provider.read state physical byte mode.observe_only

/-- A read of a provider. One that turns out not to have it leaves it to the backing. -/
def read_provider (mode : ReadMode) (state : σ) (physical : U32)
    (index : Fin ram.device_provider_count) (provider_physical : U32) (byte : ℕ) :
    ReadResult ram.device_provider_count σ :=
  let called := provider_read (ram.device_providers index) mode state provider_physical byte
  if called.1 ≠ .unsupported then
    ⟨called.1, called.2.1, called.2.2,
      note_provider_failure ram index provider_physical byte .read called.1⟩
  else
    match memory_offset ram physical (decode_address ram physical) byte with
    | .ok offset => read_backing ram mode called.2.2 physical offset byte
    | .error status => ⟨status, called.2.1, called.2.2, []⟩

/-! ## Byte by byte -/

/-- `memory_read_routed` of one byte, which neither crosses the decode nor splits. -/
def read_byte (mode : ReadMode) (state : σ) (physical : U32) :
    ReadResult ram.device_provider_count σ :=
  match route_resolve ram state physical 1 .read mode.cpu_access with
  | .failed status provider => ⟨status, [], state, note_route_failure ram 1 status provider⟩
  | .provider index provider_physical =>
    read_provider ram mode state physical index provider_physical 1
  | .ram _ offset => read_backing ram mode state physical offset 1

/-- The bytes one by one, up to the first that fails. -/
def read_bytes (mode : ReadMode) : σ → U32 → ℕ → ReadResult ram.device_provider_count σ
  | state, _, 0 => ⟨.ok, [], state, []⟩
  | state, physical, byte + 1 =>
    let first := read_byte ram mode state physical
    if first.status ≠ .ok then first
    else
      let rest := read_bytes mode first.state (physical + 1) byte
      ⟨rest.status, first.bytes ++ rest.bytes, rest.state, first.reports ++ rest.reports⟩

/-! ## Together or apart -/

/-- What the routes of the single bytes say about a read as a whole. -/
inductive Split (count : ℕ) where
  | together
  | apart
  | stop (status : Status) (provider : Option (Fin count × U32))
  deriving DecidableEq, Repr

/-- A byte of a read that goes to the RAM as a whole. -/
def split_backing (offset index : ℕ) :
    Route ram.device_provider_count → Option (Split ram.device_provider_count)
  | .failed status provider => some (.stop status provider)
  | .provider _ _ => some .apart
  | .ram _ byte_offset => if byte_offset ≠ offset + index then some .apart else none

/-- A byte of a read that a provider takes as a whole. -/
def split_provider (selected : Fin ram.device_provider_count) :
    Route ram.device_provider_count → Option (Split ram.device_provider_count)
  | .failed _ none => some .together
  | .failed _ (some asked) =>
    if (ram.device_providers asked.1).partial_claim && higher_provider ram asked.1 selected then
      some .apart else some .together
  | .provider index _ =>
    if (ram.device_providers index).partial_claim && higher_provider ram index selected then
      some .apart else none
  | .ram _ _ => none

/-- The first byte that decides. -/
def split (mode : ReadMode) (state : σ) (physical : U32) (byte : ℕ)
    (decide_byte : ℕ → Route ram.device_provider_count →
      Option (Split ram.device_provider_count)) : Split ram.device_provider_count :=
  ((List.range byte).findSome? fun index =>
    decide_byte index (route_resolve ram state (physical + BitVec.ofNat 32 index) 1 .read
      mode.cpu_access)).getD .together

/-- A read the RAM has as a whole. -/
def read_backing_routed (mode : ReadMode) (state : σ) (physical : U32) (offset byte : ℕ) :
    ReadResult ram.device_provider_count σ :=
  if crosses_decode ram physical byte then read_bytes ram mode state physical byte
  else if byte > 1 ∧ !is_plain_span ram physical byte then
    match split ram mode state physical byte (split_backing ram offset) with
    | .together => read_backing ram mode state physical offset byte
    | .apart => read_bytes ram mode state physical byte
    | .stop status provider => ⟨status, [], state, note_route_failure ram 1 status provider⟩
  else read_backing ram mode state physical offset byte

/-- A read a provider takes as a whole. -/
def read_provider_routed (mode : ReadMode) (state : σ) (physical : U32)
    (index : Fin ram.device_provider_count) (provider_physical : U32) (byte : ℕ) :
    ReadResult ram.device_provider_count σ :=
  if !(ram.device_providers index).raw_decode ∧ crosses_decode ram physical byte then
    read_bytes ram mode state physical byte
  else if byte > 1 ∧ has_partial_claim ram ∧ !is_plain_span ram physical byte then
    match split ram mode state physical byte fun _ => split_provider ram index with
    | .apart => read_bytes ram mode state physical byte
    | _ => read_provider ram mode state physical index provider_physical byte
  else read_provider ram mode state physical index provider_physical byte

def memory_read_routed (mode : ReadMode) (state : σ) (physical : U32) (byte : ℕ) :
    ReadResult ram.device_provider_count σ :=
  if byte = 0 then ⟨.invalid_argument, [], state, []⟩
  else
    match route_resolve ram state physical byte .read mode.cpu_access with
    | .failed status provider =>
      if status = .internal_error ∧ provider = none ∧ crosses_decode ram physical byte then
        read_bytes ram mode state physical byte
      else ⟨status, [], state, note_route_failure ram byte status provider⟩
    | .provider index provider_physical =>
      read_provider_routed ram mode state physical index provider_physical byte
    | .ram _ offset => read_backing_routed ram mode state physical offset byte

end Read

end Nxvm.Ram
