/-
The registry of the I/O ports (`port.h`, `port.c`, `port_interface.c`).

Providers are kept in 256 chains by their port, the newest in front. Of each port and
direction one provider owns the register; providers of a wired-OR read only add bits to
what the owner answers.

An entry carries the address it was allocated at, which is all a checkpoint knows of
it. The allocator gives an address once: `next_address` counts what it gave. `σ` is the
state of the devices behind the providers.
-/
import Nxvm.Chips.Words
import Nxvm.Lib.Gather
import Nxvm.Lib.Table
import Nxvm.Machine.Status

set_option autoImplicit false

namespace Nxvm.Machine

open Nxvm.Lib Nxvm.Chips

/-! ## Providers -/

/-- `x86_core_machine_port_read_provider`: owner, port, tick and the value found in the
result variable. -/
abbrev PortReadProvider (σ : Type) := Option ℕ → U16 → U64 → U32 → σ → Status × U32 × σ

/-- `x86_core_machine_port_write_provider`: owner, port, width in bytes and value. -/
abbrev PortWriteProvider (σ : Type) := Option ℕ → U16 → U8 → U32 → σ → Status × σ

/-- `x86_core_machine_port_provider_entry`, with the address it lies at. -/
structure PortEntry (σ : Type) where
  address : ℕ
  port_id : U16
  write : Bool
  wired_or : Bool
  byte_lane_end : U16
  read_provider : Option (PortReadProvider σ)
  write_provider : Option (PortWriteProvider σ)
  owner : Option ℕ

/-- `x86_core_machine_port_route`. -/
structure PortRoute (σ : Type) where
  address : U16
  read : Option (PortReadProvider σ)
  write : Option (PortWriteProvider σ)
  owner : Option ℕ
  wired_or_read : Bool
  byte_lane_end : U16

/-- `x86_core_machine_port_test_allocation`. -/
structure PortTestAllocation where
  fail_at : ℕ
  attempts : ℕ
  deriving DecidableEq, Repr

/-- `X86_CORE_MACHINE_PORT_BUCKET_COUNT`. -/
def port_bucket_count : ℕ := 256

/-- `t_port_connect`. -/
structure PortConnect (σ : Type) where
  buckets : Table port_bucket_count (List (PortEntry σ))
  test_allocation : Option PortTestAllocation
  registration_status : Status
  next_address : ℕ

/-- `t_port_data`. -/
structure PortData where
  ioDWord : U32
  access_bytes : U8
  deriving DecidableEq, Repr

section Port

variable {σ : Type}

/-- The chain of a port. -/
def port_bucket (port_id : U16) : Fin port_bucket_count :=
  ⟨port_id.toNat % port_bucket_count, Nat.mod_lt _ (by decide)⟩

/-- The entry owns the register of this port and direction. -/
def is_provider (port_id : U16) (write : Bool) (entry : PortEntry σ) : Bool :=
  decide (entry.port_id = port_id) && decide (entry.write = write) && !entry.wired_or

/-- `x86_core_machine_port_find_provider`. -/
def port_find_provider (port : PortConnect σ) (port_id : U16) (write : Bool) :
    Option (PortEntry σ) :=
  (port.buckets (port_bucket port_id)).find? (is_provider port_id write)

/-- The allocation hook of the tests: `none` when this attempt is to fail. -/
def port_test_attempt (port : PortConnect σ) : Bool × PortConnect σ :=
  match port.test_allocation with
  | none => (true, port)
  | some test =>
    let attempts := test.attempts + 1
    (decide (test.fail_at = 0 ∨ attempts ≠ test.fail_at),
      { port with test_allocation := some { test with attempts } })

/-- The entry in front of its chain. -/
def port_link (port : PortConnect σ) (entry : PortEntry σ) : PortConnect σ :=
  { port with
    buckets := Function.update port.buckets (port_bucket entry.port_id)
      (entry :: port.buckets (port_bucket entry.port_id))
    next_address := port.next_address + 1 }

/-- `x86_core_machine_port_add_provider`. `allocated` says whether there is memory. -/
def port_add_provider (port : PortConnect σ) (port_id : U16) (write : Bool)
    (read_provider : Option (PortReadProvider σ)) (write_provider : Option (PortWriteProvider σ))
    (owner : Option ℕ) (wired_or : Bool) (byte_lane_end : U16) (allocated : Bool) :
    Status × PortConnect σ :=
  if read_provider.isNone && write_provider.isNone then (.invalid_argument, port)
  else if port.registration_status ≠ .ok then (port.registration_status, port)
  else
    let found := (port_find_provider port port_id write).isSome
    if (!wired_or && found) || (wired_or && (write || !found)) then
      (.invalid_state, { port with registration_status := .invalid_state })
    else
      let attempt := port_test_attempt port
      if !attempt.1 || !allocated then
        (.no_memory, { attempt.2 with registration_status := .no_memory })
      else
        (.ok, port_link attempt.2
          { address := attempt.2.next_address, port_id, write, wired_or, byte_lane_end
            read_provider, write_provider, owner })

/-- `x86_core_machine_port_add_route`, with the answers of the allocator to its two
insertions. -/
def port_add_route (port : PortConnect σ) (route : PortRoute σ) (allocated : Bool × Bool) :
    Status × PortConnect σ :=
  let read := if route.read.isSome then
      port_add_provider port route.address false route.read none route.owner
        route.wired_or_read route.byte_lane_end allocated.1
    else (.ok, port)
  if read.1 = .ok ∧ route.write.isSome then
    port_add_provider read.2 route.address true none route.write route.owner false
      route.byte_lane_end allocated.2
  else read

/-! ## Registration -/

/-- `x86_core_machine_port_checkpoint`: the heads of the chains. -/
abbrev PortCheckpoint := Table port_bucket_count (Option ℕ)

/-- `x86_core_machine_port_initialize`. -/
def port_initialize : PortConnect σ :=
  { buckets := Table.fill [], test_allocation := none, registration_status := .ok
    next_address := 1 }

/-- `x86_core_machine_port_finalize`. -/
def port_finalize (port : PortConnect σ) : PortConnect σ := { port with buckets := Table.fill [] }

/-- `x86_core_machine_port_registration_begin`. -/
def port_registration_begin (port : PortConnect σ) : PortCheckpoint × PortConnect σ :=
  (fun bucket => (port.buckets bucket).head?.map (·.address),
    { port with registration_status := .ok })

/-- `x86_core_machine_port_unregister_owner`. -/
def port_unregister_owner (port : PortConnect σ) (owner : ℕ) : PortConnect σ :=
  { port with buckets := fun bucket =>
      (port.buckets bucket).filter fun entry => decide (entry.owner ≠ some owner) }

/-- `x86_core_machine_port_rollback_registration`: each chain loses its head until it is the
one of the checkpoint, or until it is empty. -/
def port_rollback_registration (port : PortConnect σ) (checkpoint : PortCheckpoint) :
    PortConnect σ :=
  { port with
    buckets := fun bucket =>
      (port.buckets bucket).dropWhile fun entry => some entry.address != checkpoint bucket
    registration_status := .ok }

/-- `x86_core_machine_port_set_test_allocation`. -/
def port_set_test_allocation (port : PortConnect σ)
    (test_allocation : Option PortTestAllocation) : PortConnect σ :=
  { port with test_allocation := test_allocation }

/-- A route that `x86_core_machine_install_port_routes` accepts. -/
def port_route_is_valid (route : PortRoute σ) : Bool :=
  !((route.read.isNone && route.write.isNone) || (route.wired_or_read && route.read.isNone) ||
    (decide (route.byte_lane_end ≠ 0) &&
      (decide (route.byte_lane_end.toNat < route.address.toNat + 1) || route.wired_or_read)))

/-- The loop of `x86_core_machine_install_port_routes`, up to the first failure. -/
def port_add_routes (port : PortConnect σ) :
    List (PortRoute σ × Bool × Bool) → Status × PortConnect σ
  | [] => (.ok, port)
  | (route, allocated) :: routes =>
    let added := port_add_route port route allocated
    if added.1 ≠ .ok then added else port_add_routes added.2 routes

/-- `x86_core_machine_install_port_routes`, on a machine whose configuration is open. -/
def install_port_routes (port : PortConnect σ) (routes : List (PortRoute σ × Bool × Bool)) :
    Status × PortConnect σ :=
  if routes = [] ∨ routes.any (fun route => !port_route_is_valid route.1) then
    (.invalid_argument, port)
  else if port.registration_status ≠ .ok then (port.registration_status, port)
  else
    let begun := port_registration_begin port
    let added := port_add_routes begun.2 routes
    if added.1 ≠ .ok then (added.1, port_rollback_registration added.2 begun.1) else added

/-! ## Reading -/

/-- A call of the entry's read provider. -/
def read_provider (entry : PortEntry σ) (port_id : U16) (tick : U64) (out_value : U32) (s : σ) :
    Except Status U32 × σ :=
  match entry.read_provider with
  | none => (.ok out_value, s)
  | some read =>
    match read entry.owner port_id tick out_value s with
    | (status, value, s) => (if status = .ok then .ok value else .error status, s)

/-- One eight-bit lane of a wide access, moved to its place. -/
def read_lane (entry : PortEntry σ) (port_id : U16) (tick : U64) (lane : ℕ) (s : σ) :
    Except Status U32 × σ :=
  match read_provider entry (port_id + BitVec.ofNat 16 lane) tick 0 s with
  | (.ok byte, s) => (.ok ((byte &&& 0xff) <<< (lane * 8)), s)
  | (.error status, s) => (.error status, s)

/-- A wide access lies wholly inside the entry's bank of latches. -/
def in_byte_lanes (entry : PortEntry σ) (data : PortData) (port_id : U16) : Bool :=
  decide (1 < data.access_bytes.toNat) && decide (entry.byte_lane_end ≠ 0) &&
    decide (port_id.toNat + data.access_bytes.toNat ≤ entry.byte_lane_end.toNat)

/-- What the owner of the register answers. -/
def read_owner (data : PortData) (port_id : U16) (tick : U64) (entry : PortEntry σ) (s : σ) :
    Except Status U32 × σ :=
  if entry.read_provider.isSome && in_byte_lanes entry data port_id then
    gather (read_lane entry port_id tick) (· ||| ·) (List.range data.access_bytes.toNat) 0 s
  else read_provider entry port_id tick data.ioDWord s

/-- The first half of a read: the owner's answer, or zero on a port nobody owns. -/
def port_read_owned (port : PortConnect σ) (data : PortData) (port_id : U16) (tick : U64)
    (s : σ) : Except Status U32 × σ :=
  match port_find_provider port port_id false with
  | none => (.ok 0, s)
  | some entry => read_owner data port_id tick entry s

/-- The entry adds bits to reads of this port. -/
def is_contributor (port_id : U16) (entry : PortEntry σ) : Bool :=
  decide (entry.port_id = port_id) && !entry.write && entry.wired_or && entry.read_provider.isSome

/-- The contributors of a port, the newest first. -/
def port_contributors (port : PortConnect σ) (port_id : U16) : List (PortEntry σ) :=
  (port.buckets (port_bucket port_id)).filter (is_contributor port_id)

/-- `x86_core_machine_port_execute_read_current`. -/
def port_execute_read_current (port : PortConnect σ) (data : PortData) (port_id : U16)
    (tick : U64) (s : σ) : Status × PortData × σ :=
  match port_read_owned port data port_id tick s with
  | (.error status, s) => (status, data, s)
  | (.ok value, s) =>
    match gather (fun entry => read_provider entry port_id tick 0) (· ||| ·)
        (port_contributors port port_id) value s with
    | (.error status, s) => (status, data, s)
    | (.ok value, s) => (.ok, { data with ioDWord := value }, s)

end Port

end Nxvm.Machine
