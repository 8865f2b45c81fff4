/-
The execution context of the processor (`x86_core_cpu_execution_context`) and the
bus it is connected to (`x86_core_cpu_bus_provider`).

The bus belongs to the board, so it is a parameter: callbacks over a board state
of any type. Everything a memory access reads or changes is in `Context`; what
only measures time, records debugger observations or serves a preview copy of the
context is left out.
-/
import Nxvm.Cpu.Types
import Nxvm.Lib.Exec
import Nxvm.Lib.Memory
import Nxvm.Lib.Directory

set_option autoImplicit false

namespace Nxvm.Cpu

open Nxvm.Lib.Exec Nxvm.Lib.Memory

/-! ## The bus -/

/-- `x86_core_cpu_memory_access_provenance`. -/
inductive Provenance where
  | data
  | instruction_fetch
  | instruction_prefetch
  | page_table_read
  | page_table_write
  deriving DecidableEq, Repr

/-- `x86_core_cpu_cache_query`. -/
inductive CacheQuery where
  | lookup
  | reset_lookup
  | fill_probe
  deriving DecidableEq, Repr

/-- `x86_core_cpu_cache_memory`: the answer to a cache query. -/
structure CacheMemory where
  address : U32
  fill_enabled : Bool
  deriving DecidableEq, Repr

/-- The memory callbacks of the bus (`x86_core_cpu_bus_provider`). A callback that
does not return `LIB_STATUS_OK` answers `none` or `false`; the board state it
leaves counts either way. A read answers the bytes by their index, so it cannot
answer too few. -/
structure BusProvider (β : Type) where
  read_memory : U32 → Nat → Provenance → Bool → U32 → β → Option (Nat → U8) × β
  write_memory : U32 → List U8 → Provenance → U32 → β → Bool × β
  query_cache_memory : Option (U32 → CacheQuery → β → Option CacheMemory)
  begin_memory_lock : Option (β → Bool × β)
  complete_memory_lock : Option (Bool → β → β)

/-- What a context is created with and never changes: the processor it is and the
bus it is on. -/
structure Env (β : Type) where
  profile : Profile
  bus : BusProvider β

/-! ## The internal cache and the translation buffer -/

/-- One line of the internal cache (`cpu_cache_line`). The tag is the upper 21 bits
of the line's address (`address & 0xfffff800`), so that tag, set and offset spell
an address. -/
structure CacheLine where
  tag : BitVec 21
  valid : Bool
  data : Mem 4

/-- One entry of the translation buffer (`cpu_tlb_entry`). -/
structure TlbEntry where
  linear : U32
  physical : U32
  attributes : U32
  valid : Bool
  deriving DecidableEq, Repr

/-- The ways of a set, in the order they are searched. -/
def ways : List (BitVec 2) := [0, 1, 2, 3]

theorem mem_ways (way : BitVec 2) : way ∈ ways := by
  revert way
  decide

/-- Three-bit tree replacement, the one formula of `_kma_cache_replacement` and
`_kma_tlb_replacement`. -/
def lru_replacement (lru : U8) : BitVec 2 :=
  if lru &&& 1 != 0 then 2 + ((lru >>> 2) &&& 1).setWidth 2 else ((lru >>> 1) &&& 1).setWidth 2

/-- The one formula of `_kma_cache_touch` and `_kma_tlb_touch`. -/
def lru_touch (lru : U8) (way : BitVec 2) : U8 :=
  if way < 2 then (lru &&& 4) ||| 1 ||| (if way = 0 then 2 else 0)
  else (lru &&& 2) ||| (if way = 2 then 4 else 0)

/-! ## The context -/

/-- The execution context. `bus` is the board's own state. -/
structure Context (β : Type) where
  cpu : CpuData
  memory_access_provenance : Provenance
  memory_lock_active : Bool
  tlb : BitVec 3 → BitVec 2 → TlbEntry
  tlb_lru : BitVec 3 → U8
  cache : BitVec 7 → BitVec 2 → CacheLine
  cache_lru : BitVec 7 → U8
  cache_fill : Mem 4
  cache_read : Mem 4
  prefetch_count : Nat
  prefetch_valid : Bool
  timing_bus_active : Bool
  bus : β

/-- The processor's own part of a context: everything but the board. -/
def Context.processor {β : Type} (c : Context β) : Context Unit := { c with bus := () }

/-- The part of a context that no physical access touches: everything but the board,
the cache with its replacement state, and the cache test registers. -/
def Context.core {β : Type} (c : Context β) : Context Unit :=
  { c with
    cpu := { c.cpu with tr4 := 0 }
    cache := fun _ _ => ⟨0, false, fun _ => 0⟩
    cache_lru := fun _ => 0
    cache_fill := fun _ => 0
    cache_read := fun _ => 0
    bus := () }

/-- A routine of the executor: it may raise a fault, and what it changed before
that stays changed. -/
abbrev Exec (β : Type) := EStateM Fault (Context β)

variable {β : Type}

/-- Read the registers. -/
def get_cpu : Exec β CpuData := query fun c => c.cpu

/-- Change the registers. -/
def set_cpu (f : CpuData → CpuData) : Exec β Unit := update fun c => { c with cpu := f c.cpu }

@[simp] theorem get_cpu_run (c : Context β) : (get_cpu : Exec β CpuData) c = .ok c.cpu c := rfl

@[simp] theorem set_cpu_run (f : CpuData → CpuData) (c : Context β) :
    (set_cpu f : Exec β Unit) c = .ok () { c with cpu := f c.cpu } := rfl

end Nxvm.Cpu
