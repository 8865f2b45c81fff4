/-
The simplest board: memory and nothing else. Every address is decoded to itself, every
callback succeeds, and every line may be cached.
-/
import Nxvm.Cpu.Board

set_option autoImplicit false

namespace Nxvm.Cpu

open Nxvm.Lib Nxvm.Lib.Memory

/-- The memory callbacks of a board that is nothing but memory. -/
def flat_bus : BusProvider (Mem 32) where
  read_memory a _ _ _ _ mem := (some fun i => mem (a + BitVec.ofNat 32 i), mem)
  write_memory a data _ _ mem := (true, store_through id mem a data)
  query_cache_memory := some fun a _ _ => some ⟨a, true⟩
  begin_memory_lock := none
  complete_memory_lock := none

/-- Decoding that leaves every address alone. -/
def flat_decoding : Decoding where
  decode := id
  offset _ := rfl
  line _ _ _ := rfl
  twice _ := rfl

/-- It behaves as the byte array it is. -/
def flat_board : ByteArrayBus flat_bus where
  mem mem := mem
  decoding _ := flat_decoding
  read_mem _ _ _ _ _ _ := rfl
  read_decode _ _ _ _ _ _ := rfl
  read_bytes a n p r cc b data h i _ := by
    cases h
    simp [flat_decoding]
  write_decode _ _ _ _ _ := rfl
  write_mem _ _ _ _ _ _ := rfl
  write_prefix a data p cc b := ⟨data.length, Nat.le_refl _, by rw [List.take_length]; rfl⟩
  query_address q hq a kind b answer ha := by
    cases hq
    cases ha
    simp [flat_decoding]
  query_absent h := by cases h
  begin_mem f hf := by cases hf
  begin_decode f hf := by cases hf
  complete_mem f hf := by cases hf
  complete_decode f hf := by cases hf

def flat_env (profile : Profile) : Env (Mem 32) := ⟨profile, flat_bus⟩

/-- What the flat board shows. -/
def flat_view (c : Context (Mem 32)) : View := ⟨c.bus, flat_decoding⟩

/-- Memory that holds these words and is zero elsewhere. -/
def memory_of (words : List (U32 × U32)) : Mem 32 :=
  words.foldr (fun w mem => store mem w.1 (bytes_of 4 w.2)) fun _ => 0

/-- A line that holds nothing. -/
def CacheLine.empty : CacheLine := ⟨0, false, fun _ => 0⟩

/-- A processor on the flat board, with nothing cached and no translation buffered. -/
def flat_context (cpu : CpuData) (mem : Mem 32) : Context (Mem 32) where
  cpu := cpu
  memory_access_provenance := .data
  memory_lock_active := false
  tlb _ _ := ⟨0, 0, 0, false⟩
  tlb_lru _ := 0
  cache _ _ := .empty
  cache_lru _ := 0
  cache_fill _ := 0
  cache_read _ := 0
  prefetch_count := 0
  prefetch_valid := false
  timing_bus_active := false
  bus := mem

/-- Nothing cached is a copy of anything. -/
theorem flat_coherent (T : U32 → Prop) (cpu : CpuData) (mem mem' : Mem 32) :
    CoherentOn T mem' (flat_context cpu mem).cache := by
  constructor
  · intro set way way' hv
    exact absurd hv (by simp [flat_context, line_scheme, CacheLine.empty])
  · intro set way hv
    exact absurd hv (by simp [flat_context, line_scheme, CacheLine.empty])

end Nxvm.Cpu
