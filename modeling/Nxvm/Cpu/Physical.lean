/-
Physical memory accesses: the bus, and the internal cache of the 80486SX in front
of it (`_kma_read_bus` to `_kma_invalidate_cache_range`).

The loops over an operand that crosses cache lines are recursions on the number of
bytes left, with the operand's own length as fuel: every turn moves at least one
byte.
-/
import Nxvm.Cpu.Context

set_option autoImplicit false

namespace Nxvm.Cpu

open Nxvm.Lib Nxvm.Lib.Exec Nxvm.Lib.Memory

variable {β : Type}

/-! ## Addresses in the cache -/

def cache_set (address : U32) : BitVec 7 := address.extractLsb' 4 7
def cache_tag (address : U32) : BitVec 21 := address.extractLsb' 11 21
def cache_offset (address : U32) : BitVec 4 := address.extractLsb' 0 4

/-- The address of the line with this tag in this set. -/
def line_address (tag : BitVec 21) (set : BitVec 7) : U32 := tag ++ set ++ 0#4

/-- Lines are found by their tag. -/
def line_scheme : Directory.Scheme CacheLine (BitVec 21) := ⟨CacheLine.valid, CacheLine.tag⟩

/-- `_kma_cache_way`: the way that holds the line of `address`, if one does. -/
def kma_cache_way (c : Context β) (address : U32) : Option (BitVec 2) :=
  Directory.find line_scheme ways c.cache (cache_set address) (cache_tag address)

/-- `_kma_cache_replacement`: an invalid way if the set has one, else the
replacement tree's choice. -/
def kma_cache_replacement (c : Context β) (set : BitVec 7) : BitVec 2 :=
  match ways.find? fun way => !(c.cache set way).valid with
  | some way => way
  | none => lru_replacement (c.cache_lru set)

/-- `_kma_cache_touch`. -/
def kma_cache_touch (set : BitVec 7) (way : BitVec 2) : Exec β Unit :=
  update fun c =>
    { c with cache_lru := fun s => if s = set then lru_touch (c.cache_lru s) way else c.cache_lru s }

/-- `_kma_cache_report`: the cache test registers show the line last used. -/
def kma_cache_report (set : BitVec 7) (way : BitVec 2) : Exec β Unit :=
  update fun c =>
    let line := c.cache set way
    let valid (entry : BitVec 2) (bit : U32) : U32 := if (c.cache set entry).valid then bit else 0
    { c with
      cpu := { c.cpu with
        tr4 := (line.tag ++ 0#11 : U32) ||| (if line.valid then 0x400 else 0) |||
          ((c.cache_lru set).setWidth 32 <<< 7) ||| valid 0 0x08 ||| valid 1 0x10 |||
          valid 2 0x20 ||| valid 3 0x40 }
      cache_read := line.data }

/-- Put a line into the cache. -/
def put_line (set : BitVec 7) (way : BitVec 2) (line : CacheLine) : Exec β Unit :=
  update fun c => { c with cache := Directory.put c.cache set way line }

/-! ## The bus -/

/-- `_kma_memory_cache_control`: the PWT and PCD signals of a bus cycle. -/
def kma_memory_cache_control (env : Env β) (c : Context β) (attributes : U32) : U32 :=
  if env.profile = .p80486sx then
    (attributes &&& 0x18) ||| (if c.cpu.cr0_cd then 0x10 else 0)
  else 0

/-- `_kma_is_reset_vector_fetch`: an instruction fetch at the processor's reset
vector, which bypasses the board's address decoding. -/
def kma_is_reset_vector_fetch (profile : Profile) (physical : U32) (byte : Nat)
    (provenance : Provenance) : Bool :=
  byte != 0 && (provenance = .instruction_fetch || provenance = .instruction_prefetch) &&
    match profile with
    | .p80286 => 0x00fffff0 ≤ physical && physical.toNat + (byte - 1) ≤ 0xffffffff
    | .p80386 | .p80486sx => 0xfffffff0 ≤ physical && physical.toNat + (byte - 1) ≤ 0xffffffff
    | _ => false

/-- `_kma_read_bus`. -/
def kma_read_bus (env : Env β) (physical : U32) (byte : Nat) (provenance : Provenance)
    (attributes : U32) : Exec β (List U8) := fun c =>
  match env.bus.read_memory physical byte provenance
      (kma_is_reset_vector_fetch env.profile physical byte provenance)
      (kma_memory_cache_control env c attributes) c.bus with
  | (some data, bus) => .ok ((List.range byte).map data) { c with bus := bus }
  | (none, bus) => .error ⟨.ce, physical⟩ { c with bus := bus }

/-- `_kma_write_bus`. -/
def kma_write_bus (env : Env β) (physical : U32) (data : List U8) (provenance : Provenance)
    (attributes : U32) : Exec β Unit := fun c =>
  match env.bus.write_memory physical data provenance
      (kma_memory_cache_control env c attributes) c.bus with
  | (true, bus) => .ok () { c with bus := bus }
  | (false, bus) => .error ⟨.ce, physical⟩ { c with bus := bus }

/-- A cache query; without the callback the answer stays as it was. -/
def query_cache_memory (env : Env β) (physical : U32) (query : CacheQuery)
    (memory : CacheMemory) : Exec β CacheMemory := fun c =>
  match env.bus.query_cache_memory with
  | none => .ok memory c
  | some callback =>
    match callback physical query c.bus with
    | some answer => .ok answer c
    | none => .error ⟨.ce, physical⟩ c

/-- `_kma_begin_memory_lock`. -/
def kma_begin_memory_lock (env : Env β) : Exec β Unit := fun c =>
  if c.memory_lock_active then .ok () c
  else if env.bus.begin_memory_lock.isSome != env.bus.complete_memory_lock.isSome then
    .error ⟨.ce, 0⟩ c
  else
    match env.bus.begin_memory_lock with
    | none => .ok () { c with memory_lock_active := true }
    | some callback =>
      match callback c.bus with
      | (true, bus) => .ok () { c with memory_lock_active := true, bus := bus }
      | (false, bus) => .error ⟨.ce, 0⟩ { c with bus := bus }

/-- `x86_core_cpu_bus_complete_memory_lock`. -/
def x86_core_cpu_bus_complete_memory_lock (env : Env β) (commit : Bool) : Exec β Unit :=
  update fun c =>
    if c.memory_lock_active then
      match env.bus.complete_memory_lock with
      | none => { c with memory_lock_active := false }
      | some callback => { c with memory_lock_active := false, bus := callback commit c.bus }
    else c

/-! ## Reading -/

/-- The address lines a profile has. -/
def physical_address (profile : Profile) (physical : U32) : U32 :=
  if !cpu_profile_has_protected_architecture profile then physical &&& 0x000fffff
  else if profile = .p80286 then physical &&& 0x00ffffff
  else physical

/-- `_kma_v30_bus_part`: an even word uses both lanes, an odd one two cycles. -/
def kma_v30_bus_part (physical : U32) (remaining : Nat) : Nat :=
  if 2 ≤ remaining && physical &&& 1 == 0 then 2 else 1

/-- The V30's loop of `_kma_read_physical` from the byte at `address` on. -/
def kma_read_v30 (env : Env β) (provenance : Provenance) (attributes : U32) :
    Nat → U32 → Nat → Exec β (List U8)
  | 0, _, _ => pure []
  | fuel + 1, address, remaining =>
    if remaining = 0 then pure []
    else do
      let part := kma_v30_bus_part (address &&& 0x000fffff) remaining
      let data ← kma_read_bus env (address &&& 0x000fffff) part provenance attributes
      let rest ← kma_read_v30 env provenance attributes fuel
        (address + BitVec.ofNat 32 part) (remaining - part)
      pure (data ++ rest)

/-- The bytes up to the end of a line, at most `remaining` of them. -/
def line_part (address : U32) (remaining : Nat) : Nat :=
  min remaining (16 - (cache_offset address).toNat)

/-- Read the whole line of `address` from the bus, put it into the set and answer
its bytes. -/
def kma_fill_line (env : Env β) (set : BitVec 7) (address : U32) (provenance : Provenance)
    (attributes : U32) : Exec β (Mem 4) := do
  let bytes ← kma_read_bus env (address &&& ~~~15) 16 provenance attributes
  let data : Mem 4 := store (fun _ => 0) 0 bytes
  let way ← query fun c => kma_cache_replacement c set
  put_line set way ⟨cache_tag address, true, data⟩
  update fun c => { c with cache_fill := data }
  kma_cache_touch set way
  kma_cache_report set way
  pure data

/-- A hit: the bytes come from the line, which is marked as used. -/
def kma_read_line (set : BitVec 7) (way : BitVec 2) (offset : BitVec 4) (part : Nat)
    (provenance : Provenance) : Exec β (List U8) := do
  let data ← query fun c => (c.cache set way).data
  kma_cache_touch set way
  (if provenance = .data ∨ provenance = .page_table_read then kma_cache_report set way
    else pure ())
  pure (load data offset part)

/-- A miss: the line is filled if the board allows it and the page and CR0 do, and
otherwise the bytes come straight from the bus. -/
def kma_read_missed (env : Env β) (physical : U32) (kind : CacheQuery) (memory : CacheMemory)
    (part : Nat) (provenance : Provenance) (attributes : U32) : Exec β (List U8) := do
  let cpu ← get_cpu
  let fillable := !cpu.cr0_cd && attributes &&& 0x10 == 0
  let probed ← (if kind = .lookup ∧ fillable = true then
      query_cache_memory env physical .fill_probe memory
    else pure memory)
  if probed.fill_enabled = true ∧ fillable = true then do
    let data ← kma_fill_line env (cache_set memory.address) probed.address provenance attributes
    pure (load data (cache_offset memory.address) part)
  else kma_read_bus env probed.address part provenance attributes

/-- One turn of the 80486SX loop of `_kma_read_physical`: the bytes of the operand
in the line of `physical`. Eligibility affects fills, not hits. -/
def kma_read_part (env : Env β) (physical : U32) (remaining : Nat) (provenance : Provenance)
    (attributes : U32) : Exec β (List U8) := do
  let kind := if kma_is_reset_vector_fetch env.profile physical 1 provenance
    then CacheQuery.reset_lookup else .lookup
  let memory ← query_cache_memory env physical kind ⟨physical, false⟩
  let part := line_part memory.address remaining
  let locked ← query fun c => c.memory_lock_active
  if locked = true then kma_read_bus env memory.address part provenance attributes
  else do
    let way ← query fun c => kma_cache_way c memory.address
    match way with
    | some way =>
      kma_read_line (cache_set memory.address) way (cache_offset memory.address) part provenance
    | none => kma_read_missed env physical kind memory part provenance attributes

/-- The 80486SX loop of `_kma_read_physical` from the byte at `physical` on. -/
def kma_read_486 (env : Env β) (provenance : Provenance) (attributes : U32) :
    Nat → U32 → Nat → Exec β (List U8)
  | 0, _, _ => pure []
  | fuel + 1, physical, remaining =>
    if remaining = 0 then pure []
    else do
      let data ← kma_read_part env physical remaining provenance attributes
      let rest ← kma_read_486 env provenance attributes fuel
        (physical + BitVec.ofNat 32 data.length) (remaining - data.length)
      pure (data ++ rest)

/-- `_kma_read_physical`. -/
def kma_read_physical (env : Env β) (physical : U32) (byte : Nat) (provenance : Provenance)
    (attributes : U32) : Exec β (List U8) :=
  match env.profile with
  | .v30 =>
    kma_read_v30 env provenance attributes byte (physical_address env.profile physical) byte
  | .p80486sx => kma_read_486 env provenance attributes byte physical byte
  | _ => kma_read_bus env (physical_address env.profile physical) byte provenance attributes

/-! ## Writing -/

/-- The V30's loop of `_kma_write_physical`. -/
def kma_write_v30 (env : Env β) (provenance : Provenance) (attributes : U32) :
    Nat → U32 → List U8 → Exec β Unit
  | 0, _, _ => pure ()
  | fuel + 1, address, data =>
    if data = [] then pure ()
    else do
      let part := kma_v30_bus_part (address &&& 0x000fffff) data.length
      kma_write_bus env (address &&& 0x000fffff) (data.take part) provenance attributes
      kma_write_v30 env provenance attributes fuel (address + BitVec.ofNat 32 part)
        (data.drop part)

/-- The bus half of a cached write: a line whose bus write failed is given up. -/
def kma_write_through (env : Env β) (address : U32) (way : Option (BitVec 2)) (data : List U8)
    (provenance : Provenance) (attributes : U32) : Exec β Unit := do
  let written ← attempt (kma_write_bus env address data provenance attributes)
  match written with
  | .ok _ => pure ()
  | .error fault => do
    (match way with
      | some way => do
        let line ← query fun c => c.cache (cache_set address) way
        put_line (cache_set address) way { line with valid := false }
      | none => pure ())
    throw fault

/-- The line half of a cached write. -/
def kma_write_line (set : BitVec 7) (way : BitVec 2) (offset : BitVec 4) (data : List U8) :
    Exec β Unit := do
  let line ← query fun c => c.cache set way
  put_line set way { line with data := store line.data offset data }
  kma_cache_touch set way
  kma_cache_report set way

/-- One turn of the 80486SX loop of `_kma_write_physical`: the bytes of `data` that
lie in the line of `physical`; answers how many there were. -/
def kma_write_part (env : Env β) (physical : U32) (data : List U8) (provenance : Provenance)
    (attributes : U32) : Exec β Nat := do
  let memory ← query_cache_memory env physical .lookup ⟨physical, false⟩
  let part := line_part memory.address data.length
  let way ← query fun c => kma_cache_way c memory.address
  let through ← query fun c => c.memory_lock_active || way.isNone || !c.cpu.cr0_nw
  (if through = true then
      kma_write_through env memory.address way (data.take part) provenance attributes
    else pure ())
  (match way with
    | some way =>
      kma_write_line (cache_set memory.address) way (cache_offset memory.address) (data.take part)
    | none => pure ())
  pure part

/-- The 80486SX loop of `_kma_write_physical`. -/
def kma_write_486 (env : Env β) (provenance : Provenance) (attributes : U32) :
    Nat → U32 → List U8 → Exec β Unit
  | 0, _, _ => pure ()
  | fuel + 1, physical, data =>
    if data = [] then pure ()
    else do
      let part ← kma_write_part env physical data provenance attributes
      kma_write_486 env provenance attributes fuel (physical + BitVec.ofNat 32 part)
        (data.drop part)

/-- `_kma_write_physical`. -/
def kma_write_physical (env : Env β) (physical : U32) (data : List U8) (provenance : Provenance)
    (attributes : U32) : Exec β Unit :=
  match env.profile with
  | .v30 =>
    kma_write_v30 env provenance attributes data.length
      (physical_address env.profile physical) data
  | .p80486sx => kma_write_486 env provenance attributes data.length physical data
  | _ => kma_write_bus env (physical_address env.profile physical) data provenance attributes

/-! ## What accesses leave alone

A physical access changes the board, the cache and the cache test registers, and
nothing else, however it ends. -/

section Core

/-- The frame of the physical accesses. -/
abbrev core_frame : Frame (Context β) := Frame.same Context.core

theorem kma_read_bus_core (env : Env β) (physical : U32) (byte : Nat) (p : Provenance)
    (attributes : U32) :
    Respects core_frame (kma_read_bus env physical byte p attributes) := by
  refine ⟨fun c => ?_⟩
  unfold final kma_read_bus
  cases h : env.bus.read_memory physical byte p
    (kma_is_reset_vector_fetch env.profile physical byte p)
    (kma_memory_cache_control env c attributes) c.bus with
  | mk data bus => cases data <;> rfl

theorem kma_write_bus_core (env : Env β) (physical : U32) (data : List U8) (p : Provenance)
    (attributes : U32) :
    Respects core_frame (kma_write_bus env physical data p attributes) := by
  refine ⟨fun c => ?_⟩
  unfold final kma_write_bus
  cases h : env.bus.write_memory physical data p
    (kma_memory_cache_control env c attributes) c.bus with
  | mk ok bus => cases ok <;> rfl

/-- A cache query changes nothing. -/
theorem query_cache_memory_same (env : Env β) (physical : U32) (kind : CacheQuery)
    (memory : CacheMemory) :
    Respects (Frame.same fun c : Context β => c)
      (query_cache_memory env physical kind memory) := by
  refine ⟨fun c => ?_⟩
  unfold final query_cache_memory
  cases env.bus.query_cache_memory with
  | none => rfl
  | some callback =>
    cases h : callback physical kind c.bus with
    | none => simp only [h]; rfl
    | some answer => simp only [h]; rfl

theorem query_cache_memory_core (env : Env β) (physical : U32) (kind : CacheQuery)
    (memory : CacheMemory) :
    Respects core_frame (query_cache_memory env physical kind memory) :=
  (query_cache_memory_same env physical kind memory).mono fun _ _ h => congrArg Context.core h

theorem kma_cache_touch_core (set : BitVec 7) (way : BitVec 2) :
    Respects core_frame (kma_cache_touch (β := β) set way) :=
  Respects.of_update fun _ => rfl

theorem kma_cache_report_core (set : BitVec 7) (way : BitVec 2) :
    Respects core_frame (kma_cache_report (β := β) set way) :=
  Respects.of_update fun _ => rfl

theorem put_line_core (set : BitVec 7) (way : BitVec 2) (line : CacheLine) :
    Respects core_frame (put_line (β := β) set way line) :=
  Respects.of_update fun _ => rfl

theorem kma_fill_line_core (env : Env β) (set : BitVec 7) (address : U32) (p : Provenance)
    (attributes : U32) : Respects core_frame (kma_fill_line env set address p attributes) := by
  unfold kma_fill_line
  refine (kma_read_bus_core ..).bind fun bytes => ?_
  refine (Respects.of_query _).bind fun way => ?_
  refine (put_line_core ..).bind fun _ => ?_
  refine (Respects.of_update fun _ => rfl).bind fun _ => ?_
  refine (kma_cache_touch_core ..).bind fun _ => ?_
  exact (kma_cache_report_core ..).bind fun _ => Respects.of_pure _

theorem kma_read_part_core (env : Env β) (physical : U32) (remaining : Nat) (p : Provenance)
    (attributes : U32) :
    Respects core_frame (kma_read_part env physical remaining p attributes) := by
  unfold kma_read_part
  refine (query_cache_memory_core ..).bind fun memory => ?_
  refine (Respects.of_query _).bind fun locked => ?_
  refine Respects.ite (kma_read_bus_core ..) ((Respects.of_query _).bind fun way => ?_)
  cases way with
  | some way =>
    refine (Respects.of_query _).bind fun data => ?_
    refine (kma_cache_touch_core ..).bind fun _ => ?_
    refine Respects.bind ?_ fun _ => Respects.of_pure _
    exact Respects.ite (kma_cache_report_core ..) (Respects.of_pure _)
  | none =>
    refine (Respects.of_query _).bind fun cpu => ?_
    refine Respects.bind ?_ fun probed => ?_
    · exact Respects.ite (query_cache_memory_core ..) (Respects.of_pure _)
    · refine Respects.ite ?_ (kma_read_bus_core ..)
      exact (kma_fill_line_core ..).bind fun data => Respects.of_pure _

theorem kma_read_486_core (env : Env β) (p : Provenance) (attributes : U32) (fuel : Nat)
    (physical : U32) (remaining : Nat) :
    Respects core_frame (kma_read_486 env p attributes fuel physical remaining) := by
  induction fuel generalizing physical remaining with
  | zero => exact Respects.of_pure _
  | succ fuel ih =>
    refine Respects.ite (Respects.of_pure _) ((kma_read_part_core ..).bind fun data => ?_)
    exact (ih _ _).bind fun rest => Respects.of_pure _

theorem kma_read_v30_core (env : Env β) (p : Provenance) (attributes : U32) (fuel : Nat)
    (address : U32) (remaining : Nat) :
    Respects core_frame (kma_read_v30 env p attributes fuel address remaining) := by
  induction fuel generalizing address remaining with
  | zero => exact Respects.of_pure _
  | succ fuel ih =>
    refine Respects.ite (Respects.of_pure _) ((kma_read_bus_core ..).bind fun data => ?_)
    exact (ih _ _).bind fun rest => Respects.of_pure _

theorem kma_read_physical_core (env : Env β) (physical : U32) (byte : Nat) (p : Provenance)
    (attributes : U32) :
    Respects core_frame (kma_read_physical env physical byte p attributes) := by
  unfold kma_read_physical
  split
  · exact kma_read_v30_core ..
  · exact kma_read_486_core ..
  · exact kma_read_bus_core ..

theorem kma_write_through_core (env : Env β) (address : U32) (way : Option (BitVec 2))
    (data : List U8) (p : Provenance) (attributes : U32) :
    Respects core_frame (kma_write_through env address way data p attributes) := by
  refine (kma_write_bus_core ..).attempt.bind fun written => ?_
  cases written with
  | ok _ => exact Respects.of_pure _
  | error fault =>
    refine Respects.bind ?_ fun _ => Respects.of_throw _
    cases way with
    | some way => exact (Respects.of_query _).bind fun line => put_line_core ..
    | none => exact Respects.of_pure _

theorem kma_write_line_core (set : BitVec 7) (way : BitVec 2) (offset : BitVec 4)
    (data : List U8) : Respects core_frame (kma_write_line (β := β) set way offset data) := by
  refine (Respects.of_query _).bind fun line => (put_line_core ..).bind fun _ => ?_
  exact (kma_cache_touch_core ..).bind fun _ => kma_cache_report_core ..

theorem kma_write_part_core (env : Env β) (physical : U32) (data : List U8) (p : Provenance)
    (attributes : U32) :
    Respects core_frame (kma_write_part env physical data p attributes) := by
  refine (query_cache_memory_core ..).bind fun memory => ?_
  refine (Respects.of_query _).bind fun way => (Respects.of_query _).bind fun through => ?_
  refine Respects.bind ?_ fun _ => Respects.bind ?_ fun _ => Respects.of_pure _
  · exact Respects.ite (kma_write_through_core ..) (Respects.of_pure _)
  · cases way with
    | some way => exact kma_write_line_core ..
    | none => exact Respects.of_pure _

theorem kma_write_486_core (env : Env β) (p : Provenance) (attributes : U32) (fuel : Nat)
    (physical : U32) (data : List U8) :
    Respects core_frame (kma_write_486 env p attributes fuel physical data) := by
  induction fuel generalizing physical data with
  | zero => exact Respects.of_pure _
  | succ fuel ih =>
    exact Respects.ite (Respects.of_pure _) ((kma_write_part_core ..).bind fun part => ih _ _)

theorem kma_write_v30_core (env : Env β) (p : Provenance) (attributes : U32) (fuel : Nat)
    (address : U32) (data : List U8) :
    Respects core_frame (kma_write_v30 env p attributes fuel address data) := by
  induction fuel generalizing address data with
  | zero => exact Respects.of_pure _
  | succ fuel ih =>
    exact Respects.ite (Respects.of_pure _) ((kma_write_bus_core ..).bind fun _ => ih _ _)

theorem kma_write_physical_core (env : Env β) (physical : U32) (data : List U8) (p : Provenance)
    (attributes : U32) :
    Respects core_frame (kma_write_physical env physical data p attributes) := by
  unfold kma_write_physical
  split
  · exact kma_write_v30_core ..
  · exact kma_write_486_core ..
  · exact kma_write_bus_core ..

end Core

/-! ## Invalidation -/

/-- `_kma_cache_invalidate`: no line stays valid; tags and data stay. -/
def kma_cache_invalidate : Exec β Unit :=
  update fun c =>
    { c with
      cache := fun set way => { c.cache set way with valid := false }
      cache_lru := fun _ => 0 }

/-- The end of a reported range, cut off at 4 GiB. -/
def range_end (physical : U32) (bytes : Nat) : Nat :=
  physical.toNat + min bytes (0x100000000 - physical.toNat)

/-- One line address of the first strategy of `_kma_invalidate_cache_range`. -/
def drop_line (cache : BitVec 7 → BitVec 2 → CacheLine) (address : U32) :
    BitVec 7 → BitVec 2 → CacheLine := fun set way =>
  if set = cache_set address ∧ (cache set way).tag = cache_tag address then
    { cache set way with valid := false }
  else cache set way

/-- The line addresses the first strategy walks over. -/
def range_lines (physical : U32) (bytes : Nat) : List U32 :=
  let first := (physical &&& ~~~15).toNat
  (List.range ((range_end physical bytes - first + 15) / 16)).map fun i =>
    BitVec.ofNat 32 (first + 16 * i)

/-- `_kma_invalidate_cache_range`: a short range by its lines, a long one by
looking at every line. -/
def kma_invalidate_cache_range (env : Env β) (physical : U32) (bytes : Nat) : Exec β Unit :=
  update fun c =>
    if bytes = 0 ∨ env.profile ≠ .p80486sx then c
    else if (range_end physical bytes - (physical &&& ~~~15).toNat) / 16 < 128 then
      { c with cache := (range_lines physical bytes).foldl drop_line c.cache }
    else
      { c with cache := fun set way =>
          let line := c.cache set way
          let address := (line_address line.tag set).toNat
          if address < range_end physical bytes ∧ physical.toNat < address + 16 then
            { line with valid := false }
          else line }

/-- `x86_core_cpu_signal_cache_write`: another master has written. -/
def x86_core_cpu_signal_cache_write (env : Env β) (physical : U32) (bytes : Nat) : Exec β Unit := do
  let cpu ← get_cpu
  if cpu.cr0_nw = true then pure () else kma_invalidate_cache_range env physical bytes

/-- `x86_core_cpu_execution_invalidate_prefetch`. Outside an instruction it also
gives up a memory lock that was left open. -/
def x86_core_cpu_execution_invalidate_prefetch (env : Env β) : Exec β Unit := do
  let active ← query fun c => c.timing_bus_active
  (if active = true then pure () else x86_core_cpu_bus_complete_memory_lock env false)
  update fun c => { c with prefetch_count := 0, prefetch_valid := false }

/-- `x86_core_cpu_execution_invalidate_memory_view`. -/
def x86_core_cpu_execution_invalidate_memory_view (env : Env β) (physical : U32) (bytes : Nat) :
    Exec β Unit :=
  if bytes = 0 then pure ()
  else do
    kma_invalidate_cache_range env physical bytes
    x86_core_cpu_execution_invalidate_prefetch env

end Nxvm.Cpu
