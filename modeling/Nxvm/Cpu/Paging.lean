/-
Paging: the two-level page walk, the translation buffer of the 80486SX, and the
linear and logical accesses built on them (`_kma_tlb_way` to `_kma_test_access`).

A linear access first prepares the translation of every page it touches and only
then commits them, so that a fault on the second page is found before the Accessed
and Dirty bits of the first are set. The directory's own Accessed bit is set while
preparing.
-/
import Nxvm.Cpu.Physical
import Nxvm.Cpu.Segment

set_option autoImplicit false

namespace Nxvm.Cpu

open Nxvm.Lib Nxvm.Lib.Exec Nxvm.Lib.Memory

variable {β : Type}

/-! ## Linear addresses and page entries -/

/-- `VCPU_CR3_BASE` and `VCPU_PGENTRY_BASE`: the page number. -/
def VCPU_PGENTRY_BASE : U32 := 0xfffff000

def VCPU_PGENTRY_D : U32 := 0x40
def VCPU_PGENTRY_A : U32 := 0x20
def VCPU_PGENTRY_US : U32 := 0x04
def VCPU_PGENTRY_RW : U32 := 0x02
def VCPU_PGENTRY_P : U32 := 0x01

/-- `VCPU_PAGESIZE`. -/
def VCPU_PAGESIZE : Nat := 0x1000

def linear_dir (linear : U32) : U32 := (linear &&& 0xffc00000) >>> 22
def linear_page (linear : U32) : U32 := (linear &&& 0x003ff000) >>> 12
def linear_offset (linear : U32) : U32 := linear &&& 0x00000fff

/-- `_GetPageEntry_Base`. -/
def page_entry_base (entry : U32) : U32 := entry &&& VCPU_PGENTRY_BASE

/-- `_MakePageFaultErrorCode`. -/
def make_page_fault_error_code (present write user : Bool) : U32 :=
  (if present then 1 else 0) ||| (if write then 2 else 0) ||| (if user then 4 else 0)

/-- Load CR2 and raise #PF. -/
def page_fault {α : Type} (linear : U32) (present write user : Bool) : Exec β α := do
  set_cpu fun cpu => { cpu with cr2 := linear }
  throw ⟨.pf, make_page_fault_error_code present write user⟩

/-- What a page entry of the 80486SX forbids: user accesses to supervisor pages, and
writes to read-only pages by a user or with CR0.WP set. -/
def page_denied (entry : U32) (write user wp : Bool) : Bool :=
  (user && !bit_is_set entry VCPU_PGENTRY_US) ||
    (write && (user || wp) && !bit_is_set entry VCPU_PGENTRY_RW)

/-! ## The translation buffer -/

/-- The set of a page. -/
def tlb_set (linear : U32) : BitVec 3 := linear.extractLsb' 12 3

/-- Entries are found by their page. -/
def tlb_scheme : Directory.Scheme TlbEntry U32 := ⟨TlbEntry.valid, TlbEntry.linear⟩

/-- `x86_core_cpu_execution_invalidate_tlb`. -/
def x86_core_cpu_execution_invalidate_tlb : Exec β Unit :=
  update fun c => { c with tlb := fun set way => { c.tlb set way with valid := false } }

/-- `_kma_tlb_way`. -/
def kma_tlb_way (c : Context β) (linear : U32) : Option (BitVec 2) :=
  Directory.find tlb_scheme ways c.tlb (tlb_set linear) (linear &&& VCPU_PGENTRY_BASE)

/-- `_kma_tlb_fill`: the page's own way if it has one, else the replacement tree's
choice. -/
def kma_tlb_fill (linear physical attributes : U32) : Exec β Unit :=
  update fun c =>
    let set := tlb_set linear
    let way := (kma_tlb_way c linear).getD (lru_replacement (c.tlb_lru set))
    { c with
      tlb := Directory.put c.tlb set way
        ⟨linear &&& VCPU_PGENTRY_BASE, physical &&& VCPU_PGENTRY_BASE, attributes, true⟩
      tlb_lru := fun s => if s = set then lru_touch (c.tlb_lru s) way else c.tlb_lru s }

/-- The loop of `INVLPG_M`: every entry of the page is made invalid. -/
def kma_tlb_invalidate_page (linear : U32) : Exec β Unit :=
  update fun c =>
    { c with
      tlb := fun set way =>
        let entry := c.tlb set way
        if set = tlb_set linear ∧ entry.linear = linear &&& VCPU_PGENTRY_BASE then
          { entry with valid := false }
        else entry }

/-! ## One translation -/

/-- `t_kma_linear_translation`. -/
structure LinearTranslation where
  physical : U32
  linear : U32
  attributes : U32
  ppde : U32
  ppte : U32
  cpde : U32
  cpte : U32
  paging : Bool
  pde_accessed : Bool
  vpl : Level
  tlb_hit : Bool
  deriving DecidableEq, Repr

/-- The cleared structure a translation starts from, for `linear` at level `vpl`. -/
def LinearTranslation.start (linear : U32) (vpl : Level) : LinearTranslation where
  physical := 0
  linear := linear
  attributes := 0
  ppde := 0
  ppte := 0
  cpde := 0
  cpte := 0
  paging := false
  pde_accessed := false
  vpl := vpl
  tlb_hit := false

/-- The bits an access sets in an entry: Accessed, and Dirty in the table entry of a
page that is written. -/
def required_bits (directory write : Bool) : U32 := if directory || !write then 0x20 else 0x60

/-- The locked part of `_kma_update_page_entry`: read the entry again from the bus,
check it, and write it back with its new bits to the bus and into its line. -/
def kma_update_locked (env : Env β) (translation : LinearTranslation) (directory write : Bool)
    (address : U32) (way : Option (BitVec 2)) (attributes : U32) : Exec β U32 := do
  let user := translation.vpl == 3
  let required := required_bits directory write
  let bytes ← kma_read_bus env address 4 .page_table_read attributes
  let entry := word_of 32 bytes
  let cpu ← get_cpu
  if bit_is_set entry VCPU_PGENTRY_P = false then
    page_fault translation.linear false write user
  else if directory = false ∧ page_denied entry write user cpu.cr0_wp = true then
    page_fault translation.linear true write user
  else if entry &&& required = required then pure entry
  else do
    kma_write_through env address way (bytes_of 4 (entry ||| required)) .page_table_write attributes
    (match way with
      | some way =>
        kma_write_line (cache_set address) way (cache_offset address)
          (bytes_of 4 (entry ||| required))
      | none => pure ())
    pure (entry ||| required)

/-- `_kma_update_page_entry`: the locked second read, not a cached first value, owns
the update of the Accessed and Dirty bits. -/
def kma_update_page_entry (env : Env β) (translation : LinearTranslation)
    (directory write : Bool) : Exec β LinearTranslation := do
  let cpu ← get_cpu
  let physical := if directory then translation.ppde else translation.ppte
  let attributes := if directory then cpu.cr3 else translation.cpde
  let owns_lock ← query fun c => !c.memory_lock_active
  let memory ← query_cache_memory env physical .lookup ⟨physical, false⟩
  let way ← query fun c => kma_cache_way c memory.address
  kma_begin_memory_lock env
  let updated ← attempt
    (kma_update_locked env translation directory write memory.address way attributes)
  (if owns_lock = true then x86_core_cpu_bus_complete_memory_lock env updated.toBool
    else pure ())
  let entry ← of_except updated
  pure (if directory then { translation with cpde := entry }
    else { translation with cpte := entry })

/-- The check of a page entry during the walk. The 80386 checks user accesses only. -/
def kma_check_page_entry (env : Env β) (linear : U32) (write : Bool) (vpl : Level)
    (entry : U32) : Exec β Unit := do
  let cpu ← get_cpu
  if vpl = 3 ∨ env.profile = .p80486sx ∧ cpu.cr0_wp = true then
    if vpl = 3 ∧ bit_is_set entry VCPU_PGENTRY_US = false then
      page_fault linear true write true
    else if write = true ∧ bit_is_set entry VCPU_PGENTRY_RW = false then
      page_fault linear true true (vpl == 3)
    else pure ()
  else pure ()

/-- Set the directory entry's Accessed bit while walking: the 80486SX under lock and
only if it is clear, the 80386 always. -/
def kma_access_directory (env : Env β) (linear : U32) (write : Bool) (vpl : Level)
    (ppde cpde : U32) : Exec β U32 := do
  let cpu ← get_cpu
  if env.profile = .p80486sx then
    if cpde &&& 0x20 = 0 then do
      let updated ← kma_update_page_entry env
        { LinearTranslation.start linear vpl with ppde := ppde, cpde := cpde } true write
      pure updated.cpde
    else pure cpde
  else do
    kma_write_physical env ppde (bytes_of 4 (cpde ||| VCPU_PGENTRY_A)) .page_table_write cpu.cr3
    pure (cpde ||| VCPU_PGENTRY_A)

/-- Read the page entry at `address`, which must be present. -/
def kma_read_page_entry (env : Env β) (linear : U32) (write : Bool) (vpl : Level)
    (address attributes : U32) : Exec β U32 := do
  let bytes ← kma_read_physical env address 4 .page_table_read attributes
  (if bit_is_set (word_of 32 bytes) VCPU_PGENTRY_P = false then
      page_fault linear false write (vpl == 3)
    else pure ())
  pure (word_of 32 bytes)

/-- The combined attributes of a page: cache control and Dirty from the table entry,
permissions from both entries. -/
def page_attributes (cpde cpte : U32) : U32 := (cpte &&& 0x58) ||| ((cpde &&& cpte) &&& 6)

/-- The walk of `_kma_prepare_physical_linear`. -/
def kma_walk_physical_linear (env : Env β) (linear : U32) (write : Bool) (vpl : Level) :
    Exec β LinearTranslation := do
  let cpu ← get_cpu
  let ppde := (cpu.cr3 &&& VCPU_PGENTRY_BASE) + linear_dir linear * 4
  let read ← kma_read_page_entry env linear write vpl ppde cpu.cr3
  let cpde ← kma_access_directory env linear write vpl ppde read
  kma_check_page_entry env linear write vpl cpde
  let ppte := page_entry_base cpde + linear_page linear * 4
  let cpte ← kma_read_page_entry env linear write vpl ppte cpde
  kma_check_page_entry env linear write vpl cpte
  pure
    { LinearTranslation.start linear vpl with
      physical := page_entry_base cpte + linear_offset linear
      attributes := page_attributes cpde cpte
      ppde := ppde
      ppte := ppte
      cpde := cpde
      cpte := cpte
      paging := true
      pde_accessed := true }

/-- The look into the translation buffer: an entry that may serve the access, or none.
A first write to a clean page needs the walk, which sets its Dirty bit. -/
def kma_tlb_lookup (linear : U32) (write : Bool) (vpl : Level) : Exec β (Option TlbEntry) := do
  let cpu ← get_cpu
  let entry ← query fun c => (kma_tlb_way c linear).map (c.tlb (tlb_set linear))
  match entry with
  | none => pure none
  | some entry =>
    if page_denied entry.attributes write (vpl == 3) cpu.cr0_wp = true then
      page_fault linear true write (vpl == 3)
    else if write = true ∧ entry.attributes &&& 0x40 = 0 then pure none
    else pure (some entry)

/-- `_kma_prepare_physical_linear`: translate without publishing table effects, the
directory's Accessed bit apart. -/
def kma_prepare_physical_linear (env : Env β) (linear : U32) (byte : Nat) (write : Bool)
    (vpl : Level) : Exec β LinearTranslation :=
  if VCPU_PAGESIZE - byte < (linear_offset linear).toNat then throw impossible
  else do
    let cpu ← get_cpu
    if cpu.is_paging = false then pure { LinearTranslation.start linear vpl with physical := linear }
    else do
      let hit ← (if env.profile = .p80486sx then kma_tlb_lookup linear write vpl else pure none)
      match hit with
      | some entry =>
        pure
          { LinearTranslation.start linear vpl with
            physical := entry.physical + linear_offset linear
            attributes := entry.attributes
            paging := true
            tlb_hit := true }
      | none => kma_walk_physical_linear env linear write vpl

/-- The table entry's Accessed and Dirty bits: the 80486SX sets them under lock and only
if one is missing, the 80386 always writes the entry back. -/
def kma_access_table (env : Env β) (translation : LinearTranslation) (write : Bool) :
    Exec β LinearTranslation :=
  if env.profile = .p80486sx then
    if translation.cpte &&& required_bits false write = required_bits false write then
      pure translation
    else do
      let updated ← kma_update_page_entry env translation false write
      pure
        { updated with
          physical := page_entry_base updated.cpte + linear_offset updated.linear
          attributes := page_attributes updated.cpde updated.cpte }
  else do
    let entry := translation.cpte ||| VCPU_PGENTRY_A ||| (if write then VCPU_PGENTRY_D else 0)
    kma_write_physical env translation.ppte (bytes_of 4 entry) .page_table_write translation.cpde
    pure { translation with cpte := entry }

/-- `_kma_commit_physical_linear`: publish a prepared translation. The directory entry
was already marked while preparing. -/
def kma_commit_physical_linear (env : Env β) (translation : LinearTranslation) (write : Bool) :
    Exec β LinearTranslation :=
  if translation.paging = false then pure translation
  else if translation.tlb_hit = true then do
    kma_tlb_fill translation.linear translation.physical translation.attributes
    pure translation
  else do
    let committed ← kma_access_table env translation write
    (if env.profile = .p80486sx then
        kma_tlb_fill committed.linear committed.physical
          (committed.attributes ||| (if write then 0x40 else 0))
      else pure ())
    pure committed

/-- What a translation answers: a physical address, and the attributes of its page. -/
structure Page where
  physical : U32
  attributes : U32
  deriving DecidableEq, Repr

/-- `_kma_physical_linear`: one access inside a page. -/
def kma_physical_linear (env : Env β) (linear : U32) (byte : Nat) (write : Bool) (vpl : Level) :
    Exec β Page := do
  let translation ← kma_prepare_physical_linear env linear byte write vpl
  let committed ← kma_commit_physical_linear env translation write
  pure ⟨committed.physical, committed.attributes⟩

/-! ## Linear accesses

`_kma_read_linear`, `_kma_write_linear` and `_kma_test_linear` begin with the same
translation and differ in what they transfer. -/

/-- The bytes of an access that lie in its first page, when it continues in the next. -/
def first_part (linear : U32) : Nat := VCPU_PAGESIZE - (linear_offset linear).toNat

/-- The first address of the next page. -/
def next_page (linear : U32) : U32 := linear + BitVec.ofNat 32 (first_part linear)

/-- The access continues in the next page. -/
def crosses_page (linear : U32) (byte : Nat) : Bool :=
  VCPU_PAGESIZE - byte < (linear_offset linear).toNat

/-- The page an access begins in, and the page it continues in if it crosses. -/
structure Pages where
  first : Page
  second : Option Page
  deriving DecidableEq, Repr

/-- The two translations of an access that crosses a page: both are prepared before
either is committed. -/
def kma_split_linear (env : Env β) (linear : U32) (byte : Nat) (write : Bool) (vpl : Level) :
    Exec β (Page × Page) := do
  let translation1 ← kma_prepare_physical_linear env linear (first_part linear) write vpl
  let translation2 ← kma_prepare_physical_linear env (next_page linear)
    (byte - first_part linear) write vpl
  let committed1 ← kma_commit_physical_linear env translation1 write
  let committed2 ← kma_commit_physical_linear env translation2 write
  pure (⟨committed1.physical, committed1.attributes⟩, ⟨committed2.physical, committed2.attributes⟩)

/-- The translation of an access. -/
def kma_translate_linear (env : Env β) (linear : U32) (byte : Nat) (write : Bool) (vpl : Level) :
    Exec β Pages :=
  if crosses_page linear byte = true then do
    let pages ← kma_split_linear env linear byte write vpl
    pure ⟨pages.1, some pages.2⟩
  else do
    let page ← kma_physical_linear env linear byte write vpl
    pure ⟨page, none⟩

/-- The transfer of `_kma_read_linear`. -/
def kma_read_pages (env : Env β) (linear : U32) (byte : Nat) (pages : Pages) :
    Exec β (List U8) := do
  let provenance ← query fun c => c.memory_access_provenance
  match pages.second with
  | none => kma_read_physical env pages.first.physical byte provenance pages.first.attributes
  | some second => do
    let data1 ← kma_read_physical env pages.first.physical (first_part linear) provenance
      pages.first.attributes
    let data2 ← kma_read_physical env second.physical (byte - first_part linear) provenance
      second.attributes
    pure (data1 ++ data2)

/-- `_kma_read_linear`. -/
def kma_read_linear (env : Env β) (linear : U32) (byte : Nat) (vpl : Level) :
    Exec β (List U8) := do
  let pages ← kma_translate_linear env linear byte false vpl
  kma_read_pages env linear byte pages

/-- The transfer of `_kma_write_linear`. -/
def kma_write_pages (env : Env β) (linear : U32) (data : List U8) (pages : Pages) :
    Exec β Unit := do
  let provenance ← query fun c => c.memory_access_provenance
  match pages.second with
  | none => kma_write_physical env pages.first.physical data provenance pages.first.attributes
  | some second => do
    kma_write_physical env pages.first.physical (data.take (first_part linear)) provenance
      pages.first.attributes
    kma_write_physical env second.physical (data.drop (first_part linear)) provenance
      second.attributes

/-- `_kma_write_linear`. -/
def kma_write_linear (env : Env β) (linear : U32) (data : List U8) (vpl : Level) :
    Exec β Unit := do
  let pages ← kma_translate_linear env linear data.length true vpl
  kma_write_pages env linear data pages

/-- `_kma_test_linear`: translate and publish, but transfer nothing. -/
def kma_test_linear (env : Env β) (linear : U32) (byte : Nat) (write : Bool) (vpl : Level) :
    Exec β Unit := do
  let _ ← kma_translate_linear env linear byte write vpl
  pure ()

/-! ## Logical accesses -/

/-- `_kma_real_legacy_segment_wrap`: an operand of the 8086 family that continues at
offset 0 of its segment. -/
def kma_real_legacy_segment_wrap (env : Env β) (c : Context β) (offset : U32) (byte : Nat) :
    Bool :=
  !c.cpu.cr0_pe &&
    (env.profile = .p8086 || env.profile = .p8088 || env.profile = .p80186 ||
      (env.profile = .v30 && (c.memory_access_provenance = .instruction_fetch ||
        c.memory_access_provenance = .instruction_prefetch))) &&
    offset ≤ 0xffff && byte != 0 && 0xffff - offset.toNat < byte - 1

/-- The bytes up to the end of a wrapping segment. -/
def wrap_part (offset : U32) : Nat := 0x10000 - offset.toNat

/-- `_kma_check_alignment`. -/
def kma_check_alignment (env : Env β) (linear : U32) (byte : Nat) (vpl : Level) (force : Bool) :
    Exec β Unit := do
  let cpu ← get_cpu
  raise_if (decide (env.profile = .p80486sx) && cpu.cr0_pe && !force && vpl == 3 &&
      bit_is_set cpu.eflags VCPU_EFLAGS_AC && bit_is_set cpu.cr0 VCPU_CR0_AM &&
      (byte == 2 || byte == 4 || byte == 8) && linear &&& BitVec.ofNat 32 (byte - 1) != 0)
    ⟨.ac, 0⟩

/-- `_kma_linear_logical` as a step: it reads the mode and changes nothing. -/
def linear_logical (env : Env β) (r : Sreg) (offset : U32) (byte : Nat) (write force : Bool) :
    Exec β U32 := do
  let cpu ← get_cpu
  of_except (kma_linear_logical env.profile cpu r offset byte write force)

/-- The part of `_kma_read_logical` after the segment wrap. -/
def kma_read_segment (env : Env β) (r : Sreg) (offset : U32) (byte : Nat) (vpl : Level)
    (force : Bool) : Exec β (List U8) := do
  let linear ← linear_logical env r offset byte false force
  kma_check_alignment env linear byte vpl force
  kma_read_linear env linear byte vpl

/-- `_kma_read_logical`. -/
def kma_read_logical (env : Env β) (r : Sreg) (offset : U32) (byte : Nat) (vpl : Level)
    (force : Bool) : Exec β (List U8) := do
  let wrap ← query fun c => kma_real_legacy_segment_wrap env c offset byte
  if wrap = true then do
    let data1 ← kma_read_segment env r offset (wrap_part offset) vpl force
    let data2 ← kma_read_segment env r 0 (byte - wrap_part offset) vpl force
    pure (data1 ++ data2)
  else kma_read_segment env r offset byte vpl force

/-- The part of `_kma_write_logical` after the segment wrap. -/
def kma_write_segment (env : Env β) (r : Sreg) (offset : U32) (data : List U8) (vpl : Level)
    (force : Bool) : Exec β Unit := do
  let linear ← linear_logical env r offset data.length true force
  kma_check_alignment env linear data.length vpl force
  kma_write_linear env linear data vpl

/-- `_kma_write_logical`. -/
def kma_write_logical (env : Env β) (r : Sreg) (offset : U32) (data : List U8) (vpl : Level)
    (force : Bool) : Exec β Unit := do
  let wrap ← query fun c => kma_real_legacy_segment_wrap env c offset data.length
  if wrap = true then do
    kma_write_segment env r offset (data.take (wrap_part offset)) vpl force
    kma_write_segment env r 0 (data.drop (wrap_part offset)) vpl force
  else kma_write_segment env r offset data vpl force

/-! ## Control registers -/

/-- `_s_write_cr0`. -/
def s_write_cr0 (env : Env β) (value : U32) : Exec β Unit := do
  let cpu ← get_cpu
  let mutable_mask := VCPU_CR0_PE ||| VCPU_CR0_MP ||| VCPU_CR0_EM ||| VCPU_CR0_TS |||
    VCPU_CR0_ET ||| VCPU_CR0_PG
  let mutable_486 := mutable_mask ||| VCPU_CR0_NE ||| VCPU_CR0_WP ||| VCPU_CR0_AM |||
    VCPU_CR0_NW ||| VCPU_CR0_CD
  let is486 := decide (env.profile = .p80486sx)
  raise_if (is486 && (bit_is_set value VCPU_CR0_PG && !bit_is_set value VCPU_CR0_PE ||
    bit_is_set value VCPU_CR0_NW && !bit_is_set value VCPU_CR0_CD)) ⟨.gp, 0⟩
  raise_if (!is486 && value &&& ~~~mutable_mask != cpu.cr0 &&& ~~~mutable_mask) ⟨.ud, 0⟩
  let value := if is486 then (value &&& mutable_486) ||| VCPU_CR0_ET else value
  raise_if (bit_is_set value VCPU_CR0_PG && !bit_is_set value VCPU_CR0_PE) ⟨.ud, 0⟩
  (if (cpu.cr0 ^^^ value) &&& VCPU_CR0_PG ≠ 0 then do
      x86_core_cpu_execution_invalidate_prefetch env
      x86_core_cpu_execution_invalidate_tlb
    else pure ())
  set_cpu fun cpu => { cpu with cr0 := value }

/-- `_s_write_cr3`. -/
def s_write_cr3 (env : Env β) (value : U32) : Exec β Unit := do
  let is486 := decide (env.profile = .p80486sx)
  raise_if (!is486 && value &&& ~~~VCPU_PGENTRY_BASE != 0) ⟨.ud, 0⟩
  x86_core_cpu_execution_invalidate_prefetch env
  x86_core_cpu_execution_invalidate_tlb
  set_cpu fun cpu => { cpu with cr3 := if is486 then value &&& 0xfffff018 else value }

end Nxvm.Cpu
