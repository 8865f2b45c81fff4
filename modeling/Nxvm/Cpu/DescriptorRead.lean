/-
Reading a descriptor (`_ksa_read_table` to `_ksa_read_xdt`, `_s_check_selector`).

A selector names a descriptor of the GDT or of the LDT, eight bytes at its offset. The check
made before a control transfer compares the last of them with the limit of the table in 32
bits; the routines that read the descriptor compare the low sixteen bits of both. A limit past
`ffff` is an ordinary one for a page-granular LDT, and there the two part. This file says from
which registers they agree, and what an accepted reader reads.
-/
import Nxvm.Cpu.AccessFaults
import Nxvm.Cpu.FlatBoard

set_option autoImplicit false

namespace Nxvm.Cpu

open Nxvm.Lib Nxvm.Lib.Exec Nxvm.Lib.Memory

variable {β : Type}

/-! ## The readers -/

/-- The offset of a selector's descriptor, as the 32-bit offset of an access. -/
def descriptor_offset (selector : U16) : U32 := (selector_offset selector).setWidth 32

/-- `_ksa_read_table`. Only the 80486SX takes the base as a linear address. -/
def ksa_read_table (env : Env β) (table : Sreg) (offset : U32) (byte : Nat) :
    Exec β (List U8) :=
  let base :=
    if table.sregtype = .idtr && !cpu_profile_has_protected_architecture env.profile then 0
    else table.base
  if env.profile = .p80486sx then kma_read_linear env (base + offset) byte 0
  else do
    let provenance ← query fun c => c.memory_access_provenance
    kma_read_physical env (base + offset) byte provenance 0

/-- `_ksa_read_descriptor`. -/
def ksa_read_descriptor (env : Env β) (table : Sreg) (offset : U32) : Exec β (List U8) :=
  if table.sregtype = .ldtr then kma_read_logical env table offset 8 0 true
  else ksa_read_table env table offset 8

/-- The limit test of the readers, in sixteen bits. -/
def past_limit_16 (selector : U16) (limit : U32) : Bool :=
  decide (limit.setWidth 16 < selector_offset selector + 7)

/-- `_ksa_read_ldt`. -/
def ksa_read_ldt (env : Env β) (selector : U16) : Exec β (List U8) := do
  let cpu ← get_cpu
  raise_if (!cpu.cr0_pe) impossible
  raise_if (!selector_ti selector) impossible
  raise_if (!cpu.ldtr.flagValid || past_limit_16 selector cpu.ldtr.limit)
    ⟨.gp, selector_code selector⟩
  if env.profile = .p80486sx then
    ksa_read_descriptor env cpu.ldtr (descriptor_offset selector)
  else kma_read_logical env cpu.ldtr (descriptor_offset selector) 8 0 true

/-- `_ksa_read_gdt`. -/
def ksa_read_gdt (env : Env β) (selector : U16) : Exec β (List U8) := do
  let cpu ← get_cpu
  raise_if (!cpu.cr0_pe) impossible
  raise_if (selector_ti selector) impossible
  raise_if (past_limit_16 selector cpu.gdtr.limit) ⟨.gp, selector_code selector⟩
  if env.profile = .p80486sx then
    ksa_read_descriptor env cpu.gdtr (descriptor_offset selector)
  else ksa_read_table env cpu.gdtr (descriptor_offset selector) 8

/-- `_s_check_selector`; true is a refusal. -/
def s_check_selector (cpu : CpuData) (selector : U16) : Bool :=
  if is_selector_null selector || (selector_ti selector && !cpu.ldtr.flagValid) then true
  else if (if selector_ti selector then cpu.ldtr.limit else cpu.gdtr.limit) <
      descriptor_offset selector + 7 then true
  else false

/-! ## The table of a selector -/

/-- The table a selector points into. -/
def descriptor_table (cpu : CpuData) (selector : U16) : Sreg :=
  if selector_ti selector then cpu.ldtr else cpu.gdtr

/-- There is no such descriptor: the LDT is not valid, or one of the eight bytes lies beyond
the limit of the table. -/
def NoDescriptor (cpu : CpuData) (selector : U16) : Prop :=
  selector_ti selector = true ∧ cpu.ldtr.flagValid = false ∨
    ∃ k < 8, (descriptor_table cpu selector).limit.toNat < (selector_offset selector).toNat + k

/-- The address an accepted reader goes to: the LDT is a segment, the GDT is not. -/
def descriptor_address (profile : Profile) (cpu : CpuData) (selector : U16) : Except Fault U32 :=
  if selector_ti selector then
    kma_linear_logical profile cpu cpu.ldtr (descriptor_offset selector) 8 false true
  else .ok (cpu.gdtr.base + descriptor_offset selector)

/-- The eight bytes at an address of a selector's table: linear, but for the GDT of the
profiles before the 80486SX. -/
def read_descriptor_at (env : Env β) (selector : U16) (address : U32) : Exec β (List U8) :=
  if selector_ti selector = true ∨ env.profile = .p80486sx then kma_read_linear env address 8 0
  else do
    let provenance ← query fun c => c.memory_access_provenance
    kma_read_physical env address 8 provenance 0

/-- What a reader owes the check: it refuses the selectors the check refuses, these are the
ones without a descriptor, and of the others it reads the eight bytes at their offset. -/
structure ReadsAsChecked (env : Env β) (reader : Exec β (List U8)) (c : Context β)
    (selector : U16) : Prop where
  refuses : reader c = .error ⟨.gp, selector_code selector⟩ c ↔
    s_check_selector c.cpu selector = true
  checks : s_check_selector c.cpu selector = true ↔ NoDescriptor c.cpu selector
  reads : reader c ≠ .error ⟨.gp, selector_code selector⟩ c →
    descriptor_address env.profile c.cpu selector =
        .ok ((descriptor_table c.cpu selector).base + descriptor_offset selector) ∧
      reader c = read_descriptor_at env selector
        ((descriptor_table c.cpu selector).base + descriptor_offset selector) c

/-- The registers from which reader and check agree: a descriptor within the limit is within
the limit's low sixteen bits too, and if it is local the LDTR was loaded with the selector of
a GDT descriptor. -/
def TableFits (cpu : CpuData) (selector : U16) : Prop :=
  ¬ NoDescriptor cpu selector →
    (selector_offset selector).toNat + 7 ≤
        (descriptor_table cpu selector).limit.toNat % 2 ^ 16 ∧
      (selector_ti selector = true →
        selector_ti cpu.ldtr.selector = false ∧ is_selector_null cpu.ldtr.selector = false)

/-! ## The limit tests -/

theorem selector_offset_toNat (selector : U16) :
    (selector_offset selector).toNat + 7 < 2 ^ 16 := by
  have hmask : selector_offset selector = selector &&& ~~~7 := rfl
  have hround := Lib.Bits.and_not_low_toNat selector 7 3 rfl
  rw [hmask, hround]
  omega

theorem descriptor_offset_toNat (selector : U16) :
    (descriptor_offset selector).toNat = (selector_offset selector).toNat := by
  have hlt := selector_offset_toNat selector
  rw [descriptor_offset, BitVec.toNat_setWidth]
  omega

/-- The sixteen-bit test as numbers. -/
theorem past_limit_16_iff (selector : U16) (limit : U32) :
    past_limit_16 selector limit = true ↔
      limit.toNat % 2 ^ 16 < (selector_offset selector).toNat + 7 := by
  have hlt := selector_offset_toNat selector
  rw [past_limit_16, decide_eq_true_iff, BitVec.lt_def, BitVec.toNat_setWidth, BitVec.toNat_add]
  have hseven : (7 : U16).toNat = 7 := rfl
  rw [hseven, Nat.mod_eq_of_lt hlt]

/-- The thirty-two-bit test as numbers. -/
theorem past_limit_32_iff (selector : U16) (limit : U32) :
    limit < descriptor_offset selector + 7 ↔
      limit.toNat < (selector_offset selector).toNat + 7 := by
  have hlt := selector_offset_toNat selector
  rw [BitVec.lt_def, BitVec.toNat_add, descriptor_offset_toNat]
  have hseven : (7 : U32).toNat = 7 := rfl
  rw [hseven, Nat.mod_eq_of_lt (by omega)]

/-- One of the eight bytes is beyond the limit when the last one is. -/
theorem exists_beyond_iff (limit offset : ℕ) :
    (∃ k < 8, limit < offset + k) ↔ limit < offset + 7 := by
  constructor
  · rintro ⟨k, hk, hlimit⟩
    omega
  · intro hlimit
    exact ⟨7, by omega, hlimit⟩

theorem noDescriptor_iff (cpu : CpuData) (selector : U16) :
    NoDescriptor cpu selector ↔
      selector_ti selector = true ∧ cpu.ldtr.flagValid = false ∨
        (descriptor_table cpu selector).limit.toNat < (selector_offset selector).toNat + 7 := by
  rw [NoDescriptor, exists_beyond_iff]

/-- The check refuses a selector that is not null exactly when it has no descriptor. -/
theorem s_check_selector_iff (cpu : CpuData) (selector : U16)
    (hnull : is_selector_null selector = false) :
    s_check_selector cpu selector = true ↔ NoDescriptor cpu selector := by
  rw [noDescriptor_iff, s_check_selector, hnull, Bool.false_or, ← apply_ite Sreg.limit,
    ← descriptor_table]
  by_cases hldt : (selector_ti selector && !cpu.ldtr.flagValid) = true
  · rw [if_pos hldt]
    rw [Bool.and_eq_true, Bool.not_eq_true'] at hldt
    exact ⟨fun _ => Or.inl hldt, fun _ => rfl⟩
  · rw [if_neg hldt]
    rw [Bool.and_eq_true, Bool.not_eq_true'] at hldt
    rw [or_iff_right hldt, ← past_limit_32_iff]
    by_cases hlimit : (descriptor_table cpu selector).limit < descriptor_offset selector + 7
    · rw [if_pos hlimit]
      exact ⟨fun _ => hlimit, fun _ => rfl⟩
    · rw [if_neg hlimit]
      exact ⟨fun h => Bool.noConfusion h, fun h => absurd h hlimit⟩

/-! ## The readers as one branch -/

/-- A forced read through the LDTR in protected mode: the segmentation check, then the bytes. -/
theorem kma_read_logical_forced (env : Env β) (c : Context β) (r : Sreg) (offset : U32)
    (hpe : c.cpu.cr0_pe = true) :
    kma_read_logical env r offset 8 0 true c =
      match kma_linear_logical env.profile c.cpu r offset 8 false true with
      | .ok linear => kma_read_linear env linear 8 0 c
      | .error e => .error e c := by
  have hwrap : kma_real_legacy_segment_wrap env c offset 8 = false := by
    rw [kma_real_legacy_segment_wrap, hpe]
    rfl
  have hread : kma_read_logical env r offset 8 0 true c = kma_read_segment env r offset 8 0 true c := by
    unfold kma_read_logical
    rw [bind_run_ok (query_run _ c), hwrap]
    rfl
  have halign : ∀ linear, kma_check_alignment env linear 8 0 true c = .ok () c := by
    intro linear
    unfold kma_check_alignment
    rw [get_cpu, bind_run_ok (query_run _ c)]
    simp
  rw [hread, kma_read_segment]
  cases hl : kma_linear_logical env.profile c.cpu r offset 8 false true with
  | ok linear =>
    have hrun : linear_logical env r offset 8 false true c = .ok linear c := by
      rw [linear_logical, get_cpu, bind_run_ok (query_run _ c), hl]
      rfl
    rw [bind_run_ok hrun, bind_run_ok (halign linear)]
  | error e =>
    have hrun : linear_logical env r offset 8 false true c = .error e c := by
      rw [linear_logical, get_cpu, bind_run_ok (query_run _ c), hl]
      rfl
    rw [bind_run_error hrun]

/-- What a reader does: its own refusal, then the fault of its address, then the bytes. -/
def reader_run (env : Env β) (c : Context β) (selector : U16) (refused : Bool) :
    EStateM.Result Fault (Context β) (List U8) :=
  if refused then .error ⟨.gp, selector_code selector⟩ c
  else
    match descriptor_address env.profile c.cpu selector with
    | .ok address => read_descriptor_at env selector address c
    | .error e => .error e c

theorem read_descriptor_local (env : Env β) {selector : U16} (hti : selector_ti selector = true)
    (address : U32) :
    read_descriptor_at env selector address = kma_read_linear env address 8 0 := by
  rw [read_descriptor_at, if_pos (Or.inl hti)]

theorem ksa_read_ldt_run (env : Env β) (c : Context β) (selector : U16)
    (hpe : c.cpu.cr0_pe = true) (hldtr : c.cpu.ldtr.sregtype = .ldtr)
    (hti : selector_ti selector = true) :
    ksa_read_ldt env selector c = reader_run env c selector
      (!c.cpu.ldtr.flagValid || past_limit_16 selector c.cpu.ldtr.limit) := by
  unfold ksa_read_ldt reader_run
  rw [get_cpu, bind_run_ok (query_run _ c), hpe, hti]
  show (raise_if false impossible >>= fun _ => _) c = _
  rw [bind_run_ok (by rfl), bind_run_ok (by rfl)]
  by_cases href : (!c.cpu.ldtr.flagValid || past_limit_16 selector c.cpu.ldtr.limit) = true
  · rw [href, if_pos rfl]
    rfl
  · rw [Bool.eq_false_iff.mpr href, if_neg Bool.false_ne_true, bind_run_ok (by rfl)]
    have hsame : (if env.profile = .p80486sx then
        ksa_read_descriptor env c.cpu.ldtr (descriptor_offset selector)
        else kma_read_logical env c.cpu.ldtr (descriptor_offset selector) 8 0 true) =
          kma_read_logical env c.cpu.ldtr (descriptor_offset selector) 8 0 true := by
      rw [ksa_read_descriptor, if_pos hldtr, ite_self]
    rw [hsame, kma_read_logical_forced env c _ _ hpe, descriptor_address, if_pos hti]
    simp only [read_descriptor_local env hti]

theorem ksa_read_gdt_run (env : Env β) (c : Context β) (selector : U16)
    (hpe : c.cpu.cr0_pe = true) (hgdtr : c.cpu.gdtr.sregtype = .gdtr)
    (hti : selector_ti selector = false) :
    ksa_read_gdt env selector c =
      reader_run env c selector (past_limit_16 selector c.cpu.gdtr.limit) := by
  unfold ksa_read_gdt reader_run
  rw [get_cpu, bind_run_ok (query_run _ c), hpe, hti]
  show (raise_if false impossible >>= fun _ => _) c = _
  rw [bind_run_ok (by rfl), bind_run_ok (by rfl)]
  by_cases href : past_limit_16 selector c.cpu.gdtr.limit = true
  · rw [href, if_pos rfl]
    rfl
  · rw [Bool.eq_false_iff.mpr href, if_neg Bool.false_ne_true, bind_run_ok (by rfl)]
    have hsame : (if env.profile = .p80486sx then
        ksa_read_descriptor env c.cpu.gdtr (descriptor_offset selector)
        else ksa_read_table env c.cpu.gdtr (descriptor_offset selector) 8) =
          ksa_read_table env c.cpu.gdtr (descriptor_offset selector) 8 := by
      have htype : ¬ c.cpu.gdtr.sregtype = .ldtr := by
        rw [hgdtr]
        decide
      rw [ksa_read_descriptor, if_neg htype, ite_self]
    rw [hsame, descriptor_address, if_neg (by simp [hti])]
    unfold read_descriptor_at ksa_read_table
    rw [hgdtr, hti]
    simp

/-! ## Reader and check -/

/-- A valid LDTR that was loaded with the selector of a GDT descriptor admits every access
within its limit. -/
theorem ldtr_address (profile : Profile) {cpu : CpuData} {selector : U16}
    (hpe : cpu.cr0_pe = true) (hldtr : cpu.ldtr.sregtype = .ldtr)
    (hti : selector_ti selector = true) (hvalid : cpu.ldtr.flagValid = true)
    (hown : selector_ti cpu.ldtr.selector = false)
    (hnull : is_selector_null cpu.ldtr.selector = false)
    (hlimit : (selector_offset selector).toNat + 7 ≤ cpu.ldtr.limit.toNat) :
    descriptor_address profile cpu selector =
      .ok (cpu.ldtr.base + descriptor_offset selector) := by
  have hbounds : segment_bounds profile cpu cpu.ldtr false true = .ok (0, cpu.ldtr.limit) := by
    unfold segment_bounds
    rw [hldtr]
    simp [hpe, hown, hvalid, hnull]
  have hoff := descriptor_offset_toNat selector
  have hle : descriptor_offset selector ≤ cpu.ldtr.limit := by
    rw [BitVec.le_def]
    omega
  have hroom := BitVec.toNat_sub_of_le hle
  rw [descriptor_address, if_pos hti, kma_linear_logical, hbounds, hldtr, hpe]
  have hinside : ¬ (decide ((descriptor_offset selector).toNat < 0) ||
      decide (cpu.ldtr.limit < descriptor_offset selector) ||
      (8 != 0 && decide ((cpu.ldtr.limit - descriptor_offset selector).toNat < 8 - 1))) = true := by
    have hnlt : ¬ cpu.ldtr.limit < descriptor_offset selector := BitVec.not_lt.mpr hle
    have hnroom : ¬ (cpu.ldtr.limit - descriptor_offset selector).toNat < 8 - 1 := by omega
    simp [hnlt]
    omega
  simp only [Bool.not_true, Bool.and_false, Bool.false_and, Bool.false_eq_true, if_false]
  rw [if_neg hinside]
  simp

/-- Any other LDTR admits none: the segmentation check takes it for an internal error, or for
a segment that is not there. -/
theorem ldtr_no_address (profile : Profile) {cpu : CpuData} {selector : U16}
    (hpe : cpu.cr0_pe = true) (hldtr : cpu.ldtr.sregtype = .ldtr)
    (hti : selector_ti selector = true)
    (hbad : ¬ (selector_ti cpu.ldtr.selector = false ∧
      is_selector_null cpu.ldtr.selector = false)) (address : U32) :
    descriptor_address profile cpu selector ≠ .ok address := by
  have hbounds : ∃ e, segment_bounds profile cpu cpu.ldtr false true = .error e := by
    unfold segment_bounds
    rw [hldtr]
    by_cases hown : selector_ti cpu.ldtr.selector = true
    · exact ⟨impossible, by simp [hpe, hown]⟩
    · have hnull : is_selector_null cpu.ldtr.selector = true := by
        by_contra hn
        exact hbad ⟨Bool.eq_false_iff.mpr hown, Bool.eq_false_iff.mpr hn⟩
      exact ⟨⟨.gp, 0⟩, by simp [hpe, hown, hnull]⟩
  obtain ⟨e, he⟩ := hbounds
  rw [descriptor_address, if_pos hti, kma_linear_logical, he, hpe]
  simp

/-- A read of the eight bytes never ends as a refusal of the selector does. -/
theorem read_descriptor_not_refused (env : Env β) (c : Context β) (selector : U16)
    (address code : U32) : read_descriptor_at env selector address c ≠ .error ⟨.gp, code⟩ c := by
  have hstops : Stops (read_descriptor_at env selector address) := by
    apply Stops.ite (kma_read_linear_stops env _ _ _)
    apply Stops.bind (Stops.of_query _)
    intro provenance
    exact kma_read_physical_stops env _ _ _ _
  intro hrun
  rcases hstops c _ c hrun with h | h <;> cases h

/-- A reader that refuses by the sixteen-bit test owes the check nothing exactly from the
registers that fit. -/
theorem reads_as_checked_iff (env : Env β) {reader : Exec β (List U8)} {c : Context β}
    {selector : U16} {refused : Bool}
    (hpe : c.cpu.cr0_pe = true) (hldtr : c.cpu.ldtr.sregtype = .ldtr)
    (hnull : is_selector_null selector = false)
    (hrun : reader c = reader_run env c selector refused)
    (hrefused : refused = true ↔ selector_ti selector = true ∧ c.cpu.ldtr.flagValid = false ∨
      (descriptor_table c.cpu selector).limit.toNat % 2 ^ 16 <
        (selector_offset selector).toNat + 7) :
    ReadsAsChecked env reader c selector ↔ TableFits c.cpu selector := by
  have hcheck := s_check_selector_iff c.cpu selector hnull
  have hmod := Nat.mod_le (descriptor_table c.cpu selector).limit.toNat (2 ^ 16)
  constructor
  · intro h hdescriptor
    have hrefuse : reader c ≠ .error ⟨.gp, selector_code selector⟩ c :=
      fun he => hdescriptor (hcheck.mp (h.refuses.mp he))
    have hnot : ¬ refused = true := by
      intro hr
      apply hrefuse
      rw [hrun, reader_run, if_pos hr]
    rw [hrefused, not_or] at hnot
    refine ⟨by omega, fun hti => ?_⟩
    by_contra hbad
    exact ldtr_no_address env.profile hpe hldtr hti hbad _ (h.reads hrefuse).1
  · intro hfits
    by_cases hdescriptor : NoDescriptor c.cpu selector
    · -- both refuse: beyond the limit is beyond its low sixteen bits
      have hr : refused = true := by
        rw [hrefused]
        rcases (noDescriptor_iff _ _).mp hdescriptor with h | h
        · exact Or.inl h
        · exact Or.inr (by omega)
      have hrefuse : reader c = .error ⟨.gp, selector_code selector⟩ c := by
        rw [hrun, reader_run, if_pos hr]
      exact ⟨⟨fun _ => hcheck.mpr hdescriptor, fun _ => hrefuse⟩, hcheck,
        fun hne => absurd hrefuse hne⟩
    · obtain ⟨hlimit, hown⟩ := hfits hdescriptor
      rw [noDescriptor_iff, not_or] at hdescriptor
      have hr : ¬ refused = true := by
        rw [hrefused, not_or]
        exact ⟨hdescriptor.1, by omega⟩
      have haddress : descriptor_address env.profile c.cpu selector =
          .ok ((descriptor_table c.cpu selector).base + descriptor_offset selector) := by
        by_cases hti : selector_ti selector = true
        · have htable : descriptor_table c.cpu selector = c.cpu.ldtr := if_pos hti
          have hvalid : c.cpu.ldtr.flagValid = true :=
            Bool.not_eq_false _ ▸ fun hv => hdescriptor.1 ⟨hti, hv⟩
          rw [htable] at hdescriptor ⊢
          exact ldtr_address env.profile hpe hldtr hti hvalid (hown hti).1 (hown hti).2
            (by omega)
        · rw [descriptor_address, if_neg hti, descriptor_table, if_neg hti]
      have hread : reader c = read_descriptor_at env selector
          ((descriptor_table c.cpu selector).base + descriptor_offset selector) c := by
        rw [hrun, reader_run, if_neg hr, haddress]
      refine ⟨⟨fun he => ?_, fun hs => ?_⟩, hcheck, fun _ => ⟨haddress, hread⟩⟩
      · rw [hread] at he
        exact absurd he (read_descriptor_not_refused env c selector _ _)
      · rw [hcheck, noDescriptor_iff] at hs
        exact absurd hs (not_or.mpr hdescriptor)

/-- The tables of a processor in protected mode: the LDTR and the GDTR are what they are from
reset on, whatever bases, limits and selectors were loaded into them. -/
structure InTables (cpu : CpuData) : Prop where
  pe : cpu.cr0_pe = true
  ldtr : cpu.ldtr.sregtype = .ldtr
  gdtr : cpu.gdtr.sregtype = .gdtr

/-- An LDT descriptor in page units: seventeen pages at `200000`. -/
def granular_descriptor : Descriptor := 0x0080822000000010

/-- A processor in protected mode with that LDT. -/
def granular_ldt : CpuData :=
  { CpuData.zero with
    cr0 := 1
    ldtr := { Sreg.zero .ldtr with
      selector := 0x28, flagValid := true
      base := granular_descriptor.cached_base, limit := granular_descriptor.cached_limit } }

/-- For a selector that is not null, `_ksa_read_ldt` and `_ksa_read_gdt` refuse what
`_s_check_selector` refuses, and read the eight bytes otherwise, from the registers in which the
table fits, and from no others. -/
theorem descriptor_readers_iff (env : Env β) (c : Context β) (selector : U16)
    (htables : InTables c.cpu) (hnull : is_selector_null selector = false) :
    (selector_ti selector = true →
        (ReadsAsChecked env (ksa_read_ldt env selector) c selector ↔ TableFits c.cpu selector)) ∧
      (selector_ti selector = false →
        (ReadsAsChecked env (ksa_read_gdt env selector) c selector ↔
          TableFits c.cpu selector)) := by
  constructor
  · intro hti
    apply reads_as_checked_iff env htables.pe htables.ldtr hnull
      (ksa_read_ldt_run env c selector htables.pe htables.ldtr hti)
    have htable : descriptor_table c.cpu selector = c.cpu.ldtr := if_pos hti
    rw [htable, Bool.or_eq_true, Bool.not_eq_true', past_limit_16_iff]
    simp [hti]
  · intro hti
    apply reads_as_checked_iff env htables.pe htables.ldtr hnull
      (ksa_read_gdt_run env c selector htables.pe htables.gdtr hti)
    have htable : descriptor_table c.cpu selector = c.cpu.gdtr := by
      rw [descriptor_table, if_neg (by simp [hti])]
    rw [htable, past_limit_16_iff]
    simp [hti]

/-- The same LDT, read at an offset below its sixteen-bit limit: the reader agrees. -/
theorem descriptor_readers_first_page :
    ReadsAsChecked (flat_env .p80386) (ksa_read_ldt (flat_env .p80386) 0x0ffc)
      (flat_context granular_ldt fun _ => 0) 0x0ffc := by
  apply ((descriptor_readers_iff (flat_env .p80386) (flat_context granular_ldt fun _ => 0) 0x0ffc
    ⟨by decide, by decide, by decide⟩ (by decide)).1 (by decide)).mpr
  intro _
  decide

/-! ## Where they part -/

/-- The descriptor at offset `1000` lies inside the seventeen pages. The check accepts its
selector and the reader refuses it. -/
theorem granular_ldt_refused :
    s_check_selector granular_ldt 0x1004 = false ∧
      ¬ ReadsAsChecked (flat_env .p80386) (ksa_read_ldt (flat_env .p80386) 0x1004)
        (flat_context granular_ldt fun _ => 0) 0x1004 := by
  have hcheck : s_check_selector granular_ldt 0x1004 = false := by decide
  refine ⟨hcheck, fun h => ?_⟩
  have hrefuse : ksa_read_ldt (flat_env .p80386) 0x1004 (flat_context granular_ldt fun _ => 0) =
      .error ⟨.gp, selector_code 0x1004⟩ (flat_context granular_ldt fun _ => 0) := by
    rw [ksa_read_ldt_run _ (flat_context granular_ldt fun _ => 0) 0x1004 (by decide) (by decide)
      (by decide)]
    rfl
  have hrefused := h.refuses.mp hrefuse
  rw [show (flat_context granular_ldt fun _ => 0).cpu = granular_ldt from rfl, hcheck] at hrefused
  exact Bool.noConfusion hrefused

end Nxvm.Cpu
