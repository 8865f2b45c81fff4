/-
Accesses that cross a page boundary: what a fault leaves behind, and where the bytes
go when both halves translate.
-/
import Nxvm.Cpu.LinearAccess
import Nxvm.Cpu.FlatBoard

set_option autoImplicit false

namespace Nxvm.Cpu

open Nxvm.Lib Nxvm.Lib.Exec Nxvm.Lib.Memory Nxvm.Lib.Directory

variable {β : Type} {env : Env β} {L : ByteArrayBus env.bus} {T : U32 → Prop} {v v' : View}
variable {m : Mode} {linear : U32} {write user : Bool} {vpl : Level} {k : Nat}

/-! ## The bytes of a page translate alike -/

theorem page_of_add (hk : (linear_offset linear).toNat + k < VCPU_PAGESIZE) :
    page_of (linear + BitVec.ofNat 32 k) = page_of linear := by
  have hl := linear.isLt
  refine BitVec.eq_of_toNat_eq ?_
  rw [linear_offset_toNat] at hk
  rw [page_of, page_base_toNat, page_of, page_base_toNat, BitVec.toNat_add, BitVec.toNat_ofNat]
  unfold VCPU_PAGESIZE at hk
  omega

theorem linear_offset_add (hk : (linear_offset linear).toNat + k < VCPU_PAGESIZE) :
    linear_offset (linear + BitVec.ofNat 32 k) = linear_offset linear + BitVec.ofNat 32 k := by
  have hl := linear.isLt
  refine BitVec.eq_of_toNat_eq ?_
  rw [linear_offset_toNat] at hk
  rw [linear_offset_toNat, BitVec.toNat_add, BitVec.toNat_add, linear_offset_toNat,
    BitVec.toNat_ofNat]
  unfold VCPU_PAGESIZE at hk
  omega

/-- The page of the byte `k` further on in the same page. -/
def Page.add (p : Page) (k : Nat) : Page := ⟨p.physical + BitVec.ofNat 32 k, p.attributes⟩

theorem View.walk_add (v : View) (cr3 : U32) (wp : Bool)
    (hk : (linear_offset linear).toNat + k < VCPU_PAGESIZE) :
    v.walk cr3 (linear + BitVec.ofNat 32 k) write user wp =
      (v.walk cr3 linear write user wp).map fun p => p.add k := by
  have hpde : v.pde cr3 (linear + BitVec.ofNat 32 k) = v.pde cr3 linear := by
    rw [← v.pde_page, page_of_add hk, v.pde_page]
  have hpte : v.pte cr3 (linear + BitVec.ofNat 32 k) = v.pte cr3 linear := by
    rw [← v.pte_page, page_of_add hk, v.pte_page]
  unfold View.walk
  simp only [hpde, hpte, linear_offset_add hk]
  split_ifs
  · rfl
  · rfl
  · rfl
  · rfl
  · simp only [Except.map, Page.add, BitVec.add_assoc]

/-- **Every byte of a page is translated as its first byte is.** -/
theorem View.look_add (v : View) (m : Mode) (profile : Profile)
    (tlb : BitVec 3 → BitVec 2 → TlbEntry)
    (hk : (linear_offset linear).toNat + k < VCPU_PAGESIZE) :
    v.look m (tlb_entry profile tlb (linear + BitVec.ofNat 32 k)) (linear + BitVec.ofNat 32 k)
        write user =
      (v.look m (tlb_entry profile tlb linear) linear write user).map fun p => p.add k := by
  have hentry : tlb_entry profile tlb (linear + BitVec.ofNat 32 k) =
      tlb_entry profile tlb linear := by
    unfold tlb_entry
    rw [page_of_add hk, ← tlb_set_page (linear + BitVec.ofNat 32 k), page_of_add hk, tlb_set_page]
  rw [hentry]
  cases hm : m.paging with
  | false =>
    rw [v.look_off hm, v.look_off hm]
    rfl
  | true =>
    cases tlb_entry profile tlb linear with
    | none => rw [v.look_none hm, v.look_none hm, v.walk_add _ _ hk]
    | some e =>
      rw [v.look_some hm, v.look_some hm, v.walk_add _ _ hk, linear_offset_add hk]
      split_ifs
      · rfl
      · rfl
      · simp only [Except.map, Page.add, BitVec.add_assoc]

/-! ## Faults and transfers -/

/-- The bytes of an access go where the translation of each byte alone, from the same
state, goes. -/
structure Addressed (env : Env β) (v : View) (c : Context β) (linear : U32) (n : Nat)
    (write : Bool) (vpl : Level) (pages : Pages) : Prop where
  look : ∀ i < n, ∃ attributes,
    v.look (.of env.profile c.cpu) (tlb_entry env.profile c.tlb (linear + BitVec.ofNat 32 i))
      (linear + BitVec.ofNat 32 i) write (vpl == 3) = .ok ⟨pages.address linear i, attributes⟩
  run : ∀ i < n, ∀ page c', kma_physical_linear env (linear + BitVec.ofNat 32 i) 1 write vpl c =
    .ok page c' → page.physical = pages.address linear i

/-- An access that failed: the board did, or a page fault that one of its pages calls for
has left memory as it was, the Accessed bits of directory entries apart. -/
def Restartable (env : Env β) (L : ByteArrayBus env.bus) (c : Context β) (linear : U32) (n : Nat)
    (write : Bool) (vpl : Level) (e : Fault) (c' : Context β) : Prop :=
  e.except = .ce ∨
    (∃ code address, (L.view c).look_pages (.of env.profile c.cpu) (tlb_entry env.profile c.tlb)
        linear n write (vpl == 3) = .error (code, address) ∧ Faulted address code e c') ∧
      DirectoryMarked c.cpu.cr3 linear (L.view c) (L.view c')

/-- What an access needs: a processor that pages, whose cache, if it has one, agrees with
memory where the page tables are. -/
structure Walkable (env : Env β) (L : ByteArrayBus env.bus) (T : U32 → Prop) (c : Context β) :
    Prop where
  paged : Paged env.profile
  cache : env.profile = .p80486sx → CoherentOn T (L.mem c.bus) c.cache
  tables : c.cpu.is_paging = true → TablesIn T (L.view c) c.cpu.cr3

theorem Walkable.translates {c : Context β} (h : Walkable env L T c) :
    Translates L T (L.view c) (.of env.profile c.cpu) False c ∧ c.tlb = c.tlb :=
  ⟨⟨⟨rfl, h.cache⟩, rfl, fun hR => hR.elim⟩, rfl⟩

theorem AccessFailed.restartable {c c' : Context β} {n : Nat} {e : Fault}
    (h : AccessFailed L T (L.view c) (.of env.profile c.cpu) False (tlb_entry env.profile c.tlb)
      linear n write vpl e c') : Restartable env L c linear n write vpl e c' := by
  rcases h with ⟨he, -⟩ | ⟨code, address, hlook, hf, v', hd, hs⟩
  · exact Or.inl he
  · refine Or.inr ⟨⟨code, address, hlook, hf⟩, ?_⟩
    rw [hs.sees.view]
    exact hd

/-- The address of a byte, from the pages its access reaches. -/
theorem look_pages_address {entry : U32 → Option TlbEntry} {n : Nat} {pages : Pages}
    {profile : Profile} {tlb : BitVec 3 → BitVec 2 → TlbEntry}
    (hentry : entry = tlb_entry profile tlb) (hn : n ≤ VCPU_PAGESIZE)
    (h : v.look_pages m entry linear n write user = .ok pages.clean) {i : Nat} (hi : i < n) :
    ∃ attributes, v.look m (entry (linear + BitVec.ofNat 32 i)) (linear + BitVec.ofNat 32 i) write
      user = .ok ⟨pages.address linear i, attributes⟩ := by
  subst hentry
  have ho := linear_offset_lt linear
  unfold View.look_pages at h
  cases h₁ : v.look m (tlb_entry profile tlb linear) linear write user with
  | error code => simp [h₁] at h
  | ok first =>
    simp only [h₁] at h
    by_cases hcross : crosses_page linear n = true
    · rw [if_pos hcross] at h
      cases h₂ : v.look m (tlb_entry profile tlb (next_page linear)) (next_page linear) write
        user with
      | error code => simp [h₂] at h
      | ok second =>
        simp only [h₂, Except.ok.injEq] at h
        obtain ⟨p₁, p₂⟩ := pages
        cases p₂ with
        | none => simp [Pages.clean] at h
        | some p₂ =>
          simp only [Pages.clean, Option.map_some, Pages.mk.injEq, Option.some.injEq] at h
          have hf : first.physical = p₁.physical := by rw [h.1]; rfl
          have hs : second.physical = p₂.physical := by rw [h.2]; rfl
          by_cases hin : i < first_part linear
          · have hk : (linear_offset linear).toNat + i < VCPU_PAGESIZE := by
              unfold first_part at hin
              omega
            refine ⟨first.attributes, ?_⟩
            rw [v.look_add m profile tlb hk, h₁]
            simp only [Except.map, Page.add, Pages.address, if_pos hin, hf]
          · have hk : (linear_offset (next_page linear)).toNat + (i - first_part linear) <
                VCPU_PAGESIZE := by
              rw [linear_offset_next]
              unfold first_part VCPU_PAGESIZE at *
              omega
            have hadd : linear + BitVec.ofNat 32 i =
                next_page linear + BitVec.ofNat 32 (i - first_part linear) := by
              rw [next_page, BitVec.add_assoc, ← BitVec.ofNat_add]
              congr 2
              omega
            refine ⟨second.attributes, ?_⟩
            rw [hadd, v.look_add m profile tlb hk, h₂]
            simp only [Except.map, Page.add, Pages.address, if_neg hin, hs]
    · rw [if_neg hcross] at h
      simp only [Except.ok.injEq] at h
      obtain ⟨p₁, p₂⟩ := pages
      cases p₂ with
      | some p₂ => simp [Pages.clean] at h
      | none =>
        simp only [Pages.clean, Option.map_none, Pages.mk.injEq, and_true] at h
        have hf : first.physical = p₁.physical := by rw [h]; rfl
        have hk : (linear_offset linear).toNat + i < VCPU_PAGESIZE := by
          unfold crosses_page at hcross
          simp only [decide_eq_true_eq] at hcross
          omega
        refine ⟨first.attributes, ?_⟩
        rw [v.look_add m profile tlb hk, h₁]
        simp only [Except.map, Page.add, Pages.address, hf]

theorem Translated.addressed {c c' : Context β} {n : Nat} {pages : Pages}
    (hw : Walkable env L T c) (hn : n ≤ VCPU_PAGESIZE)
    (h : Translated L T (L.view c) (.of env.profile c.cpu) False (tlb_entry env.profile c.tlb)
      linear n write vpl pages v' c') : Addressed env (L.view c) c linear n write vpl pages := by
  have hlook := fun i hi => look_pages_address (i := i) rfl hn h.look hi
  refine ⟨hlook, fun i hi page c₁ hr => ?_⟩
  obtain ⟨attributes, hl⟩ := hlook i hi
  have hone : crosses_page (linear + BitVec.ofNat 32 i) 1 = false := by
    have := linear_offset_lt (linear + BitVec.ofNat 32 i)
    unfold crosses_page VCPU_PAGESIZE at *
    simp only [decide_eq_false_iff_not]
    omega
  obtain ⟨v₁, ht⟩ := (kma_physical_linear_spec (L := L) (T := T) (m := .of env.profile c.cpu)
    (R := False) hw.paged hw.tables (by decide : 1 ≤ VCPU_PAGESIZE) hone c.tlb write vpl).of_ok hw.translates hr
  have hpage := ht.look
  rw [View.look_pages_one hone hl] at hpage
  simp only [Except.ok.injEq, Pages.clean, Pages.mk.injEq, Page.clean, Page.mk.injEq] at hpage
  exact hpage.1.1.symm

/-- The translation of an access, from a state it can walk in. -/
theorem Walkable.translate {c : Context β} (hw : Walkable env L T c) {n : Nat}
    (hn : n ≤ VCPU_PAGESIZE) (linear : U32) (write : Bool) (vpl : Level) :
    Triple (fun d => d = c) (kma_translate_linear env linear n write vpl)
      (fun pages c' => ∃ v', Sees L T v' c' ∧ c'.settled = c.settled ∧
        MarkedOn (fun _ => True) (L.view c) v' ∧
        Addressed env (L.view c) c linear n write vpl pages)
      (Restartable env L c linear n write vpl) := by
  have hspec := kma_translate_linear_spec (L := L) (T := T) (m := .of env.profile c.cpu)
    (R := False) hw.paged hw.tables hn c.tlb linear write vpl
  refine Triple.intro ?_ ?_
  · rintro _ pages c' rfl hr
    obtain ⟨v', ht⟩ := hspec.of_ok hw.translates hr
    exact ⟨v', ht.state.sees, (kma_translate_linear_settled ..).ok hr, ht.marked,
      ht.addressed hw hn⟩
  · rintro _ e c' rfl hr
    exact (hspec.of_error hw.translates hr).restartable

/-- **An access is done as a whole or not at all, also across a page boundary.** A page
fault on either half leaves no byte written and no table entry marked; otherwise exactly
the operand is transferred, every byte at the address its own translation gives. -/
theorem kma_linear_straddle (env : Env β) (L : ByteArrayBus env.bus) (T : U32 → Prop)
    (c : Context β) (linear : U32) (n : Nat) (vpl : Level) (hw : Walkable env L T c)
    (hn : n ≤ VCPU_PAGESIZE) :
    (∀ data e c', data.length = n → kma_write_linear env linear data vpl c = .error e c' →
      Restartable env L c linear n true vpl e c') ∧
    (∀ e c', kma_read_linear env linear n vpl c = .error e c' →
      Restartable env L c linear n false vpl e c') ∧
    (∀ write e c', kma_test_linear env linear n write vpl c = .error e c' →
      Restartable env L c linear n write vpl e c') ∧
    (∀ data c', data.length = n → kma_write_linear env linear data vpl c = .ok () c' →
      ∃ pages v', Addressed env (L.view c) c linear n true vpl pages ∧
        MarkedOn (fun _ => True) (L.view c) v' ∧ WithinPages v' linear n pages (L.view c') ∧
        ((env.profile = .p80486sx → c.cpu.cr0_nw = false) →
          L.view c' = v'.stored_pages linear data pages)) ∧
    (∀ data c', kma_read_linear env linear n vpl c = .ok data c' →
      ∃ pages, Addressed env (L.view c) c linear n false vpl pages ∧
        MarkedOn (fun _ => True) (L.view c) (L.view c') ∧
        ((∀ x, T x) → data = (L.view c').page_bytes env.profile c.memory_access_provenance
          linear n pages)) := by
  have htranslate := fun write => hw.translate hn linear write vpl
  -- a transfer starts where the translation stopped
  have hwrite : ∀ data pages c₁ v₁, Sees L T v₁ c₁ → c₁.settled = c.settled →
      Triple (fun d => d = c₁) (kma_write_pages env linear data pages)
        (fun _ c' => WithinPages v₁ linear data.length pages (L.view c') ∧
          ((env.profile = .p80486sx → c.cpu.cr0_nw = false) →
            L.view c' = v₁.stored_pages linear data pages)) (fun e _ => e.except = .ce) := by
    intro data pages c₁ v₁ hs hset
    have hnw : c₁.cpu.cr0_nw = c.cpu.cr0_nw := congrArg (fun d : Context Unit => d.cpu.cr0_nw) hset
    refine (kma_write_pages_spec (L := L) (v := v₁) hw.paged linear data pages
      c.cpu.cr0_nw).conseq ?_ ?_ (fun _ _ h => h)
    · rintro d rfl
      exact ⟨hs.mono fun _ h => h.elim, hnw⟩
    · rintro _ c' ⟨v', rfl, hin, heq⟩
      exact ⟨hin, heq⟩
  refine ⟨?_, ?_, ?_, ?_, ?_⟩
  · rintro data e c' rfl hr
    rcases bind_eq_error.mp hr with hr | ⟨pages, c₁, hr₁, hr₂⟩
    · exact (htranslate true).of_error rfl hr
    · obtain ⟨v₁, hs, hset, -, -⟩ := (htranslate true).of_ok rfl hr₁
      exact Or.inl ((hwrite data pages c₁ v₁ hs hset).of_error rfl hr₂)
  · intro e c' hr
    rcases bind_eq_error.mp hr with hr | ⟨pages, c₁, hr₁, hr₂⟩
    · exact (htranslate false).of_error rfl hr
    · exact Or.inl (((kma_read_pages_harmless L ..).run _).of_error rfl hr₂).2
  · intro write e c' hr
    rcases bind_eq_error.mp hr with hr | ⟨pages, c₁, -, hr₂⟩
    · exact (htranslate write).of_error rfl hr
    · cases hr₂
  · rintro data c' rfl hr
    obtain ⟨pages, c₁, hr₁, hr₂⟩ := bind_eq_ok.mp hr
    obtain ⟨v₁, hs, hset, hm, haddr⟩ := (htranslate true).of_ok rfl hr₁
    obtain ⟨hin, heq⟩ := (hwrite data pages c₁ v₁ hs hset).of_ok rfl hr₂
    exact ⟨pages, v₁, haddr, hm, hin, heq⟩
  · intro data c' hr
    obtain ⟨pages, c₁, hr₁, hr₂⟩ := bind_eq_ok.mp hr
    obtain ⟨v₁, hs, hset, hm, haddr⟩ := (htranslate false).of_ok rfl hr₁
    have hprov : c₁.memory_access_provenance = c.memory_access_provenance :=
      congrArg (fun d : Context Unit => d.memory_access_provenance) hset
    have hview : L.view c' = v₁ := ((kma_read_pages_harmless L ..).run v₁).of_ok hs.view hr₂
    refine ⟨pages, haddr, ?_, fun hT => ?_⟩
    · rw [hview]
      exact hm
    · rw [hview]
      exact ((kma_read_pages_spec hw.paged hT linear n pages _).of_ok ⟨hs, hprov⟩ hr₂).2

/-! ## Two pages on the flat board -/

/-- A directory with one table, and two pages in it. -/
def two_pages (pte1 : U32) : Mem 32 :=
  memory_of [(0x1000, 0x2027), (0x2000, 0x3007), (0x2004, pte1)]

def paging_cpu (cr0 : U32) : CpuData := { CpuData.zero with cr0 := cr0, cr3 := 0x1000 }

/-- The second page is absent. -/
def absent_page : Context (Mem 32) := flat_context (paging_cpu 0x80000011) (two_pages 0)

theorem absent_page_walkable :
    Walkable (flat_env .p80486sx) flat_board (fun _ => True) absent_page :=
  ⟨Or.inr rfl, fun _ => flat_coherent _ _ _ _, fun _ => .all _ _⟩

theorem kma_linear_straddle_absent :
    ∃ e c', kma_write_linear (flat_env .p80486sx) 0xffe [1, 2, 3, 4] 0 absent_page = .error e c' ∧
      e = ⟨.pf, 2⟩ ∧ DirectoryMarked 0x1000 0xffe (flat_view absent_page) (flat_view c') := by
  have hfault : fault_of (kma_write_linear (flat_env .p80486sx) 0xffe [1, 2, 3, 4] 0) absent_page =
      some ⟨.pf, 2⟩ := by
    decide
  cases hr : kma_write_linear (flat_env .p80486sx) 0xffe [1, 2, 3, 4] 0 absent_page with
  | ok u c' =>
    rw [fault_of, hr] at hfault
    cases hfault
  | error e c' =>
    rw [fault_of, hr] at hfault
    cases hfault
    have h := (kma_linear_straddle _ flat_board _ absent_page 0xffe 4 0 absent_page_walkable
      (by decide)).1 [1, 2, 3, 4] _ c' rfl hr
    rcases h with h | h
    · cases h
    · exact ⟨_, c', rfl, rfl, h.2⟩

/-- The cache still holds a second entry that memory no longer has: CR0.NW let a write stay
in the line. -/
def stale_line : Context (Mem 32) :=
  { flat_context (paging_cpu 0xe0000011) (two_pages 0) with
    cache := fun set way =>
      if set = 0 ∧ way = 0 then ⟨4, true, fun k => two_pages 0x4007 (0x2000 + k.setWidth 32)⟩
      else .empty }

/-- There both halves are prepared from the line, the first is committed, and committing the
second finds it absent: the first page's entry has been marked by then. -/
theorem kma_test_linear_stale_line :
    fault_of (kma_test_linear (flat_env .p80486sx) 0xffe 4 false 0) stale_line = some ⟨.pf, 0⟩ ∧
    stale_line.bus 0x2000 = 0x07 ∧
    (final (kma_test_linear (flat_env .p80486sx) 0xffe 4 false 0) stale_line).bus 0x2000 = 0x27 := by
  decide

end Nxvm.Cpu
