/-
Accesses by linear address (`_kma_read_linear`, `_kma_write_linear`,
`_kma_test_linear`), and what is left of one that faults.

An access that crosses a page has two translations. Both are prepared before either is
committed, and on the 80486SX committing reads the table entry again. The point is that
this second reading finds what the first has checked: between the two, the access sets
Accessed and Dirty bits and nothing else, and those forbid nothing.
-/
import Nxvm.Cpu.Translation

set_option autoImplicit false

namespace Nxvm.Cpu

open Nxvm.Lib Nxvm.Lib.Exec Nxvm.Lib.Memory Nxvm.Lib.Directory

variable {β : Type} {env : Env β} {L : ByteArrayBus env.bus} {T : U32 → Prop} {v v' : View}
variable {m : Mode} {R : Prop} {linear : U32} {write : Bool} {vpl : Level} {byte : Nat}

/-! ## What accesses leave alone -/

/-- The part of a context that no access through paging touches: everything but the board,
the cache, the lock, CR2 and the translation buffer. -/
def Context.settled (c : Context β) : Context Unit :=
  { c.walked with tlb := fun _ _ => ⟨0, 0, 0, false⟩, tlb_lru := fun _ => 0 }

/-- The frame of memory accesses. -/
abbrev access_frame : Frame (Context β) := Frame.same Context.settled

theorem Respects.settled {α : Type} {x : Exec β α} (h : Respects walk_frame x) :
    Respects access_frame x :=
  h.mono fun c c' hc => by
    have hwalked : c'.walked = c.walked := hc
    simp only [access_frame, Frame.same, Context.settled, hwalked]

theorem kma_commit_physical_linear_settled (env : Env β) (t : LinearTranslation) (write : Bool) :
    Respects access_frame (kma_commit_physical_linear env t write) := by
  have hfill : ∀ l p a : U32, Respects access_frame (kma_tlb_fill (β := β) l p a) :=
    fun l p a => Respects.of_update fun _ => rfl
  refine (Respects.of_pure _).ite (Respects.ite ?_ ?_)
  · exact (hfill ..).bind fun _ => Respects.of_pure _
  · refine (Respects.settled (kma_access_table_walked ..)).bind fun t' => ?_
    exact ((hfill ..).ite (Respects.of_pure _)).bind fun _ => Respects.of_pure _

theorem kma_translate_linear_settled (env : Env β) (linear : U32) (byte : Nat) (write : Bool)
    (vpl : Level) : Respects access_frame (kma_translate_linear env linear byte write vpl) := by
  have hprep : ∀ l b, Respects access_frame (kma_prepare_physical_linear env l b write vpl) :=
    fun l b => Respects.settled (kma_prepare_physical_linear_walked ..)
  have hcommit := fun t => kma_commit_physical_linear_settled env t write
  refine Respects.ite (Respects.bind ?_ fun _ => Respects.of_pure _)
    (Respects.bind ?_ fun _ => Respects.of_pure _)
  · refine (hprep ..).bind fun t₁ => (hprep ..).bind fun t₂ => ?_
    exact (hcommit t₁).bind fun _ => (hcommit t₂).bind fun _ => Respects.of_pure _
  · exact (hprep ..).bind fun t => (hcommit t).bind fun _ => Respects.of_pure _

theorem kma_read_pages_core (env : Env β) (linear : U32) (byte : Nat) (pages : Pages) :
    Respects core_frame (kma_read_pages env linear byte pages) := by
  refine (Respects.of_query _).bind fun p => ?_
  cases pages.second with
  | none => exact kma_read_physical_core ..
  | some second =>
    refine (kma_read_physical_core ..).bind fun _ => ?_
    exact (kma_read_physical_core ..).bind fun _ => Respects.of_pure _

theorem kma_write_pages_core (env : Env β) (linear : U32) (data : List U8) (pages : Pages) :
    Respects core_frame (kma_write_pages env linear data pages) := by
  refine (Respects.of_query _).bind fun p => ?_
  cases pages.second with
  | none => exact kma_write_physical_core ..
  | some second =>
    exact (kma_write_physical_core ..).bind fun _ => kma_write_physical_core ..

/-! ## The pages of an access -/

/-- The pages an access reaches, or the error code of the page fault it raises and the
address that faults. `entry` says what the translation buffer holds. -/
def View.look_pages (v : View) (m : Mode) (entry : U32 → Option TlbEntry) (linear : U32)
    (byte : Nat) (write user : Bool) : Except (U32 × U32) Pages :=
  match v.look m (entry linear) linear write user with
  | .error code => .error (code, linear)
  | .ok first =>
    if crosses_page linear byte = true then
      match v.look m (entry (next_page linear)) (next_page linear) write user with
      | .error code => .error (code, next_page linear)
      | .ok second => .ok ⟨first, some second⟩
    else .ok ⟨first, none⟩

section LookPages

variable {user : Bool} {first second : Page} {code : U32} {entry : U32 → Option TlbEntry}

theorem View.look_pages_error (h : v.look m (entry linear) linear write user = .error code) :
    v.look_pages m entry linear byte write user = .error (code, linear) := by
  rw [View.look_pages, h]

theorem View.look_pages_next_error (hc : crosses_page linear byte = true)
    (h : v.look m (entry linear) linear write user = .ok first)
    (h' : v.look m (entry (next_page linear)) (next_page linear) write user = .error code) :
    v.look_pages m entry linear byte write user = .error (code, next_page linear) := by
  simp only [View.look_pages, h, h', hc, if_true]

theorem View.look_pages_one (hc : crosses_page linear byte = false)
    (h : v.look m (entry linear) linear write user = .ok first) :
    v.look_pages m entry linear byte write user = .ok ⟨first, none⟩ := by
  simp [View.look_pages, h, hc]

theorem View.look_pages_two (hc : crosses_page linear byte = true)
    (h : v.look m (entry linear) linear write user = .ok first)
    (h' : v.look m (entry (next_page linear)) (next_page linear) write user = .ok second) :
    v.look_pages m entry linear byte write user = .ok ⟨first, some second⟩ := by
  simp only [View.look_pages, h, h', hc, if_true]

end LookPages

/-- The pages without the Dirty bits. -/
def Page.clean (p : Page) : Page := ⟨p.physical, Cpu.clean p.attributes⟩
def Pages.clean (p : Pages) : Pages := ⟨p.first.clean, p.second.map Page.clean⟩

/-- The directory entries of the pages of an access may have been marked as accessed, and
nothing else has changed. -/
def DirectoryMarked (cr3 linear : U32) (v v' : View) : Prop :=
  ∃ v₁, (v₁ = v ∨ v₁ = v.accessed cr3 linear) ∧
    (v' = v₁ ∨ v' = v₁.accessed cr3 (next_page linear))

theorem DirectoryMarked.on (T : U32 → Prop) {cr3 : U32} (h : DirectoryMarked cr3 linear v v') :
    MarkedOn T v v' := by
  obtain ⟨v₁, h₁, h₂⟩ := h
  have hm₁ : MarkedOn T v v₁ := by
    rcases h₁ with rfl | rfl
    exacts [.refl T _, v.accessed_on T cr3 linear]
  refine hm₁.trans ?_
  rcases h₂ with rfl | rfl
  exacts [.refl T _, v₁.accessed_on T cr3 _]

theorem linear_offset_lt (linear : U32) : (linear_offset linear).toNat < VCPU_PAGESIZE := by
  rw [linear_offset_toNat]
  exact Nat.mod_lt _ (by decide)

theorem linear_offset_next (linear : U32) : (linear_offset (next_page linear)).toNat = 0 := by
  have hl := linear.isLt
  have ho := linear_offset_lt linear
  rw [linear_offset_toNat, next_page, BitVec.toNat_add, BitVec.toNat_ofNat, first_part]
  rw [linear_offset_toNat] at *
  unfold VCPU_PAGESIZE at *
  omega

/-! ## Committing one translation beside another -/

/-- Committing a prepared translation sets marks. -/
theorem Prepared.committed_on {entry : Option TlbEntry} {t : LinearTranslation} (T : U32 → Prop)
    (h : Prepared env.profile R v m entry linear write vpl t) :
    MarkedOn T v (v.committed t write) := by
  unfold View.committed
  split
  · rename_i hc
    rcases h.source with ⟨hoff, -⟩ | ⟨-, hh⟩ | ⟨hw, -⟩
    · exact absurd (hoff.symm.trans hc.1) (by decide)
    · exact absurd (hh.tlb_hit.symm.trans hc.2) (by decide)
    · refine v.marked_on T ?_ (Marks.required false write)
      rw [hw.ppte]
      exact aligned_pte _ linear
  · exact .refl T v

/-- The other translation of the access stays prepared. -/
theorem Prepared.beside {entry entry' : Option TlbEntry} {t t' : LinearTranslation} {linear' : U32}
    (h' : Prepared env.profile R v m entry' linear' write vpl t')
    (h : Prepared env.profile R v m entry linear write vpl t) :
    Prepared env.profile R (v.committed t write) m entry' linear' write vpl t' := by
  unfold View.committed
  split
  · rename_i hc
    rcases h.source with ⟨hoff, -⟩ | ⟨-, hh⟩ | ⟨hw, -⟩
    · exact absurd (hoff.symm.trans hc.1) (by decide)
    · exact absurd (hh.tlb_hit.symm.trans hc.2) (by decide)
    · refine h'.marked ?_ (Marks.required false write) (BitVec.and_self)
      rw [hw.ppte]
      exact aligned_pte _ linear
  · exact h'

theorem accessed_required (write : Bool) : 0x20 &&& required_bits false write = 0x20 := by
  cases write <;> rfl

/-- A page that has been marked dirty stays so. -/
theorem View.pte_dirty_mono {cr3 : U32} (h : MarkedOn (fun _ => True) v v')
    (hd : bit_is_set (v.pte cr3 linear) VCPU_PGENTRY_D = true) :
    bit_is_set (v'.pte cr3 linear) VCPU_PGENTRY_D = true := by
  obtain ⟨b, hb, he⟩ := h.pde (.all v cr3) linear
  obtain ⟨b', -, he'⟩ := h.word (aligned_pte (v.pde cr3 linear) linear) fun _ _ => trivial
  rw [View.pte, he, hb.pte_address, he']
  exact bit_is_set_or _ _ _ 6 rfl hd

/-! ## The translation of an access -/

/-- The pages of an access have their Dirty bits in memory. -/
def DirtyPages (v : View) (cr3 linear : U32) (byte : Nat) : Prop :=
  bit_is_set (v.pte cr3 linear) VCPU_PGENTRY_D = true ∧
    (crosses_page linear byte = true →
      bit_is_set (v.pte cr3 (next_page linear)) VCPU_PGENTRY_D = true)

/-- What an access has done when its translation succeeded. -/
structure Translated (L : ByteArrayBus env.bus) (T : U32 → Prop) (v : View) (m : Mode) (R : Prop)
    (entry : U32 → Option TlbEntry) (linear : U32) (byte : Nat) (write : Bool) (vpl : Level)
    (pages : Pages) (v' : View) (c : Context β) : Prop where
  marked : MarkedOn (fun _ => True) v v'
  state : Translates L T v' m R c
  look : v.look_pages m entry linear byte write (vpl == 3) = .ok pages.clean
  dirty : R → m.paging = true → write = true → DirtyPages v' m.cr3 linear byte

/-- How the translation of an access fails: with the board, having set marks; or with the
page fault its pages call for, having marked directory entries only. -/
def AccessFailed (L : ByteArrayBus env.bus) (T : U32 → Prop) (v : View) (m : Mode) (R : Prop)
    (entry : U32 → Option TlbEntry) (linear : U32) (byte : Nat) (write : Bool) (vpl : Level)
    (e : Fault) (c : Context β) : Prop :=
  (e.except = .ce ∧ ∃ v', MarkedOn (fun _ => True) v v' ∧ Translates L T v' m R c) ∨
    ∃ code address, v.look_pages m entry linear byte write (vpl == 3) = .error (code, address) ∧
      Faulted address code e c ∧ ∃ v', DirectoryMarked m.cr3 linear v v' ∧ Translates L T v' m R c

/-- The failure of committing, seen from the start of the access. -/
theorem CommitFailed.access {entry : U32 → Option TlbEntry} {v₁ v₂ : View} {e : Fault}
    {c : Context β} (h : CommitFailed L T v₁ v₂ m R e c) (h₁ : MarkedOn (fun _ => True) v v₁)
    (h₂ : MarkedOn (fun _ => True) v v₂) :
    AccessFailed L T v m R entry linear byte write vpl e c := by
  obtain ⟨he, hs⟩ := h
  rcases hs with hs | hs
  exacts [Or.inl ⟨he, v₁, h₁, hs⟩, Or.inl ⟨he, v₂, h₂, hs⟩]

/-- The failure of preparing the first page. -/
theorem PrepareFailed.access {entry : U32 → Option TlbEntry} {e : Fault} {c : Context β}
    (h : PrepareFailed L T v m R (entry linear) linear write vpl e c) :
    AccessFailed L T v m R entry linear byte write vpl e c := by
  obtain ⟨hs, he | ⟨code, hlook, hf⟩⟩ := h
  · refine Or.inl ⟨he, ?_⟩
    rcases hs with hs | hs
    exacts [⟨v, .refl _ v, hs⟩, ⟨_, v.accessed_on _ m.cr3 linear, hs⟩]
  · refine Or.inr ⟨code, linear, View.look_pages_error hlook, hf, ?_⟩
    rcases hs with hs | hs
    exacts [⟨v, ⟨v, Or.inl rfl, Or.inl rfl⟩, hs⟩, ⟨_, ⟨_, Or.inr rfl, Or.inl rfl⟩, hs⟩]

section Specs

variable {tlb : BitVec 3 → BitVec 2 → TlbEntry}

/-- Preparing a page leaves the buffer alone. -/
theorem kma_prepare_physical_linear_keep (hpaged : Paged env.profile)
    (ht : m.paging = true → TablesIn T v m.cr3)
    (hbyte : (linear_offset linear).toNat + byte ≤ VCPU_PAGESIZE) :
    Triple (fun c => Translates L T v m R c ∧ c.tlb = tlb)
      (kma_prepare_physical_linear env linear byte write vpl)
      (fun t c => ∃ v', (Translates L T v' m R c ∧ c.tlb = tlb) ∧
        ((v' = v ∨ v' = v.accessed m.cr3 linear) ∧
          Prepared env.profile R v' m (tlb_entry env.profile tlb linear) linear write vpl t))
      (PrepareFailed L T v m R (tlb_entry env.profile tlb linear) linear write vpl) := by
  refine ((kma_prepare_physical_linear_spec (L := L) (T := T) (v := v) (m := m) (R := R)
    hpaged ht hbyte (tlb_entry env.profile tlb linear) write vpl).keep (kma_prepare_physical_linear_walked ..) (fun d => d.tlb = tlb)).conseq ?_ ?_
    (fun _ _ h => h.1)
  · rintro c ⟨hc, rfl⟩
    exact ⟨⟨hc, rfl⟩, rfl⟩
  · rintro t c ⟨⟨v', hv', hs, hp⟩, htlb⟩
    exact ⟨v', ⟨hs, htlb⟩, hv', hp⟩

/-- An access inside a page. -/
theorem kma_physical_linear_spec (hpaged : Paged env.profile)
    (ht : m.paging = true → TablesIn T v m.cr3)
    (hbyte : byte ≤ VCPU_PAGESIZE) (hin : crosses_page linear byte = false)
    (tlb : BitVec 3 → BitVec 2 → TlbEntry) (write : Bool) (vpl : Level) :
    Triple (fun c => Translates L T v m R c ∧ c.tlb = tlb)
      (kma_physical_linear env linear byte write vpl)
      (fun page c => ∃ v', Translated L T v m R (tlb_entry env.profile tlb) linear byte write vpl
        ⟨page, none⟩ v' c)
      (AccessFailed L T v m R (tlb_entry env.profile tlb) linear byte write vpl) := by
  have hfit : (linear_offset linear).toNat + byte ≤ VCPU_PAGESIZE := by
    unfold crosses_page at hin
    simp only [decide_eq_false_iff_not] at hin
    omega
  refine Triple.bind ((kma_prepare_physical_linear_keep hpaged ht hfit).weaken
    (fun _ _ h => h) fun _ _ h => h.access) fun t => Triple.of_exists fun v₁ =>
      Triple.assume fun ⟨hv₁, hprep⟩ => ?_
  have hm₁ : MarkedOn (fun _ => True) v v₁ := by
    rcases hv₁ with rfl | rfl
    exacts [.refl _ _, v.accessed_on _ m.cr3 linear]
  have hm₂ := hprep.committed_on (fun _ => True)
  refine Triple.bind ((kma_commit_physical_linear_spec hpaged hprep).conseq (fun _ h => h.1)
    (fun _ _ h => h) fun e c h => h.access hm₁ (hm₁.trans hm₂)) fun t' => Triple.of_pure fun c h => ?_
  obtain ⟨hs, hphys, hattr, hdirty⟩ := h
  refine ⟨_, hm₁.trans hm₂, hs, ?_, fun hR hpg hw => ⟨hdirty hR hpg hw, fun hc => ?_⟩⟩
  · have hlook := (hm₁.look m _ linear write (vpl == 3)).symm.trans hprep.look
    rw [View.look_pages_one hin hlook]
    simp only [Pages.clean, Page.clean, hphys, hattr, Option.map_none]
  · rw [hin] at hc
    exact absurd hc (by decide)

/-- An access that crosses a page. -/
theorem kma_split_linear_spec (hpaged : Paged env.profile)
    (ht : m.paging = true → TablesIn T v m.cr3)
    (hbyte : byte ≤ VCPU_PAGESIZE) (hcross : crosses_page linear byte = true) :
    Triple (fun c => Translates L T v m R c ∧ c.tlb = tlb)
      (kma_split_linear env linear byte write vpl)
      (fun pages c => ∃ v', Translated L T v m R (tlb_entry env.profile tlb) linear byte write vpl
        ⟨pages.1, some pages.2⟩ v' c)
      (AccessFailed L T v m R (tlb_entry env.profile tlb) linear byte write vpl) := by
  have hfit₁ : (linear_offset linear).toNat + first_part linear ≤ VCPU_PAGESIZE := by
    have := linear_offset_lt linear
    unfold first_part
    omega
  have hfit₂ : (linear_offset (next_page linear)).toNat + (byte - first_part linear) ≤
      VCPU_PAGESIZE := by
    rw [linear_offset_next]
    omega
  -- the first page is prepared
  refine Triple.bind ((kma_prepare_physical_linear_keep hpaged ht hfit₁).weaken
    (fun _ _ h => h) fun _ _ h => h.access) fun t₁ => Triple.of_exists fun v₁ =>
      Triple.assume fun ⟨hv₁, hprep₁⟩ => ?_
  have hm₁ : ∀ R, MarkedOn R v v₁ := by
    intro R
    rcases hv₁ with rfl | rfl
    exacts [.refl _ _, v.accessed_on _ m.cr3 linear]
  have hlook₁ := ((hm₁ _).look m _ linear write (vpl == 3)).symm.trans hprep₁.look
  have hnext := (hm₁ _).look m (tlb_entry env.profile tlb (next_page linear)) (next_page linear)
    write (vpl == 3)
  -- and the second, before the first is committed
  refine Triple.bind ((kma_prepare_physical_linear_keep hpaged
    (fun hpg => (hm₁ T).tables (ht hpg)) hfit₂).weaken (fun _ _ h => h) ?_) fun t₂ =>
      Triple.of_exists fun v₂ => Triple.assume fun ⟨hv₂, hprep₂⟩ => ?_
  · rintro e c ⟨hs, he | ⟨code, hlook, hf⟩⟩
    · refine Or.inl ⟨he, ?_⟩
      rcases hs with hs | hs
      exacts [⟨v₁, hm₁ _, hs⟩, ⟨_, (hm₁ _).trans (v₁.accessed_on _ m.cr3 _), hs⟩]
    · refine Or.inr ⟨code, next_page linear,
        View.look_pages_next_error hcross hlook₁ (hnext.symm.trans hlook), hf, ?_⟩
      rcases hs with hs | hs
      exacts [⟨v₁, ⟨v₁, hv₁, Or.inl rfl⟩, hs⟩, ⟨_, ⟨v₁, hv₁, Or.inr rfl⟩, hs⟩]
  have hm₂ : MarkedOn (fun _ => True) v v₂ := by
    rcases hv₂ with rfl | rfl
    exacts [hm₁ _, (hm₁ _).trans (v₁.accessed_on _ m.cr3 _)]
  have hprep₁₂ : Prepared env.profile R v₂ m (tlb_entry env.profile tlb linear) linear write vpl
      t₁ := by
    rcases hv₂ with rfl | rfl
    exacts [hprep₁, hprep₁.marked (aligned_pde m.cr3 _) Marks.accessed (accessed_required write)]
  -- both commits find what was prepared
  have hm₃ := hprep₁₂.committed_on (fun _ => True)
  have hprep₂₃ := hprep₂.beside hprep₁₂
  have hm₄ := hprep₂₃.committed_on (fun _ => True)
  refine Triple.bind ((kma_commit_physical_linear_spec hpaged hprep₁₂).conseq (fun _ h => h.1)
    (fun _ _ h => h) fun e c h => h.access hm₂ (hm₂.trans hm₃)) fun t₁' =>
      Triple.assume fun ⟨hphys₁, hattr₁, hdirty₁⟩ => ?_
  refine Triple.bind ((kma_commit_physical_linear_spec hpaged hprep₂₃).weaken (fun _ _ h => h)
    fun e c h => h.access (hm₂.trans hm₃) ((hm₂.trans hm₃).trans hm₄))
    fun t₂' => Triple.of_pure fun c h => ?_
  obtain ⟨hs, hphys₂, hattr₂, hdirty₂⟩ := h
  have hlook₂ := (hm₂.look m _ (next_page linear) write (vpl == 3)).symm.trans hprep₂.look
  refine ⟨_, (hm₂.trans hm₃).trans hm₄, hs, ?_, fun hR hpg hw => ⟨?_, fun _ => hdirty₂ hR hpg hw⟩⟩
  · rw [View.look_pages_two hcross hlook₁ hlook₂]
    simp only [Pages.clean, Page.clean, hphys₁, hattr₁, hphys₂, hattr₂, Option.map_some]
  · exact View.pte_dirty_mono hm₄ (hdirty₁ hR hpg hw)

/-- **The translation of an access is that of its pages.** -/
theorem kma_translate_linear_spec (hpaged : Paged env.profile)
    (ht : m.paging = true → TablesIn T v m.cr3) (hbyte : byte ≤ VCPU_PAGESIZE)
    (tlb : BitVec 3 → BitVec 2 → TlbEntry) (linear : U32) (write : Bool) (vpl : Level) :
    Triple (fun c => Translates L T v m R c ∧ c.tlb = tlb)
      (kma_translate_linear env linear byte write vpl)
      (fun pages c => ∃ v',
        Translated L T v m R (tlb_entry env.profile tlb) linear byte write vpl pages v' c)
      (AccessFailed L T v m R (tlb_entry env.profile tlb) linear byte write vpl) := by
  refine Triple.ite (fun hcross => ?_) fun hin => ?_
  · exact Triple.bind (kma_split_linear_spec hpaged ht hbyte hcross) fun _ =>
      Triple.of_pure fun _ h => h
  · exact Triple.bind (kma_physical_linear_spec hpaged ht hbyte (by simpa using hin) tlb write vpl) fun _ =>
      Triple.of_pure fun _ h => h

end Specs

/-! ## Transfers -/

/-- The bytes a physical access of `n` bytes at `a` answers. The 80486SX resolves every
byte on its own. -/
def View.read_bytes (v : View) (profile : Profile) (p : Provenance) (a : U32) (n : Nat) : List U8 :=
  if profile = .p80486sx then v.bytes profile p a n else v.bus_bytes profile p a n

theorem CoherentOn.mono {T' : U32 → Prop} {mem : Mem 32}
    {cache : BitVec 7 → BitVec 2 → CacheLine} (h : CoherentOn T mem cache)
    (hT : ∀ x, T' x → T x) : CoherentOn T' mem cache :=
  ⟨h.unique, fun set way hv k hk => h.agree set way hv k (hT _ hk)⟩

theorem Sees.mono {T' : U32 → Prop} {c : Context β} (h : Sees L T v c) (hT : ∀ x, T' x → T x) :
    Sees L T' v c :=
  ⟨h.view, fun hprof => (h.coherent hprof).mono hT⟩

/-- Reading where the cache is a copy of memory. -/
theorem kma_read_physical_sees (hpaged : Paged env.profile) (hT : ∀ x, T x) (a : U32) (n : Nat)
    (p : Provenance) (attributes : U32) :
    Triple (Sees L T v) (kma_read_physical env a n p attributes)
      (fun data c => Sees L T v c ∧ data = v.read_bytes env.profile p a n)
      (fun e c => Sees L T v c ∧ e.except = .ce) := by
  rcases hpaged with hprof | hprof
  · have hread : kma_read_physical env a n p attributes = kma_read_bus env a n p attributes := by
      rw [kma_read_physical, hprof]
      rfl
    rw [hread, View.read_bytes, if_neg (by rw [hprof]; decide)]
    refine (kma_read_bus_view (L := L) (v := v) a n p attributes).conseq (fun _ h => h.view) ?_ ?_
    · rintro data c ⟨hv, hd⟩
      exact ⟨⟨hv, fun h => absurd (hprof.symm.trans h) (by decide)⟩, hd⟩
    · rintro e c ⟨hv, he⟩
      exact ⟨⟨hv, fun h => absurd (hprof.symm.trans h) (by decide)⟩, he⟩
  · rw [View.read_bytes, if_pos hprof, hprof]
    exact (kma_read_physical_spec (L := L) (T := T) (v := v) hprof a n p attributes
      fun i _ => hT _).conseq (fun c h => h.shows hprof) (fun _ _ h => ⟨h.1.sees, h.2⟩)
        fun _ _ h => ⟨h.1.sees, h.2⟩

/-- The bytes of an access, page after page. -/
def View.page_bytes (v : View) (profile : Profile) (p : Provenance) (linear : U32) (n : Nat)
    (pages : Pages) : List U8 :=
  match pages.second with
  | none => v.read_bytes profile p pages.first.physical n
  | some second => v.read_bytes profile p pages.first.physical (first_part linear) ++
      v.read_bytes profile p second.physical (n - first_part linear)

theorem kma_read_pages_spec (hpaged : Paged env.profile) (hT : ∀ x, T x) (linear : U32) (n : Nat)
    (pages : Pages) (p : Provenance) :
    Triple (fun c => Sees L T v c ∧ c.memory_access_provenance = p)
      (kma_read_pages env linear n pages)
      (fun data c => Sees L T v c ∧ data = v.page_bytes env.profile p linear n pages)
      (fun e c => Sees L T v c ∧ e.except = .ce) := by
  refine Triple.bind (M := fun prov c => Sees L T v c ∧ prov = p)
    (Triple.of_query fun c h => h) fun prov => Triple.assume fun hprov => ?_
  subst hprov
  unfold View.page_bytes
  cases pages.second with
  | none => exact kma_read_physical_sees hpaged hT _ _ _ _
  | some second =>
    refine Triple.bind (kma_read_physical_sees hpaged hT _ _ _ _) fun data₁ => Triple.assume fun h₁ => ?_
    refine Triple.bind (kma_read_physical_sees hpaged hT _ _ _ _) fun data₂ => Triple.assume fun h₂ => ?_
    rw [h₁, h₂]
    exact Triple.of_pure fun c h => ⟨h, rfl⟩

theorem kma_read_pages_harmless (L : ByteArrayBus env.bus) (linear : U32) (n : Nat)
    (pages : Pages) : Harmless L (kma_read_pages env linear n pages) := by
  refine (Harmless.of_query _).bind fun p => ?_
  cases pages.second with
  | none => exact kma_read_physical_harmless ..
  | some second =>
    refine (kma_read_physical_harmless ..).bind fun data₁ => ?_
    exact (kma_read_physical_harmless ..).bind fun data₂ => Harmless.of_pure _

/-- Writing, whatever the cache holds: a change at most at the operand, and all of its
bytes in memory unless CR0.NW keeps them in a line. -/
theorem kma_write_physical_sees (hpaged : Paged env.profile) (a : U32) (data : List U8)
    (p : Provenance) (attributes : U32) (nw : Bool) :
    Triple (fun c => Sees L (fun _ => False) v c ∧ c.cpu.cr0_nw = nw)
      (kma_write_physical env a data p attributes)
      (fun _ c => ∃ v', Sees L (fun _ => False) v' c ∧ v.Within a data.length v' ∧
        ((env.profile = .p80486sx → nw = false) → v' = v.stored a data))
      (fun e _ => e.except = .ce) := by
  rcases hpaged with hprof | hprof
  · have hwrite : kma_write_physical env a data p attributes =
        kma_write_bus env a data p attributes := by
      rw [kma_write_physical, hprof]
      rfl
    rw [hwrite]
    refine (kma_write_bus_spec (L := L) (v := v) a data p attributes).conseq
      (fun _ h => h.1.view) ?_ (fun _ _ h => h.1)
    exact fun _ _ hv => ⟨_, ⟨hv, fun h => absurd (hprof.symm.trans h) (by decide)⟩,
      v.within_stored a (Nat.le_refl _), fun _ => rfl⟩
  · refine (kma_write_physical_spec (L := L) (T := fun _ => False) (v := v) hprof a data p
      attributes nw fun _ _ _ h => h).conseq (fun c h => ⟨h.1.shows hprof, h.2⟩) ?_
      (fun _ _ h => h.1)
    rintro _ c ⟨v', hs, hw, he⟩
    exact ⟨v', hs.sees, hw, fun h => he (h hprof)⟩

/-- The transfer of a read keeps the cache a copy of memory, wherever it is one. -/
theorem kma_read_pages_shows (hprof : env.profile = .p80486sx) (pages : Pages) :
    Triple (Shows L T v) (kma_read_pages env linear byte pages) (fun _ => Shows L T v)
      (fun _ => Shows L T v) := by
  refine Triple.bind (M := fun _ => Shows L T v) (Triple.of_query fun _ h => h) fun p => ?_
  have hread := fun a n attributes => (kma_read_physical_answers (L := L) (T := T) (v := v)
    hprof a n p attributes).weaken (fun _ _ h => h.1) fun _ _ h => h.1
  cases pages.second with
  | none => exact hread _ _ _
  | some second =>
    exact (hread _ _ _).bind fun _ => (hread _ _ _).bind fun _ => Triple.of_pure fun _ h => h

/-- Memory after the operand has been written to its pages. -/
def View.stored_pages (v : View) (linear : U32) (data : List U8) (pages : Pages) : View :=
  match pages.second with
  | none => v.stored pages.first.physical data
  | some second =>
    (v.stored pages.first.physical (data.take (first_part linear))).stored second.physical
      (data.drop (first_part linear))

/-- The physical address of byte `i` of an access. -/
def Pages.address (pages : Pages) (linear : U32) (i : Nat) : U32 :=
  match pages.second with
  | none => pages.first.physical + BitVec.ofNat 32 i
  | some second =>
    if i < first_part linear then pages.first.physical + BitVec.ofNat 32 i
    else second.physical + BitVec.ofNat 32 (i - first_part linear)

/-- So does the transfer of a write, unless CR0.NW keeps bytes of `T` in a line. -/
theorem kma_write_pages_shows (hprof : env.profile = .p80486sx) {data : List U8} {pages : Pages}
    (nw : Bool) (hline : nw = true → ∀ i < data.length,
      ¬ T (v.decoding.decode (pages.address linear i))) :
    Triple (fun c => Shows L T v c ∧ c.cpu.cr0_nw = nw) (kma_write_pages env linear data pages)
      (fun _ c => ∃ v', Shows L T v' c) (fun _ c => ∃ v', Shows L T v' c) := by
  have hends : ∀ {P : Context β → Prop} {x : Exec β Unit} {v : View} {a : U32} {data : List U8},
      Triple P x (fun _ => Written L T v a data nw) (PartlyWritten L T v a data nw) →
      Triple P x (fun _ c => ∃ v', Shows L T v' c) (fun _ c => ∃ v', Shows L T v' c) := by
    intro P x v a data h
    refine h.weaken ?_ ?_
    · rintro _ c ⟨v', hs, -⟩
      exact ⟨v', hs⟩
    · rintro e c ⟨-, v', hs, -⟩
      exact ⟨v', hs⟩
  refine Triple.bind (M := fun _ c => Shows L T v c ∧ c.cpu.cr0_nw = nw)
    (Triple.of_query fun _ h => h) fun p => ?_
  obtain ⟨first, second⟩ := pages
  cases second with
  | none =>
    exact hends (kma_write_physical_spec (L := L) (T := T) hprof first.physical data p
      first.attributes nw hline)
  | some second =>
    have hone := (kma_write_physical_spec (L := L) (T := T) (v := v) hprof first.physical
      (data.take (first_part linear)) p first.attributes nw fun hnw i hi => by
        rw [List.length_take] at hi
        have := hline hnw i (by omega)
        simp only [Pages.address] at this
        rwa [if_pos (by omega)] at this).keep (kma_write_physical_core ..)
      (fun d => d.cpu.cr0_nw = nw)
    refine Triple.bind (M := fun _ c => ∃ v₁, (Shows L T v₁ c ∧ c.cpu.cr0_nw = nw) ∧
      v₁.decoding = v.decoding) (hone.conseq (fun _ h => ⟨h, h.2⟩) ?_ ?_)
      fun _ => Triple.of_exists fun v₁ => Triple.assume fun hdec => ?_
    · rintro _ c ⟨⟨v', hs', hw, -⟩, hnw⟩
      exact ⟨v', ⟨hs', hnw⟩, hw.decoding⟩
    · rintro e c ⟨⟨-, v', hs', -⟩, -⟩
      exact ⟨v', hs'⟩
    · refine hends (kma_write_physical_spec (L := L) (T := T) (v := v₁) hprof second.physical
        (data.drop (first_part linear)) p second.attributes nw fun hnw i hi => ?_)
      rw [List.length_drop] at hi
      have := hline hnw (i + first_part linear) (by omega)
      simp only [Pages.address] at this
      rw [if_neg (by omega), Nat.add_sub_cancel] at this
      rw [hdec]
      exact this

/-- A change at most at the bytes of an access. -/
def WithinPages (v : View) (linear : U32) (n : Nat) (pages : Pages) (v' : View) : Prop :=
  v'.decoding = v.decoding ∧
    ∀ x, (∀ i < n, x ≠ v.decoding.decode (pages.address linear i)) → v'.mem x = v.mem x

theorem kma_write_pages_spec (hpaged : Paged env.profile) (linear : U32) (data : List U8)
    (pages : Pages) (nw : Bool) :
    Triple (fun c => Sees L (fun _ => False) v c ∧ c.cpu.cr0_nw = nw)
      (kma_write_pages env linear data pages)
      (fun _ c => ∃ v', L.view c = v' ∧ WithinPages v linear data.length pages v' ∧
        ((env.profile = .p80486sx → nw = false) → v' = v.stored_pages linear data pages))
      (fun e _ => e.except = .ce) := by
  refine Triple.bind (M := fun _ c => Sees L (fun _ => False) v c ∧ c.cpu.cr0_nw = nw)
    (Triple.of_query fun c h => h) fun prov => ?_
  unfold View.stored_pages WithinPages Pages.address
  cases pages.second with
  | none =>
    refine (kma_write_physical_sees hpaged _ _ _ _ nw).weaken ?_ fun _ _ h => h
    rintro _ c ⟨v', hs, hw, he⟩
    exact ⟨v', hs.view, ⟨hw.decoding, hw.mem⟩, he⟩
  | some second =>
    refine Triple.bind (M := fun _ c => ∃ v₁, (Sees L (fun _ => False) v₁ c ∧ c.cpu.cr0_nw = nw) ∧
        (v.Within pages.first.physical (data.take (first_part linear)).length v₁ ∧
        ((env.profile = .p80486sx → nw = false) →
          v₁ = v.stored pages.first.physical (data.take (first_part linear))))) ?_
      fun _ => Triple.of_exists fun v₁ => Triple.assume fun ⟨hw₁, he₁⟩ => ?_
    · refine ((kma_write_physical_sees (L := L) (v := v) hpaged pages.first.physical
        (data.take (first_part linear)) prov pages.first.attributes nw).keep
        (kma_write_physical_core ..) (fun d => d.cpu.cr0_nw = nw)).conseq (fun c h => ⟨h, h.2⟩) ?_
        (fun _ _ h => h.1)
      rintro _ c ⟨⟨v₁, hs, hw, he⟩, hnw⟩
      exact ⟨v₁, ⟨hs, hnw⟩, hw, he⟩
    · refine (kma_write_physical_sees (L := L) (v := v₁) hpaged _ _ _ _ nw).weaken ?_ fun _ _ h => h
      rintro _ c ⟨v₂, hs, hw₂, he₂⟩
      refine ⟨v₂, hs.view, ⟨hw₂.decoding.trans hw₁.decoding, fun x hx => ?_⟩, fun h => ?_⟩
      · rw [hw₂.mem x fun i hi => ?_, hw₁.mem x fun i hi => ?_]
        · rw [List.length_take] at hi
          have := hx i (by omega)
          simp only at this
          rwa [if_pos (by omega)] at this
        · rw [List.length_drop] at hi
          have := hx (i + first_part linear) (by omega)
          simp only at this
          rw [if_neg (by omega), Nat.add_sub_cancel] at this
          rw [hw₁.decoding]
          exact this
      · rw [he₂ h, he₁ h]

end Nxvm.Cpu
