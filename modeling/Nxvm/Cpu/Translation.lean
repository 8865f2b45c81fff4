/-
The translation buffer of the 80486SX agrees with the page tables
(`_kma_tlb_fill`, `_kma_prepare_physical_linear`, `_kma_commit_physical_linear`).

An entry stores what a walk found: the page, its combined permissions and cache
control, and whether the walk set the Dirty bit. `TlbSound` says that this is what the
tables in memory still say, Accessed and Dirty bits apart. What an access answers is
`View.look`, the buffer's entry or the walk; while the buffer is sound, that is the walk.

The specs below carry a proposition `R`, "the buffer was sound at the start": what they
say of addresses and memory holds of a stale buffer too.
-/
import Nxvm.Cpu.PageWalk

set_option autoImplicit false

namespace Nxvm.Cpu

open Nxvm.Lib Nxvm.Lib.Exec Nxvm.Lib.Memory Nxvm.Lib.Directory

variable {β : Type} {env : Env β} {L : ByteArrayBus env.bus} {T : U32 → Prop} {v v' : View}
variable {cr3 linear : U32} {write wp : Bool} {vpl : Level} {R : Prop}

/-! ## Pages -/

/-- The page a linear address lies in. -/
def page_of (linear : U32) : U32 := linear &&& VCPU_PGENTRY_BASE

theorem and_page (linear mask : U32) (h : VCPU_PGENTRY_BASE &&& mask = mask) :
    page_of linear &&& mask = linear &&& mask := by
  rw [page_of, BitVec.and_assoc, h]

theorem linear_dir_page (linear : U32) : linear_dir (page_of linear) = linear_dir linear := by
  rw [linear_dir, and_page linear _ (by decide), linear_dir]

theorem linear_page_page (linear : U32) : linear_page (page_of linear) = linear_page linear := by
  rw [linear_page, and_page linear _ (by decide), linear_page]

/-- The entries of an address are those of its page. -/
theorem View.pde_page (v : View) (cr3 linear : U32) :
    v.pde cr3 (page_of linear) = v.pde cr3 linear := by
  rw [View.pde, pde_address, linear_dir_page, View.pde, pde_address]

theorem View.pte_page (v : View) (cr3 linear : U32) :
    v.pte cr3 (page_of linear) = v.pte cr3 linear := by
  rw [View.pte, View.pde_page, pte_address, linear_page_page, View.pte, pte_address]

theorem tlb_set_toNat (linear : U32) : (tlb_set linear).toNat = linear.toNat / 4096 % 8 := by
  simp only [tlb_set, BitVec.extractLsb'_toNat, Nat.shiftRight_eq_div_pow]

theorem tlb_set_page (linear : U32) : tlb_set (page_of linear) = tlb_set linear := by
  refine BitVec.eq_of_toNat_eq ?_
  rw [tlb_set_toNat, tlb_set_toNat, page_of, page_base_toNat]
  omega

/-- Page and offset spell the address. -/
theorem page_base_add (base linear : U32) :
    page_entry_base (page_entry_base base + linear_offset linear) = page_entry_base base := by
  have hb := base.isLt
  refine BitVec.eq_of_toNat_eq ?_
  rw [page_entry_base, page_base_toNat, page_entry_base, BitVec.toNat_add, page_base_toNat,
    linear_offset_toNat]
  omega

/-! ## Combined attributes -/

theorem clean_bit (attributes flag : U32) (h : 0x1e &&& flag = flag) :
    bit_is_set (clean attributes) flag = bit_is_set attributes flag := by
  rw [bit_is_set, clean, BitVec.and_assoc, h, bit_is_set]

/-- One bit of the combined attributes is that bit of both entries. -/
theorem page_attributes_bit (pde pte : U32) (i : Nat) (hi : i = 1 ∨ i = 2) :
    bit_is_set (page_attributes pde pte) (BitVec.twoPow 32 i) =
      (bit_is_set pde (BitVec.twoPow 32 i) && bit_is_set pte (BitVec.twoPow 32 i)) := by
  have hone : ∀ x : U32, bit_is_set x (BitVec.twoPow 32 i) = x.getLsbD i := by
    intro x
    rw [bit_is_set, BitVec.and_twoPow]
    rcases hi with rfl | rfl
    · cases x.getLsbD 1 <;> rfl
    · cases x.getLsbD 2 <;> rfl
  rw [hone, hone, hone, page_attributes]
  rcases hi with rfl | rfl
  · simp only [BitVec.getLsbD_or, BitVec.getLsbD_and, show (0x58 : U32).getLsbD 1 = false from rfl,
      show (6 : U32).getLsbD 1 = true from rfl]
    simp
  · simp only [BitVec.getLsbD_or, BitVec.getLsbD_and, show (0x58 : U32).getLsbD 2 = false from rfl,
      show (6 : U32).getLsbD 2 = true from rfl]
    simp

/-- **The check on a hit is the two checks of the walk.** -/
theorem page_denied_combined {attributes pde pte : U32}
    (h : clean attributes = clean (page_attributes pde pte)) (write user wp : Bool) :
    page_denied attributes write user wp =
      (page_denied pde write user wp || page_denied pte write user wp) := by
  have hus : bit_is_set attributes VCPU_PGENTRY_US =
      (bit_is_set pde VCPU_PGENTRY_US && bit_is_set pte VCPU_PGENTRY_US) := by
    rw [← clean_bit attributes _ (by decide), h, clean_bit _ _ (by decide)]
    exact page_attributes_bit pde pte 2 (Or.inr rfl)
  have hrw : bit_is_set attributes VCPU_PGENTRY_RW =
      (bit_is_set pde VCPU_PGENTRY_RW && bit_is_set pte VCPU_PGENTRY_RW) := by
    rw [← clean_bit attributes _ (by decide), h, clean_bit _ _ (by decide)]
    exact page_attributes_bit pde pte 1 (Or.inl rfl)
  unfold page_denied
  rw [hus, hrw]
  cases user <;> cases write <;> cases wp <;> cases bit_is_set pde VCPU_PGENTRY_US <;>
    cases bit_is_set pte VCPU_PGENTRY_US <;> cases bit_is_set pde VCPU_PGENTRY_RW <;>
    cases bit_is_set pte VCPU_PGENTRY_RW <;> rfl

/-- Both entries present: what is left of the walk. -/
theorem View.walk_present {user : Bool}
    (hp : bit_is_set (v.pde cr3 linear) VCPU_PGENTRY_P = true)
    (hp' : bit_is_set (v.pte cr3 linear) VCPU_PGENTRY_P = true) {attributes : U32}
    (ha : clean attributes = clean (page_attributes (v.pde cr3 linear) (v.pte cr3 linear))) :
    v.walk cr3 linear write user wp =
      if page_denied attributes write user wp = true then
        .error (make_page_fault_error_code true write user)
      else .ok ⟨page_entry_base (v.pte cr3 linear) + linear_offset linear, clean attributes⟩ := by
  rw [page_denied_combined ha, ha]
  cases hd : page_denied (v.pde cr3 linear) write user wp with
  | true => simpa using View.walk_denied hp hd
  | false =>
    cases hd' : page_denied (v.pte cr3 linear) write user wp with
    | true => simpa using View.walk_table_denied hp hd hp' hd'
    | false => simpa using View.walk_allowed hp hd hp' hd'

/-! ## The invariant -/

/-- What a valid entry in this set says is what the tables say. -/
structure EntryFor (v : View) (cr3 : U32) (set : BitVec 3) (e : TlbEntry) : Prop where
  page : page_of e.linear = e.linear
  set : tlb_set e.linear = set
  pde_present : bit_is_set (v.pde cr3 e.linear) VCPU_PGENTRY_P = true
  pte_present : bit_is_set (v.pte cr3 e.linear) VCPU_PGENTRY_P = true
  physical : e.physical = page_entry_base (v.pte cr3 e.linear)
  attributes : clean e.attributes =
    clean (page_attributes (v.pde cr3 e.linear) (v.pte cr3 e.linear))
  dirty : bit_is_set e.attributes VCPU_PGENTRY_D = true →
    bit_is_set (v.pte cr3 e.linear) VCPU_PGENTRY_D = true

/-- The translation buffer finds every page in one way only, and tells the truth. -/
structure TlbSound (v : View) (cr3 : U32) (tlb : BitVec 3 → BitVec 2 → TlbEntry) : Prop where
  unique : Unique tlb_scheme tlb
  sound : AllValid tlb_scheme (EntryFor v cr3) tlb

theorem bit_is_set_or (x y flag : U32) (i : Nat) (hf : flag = BitVec.twoPow 32 i)
    (h : bit_is_set x flag = true) : bit_is_set (x ||| y) flag = true := by
  subst hf
  rw [bit_is_set, BitVec.and_twoPow] at *
  rw [BitVec.getLsbD_or]
  cases hx : x.getLsbD i with
  | true => simpa [hx] using h
  | false => simp [hx] at h

/-- Setting marks in the tables does not make an entry wrong. -/
theorem EntryFor.marked (h : MarkedOn T v v') (ht : TablesIn T v cr3) {set : BitVec 3}
    {e : TlbEntry} (he : EntryFor v cr3 set e) : EntryFor v' cr3 set e := by
  obtain ⟨b₁, hb₁, hpde⟩ := h.pde ht e.linear
  obtain ⟨b₂, hb₂, hpte⟩ := h.pte ht e.linear he.pde_present
  refine ⟨he.page, he.set, ?_, ?_, ?_, ?_, fun hd => ?_⟩
  · rw [hpde, hb₁.bit_is_set (by decide), he.pde_present]
  · rw [hpte, hb₂.bit_is_set (by decide), he.pte_present]
  · rw [hpte, page_entry_base, hb₂.and_eq (by decide), he.physical, page_entry_base]
  · rw [hpde, hpte, hb₁.page_attributes hb₂, he.attributes]
  · rw [hpte]
    exact bit_is_set_or _ _ _ 6 rfl (he.dirty hd)

theorem TlbSound.marked (h : MarkedOn T v v') (ht : TablesIn T v cr3)
    {tlb : BitVec 3 → BitVec 2 → TlbEntry} (hs : TlbSound v cr3 tlb) : TlbSound v' cr3 tlb :=
  ⟨hs.unique, fun set way hv => (hs.sound set way hv).marked h ht⟩

theorem TlbSound.drops {tlb tlb' : BitVec 3 → BitVec 2 → TlbEntry} (hs : TlbSound v cr3 tlb)
    (h : Drops tlb_scheme tlb tlb') : TlbSound v cr3 tlb' :=
  ⟨hs.unique.drops h, hs.sound.drops h⟩

/-- An empty buffer is right about everything. -/
theorem TlbSound.of_empty {tlb : BitVec 3 → BitVec 2 → TlbEntry}
    (h : ∀ set way, (tlb set way).valid = false) : TlbSound v cr3 tlb := by
  refine ⟨fun set way way' hv => ?_, fun set way hv => ?_⟩
  · exact absurd hv (by simp [tlb_scheme, h])
  · exact absurd hv (by simp [tlb_scheme, h])

/-- An entry for its own page may be filled in where `_kma_tlb_fill` puts it. -/
theorem TlbSound.fill {c : Context β} (hs : TlbSound v cr3 c.tlb) {e : TlbEntry}
    (hl : e.linear = page_of linear) (he : EntryFor v cr3 (tlb_set linear) e) (fallback : BitVec 2) :
    TlbSound v cr3 (put c.tlb (tlb_set linear) ((kma_tlb_way c linear).getD fallback) e) := by
  refine ⟨?_, hs.sound.put fun _ => he⟩
  cases hw : kma_tlb_way c linear with
  | some way => exact hs.unique.put_found (k := page_of linear) hw hl
  | none => exact hs.unique.put_absent mem_ways (k := page_of linear) hw hl

/-! ## What an access answers -/

/-- Whether and how the processor translates. The 80386 has no CR0.WP. -/
structure Mode where
  paging : Bool
  cr3 : U32
  wp : Bool
  deriving DecidableEq, Repr

def Mode.of (profile : Profile) (cpu : CpuData) : Mode :=
  ⟨cpu.is_paging, cpu.cr3, decide (profile = .p80486sx) && cpu.cr0_wp⟩

theorem Mode.in_mode {profile : Profile} {c : Context β} {m : Mode}
    (h : Mode.of profile c.cpu = m) : InMode profile m.cr3 m.wp c := by
  subst h
  exact ⟨rfl, rfl⟩

/-- The entry an access to `linear` finds in the buffer. -/
def tlb_entry (profile : Profile) (tlb : BitVec 3 → BitVec 2 → TlbEntry) (linear : U32) :
    Option TlbEntry :=
  if profile = .p80486sx then
    (find tlb_scheme ways tlb (tlb_set linear) (page_of linear)).map (tlb (tlb_set linear))
  else none

/-- What an access to `linear` is translated to, or the error code of its page fault: by
the entry of the buffer, if there is one that may serve it, and else by the walk. -/
def View.look (v : View) (m : Mode) (entry : Option TlbEntry) (linear : U32) (write user : Bool) :
    Except U32 Page :=
  if m.paging = false then .ok ⟨linear, 0⟩
  else
    match entry with
    | none => v.walk m.cr3 linear write user m.wp
    | some e =>
      if page_denied e.attributes write user m.wp = true then
        .error (make_page_fault_error_code true write user)
      else if write = true ∧ e.attributes &&& 0x40 = 0 then v.walk m.cr3 linear write user m.wp
      else .ok ⟨e.physical + linear_offset linear, clean e.attributes⟩

section Look

variable {m : Mode} {user : Bool}

theorem View.look_off (v : View) (hm : m.paging = false) (entry : Option TlbEntry) :
    v.look m entry linear write user = .ok ⟨linear, 0⟩ := if_pos hm

theorem View.look_none (v : View) (hm : m.paging = true) :
    v.look m none linear write user = v.walk m.cr3 linear write user m.wp :=
  if_neg (by rw [hm]; decide)

theorem View.look_some (v : View) (hm : m.paging = true) (e : TlbEntry) (linear : U32)
    (write user : Bool) :
    v.look m (some e) linear write user =
      if page_denied e.attributes write user m.wp = true then
        .error (make_page_fault_error_code true write user)
      else if write = true ∧ e.attributes &&& 0x40 = 0 then v.walk m.cr3 linear write user m.wp
      else .ok ⟨e.physical + linear_offset linear, clean e.attributes⟩ :=
  if_neg (by rw [hm]; decide)

end Look

/-- Marks do not change the answer. -/
theorem MarkedOn.look (h : MarkedOn (fun _ => True) v v') (m : Mode) (entry : Option TlbEntry)
    (linear : U32) (write user : Bool) :
    v'.look m entry linear write user = v.look m entry linear write user := by
  unfold View.look
  rw [h.walk (.all v m.cr3)]

/-- **A sound buffer answers what the walk answers.** -/
theorem TlbSound.look {m : Mode} {tlb : BitVec 3 → BitVec 2 → TlbEntry}
    (h : TlbSound v m.cr3 tlb) (profile : Profile) (linear : U32) (write user : Bool) :
    v.look m (tlb_entry profile tlb linear) linear write user = v.look m none linear write user := by
  cases hm : m.paging with
  | false => rw [v.look_off hm, v.look_off hm]
  | true =>
    by_cases hprof : profile = .p80486sx
    · rw [tlb_entry, if_pos hprof]
      cases hf : find tlb_scheme ways tlb (tlb_set linear) (page_of linear) with
      | none => rfl
      | some way =>
        obtain ⟨hv, hpage⟩ := find_some hf
        have he := h.sound _ way hv
        have hp := he.pde_present
        have hp' := he.pte_present
        have hattr := he.attributes
        have hphys := he.physical
        change (tlb (tlb_set linear) way).linear = page_of linear at hpage
        rw [hpage, v.pde_page] at hp
        rw [hpage, v.pte_page] at hp' hphys
        rw [hpage, v.pde_page, v.pte_page] at hattr
        rw [Option.map_some, v.look_some hm, v.look_none hm, View.walk_present hp hp' hattr, hphys]
        split
        · rfl
        · exact ite_self _
    · rw [tlb_entry, if_neg hprof]

/-! ## Looking up -/

/-- The state a translation starts from. -/
structure Translates (L : ByteArrayBus env.bus) (T : U32 → Prop) (v : View) (m : Mode) (R : Prop)
    (c : Context β) : Prop where
  sees : Sees L T v c
  mode : Mode.of env.profile c.cpu = m
  tlb : R → env.profile = .p80486sx → TlbSound v m.cr3 c.tlb

/-- What a hit prepares. -/
def TlbEntry.translation (e : TlbEntry) (linear : U32) (vpl : Level) : LinearTranslation :=
  { LinearTranslation.start linear vpl with
    physical := e.physical + linear_offset linear
    attributes := e.attributes
    paging := true
    tlb_hit := true }

/-- A translation served by the buffer. The Dirty attribute is set if the page is
written. -/
structure Hit (R : Prop) (v : View) (cr3 linear : U32) (write : Bool) (t : LinearTranslation) :
    Prop where
  address : t.linear = linear
  paging : t.paging = true
  tlb_hit : t.tlb_hit = true
  entry : R → EntryFor v cr3 (tlb_set linear)
    ⟨page_of linear, page_entry_base t.physical, t.attributes, true⟩
  dirty : write = true → bit_is_set t.attributes VCPU_PGENTRY_D = true

/-- A sound entry, as a hit hands it on. -/
theorem EntryFor.hit {e : TlbEntry} (he : EntryFor v cr3 (tlb_set linear) e)
    (hpage : e.linear = page_of linear) (vpl : Level) :
    EntryFor v cr3 (tlb_set linear)
      ⟨page_of linear, page_entry_base (e.translation linear vpl).physical, e.attributes, true⟩ := by
  obtain ⟨hp, hset, hpde, hpte, hphys, hattr, hdirty⟩ := he
  rw [hpage] at hp hset hpde hpte hphys hattr hdirty
  refine ⟨hp, hset, hpde, hpte, ?_, hattr, hdirty⟩
  simp only [TlbEntry.translation, hphys, v.pte_page, page_base_add]

theorem kma_tlb_lookup_spec (hprof : env.profile = .p80486sx) {m : Mode} (hm : m.paging = true)
    (entry : Option TlbEntry) (linear : U32) (write : Bool) (vpl : Level) :
    Triple (fun c => Translates L T v m R c ∧ tlb_entry env.profile c.tlb linear = entry)
      (kma_tlb_lookup (β := β) linear write vpl)
      (fun hit c => Translates L T v m R c ∧
        (hit = none → v.look m entry linear write (vpl == 3) =
          v.walk m.cr3 linear write (vpl == 3) m.wp) ∧
        ∀ e, hit = some e → Hit R v m.cr3 linear write (e.translation linear vpl) ∧
          v.look m entry linear write (vpl == 3) =
            .ok ⟨e.physical + linear_offset linear, clean e.attributes⟩)
      (fun e c => Sees L T v c ∧ ∃ code, v.look m entry linear write (vpl == 3) = .error code ∧
        Faulted linear code e c) := by
  refine Triple.bind (M := fun cpu c => (Translates L T v m R c ∧
      tlb_entry env.profile c.tlb linear = entry) ∧ cpu.cr0_wp = m.wp)
    (Triple.of_query fun c h => ⟨h, ?_⟩) fun cpu => Triple.assume fun hwp => ?_
  · have := h.1.mode
    rw [hprof] at this
    rw [← this]
    simp [Mode.of]
  refine Triple.bind (M := fun found c => Translates L T v m R c ∧
      (found = entry ∧ ∀ e, entry = some e → R →
        e.linear = page_of linear ∧ EntryFor v m.cr3 (tlb_set linear) e))
    (Triple.of_query fun c h => ⟨h.1, ?_⟩) fun found => Triple.assume fun ⟨hfound, hentry⟩ => ?_
  · have hdef : (kma_tlb_way c linear).map (c.tlb (tlb_set linear)) = entry := by
      rw [← h.2, tlb_entry, if_pos hprof]
      rfl
    refine ⟨hdef, fun e he hR => ?_⟩
    rw [← hdef] at he
    obtain ⟨way, hway, rfl⟩ := Option.map_eq_some_iff.mp he
    obtain ⟨hv, hk⟩ := find_some (t := tlb_scheme) hway
    exact ⟨hk, (h.1.tlb hR hprof).sound _ way hv⟩
  subst hfound
  cases found with
  | none => exact Triple.of_pure fun c h => ⟨h, fun _ => v.look_none hm, fun e he => by cases he⟩
  | some e =>
    have hlook := v.look_some hm e linear write (vpl == 3)
    refine Triple.ite (fun hd => ?_) fun hd => Triple.ite (fun hclean => ?_) fun hready => ?_
    · rw [hwp] at hd
      rw [if_pos hd] at hlook
      refine (page_fault_spec (L := L) (T := T) (v := v) linear true write (vpl == 3)).conseq
        (fun c h => h.sees) (fun _ _ h => h) ?_
      exact fun f c h => ⟨h.1, _, hlook, h.2⟩
    · rw [hwp] at hd
      rw [if_neg hd, if_pos hclean] at hlook
      exact Triple.of_pure fun c h => ⟨h, fun _ => hlook, fun e' he' => by cases he'⟩
    · rw [hwp] at hd
      rw [if_neg hd, if_neg hready] at hlook
      refine Triple.of_pure fun c h => ⟨h, fun he' => absurd he' (by simp), ?_⟩
      rintro e' ⟨⟩
      refine ⟨⟨rfl, rfl, rfl, fun hR => ?_, fun hw => ?_⟩, hlook⟩
      · obtain ⟨hpage, he⟩ := hentry e rfl hR
        exact he.hit hpage vpl
      · have hne : e.attributes &&& 0x40 ≠ 0 := fun h0 => hready ⟨hw, h0⟩
        simpa [bit_is_set, VCPU_PGENTRY_D, TlbEntry.translation] using hne

/-! ## Preparing -/

/-- A translation made by a walk, while the tables have at most been marked since. -/
structure WalkedFrom (v : View) (cr3 linear : U32) (write : Bool) (vpl : Level)
    (t : LinearTranslation) : Prop where
  address : t.linear = linear
  level : t.vpl = vpl
  paging : t.paging = true
  miss : t.tlb_hit = false
  ppte : t.ppte = pte_address (v.pde cr3 linear) linear
  cpde : ∃ b, Marks b ∧ v.pde cr3 linear = t.cpde ||| b
  cpte : ∃ b, Marks b ∧ b &&& required_bits false write = b ∧ v.pte cr3 linear = t.cpte ||| b
  physical : t.physical = page_entry_base t.cpte + linear_offset linear
  attributes : t.attributes = page_attributes t.cpde t.cpte

/-- A translation that may be committed: by whichever way it was made, it answers `look`. -/
structure Prepared (profile : Profile) (R : Prop) (v : View) (m : Mode) (entry : Option TlbEntry)
    (linear : U32) (write : Bool) (vpl : Level) (t : LinearTranslation) : Prop where
  look : v.look m entry linear write (vpl == 3) = .ok ⟨t.physical, clean t.attributes⟩
  source : t.paging = false ∧ m.paging = false ∨
    profile = .p80486sx ∧ Hit R v m.cr3 linear write t ∨
    WalkedFrom v m.cr3 linear write vpl t ∧
      v.walk m.cr3 linear write (vpl == 3) m.wp = .ok ⟨t.physical, clean t.attributes⟩

theorem View.translation_walked (v : View) (cr3 linear : U32) (write : Bool) (vpl : Level) :
    WalkedFrom v cr3 linear write vpl (v.translation cr3 linear vpl) :=
  ⟨rfl, rfl, rfl, rfl, rfl, ⟨0, rfl, by simp [View.translation]⟩,
    ⟨0, rfl, by simp, by simp [View.translation]⟩, rfl, rfl⟩

/-- How preparing fails: with the board, or with the page fault `look` calls for. The
directory entry may have been marked. -/
def PrepareFailed (L : ByteArrayBus env.bus) (T : U32 → Prop) (v : View) (m : Mode) (R : Prop)
    (entry : Option TlbEntry) (linear : U32) (write : Bool) (vpl : Level) (e : Fault)
    (c : Context β) : Prop :=
  (Translates L T v m R c ∨ Translates L T (v.accessed m.cr3 linear) m R c) ∧
    (e.except = .ce ∨ ∃ code, v.look m entry linear write (vpl == 3) = .error code ∧
      Faulted linear code e c)

/-- What only walking touches is unchanged, so a translation may start again. -/
theorem Translates.of_walked {m : Mode} {c c' : Context β} (h : Translates L T v m R c)
    (hw : walk_frame.rel c c') (hm : MarkedOn (fun _ => True) v v') (hs : Sees L T v' c') :
    Translates L T v' m R c' := by
  have hw' : c'.walked = c.walked := hw
  have hmode : Mode.of env.profile c'.walked.cpu = m := by
    rw [hw']
    exact h.mode
  have htlb : c'.tlb = c.tlb := congrArg (fun d : Context Unit => d.tlb) hw'
  refine ⟨hs, hmode, fun hR hprof => ?_⟩
  rw [htlb]
  exact (h.tlb hR hprof).marked hm (.all v m.cr3)

/-- **Preparing a translation answers `look`**, by a hit or by a walk. -/
theorem kma_prepare_physical_linear_spec (hpaged : Paged env.profile) {m : Mode}
    (ht : m.paging = true → TablesIn T v m.cr3) {byte : Nat}
    (hbyte : (linear_offset linear).toNat + byte ≤ VCPU_PAGESIZE) (entry : Option TlbEntry)
    (write : Bool) (vpl : Level) :
    Triple (fun c => Translates L T v m R c ∧ tlb_entry env.profile c.tlb linear = entry)
      (kma_prepare_physical_linear env linear byte write vpl)
      (fun t c => ∃ v', (v' = v ∨ v' = v.accessed m.cr3 linear) ∧ Translates L T v' m R c ∧
        Prepared env.profile R v' m entry linear write vpl t)
      (PrepareFailed L T v m R entry linear write vpl) := by
  have hmark := v.accessed_on (fun _ => True) m.cr3 linear
  refine Triple.ite (fun hout => absurd hout (by omega)) fun _ => ?_
  refine Triple.bind (M := fun cpu c => (Translates L T v m R c ∧
      tlb_entry env.profile c.tlb linear = entry) ∧ cpu.is_paging = m.paging)
    (Triple.of_query fun c h => ⟨h, by rw [← h.1.mode]; rfl⟩) fun cpu => Triple.assume fun hpg => ?_
  refine Triple.ite (fun hoff => ?_) fun hon => ?_
  · rw [hpg] at hoff
    refine Triple.of_pure fun c h => ⟨v, Or.inl rfl, h.1, ?_, Or.inl ⟨rfl, hoff⟩⟩
    rw [v.look_off hoff]
    simp [clean, LinearTranslation.start]
  have hm : m.paging = true := by rw [← hpg]; simpa using hon
  refine Triple.bind (M := fun hit c => Translates L T v m R c ∧
      (hit = none → v.look m entry linear write (vpl == 3) =
        v.walk m.cr3 linear write (vpl == 3) m.wp) ∧
      ∀ e, hit = some e → env.profile = .p80486sx ∧
        Hit R v m.cr3 linear write (e.translation linear vpl) ∧
        v.look m entry linear write (vpl == 3) =
          .ok ⟨e.physical + linear_offset linear, clean e.attributes⟩) ?_
    fun hit => Triple.assume fun ⟨hmiss, hhit⟩ => ?_
  · refine Triple.ite (fun hprof => ?_) fun hprof => Triple.of_pure fun c h => ⟨h.1, fun _ => ?_,
      fun e he => by cases he⟩
    · have hspec := kma_tlb_lookup_spec (L := L) (T := T) (v := v) (R := R) hprof hm entry
        linear write vpl
      refine Triple.intro (fun c hit c' hc hr => ?_) fun c e c' hc hr => ?_
      · obtain ⟨hs, hnone, hsome⟩ := hspec.of_ok hc hr
        exact ⟨hs, hnone, fun e he => ⟨hprof, hsome e he⟩⟩
      · obtain ⟨hs, he⟩ := hspec.of_error hc hr
        exact ⟨Or.inl (hc.1.of_walked ((kma_tlb_lookup_walked ..).error hr) (.refl _ v) hs),
          Or.inr he⟩
    · rw [← h.2, tlb_entry, if_neg hprof, v.look_none hm]
  cases hit with
  | some e =>
    obtain ⟨hprof, hh, hlook⟩ := hhit e rfl
    exact Triple.of_pure fun c h => ⟨v, Or.inl rfl, h, hlook, Or.inr (Or.inl ⟨hprof, hh⟩)⟩
  | none =>
    have hlook := hmiss rfl
    have hspec := kma_walk_physical_linear_spec (L := L) hpaged (ht hm) linear write m.wp vpl
    refine Triple.intro (fun c t c' hc hr => ?_) fun c e c' hc hr => ?_
    · obtain ⟨hs, rfl, hwalk⟩ := hspec.of_ok ⟨hc.sees, Mode.in_mode hc.mode⟩ hr
      have hwalk' := (hmark.walk (.all v m.cr3) linear write (vpl == 3) m.wp).trans hwalk
      refine ⟨_, Or.inr rfl,
        hc.of_walked ((kma_walk_physical_linear_walked ..).ok hr) hmark hs, ?_,
        Or.inr (Or.inr ⟨View.translation_walked _ m.cr3 linear write vpl, hwalk'⟩)⟩
      rw [hmark.look, hlook]
      exact hwalk
    · obtain ⟨hs, he⟩ := hspec.of_error ⟨hc.sees, Mode.in_mode hc.mode⟩ hr
      have hframe := (kma_walk_physical_linear_walked env linear write vpl).error hr
      refine ⟨hs.imp (hc.of_walked hframe (.refl _ v)) (hc.of_walked hframe hmark), ?_⟩
      rw [hlook]
      exact he

/-! ## Committing -/

/-- Marking an entry with bits this access sets too does not spoil a prepared
translation. -/
theorem WalkedFrom.marked {t : LinearTranslation} (h : WalkedFrom v cr3 linear write vpl t)
    {a bits : U32} (ha : Aligned a) (hb : Marks bits)
    (hreq : bits &&& required_bits false write = bits) :
    WalkedFrom (v.marked a bits) cr3 linear write vpl t := by
  obtain ⟨b₁, hb₁, hpde⟩ := h.cpde
  obtain ⟨b₂, hb₂, hreq₂, hpte⟩ := h.cpte
  obtain ⟨c₁, hc₁, hpde'⟩ := v.word_after_mark ha (aligned_pde cr3 linear) hb
  have hc₁m : Marks c₁ := by rcases hc₁ with rfl | rfl; exacts [rfl, hb]
  obtain ⟨c₂, hc₂, hpte'⟩ := v.word_after_mark ha
    (aligned_pte (v.pde cr3 linear) linear) hb
  have haddr : pte_address ((v.marked a bits).pde cr3 linear) linear =
      pte_address (v.pde cr3 linear) linear := by
    rw [View.pde, hpde', hc₁m.pte_address, View.pde]
  refine ⟨h.address, h.level, h.paging, h.miss, ?_, ⟨b₁ ||| c₁, ?_, ?_⟩, ⟨b₂ ||| c₂, ?_, ?_, ?_⟩,
    h.physical, h.attributes⟩
  · rw [h.ppte, haddr]
  · exact hb₁.or hc₁m
  · rw [View.pde, hpde', ← BitVec.or_assoc, ← hpde, View.pde]
  · refine hb₂.or ?_
    rcases hc₂ with rfl | rfl
    exacts [rfl, hb]
  · rw [BitVec.and_comm, BitVec.and_or_distrib_left, BitVec.and_comm _ b₂, hreq₂,
      BitVec.and_comm _ c₂]
    rcases hc₂ with rfl | rfl
    · simp
    · rw [hreq]
  · rw [View.pte, haddr, hpte', ← BitVec.or_assoc, ← hpte, View.pte]

theorem Hit.marked {t : LinearTranslation} (h : Hit R v cr3 linear write t)
    (hm : MarkedOn (fun _ => True) v v') : Hit R v' cr3 linear write t :=
  ⟨h.address, h.paging, h.tlb_hit, fun hR => (h.entry hR).marked hm (.all v cr3), h.dirty⟩

theorem Prepared.marked {profile : Profile} {m : Mode} {entry : Option TlbEntry}
    {t : LinearTranslation} (h : Prepared profile R v m entry linear write vpl t) {a bits : U32}
    (ha : Aligned a) (hb : Marks bits) (hreq : bits &&& required_bits false write = bits) :
    Prepared profile R (v.marked a bits) m entry linear write vpl t := by
  have hm := v.marked_on (fun _ => True) ha hb
  refine ⟨(hm.look ..).trans h.look, h.source.imp_right (Or.imp ?_ ?_)⟩
  · exact fun hh => ⟨hh.1, hh.2.marked hm⟩
  · exact fun hw => ⟨hw.1.marked ha hb hreq, (hm.walk (.all v m.cr3) ..).trans hw.2⟩

/-- Memory after a prepared translation has been committed. -/
def View.committed (v : View) (t : LinearTranslation) (write : Bool) : View :=
  if t.paging = true ∧ t.tlb_hit = false then v.marked t.ppte (required_bits false write) else v

theorem page_attributes_dirty (pde pte : U32) :
    bit_is_set (page_attributes pde pte) VCPU_PGENTRY_D = bit_is_set pte VCPU_PGENTRY_D := by
  have hone : ∀ x : U32, bit_is_set x VCPU_PGENTRY_D = x.getLsbD 6 := by
    intro x
    rw [bit_is_set, show VCPU_PGENTRY_D = BitVec.twoPow 32 6 from rfl, BitVec.and_twoPow]
    cases x.getLsbD 6 <;> rfl
  rw [hone, hone, page_attributes]
  simp only [BitVec.getLsbD_or, BitVec.getLsbD_and, show (0x58 : U32).getLsbD 6 = true from rfl,
    show (6 : U32).getLsbD 6 = false from rfl]
  simp

/-- What marking the table entry leaves of the translation. -/
structure Marked (v : View) (t t' : LinearTranslation) (cr3 linear : U32) : Prop where
  address : t'.linear = linear
  physical : t'.physical = t.physical
  attributes : clean t'.attributes = clean t.attributes
  dirty : bit_is_set t'.attributes VCPU_PGENTRY_D = true →
    bit_is_set (v.pte cr3 linear) VCPU_PGENTRY_D = true

theorem required_mark (write : Bool) :
    required_bits false write = VCPU_PGENTRY_A ||| (if write then VCPU_PGENTRY_D else 0) := by
  cases write <;> rfl

/-- The entry of the page after its table entry has been marked. -/
theorem WalkedFrom.pte_marked {t : LinearTranslation} (h : WalkedFrom v cr3 linear write vpl t) :
    (v.marked t.ppte (required_bits false write)).pte cr3 linear =
      v.pte cr3 linear ||| required_bits false write := by
  have ha : Aligned t.ppte := by
    rw [h.ppte]
    exact aligned_pte _ linear
  have hm := Marks.required false write
  obtain ⟨b, hb, he⟩ := v.word_after_mark ha (aligned_pde cr3 linear) hm
  have hbm : Marks b := by rcases hb with rfl | rfl; exacts [rfl, hm]
  rw [View.pte, View.pde, he, hbm.pte_address]
  have := h.ppte
  rw [View.pde] at this
  rw [← this, v.word_marked ha hm, View.pte, ← h.ppte]

/-- The table entry is marked as accessed, and as dirty for a write. -/
theorem kma_access_table_spec (hpaged : Paged env.profile) {t : LinearTranslation}
    (h : WalkedFrom v cr3 linear write vpl t)
    (hwalk : v.walk cr3 linear write (vpl == 3) wp = .ok ⟨t.physical, clean t.attributes⟩) :
    Triple (fun c => Sees L T v c ∧ InMode env.profile cr3 wp c) (kma_access_table env t write)
      (fun t' c => Sees L T (v.marked t.ppte (required_bits false write)) c ∧
        Marked (v.marked t.ppte (required_bits false write)) t t' cr3 linear)
      (MarkFailed L T v t.ppte (required_bits false write)) := by
  have ha : Aligned t.ppte := by
    rw [h.ppte]
    exact aligned_pte _ linear
  have hmarks := Marks.required false write
  have hword : v.word t.ppte = v.pte cr3 linear := by rw [h.ppte, View.pte]
  obtain ⟨-, -, hp, hd, -⟩ := View.walk_ok hwalk
  obtain ⟨b, hb, hbreq, hpte⟩ := h.cpte
  have hpte' := h.pte_marked
  refine Triple.ite (fun hprof => Triple.ite (fun hset => ?_) fun _ => ?_) fun hprof => ?_
  · -- nothing to set
    have hset' : v.word t.ppte &&& required_bits false write = required_bits false write := by
      rw [hword, hpte, BitVec.and_comm, BitVec.and_or_distrib_left, BitVec.and_comm _ t.cpte, hset,
        BitVec.and_comm _ b, hbreq, BitVec.or_comm]
      exact Bits.or_eq_of_and_eq_left hbreq
    rw [v.marked_of_set hset']
    refine Triple.of_pure fun c hc => ⟨hc.1, h.address, rfl, rfl, fun hdirty => ?_⟩
    rw [h.attributes, page_attributes_dirty] at hdirty
    rw [hpte]
    exact bit_is_set_or _ _ _ 6 rfl hdirty
  · refine Triple.bind ((kma_update_page_entry_spec (L := L) (T := T) (v := v) t false write wp ha
      rfl (by rw [hword]; exact hp) (fun _ => by rw [hword, h.level]; exact hd)).conseq
      (fun c hc => ⟨hc.1.shows hprof, ?_⟩) (fun _ _ h => h) fun _ _ h => h) fun t' => ?_
    · have := hc.2.2
      rw [hprof] at this
      simpa using this
    refine Triple.assume fun ht' => Triple.of_pure fun c hc => ⟨hc.sees, ?_⟩
    subst ht'
    have hcpte : (t.with_entry false (v.word t.ppte ||| required_bits false write)).cpte =
        t.cpte ||| (b ||| required_bits false write) := by
      rw [hword, hpte, BitVec.or_assoc]
      rfl
    have hor : Marks (b ||| required_bits false write) := hb.or hmarks
    refine ⟨h.address, ?_, ?_, fun hdirty => ?_⟩
    · change page_entry_base (t.with_entry false _).cpte + linear_offset t.linear = t.physical
      rw [hcpte, page_entry_base, hor.and_eq (by decide), h.physical, h.address, page_entry_base]
    · change clean (page_attributes t.cpde (t.with_entry false _).cpte) = clean t.attributes
      have hnone : Marks 0 := rfl
      have hattr := hnone.page_attributes hor t.cpde t.cpte
      rw [show t.cpde ||| (0 : U32) = t.cpde from BitVec.or_zero] at hattr
      rw [hcpte, h.attributes]
      exact hattr
    · change bit_is_set (page_attributes t.cpde (t.with_entry false _).cpte) _ = true at hdirty
      rw [page_attributes_dirty, hcpte, ← BitVec.or_assoc, ← hpte] at hdirty
      rw [hpte']
      exact hdirty
  · have h386 : env.profile = .p80386 := hpaged.resolve_right hprof
    have hentry : t.cpte ||| VCPU_PGENTRY_A ||| (if write then VCPU_PGENTRY_D else 0) =
        v.word t.ppte ||| required_bits false write := by
      rw [hword, hpte, BitVec.or_assoc, BitVec.or_assoc, ← required_mark,
        Bits.or_eq_of_and_eq_left hbreq]
    refine Triple.bind (M := fun _ => Sees L T (v.marked t.ppte (required_bits false write)))
      ((kma_write_physical_entry h386 ha hmarks hentry _).conseq (fun _ h => h.1)
        (fun _ _ h => h) fun _ _ h => h) fun _ => Triple.of_pure fun c hc => ⟨hc, ?_⟩
    refine ⟨h.address, rfl, rfl, fun hdirty => ?_⟩
    rw [h.attributes, page_attributes_dirty] at hdirty
    rw [hpte', hpte, BitVec.or_assoc]
    exact bit_is_set_or _ _ _ 6 rfl hdirty

/-- Filling in an entry keeps everything; a sound buffer stays so if the entry is right. -/
theorem kma_tlb_fill_spec {m : Mode} {physical attributes : U32} {Q : Fault → Context β → Prop}
    (he : R → EntryFor v m.cr3 (tlb_set linear)
      ⟨page_of linear, page_entry_base physical, attributes, true⟩) :
    Triple (Translates L T v m R) (kma_tlb_fill (β := β) linear physical attributes)
      (fun _ => Translates L T v m R) Q :=
  Triple.of_update fun _ h => ⟨h.sees.of_same rfl rfl, h.mode, fun hR hprof =>
    (h.tlb hR hprof).fill rfl (he hR) _⟩

/-- How committing fails: with the board only. -/
def CommitFailed (L : ByteArrayBus env.bus) (T : U32 → Prop) (v v' : View) (m : Mode) (R : Prop)
    (e : Fault) (c : Context β) : Prop :=
  e.except = .ce ∧ (Translates L T v m R c ∨ Translates L T v' m R c)

/-- What committing a translation leaves: the answer as it was, and the page's Dirty bit in
memory after a write. -/
structure Committed (v : View) (m : Mode) (R : Prop) (linear : U32) (write : Bool)
    (t t' : LinearTranslation) : Prop where
  physical : t'.physical = t.physical
  attributes : clean t'.attributes = clean t.attributes
  dirty : R → m.paging = true → write = true →
    bit_is_set ((v.committed t write).pte m.cr3 linear) VCPU_PGENTRY_D = true

/-- **Committing a prepared translation publishes it**: the table entry is marked, the
buffer has the page, and the answer stays what it was. It cannot raise a page fault. -/
theorem kma_commit_physical_linear_spec (hpaged : Paged env.profile) {m : Mode}
    {entry : Option TlbEntry} {t : LinearTranslation}
    (h : Prepared env.profile R v m entry linear write vpl t) :
    Triple (Translates L T v m R) (kma_commit_physical_linear env t write)
      (fun t' c => Translates L T (v.committed t write) m R c ∧ Committed v m R linear write t t')
      (CommitFailed L T v (v.committed t write) m R) := by
  rcases h.source with ⟨hoff, hpg⟩ | ⟨hprof, hh⟩ | ⟨hw, hwalk⟩
  · -- paging is off
    have hsame : v.committed t write = v := by rw [View.committed, if_neg (by rw [hoff]; simp)]
    refine Triple.ite (fun _ => Triple.of_pure fun c hc => ?_) fun hno => absurd hoff hno
    rw [hsame]
    exact ⟨hc, rfl, rfl, fun _ hm => absurd (hm.symm.trans hpg) (by decide)⟩
  · -- a hit: nothing to mark
    have hsame : v.committed t write = v := by
      rw [View.committed, if_neg (by rw [hh.tlb_hit]; simp)]
    rw [hsame]
    refine Triple.ite (fun hno => absurd (hno.symm.trans hh.paging) (by decide)) fun _ => ?_
    refine Triple.ite (fun _ => ?_) fun hno => absurd hh.tlb_hit hno
    rw [hh.address]
    refine Triple.bind (kma_tlb_fill_spec hh.entry) fun _ => Triple.of_pure fun c hc =>
      ⟨hc, rfl, rfl, fun hR _ hwrite => ?_⟩
    have := (hh.entry hR).dirty (hh.dirty hwrite)
    rwa [v.pte_page, ← hsame] at this
  · have ha : Aligned t.ppte := by
      rw [hw.ppte]
      exact aligned_pte _ linear
    have hmarks := Marks.required false write
    have hm := v.marked_on (fun _ => True) ha hmarks
    have hview : v.committed t write = v.marked t.ppte (required_bits false write) := by
      rw [View.committed, if_pos ⟨hw.paging, hw.miss⟩]
    have hpte := hw.pte_marked
    have hdirty : write = true → bit_is_set
        ((v.marked t.ppte (required_bits false write)).pte m.cr3 linear) VCPU_PGENTRY_D = true := by
      intro hwrite
      rw [hpte, BitVec.or_comm]
      exact bit_is_set_or _ _ _ 6 rfl (by rw [hwrite]; rfl)
    rw [hview]
    refine Triple.ite (fun hno => absurd (hno.symm.trans hw.paging) (by decide)) fun _ => ?_
    refine Triple.ite (fun hno => absurd (hw.miss.symm.trans hno) (by decide)) fun _ => ?_
    refine Triple.bind (M := fun t' c => Translates L T (v.marked t.ppte
        (required_bits false write)) m R c ∧ Marked (v.marked t.ppte
          (required_bits false write)) t t' m.cr3 linear) ?_ fun t' => Triple.assume fun ht' => ?_
    · have hspec := kma_access_table_spec (L := L) (T := T) hpaged hw hwalk
      refine Triple.intro (fun c t' c' hc hr => ?_) fun c e c' hc hr => ?_
      · obtain ⟨hs, ht'⟩ := hspec.of_ok ⟨hc.sees, Mode.in_mode hc.mode⟩ hr
        exact ⟨hc.of_walked ((kma_access_table_walked ..).ok hr) hm hs, ht'⟩
      · obtain ⟨he, hs⟩ := hspec.of_error ⟨hc.sees, Mode.in_mode hc.mode⟩ hr
        have hframe := (kma_access_table_walked env t write).error hr
        exact ⟨he, hs.imp (hc.of_walked hframe (.refl _ v)) (hc.of_walked hframe hm)⟩
    have hwalk' := (hm.walk (.all v m.cr3) linear write (vpl == 3) m.wp).trans hwalk
    obtain ⟨hp, -, hp', -, hpage⟩ := View.walk_ok hwalk'
    simp only [Page.mk.injEq] at hpage
    -- the entry filled in says what the marked tables say
    have hentry : EntryFor (v.marked t.ppte (required_bits false write)) m.cr3 (tlb_set t'.linear)
        ⟨page_of t'.linear, page_entry_base t'.physical,
          t'.attributes ||| (if write then 0x40 else 0), true⟩ := by
      rw [ht'.address]
      refine ⟨?_, tlb_set_page linear, ?_, ?_, ?_, ?_, fun hd => ?_⟩
      · simp only [page_of, BitVec.and_assoc, BitVec.and_self]
      · simpa only [View.pde_page] using hp
      · simpa only [View.pte_page] using hp'
      · simp only [View.pte_page, ht'.physical, hpage.1, page_base_add]
      · have hclean : clean (t'.attributes ||| (if write then 0x40 else 0)) =
            clean t'.attributes := by
          unfold clean
          cases write
          · simp
          · exact (show Marks 0x40 from rfl).and_eq (by decide) _
        simp only [View.pde_page, View.pte_page]
        rw [hclean, ht'.attributes, hpage.2]
      · simp only [View.pte_page]
        cases hwr : write with
        | true =>
          rw [hwr] at hdirty
          exact hdirty rfl
        | false =>
          rw [hwr] at ht'
          refine ht'.dirty ?_
          simpa [hwr] using hd
    refine Triple.bind (M := fun _ => Translates L T (v.marked t.ppte
        (required_bits false write)) m R)
      (Triple.ite (fun _ => kma_tlb_fill_spec fun _ => hentry) fun _ => Triple.of_pure fun _ hc => hc)
      fun _ => Triple.of_pure fun c hc => ⟨hc, ht'.physical, ht'.attributes, ?_⟩
    rw [hview]
    exact fun _ _ => hdirty

end Nxvm.Cpu
