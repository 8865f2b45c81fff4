/-
The page walk of the processor computes the walk of the tables in memory
(`_kma_update_page_entry` to `_kma_commit_physical_linear`).

The 80486SX reads page entries through its cache and updates them on the bus under
lock; the 80386 has no cache and writes them back every time. `Sees` is what both
need: the board shows a memory, and a cache, if there is one, is a copy of it where
the tables are.
-/
import Nxvm.Cpu.PageTable
import Nxvm.Cpu.CacheSnoop

set_option autoImplicit false

namespace Nxvm.Cpu

open Nxvm.Lib Nxvm.Lib.Exec Nxvm.Lib.Memory

variable {β : Type} {env : Env β} {L : ByteArrayBus env.bus} {T : U32 → Prop} {v : View}

/-! ## Physical accesses of a processor that pages -/

/-- The processors that have paging. -/
def Paged (profile : Profile) : Prop := profile = .p80386 ∨ profile = .p80486sx

/-- The board shows `v`, and the cache of an 80486SX is a copy of it on `T`. -/
structure Sees (L : ByteArrayBus env.bus) (T : U32 → Prop) (v : View) (c : Context β) : Prop where
  view : L.view c = v
  coherent : env.profile = .p80486sx → CoherentOn T v.mem c.cache

theorem Sees.shows {c : Context β} (h : Sees L T v c) (hprof : env.profile = .p80486sx) :
    Shows L T v c := ⟨h.view, h.coherent hprof⟩

theorem Shows.sees {c : Context β} (h : Shows L T v c) : Sees L T v c :=
  ⟨h.view, fun _ => h.coherent⟩

/-- Only the cache and the board matter. -/
theorem Sees.of_same {c c' : Context β} (h : Sees L T v c) (hb : c'.bus = c.bus)
    (hc : c'.cache = c.cache) : Sees L T v c' := by
  obtain ⟨hv, hco⟩ := h
  refine ⟨?_, by rw [hc]; exact hco⟩
  rw [← hv, ByteArrayBus.view, ByteArrayBus.view, hb]

theorem View.bus_bytes_table (v : View) (profile : Profile) (a : U32) :
    word_of 32 (v.bus_bytes profile .page_table_read a 4) = v.word a := by
  simp [View.bus_bytes, kma_is_reset_vector_fetch, View.word]

theorem View.bytes_table (v : View) (profile : Profile) (a : U32) :
    word_of 32 (v.bytes profile .page_table_read a 4) = v.word a := by
  simp [View.bytes, View.byte, View.resolve, kma_is_reset_vector_fetch, View.word]

/-- Reading a page entry. -/
theorem kma_read_physical_table (hpaged : Paged env.profile) {a : U32} (hT : EntryIn T v a)
    (attributes : U32) :
    Triple (Sees L T v) (kma_read_physical env a 4 .page_table_read attributes)
      (fun bytes c => Sees L T v c ∧ word_of 32 bytes = v.word a)
      (fun e c => Sees L T v c ∧ e.except = .ce) := by
  rcases hpaged with hprof | hprof
  · have hread : kma_read_physical env a 4 .page_table_read attributes =
        kma_read_bus env a 4 .page_table_read attributes := by
      rw [kma_read_physical, hprof]
      rfl
    rw [hread]
    refine (kma_read_bus_view (L := L) (v := v) a 4 .page_table_read attributes).conseq
      (fun c h => h.view) ?_ ?_
    · rintro bytes c ⟨hv, rfl⟩
      exact ⟨⟨hv, fun h => absurd (hprof.symm.trans h) (by decide)⟩, v.bus_bytes_table _ a⟩
    · rintro e c ⟨hv, he⟩
      exact ⟨⟨hv, fun h => absurd (hprof.symm.trans h) (by decide)⟩, he⟩
  · have hres : ∀ i < 4, T (v.resolve .p80486sx .page_table_read (a + BitVec.ofNat 32 i)) := by
      intro i hi
      simpa [View.resolve, kma_is_reset_vector_fetch] using hT i hi
    refine (kma_read_physical_spec (L := L) (v := v) hprof a 4 .page_table_read attributes
      hres).conseq (fun c h => h.shows hprof) ?_ (fun _ _ h => ⟨h.1.sees, h.2⟩)
    rintro bytes c ⟨hs, rfl⟩
    exact ⟨hs.sees, v.bytes_table _ a⟩

/-! ## What translating leaves alone -/

/-- The part of a context that walking the tables does not touch: everything but the board,
the cache, the lock and CR2. -/
def Context.walked (c : Context β) : Context Unit :=
  { c.core with cpu := { c.core.cpu with cr2 := 0 }, memory_lock_active := false }

/-- The frame of the routines that walk the tables. -/
abbrev walk_frame : Frame (Context β) := Frame.same Context.walked

/-- A routine that stays inside the physical frame stays inside this one. -/
theorem Respects.walked {α : Type} {x : Exec β α} (h : Respects core_frame x) :
    Respects walk_frame x :=
  h.mono fun c c' hc => by
    have hcore : c'.core = c.core := hc
    simp only [walk_frame, Frame.same, Context.walked, hcore]

theorem page_fault_walked {α : Type} (linear : U32) (present write user : Bool) :
    Respects walk_frame (page_fault (β := β) (α := α) linear present write user) :=
  (Respects.of_update fun _ => rfl).bind fun _ => Respects.of_throw _

theorem unlocked_walked {α : Type} {x : Exec β α} (h : Respects (Frame.same Context.unlocked) x) :
    Respects walk_frame x :=
  h.mono fun c c' hc => by
    have hun : c'.unlocked = c.unlocked := hc
    exact congrArg (fun d : Context Unit => d.walked) hun

theorem kma_update_locked_walked (env : Env β) (translation : LinearTranslation)
    (directory write : Bool) (address : U32) (way : Option (BitVec 2)) (attributes : U32) :
    Respects walk_frame
      (kma_update_locked env translation directory write address way attributes) := by
  refine (Respects.walked (kma_read_bus_core ..)).bind fun bytes => ?_
  refine (Respects.of_query _).bind fun cpu => ?_
  refine (page_fault_walked ..).ite ((page_fault_walked ..).ite ?_)
  refine (Respects.of_pure _).ite ?_
  refine (Respects.walked (kma_write_through_core ..)).bind fun _ => ?_
  refine Respects.bind ?_ fun _ => Respects.of_pure _
  cases way with
  | some way => exact Respects.walked (kma_write_line_core ..)
  | none => exact Respects.of_pure _

theorem kma_update_page_entry_walked (env : Env β) (translation : LinearTranslation)
    (directory write : Bool) :
    Respects walk_frame (kma_update_page_entry env translation directory write) := by
  refine (Respects.of_query _).bind fun cpu => (Respects.of_query _).bind fun owns_lock => ?_
  refine (Respects.walked (query_cache_memory_core ..)).bind fun memory => ?_
  refine (Respects.of_query _).bind fun way => ?_
  refine (unlocked_walked (kma_begin_memory_lock_unlocked env)).bind fun _ => ?_
  refine (kma_update_locked_walked ..).attempt.bind fun updated => ?_
  refine Respects.bind ?_ fun _ => (Respects.of_of_except _).bind fun _ => Respects.of_pure _
  exact (unlocked_walked (complete_memory_lock_unlocked ..)).ite (Respects.of_pure _)

theorem kma_check_page_entry_walked (env : Env β) (linear : U32) (write : Bool) (vpl : Level)
    (entry : U32) : Respects walk_frame (kma_check_page_entry env linear write vpl entry) := by
  refine (Respects.of_query _).bind fun cpu => Respects.ite ?_ (Respects.of_pure _)
  exact (page_fault_walked ..).ite ((page_fault_walked ..).ite (Respects.of_pure _))

theorem kma_read_page_entry_walked (env : Env β) (linear : U32) (write : Bool) (vpl : Level)
    (address attributes : U32) :
    Respects walk_frame (kma_read_page_entry env linear write vpl address attributes) := by
  refine (Respects.walked (kma_read_physical_core ..)).bind fun bytes => ?_
  refine Respects.bind ?_ fun _ => Respects.of_pure _
  exact (page_fault_walked ..).ite (Respects.of_pure _)

theorem kma_access_directory_walked (env : Env β) (linear : U32) (write : Bool) (vpl : Level)
    (ppde cpde : U32) :
    Respects walk_frame (kma_access_directory env linear write vpl ppde cpde) := by
  refine (Respects.of_query _).bind fun cpu => Respects.ite (Respects.ite ?_ ?_) ?_
  · exact (kma_update_page_entry_walked ..).bind fun _ => Respects.of_pure _
  · exact Respects.of_pure _
  · exact (Respects.walked (kma_write_physical_core ..)).bind fun _ => Respects.of_pure _

theorem kma_walk_physical_linear_walked (env : Env β) (linear : U32) (write : Bool) (vpl : Level) :
    Respects walk_frame (kma_walk_physical_linear env linear write vpl) := by
  refine (Respects.of_query _).bind fun cpu => ?_
  refine (kma_read_page_entry_walked ..).bind fun read => ?_
  refine (kma_access_directory_walked ..).bind fun cpde => ?_
  refine (kma_check_page_entry_walked ..).bind fun _ => ?_
  refine (kma_read_page_entry_walked ..).bind fun cpte => ?_
  exact (kma_check_page_entry_walked ..).bind fun _ => Respects.of_pure _

theorem kma_tlb_lookup_walked (linear : U32) (write : Bool) (vpl : Level) :
    Respects walk_frame (kma_tlb_lookup (β := β) linear write vpl) := by
  refine (Respects.of_query _).bind fun cpu => (Respects.of_query _).bind fun entry => ?_
  cases entry with
  | none => exact Respects.of_pure _
  | some entry =>
    exact (page_fault_walked ..).ite ((Respects.of_pure _).ite (Respects.of_pure _))

/-- Preparing a translation fills no entry of the translation buffer. -/
theorem kma_prepare_physical_linear_walked (env : Env β) (linear : U32) (byte : Nat)
    (write : Bool) (vpl : Level) :
    Respects walk_frame (kma_prepare_physical_linear env linear byte write vpl) := by
  refine (Respects.of_throw _).ite ((Respects.of_query _).bind fun cpu => ?_)
  refine (Respects.of_pure _).ite (Respects.bind ?_ fun hit => ?_)
  · exact (kma_tlb_lookup_walked ..).ite (Respects.of_pure _)
  · cases hit with
    | none => exact kma_walk_physical_linear_walked ..
    | some entry => exact Respects.of_pure _

theorem kma_access_table_walked (env : Env β) (translation : LinearTranslation) (write : Bool) :
    Respects walk_frame (kma_access_table env translation write) := by
  refine Respects.ite (Respects.ite (Respects.of_pure _) ?_) ?_
  · exact (kma_update_page_entry_walked ..).bind fun _ => Respects.of_pure _
  · exact (Respects.walked (kma_write_physical_core ..)).bind fun _ => Respects.of_pure _

/-! ## The locked update of a page entry -/

theorem complete_memory_lock_sees (commit : Bool) {Q : Fault → Context β → Prop} :
    Triple (Sees L T v) (x86_core_cpu_bus_complete_memory_lock env commit)
      (fun _ => Sees L T v) Q := by
  refine Triple.of_update fun c h => ?_
  change Sees L T v (final (x86_core_cpu_bus_complete_memory_lock env commit) c)
  refine ⟨((complete_memory_lock_view L commit).run c).trans h.view, ?_⟩
  rw [complete_memory_lock_cache]
  exact h.coherent

/-- The bus failed while an entry was to be marked: it is or it is not. -/
def MarkFailed (L : ByteArrayBus env.bus) (T : U32 → Prop) (v : View) (a bits : U32)
    (e : Fault) (c : Context β) : Prop :=
  e.except = .ce ∧ (Sees L T v c ∨ Sees L T (v.marked a bits) c)

section Update

variable {a : U32}

theorem kma_update_locked_spec (ha : Aligned a)
    (translation : LinearTranslation) (directory write wp : Bool) (way : Option (BitVec 2))
    (attributes : U32) (hp : bit_is_set (v.word a) VCPU_PGENTRY_P = true)
    (hd : directory = false → page_denied (v.word a) write (translation.vpl == 3) wp = false) :
    Triple (fun c => Shows L T v c ∧ kma_cache_way c (v.decoding.decode a) = way ∧
        c.cpu.cr0_wp = wp)
      (kma_update_locked env translation directory write (v.decoding.decode a) way attributes)
      (fun entry c => Shows L T (v.marked a (required_bits directory write)) c ∧
        entry = v.word a ||| required_bits directory write)
      (MarkFailed L T v a (required_bits directory write)) := by
  have hmarks := Marks.required directory write
  have hlen : ∀ k, (cache_offset (v.decoding.decode a)).toNat +
      ((bytes_of 4 (v.word a ||| required_bits directory write)).take k).length ≤ 16 := by
    intro k
    have := (ha.decode v.decoding).offset_add (i := 3) (by omega)
    rw [List.length_take, bytes_of_length]
    omega
  have hput : ∀ k ≤ 4, v.put (v.decoding.decode a)
      ((bytes_of 4 (v.word a ||| required_bits directory write)).take k) =
        if k = 0 then v else v.marked a (required_bits directory write) := by
    intro k hk
    rw [← v.stored_marked ha hmarks hk, v.stored_eq_put_decode]
    rw [← v.decoding.offset]
    exact hlen k
  have hfull : v.put (v.decoding.decode a)
      (bytes_of 4 (v.word a ||| required_bits directory write)) =
        v.marked a (required_bits directory write) := by
    have := hput 4 (Nat.le_refl _)
    rwa [List.take_of_length_le (by simp), if_neg (by decide)] at this
  have hread : Triple (fun c => Shows L T v c ∧ kma_cache_way c (v.decoding.decode a) = way ∧
        c.cpu.cr0_wp = wp)
      (kma_read_bus env (v.decoding.decode a) 4 .page_table_read attributes)
      (fun bytes c => (Shows L T v c ∧ kma_cache_way c (v.decoding.decode a) = way ∧
        c.cpu.cr0_wp = wp) ∧ word_of 32 bytes = v.word a)
      (MarkFailed L T v a (required_bits directory write)) := by
    refine ((kma_read_bus_spec (L := L) (T := T) (v := v) (v.decoding.decode a) 4
      .page_table_read attributes).keep (kma_read_bus_processor ..)
      (fun d => kma_cache_way d (v.decoding.decode a) = way ∧ d.cpu.cr0_wp = wp)).conseq
      (fun _ h => h) ?_ ?_
    · rintro bytes c ⟨⟨hs, rfl⟩, hk⟩
      exact ⟨⟨hs, hk⟩, (v.bus_bytes_table _ _).trans (v.word_decode ha)⟩
    · rintro e c ⟨⟨hs, he⟩, -⟩
      exact ⟨he, Or.inl hs.sees⟩
  refine Triple.bind hread fun bytes => Triple.assume fun hentry => ?_
  rw [hentry]
  refine Triple.bind (M := fun cpu c => (Shows L T v c ∧
      kma_cache_way c (v.decoding.decode a) = way) ∧ cpu.cr0_wp = wp)
    (Triple.of_query fun c h => ⟨⟨h.1, h.2.1⟩, h.2.2⟩) fun cpu => Triple.assume fun hwp => ?_
  rw [if_neg (by rw [hp]; simp), hwp]
  rw [if_neg (by
    rintro ⟨h1, h2⟩
    rw [hd h1] at h2
    exact absurd h2 (by simp))]
  refine Triple.ite (fun hset => ?_) fun _ => ?_
  · refine Triple.of_pure fun c h => ⟨?_, ?_⟩
    · rw [v.marked_of_set hset]
      exact h.1
    · exact (Bits.or_eq_of_and_eq hset).symm
  · refine Triple.bind ((kma_write_through_spec (L := L) (T := T) (v := v)
      (v.decoding.twice a) (by simpa using hlen 4) way .page_table_write attributes).weaken
      (fun _ _ h => h) ?_) fun _ => ?_
    · rintro e c ⟨he, k, hk, hs⟩
      rw [bytes_of_length] at hk
      rw [hput k hk] at hs
      refine ⟨he, ?_⟩
      split at hs
      · exact Or.inl hs.sees
      · exact Or.inr hs.sees
    refine Triple.bind (M := fun _ => Shows L T (v.marked a (required_bits directory write))) ?_
      fun _ => Triple.of_pure fun c h => ⟨h, rfl⟩
    cases way with
    | some way =>
      rw [← hfull]
      exact kma_write_line_spec (by simpa using hlen 4) way
    | none =>
      refine Triple.of_pure ?_
      rintro c ⟨⟨hv, hco⟩, hway⟩
      rw [← hfull]
      exact ⟨hv, hco.store_absent (by simpa using hlen 4) hway⟩

/-- The entry a translation records for the directory or the table. -/
def LinearTranslation.with_entry (t : LinearTranslation) (directory : Bool) (entry : U32) :
    LinearTranslation :=
  if directory then { t with cpde := entry } else { t with cpte := entry }

/-- **The locked update marks the entry and answers it.** Where the tables are cached as
they are in memory, the second read finds what the walk has checked. -/
theorem kma_update_page_entry_spec (translation : LinearTranslation) (directory write wp : Bool)
    (ha : Aligned a) (haddr : (if directory then translation.ppde else translation.ppte) = a)
    (hp : bit_is_set (v.word a) VCPU_PGENTRY_P = true)
    (hd : directory = false → page_denied (v.word a) write (translation.vpl == 3) wp = false) :
    Triple (fun c => Shows L T v c ∧ c.cpu.cr0_wp = wp)
      (kma_update_page_entry env translation directory write)
      (fun t c => Shows L T (v.marked a (required_bits directory write)) c ∧
        t = translation.with_entry directory (v.word a ||| required_bits directory write))
      (MarkFailed L T v a (required_bits directory write)) := by
  have hstop : ∀ (e : Fault) (c : Context β), Failed L T v e c →
      MarkFailed L T v a (required_bits directory write) e c :=
    fun e c h => ⟨h.2, Or.inl h.1.sees⟩
  unfold kma_update_page_entry
  refine Triple.bind (M := fun _ c => Shows L T v c ∧ c.cpu.cr0_wp = wp)
    (Triple.of_query fun c h => h) fun cpu => ?_
  refine Triple.bind (M := fun _ c => Shows L T v c ∧ c.cpu.cr0_wp = wp)
    (Triple.of_query fun c h => h) fun owns_lock => ?_
  rw [haddr]
  -- the query answers the decoded address, by which the line is found
  refine Triple.bind (M := fun memory c => (Shows L T v c ∧ c.cpu.cr0_wp = wp) ∧
    memory.address = v.decoding.decode a) ?_ fun memory => Triple.assume fun hmem => ?_
  · refine ((query_cache_memory_spec (L := L) (T := T) (v := v) a .lookup ⟨a, false⟩
      (Or.inl rfl)).keep (query_cache_memory_same ..) (fun c => c.cpu.cr0_wp = wp)).conseq
      (fun _ h => h) ?_ (fun e c h => hstop e c h.1)
    rintro memory c ⟨⟨hs, hm⟩, hwp⟩
    exact ⟨⟨hs, hwp⟩, hm⟩
  rw [hmem]
  refine Triple.bind (M := fun way c => Shows L T v c ∧
      kma_cache_way c (v.decoding.decode a) = way ∧ c.cpu.cr0_wp = wp)
    (Triple.of_query fun c h => ⟨h.1, rfl, h.2⟩) fun way => ?_
  refine Triple.bind (M := fun _ c => Shows L T v c ∧
      kma_cache_way c (v.decoding.decode a) = way ∧ c.cpu.cr0_wp = wp) ?_ fun _ => ?_
  · refine ((kma_begin_memory_lock_spec (L := L) (T := T) (v := v)).keep
      (kma_begin_memory_lock_unlocked env) (fun d => kma_cache_way d (v.decoding.decode a) = way ∧
        d.cpu.cr0_wp = wp)).conseq (fun _ h => h) ?_ (fun e c h => hstop e c h.1)
    rintro _ c ⟨⟨hs, -⟩, hk⟩
    exact ⟨hs, hk⟩
  refine Triple.bind (Triple.attempt
    (kma_update_locked_spec ha translation directory write wp way _ hp hd)) fun updated => ?_
  cases updated with
  | ok entry =>
    refine Triple.assume fun hentry => ?_
    refine Triple.bind (M := fun _ => Shows L T (v.marked a (required_bits directory write)))
      (Triple.ite (fun _ => complete_memory_lock_spec _) (fun _ => Triple.of_pure fun _ h => h))
      fun _ => ?_
    refine Triple.bind (M := fun e c => Shows L T (v.marked a (required_bits directory write)) c ∧
      e = entry) (Triple.of_pure fun c h => ⟨h, rfl⟩) fun e => Triple.assume fun he => ?_
    subst he hentry
    exact Triple.of_pure fun c h => ⟨h, rfl⟩
  | error e =>
    refine Triple.bind (M := fun _ => MarkFailed L T v a (required_bits directory write) e)
      (Triple.ite (fun _ => ?_) (fun _ => Triple.of_pure fun _ h => h))
      fun _ => Triple.bind (M := fun _ _ => False) (Triple.of_throw fun _ h => h) fun _ =>
        fun _ h => h.elim
    exact fun c h => ⟨h.1, h.2.imp (complete_memory_lock_sees (Q := fun _ _ => True) _ c)
      (complete_memory_lock_sees (Q := fun _ _ => True) _ c)⟩

end Update

/-! ## The walk -/

/-- The directory and the protection a walk uses. The 80386 has no CR0.WP. -/
def InMode (profile : Profile) (cr3 : U32) (wp : Bool) (c : Context β) : Prop :=
  c.cpu.cr3 = cr3 ∧ (decide (profile = .p80486sx) && c.cpu.cr0_wp) = wp

/-- A page fault with its error code, and CR2 as it leaves it. -/
def Faulted (linear code : U32) (e : Fault) (c : Context β) : Prop :=
  e = ⟨.pf, code⟩ ∧ c.cpu.cr2 = linear

theorem page_fault_spec {α : Type} {R : α → Context β → Prop} (linear : U32)
    (present write user : Bool) :
    Triple (Sees L T v) (page_fault (α := α) linear present write user) R
      (fun e c => Sees L T v c ∧
        Faulted linear (make_page_fault_error_code present write user) e c) := by
  refine Triple.bind (M := fun _ c => Sees L T v c ∧ c.cpu.cr2 = linear)
    (Triple.of_update fun c h => ⟨h.of_same rfl rfl, rfl⟩) fun _ => ?_
  exact Triple.of_throw fun c h => ⟨h.1, rfl, h.2⟩

theorem kma_read_page_entry_spec (hpaged : Paged env.profile) (linear : U32) (write : Bool)
    (vpl : Level) {a : U32} (hT : EntryIn T v a) (attributes : U32) :
    Triple (Sees L T v) (kma_read_page_entry env linear write vpl a attributes)
      (fun entry c => Sees L T v c ∧ entry = v.word a ∧
        bit_is_set (v.word a) VCPU_PGENTRY_P = true)
      (fun e c => Sees L T v c ∧ (e.except = .ce ∨
        bit_is_set (v.word a) VCPU_PGENTRY_P = false ∧
          Faulted linear (make_page_fault_error_code false write (vpl == 3)) e c)) := by
  refine Triple.bind ((kma_read_physical_table hpaged hT attributes).weaken (fun _ _ h => h)
    fun e c h => ⟨h.1, Or.inl h.2⟩) fun bytes => Triple.assume fun hword => ?_
  rw [hword]
  refine Triple.bind (M := fun _ c => Sees L T v c ∧
      bit_is_set (v.word a) VCPU_PGENTRY_P = true)
    (Triple.ite (fun hp => ?_) fun hp => Triple.of_pure fun c h => ⟨h, by simpa using hp⟩)
    fun _ => Triple.of_pure fun c h => ⟨h.1, rfl, h.2⟩
  exact (page_fault_spec linear false write (vpl == 3)).weaken (fun _ _ h => h)
    fun e c h => ⟨h.1, Or.inr ⟨hp, h.2⟩⟩

/-- The check during the walk forbids what `page_denied` says. -/
theorem kma_check_page_entry_spec (linear : U32) (write : Bool) (vpl : Level) (entry cr3 : U32)
    (wp : Bool) :
    Triple (fun c => Sees L T v c ∧ InMode env.profile cr3 wp c)
      (kma_check_page_entry env linear write vpl entry)
      (fun _ c => Sees L T v c ∧ page_denied entry write (vpl == 3) wp = false)
      (fun e c => Sees L T v c ∧ page_denied entry write (vpl == 3) wp = true ∧
        Faulted linear (make_page_fault_error_code true write (vpl == 3)) e c) := by
  refine Triple.bind (M := fun cpu c => Sees L T v c ∧
      (decide (env.profile = .p80486sx) && cpu.cr0_wp) = wp)
    (Triple.of_query fun c h => ⟨h.1, h.2.2⟩) fun cpu => Triple.assume fun hwp => ?_
  subst hwp
  refine Triple.ite (fun hchecked => ?_) fun hfree => Triple.of_pure fun c h => ⟨h, ?_⟩
  · refine Triple.ite (fun hus => ?_) fun hus => ?_
    · have hd : page_denied entry write (vpl == 3)
          (decide (env.profile = .p80486sx) && cpu.cr0_wp) = true := by
        simp [page_denied, hus.1, hus.2]
      rw [show (vpl == 3) = true by simp [hus.1]] at hd ⊢
      exact (page_fault_spec linear true write true).weaken (fun _ _ h => h)
        fun e c h => ⟨h.1, hd, h.2⟩
    refine Triple.ite (fun hrw => ?_) fun hrw => Triple.of_pure fun c h => ⟨h, ?_⟩
    · have hd : page_denied entry write (vpl == 3)
          (decide (env.profile = .p80486sx) && cpu.cr0_wp) = true := by
        rcases hchecked with h3 | h486
        · simp [page_denied, hrw.1, hrw.2, h3]
        · simp [page_denied, hrw.1, hrw.2, h486.1, h486.2]
      rw [hrw.1] at hd ⊢
      exact (page_fault_spec linear true true (vpl == 3)).weaken (fun _ _ h => h)
        fun e c h => ⟨h.1, hd, h.2⟩
    · simp only [page_denied, Bool.or_eq_false_iff, Bool.and_eq_false_iff, beq_eq_false_iff_ne,
        Bool.not_eq_false']
      constructor
      · by_cases h3 : vpl = 3
        · exact Or.inr (by simpa [h3] using hus)
        · exact Or.inl h3
      · cases hw : write with
        | false => exact Or.inl (Or.inl rfl)
        | true => exact Or.inr (by simpa [hw] using hrw)
  · simp only [not_or, not_and, Bool.not_eq_true] at hfree
    have h3 : (vpl == 3) = false := by simpa using hfree.1
    simp only [page_denied, h3]
    by_cases hp : env.profile = .p80486sx
    · simp [hp, hfree.2 hp]
    · simp [hp]

/-- The 80386 writes the whole entry back; it had marks at most that it writes too. -/
theorem kma_write_physical_entry (hprof : env.profile = .p80386) {a entry bits : U32}
    (ha : Aligned a) (hb : Marks bits) (he : entry = v.word a ||| bits) (attributes : U32) :
    Triple (Sees L T v) (kma_write_physical env a (bytes_of 4 entry) .page_table_write attributes)
      (fun _ => Sees L T (v.marked a bits)) (MarkFailed L T v a bits) := by
  have hwrite : kma_write_physical env a (bytes_of 4 entry) .page_table_write attributes =
      kma_write_bus env a (bytes_of 4 entry) .page_table_write attributes := by
    rw [kma_write_physical, hprof]
    rfl
  have hsees : ∀ (w : View) (c : Context β), L.view c = w → Sees L T w c :=
    fun w c hv => ⟨hv, fun h => absurd (hprof.symm.trans h) (by decide)⟩
  rw [hwrite, he]
  refine (kma_write_bus_spec (L := L) (v := v) a (bytes_of 4 (v.word a ||| bits))
    .page_table_write attributes).conseq (fun c h => h.view) ?_ ?_
  · intro _ c hv
    refine hsees _ c (hv.trans ?_)
    have := v.stored_marked ha hb (Nat.le_refl 4)
    rwa [List.take_of_length_le (by simp), if_neg (by decide)] at this
  · rintro e c ⟨hce, k, hk, hv⟩
    rw [bytes_of_length] at hk
    rw [v.stored_marked ha hb hk] at hv
    refine ⟨hce, ?_⟩
    split at hv
    · exact Or.inl (hsees _ c hv)
    · exact Or.inr (hsees _ c hv)

theorem kma_access_directory_spec (hpaged : Paged env.profile) (linear : U32) (write : Bool)
    (vpl : Level) {a : U32} (ha : Aligned a)
    (hp : bit_is_set (v.word a) VCPU_PGENTRY_P = true) (cr3 : U32) (wp : Bool) :
    Triple (fun c => Sees L T v c ∧ InMode env.profile cr3 wp c)
      (kma_access_directory env linear write vpl a (v.word a))
      (fun entry c => Sees L T (v.marked a 0x20) c ∧ entry = v.word a ||| 0x20)
      (MarkFailed L T v a 0x20) := by
  refine Triple.bind (M := fun _ c => Sees L T v c ∧ InMode env.profile cr3 wp c)
    (Triple.of_query fun c h => h) fun cpu => ?_
  refine Triple.ite (fun hprof => Triple.ite (fun _ => ?_) fun hset => ?_) fun hprof => ?_
  · refine Triple.bind ((kma_update_page_entry_spec (L := L) (T := T) (v := v)
      { LinearTranslation.start linear vpl with ppde := a, cpde := v.word a } true write wp ha rfl
      hp (by simp)).conseq (fun c h => ⟨h.1.shows hprof, ?_⟩) (fun _ _ h => h) fun _ _ h => h)
      fun t => ?_
    · have := h.2.2
      rw [hprof] at this
      simpa using this
    · refine Triple.of_pure fun c h => ⟨h.1.sees, ?_⟩
      rw [h.2]
      rfl
  · -- Accessed was set before: the marked memory is the memory
    have hbit : v.word a &&& 0x20 = 0x20 :=
      (Bits.and_two_pow_cases (v.word a) 5).resolve_left hset
    refine Triple.of_pure fun c h => ⟨?_, (Bits.or_eq_of_and_eq hbit).symm⟩
    rw [v.marked_of_set hbit]
    exact h.1
  · have h386 : env.profile = .p80386 := hpaged.resolve_right hprof
    exact Triple.bind (M := fun _ => Sees L T (v.marked a 0x20))
      ((kma_write_physical_entry h386 ha Marks.accessed rfl _).conseq (fun _ h => h.1) (fun _ _ h => h)
        fun _ _ h => h) fun _ => Triple.of_pure fun c h => ⟨h, rfl⟩

/-! ## The whole walk -/

/-- Memory after the directory entry of `linear` has been marked as accessed. -/
def View.accessed (v : View) (cr3 linear : U32) : View := v.marked (pde_address cr3 linear) 0x20

/-- What a walk through the tables of `v` prepares. -/
def View.translation (v : View) (cr3 linear : U32) (vpl : Level) : LinearTranslation :=
  { LinearTranslation.start linear vpl with
    physical := page_entry_base (v.pte cr3 linear) + linear_offset linear
    attributes := page_attributes (v.pde cr3 linear) (v.pte cr3 linear)
    ppde := pde_address cr3 linear
    ppte := pte_address (v.pde cr3 linear) linear
    cpde := v.pde cr3 linear
    cpte := v.pte cr3 linear
    paging := true
    pde_accessed := true }

/-- How a walk fails: with the board, or with the page fault the tables call for. The
directory entry may have been marked by then. -/
def WalkFailed (L : ByteArrayBus env.bus) (T : U32 → Prop) (v : View) (cr3 linear : U32)
    (write : Bool) (vpl : Level) (wp : Bool) (e : Fault) (c : Context β) : Prop :=
  (Sees L T v c ∨ Sees L T (v.accessed cr3 linear) c) ∧
    (e.except = .ce ∨ ∃ code, v.walk cr3 linear write (vpl == 3) wp = .error code ∧
      Faulted linear code e c)

section Walk

variable {cr3 linear : U32} {write wp : Bool} {vpl : Level}

theorem View.accessed_on (T : U32 → Prop) (v : View) (cr3 linear : U32) :
    MarkedOn T v (v.accessed cr3 linear) :=
  v.marked_on T (aligned_pde cr3 linear) Marks.accessed

theorem View.accessed_pde (v : View) (cr3 linear : U32) :
    (v.accessed cr3 linear).pde cr3 linear = v.pde cr3 linear ||| 0x20 :=
  v.word_marked (aligned_pde cr3 linear) Marks.accessed

/-- **The processor's walk is the walk of the tables.** It answers the translation they
hold, or raises the page fault they call for, and marks at most the directory entry. -/
theorem kma_walk_physical_linear_spec (hpaged : Paged env.profile) (ht : TablesIn T v cr3)
    (linear : U32) (write wp : Bool) (vpl : Level) :
    Triple (fun c => Sees L T v c ∧ InMode env.profile cr3 wp c)
      (kma_walk_physical_linear env linear write vpl)
      (fun t c => Sees L T (v.accessed cr3 linear) c ∧
        t = (v.accessed cr3 linear).translation cr3 linear vpl ∧
        v.walk cr3 linear write (vpl == 3) wp = .ok ⟨t.physical, clean t.attributes⟩)
      (WalkFailed L T v cr3 linear write vpl wp) := by
  have hmark := v.accessed_on T cr3 linear
  have ht₁ := hmark.tables ht
  have hwalk := hmark.walk ht linear write (vpl == 3) wp
  have hpde := v.accessed_pde cr3 linear
  generalize hv₁ : v.accessed cr3 linear = v₁ at *
  have hbefore : ∀ (e : Fault) (c : Context β), Sees L T v c → (e.except = .ce ∨
      ∃ code, v.walk cr3 linear write (vpl == 3) wp = .error code ∧ Faulted linear code e c) →
      WalkFailed L T v cr3 linear write vpl wp e c := fun e c hs he => ⟨Or.inl hs, he⟩
  have hafter : ∀ (e : Fault) (c : Context β), Sees L T v₁ c → (e.except = .ce ∨
      ∃ code, v₁.walk cr3 linear write (vpl == 3) wp = .error code ∧ Faulted linear code e c) →
      WalkFailed L T v cr3 linear write vpl wp e c := by
    intro e c hs he
    rw [hwalk] at he
    rw [← hv₁] at hs
    exact ⟨Or.inr hs, he⟩
  refine Triple.bind (M := fun cpu c => (Sees L T v c ∧ InMode env.profile cr3 wp c) ∧
    cpu.cr3 = cr3) (Triple.of_query fun c h => ⟨h, h.2.1⟩) fun cpu => Triple.assume fun hcr3 => ?_
  rw [hcr3]
  -- the directory entry
  refine Triple.bind (M := fun read c => (Sees L T v c ∧ InMode env.profile cr3 wp c) ∧
    (read = v.pde cr3 linear ∧ bit_is_set (v.pde cr3 linear) VCPU_PGENTRY_P = true)) ?_
    fun read => Triple.assume fun hread => ?_
  · refine ((kma_read_page_entry_spec (L := L) (v := v) hpaged linear write vpl
      (ht.directory linear) cr3).keep (kma_read_page_entry_walked ..)
      (fun d => InMode env.profile cr3 wp d)).conseq (fun _ h => h) ?_ ?_
    · rintro read c ⟨⟨hs, he⟩, hm⟩
      exact ⟨⟨hs, hm⟩, he⟩
    · rintro e c ⟨⟨hs, he⟩, -⟩
      exact hbefore e c hs (he.imp_right fun h => ⟨_, View.walk_absent h.1, h.2⟩)
  obtain ⟨rfl, hp⟩ := hread
  -- its Accessed bit
  refine Triple.bind (M := fun cpde c => (Sees L T v₁ c ∧ InMode env.profile cr3 wp c) ∧
    cpde = v₁.pde cr3 linear) ?_ fun cpde => Triple.assume fun hcpde => ?_
  · refine ((kma_access_directory_spec (L := L) (T := T) hpaged linear write vpl
      (aligned_pde cr3 linear) hp cr3 wp).keep (kma_access_directory_walked ..)
      (fun d => InMode env.profile cr3 wp d)).conseq (fun _ h => ⟨h, h.2⟩) ?_ ?_
    · rintro cpde c ⟨⟨hs, he⟩, hm⟩
      rw [← hv₁]
      exact ⟨⟨hs, hm⟩, he.trans (v.accessed_pde cr3 linear).symm⟩
    · rintro e c ⟨⟨he, hs⟩, -⟩
      exact ⟨hs, Or.inl he⟩
  subst hcpde
  have hp₁ : bit_is_set (v₁.pde cr3 linear) VCPU_PGENTRY_P = true := by
    rw [hpde, Marks.accessed.bit_is_set (by decide), hp]
  refine Triple.bind (M := fun _ c => (Sees L T v₁ c ∧ InMode env.profile cr3 wp c) ∧
    page_denied (v₁.pde cr3 linear) write (vpl == 3) wp = false) ?_
    fun _ => Triple.assume fun hd₁ => ?_
  · refine ((kma_check_page_entry_spec (L := L) (T := T) (v := v₁) linear write vpl _
      cr3 wp).keep (kma_check_page_entry_walked ..)
      (fun d => InMode env.profile cr3 wp d)).conseq (fun _ h => ⟨h, h.2⟩) ?_ ?_
    · rintro _ c ⟨⟨hs, hd⟩, hm⟩
      exact ⟨⟨hs, hm⟩, hd⟩
    · rintro e c ⟨⟨hs, hd, he⟩, -⟩
      exact hafter e c hs (Or.inr ⟨_, View.walk_denied hp₁ hd, he⟩)
  -- the table entry
  refine Triple.bind (M := fun cpte c => (Sees L T v₁ c ∧ InMode env.profile cr3 wp c) ∧
    (cpte = v₁.pte cr3 linear ∧ bit_is_set (v₁.pte cr3 linear) VCPU_PGENTRY_P = true)) ?_
    fun cpte => Triple.assume fun hcpte => ?_
  · refine ((kma_read_page_entry_spec (L := L) (v := v₁) hpaged linear write vpl
      (ht₁.table linear hp₁) _).keep (kma_read_page_entry_walked ..)
      (fun d => InMode env.profile cr3 wp d)).conseq (fun _ h => h) ?_ ?_
    · rintro read c ⟨⟨hs, he⟩, hm⟩
      exact ⟨⟨hs, hm⟩, he⟩
    · rintro e c ⟨⟨hs, he⟩, -⟩
      exact hafter e c hs
        (he.imp_right fun h => ⟨_, View.walk_table_absent hp₁ hd₁ h.1, h.2⟩)
  obtain ⟨rfl, hp₂⟩ := hcpte
  refine Triple.bind (M := fun _ c => Sees L T v₁ c ∧
    page_denied (v₁.pte cr3 linear) write (vpl == 3) wp = false) ?_
    fun _ => Triple.assume fun hd₂ => ?_
  · refine (kma_check_page_entry_spec (L := L) (T := T) (v := v₁) linear write vpl _
      cr3 wp).weaken (fun _ _ h => h) ?_
    rintro e c ⟨hs, hd, he⟩
    exact hafter e c hs (Or.inr ⟨_, View.walk_table_denied hp₁ hd₁ hp₂ hd, he⟩)
  refine Triple.of_pure fun c hs => ⟨hs, rfl, ?_⟩
  rw [← hwalk]
  exact View.walk_allowed hp₁ hd₁ hp₂ hd₂

end Walk

end Nxvm.Cpu
