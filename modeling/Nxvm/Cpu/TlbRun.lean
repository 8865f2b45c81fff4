/-
The translation buffer over whole runs of the 80486SX: translated accesses, writes of
CR0 and CR3, and INVLPG, in any order since the last flush.

While nothing but Accessed and Dirty bits changes in the page tables, the buffer stays
sound, and an access through it is answered as it would be with the buffer empty.
-/
import Mathlib.Logic.Relation
import Nxvm.Cpu.Straddle

set_option autoImplicit false

namespace Nxvm.Cpu

open Nxvm.Lib Nxvm.Lib.Exec Nxvm.Lib.Memory Nxvm.Lib.Directory

variable {β : Type} {env : Env β} {L : ByteArrayBus env.bus} {T : U32 → Prop} {v v' : View}
variable {linear : U32} {write : Bool} {vpl : Level} {n : Nat} {c c' : Context β}

/-! ## Events -/

/-- What the processor does between two flushes of the buffer, and the flushes. -/
inductive PagingEvent where
  | test (linear : U32) (n : Nat) (write : Bool) (vpl : Level)
  | read (linear : U32) (n : Nat) (vpl : Level)
  | write (linear : U32) (data : List U8) (vpl : Level)
  | write_cr0 (value : U32)
  | write_cr3 (value : U32)
  | invlpg (linear : U32)
  | compute (f : CpuData → CpuData) (provenance : Provenance)

/-- An event. Its fault, if it raises one, ends the event and not the run. -/
def PagingEvent.run (env : Env β) : PagingEvent → Exec β Unit
  | .test linear n write vpl => kma_test_linear env linear n write vpl
  | .read linear n vpl => do
    let _ ← kma_read_linear env linear n vpl
    pure ()
  | .write linear data vpl => kma_write_linear env linear data vpl
  | .write_cr0 value => s_write_cr0 env value
  | .write_cr3 value => s_write_cr3 env value
  | .invlpg linear => kma_tlb_invalidate_page linear
  | .compute f provenance =>
    update fun c => { c with cpu := f c.cpu, memory_access_provenance := provenance }

/-- The transfer of a write leaves the page tables in `T` alone: no entry changes but for
marks, and none is kept back in a line of the cache. -/
structure Spares (env : Env β) (L : ByteArrayBus env.bus) (T : U32 → Prop) (linear : U32)
    (data : List U8) (pages : Pages) (c : Context β) : Prop where
  memory : MarkedOn T (L.view c) (L.view (final (kma_write_pages env linear data pages) c))
  line : c.cpu.cr0_nw = true → ∀ i < data.length,
    ¬ T ((L.view c).decoding.decode (pages.address linear i))

/-- The events under which the tables in `T` stay as they are, Accessed and Dirty bits
apart. A new CR3 has its tables in `T` too. -/
def PagingEvent.Allowed (env : Env β) (L : ByteArrayBus env.bus) (T : U32 → Prop)
    (c : Context β) : PagingEvent → Prop
  | .test _ n _ _ => n ≤ VCPU_PAGESIZE
  | .read _ n _ => n ≤ VCPU_PAGESIZE
  | .write linear data vpl => data.length ≤ VCPU_PAGESIZE ∧
    ∀ pages c₁, kma_translate_linear env linear data.length true vpl c = .ok pages c₁ →
      Spares env L T linear data pages c₁
  | .write_cr0 _ => True
  | .write_cr3 value => TablesIn T (L.view c) (value &&& 0xfffff018)
  | .invlpg _ => True
  | .compute f _ => (f c.cpu).cr3 = c.cpu.cr3

/-- One event of a run. -/
inductive PagingStep (env : Env β) (L : ByteArrayBus env.bus) (T : U32 → Prop) :
    Context β → Context β → Prop
  | event (c : Context β) (e : PagingEvent) (h : e.Allowed env L T c) :
    PagingStep env L T c (final (e.run env) c)

/-! ## The invariant of a run -/

/-- What holds between events: the cache and the buffer tell the truth about the tables
in `T`. -/
structure Paging (L : ByteArrayBus env.bus) (T : U32 → Prop) (c : Context β) : Prop where
  coherent : CoherentOn T (L.mem c.bus) c.cache
  tables : TablesIn T (L.view c) c.cpu.cr3
  tlb : TlbSound (L.view c) c.cpu.cr3 c.tlb

theorem Paging.shows (h : Paging L T c) : Shows L T (L.view c) c := ⟨rfl, h.coherent⟩

theorem Paging.translates (h : Paging L T c) :
    Translates L T (L.view c) (.of env.profile c.cpu) True c ∧ c.tlb = c.tlb :=
  ⟨⟨⟨rfl, fun _ => h.coherent⟩, rfl, fun _ _ => h.tlb⟩, rfl⟩

/-- The end of an access that has set marks and moved the buffer on. -/
theorem Paging.of_translates (hprof : env.profile = .p80486sx) (h : Paging L T c)
    (hm : MarkedOn (fun _ => True) (L.view c) v')
    (hs : Translates L T v' (.of env.profile c.cpu) True c') : Paging L T c' := by
  have hcr3 : c'.cpu.cr3 = c.cpu.cr3 := congrArg Mode.cr3 hs.mode
  have hmem : v'.mem = L.mem c'.bus := congrArg View.mem hs.sees.view.symm
  refine ⟨?_, ?_, ?_⟩
  · rw [← hmem]
    exact hs.sees.coherent hprof
  · rw [hs.sees.view, hcr3]
    exact (hm.mono fun _ _ => trivial).tables h.tables
  · rw [hs.sees.view, hcr3]
    exact hs.tlb trivial hprof

/-- A step that leaves memory, the cache, the buffer and CR3 alone. -/
theorem Paging.of_same (h : Paging L T c) (hv : L.view c' = L.view c)
    (hc : CoherentOn T (L.mem c'.bus) c'.cache) (hcr3 : c'.cpu.cr3 = c.cpu.cr3)
    (htlb : Drops tlb_scheme c.tlb c'.tlb) : Paging L T c' := by
  refine ⟨hc, ?_, ?_⟩
  · rw [hv, hcr3]
    exact h.tables
  · rw [hv, hcr3]
    exact h.tlb.drops htlb

theorem kma_translate_linear_paging (hprof : env.profile = .p80486sx) (hn : n ≤ VCPU_PAGESIZE)
    (linear : U32) (write : Bool) (vpl : Level) :
    Triple (Paging L T) (kma_translate_linear env linear n write vpl) (fun _ => Paging L T)
      (fun _ => Paging L T) := by
  have hspec := fun c (h : Paging L T c) => kma_translate_linear_spec (L := L) (T := T)
    (v := L.view c) (m := .of env.profile c.cpu) (R := True) (Or.inr hprof) (fun _ => h.tables) hn
    c.tlb linear write vpl
  refine Triple.intro (fun c pages c' h hr => ?_) fun c e c' h hr => ?_
  · obtain ⟨v', ht⟩ := (hspec c h).of_ok h.translates hr
    exact h.of_translates hprof ht.marked ht.state
  · rcases (hspec c h).of_error h.translates hr with ⟨-, v', hm, hs⟩ | ⟨_, _, -, -, v', hm, hs⟩
    · exact h.of_translates hprof hm hs
    · exact h.of_translates hprof (hm.on _) hs

/-! ## Every event keeps it -/

section Events

variable {Q : Fault → Context β → Prop}

theorem kma_read_pages_paging (hprof : env.profile = .p80486sx) (pages : Pages) :
    Triple (Paging L T) (kma_read_pages env linear n pages) (fun _ => Paging L T)
      (fun _ => Paging L T) := by
  have hkeep : ∀ v, Triple (Shows L T v) (kma_read_pages env linear n pages)
      (fun _ => Shows L T v) (fun _ => Shows L T v) := fun v => kma_read_pages_shows hprof pages
  have hcore := kma_read_pages_core env linear n pages
  have hend : ∀ c c', Paging L T c → Shows L T (L.view c) c' → c'.core = c.core →
      Paging L T c' := by
    intro c c' h hs hc
    refine h.of_same hs.view ?_ (congrArg (fun d : Context Unit => d.cpu.cr3) hc) ?_
    · have hmem : L.mem c'.bus = L.mem c.bus := congrArg View.mem hs.view
      rw [hmem]
      exact hs.coherent
    · have htlb : c'.tlb = c.tlb := congrArg (fun d : Context Unit => d.tlb) hc
      exact fun set way => Or.inl (by rw [htlb])
  exact Triple.intro
    (fun c _ c' h hr => hend c c' h ((hkeep _).of_ok h.shows hr) (hcore.ok hr))
    fun c _ c' h hr => hend c c' h ((hkeep _).of_error h.shows hr) (hcore.error hr)

/-- The transfer of a write that spares the tables. -/
theorem kma_write_pages_paging (hprof : env.profile = .p80486sx) {data : List U8} {pages : Pages}
    (h : Paging L T c) (hs : Spares env L T linear data pages c) :
    Paging L T (final (kma_write_pages env linear data pages) c) := by
  have hkeep := kma_write_pages_shows (L := L) (T := T) (v := L.view c) hprof c.cpu.cr0_nw hs.line
  have hcore := (kma_write_pages_core env linear data pages).run c
  have hcr3 : (final (kma_write_pages env linear data pages) c).cpu.cr3 = c.cpu.cr3 :=
    congrArg (fun d : Context Unit => d.cpu.cr3) hcore
  have htlb : (final (kma_write_pages env linear data pages) c).tlb = c.tlb :=
    congrArg (fun d : Context Unit => d.tlb) hcore
  obtain ⟨v', rfl, hco⟩ := hkeep.final ⟨h.shows, rfl⟩
  refine ⟨hco, ?_, ?_⟩
  · rw [hcr3]
    exact hs.memory.tables h.tables
  · rw [hcr3, htlb]
    exact h.tlb.marked hs.memory h.tables

theorem invalidate_prefetch_paging : Triple (Paging L T)
    (x86_core_cpu_execution_invalidate_prefetch env) (fun _ => Paging L T) Q := by
  refine Triple.bind (M := fun _ => Paging L T) (Triple.of_query fun c h => h) fun active => ?_
  refine Triple.bind (M := fun _ => Paging L T) (Triple.ite (fun _ => Triple.of_pure fun c h => h)
    fun _ => ?_) fun _ => Triple.of_update fun c h => ⟨h.coherent, h.tables, h.tlb⟩
  refine Triple.of_update fun c h => ?_
  change Paging L T (final (x86_core_cpu_bus_complete_memory_lock env false) c)
  have hsame := (complete_memory_lock_unlocked env false).run c
  have hview := (complete_memory_lock_view L false).run c
  refine h.of_same hview ?_ (congrArg (fun d : Context Unit => d.cpu.cr3) hsame) ?_
  · have hmem : L.mem (final (x86_core_cpu_bus_complete_memory_lock env false) c).bus =
        L.mem c.bus := congrArg View.mem hview
    rw [hmem, complete_memory_lock_cache]
    exact h.coherent
  · have htlb : (final (x86_core_cpu_bus_complete_memory_lock env false) c).tlb = c.tlb :=
      congrArg (fun d : Context Unit => d.tlb) hsame
    exact fun set way => Or.inl (by rw [htlb])

theorem invalidate_tlb_paging : Triple (Paging L T) (x86_core_cpu_execution_invalidate_tlb (β := β))
    (fun _ => Paging L T) Q :=
  Triple.of_update fun _ h => h.of_same rfl h.coherent rfl fun _ _ => Or.inr rfl

theorem s_write_cr0_paging (value : U32) :
    Triple (Paging L T) (s_write_cr0 env value) (fun _ => Paging L T) (fun _ => Paging L T) := by
  have hraise : ∀ b (e : Fault), Triple (Paging L T) (raise_if b e) (fun _ => Paging L T)
      (fun _ => Paging L T) :=
    fun b e => Triple.of_raise_if (fun _ _ h => h) fun _ _ h => h
  refine Triple.bind (M := fun _ => Paging L T) (Triple.of_query fun c h => h) fun cpu => ?_
  refine (hraise _ _).bind fun _ => (hraise _ _).bind fun _ => (hraise _ _).bind fun _ => ?_
  refine Triple.bind (M := fun _ => Paging L T) (Triple.ite (fun _ =>
    invalidate_prefetch_paging.bind fun _ => invalidate_tlb_paging) fun _ =>
      Triple.of_pure fun c h => h) fun _ => ?_
  exact Triple.of_update fun c h => h.of_same rfl h.coherent rfl fun _ _ => Or.inl rfl

/-- A new CR3 finds the buffer empty. -/
theorem s_write_cr3_paging (hprof : env.profile = .p80486sx) (value : U32) :
    Triple (fun c => Paging L T c ∧ TablesIn T (L.view c) (value &&& 0xfffff018))
      (s_write_cr3 env value) (fun _ => Paging L T) (fun _ => Paging L T) := by
  unfold s_write_cr3
  simp only [hprof, decide_true, Bool.not_true, Bool.false_and, raise_if_false, if_true, pure_bind]
  have hview : Respects (Frame.same L.view) (x86_core_cpu_execution_invalidate_prefetch env) :=
    (Respects.of_query _).bind fun _ => ((Respects.of_pure _).ite
      (complete_memory_lock_view L false)).bind fun _ => Respects.of_update fun _ => rfl
  refine Triple.bind (M := fun _ c => Paging L T c ∧ TablesIn T (L.view c) (value &&& 0xfffff018))
    (((invalidate_prefetch_paging (Q := fun _ => Paging L T)).keep hview fun v =>
      TablesIn T v (value &&& 0xfffff018)).weaken (fun _ _ h => h) fun _ _ h => h.1) fun _ => ?_
  refine Triple.bind (M := fun _ c => (CoherentOn T (L.mem c.bus) c.cache ∧
      TablesIn T (L.view c) (value &&& 0xfffff018)) ∧ ∀ set way, (c.tlb set way).valid = false)
    (Triple.of_update fun c h => ⟨⟨h.1.coherent, h.2⟩, fun _ _ => rfl⟩) fun _ => ?_
  exact Triple.of_update fun c h => ⟨h.1.1, h.1.2, .of_empty h.2⟩

end Events

/-- **One event keeps the invariant**, whether it ends well or in a fault. -/
theorem Paging.step (hprof : env.profile = .p80486sx) (h : Paging L T c) (e : PagingEvent)
    (ha : e.Allowed env L T c) : Paging L T (final (e.run env) c) := by
  cases e with
  | test linear n write vpl =>
    refine Triple.final (Triple.bind (kma_translate_linear_paging hprof ha linear write vpl)
      fun _ => Triple.of_pure fun _ h => h) h
  | read linear n vpl =>
    refine Triple.final (Triple.bind (M := fun _ => Paging L T) ?_ fun _ =>
      Triple.of_pure fun _ h => h) h
    exact Triple.bind (kma_translate_linear_paging hprof ha linear false vpl) fun pages =>
      kma_read_pages_paging hprof pages
  | write linear data vpl =>
    have ht := kma_translate_linear_paging (L := L) (T := T) hprof ha.1 linear true vpl
    cases hr : kma_translate_linear env linear data.length true vpl c with
    | ok pages c₁ =>
      have hrun : final (PagingEvent.run env (.write linear data vpl)) c =
          final (kma_write_pages env linear data pages) c₁ := by
        rw [PagingEvent.run, kma_write_linear, final, bind_run_ok hr, final]
      rw [hrun]
      exact kma_write_pages_paging hprof (ht.of_ok h hr) (ha.2 pages c₁ hr)
    | error e c₁ =>
      have hrun : final (PagingEvent.run env (.write linear data vpl)) c = c₁ := by
        rw [PagingEvent.run, kma_write_linear, final_of_error (bind_run_error hr)]
      rw [hrun]
      exact ht.of_error h hr
  | write_cr0 value => exact (s_write_cr0_paging value).final h
  | write_cr3 value => exact (s_write_cr3_paging hprof value).final ⟨h, ha⟩
  | invlpg linear =>
    refine h.of_same rfl h.coherent rfl fun set way => ?_
    by_cases hset : set = tlb_set linear ∧ (c.tlb set way).linear = linear &&& VCPU_PGENTRY_BASE
    · refine Or.inr ?_
      simp only [PagingEvent.run, kma_tlb_invalidate_page, final, update_run]
      rw [if_pos hset]
      rfl
    · refine Or.inl ?_
      simp only [PagingEvent.run, kma_tlb_invalidate_page, final, update_run]
      rw [if_neg hset]
  | compute f provenance =>
    refine ⟨h.coherent, ?_, ?_⟩
    · change TablesIn T (L.view c) (f c.cpu).cr3
      rw [show (f c.cpu).cr3 = c.cpu.cr3 from ha]
      exact h.tables
    · change TlbSound (L.view c) (f c.cpu).cr3 c.tlb
      rw [show (f c.cpu).cr3 = c.cpu.cr3 from ha]
      exact h.tlb

/-- And so does a run. -/
theorem Paging.run (hprof : env.profile = .p80486sx) (h : Paging L T c)
    (steps : Relation.ReflTransGen (PagingStep env L T) c c') : Paging L T c' := by
  induction steps with
  | refl => exact h
  | tail steps step ih =>
    cases step with
    | event e ha => exact ih.step hprof e ha

/-! ## The buffer is transparent -/

/-- What an access answers: its pages without their Dirty bits, or the error code and CR2
of its page fault. Nothing if the board failed. -/
def access_answer : EStateM.Result Fault (Context β) Pages → Option (Except (U32 × U32) Pages)
  | .ok pages _ => some (.ok pages.clean)
  | .error e c => if e.except = .pf then some (.error (e.excode, c.cpu.cr2)) else none

/-- The context with its translation buffer flushed. -/
def Context.flushed (c : Context β) : Context β := final x86_core_cpu_execution_invalidate_tlb c

/-- What the buffer may not do: change what an access answers, keep the Dirty bit from
memory, or hold a page twice. -/
structure TlbTransparent (env : Env β) (L : ByteArrayBus env.bus) (c : Context β) : Prop where
  unique : Unique tlb_scheme c.tlb
  walk : ∀ linear n write vpl, n ≤ VCPU_PAGESIZE → ∀ answer,
    access_answer (kma_translate_linear env linear n write vpl c) = some answer →
    answer = (L.view c).look_pages (.of env.profile c.cpu) (fun _ => none) linear n write (vpl == 3)
  fresh : ∀ linear n write vpl, n ≤ VCPU_PAGESIZE → ∀ answer answer',
    access_answer (kma_translate_linear env linear n write vpl c) = some answer →
    access_answer (kma_translate_linear env linear n write vpl c.flushed) = some answer' →
    answer = answer'
  board : ∀ linear n write vpl, n ≤ VCPU_PAGESIZE → ∀ e c',
    kma_translate_linear env linear n write vpl c = .error e c' → e.except = .pf ∨ e.except = .ce
  dirty : ∀ linear n vpl, n ≤ VCPU_PAGESIZE → c.cpu.is_paging = true → ∀ pages c',
    kma_translate_linear env linear n true vpl c = .ok pages c' →
    DirtyPages (L.view c') c.cpu.cr3 linear n

/-- A sound buffer says what the walk says, of both pages of an access. -/
theorem TlbSound.look_pages {m : Mode} {tlb : BitVec 3 → BitVec 2 → TlbEntry}
    (h : TlbSound v m.cr3 tlb) (profile : Profile) (linear : U32) (n : Nat) (write user : Bool) :
    v.look_pages m (tlb_entry profile tlb) linear n write user =
      v.look_pages m (fun _ => none) linear n write user := by
  unfold View.look_pages
  rw [h.look, h.look]

theorem Paging.flushed (h : Paging L T c) : Paging L T c.flushed :=
  (invalidate_tlb_paging (Q := fun _ _ => True)).of_ok h rfl

/-- The answer of an access is that of the walk. -/
theorem Paging.answer (hprof : env.profile = .p80486sx) (h : Paging L T c)
    (hn : n ≤ VCPU_PAGESIZE) {answer : Except (U32 × U32) Pages}
    (ha : access_answer (kma_translate_linear env linear n write vpl c) = some answer) :
    answer = (L.view c).look_pages (.of env.profile c.cpu) (fun _ => none) linear n write
      (vpl == 3) := by
  have hspec := kma_translate_linear_spec (L := L) (T := T) (v := L.view c)
    (m := .of env.profile c.cpu) (R := True) (Or.inr hprof) (fun _ => h.tables) hn c.tlb linear write
    vpl
  rw [← TlbSound.look_pages (m := .of env.profile c.cpu) h.tlb env.profile]
  cases hr : kma_translate_linear env linear n write vpl c with
  | ok pages c' =>
    obtain ⟨v', ht⟩ := hspec.of_ok h.translates hr
    rw [hr, access_answer, Option.some.injEq] at ha
    rw [← ha, ht.look]
  | error e c' =>
    rw [hr, access_answer] at ha
    rcases hspec.of_error h.translates hr with ⟨he, -⟩ | ⟨code, address, hlook, hf, -⟩
    · rw [he] at ha
      cases ha
    · obtain ⟨rfl, hcr2⟩ := hf
      rw [if_pos rfl, Option.some.injEq] at ha
      rw [← ha, hlook, hcr2]

theorem Paging.transparent (hprof : env.profile = .p80486sx) (h : Paging L T c) :
    TlbTransparent env L c := by
  have hspec := fun linear n write vpl hn => kma_translate_linear_spec (L := L) (T := T)
    (v := L.view c) (m := .of env.profile c.cpu) (R := True) (Or.inr hprof) (fun _ => h.tables)
    (hn : n ≤ VCPU_PAGESIZE) c.tlb linear write vpl
  refine ⟨h.tlb.unique, fun linear n write vpl hn answer ha => h.answer hprof hn ha, ?_, ?_, ?_⟩
  · intro linear n write vpl hn answer answer' ha ha'
    rw [h.answer hprof hn ha, h.flushed.answer hprof hn ha']
    rfl
  · intro linear n write vpl hn e c' hr
    rcases (hspec _ _ _ _ hn).of_error h.translates hr with ⟨he, -⟩ | ⟨code, address, -, hf, -⟩
    · exact Or.inr he
    · exact Or.inl (by rw [hf.1])
  · intro linear n vpl hn hpg pages c' hr
    obtain ⟨v', ht⟩ := (hspec _ _ _ _ hn).of_ok h.translates hr
    rw [ht.state.sees.view]
    exact ht.dirty trivial hpg rfl

/-- **The translation buffer cannot be noticed.** In every run from a flush of the buffer,
in which the page tables change by Accessed and Dirty bits only and the internal cache has
no stale copy of them, every access is answered as by a fresh walk. -/
theorem tlb_runs_transparent (env : Env β) (L : ByteArrayBus env.bus) (T : U32 → Prop)
    (c c' : Context β) (hprof : env.profile = .p80486sx)
    (hempty : ∀ set way, (c.tlb set way).valid = false)
    (hcache : CoherentOn T (L.mem c.bus) c.cache) (htables : TablesIn T (L.view c) c.cpu.cr3)
    (steps : Relation.ReflTransGen (PagingStep env L T) c c') : TlbTransparent env L c' :=
  (Paging.run hprof ⟨hcache, htables, .of_empty hempty⟩ steps).transparent hprof

/-- A processor that has paging on and has just flushed its buffer. -/
def fresh_pages : Context (Mem 32) := flat_context (paging_cpu 0x80000011) (two_pages 0x4007)

theorem tlb_runs_transparent_read :
    TlbTransparent (flat_env .p80486sx) flat_board
      (final ((PagingEvent.read 0xffe 4 3).run (flat_env .p80486sx)) fresh_pages) :=
  tlb_runs_transparent (flat_env .p80486sx) flat_board (fun _ => True) fresh_pages _ rfl (fun _ _ => rfl)
    (flat_coherent _ _ _ _) (.all _ _)
    (.single (.event _ (.read 0xffe 4 3) (by decide : 4 ≤ VCPU_PAGESIZE)))

/-- Two directory entries share a table, and the cache has a stale copy of its first
entry, left behind by CR0.NW. -/
def shared_table : Context (Mem 32) :=
  { flat_context (paging_cpu 0xe0000011)
      (memory_of [(0x1000, 0x2027), (0x1004, 0x2027), (0x2000, 0x5027)]) with
    cache := fun set way =>
      if set = 0 ∧ way = 0 then
        ⟨4, true, fun k => memory_of [(0x2000, 0x3027)] (0x2000 + k.setWidth 32)⟩
      else .empty }

/-- The first access fills the buffer from the line, the second sets the Dirty bit in the
entry that memory has and leaves that in the line too. -/
def shared_table_after : Context (Mem 32) :=
  final ((PagingEvent.test 0x400000 1 true 0).run (flat_env .p80486sx))
    (final ((PagingEvent.test 0 1 false 0).run (flat_env .p80486sx)) shared_table)

def entry_at (c : Context (Mem 32)) (a : U32) : U32 := word_of 32 (load c.bus a 4)

/-- In memory only a Dirty bit has changed, and the buffer and the walk disagree. -/
theorem kma_tlb_fill_stale_line :
    [0x1000, 0x1004, 0x2000].map (entry_at shared_table) = [0x2027, 0x2027, 0x5027] ∧
    [0x1000, 0x1004, 0x2000].map (entry_at shared_table_after) = [0x2027, 0x2027, 0x5067] ∧
    answer_of (kma_translate_linear (flat_env .p80486sx) 0 1 false 0) shared_table_after =
      some ⟨⟨0x3000, 6⟩, none⟩ ∧
    answer_of (kma_translate_linear (flat_env .p80486sx) 0 1 false 0) shared_table_after.flushed =
      some ⟨⟨0x5000, 0x46⟩, none⟩ := by
  decide

end Nxvm.Cpu
