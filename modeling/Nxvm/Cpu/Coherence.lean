/-
Coherence of the internal cache of the 80486SX over whole runs with CR0.NW clear:
accesses by physical and by linear address, the lock, flushes, register changes, and
writes by other masters, each reported before the processor goes on.
-/
import Mathlib.Logic.Relation
import Nxvm.Cpu.LinearAccess
import Nxvm.Cpu.FlatBoard

set_option autoImplicit false

namespace Nxvm.Cpu

open Nxvm.Lib Nxvm.Lib.Exec Nxvm.Lib.Memory Nxvm.Lib.Directory

variable {β : Type} {env : Env β} {L : ByteArrayBus env.bus} {v v' : View} {c c' : Context β}

/-! ## Events -/

/-- What the processor and the other masters of the bus do. -/
inductive BusEvent (β : Type) where
  | read (a : U32) (n : Nat) (p : Provenance) (attributes : U32)
  | write (a : U32) (data : List U8) (p : Provenance) (attributes : U32)
  | test_linear (linear : U32) (n : Nat) (write : Bool) (vpl : Level)
  | read_linear (linear : U32) (n : Nat) (vpl : Level)
  | write_linear (linear : U32) (data : List U8) (vpl : Level)
  | begin_lock
  | complete_lock (commit : Bool)
  | invalidate_cache
  | invalidate_tlb
  | invlpg (linear : U32)
  | write_cr0 (value : U32)
  | write_cr3 (value : U32)
  | compute (f : CpuData → CpuData) (provenance : Provenance)
  | signal_write (board : β) (physical : U32) (bytes : Nat)
  | memory_view (board : β) (physical : U32) (bytes : Nat)

/-- An event. The last two are a change of the board together with its report. -/
def BusEvent.run (env : Env β) : BusEvent β → Exec β Unit
  | .read a n p attributes => do
    let _ ← kma_read_physical env a n p attributes
    pure ()
  | .write a data p attributes => kma_write_physical env a data p attributes
  | .test_linear linear n w vpl => kma_test_linear env linear n w vpl
  | .read_linear linear n vpl => do
    let _ ← kma_read_linear env linear n vpl
    pure ()
  | .write_linear linear data vpl => kma_write_linear env linear data vpl
  | .begin_lock => kma_begin_memory_lock env
  | .complete_lock commit => x86_core_cpu_bus_complete_memory_lock env commit
  | .invalidate_cache => kma_cache_invalidate
  | .invalidate_tlb => x86_core_cpu_execution_invalidate_tlb
  | .invlpg linear => kma_tlb_invalidate_page linear
  | .write_cr0 value => s_write_cr0 env value
  | .write_cr3 value => s_write_cr3 env value
  | .compute f provenance =>
    update fun c => { c with cpu := f c.cpu, memory_access_provenance := provenance }
  | .signal_write board physical bytes => do
    update fun c => { c with bus := board }
    x86_core_cpu_signal_cache_write env physical bytes
  | .memory_view board physical bytes => do
    update fun c => { c with bus := board }
    x86_core_cpu_execution_invalidate_memory_view env physical bytes

/-- Linear accesses are no wider than a page, and another master changes memory in the
range it reports only. How the board decodes addresses may change with it. -/
def BusEvent.Allowed (L : ByteArrayBus env.bus) (c : Context β) : BusEvent β → Prop
  | .test_linear _ n _ _ => n ≤ VCPU_PAGESIZE
  | .read_linear _ n _ => n ≤ VCPU_PAGESIZE
  | .write_linear _ data _ => data.length ≤ VCPU_PAGESIZE
  | .signal_write board physical bytes | .memory_view board physical bytes =>
    ∀ x, ¬ Reported physical bytes x → L.mem board x = L.mem c.bus x
  | _ => True

/-- One event of a run in which CR0.NW stays clear. -/
inductive BusStep (env : Env β) (L : ByteArrayBus env.bus) : Context β → Context β → Prop
  | event (c : Context β) (e : BusEvent β) (h : e.Allowed L c)
    (hnw : (final (e.run env) c).cpu.cr0_nw = false) : BusStep env L c (final (e.run env) c)

/-! ## The invariant of a run -/

/-- Every valid line is a copy of memory, and no set has a tag twice. -/
abbrev Coherent (L : ByteArrayBus env.bus) (c : Context β) : Prop :=
  CoherentOn (fun _ => True) (L.mem c.bus) c.cache

theorem coherent_iff_shows : Coherent L c ↔ ∃ v, Shows L (fun _ => True) v c := by
  constructor
  · intro h
    exact ⟨_, rfl, h⟩
  · rintro ⟨_, rfl, h⟩
    exact h

/-- Shown at both endings. -/
theorem coherent_of_shows {α : Type} {x : Exec β α}
    (h : ∀ v, Triple (Shows L (fun _ => True) v) x (fun _ c => ∃ v', Shows L (fun _ => True) v' c)
      (fun _ c => ∃ v', Shows L (fun _ => True) v' c)) :
    Triple (Coherent L) x (fun _ => Coherent L) (fun _ => Coherent L) :=
  Triple.intro (fun c _ _ hc hr => coherent_iff_shows.mpr ((h (L.view c)).of_ok ⟨rfl, hc⟩ hr))
    fun c _ _ hc hr => coherent_iff_shows.mpr ((h (L.view c)).of_error ⟨rfl, hc⟩ hr)

/-- Memory and cache left alone. -/
theorem coherent_of_same {f : Context β → Context β} (hb : ∀ c, (f c).bus = c.bus)
    (hc : ∀ c, (f c).cache = c.cache) :
    Triple (Coherent L) (update f : Exec β Unit) (fun _ => Coherent L) (fun _ => Coherent L) :=
  Triple.of_update fun c h => by
    unfold Coherent
    rw [hb, hc]
    exact h

section Keep

variable {linear : U32} {n : Nat}

theorem kma_translate_linear_coherent (hprof : env.profile = .p80486sx) (hn : n ≤ VCPU_PAGESIZE)
    (linear : U32) (write : Bool) (vpl : Level) :
    Triple (Coherent L) (kma_translate_linear env linear n write vpl) (fun _ => Coherent L)
      (fun _ => Coherent L) := by
  have hspec := fun c => kma_translate_linear_spec (L := L) (T := fun _ => True)
    (v := L.view c) (m := .of env.profile c.cpu) (R := False) (Or.inr hprof) (fun _ => .all _ _) hn
    c.tlb linear write vpl
  have hstart : ∀ c, Coherent L c → Translates L (fun _ => True) (L.view c)
      (.of env.profile c.cpu) False c ∧ c.tlb = c.tlb :=
    fun c h => ⟨⟨⟨rfl, fun _ => h⟩, rfl, fun hR => hR.elim⟩, rfl⟩
  refine Triple.intro (fun c pages c' h hr => ?_) fun c e c' h hr => ?_
  · obtain ⟨v', ht⟩ := (hspec c).of_ok (hstart c h) hr
    exact coherent_iff_shows.mpr ⟨v', ht.state.sees.shows hprof⟩
  · rcases (hspec c).of_error (hstart c h) hr with ⟨-, v', -, hs⟩ | ⟨_, _, -, -, v', -, hs⟩
    · exact coherent_iff_shows.mpr ⟨v', hs.sees.shows hprof⟩
    · exact coherent_iff_shows.mpr ⟨v', hs.sees.shows hprof⟩

theorem complete_memory_lock_coherent (commit : Bool) :
    Triple (Coherent L) (x86_core_cpu_bus_complete_memory_lock env commit) (fun _ => Coherent L)
      (fun _ => Coherent L) :=
  coherent_of_shows fun v => (complete_memory_lock_spec (L := L) (v := v) commit
    (Q := fun _ _ => False)).weaken (fun _ _ h => ⟨v, h⟩) fun _ _ h => h.elim

theorem invalidate_prefetch_coherent :
    Triple (Coherent L) (x86_core_cpu_execution_invalidate_prefetch env) (fun _ => Coherent L)
      (fun _ => Coherent L) := by
  refine Triple.bind (M := fun _ => Coherent L) (Triple.of_query fun _ h => h) fun active => ?_
  refine Triple.bind (M := fun _ => Coherent L) (Triple.ite (fun _ => Triple.of_pure fun _ h => h)
    fun _ => complete_memory_lock_coherent false) fun _ => coherent_of_same (fun _ => rfl) fun _ => rfl

theorem invalidate_tlb_coherent :
    Triple (Coherent L) x86_core_cpu_execution_invalidate_tlb (fun _ => Coherent L)
      (fun _ => Coherent L) := coherent_of_same (fun _ => rfl) fun _ => rfl

theorem set_cpu_coherent (f : CpuData → CpuData) :
    Triple (Coherent L) (set_cpu f) (fun _ => Coherent L) (fun _ => Coherent L) :=
  coherent_of_same (fun _ => rfl) fun _ => rfl

theorem raise_if_coherent (b : Bool) (e : Fault) :
    Triple (Coherent L) (raise_if b e) (fun _ => Coherent L) (fun _ => Coherent L) :=
  Triple.of_raise_if (fun _ _ h => h) fun _ _ h => h

theorem s_write_cr0_coherent (value : U32) :
    Triple (Coherent L) (s_write_cr0 env value) (fun _ => Coherent L) (fun _ => Coherent L) := by
  refine Triple.bind (M := fun _ => Coherent L) (Triple.of_query fun _ h => h) fun cpu => ?_
  refine (raise_if_coherent _ _).bind fun _ => (raise_if_coherent _ _).bind fun _ =>
    (raise_if_coherent _ _).bind fun _ => ?_
  refine Triple.bind (M := fun _ => Coherent L) (Triple.ite (fun _ =>
    invalidate_prefetch_coherent.bind fun _ => invalidate_tlb_coherent) fun _ =>
      Triple.of_pure fun _ h => h) fun _ => set_cpu_coherent _

theorem s_write_cr3_coherent (value : U32) :
    Triple (Coherent L) (s_write_cr3 env value) (fun _ => Coherent L) (fun _ => Coherent L) :=
  (raise_if_coherent _ _).bind fun _ => invalidate_prefetch_coherent.bind fun _ =>
    invalidate_tlb_coherent.bind fun _ => set_cpu_coherent _

/-- A change of the board, and the report of the range it is in. -/
theorem invalidate_cache_range_coherent (hprof : env.profile = .p80486sx) (board : β)
    (physical : U32) (bytes : Nat)
    (h : ∀ x, ¬ Reported physical bytes x → L.mem board x = L.mem c.bus x) :
    Triple (fun d => d = { c with bus := board } ∧ Coherent L c)
      (kma_invalidate_cache_range env physical bytes) (fun _ => Coherent L)
      (fun _ => Coherent L) := by
  have hspec : Triple (fun d => L.view d = L.view { c with bus := board } ∧
      CoherentOn (fun _ => True) (L.view c).mem d.cache)
      (kma_invalidate_cache_range env physical bytes)
      (fun _ => Shows L (fun _ => True) (L.view { c with bus := board })) (fun _ _ => False) :=
    kma_invalidate_cache_range_spec hprof physical bytes h
  refine hspec.conseq ?_
    (fun _ _ h => coherent_iff_shows.mpr ⟨_, h⟩) fun _ _ h => h.elim
  rintro d ⟨rfl, hco⟩
  exact ⟨rfl, hco⟩

end Keep

/-- A report of nothing: memory has not changed. -/
theorem not_reported_zero (physical x : U32) : ¬ Reported physical 0 x := by
  rintro ⟨h₁, h₂⟩
  simp only [range_end, Nat.zero_min] at h₂
  omega

/-- **One event keeps the cache coherent**, whether it ends well or in a fault. -/
theorem Coherent.step (hprof : env.profile = .p80486sx) (h : Coherent L c)
    (hnw : c.cpu.cr0_nw = false) (e : BusEvent β) (ha : e.Allowed L c) :
    Coherent L (final (e.run env) c) := by
  have hread := fun a n p attributes => coherent_of_shows fun v =>
    (kma_read_physical_answers (L := L) (T := fun _ => True) (v := v) hprof a n p
      attributes).weaken (fun _ _ h => ⟨v, h.1⟩) fun _ _ h => ⟨v, h.1⟩
  cases e with
  | read a n p attributes =>
    exact (Triple.bind (R := fun _ => Coherent L) (hread a n p attributes) fun _ => Triple.of_pure fun _ h => h).final h
  | write a data p attributes =>
    refine Triple.final (I := Coherent L) ((kma_write_physical_spec (L := L) (T := fun _ => True)
      (v := L.view c) hprof a data p attributes false nofun).weaken ?_ ?_) ⟨⟨rfl, h⟩, hnw⟩
    · rintro _ d ⟨v', hs, -⟩
      exact coherent_iff_shows.mpr ⟨v', hs⟩
    · rintro e d ⟨-, v', hs, -⟩
      exact coherent_iff_shows.mpr ⟨v', hs⟩
  | test_linear linear n write vpl =>
    exact (Triple.bind (R := fun _ => Coherent L)
      (kma_translate_linear_coherent hprof ha linear write vpl) fun _ => Triple.of_pure fun _ h => h).final h
  | read_linear linear n vpl =>
    refine (Triple.bind (M := fun _ => Coherent L) (R := fun _ => Coherent L) (Triple.bind
      (kma_translate_linear_coherent hprof ha linear false vpl) fun pages => ?_)
      fun _ => Triple.of_pure fun _ h => h).final h
    exact coherent_of_shows fun v => (kma_read_pages_shows hprof pages).weaken
      (fun _ _ h => ⟨v, h⟩) fun _ _ h => ⟨v, h⟩
  | write_linear linear data vpl =>
    have ht := (kma_translate_linear_coherent (L := L) hprof ha linear true vpl).keep
      (f := fun c : Context β => (c.cpu.cr0_nw)) ⟨fun c => congrArg
        (fun d : Context Unit => d.cpu.cr0_nw)
        ((kma_translate_linear_settled env linear data.length true vpl).run c)⟩ (· = false)
    refine (Triple.bind (ht.weaken (fun _ _ h => h) fun _ _ h => h.1) fun pages => ?_).final
      (I := Coherent L) ⟨h, hnw⟩
    have hw : ∀ v, Triple (fun d => Shows L (fun _ => True) v d ∧ d.cpu.cr0_nw = false)
        (kma_write_pages env linear data pages) (fun _ d => ∃ v', Shows L (fun _ => True) v' d)
        (fun _ d => ∃ v', Shows L (fun _ => True) v' d) :=
      fun v => kma_write_pages_shows hprof false nofun
    exact Triple.intro
      (fun d _ _ hd hr => coherent_iff_shows.mpr ((hw _).of_ok ⟨⟨rfl, hd.1⟩, hd.2⟩ hr))
      fun d _ _ hd hr => coherent_iff_shows.mpr ((hw _).of_error ⟨⟨rfl, hd.1⟩, hd.2⟩ hr)
  | begin_lock =>
    exact (coherent_of_shows fun v => (kma_begin_memory_lock_spec (L := L) (v := v)).weaken
      (fun _ _ h => ⟨v, h.1⟩) fun _ _ h => ⟨v, h.1⟩).final h
  | complete_lock commit => exact (complete_memory_lock_coherent commit).final h
  | invalidate_cache =>
    exact (coherent_of_shows fun v => ((kma_cache_invalidate_spec (L := L) (v := v)
      (Q := fun _ _ => False)).conseq (fun _ h => h.view) (fun _ _ h => ⟨v, h⟩)
      fun _ _ h => h.elim)).final h
  | invalidate_tlb => exact invalidate_tlb_coherent.final h
  | invlpg linear => exact (coherent_of_same (fun _ => rfl) fun _ => rfl).final h
  | write_cr0 value => exact (s_write_cr0_coherent value).final h
  | write_cr3 value => exact (s_write_cr3_coherent value).final h
  | compute f provenance => exact (coherent_of_same (fun _ => rfl) fun _ => rfl).final h
  | signal_write board physical bytes =>
    change Coherent L (final (x86_core_cpu_signal_cache_write env physical bytes)
      { c with bus := board })
    refine Triple.final (P := fun d => d = { c with bus := board } ∧ Coherent L c) ?_ ⟨rfl, h⟩
    refine Triple.bind (M := fun cpu d => (d = { c with bus := board } ∧ Coherent L c) ∧ cpu = c.cpu)
      (Triple.of_query (f := Context.cpu) fun d hd => ⟨hd, by rw [hd.1]⟩) fun cpu =>
        Triple.assume fun hcpu => ?_
    subst hcpu
    refine Triple.ite (fun hno => absurd (hno.symm.trans hnw) (by decide)) fun _ => ?_
    exact invalidate_cache_range_coherent hprof board physical bytes ha
  | memory_view board physical bytes =>
    change Coherent L (final (x86_core_cpu_execution_invalidate_memory_view env physical bytes)
      { c with bus := board })
    refine Triple.final (P := fun d => d = { c with bus := board } ∧ Coherent L c) ?_ ⟨rfl, h⟩
    refine Triple.ite (fun h0 => Triple.of_pure fun d hd => ?_) fun _ =>
      Triple.bind (invalidate_cache_range_coherent hprof board physical bytes ha) fun _ =>
        invalidate_prefetch_coherent
    obtain ⟨rfl, hco⟩ := hd
    subst h0
    exact hco.of_eq_on fun _ _ _ _ _ => ha _ (not_reported_zero physical _)

/-- And so does a run. -/
theorem Coherent.run (hprof : env.profile = .p80486sx) (h : Coherent L c)
    (hnw : c.cpu.cr0_nw = false) (steps : Relation.ReflTransGen (BusStep env L) c c') :
    Coherent L c' ∧ c'.cpu.cr0_nw = false := by
  induction steps with
  | refl => exact ⟨h, hnw⟩
  | tail steps step ih =>
    cases step with
    | event e ha hnw => exact ⟨ih.1.step hprof ih.2 e ha, hnw⟩

/-! ## What it means for reads -/

/-- A data access of the bus answers byte by byte what single bytes would. -/
theorem View.bus_bytes_eq (v : View) (profile : Profile) {p : Provenance} (a : U32) (n : Nat)
    (hp : p ≠ .instruction_fetch ∧ p ≠ .instruction_prefetch) :
    v.bus_bytes profile p a n = v.bytes profile p a n := by
  have hno : ∀ a n, kma_is_reset_vector_fetch profile a n p = false := by
    intro a n
    simp [kma_is_reset_vector_fetch, hp]
  simp only [View.bus_bytes, View.bytes, View.byte, View.resolve, hno]

/-- A single byte resolves as it does on the bus. -/
theorem View.bus_bytes_one (v : View) (profile : Profile) (p : Provenance) (a : U32) :
    v.bus_bytes profile p a 1 = [v.byte profile p a] := by
  simp [View.bus_bytes, View.byte, View.resolve]

/-- The cache cannot be noticed: its lines are copies, its tags are unique, and a read
answers what reads of the bus would answer in its place. -/
structure CacheTransparent (env : Env β) (L : ByteArrayBus env.bus) (c : Context β) : Prop where
  unique : Unique line_scheme c.cache
  copy : ∀ set way, (c.cache set way).valid = true → ∀ k,
    (c.cache set way).data k = L.mem c.bus (byte_address (c.cache set way).tag set k)
  read : ∀ a n p attributes bytes c', kma_read_physical env a n p attributes c = .ok bytes c' →
    bytes = (L.view c).bytes .p80486sx p a n
  bus_byte : ∀ a n p attributes bytes c', kma_read_physical env a n p attributes c = .ok bytes c' →
    ∀ i (hi : i < bytes.length) data c₁,
      kma_read_bus env (a + BitVec.ofNat 32 i) 1 p attributes c = .ok data c₁ → data = [bytes[i]]
  bus : ∀ a n p attributes bytes c', p ≠ .instruction_fetch ∧ p ≠ .instruction_prefetch →
    kma_read_physical env a n p attributes c = .ok bytes c' →
    ∀ data c₁, kma_read_bus env a n p attributes c = .ok data c₁ → data = bytes
  read_linear : ∀ linear n vpl data c', n ≤ VCPU_PAGESIZE →
    kma_read_linear env linear n vpl c = .ok data c' → ∃ pages,
      data = (L.view c').page_bytes env.profile c.memory_access_provenance linear n pages
  failure : ∀ a n p attributes e c', kma_read_physical env a n p attributes c = .error e c' →
    e.except = .ce

theorem Coherent.transparent (hprof : env.profile = .p80486sx) (h : Coherent L c) :
    CacheTransparent env L c := by
  have hspec := fun a n p attributes => kma_read_physical_spec (L := L) (T := fun _ => True)
    (v := L.view c) hprof a n p attributes fun _ _ => trivial
  have hread : ∀ a n p attributes bytes c',
      kma_read_physical env a n p attributes c = .ok bytes c' →
      bytes = (L.view c).bytes .p80486sx p a n :=
    fun a n p attributes bytes c' hr => ((hspec a n p attributes).of_ok ⟨rfl, h⟩ hr).2
  have hbus : ∀ a n p attributes data c₁, kma_read_bus env a n p attributes c = .ok data c₁ →
      data = (L.view c).bus_bytes .p80486sx p a n := by
    intro a n p attributes data c₁ hr
    have := ((kma_read_bus_view (L := L) (v := L.view c) a n p attributes).of_ok rfl hr).2
    rwa [hprof] at this
  refine ⟨h.unique, fun set way hv k => h.agree set way hv k trivial, hread, ?_, ?_, ?_, ?_⟩
  · intro a n p attributes bytes c' hr i hi data c₁ hb
    have hbytes := hread a n p attributes bytes c' hr
    subst hbytes
    rw [hbus _ _ _ _ _ _ hb, View.bus_bytes_one]
    simp only [View.bytes, List.getElem_map, List.getElem_range]
  · intro a n p attributes bytes c' hp hr data c₁ hb
    rw [hbus _ _ _ _ _ _ hb, hread _ _ _ _ _ _ hr, View.bus_bytes_eq _ _ _ _ hp]
  · intro linear n vpl data c' hn hr
    obtain ⟨pages, c₁, hr₁, hr₂⟩ := bind_eq_ok.mp hr
    have hco := (kma_translate_linear_coherent (L := L) hprof hn linear false vpl).of_ok h hr₁
    have hset : c₁.settled = c.settled := (kma_translate_linear_settled ..).ok hr₁
    have hprov : c₁.memory_access_provenance = c.memory_access_provenance :=
      congrArg (fun d : Context Unit => d.memory_access_provenance) hset
    have hview : L.view c' = L.view c₁ := ((kma_read_pages_harmless L ..).run _).of_ok rfl hr₂
    refine ⟨pages, ?_⟩
    rw [hview]
    exact ((kma_read_pages_spec (L := L) (T := fun _ => True) (Or.inr hprof) (fun _ => trivial)
      linear n pages _).of_ok ⟨⟨rfl, fun _ => hco⟩, hprov⟩ hr₂).2
  · intro a n p attributes e c' hr
    exact ((hspec a n p attributes).of_error ⟨rfl, h⟩ hr).2

/-- **The internal cache is coherent in every run with CR0.NW clear**, whatever the board
refuses on the way: its lines are copies of memory and reads answer what memory holds. -/
theorem cache_runs_coherent (env : Env β) (L : ByteArrayBus env.bus) (c c' : Context β)
    (hprof : env.profile = .p80486sx) (hnw : c.cpu.cr0_nw = false)
    (hempty : ∀ set way, (c.cache set way).valid = false)
    (steps : Relation.ReflTransGen (BusStep env L) c c') : CacheTransparent env L c' := by
  have hstart : Coherent L c := by
    refine ⟨fun set way way' hv => ?_, fun set way hv => ?_⟩
    · exact absurd hv (by simp [line_scheme, hempty])
    · exact absurd hv (by simp [line_scheme, hempty])
  exact (hstart.run hprof hnw steps).1.transparent hprof

/-- A line is filled, written to, and changed by another master. -/
theorem cache_runs_coherent_fill_write_report :
    let c₀ := flat_context CpuData.zero (memory_of [(0x1000, 0x11223344)])
    let env := flat_env .p80486sx
    let c₁ := final ((BusEvent.read 0x1000 4 .data 0).run env) c₀
    let c₂ := final ((BusEvent.write 0x1002 [7] .data 0).run env) c₁
    CacheTransparent env flat_board
      (final ((BusEvent.signal_write (store c₂.bus 0x1001 [9]) 0x1001 1).run env) c₂) := by
  intro c₀ env c₁ c₂
  refine cache_runs_coherent env flat_board c₀ _ rfl (by decide) (fun _ _ => rfl) ?_
  have hreport : ∀ x, ¬ Reported 0x1001 1 x → store c₂.bus 0x1001 [9] x = c₂.bus x := by
    intro x hx
    refine store_outside fun hin => hx ?_
    obtain rfl : x = 0x1001 := by
      simp only [InRun, List.length_singleton] at hin
      bv_omega
    exact ⟨by decide, by decide⟩
  exact ((Relation.ReflTransGen.refl.tail
    (.event c₀ (.read 0x1000 4 .data 0) trivial (by decide))).tail
    (.event c₁ (.write 0x1002 [7] .data 0) trivial (by decide))).tail
    (.event c₂ (.signal_write (store c₂.bus 0x1001 [9]) 0x1001 1) hreport (by decide))

end Nxvm.Cpu
