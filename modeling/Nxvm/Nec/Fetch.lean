/-
What the emulation fetches: a read through CS answers the bytes of memory, and the
prefetch queue answers them as long as they have not been overwritten.

A read may be split at the end of the segment, at the end of a page and into cycles of a
byte or an aligned word. Each part is followed to the one map from offsets in the
segment to bytes, which is what the direct interpreter fetches from.
-/
import Nxvm.Nec.Forms

set_option autoImplicit false

namespace Nxvm.Nec

open Nxvm.Cpu Nxvm.Lib Nxvm.Lib.Exec Nxvm.Lib.Memory Nxvm.Lib.Lockstep

variable {β α γ : Type} {w : Windows}

/-! ## Reads that leave the context -/

/-- The board refuses some read of code. -/
def Refused (p : Platform β) (b : β) : Prop :=
  ∃ a n q, q ≠ .data ∧ (p.bus.read_memory a n q false 0 b).1 = none

/-- The run ends in `r`, unless the board refuses and the state is left. -/
def OrRefused {σ : Type} (p : Platform β) (b : β) (s : σ)
    (run r : EStateM.Result Fault σ α) : Prop :=
  run = r ∨ Refused p b ∧ ∃ f : Fault, run = .error f s ∧ f.except = .ce

/-- The answer is `a`, unless the board refuses; either way the state is left. -/
def Answers {σ : Type} (p : Platform β) (b : β) (s : σ) (x : EStateM Fault σ α) (a : α) : Prop :=
  OrRefused p b s (x s) (.ok a s)

theorem Answers.bind {σ : Type} {p : Platform β} {b : β} {s : σ} {x : EStateM Fault σ α}
    {k : α → EStateM Fault σ γ} {a : α} {r : EStateM.Result Fault σ γ} (h : Answers p b s x a)
    (hk : OrRefused p b s (k a s) r) : OrRefused p b s ((x >>= k) s) r := by
  rcases h with h | ⟨hrefused, f, h, hf⟩
  · rw [bind_run_ok h]
    exact hk
  · exact .inr ⟨hrefused, f, bind_run_error h, hf⟩

theorem on_context_ok {x : Exec β α} {e : Executor β} {a : α} {c : Context β}
    (h : x e.context = .ok a c) : on_context x e = .ok a { e with context := c } := by
  rw [on_context, h]

theorem on_context_error {x : Exec β α} {e : Executor β} {f : Fault} {c : Context β}
    (h : x e.context = .error f c) : on_context x e = .error f { e with context := c } := by
  rw [on_context, h]

theorem Answers.on_context {p : Platform β} {b : β} {e : Executor β} {x : Exec β α} {a : α}
    (h : Answers p b e.context x a) : Answers p b e (on_context x) a := by
  rcases h with h | ⟨hrefused, f, h, hf⟩
  · exact .inl (on_context_ok h)
  · exact .inr ⟨hrefused, f, on_context_error h, hf⟩

/-! ## The address lines -/

theorem wired_toNat (a : U32) : (a &&& 0x000fffff).toNat = a.toNat % 0x100000 :=
  Bits.and_low_toNat a 0xfffff 20 rfl

theorem wired_add (a x : U32) :
    ((a &&& 0x000fffff) + x) &&& 0x000fffff = (a + x) &&& 0x000fffff := by
  refine BitVec.eq_of_toNat_eq ?_
  rw [wired_toNat, wired_toNat, BitVec.toNat_add, BitVec.toNat_add, wired_toNat]
  omega

/-- A cycle of two bytes begins at an even address, so it does not wrap. -/
theorem bus_part_wired {a : U32} {n i : ℕ} (h : i < kma_v30_bus_part (a &&& 0x000fffff) n) :
    (a &&& 0x000fffff) + BitVec.ofNat 32 i = (a + BitVec.ofNat 32 i) &&& 0x000fffff := by
  have heven : i = 0 ∨ i = 1 ∧ a.toNat % 2 = 0 := by
    unfold kma_v30_bus_part at h
    split at h
    next hword =>
      simp only [Bool.and_eq_true, decide_eq_true_eq, beq_iff_eq] at hword
      have hbit := congrArg BitVec.toNat hword.2
      rw [Bits.and_low_toNat _ 1 1 rfl, wired_toNat] at hbit
      simp only [BitVec.ofNat_eq_ofNat, BitVec.toNat_ofNat] at hbit
      omega
    · omega
  have ha := a.isLt
  refine BitVec.eq_of_toNat_eq ?_
  rw [wired_toNat, BitVec.toNat_add, BitVec.toNat_add, wired_toNat, BitVec.toNat_ofNat]
  omega

theorem bus_part_bounds {a : U32} {n : ℕ} (h : 0 < n) :
    0 < kma_v30_bus_part a n ∧ kma_v30_bus_part a n ≤ n := by
  unfold kma_v30_bus_part
  split
  next hword =>
    simp only [Bool.and_eq_true, decide_eq_true_eq] at hword
    omega
  · omega

/-! ## Code in memory -/

section Code

variable {p : Platform β} (M : CodeMemory p.bus) {c : Context β} {q : Provenance}

/-- Code by its address, of which twenty lines are connected. -/
def CodeMemory.wired (b : β) : Mem 32 := fun a => M.code b (a &&& 0x000fffff)

theorem wired_load (b : β) (a : U32) (n : ℕ) :
    load (M.wired b) (a &&& 0x000fffff) n = load (M.wired b) a n := by
  refine List.map_congr_left fun i _ => ?_
  rw [CodeMemory.wired, wired_add]
  rfl

/-- One cycle. -/
theorem cycle_answers (hq : q ≠ .data) (a : U32) (n : ℕ) :
    Answers p c.bus c
      (kma_read_bus p.env (a &&& 0x000fffff) (kma_v30_bus_part (a &&& 0x000fffff) n) q 0)
      (load (M.wired c.bus) a (kma_v30_bus_part (a &&& 0x000fffff) n)) := by
  generalize hpart : kma_v30_bus_part (a &&& 0x000fffff) n = part
  have hquiet := M.quiet (a &&& 0x000fffff) part q 0 c.bus hq
  have hbytes := M.bytes (a &&& 0x000fffff) part q 0 c.bus
  rw [Answers, read_bus_v30]
  rcases hread : p.bus.read_memory (a &&& 0x000fffff) part q false 0 c.bus with ⟨_ | data, b⟩
  · rw [hread] at hquiet
    obtain rfl : b = c.bus := hquiet
    exact .inr ⟨⟨_, _, q, hq, congrArg Prod.fst hread⟩, _, rfl, rfl⟩
  · rw [hread] at hquiet hbytes
    obtain rfl : b = c.bus := hquiet
    have hload : (List.range part).map data = load (M.wired c.bus) a part := by
      refine List.map_congr_left fun i hi => ?_
      have hlt := List.mem_range.mp hi
      rw [hbytes data hq rfl i hlt, CodeMemory.wired]
      rw [← hpart] at hlt
      rw [bus_part_wired hlt]
    rw [← hload]
    exact .inl rfl

/-- The loop over the cycles of a read. -/
theorem read_v30_answers (hq : q ≠ .data) (fuel : ℕ) (a : U32) (n : ℕ) (hn : n ≤ fuel) :
    Answers p c.bus c (kma_read_v30 p.env q 0 fuel a n) (load (M.wired c.bus) a n) := by
  induction fuel generalizing a n with
  | zero =>
    obtain rfl : n = 0 := by omega
    exact .inl rfl
  | succ fuel ih =>
    rw [kma_read_v30]
    by_cases hzero : n = 0
    · rw [if_pos hzero, hzero]
      exact .inl rfl
    · rw [if_neg hzero]
      obtain ⟨hpos, hle⟩ := bus_part_bounds (a := a &&& 0x000fffff) (n := n) (by omega)
      refine Answers.bind (cycle_answers M hq a n) ?_
      refine Answers.bind (ih _ _ (by omega)) ?_
      rw [load_append, Nat.add_sub_cancel' hle]
      exact .inl rfl

theorem read_pages_answers (hq : c.memory_access_provenance ≠ .data) (linear : U32) (n : ℕ) :
    Answers p c.bus c
      (kma_read_pages p.env linear n
        ⟨⟨linear, 0⟩, if crosses_page linear n then some ⟨next_page linear, 0⟩ else none⟩)
      (load (M.wired c.bus) linear n) := by
  have hphysical : ∀ (a : U32) (k : ℕ),
      Answers p c.bus c (kma_read_physical p.env a k c.memory_access_provenance 0)
        (load (M.wired c.bus) a k) := by
    intro a k
    rw [← wired_load]
    exact read_v30_answers M hq k (a &&& 0x000fffff) k (Nat.le_refl k)
  rw [Answers, kma_read_pages, bind_run, query_run]
  by_cases hcross : crosses_page linear n = true
  · have hoffset := linear_offset_lt linear
    have hle : first_part linear ≤ n := by
      simp only [crosses_page, decide_eq_true_eq] at hcross
      unfold first_part
      omega
    simp only [hcross, if_true]
    refine Answers.bind (hphysical _ _) (Answers.bind (hphysical _ _) ?_)
    rw [next_page, load_append, Nat.add_sub_cancel' hle]
    exact .inl rfl
  · simp only [hcross, Bool.false_eq_true, if_false]
    exact hphysical _ _

/-- Through the code segment, which needs no check. -/
theorem read_segment_answers (hreal : c.cpu.cr0_pe = false)
    (hq : c.memory_access_provenance ≠ .data) (w : Windows) (offset : U32) (n : ℕ)
    (vpl : Level) :
    Answers p c.bus c (kma_read_segment p.env w.cs offset n vpl true)
      (load (M.wired c.bus) (w.cs.base + offset) n) := by
  rw [Answers, read_segment_real p hreal (.inl w.code)]
  exact read_pages_answers M hq _ _

/-! ## Offsets in the code segment -/

/-- Code by its offset in the segment. -/
def CodeMemory.segment (w : Windows) (b : β) : Mem 16 := fun a => M.code b (w.code_address a)

theorem segment_load (w : Windows) (b : β) (a : U16) {n : ℕ} (hn : a.toNat + n ≤ 0x10000) :
    load (M.wired b) (w.cs.base + a.setWidth 32) n = load (M.segment w b) a n := by
  refine List.map_congr_left fun i hi => ?_
  have hlt := List.mem_range.mp hi
  have hoffset : (a + BitVec.ofNat 16 i).setWidth 32 = a.setWidth 32 + BitVec.ofNat 32 i := by
    refine BitVec.eq_of_toNat_eq ?_
    simp only [BitVec.toNat_setWidth, BitVec.toNat_add, BitVec.toNat_ofNat]
    omega
  rw [CodeMemory.wired, CodeMemory.segment, Windows.code_address, hoffset, BitVec.add_assoc]

/-- A read at the end of the segment goes on at its start. -/
theorem read_logical_answers (hreal : c.cpu.cr0_pe = false)
    (hq : c.memory_access_provenance = .instruction_fetch ∨
      c.memory_access_provenance = .instruction_prefetch)
    (w : Windows) (a : U16) {n : ℕ} (hn : n ≤ 0x10000) (vpl : Level) :
    Answers p c.bus c (kma_read_logical p.env w.cs (a.setWidth 32) n vpl true)
      (load (M.segment w c.bus) a n) := by
  have hdata : c.memory_access_provenance ≠ .data := by
    rcases hq with h | h <;> rw [h] <;> decide
  have ha := a.isLt
  have hwidth : (a.setWidth 32 : U32).toNat = a.toNat := by
    rw [BitVec.toNat_setWidth]
    omega
  have hwrap : kma_real_legacy_segment_wrap p.env c (a.setWidth 32) n =
      decide (n ≠ 0 ∧ 0xffff - a.toNat < n - 1) := by
    have hle : decide ((a.setWidth 32 : U32) ≤ 0xffff) = true := by
      rw [decide_eq_true_eq, BitVec.le_def, hwidth]
      exact Nat.le_of_lt_succ ha
    rw [kma_real_legacy_segment_wrap, hreal, hle, hwidth, Platform.env]
    by_cases hzero : n = 0
    · simp [hzero]
    · rcases hq with h | h <;> simp [h, hzero]
  rw [Answers, kma_read_logical, bind_run, query_run, hwrap]
  simp only [decide_eq_true_eq]
  by_cases hlong : n ≠ 0 ∧ 0xffff - a.toNat < n - 1
  · have hpart : wrap_part (a.setWidth 32) = 0x10000 - a.toNat := by rw [wrap_part, hwidth]
    rw [if_pos hlong, hpart]
    refine Answers.bind (read_segment_answers M hreal hdata w _ _ vpl) ?_
    refine Answers.bind (read_segment_answers M hreal hdata w _ _ vpl) ?_
    have hrest := segment_load M w c.bus 0 (n := n - (0x10000 - a.toNat)) (by
      simp only [BitVec.ofNat_eq_ofNat, BitVec.toNat_ofNat]
      omega)
    have hnext : a + BitVec.ofNat 16 (0x10000 - a.toNat) = 0 := by
      refine BitVec.eq_of_toNat_eq ?_
      rw [BitVec.toNat_add, BitVec.toNat_ofNat]
      simp only [BitVec.ofNat_eq_ofNat, BitVec.toNat_ofNat]
      omega
    have happend := load_append (M.segment w c.bus) a (0x10000 - a.toNat) (n - (0x10000 - a.toNat))
    rw [hnext, Nat.add_sub_cancel' (by omega), ← segment_load M w c.bus a (by omega), ← hrest]
      at happend
    rw [← happend]
    exact .inl rfl
  · rw [if_neg hlong, ← segment_load M w c.bus a (by omega)]
    exact read_segment_answers M hreal hdata w _ _ vpl

/-- A read of instruction bytes leaves the provenance as it found it. -/
theorem read_code_answers (he : Emulating w c)
    (hq : q = .instruction_fetch ∨ q = .instruction_prefetch) (a : U16) {n : ℕ}
    (hn : n ≤ 0x10000) :
    Answers p c.bus c (read_code p q .data (a.setWidth 32) n) (load (M.segment w c.bus) a n) := by
  have hread := read_logical_answers M (c := { c with memory_access_provenance := q }) he.real hq
    w a hn c.cpu.cpl
  have hback : ({ c with memory_access_provenance := .data } : Context β) = c := by
    rw [← he.data]
  rw [Answers, read_code, bind_run, get_cpu_run]
  simp only [bind_run, update_run, attempt, he.cs]
  rcases hread with h | ⟨hrefused, f, h, hf⟩
  · rw [h]
    left
    change EStateM.Result.ok _ ({ c with memory_access_provenance := .data } : Context β) = _
    rw [hback]
  · rw [h]
    refine .inr ⟨hrefused, f, ?_, hf⟩
    change EStateM.Result.error _ ({ c with memory_access_provenance := .data } : Context β) = _
    rw [hback]

end Code

/-! ## The prefetch queue

The queue is not told of writes. It is coherent at an offset if it does not hold the byte
there, or holds the one that is in memory. -/

section Queue

variable {p : Platform β} (M : CodeMemory p.bus) {e : Executor β}

def Coherent (w : Windows) (e : Executor β) (a : U16) : Prop :=
  ∀ v, e.queued (w.cs.base + a.setWidth 32) = some v → v = M.segment w e.context.bus a

/-- The linear address of the next instruction. -/
def Executor.linear (e : Executor β) : U32 := e.context.cpu.cs.base + e.context.cpu.eip

/-- The offset of the next instruction. -/
def Executor.offset (e : Executor β) : U16 := low_word e.context.cpu.eip

theorem eip_eq {c : Context β} (he : Emulating w c) :
    c.cpu.eip = (low_word c.cpu.eip).setWidth 32 := by
  have heip := he.eip
  refine BitVec.eq_of_toNat_eq ?_
  simp only [low_word, BitVec.toNat_setWidth, BitVec.extractLsb'_toNat]
  omega

theorem Windows.address_toNat (w : Windows) (a : U16) :
    (w.cs.base + a.setWidth 32).toNat = w.cs.base.toNat + a.toNat := by
  have hlow := w.low
  have ha := a.isLt
  simp only [BitVec.toNat_add, BitVec.toNat_setWidth]
  omega

theorem prefetch_request_le (cpu : CpuData) (linear : U32) : prefetch_request cpu linear ≤ 6 := by
  unfold prefetch_request
  have hcapacity : min prefetch_capacity (VCPU_PAGESIZE - (linear_offset linear).toNat) ≤ 6 :=
    Nat.min_le_left _ _
  dsimp only
  split_ifs <;> omega

/-- Nothing is locked between two instructions, so all that goes is the queue. -/
theorem invalidate_run {c : Context β} (h : c.memory_lock_active = false) :
    x86_core_cpu_execution_invalidate_prefetch p.env c =
      .ok () { c with prefetch_count := 0, prefetch_valid := false } := by
  rw [x86_core_cpu_execution_invalidate_prefetch, bind_run, query_run]
  simp only [x86_core_cpu_bus_complete_memory_lock]
  by_cases hactive : c.timing_bus_active = true
  · rw [if_pos hactive]
    rfl
  · have hopen : ¬ c.memory_lock_active = true := by simp [h]
    rw [if_neg hactive, update_bind_run, if_neg hopen, update_run]

/-- Only the queue has changed. -/
def Refilled (e e' : Executor β) : Prop :=
  e'.context = { e.context with
    prefetch_count := e'.context.prefetch_count
    prefetch_valid := e'.context.prefetch_valid }

theorem Refilled.emulating {e' : Executor β} (h : Refilled e e') (he : Emulating w e.context) :
    Emulating w e'.context := by
  rw [h]
  exact ⟨he.cs, he.ds, he.real, he.md, he.eip, he.data, he.unlocked⟩

theorem Refilled.machine {e' : Executor β} (h : Refilled e e') :
    machine_of e'.context = machine_of e.context := by
  rw [h]
  rfl

/-- A queue that has just been filled is coherent everywhere. -/
theorem refill_coherent {n : ℕ} (hcount : e.context.prefetch_count = n)
    {a : U16} (hlinear : e.prefetch_linear = w.cs.base + a.setWidth 32)
    (hbytes : e.prefetch_bytes = fun i => (load (M.segment w e.context.bus) a n).getD i 0)
    (x : U16) : Coherent M w e x := by
  intro v hv
  unfold Executor.queued at hv
  split at hv
  next hin =>
    obtain ⟨-, hle, hlt⟩ := hin
    rw [hlinear] at hle hlt hv
    rw [BitVec.le_def, w.address_toNat, w.address_toNat] at hle
    have hx := x.isLt
    have hdistance : (w.cs.base + x.setWidth 32 - (w.cs.base + a.setWidth 32)).toNat =
        x.toNat - a.toNat := by
      have hlow := w.low
      rw [BitVec.toNat_sub, w.address_toNat, w.address_toNat]
      omega
    rw [hdistance, hcount] at hlt
    rw [hdistance, hbytes] at hv
    have hreach : a + BitVec.ofNat 16 (x.toNat - a.toNat) = x := by
      refine BitVec.eq_of_toNat_eq ?_
      rw [BitVec.toNat_add, BitVec.toNat_ofNat]
      omega
    obtain rfl := Option.some.inj hv
    simp only
    rw [List.getD_eq_getElem _ _ (by rw [load_length]; exact hlt), load_getElem, hreach]
  next => exact absurd hv (by simp)

/-- The executor with its queue dropped. -/
def Executor.dropped (e : Executor β) : Executor β :=
  { e with
    context := { e.context with prefetch_count := 0, prefetch_valid := false }
    prefetch_expected_valid := false }

/-- The executor with `data`, read from offset `a`, for its queue. -/
def Executor.refilled (e : Executor β) (n : ℕ) (linear : U32) (data : List U8) : Executor β :=
  { e with
    context := { e.context with prefetch_count := n, prefetch_valid := true }
    prefetch_linear := linear
    prefetch_bytes := fun i => data.getD i 0 }

theorem exec_init_kept (h : prefetch_lost e e.linear = false) : exec_init p e = .ok () e := by
  rw [exec_init, get_bind_run]
  simp only
  rw [show prefetch_lost e (e.context.cpu.cs.base + e.context.cpu.eip) = false from h]
  rfl

/-- The queue is dropped first, whatever becomes of the read. -/
theorem exec_init_lost (he : Emulating w e.context) (h : prefetch_lost e e.linear = true) :
    exec_init p e =
      (on_context (read_code p .instruction_prefetch .data (e.offset.setWidth 32)
        (prefetch_request e.context.cpu e.linear)) >>= fun data =>
          update fun e' => e'.refilled (prefetch_request e.context.cpu e.linear) e.linear data)
        e.dropped := by
  rw [exec_init, get_bind_run]
  simp only
  rw [show prefetch_lost e (e.context.cpu.cs.base + e.context.cpu.eip) = true from h, if_pos rfl]
  rw [bind_run_ok (on_context_ok (invalidate_run he.unlocked)), update_bind_run, Executor.offset, ← eip_eq he]
  rfl

/-- The instruction is in the queue and the queue is kept, or the queue is filled again. -/
theorem exec_init_run (he : Emulating w e.context) (needed : U16 → Prop)
    (hqueue : prefetch_lost e e.linear = true ∨ ∀ a, needed a → Coherent M w e a) :
    (∃ e', exec_init p e = .ok () e' ∧ Refilled e e' ∧ ∀ a, needed a → Coherent M w e' a) ∨
      Refused p e.context.bus ∧ ∃ (f : Fault) (e' : Executor β),
        exec_init p e = .error f e' ∧ f.except = .ce ∧ e'.context.bus = e.context.bus := by
  by_cases hlost : prefetch_lost e e.linear = true
  · have hdropped : Emulating w e.dropped.context :=
      ⟨he.cs, he.ds, he.real, he.md, he.eip, he.data, he.unlocked⟩
    have hread := (read_code_answers M hdropped (.inr rfl) e.offset
      (n := prefetch_request e.context.cpu e.linear)
      ((prefetch_request_le _ _).trans (by decide))).on_context
    rw [exec_init_lost he hlost]
    rcases hread with h | ⟨hrefused, f, h, hf⟩
    · left
      refine ⟨_, bind_run_ok h, rfl, fun a _ => ?_⟩
      refine refill_coherent M rfl (a := e.offset) ?_ rfl a
      change e.context.cpu.cs.base + e.context.cpu.eip = _
      rw [he.cs, eip_eq he]
      rfl
    · exact .inr ⟨hrefused, f, e.dropped, bind_run_error h, hf, rfl⟩
  · left
    exact ⟨e, exec_init_kept (by simpa using hlost), rfl, hqueue.resolve_left hlost⟩

/-- A byte of the instruction comes from memory, whether the queue has it or not. -/
theorem s_read_cs_answers (he : Emulating w e.context) {offset : U32} {a : U16}
    (ha : offset &&& 0xffff = a.setWidth 32) (hc : Coherent M w e a) :
    Answers p e.context.bus e (s_read_cs p offset) (M.segment w e.context.bus a) := by
  rw [Answers, s_read_cs, get_bind_run, ha, he.cs]
  cases hq : e.queued (w.cs.base + a.setWidth 32) with
  | some v =>
    rw [hc v hq]
    exact .inl rfl
  | none =>
    have hread := read_code_answers M he (.inl rfl) a (n := 1) (by decide)
    have hfirst : (load (M.segment w e.context.bus) a 1).headD 0 = M.segment w e.context.bus a := by
      simp [load]
    rw [he.data, ← hfirst]
    exact Answers.bind hread.on_context (.inl rfl)

end Queue

end Nxvm.Nec
