/-
What the processor can do to the machine.

Whatever an instruction or an interrupt does, it does by transfers on the bus and by
changes to its own registers. `Processor x` says this of a computation, and a
property of states that transfers and register changes keep is then kept by the
instruction set as a whole: nothing has to be gone through case by case again.
-/
import Nxvm.Nes.Bus
import Nxvm.Nes.Cpu

set_option autoImplicit false

namespace Nxvm.Nes

open Nxvm.Lib Nxvm.Lib.Exec
open Nxvm.Machine (Status)

/-! ## Register changes -/

/-- The machine without what the processor writes itself. -/
def beside (m : Console) : Console :=
  { m with
    a := 0
    x := 0
    y := 0
    s := 0
    p := 0
    pc := 0
    irq_poll_i := false
    nmi_pending := false
    nmi_defer_once := false
    interrupt_phase := 0
    cycles := 0
    instructions := 0
    trap := Observation.zero
    trace_count := 0 }

/-- A change the processor makes itself: the trace is at most emptied, and the phase of an
interrupt is one of the three there are. -/
structure Internal (m m' : Console) : Prop where
  beside_eq : beside m' = beside m
  trace : m'.trace_count = m.trace_count ∨ m'.trace_count = 0
  phase : m'.interrupt_phase = m.interrupt_phase ∨ m'.interrupt_phase.toNat ≤ 2

theorem Internal.refl (m : Console) : Internal m m := ⟨rfl, Or.inl rfl, Or.inl rfl⟩

/-- `f` changes nothing but registers. -/
def Private (f : Console → Console) : Prop := ∀ m, Internal m (f m)

/-! ## Computations of the processor -/

/-- Built from transfers, register changes and statuses. -/
inductive Processor : ∀ {α : Type}, NesM α → Prop
  | read (address : U16) : Processor (core_bus_read address)
  | write (address : U16) (value : U8) : Processor (core_bus_write address value)
  | of_update {f : Console → Console} (h : Private f) : Processor (update f)
  | of_get : Processor get
  | of_pure {α : Type} (a : α) : Processor (pure a)
  | of_fail {α : Type} (status : Status) : Processor (fail status : NesM α)
  | status {α : Type} {x : NesM α} (hx : Processor x) : Processor (status_of x)
  | bind {α β : Type} {x : NesM α} {f : α → NesM β} (hx : Processor x)
      (hf : ∀ a, Processor (f a)) : Processor (x >>= f)

/-- What transfers and register changes keep, and the faults transfers end with. -/
structure Closed (P : Console → Prop) (E : Stop → Prop) : Prop where
  read : ∀ address, Triple P (core_bus_read address) (fun _ => P) (fun e m => E e ∧ P m)
  write : ∀ address value,
    Triple P (core_bus_write address value) (fun _ => P) (fun e m => E e ∧ P m)
  internal : ∀ m m', Internal m m' → P m → P m'
  status : ∀ s, E (.status s)

/-- What transfers and register changes keep, the processor keeps. -/
theorem Processor.keeps {P : Console → Prop} {E : Stop → Prop} (hP : Closed P E) {α : Type}
    {x : NesM α} (hx : Processor x) : Triple P x (fun _ => P) (fun e m => E e ∧ P m) := by
  induction hx with
  | read address => exact hP.read address
  | write address value => exact hP.write address value
  | of_update h => exact fun m hm => hP.internal m _ (h m) hm
  | of_get => exact fun m hm => hm
  | of_pure a => exact fun m hm => hm
  | of_fail s => exact fun m hm => ⟨hP.status s, hm⟩
  | status hx ih =>
    refine Triple.intro (fun m r m' hm h => ?_) (fun m e m' hm h => ?_)
    · rcases status_of_eq_ok.mp h with ⟨a, -, hxa⟩ | ⟨s, -, hxs⟩
      · exact ih.of_ok hm hxa
      · exact (ih.of_error hm hxs).2
    · exact ih.of_error hm (status_of_eq_error h).1
  | bind hx hf ihx ihf => exact Triple.bind ihx ihf

/-- One of two computations of the processor. -/
theorem Processor.ite {α : Type} {c : Prop} [Decidable c] {x y : NesM α} (hx : Processor x)
    (hy : Processor y) : Processor (if c then x else y) := by
  by_cases hc : c
  · rw [if_pos hc]; exact hx
  · rw [if_neg hc]; exact hy

theorem Processor.of_perform_if {c : Prop} [Decidable c] {x : NesM Unit} (hx : Processor x) :
    Processor (perform_if c x) := Processor.ite hx (.of_pure ())

theorem rethrow_processor {α : Type} (r : Except Status α) : Processor (rethrow r) := by
  cases r with
  | ok a => exact .of_pure a
  | error s => exact .of_fail s

/-! ## Transfers and addressing -/

theorem trap_unsupported_processor {α : Type} (address : U16) (r : Except Status α) :
    Processor (trap_unsupported address r) :=
  .bind (.of_perform_if (.of_update fun _ => ⟨rfl, Or.inl rfl, Or.inl rfl⟩))
    fun _ => rethrow_processor r

theorem cpu_read_processor (address : U16) : Processor (core_cpu_read address) :=
  .bind (.status (.read address)) fun _ => trap_unsupported_processor _ _

theorem cpu_write_processor (address : U16) (value : U8) :
    Processor (core_cpu_write address value) :=
  .bind (.status (.write address value)) fun _ => trap_unsupported_processor _ _

theorem trace_reset_processor : Processor core_bus_trace_reset :=
  .of_update fun _ => ⟨rfl, Or.inr rfl, Or.inl rfl⟩

theorem fetch_processor : Processor core_cpu_fetch :=
  .bind .of_get fun _ => .bind (cpu_read_processor _) fun _ => .bind
    (.of_update fun _ => ⟨rfl, Or.inl rfl, Or.inl rfl⟩) fun _ => .of_pure _

theorem fetch_word_processor : Processor core_cpu_fetch_word :=
  .bind fetch_processor fun _ => .bind fetch_processor fun _ => .of_pure _

theorem uncorrected_read_processor (base : U16) (index : U8) (always : Bool) :
    Processor (uncorrected_read base index always) :=
  .bind (.of_perform_if (.bind (cpu_read_processor _) fun _ => .of_pure _)) fun _ => .of_pure _

theorem zero_page_word_processor (pointer : U8) : Processor (zero_page_word pointer) :=
  .bind (cpu_read_processor _) fun _ => .bind (cpu_read_processor _) fun _ => .of_pure _

theorem zero_page_processor : Processor zero_page :=
  .bind fetch_processor fun _ => .of_pure _

theorem zero_page_indexed_processor (index : Console → U8) :
    Processor (zero_page_indexed index) :=
  .bind fetch_processor fun _ => .bind .of_get fun _ => .bind
    (.bind (cpu_read_processor _) fun _ => .of_pure _) fun _ => .of_pure _

theorem absolute_processor : Processor absolute :=
  .bind fetch_word_processor fun _ => .of_pure _

theorem absolute_indexed_processor (index : Console → U8) {always : Bool} :
    Processor (absolute_indexed index always) :=
  .bind .of_get fun _ => .bind fetch_word_processor fun _ => uncorrected_read_processor _ _ _

theorem indirect_x_processor : Processor indirect_x :=
  .bind (.bind fetch_processor fun _ => .bind (cpu_read_processor _) fun _ => .bind .of_get
    fun _ => zero_page_word_processor _) fun _ => .of_pure _

theorem indirect_y_processor (always : Bool) :
    Processor (core_cpu_indirect_y_address always) :=
  .bind fetch_processor fun _ => .bind (zero_page_word_processor _) fun _ => .bind .of_get
    fun _ => uncorrected_read_processor _ _ _

theorem push_processor (value : U8) : Processor (core_cpu_push value) :=
  .bind .of_get fun _ => .bind (cpu_write_processor _ _) fun _ =>
    .of_update fun _ => ⟨rfl, Or.inl rfl, Or.inl rfl⟩

theorem stack_read_processor : Processor stack_read :=
  .bind .of_get fun _ => cpu_read_processor _

theorem pop_processor : Processor core_cpu_pop :=
  .bind (.of_update fun _ => ⟨rfl, Or.inl rfl, Or.inl rfl⟩) fun _ => stack_read_processor

theorem push_pc_processor : Processor push_pc :=
  .bind .of_get fun _ => .bind (push_processor _) fun _ => push_processor _

theorem discarded_read_processor : Processor discarded_read :=
  .bind .of_get fun _ => .bind (cpu_read_processor _) fun _ => .of_pure _

/-! ## Forms and cases -/

theorem counted_processor {cycles : U32} {x : NesM Unit} (hx : Processor x) :
    Processor (counted cycles x) :=
  .bind (.status hx) fun _ => .of_pure _

theorem implied_processor {f : Console → Console} (hf : Private f) : Processor (implied f) :=
  .bind (.of_update hf) fun _ => .of_pure _

theorem immediate_processor {f : U8 → Console → Console} (hf : ∀ v, Private (f v)) :
    Processor (immediate f) :=
  counted_processor (.bind fetch_processor fun v => .of_update (hf v))

theorem read_form_processor {mode : NesM Effective} (hmode : Processor mode) {cycles : U32}
    {f : U8 → Console → Console} (hf : ∀ v, Private (f v)) :
    Processor (read_form mode cycles f) := by
  refine .bind (.status hmode) fun r => ?_
  cases r with
  | error s => exact .of_pure _
  | ok e =>
    exact counted_processor (.bind (cpu_read_processor _) fun v => .of_update (hf v))

theorem load_form_processor {form : (U8 → Console → Console) → NesM Outcome}
    {store : U8 → Console → Console} {register : Console → U8} (h : Processor (form store)) :
    Processor (load_form form store register) :=
  .bind h fun _ => .bind (.of_update fun _ => ⟨rfl, Or.inl rfl, Or.inl rfl⟩) fun _ => .of_pure _

theorem write_form_processor {mode : NesM Effective} (hmode : Processor mode) {cycles : U32}
    (register : Console → U8) : Processor (write_form mode cycles register) :=
  counted_processor (.bind hmode fun _ => .bind .of_get fun _ => cpu_write_processor _ _)

theorem modify_form_processor {mode : NesM Effective} (hmode : Processor mode) {cycles : U32}
    {f : U8 → Console → U8 × Console} (hf : ∀ v, Private fun m => (f v m).2) :
    Processor (modify_form mode cycles f) :=
  counted_processor (.bind hmode fun _ => .bind (cpu_read_processor _) fun v => .bind .of_get
    fun _ => .bind (.of_update (hf v)) fun _ => .bind (cpu_write_processor _ _) fun _ =>
    .bind (cpu_write_processor _ _) fun _ =>
    .of_update fun _ => ⟨rfl, Or.inl rfl, Or.inl rfl⟩)

theorem case_bit_processor (opcode : U8) : Processor (case_bit opcode) :=
  .ite (read_form_processor zero_page_processor fun _ _ => ⟨rfl, Or.inl rfl, Or.inl rfl⟩)
    (read_form_processor absolute_processor fun _ _ => ⟨rfl, Or.inl rfl, Or.inl rfl⟩)

theorem case_add_processor (opcode : U8) : Processor (case_add opcode) :=
  .ite (read_form_processor zero_page_processor fun _ _ => ⟨rfl, Or.inl rfl, Or.inl rfl⟩)
    (read_form_processor absolute_processor fun _ _ => ⟨rfl, Or.inl rfl, Or.inl rfl⟩)

/-- The five ways an indexed operand is reached. -/
theorem indexed_processor {b₁ b₂ b₃ b₄ : Prop} [Decidable b₁] [Decidable b₂] [Decidable b₃]
    [Decidable b₄] {f : U8 → Console → Console} (hf : ∀ v, Private (f v)) :
    Processor (if b₁ then read_form (zero_page_indexed (·.x)) 4 f
      else if b₂ then read_form (absolute_indexed (·.x) false) 4 f
      else if b₃ then read_form (absolute_indexed (·.y) false) 4 f
      else if b₄ then read_form indirect_x 6 f
      else read_form (core_cpu_indirect_y_address false) 5 f) :=
  .ite (read_form_processor (zero_page_indexed_processor _) hf)
    (.ite (read_form_processor (absolute_indexed_processor _) hf)
    (.ite (read_form_processor (absolute_indexed_processor _) hf)
    (.ite (read_form_processor indirect_x_processor hf)
      (read_form_processor (indirect_y_processor _) hf))))

theorem case_add_indexed_processor (opcode : U8) : Processor (case_add_indexed opcode) :=
  indexed_processor fun _ _ => ⟨rfl, Or.inl rfl, Or.inl rfl⟩

theorem logic_private (c d : Prop) [Decidable c] [Decidable d] (v : U8) :
    Private ((if c then ora else if d then and_a else eor) v) := by
  intro m
  split
  · exact ⟨rfl, Or.inl rfl, Or.inl rfl⟩
  split
  · exact ⟨rfl, Or.inl rfl, Or.inl rfl⟩
  · exact ⟨rfl, Or.inl rfl, Or.inl rfl⟩

theorem case_logic_processor (opcode : U8) : Processor (case_logic opcode) :=
  .ite (read_form_processor zero_page_processor (logic_private _ _))
    (read_form_processor absolute_processor (logic_private _ _))

theorem case_logic_indexed_processor (opcode : U8) : Processor (case_logic_indexed opcode) :=
  .ite (read_form_processor (zero_page_indexed_processor _) (logic_private _ _))
    (.ite (read_form_processor (absolute_indexed_processor _) (logic_private _ _))
      (read_form_processor (absolute_indexed_processor _) (logic_private _ _)))

theorem case_logic_indirect_processor (opcode : U8) : Processor (case_logic_indirect opcode) :=
  .ite (read_form_processor indirect_x_processor (logic_private _ _))
    (read_form_processor (indirect_y_processor _) (logic_private _ _))

theorem case_compare_processor (opcode : U8) : Processor (case_compare opcode) :=
  .bind .of_get fun _ =>
    .ite (read_form_processor zero_page_processor fun _ _ => ⟨rfl, Or.inl rfl, Or.inl rfl⟩)
      (read_form_processor absolute_processor fun _ _ => ⟨rfl, Or.inl rfl, Or.inl rfl⟩)

theorem case_compare_indexed_processor (opcode : U8) :
    Processor (case_compare_indexed opcode) :=
  indexed_processor fun _ _ => ⟨rfl, Or.inl rfl, Or.inl rfl⟩

theorem shift_private (rotate right : Bool) (v : U8) :
    Private fun m => (shift rotate right v m).2 := by
  intro m
  cases right with
  | true => exact ⟨rfl, Or.inl rfl, Or.inl rfl⟩
  | false => exact ⟨rfl, Or.inl rfl, Or.inl rfl⟩

theorem case_shift_processor (opcode : U8) : Processor (case_shift opcode) :=
  .ite (.ite (modify_form_processor (zero_page_indexed_processor _) (shift_private _ _))
      (modify_form_processor zero_page_processor (shift_private _ _)))
    (.ite (modify_form_processor (absolute_indexed_processor _) (shift_private _ _))
      (modify_form_processor absolute_processor (shift_private _ _)))

theorem count_private (decrement : Bool) (v : U8) :
    Private fun m => (count_by decrement v m).2 := fun m => Internal.refl m

theorem case_count_processor (opcode : U8) : Processor (case_count opcode) :=
  .ite (modify_form_processor (zero_page_indexed_processor _) (count_private _))
    (modify_form_processor zero_page_processor (count_private _))

theorem case_count_absolute_processor (opcode : U8) :
    Processor (case_count_absolute opcode) :=
  .ite (modify_form_processor (absolute_indexed_processor _) (count_private _))
    (modify_form_processor absolute_processor (count_private _))

theorem branch_to_processor (operand : U8) : Processor (branch_to operand) := by
  refine .bind .of_get fun m => .bind (.status (cpu_read_processor _)) fun r => ?_
  cases r with
  | error s => exact .of_pure _
  | ok v =>
    refine .ite (counted_processor (.bind (cpu_read_processor _) fun _ => ?_))
      (counted_processor ?_)
    · exact .of_update fun _ => ⟨rfl, Or.inl rfl, Or.inl rfl⟩
    · exact .of_update fun _ => ⟨rfl, Or.inl rfl, Or.inl rfl⟩

theorem case_branch_processor (opcode : U8) : Processor (case_branch opcode) := by
  refine .bind (.status fetch_processor) fun r => ?_
  cases r with
  | error s => exact .of_pure _
  | ok operand => exact .bind .of_get fun _ => .ite (branch_to_processor operand) (.of_pure _)

theorem case_jmp_processor : Processor case_jmp :=
  counted_processor (.bind fetch_word_processor fun _ =>
    .of_update fun _ => ⟨rfl, Or.inl rfl, Or.inl rfl⟩)

theorem case_jmp_indirect_processor : Processor case_jmp_indirect :=
  counted_processor (.bind fetch_word_processor fun _ => .bind (cpu_read_processor _) fun _ =>
    .bind (cpu_read_processor _) fun _ => .of_update fun _ => ⟨rfl, Or.inl rfl, Or.inl rfl⟩)

theorem case_jsr_processor : Processor case_jsr :=
  counted_processor (.bind fetch_processor fun _ => .bind stack_read_processor fun _ =>
    .bind push_pc_processor fun _ => .bind fetch_processor fun _ =>
    .of_update fun _ => ⟨rfl, Or.inl rfl, Or.inl rfl⟩)

theorem case_rts_processor : Processor case_rts :=
  counted_processor (.bind discarded_read_processor fun _ => .bind stack_read_processor fun _ =>
    .bind pop_processor fun _ => .bind pop_processor fun _ => .bind (cpu_read_processor _) fun _ =>
    .of_update fun _ => ⟨rfl, Or.inl rfl, Or.inl rfl⟩)

theorem case_push_processor (value : Console → U8) : Processor (case_push value) :=
  counted_processor (.bind discarded_read_processor fun _ => .bind .of_get fun _ =>
    push_processor _)

theorem case_pull_processor {f : U8 → Console → Console} (hf : ∀ v, Private (f v)) :
    Processor (case_pull f) :=
  counted_processor (.bind discarded_read_processor fun _ => .bind stack_read_processor fun _ =>
    .bind pop_processor fun v => .of_update (hf v))

theorem case_brk_processor : Processor case_brk := by
  refine .bind (counted_processor ?_) fun _ => .bind (.of_update ?_) fun _ => .of_pure _
  · exact .bind discarded_read_processor fun _ => .bind
      (.of_update fun _ => ⟨rfl, Or.inl rfl, Or.inl rfl⟩) fun _ => .bind push_pc_processor
      fun _ => .bind .of_get fun _ => .bind (push_processor _) fun _ =>
      .bind (cpu_read_processor _) fun _ => .bind (cpu_read_processor _) fun _ =>
      .of_update fun _ => ⟨rfl, Or.inl rfl, Or.inl rfl⟩
  · exact fun _ => ⟨rfl, Or.inl rfl, Or.inl rfl⟩

theorem case_rti_processor : Processor case_rti :=
  counted_processor (.bind discarded_read_processor fun _ => .bind stack_read_processor fun _ =>
    .bind pop_processor fun _ => .bind (.of_update fun _ => ⟨rfl, Or.inl rfl, Or.inl rfl⟩)
    fun _ => .bind pop_processor fun _ => .bind pop_processor fun _ =>
    .of_update fun _ => ⟨rfl, Or.inl rfl, Or.inl rfl⟩)

theorem switch_processor : ∀ c ∈ switch_cases, ∀ opcode, Processor (c.2 opcode) := by
  simp only [switch_cases, List.forall_mem_cons]
  refine ⟨fun _ => implied_processor fun _ => ⟨rfl, Or.inl rfl, Or.inl rfl⟩,
    fun _ => implied_processor fun _ => ⟨rfl, Or.inl rfl, Or.inl rfl⟩,
    fun _ => implied_processor fun _ => ⟨rfl, Or.inl rfl, Or.inl rfl⟩,
    fun _ => implied_processor fun _ => ⟨rfl, Or.inl rfl, Or.inl rfl⟩,
    fun _ => implied_processor fun _ => ⟨rfl, Or.inl rfl, Or.inl rfl⟩,
    fun _ => implied_processor fun _ => ⟨rfl, Or.inl rfl, Or.inl rfl⟩,
    fun _ => implied_processor fun _ => ⟨rfl, Or.inl rfl, Or.inl rfl⟩,
    fun _ => implied_processor fun _ => ⟨rfl, Or.inl rfl, Or.inl rfl⟩,
    fun _ => implied_processor fun _ => ⟨rfl, Or.inl rfl, Or.inl rfl⟩,
    fun _ => implied_processor fun _ => ⟨rfl, Or.inl rfl, Or.inl rfl⟩,
    fun _ => implied_processor fun _ => ⟨rfl, Or.inl rfl, Or.inl rfl⟩,
    fun _ => implied_processor fun _ => ⟨rfl, Or.inl rfl, Or.inl rfl⟩,
    fun _ => load_form_processor (immediate_processor fun _ _ => ⟨rfl, Or.inl rfl, Or.inl rfl⟩),
    fun _ => immediate_processor fun _ _ => ⟨rfl, Or.inl rfl, Or.inl rfl⟩,
    fun _ => immediate_processor fun _ _ => ⟨rfl, Or.inl rfl, Or.inl rfl⟩,
    fun _ => immediate_processor fun _ _ => ⟨rfl, Or.inl rfl, Or.inl rfl⟩,
    fun _ => immediate_processor fun _ _ => ⟨rfl, Or.inl rfl, Or.inl rfl⟩,
    fun _ => immediate_processor fun _ _ => ⟨rfl, Or.inl rfl, Or.inl rfl⟩,
    case_bit_processor,
    fun _ => immediate_processor fun _ _ => ⟨rfl, Or.inl rfl, Or.inl rfl⟩,
    fun _ => immediate_processor fun _ _ => ⟨rfl, Or.inl rfl, Or.inl rfl⟩,
    case_add_processor,
    case_add_indexed_processor,
    case_logic_processor,
    case_logic_indexed_processor,
    case_logic_indirect_processor,
    case_compare_processor,
    case_compare_indexed_processor,
    case_shift_processor,
    fun _ => load_form_processor (read_form_processor zero_page_processor
      fun _ _ => ⟨rfl, Or.inl rfl, Or.inl rfl⟩),
    fun _ => load_form_processor (read_form_processor (zero_page_indexed_processor _)
      fun _ _ => ⟨rfl, Or.inl rfl, Or.inl rfl⟩),
    fun _ => load_form_processor (read_form_processor absolute_processor
      fun _ _ => ⟨rfl, Or.inl rfl, Or.inl rfl⟩),
    fun _ => load_form_processor (read_form_processor (absolute_indexed_processor _)
      fun _ _ => ⟨rfl, Or.inl rfl, Or.inl rfl⟩),
    fun _ => load_form_processor (read_form_processor (absolute_indexed_processor _)
      fun _ _ => ⟨rfl, Or.inl rfl, Or.inl rfl⟩),
    fun _ => load_form_processor (read_form_processor indirect_x_processor
      fun _ _ => ⟨rfl, Or.inl rfl, Or.inl rfl⟩),
    fun _ => load_form_processor (read_form_processor (indirect_y_processor _)
      fun _ _ => ⟨rfl, Or.inl rfl, Or.inl rfl⟩),
    fun _ => write_form_processor zero_page_processor _,
    fun _ => write_form_processor absolute_processor _,
    fun _ => write_form_processor (zero_page_indexed_processor _) _,
    fun _ => write_form_processor (absolute_indexed_processor _) _,
    fun _ => write_form_processor (absolute_indexed_processor _) _,
    fun _ => write_form_processor indirect_x_processor _,
    fun _ => write_form_processor (indirect_y_processor _) _,
    fun _ => write_form_processor zero_page_processor _,
    fun _ => write_form_processor (zero_page_indexed_processor _) _,
    fun _ => write_form_processor absolute_processor _,
    fun _ => write_form_processor zero_page_processor _,
    fun _ => write_form_processor (zero_page_indexed_processor _) _,
    fun _ => write_form_processor absolute_processor _,
    case_count_processor,
    case_count_absolute_processor,
    fun _ => load_form_processor (immediate_processor fun _ _ => ⟨rfl, Or.inl rfl, Or.inl rfl⟩),
    fun _ => load_form_processor (immediate_processor fun _ _ => ⟨rfl, Or.inl rfl, Or.inl rfl⟩),
    fun _ => load_form_processor (read_form_processor zero_page_processor
      fun _ _ => ⟨rfl, Or.inl rfl, Or.inl rfl⟩),
    fun _ => load_form_processor (read_form_processor (zero_page_indexed_processor _)
      fun _ _ => ⟨rfl, Or.inl rfl, Or.inl rfl⟩),
    fun _ => load_form_processor (read_form_processor absolute_processor
      fun _ _ => ⟨rfl, Or.inl rfl, Or.inl rfl⟩),
    fun _ => load_form_processor (read_form_processor (absolute_indexed_processor _)
      fun _ _ => ⟨rfl, Or.inl rfl, Or.inl rfl⟩),
    fun _ => load_form_processor (read_form_processor zero_page_processor
      fun _ _ => ⟨rfl, Or.inl rfl, Or.inl rfl⟩),
    fun _ => load_form_processor (read_form_processor (zero_page_indexed_processor _)
      fun _ _ => ⟨rfl, Or.inl rfl, Or.inl rfl⟩),
    fun _ => load_form_processor (read_form_processor absolute_processor
      fun _ _ => ⟨rfl, Or.inl rfl, Or.inl rfl⟩),
    fun _ => load_form_processor (read_form_processor (absolute_indexed_processor _)
      fun _ _ => ⟨rfl, Or.inl rfl, Or.inl rfl⟩),
    fun _ => implied_processor fun _ => ⟨rfl, Or.inl rfl, Or.inl rfl⟩,
    fun _ => implied_processor fun _ => ⟨rfl, Or.inl rfl, Or.inl rfl⟩,
    fun _ => implied_processor fun _ => ⟨rfl, Or.inl rfl, Or.inl rfl⟩,
    fun _ => implied_processor fun _ => ⟨rfl, Or.inl rfl, Or.inl rfl⟩,
    fun _ => implied_processor fun _ => ⟨rfl, Or.inl rfl, Or.inl rfl⟩,
    fun _ => implied_processor fun _ => ⟨rfl, Or.inl rfl, Or.inl rfl⟩,
    fun _ => implied_processor fun _ => ⟨rfl, Or.inl rfl, Or.inl rfl⟩,
    fun _ => implied_processor fun _ => ⟨rfl, Or.inl rfl, Or.inl rfl⟩,
    fun _ => implied_processor fun _ => ⟨rfl, Or.inl rfl, Or.inl rfl⟩,
    fun _ => implied_processor fun _ => ⟨rfl, Or.inl rfl, Or.inl rfl⟩,
    fun _ => immediate_processor fun _ _ => ⟨rfl, Or.inl rfl, Or.inl rfl⟩,
    case_branch_processor,
    fun _ => case_jmp_processor,
    fun _ => case_jmp_indirect_processor,
    fun _ => case_jsr_processor,
    fun _ => case_rts_processor,
    fun _ => case_push_processor _,
    fun _ => case_pull_processor fun _ _ => ⟨rfl, Or.inl rfl, Or.inl rfl⟩,
    fun _ => case_push_processor _,
    fun _ => case_pull_processor fun _ _ => ⟨rfl, Or.inl rfl, Or.inl rfl⟩,
    fun _ => case_brk_processor,
    fun _ => case_rti_processor, ?_⟩
  exact List.forall_mem_nil _

theorem unsupported_opcode_processor (opcode_pc : U16) (opcode : U8) :
    Processor (unsupported_opcode opcode_pc opcode) :=
  .bind (.of_update fun _ => ⟨rfl, Or.inl rfl, Or.inl rfl⟩) fun _ => .of_pure _

theorem execute_opcode_processor (opcode_pc : U16) (opcode : U8) :
    Processor (execute_opcode opcode_pc opcode) := by
  unfold execute_opcode
  refine .ite (unsupported_opcode_processor _ _) ?_
  cases hfind : switch_cases.find? fun c => decide (opcode ∈ c.1) with
  | none => exact unsupported_opcode_processor _ _
  | some c => exact switch_processor c (List.mem_of_find?_eq_some hfind) opcode

/-! ## Instructions and interrupts -/

theorem completed_processor (outcome : Outcome) : Processor (completed outcome) :=
  .bind .of_get fun _ => .ite
    (.bind (.status discarded_read_processor) fun _ => .of_pure _) (.of_pure _)

theorem trap_failure_private (status : Status) (opcode_pc : U16) (opcode : U8) :
    Private (trap_failure status opcode_pc opcode) := by
  intro m
  unfold trap_failure
  split
  · exact Internal.refl m
  · exact ⟨rfl, Or.inl rfl, Or.inl rfl⟩

theorem retire_private (opcode : U8) (poll_i : Bool) : Private (retire opcode poll_i) := by
  intro m
  unfold retire
  split
  · exact Internal.refl m
  · exact ⟨rfl, Or.inl rfl, Or.inl rfl⟩

theorem step_processor : Processor core_machine_step :=
  .bind trace_reset_processor fun _ => .bind .of_get fun _ => .ite (.of_fail _)
    (.bind fetch_processor fun _ => .bind (execute_opcode_processor _ _) fun _ =>
    .bind (completed_processor _) fun _ => .bind
    (.of_update fun _ => ⟨rfl, Or.inl rfl, Or.inl rfl⟩) fun _ => .bind
    (.of_update (trap_failure_private _ _ _)) fun _ => .bind (.of_update (retire_private _ _))
    fun _ => .of_pure _)

theorem interrupt_entry_processor (nmi : Bool) : Processor (interrupt_entry nmi) := by
  refine .bind discarded_read_processor fun _ => .bind discarded_read_processor fun _ =>
    .bind push_pc_processor fun _ => .bind .of_get fun _ => .bind (push_processor _) fun _ =>
    .bind .of_get fun _ => .ite ?_ (.of_pure _)
  exact .bind (.of_update fun _ => ⟨rfl, Or.inl rfl, Or.inl rfl⟩) fun _ => .of_pure _

theorem interrupt_vector_processor (entry : Except Status Bool) :
    Processor (interrupt_vector entry) :=
  .bind (rethrow_processor _) fun _ => .bind (cpu_read_processor _) fun _ =>
    .bind (cpu_read_processor _) fun _ => .of_pure _

theorem interrupt_sequence_processor (nmi : Bool) : Processor (interrupt_sequence nmi) :=
  .bind (.of_update fun _ => ⟨rfl, Or.inl rfl, Or.inr (by decide : (1 : U8).toNat ≤ 2)⟩) fun _ =>
    .bind (.status (interrupt_entry_processor _)) fun _ =>
    .bind (.of_update fun _ => ⟨rfl, Or.inl rfl, Or.inr (by decide : (2 : U8).toNat ≤ 2)⟩) fun _ =>
    .bind (.status (interrupt_vector_processor _)) fun _ =>
    .bind (.of_update fun _ => ⟨rfl, Or.inl rfl, Or.inr (by decide : (0 : U8).toNat ≤ 2)⟩) fun _ =>
    .bind (rethrow_processor _) fun _ => .of_update fun _ => ⟨rfl, Or.inl rfl, Or.inl rfl⟩

theorem service_interrupt_processor : Processor core_machine_service_interrupt :=
  .bind trace_reset_processor fun _ => .bind .of_get fun _ => .ite
    (.bind (.of_update fun _ => ⟨rfl, Or.inl rfl, Or.inl rfl⟩) fun _ => .of_pure _)
    (.ite (.of_pure _) (.bind (interrupt_sequence_processor _) fun _ => .of_pure _))

end Nxvm.Nes
