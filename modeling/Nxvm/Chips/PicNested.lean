/-
The interrupt controller in fully nested mode: its service register is a stack.

Nowhere does the chip store in which order its lines were acknowledged. In fully
nested mode it need not: a line is acknowledged only over lines of lower priority,
so the lines in service are a `PriorityStack`, and the non-specific end of
interrupt, which looks for the highest priority in service, ends the line that was
acknowledged last.
-/
import Nxvm.Chips.PicPriority
import Nxvm.Lib.PriorityStack

set_option autoImplicit false

namespace Nxvm.Chips

open Nxvm.Lib Nxvm.Lib.Register

/-! ## Fully nested mode -/

/-- The chip is initialised, and neither rotation nor special mask, special fully nested
mode or automatic end of interrupt is on. -/
structure FullyNested (pic : Pic) : Prop where
  status : pic.status = .ocw1
  irx : pic.irx = 0
  aeoi : is_set pic.icw4 icw4_aeoi = false
  sfnm : is_set pic.icw4 icw4_sfnm = false
  smm : is_set pic.ocw3 ocw3_smm = false

/-- The four initialization words, the last two where ICW1 asks for them. -/
def pic_initialize (pic : Pic) (icw1 icw2 icw3 icw4 : U8) : Pic :=
  let pic := pic_write_register (pic_write_register pic 0 icw1) 1 icw2
  let pic := if is_set icw1 icw1_sngl then pic else pic_write_register pic 1 icw3
  if is_set icw1 icw1_ic4 then pic_write_register pic 1 icw4 else pic

theorem ocw3_rr_smm : is_set ocw3_rr ocw3_smm = false := by decide

/-- Initialization words that ask for neither AEOI nor SFNM leave a chip in fully nested
mode with nothing in service. -/
theorem pic_initialize_fully_nested (pic : Pic) (icw1 icw2 icw3 icw4 : U8)
    (h1 : is_set icw1 icw1_i = true) (haeoi : is_set icw4 icw4_aeoi = false)
    (hsfnm : is_set icw4 icw4_sfnm = false) :
    FullyNested ( pic_initialize pic icw1 icw2 icw3 icw4) ∧
      ( pic_initialize pic icw1 icw2 icw3 icw4).isr = 0 := by
  have haeoi' : is_set (icw4 &&& icw4_valid) icw4_aeoi = false := by
    simpa [is_set, BitVec.and_assoc, icw4_valid, icw4_aeoi] using haeoi
  have hsfnm' : is_set (icw4 &&& icw4_valid) icw4_sfnm = false := by
    simpa [is_set, BitVec.and_assoc, icw4_valid, icw4_sfnm] using hsfnm
  cases hs : is_set icw1 icw1_sngl <;> cases hc : is_set icw1 icw1_ic4 <;>
    (simp [ pic_initialize, pic_write_register, io_write_00x0, io_write_00x1,
      pic_begin_initialization, h1, hs, hc]
     constructor <;> first | rfl | assumption | exact is_set_zero _ | exact ocw3_rr_smm)

/-- A command word that ends the most urgent interrupt: OCW2 with only EOI set. -/
def IsNonSpecificEoi (value : U8) : Prop :=
  is_set value icw1_i = false ∧ is_set value ocw3_i = false ∧
    value &&& (ocw2_eoi ||| ocw2_sl ||| ocw2_r) = 0x20

instance (value : U8) : Decidable (IsNonSpecificEoi value) :=
  inferInstanceAs (Decidable (_ ∧ _ ∧ _))

/-- An OCW3 that does not turn the special mask on: a poll or the choice of a register. -/
def IsPlainOcw3 (value : U8) : Prop :=
  is_set value icw1_i = false ∧ is_set value ocw3_i = true ∧
    ¬ (is_set value ocw3_esmm = true ∧ is_set value ocw3_smm = true)

instance (value : U8) : Decidable (IsPlainOcw3 value) :=
  inferInstanceAs (Decidable (_ ∧ _ ∧ ¬ _))

theorem write_ocw3_smm {pic : Pic} {value : U8} (h : is_set pic.ocw3 ocw3_smm = false)
    (hv : ¬ (is_set value ocw3_esmm = true ∧ is_set value ocw3_smm = true)) :
    is_set (write_ocw3 pic value).ocw3 ocw3_smm = false := by
  -- the special mask is bit 5 of either word
  have hbit (x : U8) : is_set x ocw3_smm = x.getLsbD 5 := is_set_line x 5
  rw [hbit] at h hv ⊢
  unfold write_ocw3
  cases hrr : is_set value ocw3_rr <;> cases hes : is_set value ocw3_esmm <;>
    simp_all [ocw3_smm, ocw3_rr, ocw3_ris]

/-- Selecting in fully nested mode: the line outranks everything in service. -/
theorem pic_select_outranks {pic : Pic} (h : FullyNested pic) {request : PicRequest}
    (hr : pic_select pic = some request) {id : Fin 8} (hid : in_service pic id = true) :
    pic_priority_rank pic request.line < pic_priority_rank pic id := by
  unfold pic_select at hr
  split_ifs at hr
  obtain ⟨found, hfind, rfl⟩ := Option.map_eq_some_iff.mp hr
  have hsel := List.find?_some hfind
  have hcan : pic_request_can_interrupt pic found = true := by
    simp only [pic_selects, h.sfnm, Bool.and_eq_true, Bool.or_eq_true] at hsel
    simpa using hsel.1.2
  have heff : pic_effective_isr pic = pic.isr := by
    rw [pic_effective_isr, h.smm]
    rfl
  unfold pic_request_can_interrupt at hcan
  rw [heff] at hcan
  cases htop : get_reg_top_id pic pic.isr with
  | none =>
    rw [in_service, get_reg_top_id_eq_none.mp htop] at hid
    simp at hid
  | some service =>
    rw [htop] at hcan
    exact Nat.lt_of_lt_of_le (of_decide_eq_true hcan) ((get_reg_top_id_spec htop).2 id hid)

/-! ## What one operation does -/

/-- The operations on a chip once it is initialised. -/
inductive PicOp where
  | set_inputs (levels asserted_requests cascade_lines : U8)
  | write_register (selector value : U8)
  | read_register (selector io_value : U8)
  | acknowledge
  | set_irq_timing (ticks : Table 8 U32)
  | advance (elapsed_ticks : U64)

/-- The operation stays in fully nested mode: of the command words, only the non-specific
end of interrupt, polls and register selections. The mask may be written at will. -/
def PicOp.Nested : PicOp → Prop
  | .write_register selector value => selector = 0 → IsNonSpecificEoi value ∨ IsPlainOcw3 value
  | _ => True

instance : DecidablePred PicOp.Nested
  | .write_register selector value =>
    inferInstanceAs (Decidable (selector = 0 → IsNonSpecificEoi value ∨ IsPlainOcw3 value))
  | .set_inputs _ _ _ => instDecidableTrue
  | .read_register _ _ => instDecidableTrue
  | .acknowledge => instDecidableTrue
  | .set_irq_timing _ => instDecidableTrue
  | .advance _ => instDecidableTrue

/-- The chip after the operation. -/
def pic_apply (pic : Pic) : PicOp → Pic
  | .set_inputs levels asserted_requests cascade_lines =>
    pic_set_inputs pic levels asserted_requests cascade_lines
  | .write_register selector value => pic_write_register pic selector value
  | .read_register selector io_value => (pic_read_register pic selector io_value).2
  | .acknowledge => (pic_acknowledge pic).2
  | .set_irq_timing ticks => pic_set_irq_timing pic ticks
  | .advance elapsed_ticks => pic_advance pic elapsed_ticks

/-- The request the operation acknowledges: an acknowledge cycle does, and the read that
answers a poll. -/
def pic_acknowledges (pic : Pic) : PicOp → Option PicRequest
  | .acknowledge => pic_select pic
  | .read_register selector _ =>
    if selector = 0 ∧ is_set pic.ocw3 ocw3_p = true then pic_select pic else none
  | _ => none

theorem withdraw_request_frame (pic : Pic) (id : Fin 8) (cascade : Bool) :
    (withdraw_request pic id cascade).isr = pic.isr ∧
      (withdraw_request pic id cascade).status = pic.status ∧
      (withdraw_request pic id cascade).irx = pic.irx ∧
      (withdraw_request pic id cascade).icw4 = pic.icw4 ∧
      (withdraw_request pic id cascade).ocw3 = pic.ocw3 := by
  unfold withdraw_request
  split_ifs <;> exact ⟨rfl, rfl, rfl, rfl, rfl⟩

/-- Responding without automatic end of interrupt only adds the line to the service
register. -/
theorem respond_intr_nested {pic : Pic} (h : FullyNested pic) (id : Fin 8) (cascade : Bool) :
    FullyNested (respond_intr pic id cascade) ∧
      (respond_intr pic id cascade).isr = pic.isr ||| line id := by
  obtain ⟨hisr, hstatus, hirx, hicw4, hocw3⟩ :=
    withdraw_request_frame { pic with isr := pic.isr ||| line id } id cascade
  have heq : respond_intr pic id cascade =
      withdraw_request { pic with isr := pic.isr ||| line id } id cascade := by
    rw [respond_intr, automatic_eoi, hicw4, h.aeoi]
    rfl
  rw [heq]
  refine ⟨?_, hisr⟩
  constructor
  · rw [hstatus, h.status]
  · rw [hirx, h.irx]
  · rw [hicw4, h.aeoi]
  · rw [hicw4, h.sfnm]
  · rw [hocw3, h.smm]

/-- The non-specific end of interrupt ends the most urgent line in service. -/
theorem write_non_specific_eoi {pic : Pic} (h : FullyNested pic) {value : U8}
    (hv : IsNonSpecificEoi value) :
    pic_write_register pic 0 value =
      match get_reg_top_id pic pic.isr with
      | some id => end_service pic id
      | none => pic := by
  obtain ⟨h1, h3, hc⟩ := hv
  have heoi : pic_eoi_service pic = get_reg_top_id pic pic.isr := by
    rw [pic_eoi_service, pic_effective_isr, h.smm]
    rfl
  cases htop : get_reg_top_id pic pic.isr with
  | none => simp [pic_write_register, io_write_00x0, h1, h3, write_ocw2, hc, heoi, htop]
  | some id => simp [pic_write_register, io_write_00x0, h1, h3, write_ocw2, hc, heoi, htop]

theorem write_ocw3_nested {pic : Pic} (h : FullyNested pic) {value : U8}
    (hv : ¬ (is_set value ocw3_esmm = true ∧ is_set value ocw3_smm = true)) :
    FullyNested (write_ocw3 pic value) ∧ (write_ocw3 pic value).isr = pic.isr := by
  have hsmm := write_ocw3_smm h.smm hv
  have hkeep : (write_ocw3 pic value).isr = pic.isr ∧
      (write_ocw3 pic value).status = pic.status ∧ (write_ocw3 pic value).irx = pic.irx ∧
      (write_ocw3 pic value).icw4 = pic.icw4 := by
    unfold write_ocw3
    dsimp only
    split_ifs <;> exact ⟨rfl, rfl, rfl, rfl⟩
  obtain ⟨hisr, hstatus, hirx, hicw4⟩ := hkeep
  refine ⟨⟨?_, ?_, ?_, ?_, hsmm⟩, hisr⟩
  · rw [hstatus, h.status]
  · rw [hirx, h.irx]
  · rw [hicw4, h.aeoi]
  · rw [hicw4, h.sfnm]

/-- A poll leaves the service register to the request it acknowledges. -/
theorem io_read_00x0_nested {pic : Pic} (h : FullyNested pic) (io_value : U8) :
    FullyNested (io_read_00x0 pic io_value).2 ∧
      (io_read_00x0 pic io_value).2.isr =
        match pic_acknowledges pic (.read_register 0 io_value) with
        | some request => pic.isr ||| line request.line
        | none => pic.isr := by
  -- the poll flag is bit 2, the special mask bit 5
  have hpoll (x : U8) (hx : is_set x ocw3_smm = false) :
      is_set (x &&& ~~~ocw3_p) ocw3_smm = false := by
    have hbit (x : U8) : is_set x ocw3_smm = x.getLsbD 5 := is_set_line x 5
    rw [hbit] at hx ⊢
    rw [BitVec.getLsbD_and, hx, Bool.false_and]
  unfold io_read_00x0 pic_acknowledges
  cases hp : is_set pic.ocw3 ocw3_p with
  | false =>
    simp only [Bool.false_eq_true, if_false, and_false]
    split_ifs <;> exact ⟨h, rfl⟩
  | true =>
    simp only [if_true, and_self]
    cases hs : pic_select pic with
    | none => exact ⟨⟨h.status, h.irx, h.aeoi, h.sfnm, hpoll _ h.smm⟩, rfl⟩
    | some request =>
      obtain ⟨hmode, hisr⟩ := respond_intr_nested h request.line request.cascade
      exact ⟨⟨hmode.status, hmode.irx, hmode.aeoi, hmode.sfnm, hpoll _ hmode.smm⟩, hisr⟩

/-- Everything an operation can do to the service register: take the line of an
acknowledged request, end the most urgent line, or nothing. -/
theorem pic_apply_cases {pic : Pic} (h : FullyNested pic) {op : PicOp} (hop : op.Nested) :
    FullyNested (pic_apply pic op) ∧
      ((∃ request, pic_acknowledges pic op = some request ∧ pic_select pic = some request ∧
          (pic_apply pic op).isr = pic.isr ||| line request.line) ∨
        (∃ top, pic_acknowledges pic op = none ∧ get_reg_top_id pic pic.isr = some top ∧
          (pic_apply pic op).isr = pic.isr &&& ~~~line top) ∨
        (pic_acknowledges pic op = none ∧ (pic_apply pic op).isr = pic.isr)) := by
  cases op with
  | set_inputs levels asserted_requests cascade_lines =>
    exact ⟨⟨h.status, h.irx, h.aeoi, h.sfnm, h.smm⟩, Or.inr (Or.inr ⟨rfl, rfl⟩)⟩
  | set_irq_timing ticks =>
    exact ⟨⟨h.status, h.irx, h.aeoi, h.sfnm, h.smm⟩, Or.inr (Or.inr ⟨rfl, rfl⟩)⟩
  | advance elapsed_ticks =>
    exact ⟨⟨h.status, h.irx, h.aeoi, h.sfnm, h.smm⟩, Or.inr (Or.inr ⟨rfl, rfl⟩)⟩
  | acknowledge =>
    cases hs : pic_select pic with
    | none =>
      have hnone : pic_apply pic .acknowledge = pic := by
        simp only [pic_apply, pic_acknowledge, hs]
      rw [hnone]
      exact ⟨h, Or.inr (Or.inr ⟨hs, rfl⟩)⟩
    | some request =>
      have hsome : pic_apply pic .acknowledge =
          respond_intr pic request.line request.cascade := by
        simp only [pic_apply, pic_acknowledge, hs]
      rw [hsome]
      obtain ⟨hmode, hisr⟩ := respond_intr_nested h request.line request.cascade
      exact ⟨hmode, Or.inl ⟨request, hs, rfl, hisr⟩⟩
  | read_register selector io_value =>
    by_cases h0 : selector = 0
    · subst h0
      obtain ⟨hmode, hisr⟩ := io_read_00x0_nested h io_value
      refine ⟨hmode, ?_⟩
      cases ha : pic_acknowledges pic (.read_register 0 io_value) with
      | none =>
        rw [ha] at hisr
        exact Or.inr (Or.inr ⟨rfl, hisr⟩)
      | some request =>
        rw [ha] at hisr
        have hsel : pic_select pic = some request := by
          rw [pic_acknowledges] at ha
          split_ifs at ha
          exact ha
        exact Or.inl ⟨request, rfl, hsel, hisr⟩
    · have hkeep : pic_apply pic (.read_register selector io_value) = pic := by
        simp only [pic_apply, pic_read_register, h0, if_false]
        split_ifs <;> rfl
      rw [hkeep]
      have hack : pic_acknowledges pic (.read_register selector io_value) = none :=
        if_neg fun hpoll => h0 hpoll.1
      exact ⟨h, Or.inr (Or.inr ⟨hack, rfl⟩)⟩
  | write_register selector value =>
    by_cases h0 : selector = 0
    · subst h0
      rcases hop rfl with heoi | ⟨h1, h3, hv⟩
      · rw [pic_apply, write_non_specific_eoi h heoi]
        cases htop : get_reg_top_id pic pic.isr with
        | none => exact ⟨h, Or.inr (Or.inr ⟨rfl, rfl⟩)⟩
        | some top =>
          exact ⟨⟨h.status, h.irx, h.aeoi, h.sfnm, h.smm⟩, Or.inr (Or.inl ⟨top, rfl, rfl, rfl⟩)⟩
      · have hocw3 : pic_apply pic (.write_register 0 value) = write_ocw3 pic value := by
          simp [pic_apply, pic_write_register, io_write_00x0, h1, h3]
        rw [hocw3]
        obtain ⟨hmode, hisr⟩ := write_ocw3_nested h hv
        exact ⟨hmode, Or.inr (Or.inr ⟨rfl, hisr⟩)⟩
    · by_cases h1 : selector = 1
      · -- once the chip is initialised the data register is the mask
        have hmask : (pic_apply pic (.write_register selector value)) =
            io_write_00x1 pic value := by
          simp [pic_apply, pic_write_register, h1]
        rw [hmask, io_write_00x1, h.status]
        exact ⟨⟨rfl, h.irx, h.aeoi, h.sfnm, h.smm⟩, Or.inr (Or.inr ⟨rfl, rfl⟩)⟩
      · have hkeep : pic_apply pic (.write_register selector value) = pic := by
          rw [pic_apply, pic_write_register, if_neg h0, if_neg h1]
        rw [hkeep]
        exact ⟨h, Or.inr (Or.inr ⟨rfl, rfl⟩)⟩

/-! ## Runs -/

/-- The chip with what it does not store: its lines in service in the order of their
acknowledges, the last one first. -/
structure Service where
  pic : Pic
  order : List (Fin 8)

/-- One operation. An acknowledged line comes in front, and a line stays in the order
while it is in service. -/
def serve (s : Service) (op : PicOp) : Service :=
  let pic := pic_apply s.pic op
  { pic
    order := ((pic_acknowledges s.pic op).toList.map (·.line) ++ s.order).filter
      (in_service pic) }

/-- The order of the acknowledges is the stack of the lines in service. -/
structure Stacked (s : Service) (stack : PriorityStack (Fin 8)) : Prop where
  mode : FullyNested s.pic
  levels : stack.levels = s.order
  served : ∀ id, id ∈ s.order ↔ in_service s.pic id = true

/-- In fully nested mode lower numbers are more urgent. -/
theorem FullyNested.top_le {pic : Pic} (h : FullyNested pic) {top id : Fin 8}
    (htop : get_reg_top_id pic pic.isr = some top) (hid : in_service pic id = true) :
    top ≤ id := by
  have hle := (get_reg_top_id_spec htop).2 id hid
  rw [pic_priority_rank_of_irx h.irx, pic_priority_rank_of_irx h.irx] at hle
  exact hle

/-- The most urgent line in service is the one acknowledged last. -/
theorem Stacked.top_eq {s : Service} {stack : PriorityStack (Fin 8)} (h : Stacked s stack)
    {top : Fin 8} (htop : get_reg_top_id s.pic s.pic.isr = some top) :
    stack.top = some top := by
  apply PriorityStack.top_eq_some
  · rw [h.levels]
    exact (h.served top).mpr (get_reg_top_id_spec htop).1
  · intro id hid
    rw [h.levels] at hid
    exact h.mode.top_le htop ((h.served id).mp hid)

/-- A request that is selected would go on top of the stack. -/
theorem Stacked.admits {s : Service} {stack : PriorityStack (Fin 8)} (h : Stacked s stack)
    {request : PicRequest} (hr : pic_select s.pic = some request) :
    stack.Admits request.line := by
  intro id hid
  rw [h.levels] at hid
  have hlt := pic_select_outranks h.mode hr ((h.served id).mp hid)
  rw [pic_priority_rank_of_irx h.mode.irx, pic_priority_rank_of_irx h.mode.irx] at hlt
  exact hlt

/-- One operation pushes a line, pops one or leaves the stack. -/
theorem serve_stacked {s : Service} {stack : PriorityStack (Fin 8)} (h : Stacked s stack)
    {op : PicOp} (hop : op.Nested) : ∃ stack', Stacked (serve s op) stack' := by
  obtain ⟨hmode, ⟨request, hack, hsel, hisr⟩ | ⟨top, hack, htop, hisr⟩ | ⟨hack, hisr⟩⟩ :=
    pic_apply_cases h.mode hop
  · have hin (id : Fin 8) : in_service (pic_apply s.pic op) id =
        (in_service s.pic id || decide (id = request.line)) := by
      rw [in_service, hisr, getLsbD_set, in_service]
    have hall : ∀ id ∈ request.line :: s.order, in_service (pic_apply s.pic op) id = true := by
      intro id hid
      rw [hin]
      rcases List.mem_cons.mp hid with rfl | hid
      · simp
      · simp [(h.served id).mp hid]
    have horder : (serve s op).order = request.line :: s.order := by
      simp only [serve, hack, Option.toList_some, List.map_cons, List.map_nil,
        List.singleton_append]
      exact List.filter_eq_self.mpr hall
    refine ⟨stack.push request.line (h.admits hsel), hmode, ?_, fun id => ?_⟩
    · rw [horder, ← h.levels]
      rfl
    · rw [horder, List.mem_cons, h.served]
      change _ ↔ in_service (pic_apply s.pic op) id = true
      rw [hin]
      simp [or_comm]
  · have hin (id : Fin 8) : in_service (pic_apply s.pic op) id =
        (in_service s.pic id && !decide (id = top)) := by
      rw [in_service, hisr, getLsbD_clear, in_service]
    have hstack := h.top_eq htop
    obtain ⟨rest, hcons⟩ : ∃ rest, stack.levels = top :: rest := List.head?_eq_some_iff.mp hstack
    have hnested := stack.nested
    rw [hcons] at hnested
    -- the head leaves, and nothing below it is the head again
    have horder : (serve s op).order = stack.pop.levels := by
      simp only [serve, hack, Option.toList_none, List.map_nil, List.nil_append,
        PriorityStack.pop]
      rw [← h.levels, hcons, List.tail_cons, List.filter_cons_of_neg (by simp [hin])]
      refine List.filter_eq_self.mpr fun id hid => ?_
      have hne : id ≠ top := ((List.pairwise_cons.mp hnested).1 id hid).ne'
      have hmem : id ∈ s.order := by rw [← h.levels, hcons]; exact List.mem_cons_of_mem _ hid
      simp [hin, hne, (h.served id).mp hmem]
    refine ⟨stack.pop, hmode, horder.symm, fun id => ?_⟩
    rw [horder, PriorityStack.mem_pop, hstack, h.levels, h.served]
    change _ ↔ in_service (pic_apply s.pic op) id = true
    rw [hin, Bool.and_eq_true, Bool.not_eq_true', decide_eq_false_iff_not, ne_eq,
      Option.some.injEq, eq_comm (a := top)]
  · have hin (id : Fin 8) : in_service (pic_apply s.pic op) id = in_service s.pic id := by
      rw [in_service, hisr, in_service]
    have horder : (serve s op).order = s.order := by
      simp only [serve, hack, Option.toList_none, List.map_nil, List.nil_append]
      exact List.filter_eq_self.mpr fun id hid => by rw [hin, (h.served id).mp hid]
    refine ⟨stack, hmode, by rw [horder, h.levels], fun id => ?_⟩
    rw [horder, h.served]
    change _ ↔ in_service (pic_apply s.pic op) id = true
    rw [hin]

/-- A run keeps the order of the acknowledges a stack. -/
theorem run_stacked (ops : List PicOp) {s : Service} {stack : PriorityStack (Fin 8)}
    (h : Stacked s stack) (hops : ∀ op ∈ ops, op.Nested) :
    ∃ stack', Stacked (ops.foldl serve s) stack' := by
  induction ops generalizing s stack with
  | nil => exact ⟨stack, h⟩
  | cons op ops ih =>
    obtain ⟨stack', h'⟩ := serve_stacked h (hops op List.mem_cons_self)
    exact ih h' fun op' hop' => hops op' (List.mem_cons_of_mem _ hop')

/-- After every run of a chip in fully nested mode the lines in service, in the order of
their acknowledges, have strictly increasing priority; what is acknowledged next outranks
all of them, and a non-specific end of interrupt ends the line acknowledged last. -/
theorem pic_service_is_stack {pic : Pic} (hmode : FullyNested pic) (hidle : pic.isr = 0)
    (ops : List PicOp) (hops : ∀ op ∈ ops, op.Nested) :
    let s := ops.foldl serve ⟨pic, []⟩
    s.order.Pairwise (fun later earlier =>
        pic_priority_rank s.pic later < pic_priority_rank s.pic earlier) ∧
      (∀ id, id ∈ s.order ↔ in_service s.pic id = true) ∧
      (∀ op request, op.Nested → pic_acknowledges s.pic op = some request →
        in_service (pic_apply s.pic op) request.line = true ∧
          ∀ id, in_service s.pic id = true →
            pic_priority_rank s.pic request.line < pic_priority_rank s.pic id) ∧
      (∀ value, IsNonSpecificEoi value → ∀ id,
        in_service (pic_write_register s.pic 0 value) id = true ↔
          in_service s.pic id = true ∧ s.order.head? ≠ some id) := by
  have hstart : Stacked ⟨pic, []⟩ PriorityStack.empty :=
    ⟨hmode, rfl, fun id => by simp [in_service, hidle]⟩
  obtain ⟨stack, h⟩ := run_stacked ops hstart hops
  intro s
  refine ⟨?_, h.served, fun op request hop hack => ?_, fun value hvalue id => ?_⟩
  · have hnested := stack.nested
    rw [h.levels] at hnested
    refine hnested.imp fun {later earlier} hlt => ?_
    rw [pic_priority_rank_of_irx h.mode.irx, pic_priority_rank_of_irx h.mode.irx]
    exact hlt
  · obtain ⟨-, ⟨request', hack', hsel, hisr⟩ | ⟨top, hack', -, -⟩ | ⟨hack', -⟩⟩ :=
      pic_apply_cases h.mode hop
    · obtain rfl : request' = request := by simpa using hack'.symm.trans hack
      refine ⟨?_, fun id hid => pic_select_outranks h.mode hsel hid⟩
      rw [in_service, hisr, getLsbD_set]
      simp
    · exact absurd (hack'.symm.trans hack) (by simp)
    · exact absurd (hack'.symm.trans hack) (by simp)
  · have hhead : s.order.head? = get_reg_top_id s.pic s.pic.isr := by
      cases htop : get_reg_top_id s.pic s.pic.isr with
      | some top => rw [← h.levels]; exact h.top_eq htop
      | none =>
        rw [List.head?_eq_none_iff, List.eq_nil_iff_forall_not_mem]
        intro id hid
        have hserved := (h.served id).mp hid
        rw [in_service, get_reg_top_id_eq_none.mp htop] at hserved
        simp at hserved
    rw [write_non_specific_eoi h.mode hvalue, hhead]
    cases htop : get_reg_top_id s.pic s.pic.isr with
    | none => exact ⟨fun hid => ⟨hid, by simp⟩, And.left⟩
    | some top =>
      change (s.pic.isr &&& ~~~line top).getLsbD id.val = true ↔ _
      rw [getLsbD_clear, in_service, Bool.and_eq_true, Bool.not_eq_true',
        decide_eq_false_iff_not, ne_eq, Option.some.injEq, eq_comm (a := top)]

/-- Line 5 is acknowledged, line 1 interrupts it by a poll and is ended first. -/
theorem pic_service_is_stack_two_lines :
    let pic := pic_initialize (pic_create true) 0x11 0x08 0x04 0x01
    let ops : List PicOp := [.set_inputs 0x20 0x20 0, .acknowledge, .set_inputs 0x22 0x02 0,
      .write_register 0 0x0c, .read_register 0 0]
    (ops.foldl serve ⟨pic, []⟩).order = [1, 5] ∧
      ∀ id, in_service (pic_write_register (ops.foldl serve ⟨pic, []⟩).pic 0 0x20) id = true ↔
        in_service (ops.foldl serve ⟨pic, []⟩).pic id = true ∧
          (ops.foldl serve ⟨pic, []⟩).order.head? ≠ some id := by
  intro pic ops
  have hinit := pic_initialize_fully_nested (pic_create true) 0x11 0x08 0x04 0x01
    (by decide) (by decide) (by decide)
  refine ⟨by decide, ?_⟩
  exact (pic_service_is_stack hinit.1 hinit.2 ops (by decide)).2.2.2 0x20 (by decide)

end Nxvm.Chips
