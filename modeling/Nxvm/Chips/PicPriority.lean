/-
Priorities of the interrupt controller: what `GetRegTopId` finds and what a select
can find.

The chip turns a register so that the line of highest priority comes first and takes
the first line it meets. In terms of lines: it finds one that no other outranks.
-/
import Nxvm.Chips.Pic

set_option autoImplicit false

namespace Nxvm.Chips

open Nxvm.Lib Nxvm.Lib.Register

/-! ## Ranks -/

/-- The line is in service. -/
def in_service (pic : Pic) (id : Fin 8) : Bool := pic.isr.getLsbD id.val

/-- Turning a register by `irx` moves line `id + irx` to place `id`. -/
theorem turned_line (reg : U8) (irx id : Fin 8) :
    ((reg <<< (8 - irx.val)) ||| (reg >>> irx.val)).getLsbD id.val =
      reg.getLsbD (id + irx).val := by
  rw [BitVec.getLsbD_or, BitVec.getLsbD_shiftLeft, BitVec.getLsbD_ushiftRight, Fin.val_add]
  by_cases h : id.val + irx.val < 8
  · have hlow : id.val < 8 - irx.val := by omega
    have hmod : (id.val + irx.val) % 8 = irx.val + id.val := by omega
    simp [hlow, hmod]
  · have hhigh : ¬ id.val < 8 - irx.val := by omega
    have hmod : (id.val + irx.val) % 8 = id.val - (8 - irx.val) := by omega
    have hout : reg.getLsbD (irx.val + id.val) = false := BitVec.getLsbD_of_ge _ _ (by omega)
    simp [hhigh, hmod, hout]

theorem pic_priority_rank_add (pic : Pic) (id : Fin 8) :
    pic_priority_rank pic (id + pic.irx) = id.val := by
  rw [pic_priority_rank, Fin.val_add]
  omega

theorem pic_priority_rank_of_irx {pic : Pic} (h : pic.irx = 0) (id : Fin 8) :
    pic_priority_rank pic id = id.val := by
  rw [pic_priority_rank, h]
  simp only [Fin.val_zero]
  omega

/-- `GetRegTopId` answers a line of the register that no other line outranks. -/
theorem get_reg_top_id_spec {pic : Pic} {reg : U8} {top : Fin 8}
    (h : get_reg_top_id pic reg = some top) :
    reg.getLsbD top.val = true ∧
      ∀ id : Fin 8, reg.getLsbD id.val = true →
        pic_priority_rank pic top ≤ pic_priority_rank pic id := by
  unfold get_reg_top_id at h
  split_ifs at h with h0
  obtain ⟨place, hfind, rfl⟩ := Option.map_eq_some_iff.mp h
  have hbit : reg.getLsbD (place + pic.irx).val = true := by
    rw [← turned_line]
    simpa using List.find?_some hfind
  refine ⟨hbit, fun id hid => ?_⟩
  -- an id with a lower place would have been found before
  have hplace : id = (id - pic.irx) + pic.irx := by simp
  rw [hplace, pic_priority_rank_add, pic_priority_rank_add]
  by_contra hlt
  have hle := (List.find?_eq_some_iff_getElem.mp hfind).2
  obtain ⟨i, hi, hget, hbefore⟩ := hle
  have hip : i = place.val := by
    rw [List.getElem_finRange] at hget
    have := congrArg Fin.val hget
    simpa using this
  have hno := hbefore (id - pic.irx).val (by omega)
  rw [List.getElem_finRange] at hno
  have hturned := turned_line reg pic.irx (id - pic.irx)
  rw [← hplace, hid] at hturned
  simp only [Fin.cast_mk, Fin.eta, Bool.not_eq_true'] at hno
  rw [hturned] at hno
  exact Bool.noConfusion hno

theorem get_reg_top_id_eq_none {pic : Pic} {reg : U8} :
    get_reg_top_id pic reg = none ↔ reg = 0 := by
  unfold get_reg_top_id
  split_ifs with h0
  · simp [h0]
  · simp only [h0, iff_false, Option.map_eq_none_iff, List.find?_eq_none]
    obtain ⟨id, hid⟩ := ne_zero_iff_lines.mp h0
    intro hall
    have hturned := turned_line reg pic.irx (id - pic.irx)
    rw [sub_add_cancel, hid] at hturned
    exact hall (id - pic.irx) (List.mem_finRange _) hturned

/-! ## Selecting -/

/-- The early exit of the select is the loop finding nothing. -/
theorem pic_select_eq_find (pic : Pic) :
    pic_select pic =
      if pic.status ≠ .ocw1 then none
      else
        (((List.finRange 8).map fun offset => pic.irx + offset).find? (pic_selects pic)).map
          (pic_request_of pic) := by
  unfold pic_select
  by_cases hstatus : pic.status = .ocw1
  · by_cases hpending : pic_pending_requests pic &&& ~~~pic.imr = 0
    · have hnone : ∀ id, pic_selects pic id = false := by
        intro id
        simp only [pic_selects, hpending, is_set_zero, Bool.and_false, Bool.false_and]
      have hfind : ((List.finRange 8).map fun offset => pic.irx + offset).find?
          (pic_selects pic) = none := List.find?_eq_none.mpr fun id _ => by simp [hnone]
      rw [if_pos (Or.inr hpending), if_neg (not_not.mpr hstatus), hfind]
      rfl
    · rw [if_neg (not_or.mpr ⟨not_not.mpr hstatus, hpending⟩), if_neg (not_not.mpr hstatus)]
  · rw [if_pos (Or.inl hstatus), if_pos hstatus]

/-- A chip selects when it is initialised and some line qualifies. -/
theorem pic_select_isSome {pic : Pic} :
    (pic_select pic).isSome = true ↔
      pic.status = .ocw1 ∧ ∃ id, pic_selects pic id = true := by
  rw [pic_select_eq_find]
  split_ifs with h
  · simp [h]
  · rw [Option.isSome_map, List.find?_isSome, not_not.mp h]
    simp only [true_and]
    constructor
    · rintro ⟨id, -, hid⟩
      exact ⟨id, hid⟩
    · rintro ⟨id, hid⟩
      refine ⟨id, List.mem_map.mpr ⟨id - pic.irx, List.mem_finRange _, ?_⟩, hid⟩
      simp

/-- A request is of a line that qualifies. -/
theorem pic_select_eq_some {pic : Pic} {request : PicRequest}
    (h : pic_select pic = some request) :
    pic_selects pic request.line = true ∧ request = pic_request_of pic request.line := by
  rw [pic_select_eq_find] at h
  split_ifs at h
  obtain ⟨id, hfind, rfl⟩ := Option.map_eq_some_iff.mp h
  exact ⟨List.find?_some hfind, rfl⟩

/-- A line in service is not interrupted by itself. -/
theorem pic_request_can_interrupt_self {pic : Pic} {id : Fin 8}
    (hserved : in_service pic id = true) (hmask : pic.imr.getLsbD id.val = false) :
    pic_request_can_interrupt pic id = false := by
  have heff : (pic_effective_isr pic).getLsbD id.val = true := by
    unfold pic_effective_isr
    split_ifs
    · rw [BitVec.getLsbD_and, BitVec.getLsbD_not, hmask]
      simpa [in_service] using hserved
    · exact hserved
  unfold pic_request_can_interrupt
  cases htop : get_reg_top_id pic (pic_effective_isr pic) with
  | none =>
    rw [get_reg_top_id_eq_none.mp htop] at heff
    simp at heff
  | some service =>
    have hle := (get_reg_top_id_spec htop).2 id heff
    exact decide_eq_false (by omega)

end Nxvm.Chips
