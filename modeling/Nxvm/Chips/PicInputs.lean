/-
What the interrupt controller keeps of its inputs.

The chip latches the levels it was shown last and, on a slave's line, that the slave
asked. Showing it the same levels again changes nothing but the cascade requests; so
what a board has to show again is what has changed since.
-/
import Nxvm.Chips.PicPriority

set_option autoImplicit false

namespace Nxvm.Chips

open Nxvm.Lib Nxvm.Lib.Register

/-! ## Levels -/

/-- The chip has seen these levels: in level mode a high input is a request. -/
structure Latched (pic : Pic) (levels : U8) : Prop where
  input_levels : pic.input_levels = levels
  requests : pic_is_level pic = true → pic.irr ||| levels = pic.irr

/-- What a chip takes in of the cascade lines it is shown. -/
def pic_cascade_seen (pic : Pic) (cascade_lines : U8) : U8 :=
  if !pic.cascade_master || is_set pic.icw1 icw1_sngl then 0 else cascade_lines &&& pic.icw3

theorem pic_set_inputs_latched (pic : Pic) (levels asserted_requests cascade_lines : U8) :
    Latched (pic_set_inputs pic levels asserted_requests cascade_lines) levels := by
  refine ⟨rfl, fun hlevel => ?_⟩
  have hl : pic_is_level pic = true := hlevel
  simp only [pic_set_inputs, hl, if_true]
  apply eq_of_lines
  intro id
  simp only [BitVec.getLsbD_or]
  cases levels.getLsbD id.val <;> simp

/-- Levels shown again leave the requests as they are. -/
theorem Latched.set_inputs {pic : Pic} {levels : U8} (h : Latched pic levels)
    (cascade_lines : U8) :
    pic_set_inputs pic levels 0 cascade_lines =
      { pic with cascade_irr := pic_cascade_seen pic cascade_lines } := by
  have hirr : (if pic_is_level pic then
      (pic.irr &&& ~~~(pic.input_levels &&& ~~~levels)) ||| levels
      else pic.irr &&& ~~~(pic.input_levels &&& ~~~levels)) ||| 0 = pic.irr := by
    have hfall : pic.input_levels &&& ~~~levels = 0 := by
      rw [h.input_levels]
      apply eq_of_lines
      intro id
      simp
    have hkeep : pic.irr &&& ~~~(0 : U8) = pic.irr := BitVec.and_allOnes
    rw [hfall, hkeep]
    cases hlevel : pic_is_level pic with
    | false => simp
    | true => simpa using h.requests hlevel
  obtain ⟨irr, imr, isr, icw1, icw2, icw3, icw4, ocw2, ocw3, status, irx, cascade_irr,
    delivery, remaining, input_levels, cascade_master⟩ := pic
  simp only [pic_set_inputs, pic_cascade_seen] at hirr ⊢
  rw [hirr, ← h.input_levels]

theorem Latched.advance {pic : Pic} {levels : U8} (h : Latched pic levels)
    (elapsed_ticks : U64) : Latched (pic_advance pic elapsed_ticks) levels :=
  ⟨h.input_levels, h.requests⟩

theorem Latched.set_irq_timing {pic : Pic} {levels : U8} (h : Latched pic levels)
    (ticks : Table 8 U32) : Latched (pic_set_irq_timing pic ticks) levels :=
  ⟨h.input_levels, h.requests⟩

/-- An acknowledge takes no request away that its input still asserts. -/
theorem Latched.respond_intr {pic : Pic} {levels : U8} (h : Latched pic levels) (id : Fin 8)
    (cascade : Bool) : Latched (respond_intr pic id cascade) levels := by
  have hwithdraw : Latched
      (withdraw_request { pic with isr := pic.isr ||| line id } id cascade) levels := by
    unfold withdraw_request
    split_ifs with hcascade hlevel
    · exact ⟨h.input_levels, h.requests⟩
    · refine ⟨h.input_levels, fun hl => ?_⟩
      have hltim : is_set pic.icw1 icw1_ltim = true := hl
      have hlow : levels.getLsbD id.val = false := by
        rw [← h.input_levels, ← is_set_line]
        simpa [hltim] using hlevel
      have hreq := h.requests hl
      apply eq_of_lines
      intro id'
      have hbit := congrArg (fun x => x.getLsbD id'.val) hreq
      simp only [BitVec.getLsbD_or] at hbit
      rw [BitVec.getLsbD_or, getLsbD_clear]
      by_cases hid : id' = id
      · subst hid
        rw [hlow, Bool.or_false]
      · rw [decide_eq_false hid, Bool.not_false, Bool.and_true, hbit]
    · exact ⟨h.input_levels, h.requests⟩
  unfold Chips.respond_intr automatic_eoi
  dsimp only
  split_ifs
  · exact ⟨hwithdraw.input_levels, hwithdraw.requests⟩
  · exact ⟨hwithdraw.input_levels, hwithdraw.requests⟩
  · exact hwithdraw

/-! ## Requests that cannot be heard -/

/-- A cascade request on this line would not be selected: the line is masked, or it is in
service and special fully nested mode is off. -/
def Deaf (pic : Pic) (id : Fin 8) : Prop :=
  pic.imr.getLsbD id.val = true ∨
    (in_service pic id = true ∧ is_set pic.icw4 icw4_sfnm = false)

instance (pic : Pic) (id : Fin 8) : Decidable (Deaf pic id) :=
  inferInstanceAs (Decidable (_ ∨ _ ∧ _))

/-- The line belongs to a slave and takes no requests of its own. -/
def Listens (pic : Pic) (id : Fin 8) : Prop :=
  pic.cascade_master = true ∧ is_set pic.icw1 icw1_sngl = false ∧
    pic.icw3.getLsbD id.val = true

instance (pic : Pic) (id : Fin 8) : Decidable (Listens pic id) :=
  inferInstanceAs (Decidable (_ ∧ _ ∧ _))

/-- What is seen of a single cascade line. -/
theorem pic_cascade_seen_line (pic : Pic) (id : Fin 8) [Decidable (Listens pic id)] :
    pic_cascade_seen pic (line id) = if Listens pic id then line id else 0 := by
  unfold pic_cascade_seen
  cases hmaster : pic.cascade_master <;> cases hsngl : is_set pic.icw1 icw1_sngl <;>
    simp only [Listens, hmaster, hsngl, Bool.not_true, Bool.not_false, Bool.or_true,
      Bool.or_false, Bool.false_eq_true, Bool.true_eq_false, if_true, if_false, false_and,
      and_false, true_and]
  apply eq_of_lines
  intro id'
  rw [BitVec.getLsbD_and, getLsbD_line]
  by_cases hid : id' = id
  · subst hid
    cases pic.icw3.getLsbD id'.val <;> simp
  · rw [decide_eq_false hid, Bool.false_and]
    split_ifs
    · rw [getLsbD_line, decide_eq_false hid]
    · simp

@[simp] theorem pic_cascade_seen_zero (pic : Pic) : pic_cascade_seen pic 0 = 0 := by
  unfold pic_cascade_seen
  split_ifs <;> simp

/-- The line of a slave that does not ask is not selected. -/
theorem pic_selects_quiet {pic : Pic} {id : Fin 8} (hlisten : Listens pic id)
    (hquiet : pic.cascade_irr.getLsbD id.val = false) : pic_selects pic id = false := by
  obtain ⟨hmaster, hsngl, hicw3⟩ := hlisten
  unfold pic_selects
  simp only [is_set_line, hquiet, hmaster, hsngl, hicw3]
  simp

/-- A deaf line is not selected even when its slave asks. -/
theorem pic_selects_deaf {pic : Pic} {id : Fin 8} (hdeaf : Deaf pic id) :
    pic_selects pic id = false := by
  unfold pic_selects
  cases hmask : pic.imr.getLsbD id.val with
  | true =>
    have hpending : is_set (pic_pending_requests pic &&& ~~~pic.imr) (line id) = false := by
      rw [is_set_line, BitVec.getLsbD_and, BitVec.getLsbD_not, hmask]
      simp
    simp only [hpending, Bool.and_false, Bool.false_and]
  | false =>
    obtain hmasked | ⟨hserved, hsfnm⟩ := hdeaf
    · exact absurd (hmask.symm.trans hmasked) Bool.false_ne_true
    · simp only [pic_request_can_interrupt_self hserved hmask, hsfnm, Bool.and_false,
        Bool.false_and, Bool.or_false]

/-- Whether the slave of a deaf line asks makes no difference to what is selected. -/
theorem pic_select_deaf {pic : Pic} {id : Fin 8} (hlisten : Listens pic id)
    (hdeaf : Deaf pic id) (hquiet : pic.cascade_irr = 0) :
    pic_select { pic with cascade_irr := line id } = pic_select pic := by
  have hselects : pic_selects { pic with cascade_irr := line id } = pic_selects pic := by
    funext id'
    by_cases hid : id' = id
    · subst hid
      rw [pic_selects_deaf hdeaf]
      exact pic_selects_deaf hdeaf
    · have hpending : is_set ((pic.irr ||| line id) &&& ~~~pic.imr) (line id') =
          is_set ((pic.irr ||| 0) &&& ~~~pic.imr) (line id') := by
        simp only [is_set_line, BitVec.getLsbD_and, getLsbD_set, decide_eq_false hid]
        simp
      have hcascade : is_set (line id) (line id') = is_set (0 : U8) (line id') := by
        rw [is_set_line, getLsbD_line, decide_eq_false hid, is_set_zero]
      simp only [pic_selects, pic_pending_requests, hquiet, hpending, hcascade]
      rfl
  rw [pic_select_eq_find, pic_select_eq_find, hselects]
  refine if_congr Iff.rfl rfl ?_
  refine Option.map_congr fun found hfound => ?_
  have hsel : pic_selects pic found = true := List.find?_some hfound
  have hid : found ≠ id := fun hid => by
    rw [hid, pic_selects_quiet hlisten (by rw [hquiet]; simp)] at hsel
    exact Bool.false_ne_true hsel
  simp only [pic_request_of, hquiet, is_set_line, getLsbD_line, decide_eq_false hid]
  simp

/-! ## Delays that pass -/

theorem pic_selects_advance {pic : Pic} {id : Fin 8} (elapsed_ticks : U64)
    (h : pic_selects pic id = true) : pic_selects (pic_advance pic elapsed_ticks) id = true := by
  have hready : pic.unmask_remaining_ticks id = 0 := by
    simp only [pic_selects, Bool.and_eq_true, decide_eq_true_eq] at h
    exact h.1.1.1
  have hzero : (pic_advance pic elapsed_ticks).unmask_remaining_ticks id = 0 := by
    simp only [pic_advance, hready]
    exact if_pos (Nat.zero_le _)
  unfold pic_selects at h ⊢
  rw [hready] at h
  rw [hzero]
  exact h

/-- Time only makes requests deliverable. -/
theorem pic_select_advance {pic : Pic} (elapsed_ticks : U64)
    (h : (pic_select pic).isSome = true) :
    (pic_select (pic_advance pic elapsed_ticks)).isSome = true := by
  obtain ⟨hstatus, id, hid⟩ := pic_select_isSome.mp h
  exact pic_select_isSome.mpr ⟨hstatus, id, pic_selects_advance elapsed_ticks hid⟩

end Nxvm.Chips
