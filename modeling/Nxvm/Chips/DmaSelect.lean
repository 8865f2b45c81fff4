/-
The arbitration of the DMA controller's channels (`dma.c`).

The requests that are pending, line by line, and the channel that is selected among them: one
that is pending, and the only one where no other is.
-/
import Nxvm.Chips.Dma

set_option autoImplicit false

namespace Nxvm.Chips

open Nxvm.Lib Nxvm.Lib.Register Nxvm.Machine

/-- Turning four requests by `drx` moves channel `place + drx` to place `place`. -/
theorem turned_request {requests : U8} (hfour : ∀ i, 4 ≤ i → requests.getLsbD i = false)
    (drx place : Fin 4) :
    ((requests <<< (4 - drx.val)) ||| (requests >>> drx.val)).getLsbD place.val =
      requests.getLsbD (place + drx).val := by
  rw [BitVec.getLsbD_or, BitVec.getLsbD_shiftLeft, BitVec.getLsbD_ushiftRight, Fin.val_add]
  by_cases h : place.val + drx.val < 4
  · have hlow : place.val < 4 - drx.val := by omega
    have hmod : (place.val + drx.val) % 4 = drx.val + place.val := by omega
    simp [hlow, hmod]
  · have hhigh : ¬ place.val < 4 - drx.val := by omega
    have hmod : (place.val + drx.val) % 4 = place.val - (4 - drx.val) := by omega
    have hplace : place.val < 8 := by omega
    rw [hfour (drx.val + place.val) (by omega), hmod]
    simp [hhigh, hplace]

/-- The four channels of a request register. -/
theorem masked_requests (requests : U8) (i : ℕ) (hi : 4 ≤ i) :
    (requests &&& dma_mask_valid).getLsbD i = false := by
  have hmask : dma_mask_valid.getLsbD i = false := by
    rw [show dma_mask_valid = BitVec.ofNat 8 (2 ^ 4 - 1) from rfl, BitVec.getLsbD_ofNat,
      Nat.testBit_two_pow_sub_one]
    simp [Nat.not_lt.mpr hi]
  rw [BitVec.getLsbD_and, hmask, Bool.and_false]

/-- A selection is of a requested channel. -/
theorem dma_select_eq_some {dma : Dma} {requests : U8} {channel : Fin 4}
    (h : dma_select dma requests = some channel) :
    requests.getLsbD channel.val = true := by
  unfold dma_select at h
  dsimp only at h
  split_ifs at h with h0
  obtain ⟨place, hfind, rfl⟩ := Option.map_eq_some_iff.mp h
  have hbit := List.find?_some hfind
  rw [turned_request (masked_requests requests)] at hbit
  rw [BitVec.getLsbD_and, Bool.and_eq_true] at hbit
  exact hbit.1

/-- Something is selected when something is requested. -/
theorem dma_select_isSome {dma : Dma} {requests : U8} (h : requests &&& dma_mask_valid ≠ 0) :
    (dma_select dma requests).isSome = true := by
  unfold dma_select
  dsimp only
  rw [if_neg h, Option.isSome_map, List.find?_isSome]
  obtain ⟨i, hi⟩ := ne_zero_iff_lines.mp h
  have hlt : i.val < 4 := by
    by_contra hge
    rw [masked_requests requests i.val (by omega)] at hi
    exact Bool.false_ne_true hi
  refine ⟨⟨i.val, hlt⟩ - dma.drx, List.mem_finRange _, ?_⟩
  rw [turned_request (masked_requests requests), sub_add_cancel]
  exact hi

/-- The pending requests of a chip are of its four channels. -/
theorem dma_pending_requests_four (dma : Dma) (i : ℕ) (hi : 4 ≤ i) :
    (dma_pending_requests dma).getLsbD i = false := by
  have hdrqs : (((dma.status &&& 0xf0) >>> 4) &&& ~~~dma.mask).getLsbD i = false := by
    rw [BitVec.getLsbD_and, BitVec.getLsbD_ushiftRight, BitVec.getLsbD_of_ge _ _ (by omega),
      Bool.false_and]
  have hfold (channels : List (Fin 4)) (pending : U8) (hp : pending.getLsbD i = false) :
      (channels.foldl (fun pending channel =>
        if dma_software_request_is_valid dma channel then pending ||| drq channel else pending)
        pending).getLsbD i = false := by
    induction channels generalizing pending with
    | nil => exact hp
    | cons channel channels ih =>
      refine ih _ ?_
      have hdrq : (drq channel).getLsbD i = false := by
        rw [drq, BitVec.getLsbD_twoPow]
        have hne : channel.val ≠ i := by omega
        simp [hne]
      dsimp only
      split_ifs
      · rw [BitVec.getLsbD_or, hp, hdrq]
        rfl
      · exact hp
  unfold dma_pending_requests
  dsimp only
  split_ifs
  · exact hdrqs
  · exact hfold _ _ hdrqs

/-- A line of a register that the mask of four leaves. -/
theorem masked_ne_zero {requests : U8} {i : Fin 8} (hi : i.val < 4)
    (hbit : requests.getLsbD i.val = true) : requests &&& dma_mask_valid ≠ 0 := by
  refine ne_zero_iff_lines.mpr ⟨i, ?_⟩
  have hmask : dma_mask_valid.getLsbD i.val = true := by
    rw [show dma_mask_valid = BitVec.ofNat 8 (2 ^ 4 - 1) from rfl, BitVec.getLsbD_ofNat,
      Nat.testBit_two_pow_sub_one]
    simp [hi]
  rw [BitVec.getLsbD_and, hbit, hmask]
  rfl

theorem dma_pending_requests_select {dma : Dma} (h : dma_pending_requests dma ≠ 0) :
    ∃ channel, dma_select dma (dma_pending_requests dma) = some channel := by
  obtain ⟨i, hi⟩ := ne_zero_iff_lines.mp h
  have hlt : i.val < 4 := by
    by_contra hge
    rw [dma_pending_requests_four dma i.val (by omega)] at hi
    exact Bool.false_ne_true hi
  exact Option.isSome_iff_exists.mp (dma_select_isSome (masked_ne_zero hlt hi))

/-! ## Single requests -/

theorem getLsbD_drq (channel other : Fin 4) :
    (drq channel).getLsbD other.val = decide (other = channel) := by
  revert channel other
  decide

/-- A request line of a register. -/
theorem is_set_drq (requests : U8) (channel : Fin 4) :
    is_set requests (drq channel) = requests.getLsbD channel.val :=
  is_set_line requests ⟨channel.val, by omega⟩

theorem is_set_status_drq (status : U8) (channel : Fin 4) :
    is_set status (status_drq channel) = status.getLsbD (channel.val + 4) :=
  is_set_line status ⟨channel.val + 4, by omega⟩

/-- A pending request is that of a device which the mask leaves, or of the software. -/
theorem dma_pending_requests_line (dma : Dma) (channel : Fin 4) :
    (dma_pending_requests dma).getLsbD channel.val =
      (is_set dma.status (status_drq channel) && !is_set dma.mask (drq channel) ||
        dma_software_request_is_valid dma channel) := by
  have hdrqs : (((dma.status &&& 0xf0) >>> 4) &&& ~~~dma.mask).getLsbD channel.val =
      (is_set dma.status (status_drq channel) && !is_set dma.mask (drq channel)) := by
    have hnibble : (0xf0 : U8).getLsbD (4 + channel.val) = true := by
      revert channel
      decide
    have hchannel : channel.val < 8 := by omega
    rw [is_set_status_drq, is_set_drq, BitVec.getLsbD_and, BitVec.getLsbD_ushiftRight,
      BitVec.getLsbD_and, hnibble, BitVec.getLsbD_not, Nat.add_comm]
    simp [hchannel]
  have hfold (channels : List (Fin 4)) (pending : U8) :
      (channels.foldl (fun pending channel =>
        if dma_software_request_is_valid dma channel then pending ||| drq channel else pending)
        pending).getLsbD channel.val =
        (pending.getLsbD channel.val ||
          decide (channel ∈ channels) && dma_software_request_is_valid dma channel) := by
    induction channels generalizing pending with
    | nil => simp
    | cons first channels ih =>
      rw [List.foldl_cons, ih]
      by_cases hfirst : channel = first
      · subst hfirst
        cases hvalid : dma_software_request_is_valid dma channel with
        | true => simp [getLsbD_drq]
        | false => simp
      · cases hvalid : dma_software_request_is_valid dma first with
        | true => simp [getLsbD_drq, hfirst]
        | false => simp [hfirst]
  rw [dma_pending_requests]
  split
  · rename_i hnone
    have hvalid : dma_software_request_is_valid dma channel = false := by
      rw [dma_software_request_is_valid, hnone, is_set_zero, Bool.false_and]
    rw [hdrqs, hvalid, Bool.or_false]
  · rw [hfold, hdrqs, decide_eq_true (List.mem_finRange channel), Bool.true_and]

/-- The only channel that is pending is selected. -/
theorem dma_select_only {dma : Dma} {channel : Fin 4}
    (hpending : (dma_pending_requests dma).getLsbD channel.val = true)
    (hothers : ∀ other, other ≠ channel →
      (dma_pending_requests dma).getLsbD other.val = false) :
    dma_select dma (dma_pending_requests dma) = some channel := by
  have hsome : dma_pending_requests dma ≠ 0 := by
    intro hzero
    rw [hzero] at hpending
    simp at hpending
  obtain ⟨selected, hselected⟩ := dma_pending_requests_select hsome
  have hline := dma_select_eq_some hselected
  by_cases hother : selected = channel
  · rw [hselected, hother]
  · rw [hothers selected hother] at hline
    cases hline

/-- Without a pending request none is selected. -/
theorem dma_select_none {dma : Dma}
    (hnone : ∀ channel : Fin 4, (dma_pending_requests dma).getLsbD channel.val = false) :
    dma_select dma (dma_pending_requests dma) = none := by
  cases hselected : dma_select dma (dma_pending_requests dma) with
  | none => rfl
  | some channel =>
    have hline := dma_select_eq_some hselected
    rw [hnone channel] at hline
    cases hline

end Nxvm.Chips
