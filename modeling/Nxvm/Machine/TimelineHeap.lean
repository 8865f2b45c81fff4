/-
The heap of the timeline stays a heap: slots and heap positions point to each
other, and no event precedes its parent. Each operation that moves slots is
followed from what one exchange does.
-/
import Nxvm.Machine.Timeline
import Mathlib.Data.Finset.Card
import Mathlib.Order.Interval.Finset.Nat

set_option autoImplicit false

namespace Nxvm.Machine

open Nxvm.Lib.BinaryHeap

variable {κ χ : Type}

/-! ## Order and links -/

/-- What orders an event: its tick, then its sequence number. -/
def TimelineEvent.key (e : TimelineEvent κ χ) : ℕ ×ₗ ℕ := toLex (e.due_tick, e.sequence)

theorem timeline_precedes_iff (left right : TimelineEvent κ χ) :
    timeline_precedes left right = true ↔ left.key < right.key := by
  simp [timeline_precedes, TimelineEvent.key, Prod.Lex.toLex_lt_toLex]

/-- The order key of a heap position. -/
def Timeline.key (t : Timeline κ χ) (index : ℕ) : ℕ ×ₗ ℕ := (t.at_heap index).key

/-- The heap holds exactly the slots of `live`, each once, and every one of them knows its
position. -/
structure Timeline.Linked (t : Timeline κ χ) (live : ℕ → Prop) : Prop where
  slot : ∀ i, i < t.heap_size → live (t.heap i) ∧ (t.at_heap i).heap_index = i
  place : ∀ s, live s →
    (t.events s).heap_index < t.heap_size ∧ t.heap (t.events s).heap_index = s

theorem Timeline.Linked.heap_inj {t : Timeline κ χ} {live : ℕ → Prop} (h : t.Linked live) {i j : ℕ}
    (hi : i < t.heap_size) (hj : j < t.heap_size) (he : t.heap i = t.heap j) : i = j := by
  have h₁ := (h.slot i hi).2
  have h₂ := (h.slot j hj).2
  unfold Timeline.at_heap at h₁ h₂
  rw [he] at h₁
  exact h₁.symm.trans h₂

/-- `t'` differs from `t` in the arrangement of the heap only. -/
structure Rearranged (t t' : Timeline κ χ) : Prop where
  now : t'.now = t.now
  next_sequence : t'.next_sequence = t.next_sequence
  heap_size : t'.heap_size = t.heap_size
  events : ∀ s, t'.events s = { t.events s with heap_index := (t'.events s).heap_index }

theorem Rearranged.refl (t : Timeline κ χ) : Rearranged t t := ⟨rfl, rfl, rfl, fun _ => rfl⟩

theorem Rearranged.trans {t t' t'' : Timeline κ χ} (h : Rearranged t t')
    (h' : Rearranged t' t'') : Rearranged t t'' where
  now := h'.now.trans h.now
  next_sequence := h'.next_sequence.trans h.next_sequence
  heap_size := h'.heap_size.trans h.heap_size
  events s := by
    rw [h'.events s, h.events s]

theorem Rearranged.active {t t' : Timeline κ χ} (h : Rearranged t t') (s : ℕ) :
    (t'.events s).active = (t.events s).active := by rw [h.events s]

theorem Rearranged.entry {t t' : Timeline κ χ} (h : Rearranged t t') (s : ℕ) :
    (t'.events s).entry = (t.events s).entry := by rw [h.events s]; rfl

/-! ## One exchange -/

theorem timeline_heap_swap_heap (t : Timeline κ χ) (left right i : ℕ) :
    (timeline_heap_swap t left right).heap i = t.heap (Equiv.swap left right i) := by
  simp only [timeline_heap_swap, Timeline.point_back]
  by_cases hr : i = right
  · rw [hr, Function.update_self, Equiv.swap_apply_right]
  · rw [Function.update_of_ne hr]
    by_cases hl : i = left
    · rw [hl, Function.update_self, Equiv.swap_apply_left]
    · rw [Function.update_of_ne hl, Equiv.swap_apply_of_ne_of_ne hl hr]

theorem timeline_heap_swap_events (t : Timeline κ χ) {left right : ℕ} (h : left ≠ right)
    (hs : t.heap left ≠ t.heap right) (s : ℕ) :
    (timeline_heap_swap t left right).events s =
      { t.events s with
        heap_index := if s = t.heap left then right else if s = t.heap right then left
          else (t.events s).heap_index } := by
  simp only [timeline_heap_swap, Timeline.point_back, Function.update_self,
    Function.update_of_ne h]
  by_cases h₁ : s = t.heap left
  · rw [h₁, if_pos rfl, Function.update_self, Function.update_of_ne hs]
  · rw [if_neg h₁, Function.update_of_ne h₁]
    by_cases h₂ : s = t.heap right
    · rw [h₂, if_pos rfl, Function.update_self]
    · rw [if_neg h₂, Function.update_of_ne h₂]

section Swap

variable {t : Timeline κ χ} {live : ℕ → Prop} {left right : ℕ}

theorem timeline_heap_swap_rearranged (h : left ≠ right) (hs : t.heap left ≠ t.heap right) :
    Rearranged t (timeline_heap_swap t left right) where
  now := rfl
  next_sequence := rfl
  heap_size := rfl
  events s := by rw [timeline_heap_swap_events t h hs s]

/-- An exchange of two positions exchanges their keys. -/
theorem timeline_heap_swap_key (h : left ≠ right) (hs : t.heap left ≠ t.heap right) (i : ℕ) :
    (timeline_heap_swap t left right).key i = exchange t.key left right i := by
  unfold exchange Timeline.key Timeline.at_heap
  rw [timeline_heap_swap_heap, timeline_heap_swap_events t h hs]
  rfl

theorem timeline_heap_swap_linked (hl : t.Linked live) (hleft : left < t.heap_size)
    (hright : right < t.heap_size) (h : left ≠ right) :
    (timeline_heap_swap t left right).Linked live := by
  have hs : t.heap left ≠ t.heap right := fun he => h (hl.heap_inj hleft hright he)
  have hbound : ∀ i, i < t.heap_size → Equiv.swap left right i < t.heap_size := by
    intro i hi
    rw [Equiv.swap_apply_def]
    split_ifs
    · exact hright
    · exact hleft
    · exact hi
  constructor
  · intro i hi
    obtain ⟨hlive, hidx⟩ := hl.slot (Equiv.swap left right i) (hbound i hi)
    unfold Timeline.at_heap at hidx ⊢
    rw [timeline_heap_swap_heap, timeline_heap_swap_events t h hs]
    refine ⟨hlive, ?_⟩
    dsimp only
    rw [hidx]
    -- the slot now at `i` is that of the position exchanged with `i`
    by_cases h₁ : i = right
    · rw [h₁, Equiv.swap_apply_right, if_pos rfl]
    · by_cases h₂ : i = left
      · rw [h₂, Equiv.swap_apply_left, if_neg hs.symm, if_pos rfl]
      · rw [Equiv.swap_apply_of_ne_of_ne h₂ h₁]
        have hi' : i < t.heap_size := hi
        rw [if_neg fun he => h₂ (hl.heap_inj hi' hleft he),
          if_neg fun he => h₁ (hl.heap_inj hi' hright he)]
  · intro s hlive
    obtain ⟨hidx, hheap⟩ := hl.place s hlive
    rw [timeline_heap_swap_events t h hs, timeline_heap_swap_heap]
    dsimp only
    by_cases h₁ : s = t.heap left
    · rw [if_pos h₁, Equiv.swap_apply_right]
      exact ⟨hright, h₁.symm⟩
    · by_cases h₂ : s = t.heap right
      · rw [if_neg h₁, if_pos h₂, Equiv.swap_apply_left]
        exact ⟨hleft, h₂.symm⟩
      · rw [if_neg h₁, if_neg h₂, Equiv.swap_apply_of_ne_of_ne]
        · exact ⟨hidx, hheap⟩
        · intro he
          exact h₁ (he ▸ hheap).symm
        · intro he
          exact h₂ (he ▸ hheap).symm

end Swap

/-! ## Moving a slot to its place -/

/-- What a sift leaves: the same events in a linked and ordered heap. -/
structure Sifted (live : ℕ → Prop) (t t' : Timeline κ χ) : Prop where
  rearranged : Rearranged t t'
  linked : t'.Linked live
  ordered : Ordered t'.key t'.heap_size

theorem Sifted.after {live : ℕ → Prop} {t t' t'' : Timeline κ χ} (h : Rearranged t t')
    (h' : Sifted live t' t'') : Sifted live t t'' :=
  ⟨h.trans h'.rearranged, h'.linked, h'.ordered⟩

theorem timeline_heap_up_sifted {live : ℕ → Prop} (t : Timeline κ χ) (index : ℕ)
    (hl : t.Linked live) (hi : index < t.heap_size)
    (hr : Rising t.key t.heap_size index) :
    Sifted live t (timeline_heap_up t index) := by
  induction t, index using timeline_heap_up.induct with
  | case1 t =>
    rw [timeline_heap_up, dif_pos rfl]
    exact ⟨Rearranged.refl t, hl, hr.done (by omega)⟩
  | case2 t index h0 parent hlt ih =>
    rw [timeline_heap_up, dif_neg h0]
    dsimp only
    rw [if_pos hlt]
    have hp : parent < index := parent_lt (by omega)
    have hpn : parent < t.heap_size := by omega
    have hne : index ≠ parent := by omega
    have hs : t.heap index ≠ t.heap parent := fun he => hne (hl.heap_inj hi hpn he)
    refine Sifted.after (timeline_heap_swap_rearranged hne hs) (ih ?_ hpn ?_)
    · exact timeline_heap_swap_linked hl hi hpn hne
    · refine (hr.step (by omega) hi ?_).congr hpn fun i _ => timeline_heap_swap_key hne hs i
      exact (timeline_precedes_iff _ _).mp hlt
  | case3 t index h0 parent hge =>
    rw [timeline_heap_up, dif_neg h0]
    dsimp only
    rw [if_neg hge]
    refine ⟨Rearranged.refl t, hl, hr.done fun _ => ?_⟩
    exact not_lt.mp fun hlt => hge ((timeline_precedes_iff _ _).mpr hlt)

/-- The position `heap_down` chooses: it itself where no child precedes it, else a child
that precedes it and that no other child precedes. -/
theorem timeline_smallest_least (t : Timeline κ χ) (index i : ℕ) (h0 : 0 < i)
    (hi : i < t.heap_size) (hp : parent i = index) :
    t.key (timeline_smallest t index) ≤ t.key i := by
  rw [parent_eq_iff h0] at hp
  unfold timeline_smallest
  simp only [timeline_precedes_iff]
  change t.key (if _ ∧ t.key _ < t.key (if _ ∧ t.key _ < t.key _ then _ else _) then _
    else if _ ∧ t.key _ < t.key _ then _ else _) ≤ _
  rcases hp with rfl | rfl <;> split_ifs <;> grind

theorem timeline_smallest_child (t : Timeline κ χ) (index : ℕ)
    (h : timeline_smallest t index ≠ index) :
    0 < timeline_smallest t index ∧ parent (timeline_smallest t index) = index ∧
      t.key (timeline_smallest t index) < t.key index := by
  have hcases : timeline_smallest t index = 2 * index + 1 ∨
      timeline_smallest t index = 2 * index + 2 := by
    unfold timeline_smallest at h ⊢
    dsimp only at h ⊢
    split_ifs at h ⊢ <;> omega
  have h0 : 0 < timeline_smallest t index := by omega
  refine ⟨h0, (parent_eq_iff h0).mpr hcases, ?_⟩
  unfold timeline_smallest at h ⊢
  simp only [timeline_precedes_iff] at h ⊢
  unfold Timeline.key
  grind

theorem timeline_heap_down_sifted {live : ℕ → Prop} (t : Timeline κ χ) (index : ℕ)
    (hl : t.Linked live) (hi : index < t.heap_size)
    (hr : Sinking t.key t.heap_size index) :
    Sifted live t (timeline_heap_down t index) := by
  induction t, index using timeline_heap_down.induct with
  | case1 t index h =>
    rw [timeline_heap_down, dif_pos h]
    refine ⟨Rearranged.refl t, hl, hr.done ?_⟩
    intro i h0 hin hp
    have hle := timeline_smallest_least t index i h0 hin hp
    rwa [h] at hle
  | case2 t index h ih =>
    rw [timeline_heap_down, dif_neg h]
    obtain ⟨hc0, hpc, hlt⟩ := timeline_smallest_child t index h
    have hcn : timeline_smallest t index < t.heap_size := by
      rcases timeline_smallest_cases t index with he | ⟨_, hn⟩
      · exact absurd he h
      · exact hn
    have hne : index ≠ timeline_smallest t index := Ne.symm h
    have hs : t.heap index ≠ t.heap (timeline_smallest t index) :=
      fun he => hne (hl.heap_inj hi hcn he)
    refine Sifted.after (timeline_heap_swap_rearranged hne hs) (ih ?_ hcn ?_)
    · exact timeline_heap_swap_linked hl hi hcn hne
    · refine (hr.step hc0 hcn hpc hlt ?_).congr hcn fun i _ => timeline_heap_swap_key hne hs i
      intro i h0 hin hp
      exact timeline_smallest_least t index i h0 hin hp

/-! ## Putting a slot in, taking a slot out -/

/-- A slot appended behind the heap and moved to its place. -/
theorem timeline_append_sifted {live : ℕ → Prop} {t t' : Timeline κ χ} {slot : ℕ}
    (hl : t.Linked live) (ho : Ordered t.key t.heap_size) (hdead : ¬ live slot)
    (hsize : t'.heap_size = t.heap_size + 1)
    (hheap : t'.heap = Function.update t.heap t.heap_size slot)
    (hother : ∀ s, s ≠ slot → t'.events s = t.events s)
    (hindex : (t'.events slot).heap_index = t.heap_size) :
    Sifted (fun s => live s ∨ s = slot) t' (timeline_heap_up t' t.heap_size) := by
  have hold : ∀ i, i < t.heap_size → t'.heap i = t.heap i ∧ t.heap i ≠ slot := by
    intro i hi
    refine ⟨by rw [hheap, Function.update_of_ne (by omega)], fun he => hdead ?_⟩
    exact he ▸ (hl.slot i hi).1
  have hnew : t'.heap t.heap_size = slot := by rw [hheap, Function.update_self]
  have hkey : ∀ i, i < t.heap_size → t'.key i = t.key i := by
    intro i hi
    unfold Timeline.key Timeline.at_heap
    rw [(hold i hi).1, hother _ (hold i hi).2]
  apply timeline_heap_up_sifted
  · constructor
    · intro i hi
      unfold Timeline.at_heap
      rcases Nat.lt_or_ge i t.heap_size with hlt | hge
      · rw [(hold i hlt).1, hother _ (hold i hlt).2]
        exact ⟨Or.inl (hl.slot i hlt).1, (hl.slot i hlt).2⟩
      · have he : i = t.heap_size := by omega
        rw [he, hnew]
        exact ⟨Or.inr rfl, hindex⟩
    · intro s hs
      by_cases he : s = slot
      · rw [he, hindex, hnew]
        exact ⟨by omega, rfl⟩
      · have hlive : live s := hs.resolve_right he
        obtain ⟨hidx, hplace⟩ := hl.place s hlive
        rw [hother s he, (hold _ hidx).1]
        exact ⟨by omega, hplace⟩
  · omega
  · rw [hsize]
    exact ho.append hkey

/-- `heap_remove` leaves the heap without the slot of the position. -/
theorem timeline_heap_remove_sifted {live : ℕ → Prop} (t : Timeline κ χ) (index : ℕ)
    (hl : t.Linked live) (ho : Ordered t.key t.heap_size) (hi : index < t.heap_size) :
    Sifted (fun s => live s ∧ s ≠ t.heap index) { t with heap_size := t.heap_size - 1 }
      (timeline_heap_remove t index) := by
  rw [timeline_heap_remove, if_neg (by omega)]
  dsimp only
  by_cases hlast : index = t.heap_size - 1
  · -- the last position: nothing moves
    rw [if_pos hlast]
    refine ⟨Rearranged.refl _, ⟨?_, ?_⟩, ?_⟩
    · intro i hi'
      have hi' : i < t.heap_size - 1 := hi'
      obtain ⟨hlive, hidx⟩ := hl.slot i (by omega)
      refine ⟨⟨hlive, fun he => ?_⟩, hidx⟩
      have := hl.heap_inj (by omega) hi he
      omega
    · rintro s ⟨hlive, hne⟩
      obtain ⟨hidx, hplace⟩ := hl.place s hlive
      refine ⟨?_, hplace⟩
      have : (t.events s).heap_index ≠ index := fun he => hne (he ▸ hplace).symm
      change (t.events s).heap_index < t.heap_size - 1
      omega
    · intro i h0 hi'
      have hi' : i < t.heap_size - 1 := hi'
      exact ho i h0 (by omega)
  · rw [if_neg hlast]
    have hlt : index < t.heap_size - 1 := by omega
    have hll : t.heap_size - 1 < t.heap_size := by omega
    -- the heap with the last slot put at `index`
    generalize hm : (Timeline.point_back { t with
        heap_size := t.heap_size - 1,
        heap := Function.update t.heap index (t.heap (t.heap_size - 1)) }
      (Function.update t.heap index (t.heap (t.heap_size - 1)) index) index) = m
    rw [Function.update_self] at hm
    have hmsize : m.heap_size = t.heap_size - 1 := by rw [← hm]; rfl
    have hmheap : m.heap = Function.update t.heap index (t.heap (t.heap_size - 1)) := by
      rw [← hm]; rfl
    have hmevents : m.events = Function.update t.events (t.heap (t.heap_size - 1))
        { t.events (t.heap (t.heap_size - 1)) with heap_index := index } := by
      rw [← hm]; rfl
    have hmr : Rearranged { t with heap_size := t.heap_size - 1 } m := by
      refine ⟨by rw [← hm]; rfl, by rw [← hm]; rfl, hmsize, fun s => ?_⟩
      rw [hmevents]
      by_cases hs : s = t.heap (t.heap_size - 1)
      · rw [hs, Function.update_self]
      · rw [Function.update_of_ne hs]
    have hold : ∀ i, i < t.heap_size - 1 → i ≠ index →
        m.heap i = t.heap i ∧ t.heap i ≠ t.heap (t.heap_size - 1) := by
      intro i hi' hne
      refine ⟨by rw [hmheap, Function.update_of_ne hne], fun he => ?_⟩
      have := hl.heap_inj (by omega) hll he
      omega
    have hkey : ∀ i, i < m.heap_size → i ≠ index → m.key i = t.key i := by
      intro i hi' hne
      rw [hmsize] at hi'
      unfold Timeline.key Timeline.at_heap
      rw [(hold i hi' hne).1, hmevents, Function.update_of_ne (hold i hi' hne).2]
    have hml : m.Linked fun s => live s ∧ s ≠ t.heap index := by
      constructor
      · intro i hi'
        rw [hmsize] at hi'
        unfold Timeline.at_heap
        by_cases hne : i = index
        · rw [hne, hmheap, Function.update_self, hmevents, Function.update_self]
          refine ⟨⟨(hl.slot _ hll).1, fun he => ?_⟩, rfl⟩
          have := hl.heap_inj hll hi he
          omega
        · rw [(hold i hi' hne).1, hmevents, Function.update_of_ne (hold i hi' hne).2]
          obtain ⟨hlive, hidx⟩ := hl.slot i (by omega)
          exact ⟨⟨hlive, fun he => hne (hl.heap_inj (by omega) hi he)⟩, hidx⟩
      · rintro s ⟨hlive, hne⟩
        obtain ⟨hidx, hplace⟩ := hl.place s hlive
        rw [hmevents, hmsize]
        by_cases hs : s = t.heap (t.heap_size - 1)
        · rw [hs, Function.update_self, hmheap, Function.update_self]
          exact ⟨hlt, rfl⟩
        · have h₁ : (t.events s).heap_index ≠ t.heap_size - 1 := fun he =>
            hs (he ▸ hplace).symm
          have h₂ : (t.events s).heap_index ≠ index := fun he => hne (he ▸ hplace).symm
          rw [Function.update_of_ne hs, hmheap, Function.update_of_ne h₂]
          exact ⟨by omega, hplace⟩
    have hom : Ordered t.key m.heap_size := by
      intro i h0 hi'
      exact ho i h0 (by omega)
    have him : index < m.heap_size := by omega
    by_cases hup : index ≠ 0 ∧
        timeline_precedes (m.at_heap index) (m.at_heap ((index - 1) / 2)) = true
    · rw [if_pos hup]
      refine Sifted.after hmr (timeline_heap_up_sifted m index hml him ?_)
      exact hom.replace_rising him (by omega) hkey ((timeline_precedes_iff _ _).mp hup.2)
    · rw [if_neg hup]
      refine Sifted.after hmr (timeline_heap_down_sifted m index hml him ?_)
      refine hom.replace_sinking him hkey fun h0 => not_lt.mp fun hlt => hup ?_
      exact ⟨by omega, (timeline_precedes_iff _ _).mpr hlt⟩

end Nxvm.Machine
