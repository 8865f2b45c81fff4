/-
What the timeline does over whole runs (`timeline.c`): from reset, through any
calls of schedule, cancel and advance, with callbacks that call back into it.

Every operation keeps `Timeline.Valid` and leaves an `Account`: a record which
says exactly which events are pending afterwards. Accounts compose, so the loop
of `timeline_advance` is followed by one induction on its rounds.
-/
import Nxvm.Machine.TimelineHeap
import Mathlib.Order.Bounds.Basic

set_option autoImplicit false

namespace Nxvm.Machine

open Nxvm.Lib.BinaryHeap

variable {κ χ σ : Type}

/-! ## Valid timelines -/

/-- A slot of the table that is in use. -/
def Timeline.live (t : Timeline κ χ) (slot : ℕ) : Prop :=
  slot < event_capacity ∧ (t.events slot).active = true

/-- What holds of a slot in use: its event is not in the past, its sequence number was
given out, and it has something to call. -/
structure Timeline.Sound (t : Timeline κ χ) (e : Entry κ χ) : Prop where
  due : t.now ≤ e.due_tick
  sequence : e.sequence < t.next_sequence
  callback : e.callback.isSome = true

/-- The invariant of the timeline. -/
structure Timeline.Valid (t : Timeline κ χ) : Prop where
  linked : t.Linked t.live
  ordered : Ordered t.key t.heap_size
  sound : ∀ s, t.live s → t.Sound (t.events s).entry
  distinct : ∀ s s', t.live s → t.live s' → (t.events s).sequence = (t.events s').sequence → s = s'

/-- An event is pending: some slot in use holds it. -/
def Timeline.Pending (t : Timeline κ χ) (e : Entry κ χ) : Prop :=
  ∃ s, t.live s ∧ (t.events s).entry = e

/-- The tick and the sequence number of an event, in the order of their turns. -/
def Entry.key (e : Entry κ χ) : ℕ ×ₗ ℕ := toLex (e.due_tick, e.sequence)

theorem Timeline.Valid.pending_sound {t : Timeline κ χ} (h : t.Valid) {e : Entry κ χ}
    (hp : t.Pending e) : t.Sound e := by
  obtain ⟨s, hs, rfl⟩ := hp
  exact h.sound s hs

theorem timeline_reset_valid : (timeline_reset : Timeline κ χ).Valid := by
  have hdead : ∀ s, ¬ (timeline_reset : Timeline κ χ).live s := by
    intro s hs
    have hact : (false : Bool) = true := hs.2
    cases hact
  refine ⟨⟨?_, ?_⟩, ?_, ?_, ?_⟩
  · intro i hi
    exact absurd hi (Nat.not_lt_zero i)
  · intro s hs
    exact absurd hs (hdead s)
  · intro i _ hi
    exact absurd hi (Nat.not_lt_zero i)
  · intro s hs
    exact absurd hs (hdead s)
  · intro s _ hs
    exact absurd hs (hdead s)

/-! ## The heap counts the slots in use -/

/-- Heap positions and slots in use correspond one to one. -/
theorem Timeline.Linked.card_live {t : Timeline κ χ} (h : t.Linked t.live) :
    ((Finset.range event_capacity).filter fun s => (t.events s).active = true).card =
      t.heap_size := by
  rw [← Finset.card_range t.heap_size]
  apply Finset.card_nbij' (fun s => (t.events s).heap_index) t.heap
  · intro s hs
    simp only [Finset.coe_filter, Finset.mem_range, Set.mem_ofPred_eq] at hs
    simpa using (h.place s hs).1
  · intro i hi
    simp only [Finset.coe_range, Set.mem_Iio] at hi
    simpa [Timeline.live] using (h.slot i hi).1
  · intro s hs
    simp only [Finset.coe_filter, Finset.mem_range, Set.mem_ofPred_eq] at hs
    exact (h.place s hs).2
  · intro i hi
    simp only [Finset.coe_range, Set.mem_Iio] at hi
    exact (h.slot i hi).2

theorem timeline_pending_count_eq {t : Timeline κ χ} (h : t.Valid) :
    timeline_pending_count t = t.heap_size := by
  have hcard : ((Finset.range event_capacity).filter fun s => (t.events s).active = true).card =
      ((List.range event_capacity).filter fun s => decide ((t.events s).active = true)).length :=
    rfl
  rw [← h.linked.card_live, hcard, timeline_pending_count]
  simp only [Bool.decide_eq_true]

/-- The root is the pending event whose turn comes first. -/
theorem Timeline.Valid.root_le {t : Timeline κ χ} (h : t.Valid) {e : Entry κ χ}
    (hp : t.Pending e) : 0 < t.heap_size ∧ (t.at_heap 0).key ≤ e.key := by
  obtain ⟨s, hs, rfl⟩ := hp
  obtain ⟨hidx, hplace⟩ := h.linked.place s hs
  refine ⟨by omega, ?_⟩
  have hle := h.ordered.root_le _ hidx
  unfold Timeline.key at hle
  calc (t.at_heap 0).key ≤ (t.at_heap (t.events s).heap_index).key := hle
    _ = (t.events s).entry.key := by rw [Timeline.at_heap, hplace]; rfl

theorem Timeline.Valid.root_pending {t : Timeline κ χ} (h : t.Valid) (h0 : 0 < t.heap_size) :
    t.Pending (t.at_heap 0).entry :=
  ⟨t.heap 0, (h.linked.slot 0 h0).1, rfl⟩

/-- `timeline_next_due` answers the least tick of the slots in use. -/
theorem timeline_next_due_least {t : Timeline κ χ} (h : t.Valid) :
    (timeline_next_due t = (.invalid_state, none) ∧ ∀ e, ¬ t.Pending e) ∨
      ∃ d, timeline_next_due t = (.ok, some d) ∧
        IsLeast { d | ∃ e, t.Pending e ∧ e.due_tick = d } d := by
  unfold timeline_next_due
  by_cases h0 : t.heap_size = 0
  · left
    rw [if_pos h0]
    refine ⟨rfl, fun e hp => ?_⟩
    have := (h.root_le hp).1
    omega
  · right
    rw [if_neg h0]
    refine ⟨_, rfl, ⟨_, h.root_pending (by omega), rfl⟩, ?_⟩
    rintro d ⟨e, hp, rfl⟩
    have hle := (h.root_le hp).2
    unfold TimelineEvent.key Entry.key at hle
    rw [Prod.Lex.toLex_le_toLex] at hle
    rcases hle with hlt | ⟨heq, _⟩
    · exact hlt.le
    · exact heq.le

/-! ## Scheduling -/

theorem timeline_free_slot_some {t : Timeline κ χ} {slot : ℕ}
    (h : timeline_free_slot t = some slot) :
    slot < event_capacity ∧ (t.events slot).active = false := by
  have hp := List.find?_some h
  have hm := List.mem_of_find?_eq_some h
  exact ⟨List.mem_range.mp hm, by simpa using hp⟩

theorem timeline_free_slot_idle {t : Timeline κ χ} {slot : ℕ}
    (h : timeline_free_slot t = some slot) : ¬ t.live slot := by
  intro hlive
  have hact := hlive.2
  rw [(timeline_free_slot_some h).2] at hact
  cases hact

/-- The event `timeline_insert` adds. -/
def inserted (t : Timeline κ χ) (due_tick : ℕ) (callback : Option κ) (context : Option χ) :
    Entry κ χ :=
  { due_tick, sequence := t.next_sequence, callback, context }

section Insert

variable {t : Timeline κ χ} {slot due_tick : ℕ} {callback : Option κ} {context : Option χ}

/-- The table after an insertion. -/
theorem timeline_insert_spec (due_tick : ℕ) (callback : Option κ) (context : Option χ) (hv : t.Valid)
    (hfree : timeline_free_slot t = some slot) :
    let t' := timeline_insert t slot due_tick callback context
    t'.now = t.now ∧ t'.next_sequence = t.next_sequence + 1 ∧
      t'.Linked (fun s => t.live s ∨ s = slot) ∧ Ordered t'.key t'.heap_size ∧
      (t'.events slot).entry = inserted t due_tick callback context ∧
      (∀ s, s ≠ slot → (t'.events s).entry = (t.events s).entry) ∧
      ∀ s, t'.live s ↔ t.live s ∨ s = slot := by
  have hslot := (timeline_free_slot_some hfree).1
  have hself : (timeline_append t slot due_tick callback context).events slot =
      { due_tick, sequence := t.next_sequence, callback, context, heap_index := t.heap_size,
        active := true } := Function.update_self _ _ _
  have hother : ∀ s, s ≠ slot →
      (timeline_append t slot due_tick callback context).events s = t.events s :=
    fun s hne => Function.update_of_ne hne _ _
  intro t'
  have hs : Sifted (fun s => t.live s ∨ s = slot) _ t' :=
    timeline_append_sifted hv.linked hv.ordered (timeline_free_slot_idle hfree) rfl rfl
      hother (by rw [hself])
  refine ⟨hs.rearranged.now, hs.rearranged.next_sequence, hs.linked, hs.ordered, ?_, ?_, ?_⟩
  · rw [hs.rearranged.entry slot, hself]
    rfl
  · intro s hne
    rw [hs.rearranged.entry s, hother s hne]
  · intro s
    unfold Timeline.live
    rw [hs.rearranged.active s]
    by_cases hne : s = slot
    · rw [hne, hself]
      simp [hslot]
    · rw [hother s hne]
      simp [hne]

theorem timeline_insert_valid (hv : t.Valid) (hfree : timeline_free_slot t = some slot)
    (hdue : t.now ≤ due_tick) (hcall : callback.isSome = true) :
    (timeline_insert t slot due_tick callback context).Valid := by
  obtain ⟨hnow, hseq, hlinked, hordered, hnew, hold, hlive⟩ :=
    timeline_insert_spec due_tick callback context hv hfree
  generalize timeline_insert t slot due_tick callback context = t' at *
  have hl : t'.live = fun s => t.live s ∨ s = slot := funext fun s => propext (hlive s)
  have hslot : (t'.events slot).sequence = t.next_sequence := congrArg Entry.sequence hnew
  have hother : ∀ s, t.live s → s ≠ slot → (t'.events s).sequence < t.next_sequence ∧
      (t'.events s).sequence = (t.events s).sequence := by
    intro s hs hne
    have he : (t'.events s).sequence = (t.events s).sequence :=
      congrArg Entry.sequence (hold s hne)
    exact ⟨he ▸ (hv.sound s hs).sequence, he⟩
  refine ⟨hl ▸ hlinked, hordered, ?_, ?_⟩
  · intro s hs
    by_cases hne : s = slot
    · rw [hne, hnew]
      exact ⟨by rw [hnow]; exact hdue, by rw [hseq]; exact Nat.lt_succ_self _, hcall⟩
    · rw [hold s hne]
      have hsound := hv.sound s (((hlive s).mp hs).resolve_right hne)
      exact ⟨hnow ▸ hsound.due, by have := hsound.sequence; omega, hsound.callback⟩
  · intro s s' hs hs' he
    by_cases hne : s = slot
    · by_cases hne' : s' = slot
      · rw [hne, hne']
      · obtain ⟨hlt, _⟩ := hother s' (((hlive s').mp hs').resolve_right hne') hne'
        rw [hne, hslot] at he
        omega
    · obtain ⟨hlt, heq⟩ := hother s (((hlive s).mp hs).resolve_right hne) hne
      by_cases hne' : s' = slot
      · rw [hne', hslot] at he
        omega
      · obtain ⟨_, heq'⟩ := hother s' (((hlive s').mp hs').resolve_right hne') hne'
        apply hv.distinct s s' (((hlive s).mp hs).resolve_right hne)
          (((hlive s').mp hs').resolve_right hne')
        rw [← heq, ← heq', he]

theorem timeline_insert_pending (hv : t.Valid) (hfree : timeline_free_slot t = some slot)
    (e : Entry κ χ) :
    (timeline_insert t slot due_tick callback context).Pending e ↔
      t.Pending e ∨ e = inserted t due_tick callback context := by
  obtain ⟨_, _, _, _, hnew, hold, hlive⟩ :=
    timeline_insert_spec due_tick callback context hv hfree
  have hdead := timeline_free_slot_idle hfree
  constructor
  · rintro ⟨s, hs, rfl⟩
    by_cases hne : s = slot
    · right
      rw [hne, hnew]
    · left
      exact ⟨s, ((hlive s).mp hs).resolve_right hne, (hold s hne).symm⟩
  · rintro (⟨s, hs, rfl⟩ | rfl)
    · exact ⟨s, (hlive s).mpr (Or.inl hs), hold s fun he => hdead (he ▸ hs)⟩
    · exact ⟨slot, (hlive slot).mpr (Or.inr rfl), hnew⟩

end Insert

/-! ## Taking an event out -/

section Drop

variable {t : Timeline κ χ} {index : ℕ}

theorem timeline_drop_spec (hv : t.Valid) (hi : index < t.heap_size) :
    let t' := timeline_drop t (t.heap index) index
    t'.now = t.now ∧ t'.next_sequence = t.next_sequence ∧
      t'.Linked (fun s => t.live s ∧ s ≠ t.heap index) ∧ Ordered t'.key t'.heap_size ∧
      (∀ s, s ≠ t.heap index → (t'.events s).entry = (t.events s).entry) ∧
      ∀ s, t'.live s ↔ t.live s ∧ s ≠ t.heap index := by
  have hs := timeline_heap_remove_sifted t index hv.linked hv.ordered hi
  unfold timeline_drop
  dsimp only
  generalize timeline_heap_remove t index = u at hs
  have hother : ∀ s, s ≠ t.heap index →
      Function.update u.events (t.heap index)
        { u.events (t.heap index) with active := false, callback := none, context := none } s =
      u.events s := fun s hne => Function.update_of_ne hne _ _
  have hpos : ∀ i, i < u.heap_size → u.heap i ≠ t.heap index := fun i hi' =>
    (hs.linked.slot i hi').1.2
  refine ⟨hs.rearranged.now, hs.rearranged.next_sequence, ⟨?_, ?_⟩, ?_, ?_, ?_⟩
  · intro i hi'
    unfold Timeline.at_heap
    dsimp only at hi' ⊢
    rw [hother _ (hpos i hi')]
    exact hs.linked.slot i hi'
  · intro s hlive
    dsimp only
    rw [hother s hlive.2]
    exact hs.linked.place s hlive
  · apply hs.ordered.congr
    intro i hi'
    exact congrArg TimelineEvent.key (hother _ (hpos i hi'))
  · intro s hne
    rw [hother s hne, hs.rearranged.entry s]
  · intro s
    unfold Timeline.live
    dsimp only
    by_cases hne : s = t.heap index
    · rw [hne, Function.update_self]
      simp
    · rw [hother s hne, hs.rearranged.active s]
      simp [hne]

theorem timeline_drop_valid (hv : t.Valid) (hi : index < t.heap_size) :
    (timeline_drop t (t.heap index) index).Valid := by
  obtain ⟨hnow, hseq, hlinked, hordered, hold, hlive⟩ := timeline_drop_spec hv hi
  generalize timeline_drop t (t.heap index) index = t' at *
  have hl : t'.live = fun s => t.live s ∧ s ≠ t.heap index :=
    funext fun s => propext (hlive s)
  refine ⟨hl ▸ hlinked, hordered, ?_, ?_⟩
  · intro s hs
    obtain ⟨hs, hne⟩ := (hlive s).mp hs
    rw [hold s hne]
    have hsound := hv.sound s hs
    exact ⟨hnow ▸ hsound.due, hseq ▸ hsound.sequence, hsound.callback⟩
  · intro s s' hs hs' he
    obtain ⟨hs, hne⟩ := (hlive s).mp hs
    obtain ⟨hs', hne'⟩ := (hlive s').mp hs'
    have h₁ : (t'.events s).sequence = (t.events s).sequence :=
      congrArg Entry.sequence (hold s hne)
    have h₂ : (t'.events s').sequence = (t.events s').sequence :=
      congrArg Entry.sequence (hold s' hne')
    exact hv.distinct s s' hs hs' (by rw [← h₁, ← h₂, he])

theorem timeline_drop_pending (hv : t.Valid) (hi : index < t.heap_size) (e : Entry κ χ) :
    (timeline_drop t (t.heap index) index).Pending e ↔
      t.Pending e ∧ e ≠ (t.at_heap index).entry := by
  obtain ⟨_, _, _, _, hold, hlive⟩ := timeline_drop_spec hv hi
  have hroot := (hv.linked.slot index hi).1
  constructor
  · rintro ⟨s, hs, rfl⟩
    obtain ⟨hs, hne⟩ := (hlive s).mp hs
    rw [hold s hne]
    refine ⟨⟨s, hs, rfl⟩, fun he => hne ?_⟩
    exact hv.distinct s _ hs hroot (congrArg Entry.sequence he)
  · rintro ⟨⟨s, hs, rfl⟩, hne⟩
    have hs' : s ≠ t.heap index := fun he => hne (he ▸ rfl)
    exact ⟨s, (hlive s).mpr ⟨hs, hs'⟩, hold s hs'⟩

end Drop

/-! ## Accounts -/

/-- The record says that `e` left the table: it was cancelled or invoked. -/
def Gone (log : List (Happening κ χ)) (e : Entry κ χ) : Prop :=
  Happening.cancelled e ∈ log ∨ ∃ now argument, Happening.invoked e now argument ∈ log

/-- `log` accounts for everything that happened between `t` and `t'`. -/
structure Account (t t' : Timeline κ χ) (log : List (Happening κ χ)) : Prop where
  valid : t'.Valid
  now : t.now ≤ t'.now
  next_sequence : t.next_sequence ≤ t'.next_sequence
  fresh : ∀ e, Happening.scheduled e ∈ log →
    t.now ≤ e.due_tick ∧ t.next_sequence ≤ e.sequence ∧ e.sequence < t'.next_sequence
  gone : ∀ e, Gone log e → t.Pending e ∨ Happening.scheduled e ∈ log
  once : ∀ e now argument, Happening.cancelled e ∈ log →
    Happening.invoked e now argument ∉ log
  pending : ∀ e, t'.Pending e ↔
    (t.Pending e ∨ Happening.scheduled e ∈ log) ∧ ¬ Gone log e

/-- Nothing happened. -/
theorem Account.refl {t : Timeline κ χ} (hv : t.Valid) : Account t t [] where
  valid := hv
  now := le_rfl
  next_sequence := le_rfl
  fresh e h := by simp at h
  gone e h := by simp [Gone] at h
  once e _ _ h := by simp at h
  pending e := by simp [Gone]

theorem Gone.append {l l' : List (Happening κ χ)} {e : Entry κ χ} :
    Gone (l ++ l') e ↔ Gone l e ∨ Gone l' e := by
  unfold Gone
  simp only [List.mem_append, exists_or]
  exact or_or_or_comm

section Compose

variable {t t' t'' : Timeline κ χ} {l l' : List (Happening κ χ)}

/-- What an account knows was given its sequence number before the account ends. -/
theorem Account.known_lt (hv : t.Valid) (h : Account t t' l) {e : Entry κ χ}
    (he : t.Pending e ∨ Happening.scheduled e ∈ l) : e.sequence < t'.next_sequence := by
  rcases he with hp | hs
  · exact lt_of_lt_of_le (hv.pending_sound hp).sequence h.next_sequence
  · exact (h.fresh e hs).2.2

/-- What a later account schedules was unknown to the earlier one. -/
theorem Account.later_unknown (hv : t.Valid) (h : Account t t' l) (h' : Account t' t'' l')
    {e : Entry κ χ} (hs : Happening.scheduled e ∈ l') : ¬ Gone l e := by
  intro hg
  have hlt := h.known_lt hv (h.gone e hg)
  have hge := (h'.fresh e hs).2.1
  omega

/-- What went before does not go again. -/
theorem Account.not_gone_twice (hv : t.Valid) (h : Account t t' l) (h' : Account t' t'' l')
    {e : Entry κ χ} (hg : Gone l e) : ¬ Gone l' e := by
  intro hg'
  rcases h'.gone e hg' with hp | hs
  · exact ((h.pending e).mp hp).2 hg
  · exact h.later_unknown hv h' hs hg

theorem Account.trans (hv : t.Valid) (h : Account t t' l) (h' : Account t' t'' l') :
    Account t t'' (l ++ l') where
  valid := h'.valid
  now := h.now.trans h'.now
  next_sequence := h.next_sequence.trans h'.next_sequence
  fresh e he := by
    rcases List.mem_append.mp he with hs | hs
    · obtain ⟨hd, hq, hlt⟩ := h.fresh e hs
      exact ⟨hd, hq, lt_of_lt_of_le hlt h'.next_sequence⟩
    · obtain ⟨hd, hq, hlt⟩ := h'.fresh e hs
      exact ⟨h.now.trans hd, h.next_sequence.trans hq, hlt⟩
  gone e he := by
    rw [List.mem_append]
    rcases Gone.append.mp he with hg | hg
    · exact (h.gone e hg).imp_right Or.inl
    · rcases h'.gone e hg with hp | hs
      · exact ((h.pending e).mp hp).1.imp_right Or.inl
      · exact Or.inr (Or.inr hs)
  once e now argument hc hi := by
    rcases List.mem_append.mp hc with hc | hc <;> rcases List.mem_append.mp hi with hi | hi
    · exact h.once e now argument hc hi
    · exact h.not_gone_twice hv h' (Or.inl hc) (Or.inr ⟨now, argument, hi⟩)
    · exact h.not_gone_twice hv h' (Or.inr ⟨now, argument, hi⟩) (Or.inl hc)
    · exact h'.once e now argument hc hi
  pending e := by
    rw [h'.pending e, h.pending e, Gone.append, List.mem_append]
    constructor
    · rintro ⟨hp | hs, hg'⟩
      · exact ⟨hp.1.imp_right Or.inl, fun hg => hg.elim hp.2 hg'⟩
      · exact ⟨Or.inr (Or.inr hs), fun hg => hg.elim (h.later_unknown hv h' hs) hg'⟩
    · rintro ⟨hp | hs | hs, hg⟩
      · exact ⟨Or.inl ⟨Or.inl hp, fun h => hg (Or.inl h)⟩, fun h => hg (Or.inr h)⟩
      · exact ⟨Or.inl ⟨Or.inr hs, fun h => hg (Or.inl h)⟩, fun h => hg (Or.inr h)⟩
      · exact ⟨Or.inr hs, fun h => hg (Or.inr h)⟩

end Compose

/-! ## Each operation accounts for itself -/

theorem timeline_schedule_account {t : Timeline κ χ} (hv : t.Valid) (due_tick : ℕ)
    (callback : Option κ) (context : Option χ) :
    Account t (timeline_schedule t due_tick callback context).2.2
      (schedule_record t due_tick callback context) := by
  unfold schedule_record timeline_schedule
  by_cases hbad : callback.isNone ∨ due_tick < t.now ∨ t.next_sequence = uint64_max
  · rw [if_pos hbad]
    exact Account.refl hv
  · rw [if_neg hbad]
    cases hfree : timeline_free_slot t with
    | none => exact Account.refl hv
    | some slot =>
      push Not at hbad
      obtain ⟨hcall, hdue, _⟩ := hbad
      have hspec := timeline_insert_spec due_tick callback context hv hfree
      dsimp only
      rw [if_pos rfl]
      refine ⟨?_, hspec.1.ge, by rw [hspec.2.1]; omega, ?_, ?_, ?_, ?_⟩
      · exact timeline_insert_valid hv hfree hdue (Option.isSome_iff_ne_none.mpr (by simpa using hcall))
      · intro e he
        simp only [List.mem_singleton, Happening.scheduled.injEq] at he
        rw [he, hspec.2.1]
        exact ⟨hdue, le_rfl, Nat.lt_succ_self _⟩
      · intro e he
        simp [Gone] at he
      · intro e _ _ he
        simp at he
      · intro e
        rw [timeline_insert_pending hv hfree]
        simp [Gone, inserted]

/-- Dropping the event at a position, for one of the two reasons. -/
theorem timeline_drop_account {t : Timeline κ χ} (hv : t.Valid) {index : ℕ}
    (hi : index < t.heap_size) :
    Account t (timeline_drop t (t.heap index) index) [.cancelled (t.at_heap index).entry] := by
  have hspec := timeline_drop_spec hv hi
  refine ⟨timeline_drop_valid hv hi, hspec.1.ge, hspec.2.1.ge, ?_, ?_, ?_, ?_⟩
  · intro e he
    simp at he
  · intro e he
    simp only [Gone, List.mem_singleton, Happening.cancelled.injEq, reduceCtorEq, exists_false,
      or_false] at he
    rw [he]
    exact Or.inl ⟨_, (hv.linked.slot index hi).1, rfl⟩
  · intro e _ _ _ he
    simp at he
  · intro e
    rw [timeline_drop_pending hv hi]
    simp [Gone]

theorem timeline_cancel_account {t : Timeline κ χ} (hv : t.Valid) (token : TimelineToken) :
    Account t (timeline_cancel t token).2 (cancel_record t token) := by
  unfold cancel_record timeline_cancel
  by_cases hslot : event_capacity ≤ token.slot
  · rw [if_pos hslot]
    exact Account.refl hv
  · rw [if_neg hslot]
    dsimp only
    by_cases hbad : (!(t.events token.slot).active ||
        (t.events token.slot).sequence != token.sequence) = true
    · rw [if_pos hbad]
      exact Account.refl hv
    · rw [if_neg hbad]
      simp only [Bool.or_eq_true, Bool.not_eq_true', bne_iff_ne, ne_eq, not_or,
        Bool.not_eq_false, not_not] at hbad
      obtain ⟨hidx, hplace⟩ := hv.linked.place token.slot ⟨by omega, hbad.1⟩
      have hdrop := timeline_drop_account hv hidx
      unfold Timeline.at_heap at hdrop
      rwa [hplace] at hdrop

/-- One round of the advance: the root goes, and the clock stands at its tick. -/
theorem timeline_take_account {t : Timeline κ χ} (hv : t.Valid) (h0 : 0 < t.heap_size) :
    (timeline_take t).now = (t.at_heap 0).due_tick ∧
      Account t (timeline_take t)
        [.invoked (t.at_heap 0).entry (t.at_heap 0).due_tick (t.at_heap 0).due_tick] := by
  have hroot := hv.pending_sound (hv.root_pending h0)
  have hspec := timeline_drop_spec hv h0
  have hdrop := timeline_drop_valid hv h0
  refine ⟨rfl, ⟨⟨⟨hdrop.linked.slot, hdrop.linked.place⟩, hdrop.ordered, ?_, hdrop.distinct⟩,
    hroot.due, hspec.2.1.ge, ?_, ?_, ?_, ?_⟩⟩
  · intro s hs
    have hsound := hdrop.sound s hs
    refine ⟨?_, hsound.sequence, hsound.callback⟩
    -- what is left has its turn after the root
    have hp := (timeline_drop_pending hv h0 _).mp ⟨s, hs, rfl⟩
    have hle := (hv.root_le hp.1).2
    unfold TimelineEvent.key Entry.key at hle
    rw [Prod.Lex.toLex_le_toLex] at hle
    rcases hle with hlt | ⟨heq, _⟩
    · exact hlt.le
    · exact heq.le
  · intro e he
    simp at he
  · intro e he
    simp only [Gone, List.mem_singleton, reduceCtorEq, Happening.invoked.injEq, false_or] at he
    obtain ⟨_, _, he, _⟩ := he
    rw [he]
    exact Or.inl (hv.root_pending h0)
  · intro e _ _ he
    simp at he
  · intro e
    change (timeline_drop t (t.heap 0) 0).Pending e ↔ _
    rw [timeline_drop_pending hv h0]
    simp [Gone]

theorem timeline_schedule_now {t : Timeline κ χ} (hv : t.Valid) (due_tick : ℕ)
    (callback : Option κ) (context : Option χ) :
    (timeline_schedule t due_tick callback context).2.2.now = t.now := by
  unfold timeline_schedule
  split
  · rfl
  · cases hfree : timeline_free_slot t with
    | none => rfl
    | some slot => exact (timeline_insert_spec _ _ _ hv hfree).1

theorem timeline_cancel_now {t : Timeline κ χ} (hv : t.Valid) (token : TimelineToken) :
    (timeline_cancel t token).2.now = t.now := by
  unfold timeline_cancel
  dsimp only
  split_ifs with hslot hbad
  · rfl
  · rfl
  · simp only [Bool.or_eq_true, Bool.not_eq_true', not_or, Bool.not_eq_false] at hbad
    obtain ⟨hidx, hplace⟩ := hv.linked.place token.slot ⟨by omega, hbad.1⟩
    have hspec := (timeline_drop_spec hv hidx).1
    rwa [hplace] at hspec

/-- Whatever calls a callback makes, the record accounts for them. It invokes nothing, and
the clock stands still. -/
theorem Calls.run_account (c : Calls κ χ σ) {t : Timeline κ χ} (hv : t.Valid) :
    Account t (c.run t).2.1 (c.run t).2.2 ∧ (c.run t).2.1.now = t.now ∧
      ∀ e now argument, Happening.invoked e now argument ∉ (c.run t).2.2 := by
  induction c generalizing t with
  | done owner => exact ⟨Account.refl hv, rfl, by simp [Calls.run]⟩
  | observe k ih => exact ih t hv
  | schedule due_tick callback context k ih =>
    have h := timeline_schedule_account hv due_tick callback context
    obtain ⟨h', hnow, hnone⟩ := ih (timeline_schedule t due_tick callback context).1
      (timeline_schedule t due_tick callback context).2.1 h.valid
    refine ⟨h.trans hv h', hnow.trans (timeline_schedule_now hv ..), ?_⟩
    intro e now argument he
    rcases List.mem_append.mp he with he | he
    · unfold schedule_record at he
      split at he <;> simp at he
    · exact hnone e now argument he
  | cancel token k ih =>
    have h := timeline_cancel_account hv token
    obtain ⟨h', hnow, hnone⟩ := ih (timeline_cancel t token).1 h.valid
    refine ⟨h.trans hv h', hnow.trans (timeline_cancel_now hv token), ?_⟩
    intro e now argument he
    rcases List.mem_append.mp he with he | he
    · unfold cancel_record at he
      split at he <;> simp at he
    · exact hnone e now argument he

/-! ## The advance -/

/-- The event whose callback a line of the record tells of. -/
def Happening.invocation : Happening κ χ → Option (Entry κ χ)
  | .invoked e _ _ => some e
  | _ => none

/-- The events whose callbacks were invoked, in the order of the calls. -/
def invocations (log : List (Happening κ χ)) : List (Entry κ χ) :=
  log.filterMap Happening.invocation

theorem mem_invocations {log : List (Happening κ χ)} {e : Entry κ χ} :
    e ∈ invocations log ↔ ∃ now argument, Happening.invoked e now argument ∈ log := by
  unfold invocations
  rw [List.mem_filterMap]
  constructor
  · rintro ⟨h, hmem, he⟩
    cases h with
    | invoked e' now argument =>
      cases he
      exact ⟨now, argument, hmem⟩
    | scheduled e' => cases he
    | cancelled e' => cases he
  · rintro ⟨now, argument, hmem⟩
    exact ⟨_, hmem, rfl⟩

theorem invocations_none {log : List (Happening κ χ)}
    (h : ∀ e now argument, Happening.invoked e now argument ∉ log) : invocations log = [] := by
  rw [List.eq_nil_iff_forall_not_mem]
  intro e he
  obtain ⟨now, argument, hmem⟩ := mem_invocations.mp he
  exact h e now argument hmem

theorem Entry.key_lt {e e' : Entry κ χ} (hdue : e.due_tick ≤ e'.due_tick)
    (hseq : e.sequence < e'.sequence) : e.key < e'.key := by
  unfold Entry.key
  rw [Prod.Lex.toLex_lt_toLex]
  rcases hdue.lt_or_eq with hlt | heq
  · exact Or.inl hlt
  · exact Or.inr ⟨heq, hseq⟩

/-- A pending event other than the root has its turn after it. -/
theorem Timeline.Valid.root_lt {t : Timeline κ χ} (h : t.Valid) {e : Entry κ χ}
    (hp : t.Pending e) (hne : e ≠ (t.at_heap 0).entry) : (t.at_heap 0).entry.key < e.key := by
  obtain ⟨h0, hle⟩ := h.root_le hp
  refine lt_of_le_of_ne hle fun he => hne ?_
  obtain ⟨s, hs, rfl⟩ := hp
  have hseq : (t.at_heap 0).sequence = (t.events s).sequence := congrArg (fun p => (ofLex p).2) he
  rw [Timeline.at_heap, h.distinct _ _ (h.linked.slot 0 h0).1 hs hseq]

/-- What the loop of the advance leaves. -/
structure Advanced (t : Timeline κ χ) (target_tick : ℕ) (t' : Timeline κ χ)
    (log : List (Happening κ χ)) : Prop where
  account : Account t t' log
  now : t'.now = target_tick
  later : ∀ e, t'.Pending e → target_tick < e.due_tick
  at_due : ∀ e now argument, Happening.invoked e now argument ∈ log →
    now = e.due_tick ∧ argument = e.due_tick ∧ e.due_tick ≤ target_tick
  in_order : (invocations log).Pairwise fun e e' => e.key < e'.key

/-- The loop ends where nothing is due. -/
theorem Advanced.done {t : Timeline κ χ} (hv : t.Valid) {target_tick : ℕ}
    (hnow : t.now ≤ target_tick)
    (hend : t.heap_size = 0 ∨ target_tick < (t.at_heap 0).due_tick) :
    Advanced t target_tick { t with now := target_tick } [] := by
  have hlater : ∀ e, t.Pending e → target_tick < e.due_tick := by
    intro e hp
    obtain ⟨h0, hle⟩ := hv.root_le hp
    have hdue : (t.at_heap 0).due_tick ≤ e.due_tick := by
      unfold TimelineEvent.key Entry.key at hle
      rcases (Prod.Lex.toLex_le_toLex).mp hle with hlt | ⟨heq, _⟩
      · exact hlt.le
      · exact heq.le
    omega
  refine ⟨⟨⟨⟨hv.linked.slot, hv.linked.place⟩, hv.ordered, ?_, hv.distinct⟩, hnow, le_rfl, ?_, ?_, ?_,
    ?_⟩, rfl, hlater, ?_, ?_⟩
  · intro s hs
    have hsound := hv.sound s hs
    exact ⟨(hlater _ ⟨s, hs, rfl⟩).le, hsound.sequence, hsound.callback⟩
  · intro e he
    simp at he
  · intro e he
    simp [Gone] at he
  · intro e _ _ he
    simp at he
  · intro e
    change t.Pending e ↔ _
    simp [Gone]
  · intro e _ _ he
    simp at he
  · exact List.Pairwise.nil

/-- One round in front of the rounds that follow: the root's callback, then the rest. -/
theorem Advanced.round {t tc t' : Timeline κ χ} {called rest : List (Happening κ χ)}
    {target_tick : ℕ} (hv : t.Valid) (h0 : 0 < t.heap_size)
    (hdue : (t.at_heap 0).due_tick ≤ target_tick)
    (hcalled : Account (timeline_take t) tc called) (hnow : tc.now = (t.at_heap 0).due_tick)
    (hnone : ∀ e now argument, Happening.invoked e now argument ∉ called)
    (hrest : Advanced tc target_tick t' rest) :
    Advanced t target_tick t'
      (.invoked (t.at_heap 0).entry (t.at_heap 0).due_tick (t.at_heap 0).due_tick :: called ++
        rest) := by
  obtain ⟨htake, hroot⟩ := timeline_take_account hv h0
  have hfirst := hroot.trans hv hcalled
  have hsound := hv.pending_sound (hv.root_pending h0)
  refine ⟨hfirst.trans hv hrest.account, hrest.now, hrest.later, ?_, ?_⟩
  · intro e now argument he
    rcases List.mem_append.mp he with he | he
    · rcases List.mem_cons.mp he with he | he
      · cases he
        exact ⟨rfl, rfl, hdue⟩
      · exact absurd he (hnone e now argument)
    · exact hrest.at_due e now argument he
  · have hinv : invocations (.invoked (t.at_heap 0).entry (t.at_heap 0).due_tick
        (t.at_heap 0).due_tick :: called ++ rest) = (t.at_heap 0).entry :: invocations rest := by
      have hc := invocations_none hnone
      unfold invocations at hc ⊢
      rw [List.filterMap_append]
      simp only [List.filterMap_cons, Happening.invocation, hc, List.singleton_append]
    rw [hinv, List.pairwise_cons]
    refine ⟨fun e he => ?_, hrest.in_order⟩
    obtain ⟨now, argument, hmem⟩ := mem_invocations.mp he
    -- an event invoked later was pending when the root went, or came in after that
    rcases hrest.account.gone e (Or.inr ⟨now, argument, hmem⟩) with hp | hs
    · obtain ⟨hp | hs, hgone⟩ := (hfirst.pending e).mp hp
      · refine hv.root_lt hp fun he' => hgone (Or.inr ?_)
        rw [he']
        exact ⟨_, _, List.mem_cons_self⟩
      · rcases List.mem_cons.mp hs with hs | hs
        · cases hs
        · obtain ⟨hd, hq, _⟩ := hcalled.fresh e hs
          refine Entry.key_lt (htake.symm.trans_le hd) ?_
          exact lt_of_lt_of_le hsound.sequence (hroot.next_sequence.trans hq)
    · obtain ⟨hd, hq, _⟩ := hrest.account.fresh e hs
      refine Entry.key_lt (hnow.symm.trans_le hd) ?_
      exact lt_of_lt_of_le hsound.sequence (hfirst.next_sequence.trans hq)

theorem timeline_advance_loop_spec (behaviour : κ → Option χ → ℕ → σ → Calls κ χ σ)
    (target_tick fuel : ℕ) (owner : σ) (t : Timeline κ χ) (hv : t.Valid)
    (hnow : t.now ≤ target_tick) (r : σ × Timeline κ χ × List (Happening κ χ))
    (h : timeline_advance_loop behaviour target_tick fuel owner t = some r) :
    Advanced t target_tick r.2.1 r.2.2 := by
  induction fuel generalizing owner t r with
  | zero => cases h
  | succ fuel ih =>
    rw [timeline_advance_loop] at h
    by_cases hend : t.heap_size = 0 ∨ target_tick < (t.at_heap 0).due_tick
    · rw [if_pos hend] at h
      cases h
      exact Advanced.done hv hnow hend
    · rw [if_neg hend] at h
      push Not at hend
      dsimp only at h
      cases hcall : (t.at_heap 0).callback with
      | none =>
        rw [hcall] at h
        cases h
      | some callback =>
        rw [hcall] at h
        obtain ⟨rest, hrest, hr⟩ := Option.map_eq_some_iff.mp h
        have h0 : 0 < t.heap_size := by omega
        obtain ⟨htake, hroot⟩ := timeline_take_account hv h0
        obtain ⟨hcalled, hstill, hnone⟩ := (behaviour callback (t.at_heap 0).context
          (t.at_heap 0).due_tick owner).run_account hroot.valid
        have hlater := ih _ _ hcalled.valid (by omega) rest hrest
        have hround := Advanced.round hv h0 hend.2 hcalled (by rw [hstill, htake]) hnone hlater
        rw [← hr]
        exact hround

/-! ## Runs -/

/-- The timelines that calls from `timeline_reset` on lead to. The devices behind the
callbacks may be in any state at each advance. -/
inductive Reachable (σ : Type) : Timeline κ χ → Prop where
  | reset : Reachable σ timeline_reset
  | schedule {t : Timeline κ χ} (due_tick : ℕ) (callback : Option κ) (context : Option χ)
      (h : Reachable σ t) : Reachable σ (timeline_schedule t due_tick callback context).2.2
  | cancel {t : Timeline κ χ} (token : TimelineToken) (h : Reachable σ t) :
      Reachable σ (timeline_cancel t token).2
  | advance {t : Timeline κ χ} (behaviour : κ → Option χ → ℕ → σ → Calls κ χ σ) (fuel : ℕ)
      (owner : σ) (target_tick : ℕ)
      (r : Status × σ × Timeline κ χ × List (Happening κ χ)) (h : Reachable σ t)
      (hr : timeline_advance behaviour fuel owner t target_tick = some r) :
      Reachable σ r.2.2.1

/-- An advance either refuses a target in the past and does nothing, or is `Advanced`. -/
theorem timeline_advance_cases {t : Timeline κ χ} (hv : t.Valid)
    {behaviour : κ → Option χ → ℕ → σ → Calls κ χ σ} {fuel : ℕ} {owner : σ} {target_tick : ℕ}
    {r : Status × σ × Timeline κ χ × List (Happening κ χ)}
    (hr : timeline_advance behaviour fuel owner t target_tick = some r) :
    (target_tick < t.now ∧ r = (.invalid_argument, owner, t, [])) ∨
      (t.now ≤ target_tick ∧ r.1 = .ok ∧ Advanced t target_tick r.2.2.1 r.2.2.2) := by
  unfold timeline_advance at hr
  by_cases hpast : target_tick < t.now
  · rw [if_pos hpast] at hr
    exact Or.inl ⟨hpast, (Option.some.inj hr).symm⟩
  · rw [if_neg hpast] at hr
    obtain ⟨q, hq, rfl⟩ := Option.map_eq_some_iff.mp hr
    exact Or.inr ⟨by omega, rfl,
      timeline_advance_loop_spec behaviour target_tick fuel owner t hv (by omega) q hq⟩

theorem Reachable.valid {t : Timeline κ χ} (h : Reachable σ t) : t.Valid := by
  induction h with
  | reset => exact timeline_reset_valid
  | schedule due_tick callback context _ ih =>
    exact (timeline_schedule_account ih due_tick callback context).valid
  | cancel token _ ih => exact (timeline_cancel_account ih token).valid
  | advance behaviour fuel owner target_tick r _ hr ih =>
    rcases timeline_advance_cases ih hr with ⟨_, he⟩ | ⟨_, _, hadv⟩
    · rw [he]
      exact ih
    · exact hadv.account.valid

/-- What an advance to a target not in the past does, after any run: it invokes exactly the
events with their turn up to the target that were pending or came in and were not cancelled,
each once, in the order of their turns and with the clock at their tick. Then nothing due is
left, `next_due` is the least tick of the slots in use, and `pending_count` the size of the
heap. -/
theorem timeline_advance_spec (behaviour : κ → Option χ → ℕ → σ → Calls κ χ σ) (fuel : ℕ)
    (owner : σ) (t : Timeline κ χ) (target_tick : ℕ)
    (r : Status × σ × Timeline κ χ × List (Happening κ χ)) (hreach : Reachable σ t)
    (hr : timeline_advance behaviour fuel owner t target_tick = some r) :
    let t' := r.2.2.1
    let log := r.2.2.2
    (r.1 = .ok ↔ t.now ≤ target_tick) ∧
      (r.1 ≠ .ok → t' = t ∧ log = []) ∧
      (r.1 = .ok → t'.now = target_tick ∧
        (∀ e, e ∈ invocations log ↔ (t.Pending e ∨ .scheduled e ∈ log) ∧
          e.due_tick ≤ target_tick ∧ .cancelled e ∉ log) ∧
        (invocations log).Pairwise (fun e e' => e.key < e'.key) ∧
        (∀ e now argument, .invoked e now argument ∈ log →
          now = e.due_tick ∧ argument = e.due_tick)) ∧
      ((timeline_next_due t' = (.invalid_state, none) ∧ ∀ e, ¬ t'.Pending e) ∨
        ∃ d, timeline_next_due t' = (.ok, some d) ∧
          IsLeast { d | ∃ e, t'.Pending e ∧ e.due_tick = d } d) ∧
      timeline_pending_count t' = t'.heap_size := by
  have hv := hreach.valid
  have hv' := (hreach.advance behaviour fuel owner target_tick r hr).valid
  intro t' log
  have hafter := And.intro (timeline_next_due_least hv') (timeline_pending_count_eq hv')
  rcases timeline_advance_cases hv hr with ⟨hpast, he⟩ | ⟨hnow, hok, hadv⟩
  · have h₁ : r.1 = .invalid_argument := congrArg Prod.fst he
    have h₂ : t' = t := congrArg (fun q => q.2.2.1) he
    have h₃ : log = [] := congrArg (fun q => q.2.2.2) he
    refine ⟨?_, fun _ => ⟨h₂, h₃⟩, ?_, hafter⟩
    · rw [h₁]
      refine iff_of_false (by decide) (by omega)
    · intro h
      rw [h₁] at h
      cases h
  · refine ⟨iff_of_true hok hnow, fun h => absurd hok h, fun _ => ?_, hafter⟩
    refine ⟨hadv.now, ?_, hadv.in_order, fun e now argument h =>
      ⟨(hadv.at_due e now argument h).1, (hadv.at_due e now argument h).2.1⟩⟩
    intro e
    rw [mem_invocations]
    constructor
    · rintro ⟨now, argument, hmem⟩
      refine ⟨hadv.account.gone e (Or.inr ⟨now, argument, hmem⟩),
        (hadv.at_due e now argument hmem).2.2, fun hc => ?_⟩
      exact hadv.account.once e now argument hc hmem
    · rintro ⟨hknown, hdue, hkept⟩
      by_contra hnot
      have hp := (hadv.account.pending e).mpr ⟨hknown, fun hg => hg.elim hkept hnot⟩
      have := hadv.later e hp
      omega

/-- Two pending events, at ticks 5 and 3. -/
def two_pending : Timeline Bool Unit :=
  (timeline_schedule (timeline_schedule timeline_reset 5 (some false) none).2.2
    3 (some true) none).2.2

/-- The callback of the second event schedules a third one and cancels the first. -/
def replacing : Bool → Option Unit → ℕ → Unit → Calls Bool Unit Unit
  | true, _, due_tick, owner =>
      .schedule (due_tick + 1) (some false) none fun _ _ =>
        .cancel ⟨0, 0⟩ fun _ => .done owner
  | false, _, _, owner => .done owner

/-- The events at ticks 3 and 4 are invoked; the one at tick 5 was cancelled before. -/
theorem timeline_advance_replacing :
    ∃ r, timeline_advance replacing 5 () two_pending 10 = some r ∧
      (invocations r.2.2.2).map (fun e => (e.due_tick, e.sequence)) = [(3, 1), (4, 2)] ∧
      (∀ e, e ∈ invocations r.2.2.2 ↔ (two_pending.Pending e ∨ .scheduled e ∈ r.2.2.2) ∧
        e.due_tick ≤ 10 ∧ .cancelled e ∉ r.2.2.2) ∧
      timeline_pending_count r.2.2.1 = r.2.2.1.heap_size := by
  have hsome : (timeline_advance replacing 5 () two_pending 10).isSome = true := by
    decide +kernel
  obtain ⟨r, hr⟩ := Option.isSome_iff_exists.mp hsome
  have hreach : Reachable Unit two_pending := (Reachable.reset.schedule ..).schedule ..
  obtain ⟨hok, _, hspec, _, hcount⟩ :=
    timeline_advance_spec replacing 5 () two_pending 10 r hreach hr
  have hlist : ((timeline_advance replacing 5 () two_pending 10).map fun r =>
      (invocations r.2.2.2).map fun e => (e.due_tick, e.sequence)) = some [(3, 1), (4, 2)] := by
    decide +kernel
  rw [hr] at hlist
  exact ⟨r, hr, Option.some.inj hlist, (hspec (hok.mpr (by decide +kernel))).2.1, hcount⟩

end Nxvm.Machine
