/-
The exchange of frames between a producer and a consumer (`lib/kvm-base/frame_exchange.c`).

Four buffers rotate through the roles of the writer, the pending, the processing and the
displayed frame. Every function runs under the lock of the exchange, so an interleaving of
the producer, the consumer and the display is a list of calls. A publication takes the
writer's buffer and looks for another one among those without a role; that one is left over
is a count of roles.

`φ` is what is in a buffer, which belongs to the caller.
-/
import Mathlib.Data.Fintype.Option
import Mathlib.Data.List.FinRange
import Mathlib.Logic.Function.Basic
import Mathlib.Tactic.Common
import Nxvm.Lib.Table

set_option autoImplicit false

namespace Nxvm.Kvm

/-! ## The exchange -/

/-- A buffer: an index into `slots`. -/
abbrev Slot := Fin 4

/-- `kvm_frame_exchange`: the buffers, and the buffer that has each role. -/
structure FrameExchange (φ : Type) where
  slots : Slot → φ
  writer : Option Slot
  pending : Option Slot
  processing : Option Slot
  displayed : Option Slot
  latest : Option Slot

/-- `kvm_frame_exchange_retire`: what the leaf makes of the payload of a free buffer, beside
the latest publication. -/
abbrev Retire (φ : Type) := Option (φ → Option φ → φ)

section Exchange

variable {φ : Type} (retire : Retire φ)

/-- The producer or the consumer has the buffer. -/
def FrameExchange.held (exchange : FrameExchange φ) (slot : Slot) : Bool :=
  decide (exchange.pending = some slot) || decide (exchange.processing = some slot) ||
    decide (exchange.displayed = some slot)

/-- One round of the loop that retires the buffers without a role. -/
def retire_slot (exchange : FrameExchange φ) (slot : Slot) : FrameExchange φ :=
  match retire with
  | none => exchange
  | some f =>
    if exchange.writer ≠ some slot ∧ exchange.held slot = false then
      { exchange with
        slots := Function.update exchange.slots slot
          (f (exchange.slots slot) (exchange.latest.map exchange.slots)) }
    else exchange

def frame_exchange_retire_free (exchange : FrameExchange φ) : FrameExchange φ :=
  (List.finRange 4).foldl (retire_slot retire) exchange

/-- A created exchange, over the buffers as they were allocated. -/
def frame_exchange_create (slots : Slot → φ) : FrameExchange φ :=
  { slots, writer := some 0, pending := none, processing := none, displayed := none,
    latest := none }

def frame_exchange_publish (exchange : FrameExchange φ) : FrameExchange φ :=
  let exchange := frame_exchange_retire_free retire
    { exchange with latest := exchange.writer, pending := exchange.writer, writer := none }
  match (List.finRange 4).find? fun slot => !exchange.held slot with
  | some slot => { exchange with writer := some slot }
  | none => exchange

/-- The frame the consumer is given, the one that was displayed before it, and the exchange. -/
def frame_exchange_take (exchange : FrameExchange φ) :
    Option Slot × Option Slot × FrameExchange φ :=
  if exchange.processing = none then
    (exchange.pending, if exchange.pending ≠ none then exchange.displayed else none,
      { exchange with processing := exchange.pending, pending := none })
  else (none, none, exchange)

/-- The end of a take, before the free buffers are retired. -/
def finish_processing (exchange : FrameExchange φ) (success : Bool) : FrameExchange φ :=
  if exchange.processing ≠ none then
    { exchange with
      displayed := if success then exchange.processing else exchange.displayed
      pending :=
        if !success ∧ exchange.latest = exchange.processing then exchange.processing
        else exchange.pending
      processing := none }
  else exchange

def frame_exchange_finish (exchange : FrameExchange φ) (success : Bool) : FrameExchange φ :=
  frame_exchange_retire_free retire (finish_processing exchange success)

def frame_exchange_redraw (exchange : FrameExchange φ) : FrameExchange φ :=
  if exchange.pending = none ∧ exchange.latest ≠ none then
    { exchange with
      pending :=
        if exchange.processing ≠ none then exchange.processing else exchange.displayed }
  else exchange

def frame_exchange_detach (exchange : FrameExchange φ) : FrameExchange φ :=
  frame_exchange_retire_free retire
    { exchange with processing := none, displayed := none, pending := exchange.latest }

def frame_exchange_invalidate (exchange : FrameExchange φ) : FrameExchange φ :=
  frame_exchange_retire_free retire { exchange with pending := none, latest := none }

/-! ## Interleavings -/

/-- A call, or the producer drawing a frame into its buffer. -/
inductive ExchangeCall (φ : Type) where
  | produce (frame : φ)
  | publish
  | take
  | finish (success : Bool)
  | redraw
  | detach
  | invalidate
  deriving DecidableEq, Repr

/-- The producer writes to `kvm_frame_exchange_writer()`, outside the lock. -/
def produce (exchange : FrameExchange φ) (frame : φ) : FrameExchange φ :=
  match exchange.writer with
  | some slot => { exchange with slots := Function.update exchange.slots slot frame }
  | none => exchange

def exchange_step (exchange : FrameExchange φ) : ExchangeCall φ → FrameExchange φ
  | .produce frame => produce exchange frame
  | .publish => frame_exchange_publish retire exchange
  | .take => (frame_exchange_take exchange).2.2
  | .finish success => frame_exchange_finish retire exchange success
  | .redraw => frame_exchange_redraw exchange
  | .detach => frame_exchange_detach retire exchange
  | .invalidate => frame_exchange_invalidate retire exchange

def exchange_run (exchange : FrameExchange φ) (calls : List (ExchangeCall φ)) :
    FrameExchange φ :=
  calls.foldl (exchange_step retire) exchange

/-- The frame of the last publication that no invalidation followed. -/
def last_published (exchange : FrameExchange φ) (last : Option φ) :
    List (ExchangeCall φ) → Option φ
  | [] => last
  | call :: calls =>
    last_published (exchange_step retire exchange call)
      (match call with
        | .publish => exchange.writer.map exchange.slots
        | .invalidate => none
        | _ => last) calls

/-! ## Roles -/

/-- Who may have which buffer. The latest publication is the next one to be taken; once it was
taken it is processed, and once it was processed it is displayed. -/
structure Roles (exchange : FrameExchange φ) : Prop where
  writer : ∃ slot, exchange.writer = some slot ∧ exchange.held slot = false
  unpublished : exchange.latest = none → exchange.pending = none
  published : ∀ slot, exchange.latest = some slot → exchange.pending = some slot ∨
    exchange.pending = none ∧ (exchange.processing = some slot ∨
      exchange.processing = none ∧ exchange.displayed = some slot)

variable {retire}

/-- The buffers with other roles than the writer's do not count all of them. -/
theorem exists_free (exchange : FrameExchange φ) : ∃ slot, exchange.held slot = false := by
  have hfour : ∀ pending processing displayed : Option Slot, ∃ slot,
      (decide (pending = some slot) || decide (processing = some slot) ||
        decide (displayed = some slot)) = false := by decide
  exact hfour exchange.pending exchange.processing exchange.displayed

theorem Roles.latest_held {exchange : FrameExchange φ} (h : Roles exchange) {slot : Slot}
    (hlatest : exchange.latest = some slot) : exchange.held slot = true := by
  rcases h.published slot hlatest with hslot | ⟨-, hslot | ⟨-, hslot⟩⟩ <;>
    simp [FrameExchange.held, hslot]

theorem Roles.writer_free {exchange : FrameExchange φ} (h : Roles exchange) {slot : Slot}
    (hheld : exchange.held slot = true) : exchange.writer ≠ some slot := by
  obtain ⟨writer, hwriter, hfree⟩ := h.writer
  intro hslot
  rw [hwriter, Option.some.injEq] at hslot
  rw [hslot, hheld] at hfree
  exact Bool.noConfusion hfree

/-! ## Retiring -/

/-- The two exchanges agree in the roles, and in what is in the buffers that have one. -/
structure Retired (before after : FrameExchange φ) : Prop where
  writer : after.writer = before.writer
  pending : after.pending = before.pending
  processing : after.processing = before.processing
  displayed : after.displayed = before.displayed
  latest : after.latest = before.latest
  kept : ∀ slot, before.held slot = true ∨ before.writer = some slot →
    after.slots slot = before.slots slot

theorem Retired.refl (exchange : FrameExchange φ) : Retired exchange exchange :=
  ⟨rfl, rfl, rfl, rfl, rfl, fun _ _ => rfl⟩

theorem Retired.held {before after : FrameExchange φ} (h : Retired before after) (slot : Slot) :
    after.held slot = before.held slot := by
  unfold FrameExchange.held
  rw [h.pending, h.processing, h.displayed]

theorem Retired.trans {before mid after : FrameExchange φ} (h : Retired before mid)
    (h' : Retired mid after) : Retired before after where
  writer := h'.writer.trans h.writer
  pending := h'.pending.trans h.pending
  processing := h'.processing.trans h.processing
  displayed := h'.displayed.trans h.displayed
  latest := h'.latest.trans h.latest
  kept slot hslot :=
    (h'.kept slot (by rw [h.held, h.writer]; exact hslot)).trans (h.kept slot hslot)

theorem retire_slot_retired (exchange : FrameExchange φ) (slot : Slot) :
    Retired exchange (retire_slot retire exchange slot) := by
  unfold retire_slot
  cases retire with
  | none => exact Retired.refl exchange
  | some f =>
    dsimp only
    split_ifs with hfree
    · refine ⟨rfl, rfl, rfl, rfl, rfl, fun other hother => Function.update_of_ne ?_ _ _⟩
      rintro rfl
      rcases hother with hheld | hwriter
      · exact Bool.noConfusion (hheld.symm.trans hfree.2)
      · exact hfree.1 hwriter
    · exact Retired.refl exchange

/-- Retiring reaches no buffer that has a role. -/
theorem retire_free_retired (exchange : FrameExchange φ) :
    Retired exchange (frame_exchange_retire_free retire exchange) := by
  unfold frame_exchange_retire_free
  induction List.finRange 4 generalizing exchange with
  | nil => exact Retired.refl exchange
  | cons slot slots ih => exact (retire_slot_retired exchange slot).trans (ih _)

theorem Roles.retired {before after : FrameExchange φ} (h : Roles before)
    (hretired : Retired before after) : Roles after := by
  obtain ⟨slot, hwriter, hfree⟩ := h.writer
  refine ⟨⟨slot, hretired.writer.trans hwriter, (hretired.held slot).trans hfree⟩, ?_, ?_⟩
  · rw [hretired.latest, hretired.pending]
    exact h.unpublished
  · rw [hretired.latest, hretired.pending, hretired.processing, hretired.displayed]
    exact h.published

/-! ## One call -/

theorem create_roles (slots : Slot → φ) : Roles (frame_exchange_create slots) :=
  ⟨⟨0, rfl, rfl⟩, fun _ => rfl, fun slot hslot => by simp [frame_exchange_create] at hslot⟩

/-- Drawing reaches the writer's buffer only. -/
theorem produce_retired {exchange : FrameExchange φ} {slot : Slot}
    (hwriter : exchange.writer = some slot) (frame : φ) :
    produce exchange frame =
      { exchange with slots := Function.update exchange.slots slot frame } := by
  unfold produce
  rw [hwriter]

/-- A publication makes the writer's buffer the pending one, retires, and chooses a buffer
that nobody has. -/
theorem publish_spec (exchange : FrameExchange φ) :
    ∃ after free, frame_exchange_publish retire exchange = { after with writer := some free } ∧
      after.held free = false ∧
      Retired { exchange with
        latest := exchange.writer, pending := exchange.writer, writer := none } after := by
  refine ⟨frame_exchange_retire_free retire { exchange with
    latest := exchange.writer, pending := exchange.writer, writer := none }, ?_⟩
  have hretired : Retired _ (frame_exchange_retire_free retire { exchange with
      latest := exchange.writer, pending := exchange.writer, writer := none }) :=
    retire_free_retired _
  unfold frame_exchange_publish
  dsimp only
  generalize frame_exchange_retire_free retire _ = after at hretired ⊢
  obtain ⟨free, hsome⟩ : ∃ free,
      ((List.finRange 4).find? fun slot => !after.held slot) = some free := by
    obtain ⟨slot, hfree⟩ := exists_free after
    refine Option.isSome_iff_exists.mp (List.find?_isSome.mpr ⟨slot, List.mem_finRange slot, ?_⟩)
    rw [hfree]
    rfl
  have hfree : after.held free = false := by simpa using List.find?_some hsome
  rw [hsome]
  exact ⟨free, rfl, hfree, hretired⟩

theorem publish_roles {exchange : FrameExchange φ} (h : Roles exchange) :
    Roles (frame_exchange_publish retire exchange) := by
  obtain ⟨after, free, hpublish, hfree, hretired⟩ := publish_spec exchange
  obtain ⟨slot, hwriter, -⟩ := h.writer
  rw [hpublish]
  refine ⟨⟨free, rfl, hfree⟩, fun hlatest => ?_, fun other hlatest => Or.inl ?_⟩
  · rw [hretired.latest, hwriter] at hlatest
    exact absurd hlatest (Option.some_ne_none slot)
  · rw [hretired.latest] at hlatest
    exact hretired.pending.trans hlatest

theorem take_roles {exchange : FrameExchange φ} (h : Roles exchange) :
    Roles (frame_exchange_take exchange).2.2 := by
  obtain ⟨slot, hwriter, hfree⟩ := h.writer
  unfold frame_exchange_take
  by_cases hidle : exchange.processing = none
  · rw [if_pos hidle]
    refine ⟨⟨slot, hwriter, ?_⟩, fun _ => rfl, fun other hlatest => Or.inr ⟨rfl, ?_⟩⟩
    · simp only [FrameExchange.held, hidle] at hfree ⊢
      simpa using hfree
    · rcases h.published other hlatest with hpending | ⟨hnone, hslot | ⟨-, hdisplayed⟩⟩
      · exact Or.inl hpending
      · rw [hidle] at hslot
        exact absurd hslot.symm (Option.some_ne_none other)
      · exact Or.inr ⟨hnone, hdisplayed⟩
  · rw [if_neg hidle]
    exact h

theorem finish_processing_roles {exchange : FrameExchange φ} (h : Roles exchange)
    (success : Bool) : Roles (finish_processing exchange success) := by
  obtain ⟨slot, hwriter, hfree⟩ := h.writer
  simp only [FrameExchange.held, Bool.or_eq_false_iff, decide_eq_false_iff_not] at hfree
  unfold finish_processing
  by_cases hbusy : exchange.processing = none
  · rw [if_neg (not_not.mpr hbusy)]
    exact h
  rw [if_pos hbusy]
  cases success with
  | true =>
    refine ⟨⟨slot, hwriter, ?_⟩, h.unpublished, fun other hlatest => ?_⟩
    · simpa [FrameExchange.held] using And.intro hfree.1.1 hfree.1.2
    · rcases h.published other hlatest with hpending | ⟨hnone, hslot | ⟨hidle, -⟩⟩
      · exact Or.inl hpending
      · exact Or.inr ⟨hnone, Or.inr ⟨rfl, hslot⟩⟩
      · exact absurd hidle hbusy
  | false =>
    by_cases hrequeue : exchange.latest = exchange.processing
    · simp only [Bool.not_false, hrequeue, and_self, if_true, Bool.false_eq_true, if_false]
      refine ⟨⟨slot, hwriter, ?_⟩, fun hlatest => ?_, fun other hlatest => Or.inl ?_⟩
      · simpa [FrameExchange.held] using And.intro hfree.1.2 hfree.2
      · exact hlatest
      · exact hlatest
    · simp only [Bool.not_false, hrequeue, and_false, if_false, Bool.false_eq_true]
      refine ⟨⟨slot, hwriter, ?_⟩, h.unpublished, fun other hlatest => ?_⟩
      · simpa [FrameExchange.held] using And.intro hfree.1.1 hfree.2
      · rcases h.published other hlatest with hpending | ⟨-, hslot | ⟨hidle, -⟩⟩
        · exact Or.inl hpending
        · exact absurd (hlatest.trans hslot.symm) hrequeue
        · exact absurd hidle hbusy

theorem redraw_roles {exchange : FrameExchange φ} (h : Roles exchange) :
    Roles (frame_exchange_redraw exchange) := by
  obtain ⟨slot, hwriter, hfree⟩ := h.writer
  unfold frame_exchange_redraw
  split_ifs with hagain hbusy
  · refine ⟨⟨slot, hwriter, ?_⟩, fun hlatest => absurd hlatest hagain.2, fun other hlatest => ?_⟩
    · simp only [FrameExchange.held, Bool.or_eq_false_iff, decide_eq_false_iff_not] at hfree ⊢
      exact ⟨⟨hfree.1.2, hfree.1.2⟩, hfree.2⟩
    · rcases h.published other hlatest with hpending | ⟨-, hslot | ⟨hidle, -⟩⟩
      · rw [hagain.1] at hpending
        exact absurd hpending.symm (Option.some_ne_none other)
      · exact Or.inl hslot
      · exact absurd hidle hbusy
  · refine ⟨⟨slot, hwriter, ?_⟩, fun hlatest => absurd hlatest hagain.2, fun other hlatest => ?_⟩
    · simp only [FrameExchange.held, Bool.or_eq_false_iff, decide_eq_false_iff_not] at hfree ⊢
      exact ⟨⟨hfree.2, hfree.1.2⟩, hfree.2⟩
    · rcases h.published other hlatest with hpending | ⟨-, hslot | ⟨-, hdisplayed⟩⟩
      · rw [hagain.1] at hpending
        exact absurd hpending.symm (Option.some_ne_none other)
      · exact absurd hslot (by rw [not_not.mp hbusy]; simp)
      · exact Or.inl hdisplayed
  · exact h

/-- A detached exchange, before the free buffers are retired. -/
theorem detached_roles {exchange : FrameExchange φ} (h : Roles exchange) :
    Roles { exchange with
      processing := none, displayed := none, pending := exchange.latest } := by
  obtain ⟨slot, hwriter, -⟩ := h.writer
  refine ⟨⟨slot, hwriter, ?_⟩, fun hlatest => hlatest, fun other hlatest => Or.inl hlatest⟩
  have hlatest : exchange.latest ≠ some slot := fun hlatest =>
    h.writer_free (h.latest_held hlatest) hwriter
  simpa [FrameExchange.held] using hlatest

/-- An invalidated exchange, before the free buffers are retired. -/
theorem invalidated_roles {exchange : FrameExchange φ} (h : Roles exchange) :
    Roles { exchange with pending := none, latest := none } := by
  obtain ⟨slot, hwriter, hfree⟩ := h.writer
  refine ⟨⟨slot, hwriter, ?_⟩, fun _ => rfl, fun other hlatest => ?_⟩
  · simp only [FrameExchange.held, Bool.or_eq_false_iff, decide_eq_false_iff_not] at hfree ⊢
    exact ⟨⟨by simp, hfree.1.2⟩, hfree.2⟩
  · exact absurd hlatest.symm (Option.some_ne_none other)

/-- Every call keeps the roles. -/
theorem step_roles {exchange : FrameExchange φ} (h : Roles exchange) (call : ExchangeCall φ) :
    Roles (exchange_step retire exchange call) := by
  cases call with
  | produce frame =>
    obtain ⟨slot, hwriter, -⟩ := h.writer
    change Roles (produce exchange frame)
    rw [produce_retired hwriter]
    exact ⟨h.writer, h.unpublished, h.published⟩
  | publish => exact publish_roles h
  | take => exact take_roles h
  | finish success => exact (finish_processing_roles h success).retired (retire_free_retired _)
  | redraw => exact redraw_roles h
  | detach => exact (detached_roles h).retired (retire_free_retired _)
  | invalidate => exact (invalidated_roles h).retired (retire_free_retired _)

/-! ## What is in the buffers -/

/-- No call touches what is in a buffer that the producer does not have afterwards. -/
theorem step_kept {exchange : FrameExchange φ} (h : Roles exchange) (call : ExchangeCall φ)
    {slot : Slot} (hheld : (exchange_step retire exchange call).held slot = true) :
    (exchange_step retire exchange call).slots slot = exchange.slots slot := by
  have hfree {before : FrameExchange φ} (hslots : before.slots = exchange.slots)
      (hheld : (frame_exchange_retire_free retire before).held slot = true) :
      (frame_exchange_retire_free retire before).slots slot = exchange.slots slot := by
    have hretired : Retired before (frame_exchange_retire_free retire before) :=
      retire_free_retired before
    rw [hretired.held] at hheld
    exact (hretired.kept slot (Or.inl hheld)).trans (congrFun hslots slot)
  cases call with
  | produce frame =>
    obtain ⟨writer, hwriter, hwriter_free⟩ := h.writer
    change (produce exchange frame).slots slot = _
    change (produce exchange frame).held slot = true at hheld
    rw [produce_retired hwriter] at hheld ⊢
    refine Function.update_of_ne ?_ _ _
    rintro rfl
    exact Bool.noConfusion (hwriter_free.symm.trans hheld)
  | publish =>
    change (frame_exchange_publish retire exchange).slots slot = _
    change (frame_exchange_publish retire exchange).held slot = true at hheld
    obtain ⟨after, free, hpublish, -, hretired⟩ := publish_spec exchange
    rw [hpublish] at hheld ⊢
    exact hretired.kept slot (Or.inl ((hretired.held slot).symm.trans hheld))
  | take =>
    change (frame_exchange_take exchange).2.2.slots slot = _
    unfold frame_exchange_take
    split_ifs <;> rfl
  | finish success =>
    refine hfree ?_ hheld
    unfold finish_processing
    split_ifs <;> rfl
  | redraw =>
    change (frame_exchange_redraw exchange).slots slot = _
    unfold frame_exchange_redraw
    split_ifs <;> rfl
  | detach => exact hfree rfl hheld
  | invalidate => exact hfree rfl hheld

/-- A consumer's take ends with a finish or a detach only. -/
theorem step_processing {exchange : FrameExchange φ} {call : ExchangeCall φ}
    (hfinish : ∀ success, call ≠ .finish success) (hdetach : call ≠ .detach) {slot : Slot}
    (hslot : exchange.processing = some slot) :
    (exchange_step retire exchange call).processing = some slot := by
  cases call with
  | produce frame =>
    change (produce exchange frame).processing = _
    unfold produce
    cases exchange.writer <;> exact hslot
  | publish =>
    obtain ⟨after, free, hpublish, -, hretired⟩ := publish_spec exchange
    change (frame_exchange_publish retire exchange).processing = _
    rw [hpublish]
    exact hretired.processing.trans hslot
  | take =>
    change (frame_exchange_take exchange).2.2.processing = _
    unfold frame_exchange_take
    rw [if_neg (by rw [hslot]; exact Option.some_ne_none slot)]
    exact hslot
  | finish success => exact absurd rfl (hfinish success)
  | redraw =>
    change (frame_exchange_redraw exchange).processing = _
    unfold frame_exchange_redraw
    split_ifs <;> exact hslot
  | detach => exact absurd rfl hdetach
  | invalidate => exact (retire_free_retired _).processing.trans hslot

/-- A displayed frame is replaced by a successful finish, and given back by a detach. -/
theorem step_displayed {exchange : FrameExchange φ} {call : ExchangeCall φ}
    (hfinish : call ≠ .finish true) (hdetach : call ≠ .detach) {slot : Slot}
    (hslot : exchange.displayed = some slot) :
    (exchange_step retire exchange call).displayed = some slot := by
  cases call with
  | produce frame =>
    change (produce exchange frame).displayed = _
    unfold produce
    cases exchange.writer <;> exact hslot
  | publish =>
    obtain ⟨after, free, hpublish, -, hretired⟩ := publish_spec exchange
    change (frame_exchange_publish retire exchange).displayed = _
    rw [hpublish]
    exact hretired.displayed.trans hslot
  | take =>
    change (frame_exchange_take exchange).2.2.displayed = _
    unfold frame_exchange_take
    split_ifs <;> exact hslot
  | finish success =>
    obtain rfl : success = false := by simpa using hfinish
    refine (retire_free_retired _).displayed.trans ?_
    unfold finish_processing
    by_cases hbusy : exchange.processing ≠ none
    · rw [if_pos hbusy]
      exact hslot
    · rw [if_neg hbusy]
      exact hslot
  | redraw =>
    change (frame_exchange_redraw exchange).displayed = _
    unfold frame_exchange_redraw
    split_ifs <;> exact hslot
  | detach => exact absurd rfl hdetach
  | invalidate => exact (retire_free_retired _).displayed.trans hslot

/-- The latest frame is the last one that was published. -/
theorem step_latest {exchange : FrameExchange φ} (h : Roles exchange) (call : ExchangeCall φ) :
    (exchange_step retire exchange call).latest.map (exchange_step retire exchange call).slots =
      match call with
      | .publish => exchange.writer.map exchange.slots
      | .invalidate => none
      | _ => exchange.latest.map exchange.slots := by
  have hroles : Roles (exchange_step retire exchange call) := step_roles h call
  have hkept (hlatest : (exchange_step retire exchange call).latest = exchange.latest) :
      (exchange_step retire exchange call).latest.map (exchange_step retire exchange call).slots =
        exchange.latest.map exchange.slots := by
    cases hsome : exchange.latest with
    | none => rw [hlatest, hsome]; rfl
    | some slot =>
      rw [hsome] at hlatest
      rw [hlatest]
      exact congrArg some (step_kept h call (hroles.latest_held hlatest))
  cases call with
  | produce frame =>
    refine hkept ?_
    change (produce exchange frame).latest = _
    unfold produce
    cases exchange.writer <;> rfl
  | publish =>
    obtain ⟨slot, hwriter, -⟩ := h.writer
    have hlatest : (exchange_step retire exchange .publish).latest = some slot := by
      obtain ⟨after, free, hpublish, -, hretired⟩ := publish_spec exchange
      change (frame_exchange_publish retire exchange).latest = _
      rw [hpublish]
      exact hretired.latest.trans hwriter
    rw [hlatest, hwriter]
    exact congrArg some (step_kept h .publish (hroles.latest_held hlatest))
  | take =>
    refine hkept ?_
    change (frame_exchange_take exchange).2.2.latest = _
    unfold frame_exchange_take
    split_ifs <;> rfl
  | finish success =>
    refine hkept ((retire_free_retired _).latest.trans ?_)
    unfold finish_processing
    split_ifs <;> rfl
  | redraw =>
    refine hkept ?_
    change (frame_exchange_redraw exchange).latest = _
    unfold frame_exchange_redraw
    split_ifs <;> rfl
  | detach => exact hkept (retire_free_retired _).latest
  | invalidate =>
    have hlatest : (exchange_step retire exchange .invalidate).latest = none :=
      (retire_free_retired _).latest
    rw [hlatest]
    rfl

/-! ## Runs -/

theorem run_roles {exchange : FrameExchange φ} (h : Roles exchange)
    (calls : List (ExchangeCall φ)) : Roles (exchange_run retire exchange calls) := by
  induction calls generalizing exchange with
  | nil => exact h
  | cons call calls ih => exact ih (step_roles h call)

theorem run_latest {exchange : FrameExchange φ} (h : Roles exchange)
    (calls : List (ExchangeCall φ)) :
    last_published retire exchange (exchange.latest.map exchange.slots) calls =
      (exchange_run retire exchange calls).latest.map
        (exchange_run retire exchange calls).slots := by
  induction calls generalizing exchange with
  | nil => rfl
  | cons call calls ih =>
    unfold last_published
    rw [← step_latest h call]
    exact ih (step_roles h call)

/-- After any calls the producer has a buffer of its own. The frame published last is in one of
the other roles, as it was published. A buffer that is processed or displayed stays so until a
finish or a detach; no call hands it to the producer or touches what is in it. -/
theorem exchange_run_keeps_frames (retire : Retire φ) (slots : Slot → φ)
    (calls : List (ExchangeCall φ)) :
    let exchange := exchange_run retire (frame_exchange_create slots) calls
    (∃ slot, exchange.writer = some slot ∧ exchange.pending ≠ some slot ∧
        exchange.processing ≠ some slot ∧ exchange.displayed ≠ some slot) ∧
      (exchange.latest = none ∨ exchange.latest = exchange.pending ∨
        exchange.latest = exchange.processing ∨ exchange.latest = exchange.displayed) ∧
      exchange.latest.map exchange.slots =
        last_published retire (frame_exchange_create slots) none calls ∧
      ∀ call, let after := exchange_step retire exchange call
        (∀ slot, after.processing = some slot ∨ after.displayed = some slot →
          after.writer ≠ some slot ∧ after.slots slot = exchange.slots slot) ∧
        (call ≠ .detach → (∀ success, call ≠ .finish success) → ∀ slot,
          exchange.processing = some slot → after.processing = some slot) ∧
        (call ≠ .detach → call ≠ .finish true → ∀ slot,
          exchange.displayed = some slot → after.displayed = some slot) := by
  intro exchange
  have hroles : Roles exchange := run_roles (create_roles slots) calls
  refine ⟨?_, ?_, (run_latest (create_roles slots) calls).symm, fun call => ?_⟩
  · obtain ⟨slot, hwriter, hfree⟩ := hroles.writer
    simp only [FrameExchange.held, Bool.or_eq_false_iff, decide_eq_false_iff_not] at hfree
    exact ⟨slot, hwriter, hfree.1.1, hfree.1.2, hfree.2⟩
  · cases hlatest : exchange.latest with
    | none => exact Or.inl rfl
    | some slot =>
      rcases hroles.published slot hlatest with hslot | ⟨-, hslot | ⟨-, hslot⟩⟩
      · exact Or.inr (Or.inl hslot.symm)
      · exact Or.inr (Or.inr (Or.inl hslot.symm))
      · exact Or.inr (Or.inr (Or.inr hslot.symm))
  · refine ⟨fun slot hslot => ?_, fun hdetach hfinish slot => step_processing hfinish hdetach,
      fun hdetach hfinish slot => step_displayed hfinish hdetach⟩
    have hheld : (exchange_step retire exchange call).held slot = true := by
      rcases hslot with hslot | hslot <;> simp [FrameExchange.held, hslot]
    exact ⟨(step_roles hroles call).writer_free hheld, step_kept hroles call hheld⟩

end Exchange

end Nxvm.Kvm
