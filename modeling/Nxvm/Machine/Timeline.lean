/-
The timeline of the machine (`timeline.c`): up to 32 pending events, held in a
fixed table of slots and ordered by a binary heap of slot numbers. Every slot
knows its place in the heap, so that an event can be cancelled from the middle.

An event's callback is an arbitrary program of the machine's devices. It is given
here as a tree of the calls it makes back into the timeline: `Calls`. Advancing
keeps a record of what was scheduled, cancelled and invoked, which the source
does not have; no result of the source's functions depends on it.
-/
import Nxvm.Lib.BinaryHeap
import Mathlib.Algebra.Group.Nat.Defs
import Nxvm.Machine.Status
import Mathlib.Data.Prod.Lex
import Mathlib.Data.Fintype.Card
import Mathlib.Logic.Function.Basic

set_option autoImplicit false

namespace Nxvm.Machine

/-- `X86_CORE_MACHINE_TIMELINE_EVENT_CAPACITY`. -/
def event_capacity : ℕ := 32

/-- `LIB_UINT64_MAX`. -/
def uint64_max : ℕ := 2 ^ 64 - 1

/-- `x86_core_machine_timeline_event`: `κ` is the type of the callbacks, `χ` that of
their contexts; `none` is the null pointer. -/
structure TimelineEvent (κ χ : Type) where
  due_tick : ℕ
  sequence : ℕ
  callback : Option κ
  context : Option χ
  heap_index : ℕ
  active : Bool

/-- `x86_core_machine_timeline_token`. -/
structure TimelineToken where
  slot : ℕ
  sequence : ℕ
  deriving DecidableEq, Repr

/-- `x86_core_machine_timeline`. -/
structure Timeline (κ χ : Type) where
  now : ℕ
  next_sequence : ℕ
  heap_size : ℕ
  heap : ℕ → ℕ
  events : ℕ → TimelineEvent κ χ

section Timeline

variable {κ χ : Type}

/-! ## The heap of slots -/

/-- `timeline_precedes`. -/
def timeline_precedes (left right : TimelineEvent κ χ) : Bool :=
  decide (left.due_tick < right.due_tick) ||
    (decide (left.due_tick = right.due_tick) && decide (left.sequence < right.sequence))

/-- `events[slot].heap_index = index`. -/
def Timeline.point_back (t : Timeline κ χ) (slot index : ℕ) : Timeline κ χ :=
  { t with events := Function.update t.events slot { t.events slot with heap_index := index } }

def timeline_heap_swap (t : Timeline κ χ) (left right : ℕ) : Timeline κ χ :=
  let slot := t.heap left
  let t := { t with heap := Function.update t.heap left (t.heap right) }
  let t := { t with heap := Function.update t.heap right slot }
  let t := t.point_back (t.heap left) left
  t.point_back (t.heap right) right

/-- The event at a position of the heap. -/
def Timeline.at_heap (t : Timeline κ χ) (index : ℕ) : TimelineEvent κ χ :=
  t.events (t.heap index)

def timeline_heap_up (t : Timeline κ χ) (index : ℕ) : Timeline κ χ :=
  if _h : index = 0 then t
  else
    let parent := (index - 1) / 2
    if timeline_precedes (t.at_heap index) (t.at_heap parent) then
      timeline_heap_up (timeline_heap_swap t index parent) parent
    else t
termination_by index
decreasing_by omega

/-- The choice `heap_down` makes at each level: the position itself or a child that
precedes it. -/
def timeline_smallest (t : Timeline κ χ) (index : ℕ) : ℕ :=
  let left := index * 2 + 1
  let right := left + 1
  let smallest := index
  let smallest := if left < t.heap_size ∧
      timeline_precedes (t.at_heap left) (t.at_heap smallest) then left else smallest
  if right < t.heap_size ∧
      timeline_precedes (t.at_heap right) (t.at_heap smallest) then right else smallest

theorem timeline_smallest_cases (t : Timeline κ χ) (index : ℕ) :
    timeline_smallest t index = index ∨
      (index < timeline_smallest t index ∧ timeline_smallest t index < t.heap_size) := by
  unfold timeline_smallest
  dsimp only
  split_ifs <;> omega

@[simp] theorem timeline_heap_swap_heap_size (t : Timeline κ χ) (left right : ℕ) :
    (timeline_heap_swap t left right).heap_size = t.heap_size := rfl

def timeline_heap_down (t : Timeline κ χ) (index : ℕ) : Timeline κ χ :=
  if _h : timeline_smallest t index = index then t
  else timeline_heap_down (timeline_heap_swap t index (timeline_smallest t index))
    (timeline_smallest t index)
termination_by t.heap_size - index
decreasing_by
  have := timeline_smallest_cases t index
  rw [timeline_heap_swap_heap_size]
  omega

def timeline_heap_remove (t : Timeline κ χ) (index : ℕ) : Timeline κ χ :=
  if t.heap_size ≤ index then t
  else
    let last := t.heap_size - 1
    let t := { t with heap_size := last }
    if index = last then t
    else
      let t := { t with heap := Function.update t.heap index (t.heap last) }
      let t := t.point_back (t.heap index) index
      if index ≠ 0 ∧ timeline_precedes (t.at_heap index) (t.at_heap ((index - 1) / 2)) then
        timeline_heap_up t index
      else timeline_heap_down t index

/-! ## The operations -/

/-- An unused slot, as `timeline_reset` leaves every slot. -/
def TimelineEvent.clear : TimelineEvent κ χ :=
  { due_tick := 0, sequence := 0, callback := none, context := none, heap_index := 0,
    active := false }

/-- `timeline_reset`: the whole record becomes zero. -/
def timeline_reset : Timeline κ χ :=
  { now := 0, next_sequence := 0, heap_size := 0, heap := fun _ => 0,
    events := fun _ => TimelineEvent.clear }

/-- The first slot that is not active. -/
def timeline_free_slot (t : Timeline κ χ) : Option ℕ :=
  (List.range event_capacity).find? fun slot => !(t.events slot).active

/-- The slot filled and put behind the heap. -/
def timeline_append (t : Timeline κ χ) (slot due_tick : ℕ) (callback : Option κ)
    (context : Option χ) : Timeline κ χ :=
  { t with
    next_sequence := t.next_sequence + 1
    heap := Function.update t.heap t.heap_size slot
    heap_size := t.heap_size + 1
    events := Function.update t.events slot
      { due_tick, sequence := t.next_sequence, callback, context,
        heap_index := t.heap_size, active := true } }

/-- What `timeline_schedule` does with a free slot. -/
def timeline_insert (t : Timeline κ χ) (slot due_tick : ℕ) (callback : Option κ)
    (context : Option χ) : Timeline κ χ :=
  timeline_heap_up (timeline_append t slot due_tick callback context) t.heap_size

def timeline_schedule (t : Timeline κ χ) (due_tick : ℕ) (callback : Option κ)
    (context : Option χ) : Status × Option TimelineToken × Timeline κ χ :=
  if callback.isNone ∨ due_tick < t.now ∨ t.next_sequence = uint64_max then
    (.invalid_argument, none, t)
  else
    match timeline_free_slot t with
    | some slot =>
        (.ok, some ⟨slot, t.next_sequence⟩, timeline_insert t slot due_tick callback context)
    | none => (.no_memory, none, t)

/-- The event of a slot taken out of the heap and its slot freed. -/
def timeline_drop (t : Timeline κ χ) (slot index : ℕ) : Timeline κ χ :=
  let t := timeline_heap_remove t index
  { t with
    events := Function.update t.events slot
      { t.events slot with active := false, callback := none, context := none } }

def timeline_cancel (t : Timeline κ χ) (token : TimelineToken) : Status × Timeline κ χ :=
  if event_capacity ≤ token.slot then (.invalid_argument, t)
  else
    let event := t.events token.slot
    if !event.active || event.sequence != token.sequence then (.invalid_state, t)
    else (.ok, timeline_drop t token.slot event.heap_index)

def timeline_next_due (t : Timeline κ χ) : Status × Option ℕ :=
  if t.heap_size = 0 then (.invalid_state, none)
  else (.ok, some (t.at_heap 0).due_tick)

def timeline_pending_count (t : Timeline κ χ) : ℕ :=
  ((List.range event_capacity).filter fun index => (t.events index).active).length

/-! ## Advancing -/

/-- What a callback does: it may read the timeline, schedule and cancel events in any
order and on any outcome, and it leaves its owner in a new state. -/
inductive Calls (κ χ σ : Type) where
  | done (owner : σ)
  | observe (k : Timeline κ χ → Calls κ χ σ)
  | schedule (due_tick : ℕ) (callback : Option κ) (context : Option χ)
      (k : Status → Option TimelineToken → Calls κ χ σ)
  | cancel (token : TimelineToken) (k : Status → Calls κ χ σ)

/-- What identifies an event while it is pending. -/
structure Entry (κ χ : Type) where
  due_tick : ℕ
  sequence : ℕ
  callback : Option κ
  context : Option χ

def TimelineEvent.entry (e : TimelineEvent κ χ) : Entry κ χ :=
  { due_tick := e.due_tick, sequence := e.sequence, callback := e.callback,
    context := e.context }

/-- One line of the record: an event that was scheduled or cancelled, or whose callback
was invoked, at the given `now` with the given argument. -/
inductive Happening (κ χ : Type) where
  | scheduled (e : Entry κ χ)
  | cancelled (e : Entry κ χ)
  | invoked (e : Entry κ χ) (now argument : ℕ)

/-- The record of a call to `timeline_schedule`. -/
def schedule_record (t : Timeline κ χ) (due_tick : ℕ) (callback : Option κ)
    (context : Option χ) : List (Happening κ χ) :=
  if (timeline_schedule t due_tick callback context).1 = .ok then
    [.scheduled { due_tick, sequence := t.next_sequence, callback, context }]
  else []

/-- The record of a call to `timeline_cancel`. -/
def cancel_record (t : Timeline κ χ) (token : TimelineToken) : List (Happening κ χ) :=
  if (timeline_cancel t token).1 = .ok then [.cancelled (t.events token.slot).entry] else []

variable {σ : Type}

/-- The calls of one callback, made on the timeline. -/
def Calls.run : Calls κ χ σ → Timeline κ χ → σ × Timeline κ χ × List (Happening κ χ)
  | .done owner, t => (owner, t, [])
  | .observe k, t => (k t).run t
  | .schedule due_tick callback context k, t =>
      let r := timeline_schedule t due_tick callback context
      let rest := (k r.1 r.2.1).run r.2.2
      (rest.1, rest.2.1, schedule_record t due_tick callback context ++ rest.2.2)
  | .cancel token k, t =>
      let r := timeline_cancel t token
      let rest := (k r.1).run r.2
      (rest.1, rest.2.1, cancel_record t token ++ rest.2.2)

/-- The root event taken out, its slot freed and the clock put to its tick: what one round
of `timeline_advance` does before it calls back. -/
def timeline_take (t : Timeline κ χ) : Timeline κ χ :=
  { timeline_drop t (t.heap 0) 0 with now := (t.at_heap 0).due_tick }

/-- The loop of `timeline_advance`. `behaviour` is what the callbacks do. There is no answer
where the loop does not end within `fuel` rounds, nor if a null callback were called. -/
def timeline_advance_loop (behaviour : κ → Option χ → ℕ → σ → Calls κ χ σ) (target_tick : ℕ) :
    ℕ → σ → Timeline κ χ → Option (σ × Timeline κ χ × List (Happening κ χ))
  | 0, _, _ => none
  | fuel + 1, owner, t =>
      if t.heap_size = 0 ∨ target_tick < (t.at_heap 0).due_tick then
        some (owner, { t with now := target_tick }, [])
      else
        let next := t.at_heap 0
        match next.callback with
        | none => none
        | some callback =>
            let t := timeline_take t
            let called := (behaviour callback next.context next.due_tick owner).run t
            (timeline_advance_loop behaviour target_tick fuel called.1 called.2.1).map fun r =>
              (r.1, r.2.1, .invoked next.entry t.now next.due_tick :: called.2.2 ++ r.2.2)

def timeline_advance (behaviour : κ → Option χ → ℕ → σ → Calls κ χ σ) (fuel : ℕ) (owner : σ)
    (t : Timeline κ χ) (target_tick : ℕ) :
    Option (Status × σ × Timeline κ χ × List (Happening κ χ)) :=
  if target_tick < t.now then some (.invalid_argument, owner, t, [])
  else (timeline_advance_loop behaviour target_tick fuel owner t).map fun r => (.ok, r)

end Timeline

end Nxvm.Machine
