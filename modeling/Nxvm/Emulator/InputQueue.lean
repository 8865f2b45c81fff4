/-
The queue of input events between a window and the machine (`emulator/machine/input_queue.c`).

A ring that is empty where both ends meet, so that one of its places stays free. Every call is one
section under the queue's lock. It is compared with a list of at most 255 events.
-/
import Nxvm.Lib.Ring
import Nxvm.Machine.Status

set_option autoImplicit false

namespace Nxvm.Emulator

open Nxvm.Lib Nxvm.Machine

variable {ε : Type}

/-! ## The ring -/

/-- `EMULATOR_MACHINE_INPUT_QUEUE_CAPACITY`. -/
def input_queue_capacity : ℕ := 256

/-- `emulator_machine_input_queue`, of events of the type `ε`. -/
structure InputQueue (ε : Type) where
  entries : ℕ → ε
  head : ℕ
  tail : ℕ
  accepting : Bool

/-- `emulator_machine_input_queue_initialize`. -/
def input_queue_initialize (zero : ε) : InputQueue ε :=
  { entries := fun _ => zero, head := 0, tail := 0, accepting := false }

/-- `emulator_machine_input_queue_push`. -/
def input_queue_push (queue : InputQueue ε) (event : ε) : Status × InputQueue ε :=
  if !queue.accepting then (.invalid_state, queue)
  else
    let next := (queue.head + 1) % input_queue_capacity
    if next = queue.tail then (.limit_exceeded, queue)
    else (.ok, { queue with
      entries := Function.update queue.entries queue.head event
      head := next })

/-- `emulator_machine_input_queue_pop`. -/
def input_queue_pop (queue : InputQueue ε) : Option ε × InputQueue ε :=
  if queue.tail = queue.head then (none, queue)
  else (some (queue.entries queue.tail),
    { queue with tail := (queue.tail + 1) % input_queue_capacity })

/-- A call of one of the threads. -/
inductive QueueCall (ε : Type) where
  | push (event : ε)
  | pop
  | pending
  | admission (accepting : Bool)
  | clear

/-- What a call returns. -/
inductive QueueAnswer (ε : Type) where
  | pushed (status : Status)
  | popped (event : Option ε)
  | pending (pending : Bool)
  | done

/-- `emulator_machine_input_queue_push`, `_pop`, `_pending`, `_admit` and `_clear`. -/
def input_queue_call (queue : InputQueue ε) : QueueCall ε → QueueAnswer ε × InputQueue ε
  | .push event =>
    let (status, queue) := input_queue_push queue event
    (.pushed status, queue)
  | .pop =>
    let (event, queue) := input_queue_pop queue
    (.popped event, queue)
  | .pending => (.pending (queue.tail ≠ queue.head), queue)
  | .admission accepting => (.done, { queue with accepting })
  | .clear => (.done, { queue with head := 0, tail := 0 })

/-! ## The list -/

/-- Whether events are admitted, and those that wait, the oldest first. -/
structure Waiting (ε : Type) where
  accepting : Bool
  events : List ε

/-- A call on the list: a push is refused while none is admitted or 255 wait, and closing keeps
what was accepted. -/
def Waiting.call (waiting : Waiting ε) : QueueCall ε → QueueAnswer ε × Waiting ε
  | .push event =>
    if !waiting.accepting then (.pushed .invalid_state, waiting)
    else if waiting.events.length = 255 then (.pushed .limit_exceeded, waiting)
    else (.pushed .ok, { waiting with events := waiting.events ++ [event] })
  | .pop => (.popped waiting.events.head?, { waiting with events := waiting.events.tail })
  | .pending => (.pending (!waiting.events.isEmpty), waiting)
  | .admission accepting => (.done, { waiting with accepting })
  | .clear => (.done, { waiting with events := [] })

/-- The answers to calls, and what is left. -/
def answers {σ : Type} (call : σ → QueueCall ε → QueueAnswer ε × σ) (s : σ) :
    List (QueueCall ε) → List (QueueAnswer ε) × σ
  | [] => ([], s)
  | first :: calls =>
    let (answer, s) := call s first
    let (rest, s) := answers call s calls
    (answer :: rest, s)

/-! ## The ring is the list -/

/-- The events that wait are in the ring from its tail on. -/
structure Holds (queue : InputQueue ε) (waiting : Waiting ε) : Prop where
  accepting : queue.accepting = waiting.accepting
  tail_lt : queue.tail < 256
  room : waiting.events.length ≤ 255
  head_eq : queue.head = (queue.tail + waiting.events.length) % 256
  window : Ring.window 256 queue.entries queue.tail waiting.events.length = waiting.events

variable {queue : InputQueue ε} {waiting : Waiting ε}

theorem Holds.push (h : Holds queue waiting) (event : ε) :
    (input_queue_call queue (.push event)).1 = (waiting.call (.push event)).1 ∧
      Holds (input_queue_call queue (.push event)).2 (waiting.call (.push event)).2 := by
  obtain ⟨entries, head, tail, accepting⟩ := queue
  obtain ⟨admitted, events⟩ := waiting
  obtain ⟨rfl, htail, hroom, hhead, hwindow⟩ := h
  dsimp only at htail hroom hhead hwindow
  have hfull : (head + 1) % 256 = tail ↔ events.length = 255 := by omega
  simp only [input_queue_call, input_queue_push, input_queue_capacity, Waiting.call, hfull]
  split_ifs with hclosed hlimit
  · exact ⟨rfl, rfl, htail, hroom, hhead, hwindow⟩
  · exact ⟨rfl, rfl, htail, hroom, hhead, hwindow⟩
  · have hlength : (events ++ [event]).length = events.length + 1 := List.length_append
    refine ⟨rfl, rfl, htail, ?_, ?_, ?_⟩
    · change (events ++ [event]).length ≤ 255
      omega
    · change (head + 1) % 256 = (tail + (events ++ [event]).length) % 256
      omega
    · have hpush := @Ring.window_push ε 256 [event] entries tail events.length
        (by rw [List.length_singleton]; omega)
      rw [hwindow, Ring.fill, Ring.fill, ← hhead] at hpush
      change Ring.window 256 (Function.update entries head event) tail
        (events ++ [event]).length = events ++ [event]
      rw [hlength]
      exact hpush

theorem Holds.pop (h : Holds queue waiting) :
    (input_queue_call queue .pop).1 = (waiting.call .pop).1 ∧
      Holds (input_queue_call queue .pop).2 (waiting.call .pop).2 := by
  obtain ⟨entries, head, tail, accepting⟩ := queue
  obtain ⟨admitted, events⟩ := waiting
  obtain ⟨rfl, htail, hroom, hhead, hwindow⟩ := h
  dsimp only at htail hroom hhead hwindow
  cases events with
  | nil =>
    have hempty : tail = head := by
      rw [List.length_nil] at hhead
      omega
    simp only [input_queue_call, input_queue_pop, if_pos hempty]
    exact ⟨rfl, rfl, htail, hroom, hhead, hwindow⟩
  | cons first rest =>
    rw [List.length_cons] at hroom hhead
    have hsome : tail ≠ head := by omega
    rw [List.length_cons, Nat.add_comm, ← Ring.window_append] at hwindow
    obtain ⟨hfirst, hrest⟩ := List.cons.inj hwindow
    have hentry : entries tail = first := by
      rw [← hfirst]
      exact congrArg entries (Nat.mod_eq_of_lt htail).symm
    simp only [input_queue_call, input_queue_pop, if_neg hsome, input_queue_capacity, hentry]
    refine ⟨rfl, rfl, Nat.mod_lt _ (by decide), Nat.le_of_succ_le hroom, ?_, ?_⟩
    · change head = ((tail + 1) % 256 + rest.length) % 256
      omega
    · change Ring.window 256 entries ((tail + 1) % 256) rest.length = rest
      rw [Ring.window_mod]
      exact hrest

/-- A call answers as on the list, and leaves the ring with what is left of the list. -/
theorem Holds.call (h : Holds queue waiting) (call : QueueCall ε) :
    (input_queue_call queue call).1 = (waiting.call call).1 ∧
      Holds (input_queue_call queue call).2 (waiting.call call).2 := by
  cases call with
  | push event => exact h.push event
  | pop => exact h.pop
  | pending =>
    refine ⟨congrArg QueueAnswer.pending ?_, h⟩
    have htail := h.tail_lt
    have hroom := h.room
    have hhead := h.head_eq
    rw [Bool.eq_iff_iff, decide_eq_true_eq, Bool.not_eq_true', List.isEmpty_eq_false_iff,
      ← List.length_pos_iff]
    omega
  | admission accepting => exact ⟨rfl, rfl, h.tail_lt, h.room, h.head_eq, h.window⟩
  | clear => exact ⟨rfl, h.accepting, Nat.zero_lt_succ _, Nat.zero_le _, rfl, rfl⟩

/-- In every order of calls, the ring answers as the list of at most 255 events does, and never
leaves its array. -/
theorem input_queue_is_list (zero : ε) (calls : List (QueueCall ε)) :
    let run := answers input_queue_call ( input_queue_initialize zero) calls
    let list := answers Waiting.call { accepting := false, events := [] } calls
    run.1 = list.1 ∧ run.2.head < 256 ∧ run.2.tail < 256 ∧ list.2.events.length ≤ 255 := by
  have hall (queue : InputQueue ε) (waiting : Waiting ε) (h : Holds queue waiting) :
      (answers input_queue_call queue calls).1 = (answers Waiting.call waiting calls).1 ∧
        Holds (answers input_queue_call queue calls).2
          (answers Waiting.call waiting calls).2 := by
    induction calls generalizing queue waiting with
    | nil => exact ⟨rfl, h⟩
    | cons call calls ih =>
      obtain ⟨hanswer, hnext⟩ := h.call call
      obtain ⟨hrest, hlast⟩ := ih _ _ hnext
      exact ⟨List.cons_eq_cons.mpr ⟨hanswer, hrest⟩, hlast⟩
  obtain ⟨hanswers, hholds⟩ := hall ( input_queue_initialize zero)
    { accepting := false, events := [] } ⟨rfl, Nat.zero_lt_succ _, Nat.zero_le _, rfl, rfl⟩
  refine ⟨hanswers, ?_, hholds.tail_lt, hholds.room⟩
  rw [hholds.head_eq]
  exact Nat.mod_lt _ (by decide)

end Nxvm.Emulator
