/-
What a section under the lock leaves alone.

Only an enqueue, a clear and the settling of a batch touch the ring; every other section
keeps it and the epoch (`SameQueue`). Notifying, failing and signalling keep the slot of the
requests too, raise no event but their own, never undo a failure and cancel the worker with
it (`Keeps`).
-/
import Nxvm.Audio.Stream

set_option autoImplicit false

namespace Nxvm.Audio

open Nxvm.Lib Nxvm.Machine

variable {φ : Type} {stream stream' stream'' : PcmStream φ}

/-! ## The ring -/

/-- The ring, the epoch and the count of accepted frames are as they were. -/
structure SameQueue (stream stream' : PcmStream φ) : Prop where
  samples : stream'.samples = stream.samples
  head : stream'.head = stream.head
  count : stream'.count = stream.count
  epoch : stream'.progress.epoch = stream.progress.epoch
  accepted : stream'.progress.accepted_frames = stream.progress.accepted_frames

namespace SameQueue

theorem refl (stream : PcmStream φ) : SameQueue stream stream := ⟨rfl, rfl, rfl, rfl, rfl⟩

theorem trans (h : SameQueue stream stream') (h' : SameQueue stream' stream'') :
    SameQueue stream stream'' :=
  ⟨h'.samples.trans h.samples, h'.head.trans h.head, h'.count.trans h.count,
    h'.epoch.trans h.epoch, h'.accepted.trans h.accepted⟩

theorem queue (h : SameQueue stream stream') : stream'.queue = stream.queue := by
  rw [PcmStream.queue, PcmStream.queue, h.samples, h.head, h.count]

end SameQueue

/-! ## The other fields -/

/-- A failed stream has cancelled its worker, and nothing else cancels it. -/
def PcmStream.Terminal (stream : PcmStream φ) : Prop :=
  stream.cancelled = true ↔ stream.failure ≠ .ok

/-- Nothing but the events `raised`, the failure and the reported progress have changed. -/
structure Keeps (raised : List SyncEvent) (stream stream' : PcmStream φ) : Prop
    extends SameQueue stream stream' where
  control : stream'.control = stream.control
  active : stream'.active = stream.active
  failed : stream.failure ≠ .ok → stream'.failure ≠ .ok
  event : ∀ e, stream'.event e = stream.event e ∨ e ∈ raised ∧ stream'.event e = true
  terminal : stream.Terminal → stream'.Terminal

namespace Keeps

variable {raised raised' : List SyncEvent}

theorem refl (stream : PcmStream φ) : Keeps raised stream stream where
  toSameQueue := .refl stream
  control := rfl
  active := rfl
  failed h := h
  event _ := Or.inl rfl
  terminal h := h

theorem trans (h : Keeps raised stream stream') (h' : Keeps raised' stream' stream'') :
    Keeps (raised ++ raised') stream stream'' where
  toSameQueue := h.toSameQueue.trans h'.toSameQueue
  control := h'.control.trans h.control
  active := h'.active.trans h.active
  failed hf := h'.failed (h.failed hf)
  event e := by
    rcases h'.event e with heq | ⟨hmem, htrue⟩
    · rcases h.event e with heq' | ⟨hmem, htrue⟩
      · exact Or.inl (heq.trans heq')
      · exact Or.inr ⟨List.mem_append_left _ hmem, heq.trans htrue⟩
    · exact Or.inr ⟨List.mem_append_right _ hmem, htrue⟩
  terminal ht := h'.terminal (h.terminal ht)

/-- An event that is not among the raised ones. -/
theorem event_eq (h : Keeps raised stream stream') {e : SyncEvent} (he : e ∉ raised) :
    stream'.event e = stream.event e :=
  (h.event e).resolve_right fun hr => he hr.1

/-- No event is taken back. -/
theorem raise (h : Keeps raised stream stream') {e : SyncEvent} (he : stream.event e = true) :
    stream'.event e = true :=
  (h.event e).elim (fun heq => heq.trans he) And.right

end Keeps

theorem notify_locked_keeps (answer : Status) (stream : PcmStream φ) :
    Keeps [] stream (notify_locked answer stream) where
  toSameQueue := ⟨rfl, rfl, rfl, rfl, rfl⟩
  control := rfl
  active := rfl
  failed h := by simp [notify_locked, h]
  event _ := Or.inl rfl
  terminal h := by
    unfold PcmStream.Terminal at h ⊢
    by_cases hf : stream.failure = .ok
    · have hc : stream.cancelled = false := by simpa [hf] using h
      simp [notify_locked, hf, hc]
    · simp [notify_locked, hf]

theorem fail_locked_keeps (status : Status) (stream : PcmStream φ) :
    Keeps [] stream (fail_locked status stream) := by
  unfold fail_locked
  split_ifs with hf
  · have hset : ∀ status : Status,
        Keeps [] stream (notify_locked .ok { stream with failure := status }) := by
      intro status
      have h := notify_locked_keeps .ok { stream with failure := status }
      refine ⟨⟨h.samples, h.head, h.count, h.epoch, h.accepted⟩, h.control, h.active,
        fun hne => absurd hf hne, h.event, fun ht => ?_⟩
      unfold PcmStream.Terminal at ht ⊢
      have hc : stream.cancelled = false := by simpa [hf] using ht
      by_cases hs : status = .ok <;> simp [notify_locked, hs, hc]
    exact hset status
  · exact .refl stream

/-- A failure that is reported leaves the stream failed. -/
theorem fail_locked_failure {status : Status} (h : status ≠ .ok) (stream : PcmStream φ) :
    (fail_locked status stream).failure ≠ .ok := by
  unfold fail_locked
  split_ifs with hf
  · simp [notify_locked, h]
  · exact hf

theorem raise_keeps (event : SyncEvent) (stream : PcmStream φ) :
    Keeps [event] stream { stream with event := Function.update stream.event event true } := by
  refine ⟨⟨rfl, rfl, rfl, rfl, rfl⟩, rfl, rfl, id, fun e => ?_, id⟩
  by_cases he : e = event
  · exact Or.inr ⟨List.mem_singleton.mpr he, by rw [he]; exact Function.update_self ..⟩
  · exact Or.inl (Function.update_of_ne he ..)

theorem signal_locked_keeps (answer : Answer) (event : SyncEvent) (stream : PcmStream φ) :
    Keeps [event] stream (signal_locked answer event stream) := by
  unfold signal_locked
  split_ifs with hs
  · exact raise_keeps event stream
  · have h := fail_locked_keeps (answer.signal event) stream
    exact ⟨h.toSameQueue, h.control, h.active, h.failed,
      fun e => Or.inl (h.event_eq List.not_mem_nil), h.terminal⟩

/-- A signal is seen, or the stream has failed. -/
theorem signal_locked_heard (answer : Answer) (event : SyncEvent) (stream : PcmStream φ) :
    (signal_locked answer event stream).event event = true ∨
      (signal_locked answer event stream).failure ≠ .ok := by
  unfold signal_locked
  split_ifs with hs
  · exact Or.inl (Function.update_self ..)
  · exact Or.inr (fail_locked_failure hs stream)

theorem observe_locked_keeps (answer : Answer) (generation : ℕ) (status : Status)
    (submitted consumed : ℕ) (stream : PcmStream φ) :
    Keeps [] stream (observe_locked answer generation status submitted consumed stream) := by
  unfold observe_locked
  by_cases hlive : stream.progress.epoch = generation ∧ stream.failure = .ok
  · rw [if_pos hlive]
    dsimp only
    generalize (if status = .ok ∧ (submitted < consumed ∨
      stream.progress.accepted_frames < submitted ∨ submitted < stream.progress.submitted_frames ∨
      consumed < stream.progress.consumed_frames) then Status.io_error else status) = judged
    by_cases hfail : judged ≠ .ok
    · rw [if_pos hfail]
      exact fail_locked_keeps judged stream
    · rw [if_neg hfail]
      split_ifs
      · have h := notify_locked_keeps answer.notify
          { stream with
            progress := { stream.progress with
              submitted_frames := submitted, consumed_frames := consumed } }
        exact ⟨⟨h.samples, h.head, h.count, h.epoch, h.accepted⟩, h.control, h.active, h.failed,
          h.event, h.terminal⟩
      · exact .refl stream
  · rw [if_neg hlive]
    exact .refl stream

theorem controlled_locked_keeps (answer : Answer) (control : Control) (status : Status)
    (stream : PcmStream φ) :
    Keeps [.control_done] stream (controlled_locked answer control status stream) := by
  unfold controlled_locked
  have hfirst : Keeps [] stream (if status ≠ .ok then fail_locked status stream
      else if control = .clear then notify_locked answer.notify stream else stream) := by
    split_ifs
    · exact fail_locked_keeps status stream
    · exact notify_locked_keeps answer.notify stream
    · exact .refl stream
  exact hfirst.trans (signal_locked_keeps answer .control_done _)

/-! ## Settling -/

/-- A flush that is not answered, or the section that answers it. -/
theorem acknowledge_flush_cases (answer : Answer) (stream : PcmStream φ) :
    acknowledge_flush answer stream = stream ∧
        (stream.control = .flush → stream.failure = .ok ∧ stream.count ≠ 0) ∨
      acknowledge_flush answer stream =
          signal_locked answer .control_done { stream with control := .none } ∧
        stream.control = .flush := by
  unfold acknowledge_flush
  split_ifs with h
  · exact Or.inr ⟨rfl, h.1⟩
  · refine Or.inl ⟨rfl, fun hflush => ?_⟩
    simpa [hflush] using h

theorem acknowledge_flush_same (answer : Answer) (stream : PcmStream φ) :
    SameQueue stream (acknowledge_flush answer stream) := by
  rcases acknowledge_flush_cases answer stream with ⟨heq, -⟩ | ⟨heq, -⟩
  · rw [heq]
    exact .refl stream
  · rw [heq]
    have htaken : SameQueue stream { stream with control := .none } := ⟨rfl, rfl, rfl, rfl, rfl⟩
    exact htaken.trans (signal_locked_keeps answer .control_done _).toSameQueue

/-- After the accepted frames have left, settling keeps the ring. -/
theorem settle_locked_same (answer : Answer) (generation : ℕ) (played : Played φ)
    (stream : PcmStream φ) :
    SameQueue (dequeue generation played stream)
      (settle_locked answer generation played stream) := by
  unfold settle_locked
  dsimp only
  generalize dequeue generation played stream = left
  have hfail : SameQueue left (if played.status ≠ .ok ∧ played.status ≠ .limit_exceeded then
      fail_locked played.status left else left) := by
    split_ifs
    · exact (fail_locked_keeps played.status left).toSameQueue
    · exact .refl left
  generalize (if played.status ≠ .ok ∧ played.status ≠ .limit_exceeded then
    fail_locked played.status left else left) = reported at hfail ⊢
  have hflush := hfail.trans (acknowledge_flush_same answer reported)
  split_ifs
  · exact hflush.trans (signal_locked_keeps answer .space _).toSameQueue
  · exact hflush

theorem dequeue_epoch (generation : ℕ) (played : Played φ) (stream : PcmStream φ) :
    (dequeue generation played stream).progress = stream.progress := by
  unfold dequeue
  split_ifs <;> rfl

/-- The ring after the accepted frames have left it. -/
theorem dequeue_queue {generation : ℕ} {played : Played φ} {stream : PcmStream φ}
    (h : stream.settles generation played) :
    (dequeue generation played stream).queue = stream.queue.drop played.accepted := by
  rw [dequeue, if_pos h, PcmStream.queue, PcmStream.queue, Ring.window_drop _ _ h.2,
    Ring.window_mod]

/-! ## Waits -/

/-- A wait that is over: it has consumed its event or left everything alone. -/
theorem wait_any_cases {answer : Answer} {event : SyncEvent}
    (h : wait_any answer event stream = some stream') :
    answer.wait = .signaled ∧ stream.event event = true ∧
        stream' = { stream with event := Function.update stream.event event false } ∨
      answer.wait = .cancelled ∧ stream.cancelled = true ∧ stream' = stream ∨
      answer.wait = .fault ∧ stream' = stream := by
  unfold wait_any at h
  cases hwait : answer.wait with
  | signaled =>
    simp only [hwait] at h
    split_ifs at h with hset
    exact Or.inl ⟨rfl, hset.1, (Option.some.inj h).symm⟩
  | cancelled =>
    simp only [hwait] at h
    split_ifs at h with hset
    exact Or.inr (Or.inl ⟨rfl, hset, (Option.some.inj h).symm⟩)
  | fault =>
    simp only [hwait] at h
    exact Or.inr (Or.inr ⟨rfl, (Option.some.inj h).symm⟩)

end Nxvm.Audio
