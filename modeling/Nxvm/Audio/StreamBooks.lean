/-
The frames of an epoch: what was copied into the ring, what the platform accepted of it and
what has left the ring.

The frames that were copied in are those that have left followed by the ring. What was
accepted runs ahead of what has left by the frames of the one batch that is still to be
settled, and a batch in the worker's hand continues what was accepted (`Books`). Nothing is
assumed about how many threads call.
-/
import Nxvm.Audio.StreamSteps

set_option autoImplicit false

namespace Nxvm.Audio

open Nxvm.Lib Nxvm.Machine

/-! ## What was seen of an epoch -/

section Traces

variable {ι φ : Type}

def StreamEvent.enqueued_in (epoch : ℕ) : StreamEvent ι φ → List φ
  | .enqueued e frames => if e = epoch then frames else []
  | _ => []

def StreamEvent.accepted_in (epoch : ℕ) : StreamEvent ι φ → List φ
  | .offered e batch accepted => if e = epoch then batch.take accepted else []
  | _ => []

def StreamEvent.dequeued_in (epoch : ℕ) : StreamEvent ι φ → List φ
  | .dequeued e _ removed _ => if e = epoch then removed else []
  | _ => []

/-- The frames that were copied into the ring in an epoch. -/
def enqueued_in (epoch : ℕ) (trace : List (StreamEvent ι φ)) : List φ :=
  trace.flatMap (StreamEvent.enqueued_in epoch)

/-- The frames the platform accepted of the batches of an epoch. -/
def accepted_in (epoch : ℕ) (trace : List (StreamEvent ι φ)) : List φ :=
  trace.flatMap (StreamEvent.accepted_in epoch)

/-- The frames that left the ring in an epoch. -/
def dequeued_in (epoch : ℕ) (trace : List (StreamEvent ι φ)) : List φ :=
  trace.flatMap (StreamEvent.dequeued_in epoch)

variable (epoch : ℕ) (trace events : List (StreamEvent ι φ))

@[simp] theorem enqueued_in_append :
    enqueued_in epoch (trace ++ events) = enqueued_in epoch trace ++ enqueued_in epoch events :=
  List.flatMap_append

@[simp] theorem accepted_in_append :
    accepted_in epoch (trace ++ events) = accepted_in epoch trace ++ accepted_in epoch events :=
  List.flatMap_append

@[simp] theorem dequeued_in_append :
    dequeued_in epoch (trace ++ events) = dequeued_in epoch trace ++ dequeued_in epoch events :=
  List.flatMap_append

/-- No frame moves. -/
def StreamEvent.Silent : StreamEvent ι φ → Prop
  | .enqueued .. => False
  | .offered .. => False
  | .dequeued .. => False
  | .platform_clear => True
  | .platform_set_gain _ => True
  | .returned .. => True

/-- The platform is told something that is not a batch. -/
def StreamEvent.Platform : StreamEvent ι φ → Prop
  | .platform_clear => True
  | .platform_set_gain _ => True
  | _ => False

theorem StreamEvent.Platform.silent {event : StreamEvent ι φ} (h : event.Platform) :
    event.Silent := by
  cases event <;> trivial

variable {epoch trace events}

/-- Silent events show nothing to whoever looks at the frames only. -/
theorem flatMap_silent {look : StreamEvent ι φ → List φ}
    (hlook : ∀ event : StreamEvent ι φ, event.Silent → look event = [])
    (h : ∀ event ∈ events, event.Silent) : events.flatMap look = [] :=
  List.flatMap_eq_nil_iff.mpr fun event hmem => hlook event (h event hmem)

theorem enqueued_in_silent (h : ∀ event ∈ events, event.Silent) :
    enqueued_in epoch events = [] := by
  refine flatMap_silent (fun event hsilent => ?_) h
  cases event <;> first | rfl | exact hsilent.elim

theorem accepted_in_silent (h : ∀ event ∈ events, event.Silent) :
    accepted_in epoch events = [] := by
  refine flatMap_silent (fun event hsilent => ?_) h
  cases event <;> first | rfl | exact hsilent.elim

theorem dequeued_in_silent (h : ∀ event ∈ events, event.Silent) :
    dequeued_in epoch events = [] := by
  refine flatMap_silent (fun event hsilent => ?_) h
  cases event <;> first | rfl | exact hsilent.elim

end Traces

/-! ## What the worker holds -/

section Holding

variable {ι φ : Type}

/-- A batch that was copied and not offered yet, with the epoch it was copied in. -/
def Worker.copied : Worker φ → Option (ℕ × List φ)
  | .wait_writable generation batch => some (generation, batch)
  | .writable generation batch _ => some (generation, batch)
  | .enqueue generation batch => some (generation, batch)
  | _ => none

/-- A batch that was offered and is to be settled. -/
def Worker.played : Worker φ → Option (ℕ × Played φ)
  | .progress generation played => played.map fun p => (generation, p)
  | .observe generation played _ _ _ => played.map fun p => (generation, p)
  | .settle generation played => some (generation, played)
  | _ => none

/-- The frames of an epoch that were accepted and have not left the ring. -/
def Worker.unsettled (epoch : ℕ) (worker : Worker φ) : List φ :=
  match worker.played with
  | some (generation, played) =>
    if generation = epoch then played.batch.take played.accepted else []
  | none => []

/-- What a step of the worker does to the ring and to the batch in its hand. -/
inductive WorkerStep (stream : PcmStream φ) (worker : Worker φ) :
    PcmStream φ → Worker φ → List (StreamEvent ι φ) → Prop where
  /-- No batch is taken, offered or settled; a copied one may be put down. -/
  | quiet {stream' worker' events} (same : SameQueue stream stream')
      (copied : worker'.copied = worker.copied ∨ worker'.copied = none)
      (played : worker'.played = worker.played)
      (platform : ∀ event ∈ events, event.Platform) :
      WorkerStep stream worker stream' worker' events
  | copy {worker'} (idle : worker.played = none)
      (copied : worker'.copied = some (stream.progress.epoch,
        Ring.window queue_capacity stream.samples stream.head (min stream.count play_batch)))
      (played : worker'.played = none) :
      WorkerStep stream worker stream worker' []
  | offer {generation batch played worker'} (holds : worker.copied = some (generation, batch))
      (idle : worker.played = none) (of : played.batch = batch)
      (within : played.accepted ≤ batch.length) (copied : worker'.copied = none)
      (offered : worker'.played = some (generation, played)) :
      WorkerStep stream worker stream worker' [.offered generation batch played.accepted]
  /-- The platform was not ready: the batch is settled without having been offered. -/
  | refuse {generation batch status worker'} (holds : worker.copied = some (generation, batch))
      (idle : worker.played = none) (copied : worker'.copied = none)
      (refused : worker'.played = some (generation, { batch, accepted := 0, status })) :
      WorkerStep stream worker stream worker' []
  | settle {generation played stream'} (holds : worker.played = some (generation, played))
      (same : SameQueue (dequeue generation played stream) stream') :
      WorkerStep stream worker stream' .loop
        (if stream.settles generation played then
          [.dequeued stream.progress.epoch generation (stream.queue.take played.accepted)
            (played.batch.take played.accepted)]
        else [])

theorem offer_batch (answer : Answer) (batch : List φ) : (offer answer batch).batch = batch := by
  unfold offer
  split_ifs <;> rfl

theorem offer_accepted (answer : Answer) (batch : List φ) :
    (offer answer batch).accepted ≤ batch.length := by
  unfold offer
  by_cases hmore : batch.length < answer.accepted
  · rw [if_pos hmore]
    exact Nat.zero_le _
  · rw [if_neg hmore]
    exact Nat.le_of_not_lt hmore

theorem select_locked_step (stream : PcmStream φ) :
    WorkerStep (ι := ι) stream .select (select_locked stream).1 (select_locked stream).2 [] := by
  unfold select_locked
  split_ifs
  · exact .quiet ⟨rfl, rfl, rfl, rfl, rfl⟩ (Or.inl rfl) rfl (by simp)
  · exact .copy rfl rfl rfl
  · exact .quiet (.refl stream) (Or.inl rfl) rfl (by simp)
  · exact .quiet (.refl stream) (Or.inl rfl) rfl (by simp)

theorem worker_step_cases {answer : Answer} {stream stream' : PcmStream φ}
    {worker worker' : Worker φ} {events : List (StreamEvent ι φ)}
    (h : worker_step answer stream worker = some (stream', worker', events)) :
    WorkerStep stream worker stream' worker' events := by
  cases worker with
  | loop =>
    obtain ⟨rfl, rfl, rfl⟩ := by simpa [worker_step] using h
    exact .quiet (.refl _) (by split_ifs <;> exact Or.inl rfl) (by split_ifs <;> rfl) (by simp)
  | select =>
    obtain ⟨rfl, rfl, rfl⟩ := by simpa [worker_step] using h
    exact select_locked_step stream
  | control control =>
    obtain ⟨rfl, rfl, rfl⟩ := by simpa [worker_step] using h
    refine .quiet (.refl _) (Or.inl rfl) rfl fun event hmem => ?_
    split_ifs at hmem <;> (rw [List.mem_singleton.mp hmem]; trivial)
  | controlled control status =>
    obtain ⟨rfl, rfl, rfl⟩ := by simpa [worker_step] using h
    exact .quiet (controlled_locked_keeps answer control status stream).toSameQueue (Or.inl rfl)
      rfl (by simp)
  | wait_progress generation =>
    obtain ⟨rfl, rfl, rfl⟩ := by simpa [worker_step] using h
    exact .quiet (.refl _) (Or.inl rfl) rfl (by simp)
  | progressed generation status =>
    obtain ⟨rfl, rfl, rfl⟩ := by simpa [worker_step] using h
    exact .quiet (.refl _) (by split_ifs <;> exact Or.inl rfl) (by split_ifs <;> rfl) (by simp)
  | progress generation played =>
    obtain ⟨rfl, rfl, rfl⟩ := by simpa [worker_step] using h
    exact .quiet (.refl _) (Or.inl rfl) rfl (by simp)
  | observe generation played status submitted consumed =>
    obtain ⟨rfl, rfl, rfl⟩ := by simpa [worker_step] using h
    exact .quiet (observe_locked_keeps ..).toSameQueue (by cases played <;> exact Or.inl rfl)
      (by cases played <;> rfl) (by simp)
  | wait_wake =>
    obtain ⟨hwait, rfl, rfl⟩ := by simpa [worker_step] using h
    have hsame : SameQueue stream stream' := by
      rcases wait_any_cases hwait with ⟨-, -, rfl⟩ | ⟨-, -, rfl⟩ | ⟨-, rfl⟩
      · exact ⟨rfl, rfl, rfl, rfl, rfl⟩
      · exact .refl _
      · exact .refl _
    exact .quiet hsame (by cases answer.wait <;> exact Or.inl rfl)
      (by cases answer.wait <;> rfl) (by simp)
  | fail status again =>
    obtain ⟨rfl, rfl, rfl⟩ := by simpa [worker_step] using h
    exact .quiet (fail_locked_keeps status stream).toSameQueue
      (by split_ifs <;> exact Or.inl rfl) (by split_ifs <;> rfl) (by simp)
  | wait_writable generation batch =>
    obtain ⟨rfl, rfl, rfl⟩ := by simpa [worker_step] using h
    exact .quiet (.refl _) (Or.inl rfl) rfl (by simp)
  | writable generation batch status =>
    obtain ⟨rfl, rfl, rfl⟩ := by simpa [worker_step] using h
    split_ifs
    · exact .quiet (.refl _) (Or.inr rfl) rfl (by simp)
    · exact .quiet (.refl _) (Or.inr rfl) rfl (by simp)
    · exact .quiet (.refl _) (Or.inl rfl) rfl (by simp)
    · exact .refuse rfl rfl rfl rfl
  | enqueue generation batch =>
    obtain ⟨rfl, rfl, rfl⟩ := by simpa [worker_step] using h
    exact .offer rfl rfl (offer_batch answer batch) (offer_accepted answer batch)
      (by split_ifs <;> rfl) (by split_ifs <;> rfl)
  | settle generation played =>
    obtain ⟨rfl, rfl, rfl⟩ := by simpa [worker_step] using h
    exact .settle rfl (settle_locked_same answer generation played stream)
  | exited => simp [worker_step] at h

end Holding

/-! ## The books of an epoch -/

section Books

variable {ι φ : Type} {trace events : List (StreamEvent ι φ)} {stream stream' : PcmStream φ}
  {worker worker' : Worker φ}

@[simp] theorem PcmStream.queue_length (stream : PcmStream φ) :
    stream.queue.length = stream.count :=
  Ring.window_length ..

theorem Worker.unsettled_none (h : worker.played = none) (epoch : ℕ) :
    worker.unsettled epoch = [] := by
  rw [Worker.unsettled, h]

theorem Worker.unsettled_some {generation : ℕ} {played : Played φ}
    (h : worker.played = some (generation, played)) (epoch : ℕ) :
    worker.unsettled epoch =
      if generation = epoch then played.batch.take played.accepted else [] := by
  rw [Worker.unsettled, h]

theorem Worker.unsettled_congr (h : worker'.played = worker.played) (epoch : ℕ) :
    worker'.unsettled epoch = worker.unsettled epoch := by
  rw [Worker.unsettled, Worker.unsettled, h]

/-- What was seen of the frames agrees with the ring and the worker's hand. -/
structure Books (trace : List (StreamEvent ι φ)) (stream : PcmStream φ) (worker : Worker φ) :
    Prop where
  room : stream.count ≤ queue_capacity
  ring : enqueued_in stream.progress.epoch trace =
    dequeued_in stream.progress.epoch trace ++ stream.queue
  counted : stream.progress.accepted_frames =
    (enqueued_in stream.progress.epoch trace).length
  ahead : accepted_in stream.progress.epoch trace =
    dequeued_in stream.progress.epoch trace ++ worker.unsettled stream.progress.epoch
  first : ∀ g, accepted_in g trace <+: enqueued_in g trace
  later : ∀ g, stream.progress.epoch < g →
    enqueued_in g trace = [] ∧ accepted_in g trace = [] ∧ dequeued_in g trace = []
  copied : ∀ g batch, worker.copied = some (g, batch) →
    g ≤ stream.progress.epoch ∧ accepted_in g trace ++ batch <+: enqueued_in g trace ∧
      (g = stream.progress.epoch → batch <+: stream.queue)
  played : ∀ g played, worker.played = some (g, played) →
    g ≤ stream.progress.epoch ∧ played.accepted ≤ played.batch.length ∧
      (g = stream.progress.epoch → played.batch.take played.accepted <+: stream.queue)
  matched : ∀ e g removed played, .dequeued e g removed played ∈ trace →
    e = g ∧ removed = played

namespace Books

theorem created (samples : ℕ → φ) (channel_count : ℕ) (gains : List ℕ) :
    Books ([] : List (StreamEvent ι φ)) (.created samples channel_count gains) .loop where
  room := Nat.zero_le _
  ring := rfl
  counted := rfl
  ahead := rfl
  first _ := List.prefix_rfl
  later _ _ := ⟨rfl, rfl, rfl⟩
  copied _ _ h := nomatch h
  played _ _ h := nomatch h
  matched _ _ _ _ h := absurd h List.not_mem_nil

theorem silent (books : Books trace stream worker) (h : ∀ event ∈ events, event.Silent) :
    Books (trace ++ events) stream worker := by
  have henq : ∀ g, enqueued_in g (trace ++ events) = enqueued_in g trace := fun g => by
    rw [enqueued_in_append, enqueued_in_silent h, List.append_nil]
  have hacc : ∀ g, accepted_in g (trace ++ events) = accepted_in g trace := fun g => by
    rw [accepted_in_append, accepted_in_silent h, List.append_nil]
  have hdeq : ∀ g, dequeued_in g (trace ++ events) = dequeued_in g trace := fun g => by
    rw [dequeued_in_append, dequeued_in_silent h, List.append_nil]
  refine ⟨books.room, ?_, ?_, ?_, fun g => ?_, fun g hg => ?_, fun g batch hc => ?_,
    books.played, fun e g removed played hmem => ?_⟩
  · rw [henq, hdeq]
    exact books.ring
  · rw [henq]
    exact books.counted
  · rw [hacc, hdeq]
    exact books.ahead
  · rw [hacc, henq]
    exact books.first g
  · rw [henq, hacc, hdeq]
    exact books.later g hg
  · rw [hacc, henq]
    exact books.copied g batch hc
  · rcases List.mem_append.mp hmem with hold | hnew
    · exact books.matched e g removed played hold
    · exact (h _ hnew).elim

/-- The ring is kept, and the worker at most puts a copied batch down. -/
theorem quiet (books : Books trace stream worker) (same : SameQueue stream stream')
    (copied : worker'.copied = worker.copied ∨ worker'.copied = none)
    (played : worker'.played = worker.played) : Books trace stream' worker' := by
  refine ⟨?_, ?_, ?_, ?_, books.first, ?_, fun g batch hc => ?_, ?_, books.matched⟩
  · rw [same.count]
    exact books.room
  · rw [same.epoch, same.queue]
    exact books.ring
  · rw [same.epoch, same.accepted]
    exact books.counted
  · rw [same.epoch, Worker.unsettled_congr played]
    exact books.ahead
  · rw [same.epoch]
    exact books.later
  · rw [same.epoch, same.queue]
    rcases copied with hkept | hdown
    · exact books.copied g batch (hkept ▸ hc)
    · rw [hdown] at hc
      cases hc
  · rw [same.epoch, same.queue, played]
    exact books.played

/-- With no batch to be settled, everything accepted has left the ring. -/
theorem settled (books : Books trace stream worker) (idle : worker.played = none) :
    accepted_in stream.progress.epoch trace = dequeued_in stream.progress.epoch trace := by
  rw [books.ahead, Worker.unsettled_none idle, List.append_nil]

/-- A batch is copied from the front of the ring. -/
theorem copy (books : Books trace stream worker) (idle : worker.played = none)
    (copied : worker'.copied = some (stream.progress.epoch,
      Ring.window queue_capacity stream.samples stream.head (min stream.count play_batch)))
    (played : worker'.played = none) : Books trace stream worker' := by
  refine { books with
    ahead := ?_, copied := fun g batch hc => ?_, played := fun g p hp => ?_ }
  · rw [Worker.unsettled_none played, List.append_nil]
    exact books.settled idle
  · rw [copied] at hc
    cases hc
    have hfront : Ring.window queue_capacity stream.samples stream.head
        (min stream.count play_batch) <+: stream.queue := by
      rw [PcmStream.queue, ← Ring.window_take stream.samples stream.head
        (Nat.min_le_left stream.count play_batch)]
      exact List.take_prefix _ _
    refine ⟨le_rfl, ?_, fun _ => hfront⟩
    rw [books.settled idle, books.ring]
    exact (List.prefix_append_right_inj _).mpr hfront
  · rw [played] at hp
    cases hp

/-- The platform accepts the front of the batch. -/
theorem offer (books : Books trace stream worker) {generation : ℕ} {batch : List φ}
    {p : Played φ} (holds : worker.copied = some (generation, batch))
    (idle : worker.played = none) (of : p.batch = batch) (within : p.accepted ≤ batch.length)
    (copied : worker'.copied = none) (offered : worker'.played = some (generation, p)) :
    Books (trace ++ [.offered generation batch p.accepted]) stream worker' := by
  obtain ⟨hold, hfirst, hfront⟩ := books.copied generation batch holds
  have henq : ∀ g, enqueued_in g (trace ++ [.offered generation batch p.accepted]) =
      enqueued_in g trace := fun g => by simp [enqueued_in, StreamEvent.enqueued_in]
  have hdeq : ∀ g, dequeued_in g (trace ++ [.offered generation batch p.accepted]) =
      dequeued_in g trace := fun g => by simp [dequeued_in, StreamEvent.dequeued_in]
  have hacc : ∀ g, accepted_in g (trace ++ [.offered generation batch p.accepted]) =
      accepted_in g trace ++ if generation = g then batch.take p.accepted else [] := fun g => by
    simp [accepted_in, StreamEvent.accepted_in]
  refine ⟨books.room, ?_, ?_, ?_, fun g => ?_, fun g hg => ?_, fun g b hc => ?_,
    fun g q hq => ?_, fun e g removed played hmem => ?_⟩
  · rw [henq, hdeq]
    exact books.ring
  · rw [henq]
    exact books.counted
  · rw [hacc, hdeq, Worker.unsettled_some offered, books.settled idle, of]
  · rw [hacc, henq]
    by_cases hg : generation = g
    · subst hg
      rw [if_pos rfl]
      exact ((List.prefix_append_right_inj _).mpr (List.take_prefix _ _)).trans hfirst
    · rw [if_neg hg, List.append_nil]
      exact books.first g
  · rw [henq, hacc, hdeq, if_neg (by omega), List.append_nil]
    exact books.later g hg
  · rw [copied] at hc
    cases hc
  · rw [offered] at hq
    cases hq
    rw [of]
    exact ⟨hold, within, fun heq => (List.take_prefix _ _).trans (hfront heq)⟩
  · exact books.matched e g removed played (by simpa using hmem)

/-- A batch that was not offered is settled with nothing accepted. -/
theorem refuse (books : Books trace stream worker) {generation : ℕ} {batch : List φ}
    {status : Status} (holds : worker.copied = some (generation, batch))
    (idle : worker.played = none) (copied : worker'.copied = none)
    (refused : worker'.played = some (generation, { batch, accepted := 0, status })) :
    Books trace stream worker' := by
  obtain ⟨hold, -, -⟩ := books.copied generation batch holds
  refine { books with
    ahead := ?_, copied := fun g b hc => ?_, played := fun g q hq => ?_ }
  · rw [Worker.unsettled_some refused, books.settled idle]
    simp
  · rw [copied] at hc
    cases hc
  · rw [refused] at hq
    cases hq
    exact ⟨hold, Nat.zero_le _, fun _ => List.nil_prefix⟩

/-- A batch of this epoch can be settled: its accepted frames are the front of the ring. -/
theorem settles_iff (books : Books trace stream worker) {generation : ℕ} {p : Played φ}
    (holds : worker.played = some (generation, p)) :
    stream.settles generation p ↔ generation = stream.progress.epoch := by
  obtain ⟨-, hwithin, hfront⟩ := books.played generation p holds
  refine ⟨fun h => h.1.symm, fun heq => ⟨heq.symm, ?_⟩⟩
  have hlen := (hfront heq).length_le
  rwa [List.length_take, Nat.min_eq_left hwithin, PcmStream.queue_length] at hlen

/-- The accepted frames of the batch leave the ring if the epoch is still the one they were
copied in. -/
theorem settle (books : Books trace stream worker) {generation : ℕ} {p : Played φ}
    (holds : worker.played = some (generation, p))
    (same : SameQueue (dequeue generation p stream) stream') :
    Books (trace ++ if stream.settles generation p then
        [.dequeued stream.progress.epoch generation (stream.queue.take p.accepted)
          (p.batch.take p.accepted)]
      else []) stream' .loop := by
  obtain ⟨hold, hwithin, hfront⟩ := books.played generation p holds
  suffices h : Books (trace ++ if stream.settles generation p then
        [.dequeued stream.progress.epoch generation (stream.queue.take p.accepted)
          (p.batch.take p.accepted)]
      else []) (dequeue generation p stream) .loop from h.quiet same (Or.inl rfl) rfl
  by_cases hsettles : stream.settles generation p
  · rw [if_pos hsettles]
    have heq : generation = stream.progress.epoch := (books.settles_iff holds).mp hsettles
    have htake : p.batch.take p.accepted = stream.queue.take p.accepted := by
      have h := List.prefix_iff_eq_take.mp (hfront heq)
      rwa [List.length_take, Nat.min_eq_left hwithin] at h
    rw [htake]
    have henq : ∀ g, enqueued_in g (trace ++ [.dequeued stream.progress.epoch generation
        (stream.queue.take p.accepted) (stream.queue.take p.accepted)]) =
        enqueued_in g trace := fun g => by simp [enqueued_in, StreamEvent.enqueued_in]
    have hacc : ∀ g, accepted_in g (trace ++ [.dequeued stream.progress.epoch generation
        (stream.queue.take p.accepted) (stream.queue.take p.accepted)]) =
        accepted_in g trace := fun g => by simp [accepted_in, StreamEvent.accepted_in]
    have hdeq : ∀ g, dequeued_in g (trace ++ [.dequeued stream.progress.epoch generation
        (stream.queue.take p.accepted) (stream.queue.take p.accepted)]) =
        dequeued_in g trace ++
          if stream.progress.epoch = g then stream.queue.take p.accepted else [] := fun g => by
      simp [dequeued_in, StreamEvent.dequeued_in]
    have hepoch : (dequeue generation p stream).progress = stream.progress :=
      dequeue_epoch generation p stream
    refine ⟨?_, ?_, ?_, ?_, fun g => ?_, fun g hg => ?_, fun g b hc => (nomatch hc),
      fun g q hq => (nomatch hq), fun e g removed played hmem => ?_⟩
    · rw [dequeue, if_pos hsettles]
      exact (Nat.sub_le _ _).trans books.room
    · rw [hepoch, henq, hdeq, if_pos rfl, dequeue_queue hsettles, List.append_assoc,
        List.take_append_drop]
      exact books.ring
    · rw [hepoch, henq]
      exact books.counted
    · rw [hepoch, hacc, hdeq, if_pos rfl, books.ahead, Worker.unsettled_some holds, if_pos heq,
        htake, Worker.unsettled_none rfl, List.append_nil]
    · rw [hacc, henq]
      exact books.first g
    · rw [hepoch] at hg
      rw [henq, hacc, hdeq, if_neg (by omega), List.append_nil]
      exact books.later g hg
    · rcases List.mem_append.mp hmem with hmem | hmem
      · exact books.matched e g removed played hmem
      · cases List.mem_singleton.mp hmem
        exact ⟨heq.symm, rfl⟩
  · have hne : ¬ generation = stream.progress.epoch := fun h =>
      hsettles ((books.settles_iff holds).mpr h)
    rw [if_neg hsettles, List.append_nil, dequeue, if_neg hsettles]
    refine { books with
      ahead := ?_, copied := fun g b hc => (nomatch hc), played := fun g q hq => (nomatch hq) }
    rw [books.ahead, Worker.unsettled_some holds, if_neg hne, Worker.unsettled_none rfl]

/-- One step of the worker. -/
theorem worker_step (books : Books trace stream worker)
    (step : WorkerStep stream worker stream' worker' events) :
    Books (trace ++ events) stream' worker' := by
  cases step with
  | quiet same copied played platform =>
    exact (books.quiet same copied played).silent fun event hmem => (platform event hmem).silent
  | copy idle copied played =>
    rw [List.append_nil]
    exact books.copy idle copied played
  | offer holds idle of within copied offered =>
    exact books.offer holds idle of within copied offered
  | refuse holds idle copied refused =>
    rw [List.append_nil]
    exact books.refuse holds idle copied refused
  | settle holds same => exact books.settle holds same

/-! ### Callers -/

/-- Frames are copied in behind the others. -/
theorem enqueue (books : Books trace stream worker) {frames : List φ}
    (h : enqueue_locked frames stream = (stream', none)) :
    Books (trace ++ [.enqueued stream.progress.epoch (frames.take (stream.room frames))])
      stream' worker := by
  have hroom : (frames.take (stream.room frames)).length = stream.room frames :=
    List.length_take_of_le (Nat.min_le_right _ _)
  have hfits : stream.count + stream.room frames ≤ queue_capacity := by
    have hle : stream.room frames ≤ queue_capacity - stream.count := Nat.min_le_left _ _
    have hcount := books.room
    omega
  unfold enqueue_locked at h
  split_ifs at h
  all_goals try exact absurd (congrArg Prod.snd h) (Option.some_ne_none _)
  obtain ⟨rfl, -⟩ := Prod.mk.inj h
  generalize stream.room frames = room at hroom hfits ⊢
  generalize frames.take room = added at hroom ⊢
  subst hroom
  have hqueue : Ring.window queue_capacity
      (Ring.fill queue_capacity stream.samples (stream.head + stream.count) added)
      stream.head (stream.count + added.length) = stream.queue ++ added :=
    Ring.window_push hfits
  have henq : ∀ g, enqueued_in g (trace ++ [.enqueued stream.progress.epoch added]) =
      enqueued_in g trace ++ if stream.progress.epoch = g then added else [] := fun g => by
    simp [enqueued_in, StreamEvent.enqueued_in]
  have hacc : ∀ g, accepted_in g (trace ++ [.enqueued stream.progress.epoch added]) =
      accepted_in g trace := fun g => by simp [accepted_in, StreamEvent.accepted_in]
  have hdeq : ∀ g, dequeued_in g (trace ++ [.enqueued stream.progress.epoch added]) =
      dequeued_in g trace := fun g => by simp [dequeued_in, StreamEvent.dequeued_in]
  have hlonger : ∀ g, enqueued_in g trace <+:
      enqueued_in g trace ++ if stream.progress.epoch = g then added else [] :=
    fun g => List.prefix_append _ _
  refine ⟨hfits, ?_, ?_, ?_, fun g => ?_, fun g hg => ?_, fun g batch hc => ?_,
    fun g p hp => ?_, fun e g removed played hmem => ?_⟩
  · rw [henq, hdeq, if_pos rfl, PcmStream.queue, hqueue, books.ring, List.append_assoc]
  · rw [henq, if_pos rfl, List.length_append, ← books.counted]
  · rw [hacc, hdeq]
    exact books.ahead
  · rw [hacc, henq]
    exact (books.first g).trans (hlonger g)
  · rw [henq, hacc, hdeq, if_neg (Nat.ne_of_lt hg), List.append_nil]
    exact books.later g hg
  · obtain ⟨hold, hfirst, hfront⟩ := books.copied g batch hc
    rw [hacc, henq]
    refine ⟨hold, hfirst.trans (hlonger g), fun heq => ?_⟩
    rw [PcmStream.queue, hqueue]
    exact (hfront heq).trans (List.prefix_append _ _)
  · obtain ⟨hold, hwithin, hfront⟩ := books.played g p hp
    refine ⟨hold, hwithin, fun heq => ?_⟩
    rw [PcmStream.queue, hqueue]
    exact (hfront heq).trans (List.prefix_append _ _)
  · exact books.matched e g removed played (by simpa using hmem)

/-- A clear begins an epoch in which nothing has happened. A batch of the last epoch stays in
the worker's hand. -/
theorem discard (books : Books trace stream worker) : Books trace stream.discard worker := by
  obtain ⟨henq, hacc, hdeq⟩ := books.later (stream.progress.epoch + 1) (Nat.lt_succ_self _)
  refine ⟨Nat.zero_le _, ?_, ?_, ?_, books.first, fun g hg => books.later g ?_,
    fun g batch hc => ?_, fun g p hp => ?_, books.matched⟩
  · change enqueued_in (stream.progress.epoch + 1) trace =
      dequeued_in (stream.progress.epoch + 1) trace ++ []
    rw [henq, hdeq, List.append_nil]
  · change 0 = (enqueued_in (stream.progress.epoch + 1) trace).length
    rw [henq, List.length_nil]
  · change accepted_in (stream.progress.epoch + 1) trace =
      dequeued_in (stream.progress.epoch + 1) trace ++ worker.unsettled (stream.progress.epoch + 1)
    have hnone : worker.unsettled (stream.progress.epoch + 1) = [] := by
      cases hp : worker.played with
      | none => exact Worker.unsettled_none hp _
      | some held =>
        have hold := (books.played held.1 held.2 hp).1
        rw [Worker.unsettled_some hp, if_neg (by omega)]
    rw [hacc, hdeq, hnone, List.append_nil]
  · exact (Nat.lt_succ_self _).trans hg
  · obtain ⟨hold, hfirst, -⟩ := books.copied g batch hc
    exact ⟨hold.trans (Nat.le_succ _), hfirst, fun heq => absurd heq (by
      change g ≠ stream.progress.epoch + 1
      omega)⟩
  · obtain ⟨hold, hwithin, -⟩ := books.played g p hp
    exact ⟨hold.trans (Nat.le_succ _), hwithin, fun heq => absurd heq (by
      change g ≠ stream.progress.epoch + 1
      omega)⟩

end Books

end Books

end Nxvm.Audio
