/-
The PCM stream (`lib/audio/pcm/stream.c`).

Callers copy frames into a ring, one worker plays them: it copies a batch from the front of
the ring under the lock, offers it to the platform without the lock and removes what was
accepted under the lock again. Clear, gain and flush go through one slot, `control`, and the
caller waits for one event, `control_done`, that all three share.

A section under the lock and a call of the platform are one step each, and so is a test of
the worker's cancellation. What the platform, the events and the sink of the notifications
answer in a step is the move's `Answer`. `φ` is one frame, a sample for each channel.
-/
import Nxvm.Lib.Ring
import Nxvm.Machine.Status

set_option autoImplicit false

namespace Nxvm.Audio

open Nxvm.Lib Nxvm.Machine

/-! ## The stream -/

/-- `AUDIO_PCM_STREAM_QUEUE_CAPACITY`. -/
def queue_capacity : ℕ := 4096

/-- `AUDIO_PCM_STREAM_PLAY_BATCH`. -/
def play_batch : ℕ := 1024

/-- `LIB_AUDIO_PCM_STREAM_MAX_FRAMES_PER_SUBMISSION`. -/
def max_frames_per_submission : ℕ := 512

/-- `LIB_UINT64_MAX`. -/
def u64_max : ℕ := 2 ^ 64 - 1

/-- `audio_pcm_stream_control`. -/
inductive Control where
  | none
  | clear
  | gain
  | flush
  deriving DecidableEq, Repr

/-- `lib_audio_pcm_progress`. -/
structure PcmProgress where
  epoch : ℕ
  accepted_frames : ℕ
  submitted_frames : ℕ
  consumed_frames : ℕ
  deriving DecidableEq, Repr

/-- The events of a stream; each resets itself when a wait has seen it. -/
inductive SyncEvent where
  | wake
  | space
  | control_done
  deriving DecidableEq, Repr

/-- `base_sync_wait_result`; an unlimited wait does not time out. -/
inductive WaitResult where
  | signaled
  | cancelled
  | fault
  deriving DecidableEq, Repr

/-- `lib_audio_pcm_stream`, with the cancellation of its worker. -/
structure PcmStream (φ : Type) where
  samples : ℕ → φ
  head : ℕ
  count : ℕ
  progress : PcmProgress
  channel_count : ℕ
  gains : List ℕ
  control : Control
  active : Bool
  failure : Status
  event : SyncEvent → Bool
  cancelled : Bool

/-- What is answered in a step from outside: by the call of the platform, by the events and
by the sink of the notifications (`ok` where there is none). -/
structure Answer where
  status : Status
  accepted : ℕ
  submitted : ℕ
  consumed : ℕ
  notify : Status
  signal : SyncEvent → Status
  reset : Status
  cancel_wait : Status
  wait : WaitResult

/-- Every call succeeds. -/
def Answer.success : Answer where
  status := .ok
  accepted := 0
  submitted := 0
  consumed := 0
  notify := .ok
  signal _ := .ok
  reset := .ok
  cancel_wait := .ok
  wait := .signaled

section Stream

variable {φ : Type}

/-- The frames in the ring, the oldest first. -/
def PcmStream.queue (stream : PcmStream φ) : List φ :=
  Ring.window queue_capacity stream.samples stream.head stream.count

/-- The platform has frames it has not reported as consumed. -/
def PcmStream.pending_output (stream : PcmStream φ) : Bool :=
  decide (stream.progress.consumed_frames < stream.progress.submitted_frames)

/-! ## Sections under the lock -/

/-- `audio_pcm_stream_notify_locked`. -/
def notify_locked (answer : Status) (stream : PcmStream φ) : PcmStream φ :=
  let failure := if stream.failure = .ok then answer else stream.failure
  { stream with failure, cancelled := stream.cancelled || decide (failure ≠ .ok) }

/-- `audio_pcm_stream_fail_locked`. The sink is called with a failure in place, so that its
answer is not looked at. -/
def fail_locked (status : Status) (stream : PcmStream φ) : PcmStream φ :=
  if stream.failure = .ok then notify_locked .ok { stream with failure := status } else stream

/-- `audio_pcm_stream_signal_locked`. -/
def signal_locked (answer : Answer) (event : SyncEvent) (stream : PcmStream φ) : PcmStream φ :=
  if answer.signal event = .ok then
    { stream with event := Function.update stream.event event true }
  else fail_locked (answer.signal event) stream

/-- `base_sync_wait_any` for one event or the cancellation of the worker, which wins. -/
def wait_any (answer : Answer) (event : SyncEvent) (stream : PcmStream φ) :
    Option (PcmStream φ) :=
  match answer.wait with
  | .signaled =>
    if stream.event event = true ∧ stream.cancelled = false then
      some { stream with event := Function.update stream.event event false }
    else none
  | .cancelled => if stream.cancelled then some stream else none
  | .fault => some stream

/-- The section of `audio_pcm_stream_observe_progress`. -/
def observe_locked (answer : Answer) (generation : ℕ) (status : Status)
    (submitted consumed : ℕ) (stream : PcmStream φ) : PcmStream φ :=
  if stream.progress.epoch = generation ∧ stream.failure = .ok then
    let status :=
      if status = .ok ∧ (submitted < consumed ∨ stream.progress.accepted_frames < submitted ∨
          submitted < stream.progress.submitted_frames ∨
          consumed < stream.progress.consumed_frames) then .io_error
      else status
    if status ≠ .ok then fail_locked status stream
    else if submitted ≠ stream.progress.submitted_frames ∨
        consumed ≠ stream.progress.consumed_frames then
      notify_locked answer.notify
        { stream with
          progress := { stream.progress with
            submitted_frames := submitted, consumed_frames := consumed } }
    else stream
  else stream

/-! ## The worker -/

/-- A batch the platform was offered, how many of its frames it accepted and its answer. -/
structure Played (φ : Type) where
  batch : List φ
  accepted : ℕ
  status : Status

/-- Where the worker is. -/
inductive Worker (φ : Type) where
  | loop
  | select
  | control (control : Control)
  | controlled (control : Control) (status : Status)
  | wait_progress (generation : ℕ)
  | progressed (generation : ℕ) (status : Status)
  | progress (generation : ℕ) (played : Option (Played φ))
  | observe (generation : ℕ) (played : Option (Played φ)) (status : Status)
      (submitted consumed : ℕ)
  | wait_wake
  | fail (status : Status) (again : Bool)
  | wait_writable (generation : ℕ) (batch : List φ)
  | writable (generation : ℕ) (batch : List φ) (status : Status)
  | enqueue (generation : ℕ) (batch : List φ)
  | settle (generation : ℕ) (played : Played φ)
  | exited

/-- The first section of a round: a request, a batch, or what to wait for. -/
def select_locked (stream : PcmStream φ) : PcmStream φ × Worker φ :=
  if stream.control = .clear ∨ stream.control = .gain then
    ({ stream with control := .none }, .control stream.control)
  else if stream.failure = .ok ∧ stream.active = true ∧ stream.count ≠ 0 then
    (stream, .wait_writable stream.progress.epoch
      (Ring.window queue_capacity stream.samples stream.head (min stream.count play_batch)))
  else if stream.failure = .ok ∧ stream.pending_output = true then
    (stream, .wait_progress stream.progress.epoch)
  else (stream, .wait_wake)

/-- The section after a clear or a gain. -/
def controlled_locked (answer : Answer) (control : Control) (status : Status)
    (stream : PcmStream φ) : PcmStream φ :=
  signal_locked answer .control_done
    (if status ≠ .ok then fail_locked status stream
    else if control = .clear then notify_locked answer.notify stream
    else stream)

/-- The batch was copied in this epoch and its accepted frames are still in the ring. -/
def PcmStream.settles (stream : PcmStream φ) (generation : ℕ) (played : Played φ) : Prop :=
  stream.progress.epoch = generation ∧ played.accepted ≤ stream.count

instance (stream : PcmStream φ) (generation : ℕ) (played : Played φ) :
    Decidable (stream.settles generation played) := inferInstanceAs (Decidable (_ ∧ _))

/-- The accepted frames leave the ring. -/
def dequeue (generation : ℕ) (played : Played φ) (stream : PcmStream φ) : PcmStream φ :=
  if stream.settles generation played then
    { stream with
      head := (stream.head + played.accepted) % queue_capacity
      count := stream.count - played.accepted }
  else stream

/-- A flush is answered when the ring is empty or the stream has failed. -/
def acknowledge_flush (answer : Answer) (stream : PcmStream φ) : PcmStream φ :=
  if stream.control = .flush ∧ (stream.failure ≠ .ok ∨ stream.count = 0) then
    signal_locked answer .control_done { stream with control := .none }
  else stream

/-- The last section of a round with a batch. -/
def settle_locked (answer : Answer) (generation : ℕ) (played : Played φ)
    (stream : PcmStream φ) : PcmStream φ :=
  let stream := dequeue generation played stream
  let stream :=
    if played.status ≠ .ok ∧ played.status ≠ .limit_exceeded then
      fail_locked played.status stream
    else stream
  let stream := acknowledge_flush answer stream
  if played.accepted ≠ 0 ∨ stream.failure ≠ .ok then signal_locked answer .space stream
  else stream

/-- The answer to an offer as the worker takes it: an endpoint that reports more than it was
offered has accepted nothing, and a success is a success for the whole batch. -/
def offer (answer : Answer) (batch : List φ) : Played φ :=
  if batch.length < answer.accepted then { batch, accepted := 0, status := .io_error }
  else
    { batch
      accepted := answer.accepted
      status :=
        if answer.status = .ok ∧ answer.accepted ≠ batch.length then .io_error
        else answer.status }

end Stream

/-! ## Callers -/

/-- A call, with what it has accepted if it is an enqueue. -/
inductive Call where
  | enqueue (accepted : ℕ)
  | request (control : Control)
  deriving DecidableEq, Repr

/-- Where a caller is. -/
inductive Caller where
  | idle
  | enqueue_signal (accepted : ℕ) (pending_output : Bool)
  | enqueue_cancel_wait (accepted : ℕ)
  | enqueue_fail (accepted : ℕ) (status : Status)
  | waiting (control : Control)
  | woken (control : Control) (result : WaitResult)
  deriving DecidableEq, Repr

section Callers

variable {φ : Type}

/-- How many of the frames fit: what `*out_accepted_frames` is set to. -/
def PcmStream.room (stream : PcmStream φ) (frames : List φ) : ℕ :=
  min (queue_capacity - stream.count) frames.length

/-- The section of `lib_audio_pcm_stream_enqueue`: the status if the call ends there. -/
def enqueue_locked (frames : List φ) (stream : PcmStream φ) : PcmStream φ × Option Status :=
  if stream.failure ≠ .ok then (stream, some stream.failure)
  else if stream.active = false then (stream, some .invalid_state)
  else if u64_max - stream.progress.accepted_frames < stream.room frames then
    (stream, some .limit_exceeded)
  else if stream.room frames = 0 then (stream, some .limit_exceeded)
  else
    ({ stream with
        samples := Ring.fill queue_capacity stream.samples (stream.head + stream.count)
          (frames.take (stream.room frames))
        count := stream.count + stream.room frames
        progress := { stream.progress with
          accepted_frames := stream.progress.accepted_frames + stream.room frames } },
      none)

/-- The new epoch of a clear. -/
def PcmStream.discard (stream : PcmStream φ) : PcmStream φ :=
  { stream with
    head := 0
    count := 0
    progress :=
      { epoch := stream.progress.epoch + 1, accepted_frames := 0, submitted_frames := 0
        consumed_frames := 0 } }

/-- A request is stored and the worker woken: the status if the call ends there. -/
def store_control (answer : Answer) (control : Control) (stream : PcmStream φ) :
    PcmStream φ × Option Status :=
  (signal_locked answer .wake { stream with control },
    if answer.signal .wake = .ok then none else some (answer.signal .wake))

def PcmStream.reset_control_done (stream : PcmStream φ) : PcmStream φ :=
  { stream with event := Function.update stream.event .control_done false }

/-- The first section of `audio_pcm_stream_control_request`, for a clear or a gain. -/
def control_request_locked (answer : Answer) (control : Control) (gains : List ℕ)
    (stream : PcmStream φ) : PcmStream φ × Option Status :=
  if stream.failure ≠ .ok then (stream, some stream.failure)
  else if control = .clear ∧ stream.progress.epoch = u64_max then
    (stream, some .limit_exceeded)
  else if answer.reset ≠ .ok then (stream, some .io_error)
  else if answer.cancel_wait ≠ .ok then (stream.reset_control_done, some .io_error)
  else
    store_control answer control
      (if control = .clear then stream.reset_control_done.discard
      else { stream.reset_control_done with gains })

/-- The first section of `lib_audio_pcm_stream_flush`. -/
def flush_locked (answer : Answer) (stream : PcmStream φ) : PcmStream φ × Option Status :=
  if stream.failure ≠ .ok then (stream, some stream.failure)
  else if stream.active = false then (stream, some .invalid_state)
  else if stream.count = 0 then (stream, some .ok)
  else if answer.reset ≠ .ok then (stream, some .io_error)
  else store_control answer .flush stream.reset_control_done

/-- The section after the wait for `control_done`: the stream and what the call returns. -/
def answered_locked (answer : Answer) (control : Control) (result : WaitResult)
    (stream : PcmStream φ) : PcmStream φ × Status :=
  if stream.failure ≠ .ok then (stream, stream.failure)
  else if result ≠ .signaled then (stream, .io_error)
  else if control = .clear then
    (signal_locked answer .space stream, answer.signal .space)
  else (stream, .ok)

end Callers

/-! ## The system -/

/-- A stream with its worker and the threads that call it. -/
structure System (ι φ : Type) where
  stream : PcmStream φ
  worker : Worker φ
  caller : ι → Caller

/-- What can be seen of a step. -/
inductive StreamEvent (ι φ : Type) where
  /-- Frames were copied into the ring. -/
  | enqueued (epoch : ℕ) (frames : List φ)
  /-- A batch copied in an epoch was offered to the platform, which accepted its front. -/
  | offered (generation : ℕ) (batch : List φ) (accepted : ℕ)
  /-- Frames left the ring on account of what was accepted of a batch. -/
  | dequeued (epoch generation : ℕ) (removed played : List φ)
  | platform_clear
  | platform_set_gain (gains : List ℕ)
  /-- A call returned. -/
  | returned (caller : ι) (call : Call) (status : Status)

/-- A step of the worker, the begin of a call, or the next step of one. -/
inductive Move (ι φ : Type) where
  | worker (answer : Answer)
  | enqueue (caller : ι) (frames : List φ)
  | clear (caller : ι) (answer : Answer)
  | set_gain (caller : ι) (gains : List ℕ) (answer : Answer)
  | flush (caller : ι) (answer : Answer)
  | resume (caller : ι) (answer : Answer)
  | cancel_wait (answer : Answer)

section Steps

variable {ι φ : Type}

/-- What happens after the progress was looked at. -/
def observed (generation : ℕ) : Option (Played φ) → Worker φ
  | none => .loop
  | some played => .settle generation played

/-- `audio_pcm_stream_worker`, step by step; a wait that is not over has no step. -/
def worker_step (answer : Answer) (stream : PcmStream φ) :
    Worker φ → Option (PcmStream φ × Worker φ × List (StreamEvent ι φ))
  | .loop => some (stream, if stream.cancelled then .exited else .select, [])
  | .select => some ((select_locked stream).1, (select_locked stream).2, [])
  | .control control =>
    some (stream, .controlled control answer.status,
      if control = .clear then [.platform_clear] else [.platform_set_gain stream.gains])
  | .controlled control status =>
    some (controlled_locked answer control status stream, .loop, [])
  | .wait_progress generation => some (stream, .progressed generation answer.status, [])
  | .progressed generation status =>
    some (stream,
      if stream.cancelled then .exited
      else if status = .ok then .progress generation none
      else if status ≠ .limit_exceeded then .fail status true
      else .loop, [])
  | .progress generation played =>
    some (stream, .observe generation played answer.status answer.submitted answer.consumed, [])
  | .observe generation played status submitted consumed =>
    some (observe_locked answer generation status submitted consumed stream,
      observed generation played, [])
  | .wait_wake =>
    (wait_any answer .wake stream).map fun stream =>
      (stream,
        match answer.wait with
        | .signaled => .loop
        | .cancelled => .exited
        | .fault => .fail .io_error false, [])
  | .fail status again =>
    some (fail_locked status stream, if again then .loop else .exited, [])
  | .wait_writable generation batch =>
    some (stream, .writable generation batch answer.status, [])
  | .writable generation batch status =>
    some (stream,
      if stream.cancelled then .exited
      else if status = .limit_exceeded then .loop
      else if status = .ok then .enqueue generation batch
      else .settle generation { batch, accepted := 0, status }, [])
  | .enqueue generation batch =>
    some (stream,
      if (offer answer batch).status = .ok ∨ (offer answer batch).status = .limit_exceeded then
        .progress generation (some (offer answer batch))
      else .settle generation (offer answer batch),
      [.offered generation batch (offer answer batch).accepted])
  | .settle generation played =>
    some (settle_locked answer generation played stream, .loop,
      if stream.settles generation played then
        [.dequeued stream.progress.epoch generation (stream.queue.take played.accepted)
          (played.batch.take played.accepted)]
      else [])
  | .exited => none

variable [DecidableEq ι]

def System.set (system : System ι φ) (stream : PcmStream φ) (i : ι) (caller : Caller) :
    System ι φ :=
  { system with stream, caller := Function.update system.caller i caller }

/-- A request has passed its first section. -/
def System.request (system : System ι φ) (i : ι) (control : Control)
    (outcome : PcmStream φ × Option Status) : System ι φ × List (StreamEvent ι φ) :=
  match outcome with
  | (stream, some status) =>
    (system.set stream i .idle, [.returned i (.request control) status])
  | (stream, none) => (system.set stream i (.waiting control), [])

/-- `lib_audio_pcm_stream_enqueue` up to the end of its section. -/
def enqueue_call (system : System ι φ) (i : ι) (frames : List φ) :
    System ι φ × List (StreamEvent ι φ) :=
  if max_frames_per_submission < frames.length then
    (system, [.returned i (.enqueue 0) .invalid_argument])
  else if frames = [] then (system, [.returned i (.enqueue 0) .ok])
  else
    match enqueue_locked frames system.stream with
    | (stream, some status) =>
      (system.set stream i .idle, [.returned i (.enqueue 0) status])
    | (stream, none) =>
      (system.set stream i
          (.enqueue_signal (system.stream.room frames) system.stream.pending_output),
        [.enqueued system.stream.progress.epoch (frames.take (system.stream.room frames))])

/-- The next step of a call that has begun. -/
def caller_step (answer : Answer) (system : System ι φ) (i : ι) :
    Option (System ι φ × List (StreamEvent ι φ)) :=
  match system.caller i with
  | .idle => none
  | .enqueue_signal accepted pending_output =>
    if answer.signal .wake = .ok then
      let stream :=
        { system.stream with event := Function.update system.stream.event .wake true }
      if pending_output then some (system.set stream i (.enqueue_cancel_wait accepted), [])
      else some (system.set stream i .idle, [.returned i (.enqueue accepted) .ok])
    else
      some (system.set system.stream i (.enqueue_fail accepted (answer.signal .wake)), [])
  | .enqueue_cancel_wait accepted =>
    if answer.cancel_wait = .ok then
      some (system.set system.stream i .idle, [.returned i (.enqueue accepted) .ok])
    else some (system.set system.stream i (.enqueue_fail accepted answer.cancel_wait), [])
  | .enqueue_fail accepted status =>
    some (system.set (fail_locked status system.stream) i .idle,
      [.returned i (.enqueue accepted) status])
  | .waiting control =>
    (wait_any answer .control_done system.stream).map fun stream =>
      (system.set stream i (.woken control answer.wait), [])
  | .woken control result =>
    some (system.set (answered_locked answer control result system.stream).1 i .idle,
      [.returned i (.request control)
        (answered_locked answer control result system.stream).2])

/-- One move. There is none for a call of a thread that is in another one, and none for a
wait that is not over. -/
def step (system : System ι φ) : Move ι φ → Option (System ι φ × List (StreamEvent ι φ))
  | .worker answer =>
    (worker_step answer system.stream system.worker).map fun r =>
      ({ system with stream := r.1, worker := r.2.1 }, r.2.2)
  | .enqueue i frames =>
    if system.caller i = .idle then some (enqueue_call system i frames) else none
  | .clear i answer =>
    if system.caller i = .idle then
      some (system.request i .clear (control_request_locked answer .clear [] system.stream))
    else none
  | .set_gain i gains answer =>
    if system.caller i = .idle then
      if gains.length ≠ system.stream.channel_count then
        some (system, [.returned i (.request .gain) .invalid_argument])
      else
        some (system.request i .gain
          (control_request_locked answer .gain gains system.stream))
    else none
  | .flush i answer =>
    if system.caller i = .idle then
      some (system.request i .flush (flush_locked answer system.stream))
    else none
  | .resume i answer => caller_step answer system i
  | .cancel_wait answer =>
    some ({ system with stream := signal_locked answer .space system.stream }, [])

/-- A move that has no step leaves everything as it is. -/
def perform (system : System ι φ) (move : Move ι φ) : System ι φ × List (StreamEvent ι φ) :=
  (step system move).getD (system, [])

/-- Moves one after the other, with what was seen of them. -/
def run (system : System ι φ) : List (Move ι φ) → System ι φ × List (StreamEvent ι φ)
  | [] => (system, [])
  | move :: moves =>
    ((run (perform system move).1 moves).1,
      (perform system move).2 ++ (run (perform system move).1 moves).2)

/-- A stream as `lib_audio_pcm_stream_create` returns it, over the samples as they were
allocated, with its worker in front of the loop. -/
def PcmStream.created (samples : ℕ → φ) (channel_count : ℕ) (gains : List ℕ) : PcmStream φ where
  samples := samples
  head := 0
  count := 0
  progress := { epoch := 0, accepted_frames := 0, submitted_frames := 0, consumed_frames := 0 }
  channel_count := channel_count
  gains := gains
  control := .none
  active := true
  failure := .ok
  event _ := false
  cancelled := false

def System.created (samples : ℕ → φ) (channel_count : ℕ) (gains : List ℕ) : System ι φ where
  stream := .created samples channel_count gains
  worker := .loop
  caller _ := .idle

end Steps

end Nxvm.Audio
