/-
What a step of the system can be.

A caller begins a call, which ends at once, copies frames or stores a request; it goes on
with a call; or it is woken and returns (`CallerStep`). Everything else is a step of the
worker, the thread that cancels a wait, or nothing (`SystemStep`).
-/
import Nxvm.Audio.StreamSections

set_option autoImplicit false

namespace Nxvm.Audio

open Nxvm.Machine

/-! ## Requests -/

section Requests

variable {φ : Type}

theorem store_control_keeps (answer : Answer) (control : Control) (stream : PcmStream φ) :
    Keeps [.wake] { stream with control } (store_control answer control stream).1 :=
  signal_locked_keeps answer .wake { stream with control }

/-- Where a clear or a gain ends in its first section: with an error before the slot is
touched, or with the request stored. -/
theorem control_request_locked_cases (answer : Answer) (control : Control) (gains : List ℕ)
    (stream : PcmStream φ) :
    (∃ stream' status, control_request_locked answer control gains stream =
        (stream', some status) ∧ status ≠ .ok ∧
        (stream' = stream ∨ stream' = stream.reset_control_done)) ∨
      control_request_locked answer control gains stream =
        store_control answer control (if control = .clear then stream.reset_control_done.discard
          else { stream.reset_control_done with gains }) := by
  unfold control_request_locked
  by_cases hfailed : stream.failure ≠ .ok
  · rw [if_pos hfailed]
    exact Or.inl ⟨_, _, rfl, hfailed, Or.inl rfl⟩
  rw [if_neg hfailed]
  by_cases hlimit : control = .clear ∧ stream.progress.epoch = u64_max
  · rw [if_pos hlimit]
    exact Or.inl ⟨_, _, rfl, nofun, Or.inl rfl⟩
  rw [if_neg hlimit]
  by_cases hreset : answer.reset ≠ .ok
  · rw [if_pos hreset]
    exact Or.inl ⟨_, _, rfl, nofun, Or.inl rfl⟩
  rw [if_neg hreset]
  by_cases hwait : answer.cancel_wait ≠ .ok
  · rw [if_pos hwait]
    exact Or.inl ⟨_, _, rfl, nofun, Or.inr rfl⟩
  rw [if_neg hwait]
  exact Or.inr rfl

theorem flush_locked_cases (answer : Answer) (stream : PcmStream φ) :
    (∃ status, flush_locked answer stream = (stream, some status)) ∨
      stream.active = true ∧ stream.count ≠ 0 ∧
        flush_locked answer stream = store_control answer .flush stream.reset_control_done := by
  unfold flush_locked
  split_ifs with hfailed hactive hcount hreset
  · exact Or.inl ⟨_, rfl⟩
  · exact Or.inl ⟨_, rfl⟩
  · exact Or.inl ⟨_, rfl⟩
  · exact Or.inl ⟨_, rfl⟩
  · exact Or.inr ⟨by simpa using hactive, hcount, rfl⟩

theorem answered_locked_keeps (answer : Answer) (control : Control) (result : WaitResult)
    (stream : PcmStream φ) :
    Keeps [.space] stream (answered_locked answer control result stream).1 := by
  unfold answered_locked
  split_ifs
  · exact .refl stream
  · exact .refl stream
  · exact signal_locked_keeps answer .space stream
  · exact .refl stream

theorem answered_locked_ok {answer : Answer} {control : Control} {result : WaitResult}
    {stream : PcmStream φ} (h : (answered_locked answer control result stream).2 = .ok) :
    result = .signaled := by
  unfold answered_locked at h
  split_ifs at h with hfailed hresult hclear
  · exact absurd h hfailed
  · exact not_not.mp hresult
  · exact not_not.mp hresult

theorem reset_control_done_same (stream : PcmStream φ) :
    SameQueue stream stream.reset_control_done := ⟨rfl, rfl, rfl, rfl, rfl⟩

@[simp] theorem reset_control_done_event (stream : PcmStream φ) :
    stream.reset_control_done.event .control_done = false := by
  simp [PcmStream.reset_control_done]

/-- Whatever is prepared, `control_done` is reset. -/
theorem store_control_reset (answer : Answer) {control : Control} {stream stored : PcmStream φ}
    (hstored : stored.event = stream.reset_control_done.event) :
    (store_control answer control stored).1.event .control_done = false := by
  rw [(store_control_keeps answer control stored).event_eq (by simp)]
  change stored.event .control_done = false
  rw [hstored, reset_control_done_event]

end Requests

/-! ## Callers -/

section Callers

variable {ι φ : Type} [DecidableEq ι]

/-- A clear, a gain or a flush begins. -/
def Move.request : Move ι φ → Bool
  | .clear .. => true
  | .set_gain .. => true
  | .flush .. => true
  | _ => false

/-- The caller is in a request that is stored. -/
def Caller.requesting : Caller → Bool
  | .waiting _ => true
  | .woken .. => true
  | _ => false

/-- The stream as a request leaves it before it stores itself. -/
inductive Prepared (stream : PcmStream φ) : Control → PcmStream φ → Prop where
  | clear : Prepared stream .clear stream.reset_control_done.discard
  | gain (gains : List ℕ) : Prepared stream .gain { stream.reset_control_done with gains }
  | flush (active : stream.active = true) (count : stream.count ≠ 0) :
      Prepared stream .flush stream.reset_control_done

/-- A step of the caller `i`. -/
inductive CallerStep (move : Move ι φ) (system : System ι φ) (i : ι) :
    PcmStream φ → Caller → List (StreamEvent ι φ) → Prop where
  /-- The call ends in its first section. -/
  | refuse {stream' call status} (idle : system.caller i = .idle)
      (kept : stream' = system.stream ∨
        move.request = true ∧ stream' = system.stream.reset_control_done)
      (failed : call = .request .clear → status ≠ .ok) :
      CallerStep move system i stream' .idle [.returned i call status]
  | enqueue {stream' frames} (idle : system.caller i = .idle)
      (copied : enqueue_locked frames system.stream = (stream', none)) :
      CallerStep move system i stream'
        (.enqueue_signal (system.stream.room frames) system.stream.pending_output)
        [.enqueued system.stream.progress.epoch (frames.take (system.stream.room frames))]
  | store {control stored} (answer : Answer) (idle : system.caller i = .idle)
      (request : move.request = true) (prepared : Prepared system.stream control stored)
      (signaled : answer.signal .wake = .ok) :
      CallerStep move system i (store_control answer control stored).1 (.waiting control) []
  /-- The request is stored and the worker cannot be woken. -/
  | unheard {control stored} (answer : Answer) (idle : system.caller i = .idle)
      (request : move.request = true) (prepared : Prepared system.stream control stored)
      (failed : answer.signal .wake ≠ .ok) :
      CallerStep move system i (store_control answer control stored).1 .idle
        [.returned i (.request control) (answer.signal .wake)]
  /-- An enqueue goes on. -/
  | proceed {stream' caller'} {events : List (StreamEvent ι φ)}
      (enqueues : (system.caller i).requesting = false) (enqueues' : caller'.requesting = false)
      (kept : Keeps [.wake] system.stream stream')
      (returns : ∀ event ∈ events, ∃ accepted status,
        event = .returned i (.enqueue accepted) status) :
      CallerStep move system i stream' caller' events
  | wake {control answer stream'} (waits : system.caller i = .waiting control)
      (ended : wait_any answer .control_done system.stream = some stream') :
      CallerStep move system i stream' (.woken control answer.wait) []
  | answer {control result} (answer : Answer) (woken : system.caller i = .woken control result) :
      CallerStep move system i (answered_locked answer control result system.stream).1 .idle
        [.returned i (.request control)
          (answered_locked answer control result system.stream).2]

/-- A step of the system. -/
inductive SystemStep (move : Move ι φ) (system : System ι φ) :
    System ι φ → List (StreamEvent ι φ) → Prop where
  | stay : SystemStep move system system []
  | worker {answer stream' worker' events}
      (step : worker_step answer system.stream system.worker = some (stream', worker', events)) :
      SystemStep move system { system with stream := stream', worker := worker' } events
  | caller {i stream' caller' events} (step : CallerStep move system i stream' caller' events) :
      SystemStep move system (system.set stream' i caller') events
  | cancel_wait (answer : Answer) :
      SystemStep move system { system with stream := signal_locked answer .space system.stream } []

variable {move : Move ι φ} {system : System ι φ} {i : ι}

theorem Prepared.epoch_le {stream stored : PcmStream φ} {control : Control}
    (prepared : Prepared stream control stored) :
    stream.progress.epoch ≤ stored.progress.epoch := by
  cases prepared with
  | clear => exact Nat.le_succ _
  | gain gains => exact le_rfl
  | flush => exact le_rfl

theorem enqueue_locked_epoch {frames : List φ} {stream stream' : PcmStream φ}
    (h : enqueue_locked frames stream = (stream', none)) :
    stream'.progress.epoch = stream.progress.epoch := by
  unfold enqueue_locked at h
  split_ifs at h <;> exact (congrArg (fun r => r.1.progress.epoch) h).symm

@[simp] theorem System.set_caller (system : System ι φ) (stream : PcmStream φ) (i : ι)
    (caller : Caller) : (system.set stream i caller).caller i = caller := by
  simp [System.set]

/-- A call that leaves the stream and all callers alone is one of a caller that stays idle. -/
theorem System.set_idle (h : system.caller i = .idle) : system.set system.stream i .idle = system := by
  rw [System.set, ← h, Function.update_eq_self]

theorem enqueue_call_step (idle : system.caller i = .idle) (frames : List φ) :
    ∃ stream' caller', (enqueue_call system i frames).1 = system.set stream' i caller' ∧
      CallerStep move system i stream' caller' (enqueue_call system i frames).2 := by
  have hstay := (System.set_idle idle).symm
  unfold enqueue_call
  split_ifs with hlong hempty
  · exact ⟨_, _, hstay, .refuse idle (Or.inl rfl) nofun⟩
  · exact ⟨_, _, hstay, .refuse idle (Or.inl rfl) nofun⟩
  · rcases hlocked : enqueue_locked frames system.stream with ⟨stream', _ | status⟩
    · exact ⟨_, _, rfl, .enqueue idle hlocked⟩
    · have hkept : stream' = system.stream := by
        unfold enqueue_locked at hlocked
        split_ifs at hlocked <;>
          first
            | exact (congrArg Prod.fst hlocked).symm
            | exact absurd (congrArg Prod.snd hlocked) (Option.some_ne_none _).symm
      exact ⟨_, _, rfl, .refuse idle (Or.inl hkept) nofun⟩

/-- A request that is stored, or cannot wake the worker. -/
theorem request_store {control : Control} {stored : PcmStream φ} (answer : Answer)
    (idle : system.caller i = .idle) (request : move.request = true)
    (prepared : Prepared system.stream control stored) :
    ∃ stream' caller',
      (system.request i control (store_control answer control stored)).1 =
        system.set stream' i caller' ∧
      CallerStep move system i stream' caller'
        (system.request i control (store_control answer control stored)).2 := by
  by_cases hsignal : answer.signal .wake = .ok
  · have hstatus : (store_control answer control stored).2 = none := if_pos hsignal
    rw [← Prod.mk.eta (p := store_control answer control stored), hstatus]
    exact ⟨_, _, rfl, .store answer idle request prepared hsignal⟩
  · have hstatus : (store_control answer control stored).2 = some (answer.signal .wake) :=
      if_neg hsignal
    rw [← Prod.mk.eta (p := store_control answer control stored), hstatus]
    exact ⟨_, _, rfl, .unheard answer idle request prepared hsignal⟩

theorem control_request_step {control : Control} {gains : List ℕ} (answer : Answer)
    (idle : system.caller i = .idle) (request : move.request = true)
    (hcontrol : control = .clear ∨ control = .gain) :
    ∃ stream' caller',
      (system.request i control
        (control_request_locked answer control gains system.stream)).1 =
          system.set stream' i caller' ∧
      CallerStep move system i stream' caller' (system.request i control
        (control_request_locked answer control gains system.stream)).2 := by
  rcases control_request_locked_cases answer control gains system.stream with
    ⟨stream', status, hlocked, hstatus, hkept⟩ | hlocked
  · rw [hlocked]
    exact ⟨_, _, rfl, .refuse idle (hkept.imp_right fun h => ⟨request, h⟩) fun _ => hstatus⟩
  · rw [hlocked]
    refine request_store answer idle request ?_
    rcases hcontrol with rfl | rfl
    · exact .clear
    · exact .gain gains

theorem flush_step (answer : Answer) (idle : system.caller i = .idle)
    (request : move.request = true) :
    ∃ stream' caller',
      (system.request i .flush (flush_locked answer system.stream)).1 =
        system.set stream' i caller' ∧
      CallerStep move system i stream' caller'
        (system.request i .flush (flush_locked answer system.stream)).2 := by
  rcases flush_locked_cases answer system.stream with ⟨status, hlocked⟩ | ⟨hactive, hcount, hlocked⟩
  · rw [hlocked]
    exact ⟨_, _, rfl, .refuse idle (Or.inl rfl) nofun⟩
  · rw [hlocked]
    exact request_store answer idle request (.flush hactive hcount)

/-- The next step of a call that has begun. -/
theorem caller_step_step {answer : Answer} {r : System ι φ × List (StreamEvent ι φ)}
    (h : caller_step answer system i = some r) :
    ∃ stream' caller', r.1 = system.set stream' i caller' ∧
      CallerStep move system i stream' caller' r.2 := by
  unfold caller_step at h
  cases hcaller : system.caller i with
  | idle => simp [hcaller] at h
  | enqueue_signal accepted pending_output =>
    rw [hcaller] at h
    dsimp only at h
    have hset := raise_keeps .wake system.stream
    split_ifs at h
    all_goals obtain rfl := Option.some.inj h
    · exact ⟨_, _, rfl, .proceed (by rw [hcaller]; rfl) rfl hset (by simp)⟩
    · exact ⟨_, _, rfl, .proceed (by rw [hcaller]; rfl) rfl hset (by simp)⟩
    · exact ⟨_, _, rfl, .proceed (by rw [hcaller]; rfl) rfl (.refl _) (by simp)⟩
  | enqueue_cancel_wait accepted =>
    rw [hcaller] at h
    dsimp only at h
    split_ifs at h
    all_goals obtain rfl := Option.some.inj h
    · exact ⟨_, _, rfl, .proceed (by rw [hcaller]; rfl) rfl (.refl _) (by simp)⟩
    · exact ⟨_, _, rfl, .proceed (by rw [hcaller]; rfl) rfl (.refl _) (by simp)⟩
  | enqueue_fail accepted status =>
    rw [hcaller] at h
    obtain rfl := Option.some.inj h
    have hkeeps := (fail_locked_keeps status system.stream).trans (.refl _ : Keeps [.wake] _ _)
    exact ⟨_, _, rfl, .proceed (by rw [hcaller]; rfl) rfl hkeeps (by simp)⟩
  | waiting control =>
    rw [hcaller] at h
    obtain ⟨stream', hover, rfl⟩ := Option.map_eq_some_iff.mp h
    exact ⟨_, _, rfl, .wake hcaller hover⟩
  | woken control result =>
    rw [hcaller] at h
    obtain rfl := Option.some.inj h
    exact ⟨_, _, rfl, .answer answer hcaller⟩

theorem step_step {r : System ι φ × List (StreamEvent ι φ)} (h : step system move = some r) :
    SystemStep move system r.1 r.2 := by
  have hcall : (∃ i stream' caller', r.1 = system.set stream' i caller' ∧
      CallerStep move system i stream' caller' r.2) → SystemStep move system r.1 r.2 := by
    rintro ⟨i, stream', caller', heq, hstep⟩
    rw [heq]
    exact .caller hstep
  cases move with
  | worker answer =>
    obtain ⟨⟨stream', worker', events⟩, hstep, rfl⟩ := Option.map_eq_some_iff.mp h
    exact .worker hstep
  | enqueue i frames =>
    rw [step] at h
    split_ifs at h with hidle
    obtain rfl := Option.some.inj h
    exact hcall ⟨i, enqueue_call_step hidle frames⟩
  | clear i answer =>
    rw [step] at h
    split_ifs at h with hidle
    obtain rfl := Option.some.inj h
    exact hcall ⟨i, control_request_step answer hidle rfl (Or.inl rfl)⟩
  | set_gain i gains answer =>
    rw [step] at h
    split_ifs at h with hidle hlength
    · obtain rfl := Option.some.inj h
      exact hcall ⟨i, _, _, (System.set_idle hidle).symm, .refuse hidle (Or.inl rfl) nofun⟩
    · obtain rfl := Option.some.inj h
      exact hcall ⟨i, control_request_step answer hidle rfl (Or.inr rfl)⟩
  | flush i answer =>
    rw [step] at h
    split_ifs at h with hidle
    obtain rfl := Option.some.inj h
    exact hcall ⟨i, flush_step answer hidle rfl⟩
  | resume i answer => exact hcall ⟨i, caller_step_step h⟩
  | cancel_wait answer =>
    obtain rfl := Option.some.inj h
    exact .cancel_wait answer

theorem perform_step (system : System ι φ) (move : Move ι φ) :
    SystemStep move system (perform system move).1 (perform system move).2 := by
  unfold perform
  cases h : step system move with
  | none => exact .stay
  | some r => exact step_step h

end Callers

end Nxvm.Audio
