/-
A clear draws a line.

A clear that has stored its request has begun an epoch, and it waits until the worker
signals. The worker signals with no batch in its hand, and whatever it copies later is of the
new epoch. So behind a clear that has succeeded every batch is newer than every frame that
was copied in before it (`Fence`). This needs the one caller the interface asks for.
-/
import Nxvm.Audio.StreamBooks

set_option autoImplicit false

namespace Nxvm.Audio

open Nxvm.Lib Nxvm.Machine

/-! ## The frames of a run -/

section Run

variable {ι φ : Type} {trace events : List (StreamEvent ι φ)} {worker : Worker φ}

theorem Prepared.books {stream stored : PcmStream φ} {control : Control}
    (prepared : Prepared stream control stored) (books : Books trace stream worker) :
    Books trace stored worker := by
  have hreset := books.quiet (reset_control_done_same stream) (Or.inl rfl) rfl
  cases prepared with
  | clear => exact hreset.discard
  | gain gains => exact hreset.quiet ⟨rfl, rfl, rfl, rfl, rfl⟩ (Or.inl rfl) rfl
  | flush => exact hreset

/-- A stored request wakes the worker. -/
theorem store_control_books (answer : Answer) (control : Control) {stored : PcmStream φ}
    (books : Books trace stored worker) :
    Books trace (store_control answer control stored).1 worker :=
  have hasked : Books trace { stored with control } worker :=
    books.quiet ⟨rfl, rfl, rfl, rfl, rfl⟩ (Or.inl rfl) rfl
  hasked.quiet (store_control_keeps answer control stored).toSameQueue (Or.inl rfl) rfl

variable [DecidableEq ι] {move : Move ι φ} {system system' : System ι φ}

/-- Frames, ring and worker agree after a step as before it, whoever makes it. -/
theorem SystemStep.books (step : SystemStep move system system' events)
    (books : Books trace system.stream system.worker) :
    Books (trace ++ events) system'.stream system'.worker := by
  cases step with
  | stay => exact books.silent (by simp)
  | worker step => exact books.worker_step (worker_step_cases step)
  | cancel_wait answer =>
    exact (books.quiet (signal_locked_keeps answer .space system.stream).toSameQueue
      (Or.inl rfl) rfl).silent (by simp)
  | caller step =>
    cases step with
    | refuse idle kept failed =>
      refine Books.silent ?_ fun event hmem => by rw [List.mem_singleton.mp hmem]; trivial
      rcases kept with rfl | ⟨-, rfl⟩
      · exact books
      · exact books.quiet (reset_control_done_same _) (Or.inl rfl) rfl
    | enqueue idle copied => exact books.enqueue copied
    | store answer idle request prepared signaled =>
      exact (store_control_books answer _ (prepared.books books)).silent (by simp)
    | unheard answer idle request prepared failed =>
      refine (store_control_books answer _ (prepared.books books)).silent fun event hmem => ?_
      rw [List.mem_singleton.mp hmem]
      trivial
    | proceed enqueues enqueues' kept returns =>
      refine (books.quiet kept.toSameQueue (Or.inl rfl) rfl).silent fun event hmem => ?_
      obtain ⟨accepted, status, rfl⟩ := returns event hmem
      trivial
    | wake waits ended =>
      refine (books.quiet ?_ (Or.inl rfl) rfl).silent (by simp)
      rcases wait_any_cases ended with ⟨-, -, rfl⟩ | ⟨-, -, rfl⟩ | ⟨-, rfl⟩
      · exact ⟨rfl, rfl, rfl, rfl, rfl⟩
      · exact .refl _
      · exact .refl _
    | answer answer woken =>
      refine (books.quiet (answered_locked_keeps ..).toSameQueue (Or.inl rfl) rfl).silent
        fun event hmem => ?_
      rw [List.mem_singleton.mp hmem]
      trivial

end Run

/-! ## Events in order -/

section Order

variable {α : Type} {trace events before after : List α} {x : α}

/-- An occurrence that is not among the last events is in front of them. -/
theorem split_before (h : trace ++ events = before ++ x :: after) (hx : x ∉ events) :
    ∃ rest, trace = before ++ x :: rest ∧ after = rest ++ events := by
  rcases List.append_eq_append_iff.mp h with ⟨more, rfl, hevents⟩ | ⟨rest, rfl, hafter⟩
  · exact absurd (hevents ▸ List.mem_append_right _ (List.mem_cons_self ..)) hx
  · cases rest with
    | nil =>
      have hevents : x ∈ events := by
        rw [List.nil_append] at hafter
        exact hafter ▸ List.mem_cons_self ..
      exact absurd hevents hx
    | cons y rest =>
      obtain ⟨rfl, rfl⟩ := List.cons.inj hafter
      exact ⟨rest, rfl, rfl⟩

/-- An occurrence when one event has come: it is that one, or in front of it. -/
theorem split_last {y : α} (h : trace ++ [y] = before ++ x :: after) :
    x = y ∧ before = trace ∧ after = [] ∨
      ∃ rest, trace = before ++ x :: rest ∧ after = rest ++ [y] := by
  rcases List.append_eq_append_iff.mp h with ⟨more, rfl, hevents⟩ | ⟨rest, rfl, hafter⟩
  · cases more with
    | nil =>
      obtain ⟨rfl, rfl⟩ := List.cons.inj hevents
      exact Or.inl ⟨rfl, (List.append_nil _).symm ▸ rfl, rfl⟩
    | cons z more => simp at hevents
  · cases rest with
    | nil =>
      obtain ⟨rfl, rfl⟩ := List.cons.inj hafter
      exact Or.inl ⟨rfl, (List.append_nil _).symm, rfl⟩
    | cons z rest =>
      obtain ⟨rfl, rfl⟩ := List.cons.inj hafter
      exact Or.inr ⟨rest, rfl, rfl⟩

end Order

/-! ## One caller -/

section Fence

variable {φ : Type} {trace events : List (StreamEvent Unit φ)} {move : Move Unit φ}
  {system system' : System Unit φ}

/-- Every frame that was copied in is of an epoch before this one. -/
def Closed (trace : List (StreamEvent Unit φ)) (epoch : ℕ) : Prop :=
  ∀ e frames, .enqueued e frames ∈ trace → e < epoch

/-- A batch in the worker's hand is of this epoch. -/
def Worker.Fresh (worker : Worker φ) (epoch : ℕ) : Prop :=
  ∀ generation batch, worker.copied = some (generation, batch) → generation = epoch

/-- A clear has succeeded. -/
def StreamEvent.clear_returned : StreamEvent Unit φ := .returned () (.request .clear) .ok

/-- What a clear has behind it is older than what comes after it. -/
structure Fence (trace : List (StreamEvent Unit φ)) (stream : PcmStream φ) (worker : Worker φ)
    (caller : Caller) : Prop where
  old : ∀ e frames, .enqueued e frames ∈ trace → e ≤ stream.progress.epoch
  waiting : caller = .waiting .clear → Closed trace stream.progress.epoch ∧
    (stream.event .control_done = true → worker.Fresh stream.progress.epoch)
  woken : caller = .woken .clear .signaled →
    Closed trace stream.progress.epoch ∧ worker.Fresh stream.progress.epoch
  cleared : ∀ before after, trace = before ++ .clear_returned :: after →
    ∀ e frames, .enqueued e frames ∈ before →
      e < stream.progress.epoch ∧
      (∀ g batch, worker.copied = some (g, batch) → e < g) ∧
      ∀ g batch accepted, .offered g batch accepted ∈ after → e < g

/-- The worker signals `control_done` with no batch in its hand. -/
theorem worker_step_control_done {ι : Type} {answer : Answer} {stream stream' : PcmStream φ}
    {worker worker' : Worker φ} {events : List (StreamEvent ι φ)}
    (h : worker_step answer stream worker = some (stream', worker', events))
    (done : stream'.event .control_done = true) :
    stream.event .control_done = true ∨ worker'.copied = none := by
  cases worker with
  | loop | control | wait_progress | progressed | progress | wait_writable | writable
  | enqueue =>
    obtain ⟨rfl, -, -⟩ := by simpa [worker_step] using h
    exact Or.inl done
  | select =>
    obtain ⟨rfl, -, -⟩ := by simpa [worker_step] using h
    unfold select_locked at done
    split_ifs at done <;> exact Or.inl done
  | controlled control status =>
    obtain ⟨-, rfl, -⟩ := by simpa [worker_step] using h
    exact Or.inr rfl
  | observe generation played status submitted consumed =>
    obtain ⟨rfl, -, -⟩ := by simpa [worker_step] using h
    rw [(observe_locked_keeps ..).event_eq List.not_mem_nil] at done
    exact Or.inl done
  | wait_wake =>
    obtain ⟨hwait, rfl, -⟩ := by simpa [worker_step] using h
    exact Or.inr (by cases answer.wait <;> rfl)
  | fail status again =>
    obtain ⟨rfl, -, -⟩ := by simpa [worker_step] using h
    rw [(fail_locked_keeps ..).event_eq List.not_mem_nil] at done
    exact Or.inl done
  | settle generation played =>
    obtain ⟨-, rfl, -⟩ := by simpa [worker_step] using h
    exact Or.inr rfl
  | exited => simp [worker_step] at h

/-- What the worker holds after a step it held before or has copied in this epoch, and what it
offers it held. It copies nothing in and returns to nobody. -/
theorem WorkerStep.batches {ι : Type} {events : List (StreamEvent ι φ)}
    {stream stream' : PcmStream φ} {worker worker' : Worker φ}
    (step : WorkerStep stream worker stream' worker' events) :
    stream'.progress.epoch = stream.progress.epoch ∧
    (∀ g batch, worker'.copied = some (g, batch) →
      worker.copied = some (g, batch) ∨ g = stream.progress.epoch) ∧
    (∀ g batch accepted, .offered g batch accepted ∈ events →
      worker.copied = some (g, batch)) ∧
    (∀ e frames, .enqueued e frames ∉ events) ∧
    ∀ i call status, .returned i call status ∉ events := by
  cases step with
  | quiet same copied played platform =>
    refine ⟨same.epoch, fun g batch hc => ?_, fun g batch accepted hmem => ?_,
      fun e frames hmem => platform _ hmem, fun i call status hmem => platform _ hmem⟩
    · rcases copied with hkept | hdown
      · exact Or.inl (hkept ▸ hc)
      · rw [hdown] at hc
        cases hc
    · exact (platform _ hmem).elim
  | copy idle copied played =>
    refine ⟨rfl, fun g batch hc => ?_, by simp, by simp, by simp⟩
    rw [copied] at hc
    cases hc
    exact Or.inr rfl
  | offer holds idle of within copied offered =>
    refine ⟨rfl, fun g batch hc => ?_, fun g batch accepted hmem => ?_, by simp, by simp⟩
    · rw [copied] at hc
      cases hc
    · cases List.mem_singleton.mp hmem
      exact holds
  | refuse holds idle copied refused =>
    refine ⟨rfl, fun g batch hc => ?_, by simp, by simp, by simp⟩
    rw [copied] at hc
    cases hc
  | settle holds same =>
    refine ⟨by rw [same.epoch, dequeue_epoch], fun g batch hc => (nomatch hc), ?_⟩
    split_ifs <;> simp

namespace Fence

/-- The lines that are drawn stay drawn, whatever is seen but the end of a clear. -/
theorem cleared_extend {stream stream' : PcmStream φ} {worker worker' : Worker φ}
    {caller : Caller} (fence : Fence trace stream worker caller)
    (hno : StreamEvent.clear_returned ∉ events)
    (hepoch : stream.progress.epoch ≤ stream'.progress.epoch)
    (hcopied : ∀ g batch, worker'.copied = some (g, batch) →
      worker.copied = some (g, batch) ∨ g = stream.progress.epoch)
    (hoffered : ∀ g batch accepted, .offered g batch accepted ∈ events →
      worker.copied = some (g, batch)) :
    ∀ before after, trace ++ events = before ++ .clear_returned :: after →
      ∀ e frames, .enqueued e frames ∈ before →
        e < stream'.progress.epoch ∧
        (∀ g batch, worker'.copied = some (g, batch) → e < g) ∧
        ∀ g batch accepted, .offered g batch accepted ∈ after → e < g := by
  intro before after hsplit e frames hmem
  obtain ⟨rest, htrace, rfl⟩ := split_before hsplit hno
  obtain ⟨hlt, hheld, hseen⟩ := fence.cleared before rest htrace e frames hmem
  refine ⟨hlt.trans_le hepoch, fun g batch hc => ?_, fun g batch accepted hoff => ?_⟩
  · rcases hcopied g batch hc with hold | rfl
    · exact hheld g batch hold
    · exact hlt
  · rcases List.mem_append.mp hoff with hold | hnew
    · exact hseen g batch accepted hold
    · exact hheld g batch (hoffered g batch accepted hnew)

/-- A step of the worker. -/
theorem worker {answer : Answer} {stream stream' : PcmStream φ} {worker worker' : Worker φ}
    {caller : Caller} (fence : Fence trace stream worker caller)
    (step : worker_step answer stream worker = some (stream', worker', events)) :
    Fence (trace ++ events) stream' worker' caller := by
  obtain ⟨hepoch, hcopied, hoffered, henqueued, hreturned⟩ := (worker_step_cases step).batches
  have hfrom : ∀ e frames, .enqueued e frames ∈ trace ++ events → .enqueued e frames ∈ trace :=
    fun e frames hmem => (List.mem_append.mp hmem).resolve_right (henqueued e frames)
  have hfresh : worker.Fresh stream.progress.epoch → worker'.Fresh stream.progress.epoch :=
    fun h g batch hc => (hcopied g batch hc).elim (h g batch) id
  refine ⟨fun e frames hmem => ?_, fun hwaiting => ?_, fun hwoken => ?_,
    fence.cleared_extend (hreturned _ _ _) hepoch.ge hcopied hoffered⟩
  · rw [hepoch]
    exact fence.old e frames (hfrom e frames hmem)
  · obtain ⟨hclosed, hdone⟩ := fence.waiting hwaiting
    rw [hepoch]
    refine ⟨fun e frames hmem => hclosed e frames (hfrom e frames hmem), fun hset => ?_⟩
    rcases worker_step_control_done step hset with hbefore | hnone
    · exact hfresh (hdone hbefore)
    · intro g batch hc
      rw [hnone] at hc
      cases hc
  · obtain ⟨hclosed, hheld⟩ := fence.woken hwoken
    rw [hepoch]
    exact ⟨fun e frames hmem => hclosed e frames (hfrom e frames hmem), hfresh hheld⟩

/-- A caller that is not in a clear, whatever it has seen of the stream. -/
theorem other {stream stream' : PcmStream φ} {worker : Worker φ} {caller caller' : Caller}
    (fence : Fence trace stream worker caller)
    (hepoch : stream.progress.epoch ≤ stream'.progress.epoch)
    (hwaiting : caller' ≠ .waiting .clear) (hwoken : caller' ≠ .woken .clear .signaled)
    (hno : StreamEvent.clear_returned ∉ events)
    (hold : ∀ e frames, .enqueued e frames ∈ events → e ≤ stream.progress.epoch)
    (hoffered : ∀ g batch accepted, .offered g batch accepted ∉ events) :
    Fence (trace ++ events) stream' worker caller' := by
  refine ⟨fun e frames hmem => ?_, fun h => absurd h hwaiting, fun h => absurd h hwoken,
    fence.cleared_extend hno hepoch (fun g batch hc => Or.inl hc)
      fun g batch accepted hmem => absurd hmem (hoffered g batch accepted)⟩
  refine LE.le.trans ?_ hepoch
  exact (List.mem_append.mp hmem).elim (fence.old e frames) (hold e frames)

/-- A clear stores its request. -/
theorem store_clear {answer : Answer} {stream : PcmStream φ} {worker : Worker φ}
    {caller : Caller} (fence : Fence trace stream worker caller) :
    Fence trace (store_control answer .clear stream.reset_control_done.discard).1 worker
      (.waiting .clear) := by
  have hkeeps := store_control_keeps answer .clear stream.reset_control_done.discard
  have hepoch : (store_control answer .clear stream.reset_control_done.discard).1.progress.epoch =
      stream.progress.epoch + 1 := hkeeps.epoch
  have hdone : (store_control answer .clear stream.reset_control_done.discard).1.event
      .control_done = false := store_control_reset answer rfl
  have hlater : stream.progress.epoch ≤ (store_control answer .clear
      stream.reset_control_done.discard).1.progress.epoch := by omega
  have hcleared := fence.cleared_extend List.not_mem_nil hlater (fun g batch hc => Or.inl hc)
    (by simp)
  rw [List.append_nil] at hcleared
  refine ⟨fun e frames hmem => ?_, fun _ => ⟨fun e frames hmem => ?_, fun hset => ?_⟩, nofun,
    hcleared⟩
  · have hle := fence.old e frames hmem
    omega
  · have hle := fence.old e frames hmem
    omega
  · rw [hdone] at hset
    cases hset

/-- The caller has seen `control_done`, or does not wait any more. -/
theorem wake {answer : Answer} {control : Control} {stream stream' : PcmStream φ}
    {worker : Worker φ} (fence : Fence trace stream worker (.waiting control))
    (ended : wait_any answer .control_done stream = some stream') :
    Fence trace stream' worker (.woken control answer.wait) := by
  have hepoch : stream'.progress.epoch = stream.progress.epoch := by
    rcases wait_any_cases ended with ⟨-, -, rfl⟩ | ⟨-, -, rfl⟩ | ⟨-, rfl⟩ <;> rfl
  refine ⟨?_, nofun, fun hwoken => ?_, ?_⟩
  · rw [hepoch]
    exact fence.old
  · obtain ⟨rfl, hsignaled⟩ := Caller.woken.inj hwoken
    obtain ⟨hclosed, hdone⟩ := fence.waiting rfl
    rw [hepoch]
    refine ⟨hclosed, ?_⟩
    rcases wait_any_cases ended with ⟨-, hset, -⟩ | ⟨hwait, -⟩ | ⟨hwait, -⟩
    · exact hdone hset
    · rw [hwait] at hsignaled
      cases hsignaled
    · rw [hwait] at hsignaled
      cases hsignaled
  · rw [hepoch]
    exact fence.cleared

/-- A request returns: a clear that has succeeded draws its line. -/
theorem answer {answer : Answer} {control : Control} {result : WaitResult}
    {stream : PcmStream φ} {worker : Worker φ}
    (fence : Fence trace stream worker (.woken control result)) :
    Fence (trace ++ [.returned () (.request control)
        (answered_locked answer control result stream).2])
      (answered_locked answer control result stream).1 worker .idle := by
  have hepoch : (answered_locked answer control result stream).1.progress.epoch =
      stream.progress.epoch := (answered_locked_keeps answer control result stream).epoch
  refine ⟨fun e frames hmem => ?_, nofun, nofun, fun before after hsplit e frames hmem => ?_⟩
  · rw [hepoch]
    exact fence.old e frames (by simpa using hmem)
  · rw [hepoch]
    rcases split_last hsplit with ⟨hlast, rfl, rfl⟩ | ⟨rest, htrace, rfl⟩
    · obtain ⟨-, hcall, hok⟩ := StreamEvent.returned.inj hlast
      obtain rfl := answered_locked_ok hok.symm
      obtain rfl := Call.request.inj hcall
      obtain ⟨hclosed, hfresh⟩ := fence.woken rfl
      have hlt := hclosed e frames hmem
      refine ⟨hlt, fun g batch hc => ?_, by simp⟩
      rw [hfresh g batch hc]
      exact hlt
    · obtain ⟨hlt, hheld, hseen⟩ := fence.cleared before rest htrace e frames hmem
      exact ⟨hlt, hheld, fun g batch accepted hoff => hseen g batch accepted (by simpa using hoff)⟩

end Fence

/-- A step of the system with its one caller. -/
theorem SystemStep.fence (step : SystemStep move system system' events)
    (fence : Fence trace system.stream system.worker (system.caller ())) :
    Fence (trace ++ events) system'.stream system'.worker (system'.caller ()) := by
  cases step with
  | stay =>
    rw [List.append_nil]
    exact fence
  | worker step => exact fence.worker step
  | cancel_wait answer =>
    rw [List.append_nil]
    have hkeeps := signal_locked_keeps answer .space system.stream
    refine ⟨?_, ?_, ?_, ?_⟩
    · rw [hkeeps.epoch]
      exact fence.old
    · rw [hkeeps.epoch, hkeeps.event_eq (by simp)]
      exact fence.waiting
    · rw [hkeeps.epoch]
      exact fence.woken
    · rw [hkeeps.epoch]
      exact fence.cleared
  | @caller i stream' caller' events step =>
    rw [System.set_caller]
    cases step with
    | refuse idle kept failed =>
      refine fence.other ?_ nofun nofun ?_ (by simp) (by simp)
      · rcases kept with rfl | ⟨-, rfl⟩ <;> exact le_rfl
      · intro hmem
        obtain ⟨-, hcall, hok⟩ := StreamEvent.returned.inj (List.mem_singleton.mp hmem)
        exact failed hcall.symm hok.symm
    | enqueue idle copied =>
      refine fence.other (enqueue_locked_epoch copied).ge nofun nofun
        (by simp [StreamEvent.clear_returned]) ?_ (by simp)
      · intro e frames hmem
        obtain ⟨rfl, -⟩ := StreamEvent.enqueued.inj (List.mem_singleton.mp hmem)
        exact le_rfl
    | @store control stored answer idle request prepared signaled =>
      by_cases hclear : control = .clear
      · subst hclear
        cases prepared
        rw [List.append_nil]
        exact fence.store_clear
      · have hepoch := (store_control_keeps answer control stored).epoch
        exact fence.other (prepared.epoch_le.trans hepoch.ge)
          (fun h => hclear (Caller.waiting.inj h)) nofun List.not_mem_nil (by simp) (by simp)
    | @unheard control stored answer idle request prepared failed =>
      have hepoch := (store_control_keeps answer control stored).epoch
      refine fence.other (prepared.epoch_le.trans hepoch.ge) nofun nofun ?_ (by simp) (by simp)
      intro hmem
      exact failed (StreamEvent.returned.inj (List.mem_singleton.mp hmem)).2.2.symm
    | proceed enqueues enqueues' kept returns =>
      refine fence.other kept.epoch.ge ?_ ?_ ?_ (fun e frames hmem => ?_)
        fun g batch accepted hmem => ?_
      · rintro rfl
        cases enqueues'
      · rintro rfl
        cases enqueues'
      · intro hmem
        obtain ⟨accepted, status, heq⟩ := returns _ hmem
        cases heq
      · obtain ⟨accepted, status, heq⟩ := returns _ hmem
        cases heq
      · obtain ⟨accepted, status, heq⟩ := returns _ hmem
        cases heq
    | wake waits ended =>
      rw [List.append_nil]
      exact Fence.wake (waits ▸ fence) ended
    | answer answer woken => exact Fence.answer (woken ▸ fence)

end Fence

/-! ## A run -/

section Epochs

variable {φ : Type} {trace events : List (StreamEvent Unit φ)} {move : Move Unit φ}
  {system system' : System Unit φ}

/-- A batch is offered only if its frames follow those of its epoch that were accepted. -/
def Offers (trace : List (StreamEvent Unit φ)) : Prop :=
  ∀ before after g batch accepted, trace = before ++ .offered g batch accepted :: after →
    accepted_in g before ++ batch <+: enqueued_in g before

theorem Offers.extend (offers : Offers trace)
    (h : ∀ g batch accepted, .offered g batch accepted ∉ events) : Offers (trace ++ events) := by
  intro before after g batch accepted hsplit
  obtain ⟨rest, htrace, -⟩ := split_before hsplit (h g batch accepted)
  exact offers before rest g batch accepted htrace

theorem SystemStep.offers (step : SystemStep move system system' events)
    (books : Books trace system.stream system.worker) (offers : Offers trace) :
    Offers (trace ++ events) := by
  cases step with
  | stay => exact offers.extend (by simp)
  | cancel_wait answer => exact offers.extend (by simp)
  | worker step =>
    cases worker_step_cases step with
    | quiet same copied played platform =>
      exact offers.extend fun g batch accepted hmem => platform _ hmem
    | copy idle copied played => exact offers.extend (by simp)
    | refuse holds idle copied refused => exact offers.extend (by simp)
    | settle holds same => exact offers.extend (by split_ifs <;> simp)
    | offer holds idle of within copied offered =>
      intro before after g batch accepted hsplit
      rcases split_last hsplit with ⟨hlast, rfl, -⟩ | ⟨rest, htrace, -⟩
      · obtain ⟨rfl, rfl, -⟩ := StreamEvent.offered.inj hlast
        exact (books.copied _ _ holds).2.1
      · exact offers before rest g batch accepted htrace
  | caller step =>
    cases step with
    | refuse | enqueue | store | unheard | wake | answer => exact offers.extend (by simp)
    | proceed enqueues enqueues' kept returns =>
      refine offers.extend fun g batch accepted hmem => ?_
      obtain ⟨accepted, status, heq⟩ := returns _ hmem
      cases heq

/-- A run keeps the books, draws its lines and offers in order. -/
theorem run_kept (moves : List (Move Unit φ)) (system : System Unit φ)
    {trace : List (StreamEvent Unit φ)} (books : Books trace system.stream system.worker)
    (fence : Fence trace system.stream system.worker (system.caller ()))
    (offers : Offers trace) :
    Books (trace ++ (run system moves).2) (run system moves).1.stream
        (run system moves).1.worker ∧
      Fence (trace ++ (run system moves).2) (run system moves).1.stream
        (run system moves).1.worker ((run system moves).1.caller ()) ∧
      Offers (trace ++ (run system moves).2) := by
  induction moves generalizing trace system with
  | nil =>
    rw [run, List.append_nil]
    exact ⟨books, fence, offers⟩
  | cons move moves ih =>
    have step := perform_step system move
    rw [run, ← List.append_assoc]
    exact ih _ (step.books books) (step.fence fence) (step.offers books offers)

/-- What a stream owes to the frames of its epochs. -/
structure EpochsKept (trace : List (StreamEvent Unit φ)) (stream : PcmStream φ) : Prop where
  /-- What the platform accepted are the first frames of the epoch, in order and once. -/
  first : ∀ g, accepted_in g trace <+: enqueued_in g trace
  room : stream.count ≤ queue_capacity
  counted : stream.progress.accepted_frames =
    (dequeued_in stream.progress.epoch trace).length + stream.count
  /-- Frames leave in the epoch their batch was copied in, and they are the batch's. -/
  matched : ∀ e g removed played, .dequeued e g removed played ∈ trace →
    e = g ∧ removed = played
  /-- A batch continues what was accepted of the frames of its epoch. -/
  offered : ∀ before after g batch accepted,
    trace = before ++ .offered g batch accepted :: after →
      accepted_in g before ++ batch <+: enqueued_in g before
  /-- After a clear has succeeded, what is offered is newer than what was copied in before. -/
  cleared : ∀ before after, trace = before ++ .returned () (.request .clear) .ok :: after →
    ∀ e frames, .enqueued e frames ∈ before →
      ∀ g batch accepted, .offered g batch accepted ∈ after → e < g

/-- The stream of one caller, over every run and whatever the platform answers. -/
theorem stream_run_epochs (samples : ℕ → φ) (channel_count : ℕ) (gains : List ℕ)
    (moves : List (Move Unit φ)) :
    EpochsKept (run (.created samples channel_count gains) moves).2
      (run (.created samples channel_count gains) moves).1.stream := by
  have hcreated : Fence ([] : List (StreamEvent Unit φ))
      (PcmStream.created samples channel_count gains) .loop .idle :=
    ⟨by simp, nofun, nofun, by simp⟩
  have hbooks : Books ([] : List (StreamEvent Unit φ))
      (PcmStream.created samples channel_count gains) .loop :=
    Books.created samples channel_count gains
  have hkept := run_kept moves (.created samples channel_count gains) hbooks hcreated
    (by simp [Offers])
  rw [List.nil_append] at hkept
  obtain ⟨books, fence, offers⟩ := hkept
  refine ⟨books.first, books.room, ?_, books.matched, offers, ?_⟩
  · rw [books.counted, books.ring, List.length_append, PcmStream.queue_length]
  · intro before after hsplit e frames hmem
    exact (fence.cleared before after hsplit e frames hmem).2.2

/-- A frame is copied in; a clear cannot interrupt the platform and returns; then the worker
plays the frame. -/
def clear_not_stored : List (Move Unit Unit) :=
  [.enqueue () [()], .resume () .success,
    .clear () { Answer.success with cancel_wait := .io_error },
    .worker .success, .worker .success, .worker .success, .worker .success,
    .worker { Answer.success with accepted := 1 }]

/-- A clear that returns an error has discarded nothing. -/
theorem stream_run_failed_clear :
    ¬ ∀ (moves : List (Move Unit Unit)) (before after : List (StreamEvent Unit Unit))
        (status : Status),
      (run (.created (fun _ => ()) 1 []) moves).2 =
          before ++ .returned () (.request .clear) status :: after →
        ∀ e frames, .enqueued e frames ∈ before →
          ∀ g batch accepted, .offered g batch accepted ∈ after → e < g := by
  intro h
  have htrace : (run (.created (fun _ => ()) 1 []) clear_not_stored).2 =
      [.enqueued 0 [()], .returned () (.enqueue 1) .ok] ++
        .returned () (.request .clear) .io_error :: [.offered 0 [()] 1] := by
    rfl
  exact absurd (h clear_not_stored _ _ _ htrace 0 [()] (by simp) 0 [()] 1 (by simp))
    (Nat.lt_irrefl 0)

end Epochs

end Nxvm.Audio
