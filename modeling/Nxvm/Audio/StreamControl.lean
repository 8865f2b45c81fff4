/-
The slot of the requests and the caller that waits for it.

There is one slot and one completion event for three kinds of request. As long as no request
begins while another one is stored (`Serialized`), whoever waits is served: the event is set,
the worker is about to set it, the stream has failed, or the request is still in the slot and
the worker is going to look at it (`Served`). Enqueues and cancelled waits may come at any
time, from any thread. Two threads that do not keep to this can lose a flush.
-/
import Nxvm.Audio.StreamSteps

set_option autoImplicit false

namespace Nxvm.Audio

open Nxvm.Machine

/-! ## Settling -/

section Settling

variable {φ : Type}

/-- What settling does to whoever waits: it answers, or leaves the request in the slot, a
flush only with frames in the ring. -/
structure Settled (stream stream' : PcmStream φ) : Prop where
  active : stream'.active = stream.active
  terminal : stream.Terminal → stream'.Terminal
  failed : stream.failure ≠ .ok → stream'.failure ≠ .ok
  raise : ∀ e, stream.event e = true → stream'.event e = true
  slot : stream'.control = stream.control ∧ (stream.control = .flush → stream'.count ≠ 0) ∨
    stream'.event .control_done = true ∨ stream'.failure ≠ .ok

/-- Sections that keep the slot can follow. -/
theorem Settled.then {stream stream' stream'' : PcmStream φ} {raised : List SyncEvent}
    (h : Settled stream stream') (keeps : Keeps raised stream' stream'') :
    Settled stream stream'' where
  active := keeps.active.trans h.active
  terminal ht := keeps.terminal (h.terminal ht)
  failed hf := keeps.failed (h.failed hf)
  raise e he := keeps.raise (h.raise e he)
  slot := by
    rcases h.slot with ⟨hcontrol, hcount⟩ | hdone | hfailed
    · refine Or.inl ⟨keeps.control.trans hcontrol, fun hflush => ?_⟩
      rw [keeps.count]
      exact hcount hflush
    · exact Or.inr (Or.inl (keeps.raise hdone))
    · exact Or.inr (Or.inr (keeps.failed hfailed))

theorem acknowledge_flush_settled (answer : Answer) (stream : PcmStream φ) :
    Settled stream (acknowledge_flush answer stream) := by
  rcases acknowledge_flush_cases answer stream with ⟨heq, hcount⟩ | ⟨heq, -⟩
  · rw [heq]
    exact ⟨rfl, id, id, fun _ => id, Or.inl ⟨rfl, fun hflush => (hcount hflush).2⟩⟩
  · have hkeeps := signal_locked_keeps answer .control_done { stream with control := .none }
    rw [heq]
    exact ⟨hkeeps.active, hkeeps.terminal, hkeeps.failed, fun e he => hkeeps.raise he,
      Or.inr (signal_locked_heard answer .control_done _)⟩

theorem settle_locked_settled (answer : Answer) (generation : ℕ) (played : Played φ)
    (stream : PcmStream φ) :
    Settled stream (settle_locked answer generation played stream) := by
  -- the ring apart, the frames leave everything as it is
  have hleft : ∀ stream' : PcmStream φ, Settled (dequeue generation played stream) stream' →
      Settled stream stream' := by
    intro stream' h
    unfold dequeue at h
    split_ifs at h
    · exact ⟨h.active, h.terminal, h.failed, h.raise, h.slot⟩
    · exact h
  refine hleft _ ?_
  unfold settle_locked
  dsimp only
  generalize dequeue generation played stream = left
  have hreport : Keeps [] left (if played.status ≠ .ok ∧ played.status ≠ .limit_exceeded then
      fail_locked played.status left else left) := by
    split_ifs
    · exact fail_locked_keeps played.status left
    · exact .refl left
  generalize (if played.status ≠ .ok ∧ played.status ≠ .limit_exceeded then
    fail_locked played.status left else left) = reported at hreport ⊢
  have hacknowledged := acknowledge_flush_settled answer reported
  have hsettled : Settled left (acknowledge_flush answer reported) :=
    ⟨hacknowledged.active.trans hreport.active,
      fun ht => hacknowledged.terminal (hreport.terminal ht),
      fun hf => hacknowledged.failed (hreport.failed hf),
      fun e he => hacknowledged.raise e (hreport.raise he), by
      rw [← hreport.control]
      exact hacknowledged.slot⟩
  split_ifs
  · exact hsettled.then (signal_locked_keeps answer .space _)
  · exact hsettled

end Settling

/-! ## Whoever waits is served -/

section Served

variable {φ : Type} {stream stream' : PcmStream φ} {worker worker' : Worker φ}
  {control : Control}

/-- The worker has a request in its hand and is going to signal. -/
def Worker.answering : Worker φ → Bool
  | .control _ => true
  | .controlled .. => true
  | _ => false

/-- The request is in the slot, and the worker is going to find it there. -/
def Stored (stream : PcmStream φ) (worker : Worker φ) (control : Control) : Prop :=
  control ≠ .none ∧ stream.control = control ∧ (control = .flush → stream.count ≠ 0) ∧
    (worker = .wait_wake → stream.event .wake = true)

/-- A caller that waits for `control_done` with this request is going to be woken. -/
def Served (stream : PcmStream φ) (worker : Worker φ) (control : Control) : Prop :=
  stream.failure ≠ .ok ∨ stream.event .control_done = true ∨ worker.answering = true ∨
    Stored stream worker control

theorem Served.keeps {raised : List SyncEvent} (keeps : Keeps raised stream stream')
    (h : Served stream worker control) : Served stream' worker control := by
  rcases h with hfailed | hdone | hanswering | ⟨hsome, hslot, hcount, hwake⟩
  · exact Or.inl (keeps.failed hfailed)
  · exact Or.inr (Or.inl (keeps.raise hdone))
  · exact Or.inr (Or.inr (Or.inl hanswering))
  · refine Or.inr (Or.inr (Or.inr ⟨hsome, keeps.control.trans hslot, ?_, ?_⟩))
    · rw [keeps.count]
      exact hcount
    · exact fun h => keeps.raise (hwake h)

/-- The worker goes on, and not to sleep. -/
theorem Served.move (h : Served stream worker control) (hidle : worker.answering = false)
    (hawake : worker' ≠ .wait_wake) : Served stream worker' control := by
  rcases h with hfailed | hdone | hanswering | ⟨hsome, hslot, hcount, -⟩
  · exact Or.inl hfailed
  · exact Or.inr (Or.inl hdone)
  · rw [hidle] at hanswering
    cases hanswering
  · exact Or.inr (Or.inr (Or.inr ⟨hsome, hslot, hcount, fun h => absurd h hawake⟩))

/-- The worker goes to sleep only with nothing to do for whoever waits. -/
theorem Served.select (h : Served stream .select control) (hactive : stream.active = true) :
    Served (select_locked stream).1 (select_locked stream).2 control := by
  unfold select_locked
  split_ifs with htaken hbatch hpending
  · exact Or.inr (Or.inr (Or.inl rfl))
  · exact h.move rfl nofun
  · exact h.move rfl nofun
  · rcases h with hfailed | hdone | hanswering | ⟨hsome, hslot, hcount, -⟩
    · exact Or.inl hfailed
    · exact Or.inr (Or.inl hdone)
    · cases hanswering
    · refine Or.inl fun hok => hbatch ⟨hok, hactive, hcount ?_⟩
      cases control with
      | none => exact absurd rfl hsome
      | clear => exact absurd (Or.inl hslot) htaken
      | gain => exact absurd (Or.inr hslot) htaken
      | flush => rfl

theorem Served.settle {answer : Answer} {generation : ℕ} {played : Played φ}
    (h : Served stream (.settle generation played) control) :
    Served (settle_locked answer generation played stream) .loop control := by
  have hsettled := settle_locked_settled answer generation played stream
  rcases h with hfailed | hdone | hanswering | ⟨hsome, hslot, hcount, -⟩
  · exact Or.inl (hsettled.failed hfailed)
  · exact Or.inr (Or.inl (hsettled.raise _ hdone))
  · cases hanswering
  · rcases hsettled.slot with ⟨hkept, hleft⟩ | hdone | hfailed
    · refine Or.inr (Or.inr (Or.inr ⟨hsome, hkept.trans hslot, fun hflush => ?_, nofun⟩))
      exact hleft (hslot.trans hflush)
    · exact Or.inr (Or.inl hdone)
    · exact Or.inl hfailed

end Served

/-! ## The worker -/

section Worker

variable {ι φ : Type} {stream stream' : PcmStream φ} {worker worker' : Worker φ}
  {events : List (StreamEvent ι φ)} {answer : Answer}

/-- The stream is active, only a failure cancels the worker, and only then does it leave. -/
structure Alive (stream : PcmStream φ) (worker : Worker φ) : Prop where
  active : stream.active = true
  terminal : stream.Terminal
  exited : worker = .exited → stream.failure ≠ .ok
  failing : ∀ status, worker = .fail status false → status ≠ .ok

theorem Alive.keeps {raised : List SyncEvent} (alive : Alive stream worker)
    (keeps : Keeps raised stream stream') : Alive stream' worker :=
  ⟨keeps.active.trans alive.active, keeps.terminal alive.terminal,
    fun h => keeps.failed (alive.exited h), alive.failing⟩

/-- The worker goes on, and leaves only when it is cancelled. -/
theorem Alive.move (alive : Alive stream worker)
    (hexited : worker' = .exited → stream.cancelled = true)
    (hfailing : ∀ status, worker' = .fail status false → status ≠ .ok) : Alive stream worker' :=
  ⟨alive.active, alive.terminal, fun h => alive.terminal.mp (hexited h), hfailing⟩

theorem Alive.worker_step (alive : Alive stream worker)
    (step : worker_step answer stream worker = some (stream', worker', events)) :
    Alive stream' worker' := by
  cases worker with
  | loop =>
    obtain ⟨rfl, rfl, -⟩ := by simpa [Audio.worker_step] using step
    exact alive.move (by split_ifs with h <;> simp [h]) (by split_ifs <;> simp)
  | select =>
    obtain ⟨rfl, rfl, -⟩ := by simpa [Audio.worker_step] using step
    unfold select_locked
    split_ifs
    · exact ⟨alive.active, alive.terminal, nofun, nofun⟩
    · exact alive.move nofun nofun
    · exact alive.move nofun nofun
    · exact alive.move nofun nofun
  | control | wait_progress | progress | wait_writable =>
    obtain ⟨rfl, rfl, -⟩ := by simpa [Audio.worker_step] using step
    exact alive.move nofun nofun
  | controlled control status =>
    obtain ⟨rfl, rfl, -⟩ := by simpa [Audio.worker_step] using step
    exact (alive.keeps (controlled_locked_keeps ..)).move nofun nofun
  | progressed generation status =>
    obtain ⟨rfl, rfl, -⟩ := by simpa [Audio.worker_step] using step
    exact alive.move (by split_ifs with h <;> simp [h]) (by split_ifs <;> simp)
  | observe generation played status submitted consumed =>
    obtain ⟨rfl, rfl, -⟩ := by simpa [Audio.worker_step] using step
    exact (alive.keeps (observe_locked_keeps ..)).move (by cases played <;> nofun)
      (by cases played <;> nofun)
  | wait_wake =>
    obtain ⟨hwait, rfl, -⟩ := by simpa [Audio.worker_step] using step
    rcases wait_any_cases hwait with ⟨hresult, -, rfl⟩ | ⟨hresult, hcancelled, rfl⟩ |
      ⟨hresult, rfl⟩
    · rw [hresult]
      exact ⟨alive.active, alive.terminal, nofun, nofun⟩
    · rw [hresult]
      exact alive.move (fun _ => hcancelled) nofun
    · rw [hresult]
      exact alive.move nofun fun status h => by cases h; exact nofun
  | fail status again =>
    obtain ⟨rfl, rfl, -⟩ := by simpa [Audio.worker_step] using step
    have hkeeps := alive.keeps (fail_locked_keeps status stream)
    refine ⟨hkeeps.active, hkeeps.terminal, fun h => ?_, by split_ifs <;> nofun⟩
    cases again with
    | true => cases h
    | false => exact fail_locked_failure (alive.failing status rfl) stream
  | writable generation batch status =>
    obtain ⟨rfl, rfl, -⟩ := by simpa [Audio.worker_step] using step
    exact alive.move (by split_ifs with h <;> simp [h]) (by split_ifs <;> simp)
  | enqueue generation batch =>
    obtain ⟨rfl, rfl, -⟩ := by simpa [Audio.worker_step] using step
    exact alive.move (by split_ifs <;> nofun) (by split_ifs <;> nofun)
  | settle generation played =>
    obtain ⟨rfl, rfl, -⟩ := by simpa [Audio.worker_step] using step
    have hsettled := settle_locked_settled answer generation played stream
    exact ⟨hsettled.active.trans alive.active, hsettled.terminal alive.terminal, nofun, nofun⟩
  | exited => simp [Audio.worker_step] at step

/-- A step of the worker takes nothing from whoever waits. -/
theorem Served.worker_step {control : Control} (h : Served stream worker control)
    (alive : Alive stream worker)
    (step : worker_step answer stream worker = some (stream', worker', events)) :
    Served stream' worker' control := by
  cases worker with
  | loop =>
    obtain ⟨rfl, rfl, -⟩ := by simpa [Audio.worker_step] using step
    exact h.move rfl (by split_ifs <;> nofun)
  | select =>
    obtain ⟨rfl, rfl, -⟩ := by simpa [Audio.worker_step] using step
    exact h.select alive.active
  | control taken =>
    obtain ⟨rfl, rfl, -⟩ := by simpa [Audio.worker_step] using step
    exact Or.inr (Or.inr (Or.inl rfl))
  | controlled taken status =>
    obtain ⟨rfl, rfl, -⟩ := by simpa [Audio.worker_step] using step
    exact (signal_locked_heard answer .control_done _).symm.imp_right Or.inl
  | wait_progress | progress | wait_writable =>
    obtain ⟨rfl, rfl, -⟩ := by simpa [Audio.worker_step] using step
    exact h.move rfl nofun
  | progressed generation status =>
    obtain ⟨rfl, rfl, -⟩ := by simpa [Audio.worker_step] using step
    exact h.move rfl (by split_ifs <;> nofun)
  | observe generation played status submitted consumed =>
    obtain ⟨rfl, rfl, -⟩ := by simpa [Audio.worker_step] using step
    exact (h.keeps (observe_locked_keeps ..)).move rfl (by cases played <;> nofun)
  | wait_wake =>
    obtain ⟨hwait, rfl, -⟩ := by simpa [Audio.worker_step] using step
    have hawake : Served stream .loop control := h.move rfl nofun
    have hother : Function.update stream.event .wake false .control_done =
        stream.event .control_done := Function.update_of_ne (by decide) false stream.event
    rcases wait_any_cases hwait with ⟨hresult, -, rfl⟩ | ⟨hresult, -, rfl⟩ | ⟨hresult, rfl⟩
    · rw [hresult]
      rcases hawake with hfailed | hdone | hanswering | ⟨hsome, hslot, hcount, -⟩
      · exact Or.inl hfailed
      · exact Or.inr (Or.inl (hother.trans hdone))
      · cases hanswering
      · exact Or.inr (Or.inr (Or.inr ⟨hsome, hslot, hcount, nofun⟩))
    · rw [hresult]
      exact h.move rfl nofun
    · rw [hresult]
      exact h.move rfl nofun
  | fail status again =>
    obtain ⟨rfl, rfl, -⟩ := by simpa [Audio.worker_step] using step
    exact (h.keeps (fail_locked_keeps status stream)).move rfl (by split_ifs <;> nofun)
  | writable generation batch status =>
    obtain ⟨rfl, rfl, -⟩ := by simpa [Audio.worker_step] using step
    exact h.move rfl (by split_ifs <;> nofun)
  | enqueue generation batch =>
    obtain ⟨rfl, rfl, -⟩ := by simpa [Audio.worker_step] using step
    exact h.move rfl (by split_ifs <;> nofun)
  | settle generation played =>
    obtain ⟨rfl, rfl, -⟩ := by simpa [Audio.worker_step] using step
    exact h.settle
  | exited => simp [Audio.worker_step] at step

end Worker

/-! ## Callers -/

section Callers

variable {ι φ : Type} {move : Move ι φ} {system system' : System ι φ}
  {events : List (StreamEvent ι φ)}

/-- One caller at most is in a request, and if it waits it is served. -/
structure Slots (system : System ι φ) : Prop where
  alive : Alive system.stream system.worker
  alone : ∀ i j, (system.caller i).requesting = true → (system.caller j).requesting = true →
    i = j
  served : ∀ i control, system.caller i = .waiting control →
    Served system.stream system.worker control

theorem Caller.requesting_waiting {caller : Caller} {control : Control}
    (h : caller = .waiting control) : caller.requesting = true := by
  rw [h, Caller.requesting]

/-- Nobody else is in a request while a caller is. -/
theorem Slots.others (slots : Slots system) {i j : ι}
    (hi : (system.caller i).requesting = true) (hj : j ≠ i) :
    (system.caller j).requesting = false := by
  cases hrequest : (system.caller j).requesting with
  | false => rfl
  | true => exact absurd (slots.alone j i hrequest hi) hj

theorem Alive.enqueue {stream stream' : PcmStream φ} {worker : Worker φ} {frames : List φ}
    (alive : Alive stream worker) (h : enqueue_locked frames stream = (stream', none)) :
    Alive stream' worker := by
  unfold enqueue_locked at h
  split_ifs at h
  all_goals obtain ⟨rfl, -⟩ := Prod.mk.inj h
  all_goals exact ⟨alive.active, alive.terminal, alive.exited, alive.failing⟩

/-- More frames are no worse for a flush. -/
theorem Served.enqueue {stream stream' : PcmStream φ} {worker : Worker φ} {frames : List φ}
    {control : Control} (served : Served stream worker control)
    (h : enqueue_locked frames stream = (stream', none)) : Served stream' worker control := by
  unfold enqueue_locked at h
  split_ifs at h
  all_goals obtain ⟨rfl, -⟩ := Prod.mk.inj h
  all_goals try exact served
  refine served.imp_right (Or.imp_right (Or.imp_right ?_))
  rintro ⟨hsome, hslot, hcount, hwake⟩
  exact ⟨hsome, hslot, fun hflush => by have hpos := hcount hflush; dsimp only; omega, hwake⟩

variable [DecidableEq ι]

/-- No request begins while another caller is in one. -/
def Serialized (system : System ι φ) : List (Move ι φ) → Prop
  | [] => True
  | move :: moves =>
    (move.request = true → ∀ i, (system.caller i).requesting = false) ∧
      Serialized (perform system move).1 moves

/-- A caller moves while every other one that is in a request stays served. -/
theorem Slots.set (slots : Slots system) {i : ι} {stream' : PcmStream φ} {caller' : Caller}
    (alive : Alive stream' system.worker)
    (halone : caller'.requesting = true → ∀ j ≠ i, (system.caller j).requesting = false)
    (hserved : ∀ control, caller' = .waiting control → Served stream' system.worker control)
    (hothers : ∀ j ≠ i, ∀ control, system.caller j = .waiting control →
      Served system.stream system.worker control → Served stream' system.worker control) :
    Slots (system.set stream' i caller') := by
  have hself : (system.set stream' i caller').caller i = caller' := system.set_caller ..
  have hother : ∀ j ≠ i, (system.set stream' i caller').caller j = system.caller j :=
    fun j hj => Function.update_of_ne hj ..
  refine ⟨alive, fun j k hj hk => ?_, fun j control hj => ?_⟩
  · by_cases hji : j = i <;> by_cases hki : k = i
    · exact hji.trans hki.symm
    · rw [hji, hself] at hj
      rw [hother k hki, halone hj k hki] at hk
      cases hk
    · rw [hki, hself] at hk
      rw [hother j hji, halone hk j hji] at hj
      cases hj
    · rw [hother j hji] at hj
      rw [hother k hki] at hk
      exact slots.alone j k hj hk
  · by_cases hji : j = i
    · rw [hji, hself] at hj
      exact hserved control hj
    · rw [hother j hji] at hj
      exact hothers j hji control hj (slots.served j control hj)

theorem Prepared.alive {stream stored : PcmStream φ} {worker : Worker φ} {control : Control}
    (prepared : Prepared stream control stored) (answer : Answer)
    (alive : Alive stream worker) : Alive (store_control answer control stored).1 worker := by
  have hstored : Alive { stored with control } worker := by
    cases prepared <;> exact ⟨alive.active, alive.terminal, alive.exited, alive.failing⟩
  exact hstored.keeps (store_control_keeps answer control stored)

/-- A request that has woken the worker is served. -/
theorem Prepared.served {stream stored : PcmStream φ} (worker : Worker φ) {control : Control}
    (prepared : Prepared stream control stored) {answer : Answer}
    (signaled : answer.signal .wake = .ok) :
    Served (store_control answer control stored).1 worker control := by
  have hkeeps := store_control_keeps answer control stored
  refine Or.inr (Or.inr (Or.inr ⟨?_, hkeeps.control, fun hflush => ?_, fun _ => ?_⟩))
  · cases prepared <;> nofun
  · rw [hkeeps.count]
    cases prepared with
    | clear => cases hflush
    | gain gains => cases hflush
    | flush active count => exact count
  · simp [store_control, signal_locked, signaled]

theorem SystemStep.slots (step : SystemStep move system system' events) (slots : Slots system)
    (serial : move.request = true → ∀ i, (system.caller i).requesting = false) :
    Slots system' := by
  cases step with
  | stay => exact slots
  | worker step =>
    exact ⟨slots.alive.worker_step step, slots.alone,
      fun i control h => (slots.served i control h).worker_step slots.alive step⟩
  | cancel_wait answer =>
    have hkeeps := signal_locked_keeps answer .space system.stream
    exact ⟨slots.alive.keeps hkeeps, slots.alone,
      fun i control h => (slots.served i control h).keeps hkeeps⟩
  | @caller i stream' caller' events step =>
    have hnobody : move.request = true → ∀ j control, system.caller j ≠ .waiting control :=
      fun hrequest j control h => by
        have hidle := serial hrequest j
        rw [Caller.requesting_waiting h] at hidle
        cases hidle
    cases step with
    | refuse idle kept failed =>
      rcases kept with rfl | ⟨hrequest, rfl⟩
      · exact slots.set slots.alive nofun nofun fun _ _ _ _ => id
      · refine slots.set ?_ nofun nofun fun j _ control h => absurd h (hnobody hrequest j control)
        exact ⟨slots.alive.active, slots.alive.terminal, slots.alive.exited,
          slots.alive.failing⟩
    | enqueue idle copied =>
      exact slots.set (slots.alive.enqueue copied) nofun nofun
        fun _ _ _ _ served => served.enqueue copied
    | store answer idle request prepared signaled =>
      refine slots.set (prepared.alive answer slots.alive) (fun _ j _ => serial request j) ?_
        fun j _ control h => absurd h (hnobody request j control)
      rintro control h
      cases h
      exact prepared.served system.worker signaled
    | unheard answer idle request prepared failed =>
      exact slots.set (prepared.alive answer slots.alive) nofun nofun
        fun j _ control h => absurd h (hnobody request j control)
    | proceed enqueues enqueues' kept returns =>
      refine slots.set (slots.alive.keeps kept) (fun h => ?_) ?_
        fun _ _ _ _ served => served.keeps kept
      · rw [enqueues'] at h
        cases h
      · rintro control rfl
        cases enqueues'
    | wake waits ended =>
      have hothers := fun j hj => slots.others (j := j) (Caller.requesting_waiting waits) hj
      refine slots.set ?_ (fun _ j hj => hothers j hj) nofun fun j hj control h => ?_
      · rcases wait_any_cases ended with ⟨-, -, rfl⟩ | ⟨-, -, rfl⟩ | ⟨-, rfl⟩
        · exact ⟨slots.alive.active, slots.alive.terminal, slots.alive.exited,
            slots.alive.failing⟩
        · exact slots.alive
        · exact slots.alive
      · have hidle := hothers j hj
        rw [Caller.requesting_waiting h] at hidle
        cases hidle
    | @answer control result answer woken =>
      have hkeeps := answered_locked_keeps answer control result system.stream
      exact slots.set (slots.alive.keeps hkeeps) nofun nofun
        fun _ _ _ _ served => served.keeps hkeeps

theorem run_slots (moves : List (Move ι φ)) {system : System ι φ} (slots : Slots system)
    (serial : Serialized system moves) : Slots (run system moves).1 := by
  induction moves generalizing system with
  | nil => exact slots
  | cons move moves ih =>
    exact ih ((perform_step system move).slots slots serial.1) serial.2

/-- The worker is asleep or gone only when whoever waits can be woken. -/
theorem Slots.worker_moves (slots : Slots system) {i : ι} {control : Control}
    (waits : system.caller i = .waiting control) (running : system.stream.failure = .ok)
    (unset : system.stream.event .control_done = false) :
    (step system (.worker .success)).isSome = true := by
  have hserved := slots.served i control waits
  have hcancelled : system.stream.cancelled = false := by
    have hterminal := slots.alive.terminal
    rw [PcmStream.Terminal, running] at hterminal
    simpa using hterminal
  cases hworker : system.worker with
  | exited => exact absurd running (slots.alive.exited hworker)
  | wait_wake =>
    rw [hworker] at hserved
    rcases hserved with hfailed | hdone | hanswering | ⟨-, -, -, hwake⟩
    · exact absurd running hfailed
    · rw [unset] at hdone
      cases hdone
    · cases hanswering
    · simp [step, worker_step, wait_any, hworker, hcancelled, hwake rfl, Answer.success]
  | _ => simp [step, worker_step, hworker]

/-- One caller flushes a frame; it is woken when the worker has settled the batch. -/
def flush_of_one : List (Move Bool Unit) :=
  [.enqueue false [()], .resume false .success, .flush false .success]

/-- A frame is flushed by one caller while another one clears. The clear takes the slot and
the only signal; then the worker goes to sleep. -/
def flush_and_clear : List (Move Bool Unit) :=
  [.enqueue false [()], .resume false .success, .flush false .success, .clear true .success] ++
    List.replicate 4 (.worker .success) ++ [.resume true .success, .resume true .success] ++
    List.replicate 5 (.worker .success)

end Callers

end Nxvm.Audio
