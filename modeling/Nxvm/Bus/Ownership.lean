/-
What the calls of the attachment and of the processor keep of the bus.

The attachment cannot touch a transaction that is denied to DMA; so what it does inside a
cycle of another owner leaves that cycle on the bus, and the owner ends its own.
-/
import Nxvm.Bus.Cycles

set_option autoImplicit false

namespace Nxvm.Bus

open Nxvm.Machine (Status TransactionOwner)

section Ownership

variable {σ : Type}

/-! ## What is kept -/

/-- What only the scheduler changes. -/
structure SameSchedule (m m' : BusMachine σ) : Prop where
  contract : m'.transaction_contract = m.transaction_contract
  elapsed : m'.elapsed_ticks = m.elapsed_ticks
  remaining : m'.refresh_cycle_ticks_remaining = m.refresh_cycle_ticks_remaining

theorem SameSchedule.refl (m : BusMachine σ) : SameSchedule m m := ⟨rfl, rfl, rfl⟩

theorem SameSchedule.trans {a b c : BusMachine σ} (h : SameSchedule a b)
    (h' : SameSchedule b c) : SameSchedule a c :=
  ⟨h'.contract.trans h.contract, h'.elapsed.trans h.elapsed, h'.remaining.trans h.remaining⟩

/-- A step of the machine that leaves the schedule to the scheduler and moves the
transaction. -/
structure Keeps (m m' : BusMachine σ) : Prop where
  schedule : SameSchedule m m'
  moves : Moves m.refresh_cycle_ticks_remaining m.transaction m'.transaction

theorem Keeps.refl (m : BusMachine σ) : Keeps m m := ⟨SameSchedule.refl m, Moves.refl _ _⟩

theorem Keeps.trans {a b c : BusMachine σ} (h : Keeps a b) (h' : Keeps b c) : Keeps a c := by
  refine ⟨h.schedule.trans h'.schedule, h.moves.trans ?_⟩
  have hmoves := h'.moves
  rw [h.schedule.remaining] at hmoves
  exact hmoves

/-- Another transaction, which the one there moves to. -/
theorem Keeps.of_moves {m : BusMachine σ} {state : TransactionState}
    (h : Moves m.refresh_cycle_ticks_remaining m.transaction state) :
    Keeps m (m.with_transaction state) :=
  ⟨⟨rfl, rfl, rfl⟩, h⟩

/-- What code of the attachment keeps: it leaves no cycle open, and it leaves alone a
transaction that is denied to DMA. -/
structure Attached (f : Action σ) : Prop where
  keeps : ∀ m, Keeps m (f m).2
  quiet : ∀ m, transaction_denies m.transaction .dma → (f m).2.transaction = m.transaction
  closed : ∀ m, m.transaction.owner = .none → (f m).2.transaction.owner = .none

/-! ## The attachment -/

theorem denies_of_owner {state : TransactionState} {owner : TransactionOwner}
    (h : state.owner ≠ .none) : transaction_denies state owner :=
  Or.inr (Or.inl h)

theorem transaction_begin_denied {state : TransactionState} {owner : TransactionOwner}
    (h : transaction_denies state owner) (kind : TransactionKind) (address value detail : ℕ) :
    transaction_begin state owner kind address value detail = (.invalid_argument, state) := by
  unfold transaction_begin
  rw [if_pos h]

theorem transaction_begin_admitted {state : TransactionState} {owner : TransactionOwner}
    (h : ¬ transaction_denies state owner) (kind : TransactionKind) (address value detail : ℕ) :
    transaction_begin state owner kind address value detail =
      (.ok, transaction_begun state owner kind address value detail) := by
  unfold transaction_begin
  rw [if_neg h]

theorem transaction_cancel_closed (state : TransactionState) :
    (transaction_cancel state).owner = .none := by
  unfold transaction_cancel
  split_ifs with h
  · exact h
  · rfl

theorem transaction_commit_closed (state : TransactionState) :
    (transaction_commit state).owner = .none := by
  unfold transaction_commit
  split_ifs with h
  · exact h
  · rfl

theorem Attached.with_context (f : BusMachine σ → Status × σ) :
    Attached fun m : BusMachine σ => ((f m).1, m.with_context (f m).2) :=
  ⟨fun _ => ⟨⟨rfl, rfl, rfl⟩, Moves.refl _ _⟩, fun _ _ => rfl, fun _ h => h⟩

theorem Attached.set_dma_bus_ready (ready : Bool) :
    Attached (Bus.set_dma_bus_ready (σ := σ) ready) := by
  refine ⟨fun m => ?_, fun m _ => ?_, fun m h => ?_⟩ <;> unfold Bus.set_dma_bus_ready <;> split_ifs
  · exact Keeps.refl m
  · exact ⟨⟨rfl, rfl, rfl⟩, Moves.refl _ _⟩
  · rfl
  · rfl
  · exact h
  · exact h

theorem Attached.set_cpu_bus_ready (ready : Bool) :
    Attached (Bus.set_cpu_bus_ready (σ := σ) ready) := by
  refine ⟨fun m => ?_, fun m _ => ?_, fun m h => ?_⟩ <;> unfold Bus.set_cpu_bus_ready <;> split_ifs
  · exact Keeps.refl m
  · exact ⟨⟨rfl, rfl, rfl⟩, Moves.refl _ _⟩
  · rfl
  · rfl
  · exact h
  · exact h

/-- A stretch of a cycle: the transaction stays as it is. -/
structure Inside (m m' : BusMachine σ) : Prop where
  schedule : SameSchedule m m'
  steady : m'.transaction = m.transaction

theorem Inside.trans {a b c : BusMachine σ} (h : Inside a b) (h' : Inside b c) : Inside a c :=
  ⟨h.schedule.trans h'.schedule, h'.steady.trans h.steady⟩

/-- An owner ends the cycle it has on the bus. -/
theorem Inside.commit {m m' : BusMachine σ} (h : Inside m m')
    (howner : m.transaction.owner ≠ .refresh) :
    Keeps m (m'.with_transaction (transaction_commit m'.transaction)) := by
  refine ⟨⟨h.schedule.contract, h.schedule.elapsed, h.schedule.remaining⟩, ?_⟩
  rw [BusMachine.with_transaction_transaction, h.steady]
  exact transaction_commit_moves howner

theorem Inside.cancel {m m' : BusMachine σ} (h : Inside m m')
    (howner : m.transaction.owner ≠ .refresh) :
    Keeps m (m'.with_transaction (transaction_cancel m'.transaction)) := by
  refine ⟨⟨h.schedule.contract, h.schedule.elapsed, h.schedule.remaining⟩, ?_⟩
  rw [BusMachine.with_transaction_transaction, h.steady]
  exact transaction_cancel_moves howner

/-- The attachment's code inside a cycle that is on the bus. -/
theorem Attached.inside {f : Action σ} (hf : Attached f) {m : BusMachine σ}
    (h : m.transaction.owner ≠ .none) : Inside m (f m).2 :=
  ⟨(hf.keeps m).schedule, hf.quiet m (denies_of_owner h)⟩

/-- A cycle of DMA is open until its end, whatever the device does in between. -/
theorem dma_memory_access_keeps {before_memory memory after_memory : Action σ}
    (hbefore : Attached before_memory) (hmemory : Attached memory)
    (hafter : Attached after_memory) {m : BusMachine σ} (howner : m.transaction.owner = .dma) :
    Keeps m (dma_memory_access before_memory memory after_memory m).2 ∧
      (dma_memory_access before_memory memory after_memory m).2.transaction.owner = .none := by
  have hopen {state : TransactionState} (h : state = m.transaction) : state.owner ≠ .none := by
    rw [h, howner]
    decide
  have hrefresh : m.transaction.owner ≠ .refresh := by
    rw [howner]
    decide
  have hprepared := hbefore.inside (hopen rfl)
  have haccessed := hprepared.trans (hmemory.inside (hopen hprepared.steady))
  have hfinished := haccessed.trans (hafter.inside (hopen haccessed.steady))
  unfold dma_memory_access
  dsimp only
  split_ifs
  · exact ⟨haccessed.cancel hrefresh, transaction_cancel_closed _⟩
  · exact ⟨hfinished.commit hrefresh, transaction_commit_closed _⟩

theorem Attached.dma_memory_cycle (cycle : DmaCycle)
    {before_memory memory after_memory : Action σ} (hbefore : Attached before_memory)
    (hmemory : Attached memory) (hafter : Attached after_memory) :
    Attached (Bus.dma_memory_cycle cycle before_memory memory after_memory) := by
  -- Either nothing happens, or DMA was admitted and its cycle is over.
  have hcases (m : BusMachine σ) :
      (Bus.dma_memory_cycle cycle before_memory memory after_memory m).2 = m ∨
        ¬ transaction_denies m.transaction .dma ∧
        Keeps m (Bus.dma_memory_cycle cycle before_memory memory after_memory m).2 ∧
        (Bus.dma_memory_cycle cycle before_memory memory after_memory m).2.transaction.owner =
          .none := by
    unfold Bus.dma_memory_cycle
    dsimp only
    split_ifs with hbytes hrouted hbegun
    · exact Or.inl rfl
    · exact Or.inl rfl
    · exact Or.inl rfl
    · have hadmitted : ¬ transaction_denies m.transaction .dma := fun hdenies =>
        hbegun (by simp [transaction_begin_denied hdenies])
      have hkeeps : Keeps m (m.with_transaction (transaction_begin m.transaction .dma cycle.kind
          cycle.physical cycle.bytes cycle.channel).2) :=
        Keeps.of_moves (transaction_begin_moves (by decide) ..)
      have howner : (m.with_transaction (transaction_begin m.transaction .dma cycle.kind
          cycle.physical cycle.bytes cycle.channel).2).transaction.owner = .dma := by
        rw [transaction_begin_admitted hadmitted]
        rfl
      have haccess := dma_memory_access_keeps hbefore hmemory hafter howner
      exact Or.inr ⟨hadmitted, hkeeps.trans haccess.1, haccess.2⟩
  refine ⟨fun m => ?_, fun m hdenies => ?_, fun m hnone => ?_⟩
  · obtain h | ⟨-, hkeeps, -⟩ := hcases m
    · rw [h]
      exact Keeps.refl m
    · exact hkeeps
  · obtain h | ⟨hadmitted, -⟩ := hcases m
    · rw [h]
    · exact absurd hdenies hadmitted
  · obtain h | ⟨-, -, hclosed⟩ := hcases m
    · rw [h]
      exact hnone
    · exact hclosed

/-- A call, then what follows from what it answers and leaves. -/
theorem Attached.then {f : Action σ} (hf : Attached f) {next : Status → σ → Action σ}
    (hnext : ∀ status context, Attached (next status context)) (context : σ) :
    Attached fun m : BusMachine σ =>
      next (f (m.with_context context)).1 (f (m.with_context context)).2.context
        (f (m.with_context context)).2 := by
  refine ⟨fun m => ?_, fun m hdenies => ?_, fun m hnone => ?_⟩
  · have hfirst := hf.keeps (m.with_context context)
    have hcontext : Keeps m (m.with_context context) := ⟨⟨rfl, rfl, rfl⟩, Moves.refl _ _⟩
    exact (hcontext.trans hfirst).trans ((hnext _ _).keeps _)
  · have hfirst := hf.quiet (m.with_context context) hdenies
    refine ((hnext _ _).quiet _ ?_).trans hfirst
    rw [hfirst]
    exact hdenies
  · exact (hnext _ _).closed _ (hf.closed (m.with_context context) hnone)

/-- Whatever the attachment does. -/
theorem Program.attached (p : Program σ) : Attached p.run := by
  induction p with
  | done status context => exact Attached.with_context fun _ => (status, context)
  | dma_memory_cycle cycle context before_memory memory after_memory next ihb ihm iha ihn =>
    have hcall {callback : Callback σ} (ih : ∀ context, Attached (callback context).run) :
        Attached fun m : BusMachine σ => (callback m.context).run m :=
      ⟨fun m => (ih m.context).keeps m, fun m => (ih m.context).quiet m,
        fun m => (ih m.context).closed m⟩
    exact Attached.then (Attached.dma_memory_cycle cycle (hcall ihb) (hcall ihm) (hcall iha))
      ihn context
  | set_dma_bus_ready ready context next ih =>
    exact Attached.then (Attached.set_dma_bus_ready ready)
      ih context
  | set_cpu_bus_ready ready context next ih =>
    exact Attached.then (Attached.set_cpu_bus_ready ready)
      ih context

theorem Callback.attached (callback : Callback σ) : Attached callback.call :=
  ⟨fun m => (callback m.context).attached.keeps m, fun m => (callback m.context).attached.quiet m,
    fun m => (callback m.context).attached.closed m⟩

/-! ## The processor -/

theorem Attached.and_then {first second : Action σ} (hfirst : Attached first)
    (hsecond : Attached second) : Attached (Bus.and_then first second) := by
  unfold Bus.and_then
  refine ⟨fun m => ?_, fun m hdenies => ?_, fun m hnone => ?_⟩ <;> dsimp only <;> split_ifs
  · exact hfirst.keeps m
  · exact (hfirst.keeps m).trans (hsecond.keeps _)
  · exact hfirst.quiet m hdenies
  · refine (hsecond.quiet _ ?_).trans (hfirst.quiet m hdenies)
    rw [hfirst.quiet m hdenies]
    exact hdenies
  · exact hfirst.closed m hnone
  · exact hsecond.closed _ (hfirst.closed m hnone)

theorem Attached.or_else {first second : Action σ} (hfirst : Attached first)
    (hsecond : Attached second) : Attached (Bus.or_else first second) := by
  unfold Bus.or_else
  refine ⟨fun m => ?_, fun m hdenies => ?_, fun m hnone => ?_⟩ <;> dsimp only <;> split_ifs
  · exact (hfirst.keeps m).trans (hsecond.keeps _)
  · exact hfirst.keeps m
  · refine (hsecond.quiet _ ?_).trans (hfirst.quiet m hdenies)
    rw [hfirst.quiet m hdenies]
    exact hdenies
  · exact hfirst.quiet m hdenies
  · exact hsecond.closed _ (hfirst.closed m hnone)
  · exact hfirst.closed m hnone

/-- A cycle of the processor goes onto the bus, if it is admitted. -/
theorem cpu_begin_keeps (m : BusMachine σ) (kind : TransactionKind) (address value detail : ℕ) :
    Keeps m (m.with_transaction (transaction_begin m.transaction .cpu kind address value detail).2) :=
  Keeps.of_moves (transaction_begin_moves (by decide) ..)

theorem cpu_begin_owner {state : TransactionState} {kind : TransactionKind}
    {address value detail : ℕ}
    (h : (transaction_begin state .cpu kind address value detail).1 = .ok) :
    (transaction_begin state .cpu kind address value detail).2.owner = .cpu ∧
      (transaction_begin state .cpu kind address value detail).2.kind = some kind := by
  by_cases hdenies : transaction_denies state .cpu
  · rw [transaction_begin_denied hdenies] at h
    simp at h
  · rw [transaction_begin_admitted hdenies]
    exact ⟨rfl, rfl⟩

theorem cpu_owner {state : TransactionState} (h : state.owner = .cpu) :
    state.owner ≠ .none ∧ state.owner ≠ .refresh := by
  rw [h]
  decide

/-- The processor's cycle: what is begun is ended, by its owner. -/
theorem cpu_cycle_keeps {locked : Bool} {body : Action σ} {m : BusMachine σ}
    (hlocked : locked = true → Keeps m (body m).2) (hbody : locked = false → Attached body)
    (kind : TransactionKind) (address value detail : ℕ) :
    Keeps m (cpu_cycle locked kind address value detail body m).2 := by
  unfold cpu_cycle
  dsimp only
  by_cases h : locked = true
  · rw [if_pos h]
    exact hlocked h
  rw [if_neg h]
  split_ifs with hbegun hended
  · exact Keeps.refl m
  · have hcpu := cpu_owner (cpu_begin_owner (not_not.mp hbegun)).1
    have hinside := (hbody (Bool.eq_false_iff.mpr h)).inside (m := m.with_transaction
      (transaction_begin m.transaction .cpu kind address value detail).2) hcpu.1
    exact (cpu_begin_keeps m kind address value detail).trans (hinside.commit hcpu.2)
  · have hcpu := cpu_owner (cpu_begin_owner (not_not.mp hbegun)).1
    have hinside := (hbody (Bool.eq_false_iff.mpr h)).inside (m := m.with_transaction
      (transaction_begin m.transaction .cpu kind address value detail).2) hcpu.1
    exact (cpu_begin_keeps m kind address value detail).trans (hinside.cancel hcpu.2)

theorem Sound.latch {remaining : ℕ} {state : TransactionState} (h : Sound remaining state)
    (address value : ℕ) : Sound remaining { state with address := address, value := value } :=
  ⟨h.owned, h.running, h.in_order, h.counted⟩

theorem Keeps.latch (m : BusMachine σ) (address value : ℕ) :
    Keeps m (m.with_transaction { m.transaction with address := address, value := value }) :=
  Keeps.of_moves ⟨fun h => h.latch address value, Grows.refl _⟩

theorem locked_write_keeps (access : MemoryAccess) {write : Action σ} (h : Attached write)
    (m : BusMachine σ) : Keeps m (locked_write access write m).2 :=
  ((Keeps.latch m access.address access.bytes).trans (h.keeps _)).trans (Keeps.latch _ _ _)

theorem cpu_bus_read_memory_keeps (access : MemoryAccess) (observe_only : Bool)
    (inspect pins read retry : Callback σ) (m : BusMachine σ) :
    Keeps m (cpu_bus_read_memory access observe_only inspect pins read retry m).2 := by
  have hbody : Attached (and_then pins.call (or_else read.call retry.call)) :=
    pins.attached.and_then (read.attached.or_else retry.attached)
  unfold cpu_bus_read_memory
  split_ifs
  · exact Keeps.refl m
  · exact inspect.attached.keeps m
  · exact cpu_cycle_keeps (fun _ => hbody.keeps m) (fun _ => hbody) _ _ _ _

theorem cpu_bus_write_memory_keeps (access : MemoryAccess) (pins write : Callback σ)
    (m : BusMachine σ) : Keeps m (cpu_bus_write_memory access pins write m).2 := by
  unfold cpu_bus_write_memory
  split_ifs with hinvalid
  · exact Keeps.refl m
  · refine cpu_cycle_keeps (fun hlocked => ?_) (fun hfree => ?_) _ _ _ _
    · rw [hlocked, if_pos rfl]
      unfold and_then
      dsimp only
      split_ifs
      · exact pins.attached.keeps m
      · exact (pins.attached.keeps m).trans (locked_write_keeps access write.attached _)
    · rw [hfree, if_neg Bool.false_ne_true]
      exact pins.attached.and_then write.attached

/-! ### Ports -/

theorem memory_locked_owner {m : BusMachine σ} (h : memory_locked m = true) :
    m.transaction.owner = .cpu ∧ m.transaction.kind = some .cpu_memory_lock := by
  simpa [memory_locked] using h

theorem PortAccess.latch_keeps (access : PortAccess) (locked : Bool) (read_value : σ → ℕ)
    (m : BusMachine σ) :
    Keeps m (access.latch locked read_value m) ∧
      (access.latch locked read_value m).transaction.owner = m.transaction.owner := by
  unfold PortAccess.latch
  split_ifs
  · refine ⟨Keeps.of_moves (transaction_set_value_moves _), ?_⟩
    rw [BusMachine.with_transaction_transaction, transaction_set_value]
    split_ifs <;> rfl
  · exact ⟨Keeps.refl m, rfl⟩

/-- A transfer that succeeds leaves the processor's cycle on the bus. -/
theorem port_execute_keeps (access : PortAccess) (locked : Bool) (execute : Callback σ)
    (read_value : σ → ℕ) {m : BusMachine σ} (howner : m.transaction.owner = .cpu) :
    Keeps m (port_execute access locked execute read_value m).2 ∧
      ((port_execute access locked execute read_value m).1 = .ok →
        (port_execute access locked execute read_value m).2.transaction.owner = .cpu) := by
  have hinside := execute.attached.inside (cpu_owner howner).1
  have hkeeps := execute.attached.keeps m
  unfold port_execute
  dsimp only
  split_ifs with hexecuted hlocked
  · exact ⟨hkeeps, fun h => absurd h hexecuted⟩
  · exact ⟨hinside.cancel (cpu_owner howner).2, fun h => absurd h hexecuted⟩
  · obtain ⟨hlatched, hsame⟩ := access.latch_keeps locked read_value (execute.call m).2
    refine ⟨hkeeps.trans hlatched, fun _ => ?_⟩
    rw [hsame, hinside.steady]
    exact howner

theorem cpu_bus_transfer_port_keeps (access : PortAccess) (execute : Callback σ)
    (read_value : σ → ℕ) (m : BusMachine σ) :
    Keeps m (cpu_bus_transfer_port access execute read_value m).2 ∧
      ((cpu_bus_transfer_port access execute read_value m).1 = .ok →
        (cpu_bus_transfer_port access execute read_value m).2.transaction.owner = .cpu) := by
  unfold cpu_bus_transfer_port
  dsimp only
  split_ifs with hinvalid hlocked hbegun
  · exact ⟨Keeps.refl m, fun h => by simp at h⟩
  · exact port_execute_keeps access true execute read_value (memory_locked_owner hlocked).1
  · exact ⟨Keeps.refl m, fun h => absurd h hbegun⟩
  · obtain ⟨hkeeps, hopen⟩ := port_execute_keeps access false execute read_value
      (m := m.with_transaction (access.begin m.transaction).2)
      (cpu_begin_owner (not_not.mp hbegun)).1
    exact ⟨(cpu_begin_keeps m _ _ _ _).trans hkeeps, hopen⟩

theorem cpu_port_access_keeps (access : PortAccess) (execute : Callback σ)
    (read_value : σ → ℕ) (m : BusMachine σ) :
    Keeps m (cpu_port_access access execute read_value m).2 := by
  obtain ⟨hkeeps, howner⟩ := cpu_bus_transfer_port_keeps access execute read_value m
  unfold cpu_port_access
  dsimp only
  split_ifs with htransferred
  · exact hkeeps
  · refine hkeeps.trans ?_
    unfold cpu_bus_complete_port
    split_ifs
    · have hcpu := cpu_owner (howner (not_not.mp htransferred))
      exact Keeps.of_moves (transaction_commit_moves hcpu.2)
    · exact Keeps.refl _

/-! ### The other calls -/

theorem cpu_bus_acknowledge_interrupt_keeps (acknowledge : Callback σ) (vector : σ → ℕ)
    (m : BusMachine σ) : Keeps m (cpu_bus_acknowledge_interrupt acknowledge vector m).2 := by
  unfold cpu_bus_acknowledge_interrupt
  dsimp only
  split_ifs with hbegun
  · exact Keeps.refl m
  · have howner := (cpu_begin_owner (not_not.mp hbegun)).1
    have hinside := acknowledge.attached.inside (m := m.with_transaction
      (transaction_begin m.transaction .cpu .cpu_interrupt_acknowledge 0 0 0).2) (cpu_owner howner).1
    refine ((cpu_begin_keeps m .cpu_interrupt_acknowledge 0 0 0).trans
      (acknowledge.attached.keeps _)).trans (Keeps.of_moves
        ((transaction_set_value_moves _).trans (transaction_commit_moves ?_)))
    rw [hinside.steady, transaction_set_value]
    split_ifs <;> exact (cpu_owner howner).2

theorem cpu_bus_extension_command_keeps (opcode modrm profile : ℕ) (m : BusMachine σ) :
    Keeps m (cpu_bus_extension_command opcode modrm profile m).2 := by
  unfold cpu_bus_extension_command
  dsimp only
  split_ifs with hbegun
  · have hcpu := cpu_owner (cpu_begin_owner hbegun).1
    exact (cpu_begin_keeps m .cpu_fpu_command opcode modrm profile).trans
      (Keeps.of_moves (m := m.with_transaction _) (transaction_commit_moves hcpu.2))
  · exact Keeps.refl m

theorem cpu_bus_cache_operation_keeps (operation : ℕ) (callback : Callback σ)
    (m : BusMachine σ) : Keeps m (cpu_bus_cache_operation operation callback m).2 := by
  unfold cpu_bus_cache_operation
  split_ifs
  · exact Keeps.refl m
  · exact cpu_cycle_keeps (fun h => absurd h Bool.false_ne_true) (fun _ => callback.attached) _ _ _ _

theorem cpu_bus_complete_memory_lock_keeps (commit : Bool) (m : BusMachine σ) :
    Keeps m (cpu_bus_complete_memory_lock commit m) := by
  unfold cpu_bus_complete_memory_lock
  split_ifs with hlocked hcommit
  · exact Keeps.refl m
  · have howner := (memory_locked_owner (by simpa using hlocked)).1
    exact Keeps.of_moves (transaction_commit_moves (cpu_owner howner).2)
  · have howner := (memory_locked_owner (by simpa using hlocked)).1
    exact Keeps.of_moves (transaction_cancel_moves (cpu_owner howner).2)

theorem special_cycle_poll_keeps (poll : Callback σ) (ready : σ → Bool) (complete : Callback σ)
    {m : BusMachine σ} (howner : m.transaction.owner = .cpu) :
    Keeps m (special_cycle_poll poll ready complete m).2.2 := by
  have hpolled := poll.attached.inside (cpu_owner howner).1
  have hopen : (poll.call m).2.transaction.owner = .cpu := by
    rw [hpolled.steady]
    exact howner
  have hcompleted := complete.attached.inside (cpu_owner hopen).1
  unfold special_cycle_poll
  dsimp only
  split_ifs
  · exact poll.attached.keeps m
  · exact poll.attached.keeps m
  · exact (hpolled.trans hcompleted).commit (cpu_owner howner).2

theorem cpu_bus_special_cycle_keeps (cycle : SpecialCycle) (poll : Callback σ)
    (ready : σ → Bool) (complete : Callback σ) (m : BusMachine σ) :
    Keeps m (cpu_bus_special_cycle cycle poll ready complete m).2.2 := by
  unfold cpu_bus_special_cycle
  dsimp only
  split_ifs with hcycle hnone hheld hbegun hother
  · exact Keeps.refl m
  · exact Keeps.refl m
  · exact Keeps.refl m
  · exact (cpu_begin_keeps m _ _ _ _).trans (special_cycle_poll_keeps poll ready complete
      (m := m.with_transaction (cycle.begin m.transaction).2)
      (cpu_begin_owner (not_not.mp hbegun)).1)
  · exact special_cycle_poll_keeps poll ready complete hother.1
  · exact Keeps.refl m

theorem cpu_bus_cancel_special_cycle_keeps (cycle : SpecialCycle) (complete : Callback σ)
    (m : BusMachine σ) : Keeps m (cpu_bus_cancel_special_cycle cycle complete m) := by
  unfold cpu_bus_cancel_special_cycle
  split_ifs with hheld
  · have howner := hheld.1
    exact (complete.attached.inside (cpu_owner howner).1).cancel (cpu_owner howner).2
  · exact Keeps.refl m

/-- Every call of the processor. -/
theorem CpuCall.keeps (call : CpuCall σ) (m : BusMachine σ) : Keeps m (call.run m).2.2 := by
  cases call with
  | read_memory access observe_only inspect pins read retry =>
    exact cpu_bus_read_memory_keeps access observe_only inspect pins read retry m
  | write_memory access pins write => exact cpu_bus_write_memory_keeps access pins write m
  | port_access access execute read_value =>
    exact cpu_port_access_keeps access execute read_value m
  | acknowledge_interrupt acknowledge vector =>
    exact cpu_bus_acknowledge_interrupt_keeps acknowledge vector m
  | extension_command opcode modrm profile =>
    exact cpu_bus_extension_command_keeps opcode modrm profile m
  | cache_operation operation callback =>
    exact cpu_bus_cache_operation_keeps operation callback m
  | begin_memory_lock => exact cpu_begin_keeps m .cpu_memory_lock 0 0 0
  | complete_memory_lock commit => exact cpu_bus_complete_memory_lock_keeps commit m
  | special_cycle cycle poll ready complete =>
    exact cpu_bus_special_cycle_keeps cycle poll ready complete m
  | cancel_special_cycle cycle complete =>
    exact cpu_bus_cancel_special_cycle_keeps cycle complete m

theorem CpuProgram.keeps (p : CpuProgram σ) (m : BusMachine σ) : Keeps m (p.run m) := by
  induction p generalizing m with
  | done context => exact ⟨⟨rfl, rfl, rfl⟩, Moves.refl _ _⟩
  | call bus_call context next ih =>
    have hcontext : Keeps m (m.with_context context) := ⟨⟨rfl, rfl, rfl⟩, Moves.refl _ _⟩
    exact (hcontext.trans (bus_call.keeps _)).trans (ih _ _ _ _)

end Ownership

end Nxvm.Bus
