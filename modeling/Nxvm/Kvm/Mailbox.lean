/-
The control mailbox of a KVM leaf (`lib/kvm-base/mailbox.c`).

Controls wait in a ring with one slot more than its capacity, and the slot behind the
capacity is the one for STOP. A call that appends or takes holds the control lock, STOP and
the closing call both locks, so that an interleaving of the producers and the leaf is a list
of calls.

The frames of the same structure are a component of their own; the only field that the two
mailboxes share is `closed`. A payload belongs to the consumer, as `φ` does here.
-/
import Nxvm.Lib.Ring
import Nxvm.Machine.Status

set_option autoImplicit false

namespace Nxvm.Kvm

open Nxvm.Lib Nxvm.Machine

/-! ## The mailbox -/

/-- `KVM_COMPONENT_CONTROL_CAPACITY`. -/
def control_capacity : ℕ := 32

/-- `KVM_COMPONENT_CONTROL_STORAGE_CAPACITY`. -/
def control_storage_capacity : ℕ := control_capacity + 1

/-- `KVM_COMPONENT_CONTROL_STOP`. -/
def control_stop : BitVec 32 := 0

/-- `kvm_component_control`. -/
structure Control (φ : Type) where
  kind : BitVec 32
  payload : φ

/-- A STOP control. -/
def Control.stop {φ : Type} (control : Control φ) : Bool := control.kind == control_stop

/-- `kvm_component_mailboxes`, without its frames. -/
structure Mailboxes (φ : Type) where
  controls : ℕ → Control φ
  control_head : ℕ
  control_count : ℕ
  closed : Bool

section Calls

variable {φ : Type}

/-- `kvm_component_mailboxes_create`, over the slots as they were allocated. -/
def mailboxes_create (controls : ℕ → Control φ) : Mailboxes φ :=
  { controls, control_head := 0, control_count := 0, closed := false }

/-- The control appended behind the others. -/
def append_control (m : Mailboxes φ) (control : Control φ) : Mailboxes φ :=
  let index := (m.control_head + m.control_count) % control_storage_capacity
  { m with
    controls := Function.update m.controls index control
    control_count := m.control_count + 1 }

/-- `kvm_component_mailboxes_enqueue_control`. -/
def enqueue_control (m : Mailboxes φ) (control : Control φ) : Status × Mailboxes φ :=
  if control.stop then
    if m.closed then (.ok, m) else (.ok, append_control { m with closed := true } control)
  else if m.closed then (.invalid_state, m)
  else if m.control_count = control_capacity then (.limit_exceeded, m)
  else (.ok, append_control m control)

/-- `kvm_component_mailboxes_take_control`. -/
def take_control (m : Mailboxes φ) : Option (Control φ) × Mailboxes φ :=
  if m.control_count = 0 then (none, m)
  else
    (some (m.controls m.control_head),
      { m with
        control_head := (m.control_head + 1) % control_storage_capacity
        control_count := m.control_count - 1 })

/-- `kvm_component_mailboxes_close`. -/
def mailboxes_close (m : Mailboxes φ) : Mailboxes φ := { m with closed := true }

/-- The controls that wait, the oldest first. -/
def Mailboxes.queue (m : Mailboxes φ) : List (Control φ) :=
  Ring.window control_storage_capacity m.controls m.control_head m.control_count

/-! ## One call -/

/-- A ring in order: the slot for STOP is free while the mailbox is open. -/
structure Mailboxes.Valid (m : Mailboxes φ) : Prop where
  head : m.control_head < control_storage_capacity
  room : m.control_count ≤ control_storage_capacity
  reserve : m.closed = false → m.control_count ≤ control_capacity

variable {m : Mailboxes φ}

theorem create_valid (controls : ℕ → Control φ) : (mailboxes_create controls).Valid :=
  ⟨Nat.succ_pos _, Nat.zero_le _, fun _ => Nat.zero_le _⟩

/-- What was waiting still waits, and the new control behind it. -/
theorem append_control_queue (hroom : m.control_count ≤ control_capacity)
    (control : Control φ) : (append_control m control).queue = m.queue ++ [control] :=
  @Ring.window_push _ _ [control] _ _ _ (Nat.succ_le_succ hroom)

/-- A slot whose control waits keeps it. -/
theorem append_control_slot (hroom : m.control_count ≤ control_capacity) (control : Control φ)
    {i : ℕ} (hi : i < m.control_count) :
    (append_control m control).controls ((m.control_head + i) % control_storage_capacity) =
      m.controls ((m.control_head + i) % control_storage_capacity) := by
  refine Function.update_of_ne (Ring.slot_ne (Nat.add_lt_add_left hi _) ?_) _ _
  unfold control_storage_capacity
  omega

/-- What a mailbox does with a control. -/
inductive Enqueued (m : Mailboxes φ) (control : Control φ) : Status × Mailboxes φ → Prop where
  | appended {m' : Mailboxes φ} (opened : m.closed = false)
      (room : control.stop = true ∨ m.control_count < control_capacity)
      (queue : m'.queue = m.queue ++ [control])
      (kept : ∀ i < m.control_count,
        m'.controls ((m.control_head + i) % control_storage_capacity) =
          m.controls ((m.control_head + i) % control_storage_capacity))
      (closes : m'.closed = control.stop) : Enqueued m control (.ok, m')
  | stopped (closed : m.closed = true) (stop : control.stop = true) : Enqueued m control (.ok, m)
  | closed (closed : m.closed = true) (ordinary : control.stop = false) :
      Enqueued m control (.invalid_state, m)
  | full (opened : m.closed = false) (ordinary : control.stop = false)
      (full : m.control_count = control_capacity) : Enqueued m control (.limit_exceeded, m)

theorem enqueue_control_spec (h : m.Valid) (control : Control φ) :
    Enqueued m control (enqueue_control m control) := by
  unfold enqueue_control
  cases hstop : control.stop with
  | true =>
    rw [if_pos rfl]
    cases hclosed : m.closed with
    | true => exact .stopped hclosed hstop
    | false =>
      have hroom := h.reserve hclosed
      exact .appended hclosed (Or.inl hstop)
        (append_control_queue (m := { m with closed := true }) hroom control)
        (fun i hi => append_control_slot (m := { m with closed := true }) hroom control hi)
        hstop.symm
  | false =>
    rw [if_neg Bool.false_ne_true]
    cases hclosed : m.closed with
    | true => exact .closed hclosed hstop
    | false =>
      rw [if_neg Bool.false_ne_true]
      have hroom := h.reserve hclosed
      by_cases hfull : m.control_count = control_capacity
      · rw [if_pos hfull]
        exact .full hclosed hstop hfull
      · rw [if_neg hfull]
        exact .appended hclosed (Or.inr (lt_of_le_of_ne hroom hfull))
          (append_control_queue hroom control)
          (fun i hi => append_control_slot hroom control hi) (hclosed.trans hstop.symm)

theorem enqueue_control_valid (h : m.Valid) (control : Control φ) :
    (enqueue_control m control).2.Valid := by
  unfold enqueue_control
  split_ifs with hstop hclosed hclosed hfull
  · exact h
  · have hroom := h.reserve (Bool.eq_false_iff.mpr hclosed)
    exact ⟨h.head, Nat.succ_le_succ hroom, nofun⟩
  · exact h
  · exact h
  · have hroom := h.reserve (Bool.eq_false_iff.mpr hclosed)
    exact ⟨h.head, Nat.succ_le_succ hroom, fun _ => lt_of_le_of_ne hroom hfull⟩

/-- The oldest control is taken, if one waits. -/
theorem take_control_spec (h : m.Valid) :
    m.queue = (take_control m).1.toList ++ (take_control m).2.queue := by
  unfold take_control
  by_cases hnone : m.control_count = 0
  · rw [if_pos hnone]
    rfl
  · rw [if_neg hnone]
    have hone : 1 ≤ m.control_count := Nat.one_le_iff_ne_zero.mpr hnone
    have hfirst : m.queue.take 1 = [m.controls m.control_head] := by
      rw [Mailboxes.queue, Ring.window_take _ _ hone]
      change [m.controls ((m.control_head + 0) % control_storage_capacity)] = _
      rw [Nat.add_zero, Nat.mod_eq_of_lt h.head]
    have hrest : m.queue.drop 1 = Ring.window control_storage_capacity m.controls
        ((m.control_head + 1) % control_storage_capacity) (m.control_count - 1) := by
      rw [Mailboxes.queue, Ring.window_drop _ _ hone, Ring.window_mod]
    rw [← List.take_append_drop 1 m.queue, hfirst, hrest]
    rfl

theorem take_control_valid (h : m.Valid) : (take_control m).2.Valid := by
  unfold take_control
  split_ifs with hnone
  · exact h
  · exact ⟨Nat.mod_lt _ (by decide), (Nat.sub_le _ _).trans h.room,
      fun hclosed => (Nat.sub_le _ _).trans (h.reserve hclosed)⟩

theorem take_control_closed (m : Mailboxes φ) : (take_control m).2.closed = m.closed := by
  unfold take_control
  split_ifs <;> rfl

/-! ## Runs -/

/-- A call, whoever makes it. -/
inductive MailboxCall (φ : Type) where
  | enqueue (control : Control φ)
  | take
  | close

/-- A mailbox with the controls that an open mailbox answered with OK, and those taken. -/
structure MailboxRun (φ : Type) where
  mailboxes : Mailboxes φ
  accepted : List (Control φ)
  taken : List (Control φ)

/-- One call. -/
def MailboxRun.call (run : MailboxRun φ) : MailboxCall φ → MailboxRun φ
  | .enqueue control =>
    let answer := enqueue_control run.mailboxes control
    { run with
      mailboxes := answer.2
      accepted :=
        if answer.1 = .ok ∧ run.mailboxes.closed = false then run.accepted ++ [control]
        else run.accepted }
  | .take =>
    let answer := take_control run.mailboxes
    { run with mailboxes := answer.2, taken := run.taken ++ answer.1.toList }
  | .close => { run with mailboxes := mailboxes_close run.mailboxes }

/-- A run of calls on mailboxes just created. -/
def mailbox_run (controls : ℕ → Control φ) (calls : List (MailboxCall φ)) : MailboxRun φ :=
  calls.foldl MailboxRun.call
    { mailboxes := mailboxes_create controls, accepted := [], taken := [] }

/-- The controls in their order, and no STOP but the last of them. -/
structure MailboxRun.InOrder (run : MailboxRun φ) : Prop where
  valid : run.mailboxes.Valid
  fifo : run.taken ++ run.mailboxes.queue = run.accepted
  running : run.mailboxes.closed = false → ∀ control ∈ run.accepted, control.stop = false
  stopped : ∀ before control after, run.accepted = before ++ control :: after →
    control.stop = true → after = []

/-- Before the last control there is no STOP if there is none at all. -/
theorem stops_last {accepted : List (Control φ)} {last : Control φ}
    (hnone : ∀ control ∈ accepted, control.stop = false) (before : List (Control φ))
    (control : Control φ) (after : List (Control φ)) (h : accepted ++ [last] = before ++ control :: after)
    (hstop : control.stop = true) : after = [] := by
  cases after using List.reverseRecOn with
  | nil => rfl
  | append_singleton after x =>
    rw [← List.cons_append, ← List.append_assoc] at h
    have hmem : control ∈ accepted := by
      rw [(List.append_inj' h rfl).1]
      simp
    rw [hnone control hmem] at hstop
    cases hstop

theorem MailboxRun.InOrder.call {run : MailboxRun φ} (h : run.InOrder) (call : MailboxCall φ) :
    (run.call call).InOrder := by
  cases call with
  | enqueue control =>
    have hvalid := enqueue_control_valid h.valid control
    have hspec := enqueue_control_spec h.valid control
    unfold MailboxRun.call
    dsimp only
    generalize enqueue_control run.mailboxes control = answer at hvalid hspec ⊢
    cases hspec with
    | appended opened room queue kept closes =>
      rw [if_pos ⟨rfl, opened⟩]
      refine ⟨hvalid, ?_, fun hopen c hmem => ?_, stops_last (h.running opened)⟩
      · rw [queue, ← List.append_assoc, h.fifo]
      · rcases List.mem_append.mp hmem with hmem | hmem
        · exact h.running opened c hmem
        · rw [List.mem_singleton.mp hmem, ← closes]
          exact hopen
    | stopped closed =>
      rw [if_neg fun hopen => by rw [closed] at hopen; cases hopen.2]
      exact ⟨hvalid, h.fifo, h.running, h.stopped⟩
    | closed closed =>
      rw [if_neg fun hopen => nomatch hopen.1]
      exact ⟨hvalid, h.fifo, h.running, h.stopped⟩
    | full opened ordinary full =>
      rw [if_neg fun hopen => nomatch hopen.1]
      exact ⟨hvalid, h.fifo, h.running, h.stopped⟩
  | take =>
    refine ⟨take_control_valid h.valid, ?_, fun hopen => ?_, h.stopped⟩
    · change (run.taken ++ (take_control run.mailboxes).1.toList) ++
        (take_control run.mailboxes).2.queue = run.accepted
      rw [List.append_assoc, ← take_control_spec h.valid, h.fifo]
    · exact h.running ((take_control_closed _).symm.trans hopen)
  | close => exact ⟨⟨h.valid.head, h.valid.room, nofun⟩, h.fifo, nofun, h.stopped⟩

theorem mailbox_run_in_order (controls : ℕ → Control φ) (calls : List (MailboxCall φ)) :
    (mailbox_run controls calls).InOrder := by
  induction calls using List.reverseRecOn with
  | nil => exact ⟨create_valid controls, rfl, nofun, fun before _ _ h => by cases before <;> cases h⟩
  | append_singleton calls call ih =>
    rw [mailbox_run, List.foldl_append]
    exact ih.call call

end Calls

end Nxvm.Kvm
