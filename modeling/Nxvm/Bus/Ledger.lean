/-
What the trace of the bus says, and what the operations of the transaction keep of it.

A refresh cycle runs from its begin to the mark of its completion. While one runs, nothing
begins; a completion is of one that runs. The counters of the transaction count the cycles
that were begun and are no longer on the bus.
-/
import Nxvm.Bus.Transaction

set_option autoImplicit false

namespace Nxvm.Bus

open Nxvm.Machine (Status TransactionOwner)

/-! ## Reading a trace -/

/-- A refresh cycle goes onto the bus. -/
def BusEvent.begins_refresh : BusEvent → Bool
  | .transaction r => decide (r.phase = .begin) && decide (r.owner = .refresh)
  | .refresh_complete => false
  | .reset => false

/-- A refresh cycle has begun and was neither completed nor reset. -/
def refresh_running : List BusEvent → Bool
  | [] => false
  | .transaction r :: earlier =>
    BusEvent.begins_refresh (.transaction r) || refresh_running earlier
  | .refresh_complete :: _ => false
  | .reset :: _ => false

/-- An entry may follow what is in the trace. -/
def Follows (earlier : List BusEvent) : BusEvent → Prop
  | .transaction r => r.phase = .begin → refresh_running earlier = false
  | .refresh_complete => refresh_running earlier = true
  | .reset => True

/-- Nothing begins while a refresh cycle runs, and only a running one is completed. -/
def InOrder : List BusEvent → Prop
  | [] => True
  | e :: earlier => Follows earlier e ∧ InOrder earlier

/-- Refresh cycles begun. -/
def refresh_starts (trace : List BusEvent) : ℕ := trace.countP BusEvent.begins_refresh

/-- Refresh cycles completed. -/
def refresh_completions (trace : List BusEvent) : ℕ := trace.count .refresh_complete

/-- Refresh cycles that were running at a reset. -/
def refresh_aborts : List BusEvent → ℕ
  | [] => 0
  | .reset :: earlier => refresh_aborts earlier + (refresh_running earlier).toNat
  | .transaction _ :: earlier => refresh_aborts earlier
  | .refresh_complete :: earlier => refresh_aborts earlier

/-- Cycles begun since the last reset. -/
def begun_count : List BusEvent → ℕ
  | [] => 0
  | .transaction r :: earlier => begun_count earlier + (decide (r.phase = .begin)).toNat
  | .refresh_complete :: earlier => begun_count earlier
  | .reset :: _ => 0

/-- Every refresh cycle that began was completed once, was reset, or runs. -/
theorem InOrder.refresh_starts {trace : List BusEvent} (h : InOrder trace) :
    refresh_starts trace = refresh_completions trace + refresh_aborts trace +
      (refresh_running trace).toNat := by
  induction trace with
  | nil => rfl
  | cons e earlier ih =>
    have ih := ih h.2
    have hfollows := h.1
    unfold Bus.refresh_starts refresh_completions at ih ⊢
    rw [List.countP_cons, List.count_cons]
    cases e with
    | refresh_complete =>
      have hrun : refresh_running earlier = true := hfollows
      rw [hrun] at ih
      simp only [BusEvent.begins_refresh, refresh_aborts, refresh_running, Bool.toNat_true,
        Bool.toNat_false, beq_self_eq_true, if_true, Bool.false_eq_true, if_false] at ih ⊢
      omega
    | reset =>
      simp only [BusEvent.begins_refresh, refresh_aborts, refresh_running, Bool.toNat_false,
        Bool.false_eq_true, if_false, reduceCtorEq, beq_iff_eq] at ih ⊢
      omega
    | transaction r =>
      have hbegin : r.phase = .begin → refresh_running earlier = false := hfollows
      have hne : (BusEvent.transaction r == BusEvent.refresh_complete) = false := by simp
      rw [hne, if_neg Bool.false_ne_true]
      change _ = _ + refresh_aborts earlier +
        (BusEvent.begins_refresh (.transaction r) || refresh_running earlier).toNat
      by_cases hrefresh : BusEvent.begins_refresh (.transaction r) = true
      · have hphase : r.phase = .begin := by
          simp only [BusEvent.begins_refresh, Bool.and_eq_true, decide_eq_true_eq] at hrefresh
          exact hrefresh.1
        rw [hbegin hphase, Bool.toNat_false] at ih
        rw [hrefresh, if_pos rfl, Bool.true_or, Bool.toNat_true]
        omega
      · rw [if_neg hrefresh, Bool.eq_false_iff.mpr hrefresh, Bool.false_or]
        omega

/-! ## What is kept -/

/-- One cycle if one is on the bus. -/
def in_flight (state : TransactionState) : ℕ := if state.owner = .none then 0 else 1

/-- What was begun since the reset is what was ended and what is on the bus. The counters are
of 64 bits. -/
def CountersAgree (state : TransactionState) : Prop :=
  begun_count state.trace ≡
    state.committed_count + state.cancelled_count + in_flight state [MOD 2 ^ 64]

/-- The bus is as the refresh cycle and the trace say: an occupied bus is the refresh's, the
trace is in order, and the counters agree with it. -/
structure Sound (remaining : ℕ) (state : TransactionState) : Prop where
  owned : remaining ≠ 0 → state.owner = .refresh ∧ state.hold_owner = .refresh ∧
    state.hold_acknowledged = true
  running : refresh_running state.trace = true ↔ remaining ≠ 0
  in_order : InOrder state.trace
  counted : CountersAgree state

/-- The trace has grown, by no reset. -/
def Grows (before after : List BusEvent) : Prop :=
  ∃ added, after = added ++ before ∧ BusEvent.reset ∉ added

theorem Grows.refl (trace : List BusEvent) : Grows trace trace := ⟨[], rfl, by simp⟩

theorem Grows.trans {a b c : List BusEvent} (h : Grows a b) (h' : Grows b c) : Grows a c := by
  obtain ⟨added, rfl, hadded⟩ := h
  obtain ⟨added', rfl, hadded'⟩ := h'
  refine ⟨added' ++ added, (List.append_assoc _ _ _).symm, fun hmem => ?_⟩
  exact (List.mem_append.mp hmem).elim hadded' hadded

theorem Grows.record (r : TransactionRecord) (trace : List BusEvent) :
    Grows trace (.transaction r :: trace) := ⟨[.transaction r], rfl, by simp⟩

theorem Grows.complete (trace : List BusEvent) : Grows trace (.refresh_complete :: trace) :=
  ⟨[.refresh_complete], rfl, by simp⟩

theorem Grows.completions_le {a b : List BusEvent} (h : Grows a b) :
    refresh_completions a ≤ refresh_completions b := by
  obtain ⟨added, rfl, -⟩ := h
  unfold refresh_completions
  rw [List.count_append]
  exact Nat.le_add_left _ _

theorem Grows.reset_mem {a b : List BusEvent} (h : Grows a b) (hb : BusEvent.reset ∈ b) :
    BusEvent.reset ∈ a := by
  obtain ⟨added, rfl, hadded⟩ := h
  exact (List.mem_append.mp hb).resolve_left hadded

/-- Without a reset no refresh cycle is lost. -/
theorem refresh_aborts_eq_zero {trace : List BusEvent} (h : BusEvent.reset ∉ trace) :
    refresh_aborts trace = 0 := by
  induction trace with
  | nil => rfl
  | cons e earlier ih =>
    rw [List.mem_cons, not_or] at h
    cases e with
    | transaction r => exact ih h.2
    | refresh_complete => exact ih h.2
    | reset => exact absurd rfl h.1

/-- A change of the transaction keeps what is sound and only adds to the trace. -/
structure Moves (remaining : ℕ) (before after : TransactionState) : Prop where
  sound : Sound remaining before → Sound remaining after
  grown : Grows before.trace after.trace

theorem Moves.refl (remaining : ℕ) (state : TransactionState) :
    Moves remaining state state :=
  ⟨id, Grows.refl _⟩

theorem Moves.trans {remaining : ℕ} {a b c : TransactionState} (h : Moves remaining a b)
    (h' : Moves remaining b c) : Moves remaining a c :=
  ⟨fun hs => h'.sound (h.sound hs), h.grown.trans h'.grown⟩

theorem sound_initialize : Sound 0 transaction_initialize :=
  ⟨fun h => absurd rfl h, ⟨fun h => (nomatch h), fun h => absurd rfl h⟩, trivial, rfl⟩

section Operations

variable {remaining : ℕ} {state : TransactionState}

/-- While nobody has a cycle on the bus, no refresh occupies it. -/
theorem Sound.free (h : Sound remaining state) (howner : state.owner ≠ .refresh) :
    remaining = 0 := by
  by_contra hne
  exact howner (h.owned hne).1

theorem Sound.not_running (h : Sound remaining state) (howner : state.owner ≠ .refresh) :
    refresh_running state.trace = false := by
  rw [Bool.eq_false_iff]
  exact fun hrun => h.running.mp hrun (h.free howner)

/-! ### Entries of the trace -/

theorem refresh_running_record {r : TransactionRecord} {earlier : List BusEvent}
    (h : BusEvent.begins_refresh (.transaction r) = false) :
    refresh_running (.transaction r :: earlier) = refresh_running earlier := by
  change (BusEvent.begins_refresh (.transaction r) || refresh_running earlier) = _
  rw [h, Bool.false_or]

theorem not_begins_of_phase {r : TransactionRecord} (h : r.phase ≠ .begin) :
    BusEvent.begins_refresh (.transaction r) = false := by
  simp [BusEvent.begins_refresh, h]

/-- A record of another phase than the begin changes nothing the trace says. -/
theorem Sound.record (h : Sound remaining state) (phase : TransactionPhase)
    (hphase : phase ≠ .begin) : Sound remaining (transaction_record state phase) where
  owned := h.owned
  running := by
    unfold transaction_record
    rw [refresh_running_record (not_begins_of_phase hphase)]
    exact h.running
  in_order := ⟨fun hbegin => absurd hbegin hphase, h.in_order⟩
  counted := by
    have hcount : begun_count (transaction_record state phase).trace =
        begun_count state.trace + (decide (phase = .begin)).toNat := rfl
    unfold CountersAgree
    rw [hcount, decide_eq_false hphase]
    exact h.counted

theorem transaction_record_grown (state : TransactionState) (phase : TransactionPhase) :
    Grows state.trace (transaction_record state phase).trace :=
  Grows.record _ _

/-- The counters do not depend on who holds the bus. -/
theorem Sound.hold (h : Sound remaining state) (hfree : state.owner ≠ .refresh)
    (owner : TransactionOwner) (detail : ℕ) (acknowledged : Bool) :
    Sound remaining
      { state with hold_owner := owner, hold_detail := detail,
                   hold_acknowledged := acknowledged } where
  owned hne := absurd (h.free hfree) hne
  running := h.running
  in_order := h.in_order
  counted := h.counted

/-! ### The counters -/

theorem in_flight_of_eq (h : state.owner = .none) : in_flight state = 0 := if_pos h

theorem in_flight_of_ne (h : state.owner ≠ .none) : in_flight state = 1 := if_neg h

theorem CountersAgree.begun (h : CountersAgree state) (hnone : state.owner = .none)
    {owner : TransactionOwner} (howner : owner ≠ .none) (kind : TransactionKind)
    (address value detail : ℕ) :
    CountersAgree (transaction_begun state owner kind address value detail) := by
  unfold CountersAgree at h ⊢
  rw [in_flight_of_eq hnone] at h
  rw [in_flight_of_ne howner]
  exact h.add_right 1

/-- One more of the counted cycles. -/
theorem counted_modEq (count : ℕ) : counted count ≡ count + 1 [MOD 2 ^ 64] := Nat.mod_modEq _ _

theorem CountersAgree.commit (h : CountersAgree state) :
    CountersAgree (transaction_commit state) := by
  unfold transaction_commit
  split_ifs with hnone
  · exact h
  · unfold CountersAgree at h
    rw [in_flight_of_ne hnone] at h
    have hadd := ((counted_modEq state.committed_count).add_right state.cancelled_count).symm
    rw [Nat.add_right_comm] at hadd
    exact h.trans hadd

theorem CountersAgree.cancel (h : CountersAgree state) :
    CountersAgree (transaction_cancel state) := by
  unfold transaction_cancel
  split_ifs with hnone
  · exact h
  · unfold CountersAgree at h
    rw [in_flight_of_ne hnone] at h
    have hadd := ((counted_modEq state.cancelled_count).add_left state.committed_count).symm
    exact h.trans hadd

/-! ### The operations -/

theorem not_refresh_of_none (h : state.owner = .none) : state.owner ≠ .refresh := by
  rw [h]
  decide

/-- A cycle of another owner than the refresh. -/
theorem transaction_begin_moves {owner : TransactionOwner} (howner : owner ≠ .refresh)
    (kind : TransactionKind) (address value detail : ℕ) :
    Moves remaining state (transaction_begin state owner kind address value detail).2 := by
  unfold transaction_begin
  split_ifs with hdenies
  · exact Moves.refl remaining state
  · obtain ⟨hsome, hnone, -⟩ : owner ≠ .none ∧ state.owner = .none ∧ _ := by
      simpa only [transaction_denies, not_or, not_not, ne_eq] using hdenies
    refine ⟨fun h => ?_, Grows.record _ _⟩
    have hfree := h.free (not_refresh_of_none hnone)
    have hrefresh : BusEvent.begins_refresh (.transaction
        { owner := owner, kind := some kind, phase := .begin, address := address, value := value,
          detail := detail }) = false := by
      simp [BusEvent.begins_refresh, howner]
    refine ⟨fun hne => absurd hfree hne, ?_, ⟨fun _ => ?_, h.in_order⟩, ?_⟩
    · exact (Bool.eq_iff_iff.mp (refresh_running_record hrefresh)).trans h.running
    · exact h.not_running (not_refresh_of_none hnone)
    · exact h.counted.begun hnone hsome kind address value detail

theorem transaction_commit_moves (howner : state.owner ≠ .refresh) :
    Moves remaining state (transaction_commit state) := by
  have hcounted : CountersAgree state → CountersAgree (transaction_commit state) := .commit
  unfold transaction_commit at hcounted ⊢
  split_ifs at hcounted ⊢ with hnone
  · exact Moves.refl remaining state
  · refine ⟨fun h => ?_, transaction_record_grown state .commit⟩
    have h' := h.record .commit (by decide)
    exact ⟨fun hne => absurd (h.free howner) hne, h'.running, h'.in_order, hcounted h.counted⟩

theorem transaction_cancel_moves (howner : state.owner ≠ .refresh) :
    Moves remaining state (transaction_cancel state) := by
  have hcounted : CountersAgree state → CountersAgree (transaction_cancel state) := .cancel
  unfold transaction_cancel at hcounted ⊢
  split_ifs at hcounted ⊢ with hnone
  · exact Moves.refl remaining state
  · refine ⟨fun h => ?_, transaction_record_grown state .cancel⟩
    have h' := h.record .cancel (by decide)
    exact ⟨fun hne => absurd (h.free howner) hne, h'.running, h'.in_order, hcounted h.counted⟩

theorem transaction_set_value_moves (value : ℕ) :
    Moves remaining state (transaction_set_value state value) := by
  unfold transaction_set_value
  split_ifs
  · exact ⟨fun h => ⟨h.owned, h.running, h.in_order, h.counted⟩, Grows.refl _⟩
  · exact Moves.refl remaining state

theorem transaction_hold_request_moves (owner : TransactionOwner) (detail : ℕ) :
    Moves remaining state (transaction_hold_request state owner detail).2 := by
  unfold transaction_hold_request
  split_ifs with hdenied
  · exact Moves.refl remaining state
  · have hfree : state.owner = .none := by
      simp only [not_or, not_not, ne_eq] at hdenied
      exact hdenied.2.1
    refine ⟨fun h => Sound.record (h.hold (not_refresh_of_none hfree) owner detail false) _ ?_,
      Grows.record _ _⟩
    decide

theorem transaction_hold_acknowledge_moves (owner : TransactionOwner) :
    Moves remaining state (transaction_hold_acknowledge state owner).2 := by
  unfold transaction_hold_acknowledge
  split_ifs with hdenied
  · exact Moves.refl remaining state
  · have hfree : state.owner = .none := by
      simp only [not_or, not_not, ne_eq] at hdenied
      exact hdenied.2.1
    refine ⟨fun h => Sound.record (h.hold (not_refresh_of_none hfree) state.hold_owner
      state.hold_detail true) _ ?_, Grows.record _ _⟩
    decide

theorem transaction_hold_release_moves (owner : TransactionOwner) :
    Moves remaining state (transaction_hold_release state owner) := by
  unfold transaction_hold_release
  split_ifs with hdenied
  · exact Moves.refl remaining state
  · have hfree : state.owner = .none := by
      simp only [not_or, not_not, ne_eq] at hdenied
      exact hdenied.2.2
    refine ⟨fun h => Sound.hold (h.record .hold_release ?_)
      (not_refresh_of_none hfree) .none 0 false, transaction_record_grown _ _⟩
    decide

theorem InOrder.record (h : InOrder state.trace) {phase : TransactionPhase}
    (hphase : phase ≠ .begin) : InOrder (transaction_record state phase).trace :=
  ⟨fun hbegin => absurd hbegin hphase, h⟩

/-- A reset ends whatever is on the bus. -/
theorem transaction_reset_sound (h : Sound remaining state) :
    Sound 0 (transaction_reset state) := by
  refine ⟨fun hne => absurd rfl hne, ⟨fun hrun => (nomatch hrun), fun hne => absurd rfl hne⟩,
    ⟨trivial, ?_⟩, rfl⟩
  have hcancel : InOrder (transaction_cancel state).trace := by
    unfold transaction_cancel
    split_ifs
    · exact h.in_order
    · exact h.in_order.record (by decide)
  generalize transaction_cancel state = cancelled at hcancel
  unfold transaction_hold_release
  split_ifs
  · exact hcancel
  · exact hcancel.record (by decide)

/-- A refresh cycle goes onto the bus it holds. -/
theorem transaction_begun_refresh_sound {n : ℕ} (hn : n ≠ 0) (h : Sound 0 state)
    (hnone : state.owner = .none) (hhold : state.hold_owner = .refresh)
    (hacknowledged : state.hold_acknowledged = true) (kind : TransactionKind)
    (address value detail : ℕ) :
    Sound n (transaction_begun state .refresh kind address value detail) := by
  refine ⟨fun _ => ⟨rfl, hhold, hacknowledged⟩, ⟨fun _ => hn, fun _ => rfl⟩,
    ⟨fun _ => h.not_running (not_refresh_of_none hnone), h.in_order⟩, ?_⟩
  exact h.counted.begun hnone (by decide) kind address value detail

/-- The refresh cycle that runs is committed and reported. -/
theorem refresh_complete_sound {n : ℕ} (hn : n ≠ 0) (h : Sound n state) :
    Sound 0 (mark_refresh_complete (transaction_commit state)) ∧
      (mark_refresh_complete (transaction_commit state)).owner = .none ∧
      (mark_refresh_complete (transaction_commit state)).hold_owner = .refresh := by
  obtain ⟨howner, hhold, -⟩ := h.owned hn
  have hsome : state.owner ≠ .none := by
    rw [howner]
    decide
  have hrecord := h.record .commit (by decide)
  have hcounted := h.counted.commit
  unfold transaction_commit at hcounted ⊢
  rw [if_neg hsome] at hcounted ⊢
  exact ⟨⟨fun hne => absurd rfl hne, ⟨fun hrun => (nomatch hrun), fun hne => absurd rfl hne⟩,
    ⟨hrecord.running.mpr hn, hrecord.in_order⟩, hcounted⟩, rfl, hhold⟩

theorem transaction_commit_grown (state : TransactionState) :
    Grows state.trace (transaction_commit state).trace := by
  unfold transaction_commit
  split_ifs
  · exact Grows.refl _
  · exact Grows.record _ _

end Operations

end Nxvm.Bus
