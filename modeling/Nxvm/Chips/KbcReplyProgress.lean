/-
A waiting reply of the keyboard controller is published.

While a reply waits, no call that does not clear it makes it wait for more. Ticks end with
time, status polls with polls and a full FIFO with reads, so that a guest that goes on with
all three comes to an advance that publishes the reply, once the keyboard has no deliverable
bytes.
-/
import Nxvm.Chips.KbcReplies

set_option autoImplicit false

namespace Nxvm.Chips

open Nxvm.Lib Nxvm.Lib.Register Nxvm.Machine

section Progress

variable {σ : Type} (link : KbcLink σ)

/-! ## Waiting -/

/-- The reply is published on the way. -/
def Publishes (reply : KbcReply) (s s' : KbcState σ) : Prop :=
  ∃ events, s'.journal = s.journal ++ events ∧ .published reply ∈ events

/-- The reply still waits, for no more than before. -/
structure StillPending (reply : KbcReply) (s s' : KbcState σ) : Prop where
  waiting : s'.chip.delayed_response = some reply
  ticks : s'.chip.response_remaining_ticks ≤ s.chip.response_remaining_ticks
  polls : s'.chip.response_status_polls_remaining ≤ s.chip.response_status_polls_remaining
  fifo : s'.chip.fifo.length ≤ max s.chip.fifo.length 6

/-- The journal goes on, and nothing is cleared. -/
def Grows (s s' : KbcState σ) : Prop :=
  ∃ events, s'.journal = s.journal ++ events ∧ .cleared ∉ events

/-- The journal goes on, and a waiting reply is published or still waits. -/
structure Awaits (s s' : KbcState σ) : Prop where
  grows : Grows s s'
  reply : ∀ reply, s.chip.delayed_response = some reply →
    Publishes reply s s' ∨ StillPending reply s s'

theorem Grows.of_same {s s' : KbcState σ} (h : s'.journal = s.journal) : Grows s s' :=
  ⟨[], by rw [h, List.append_nil], List.not_mem_nil⟩

theorem Grows.of_event {s s' : KbcState σ} {event : KbcEvent}
    (h : s'.journal = s.journal ++ [event]) (hne : event ≠ .cleared) : Grows s s' :=
  ⟨[event], h, fun hmem => hne (List.mem_singleton.mp hmem).symm⟩

theorem Grows.trans {a b c : KbcState σ} (h : Grows a b) (h' : Grows b c) : Grows a c := by
  obtain ⟨events, hb, hne⟩ := h
  obtain ⟨events', hc, hne'⟩ := h'
  refine ⟨events ++ events', by rw [hc, hb, List.append_assoc], fun hmem => ?_⟩
  exact (List.mem_append.mp hmem).elim hne hne'

theorem Publishes.before {reply : KbcReply} {a b c : KbcState σ} (h : Publishes reply a b)
    (hgrows : Grows b c) : Publishes reply a c := by
  obtain ⟨events, hb, hmem⟩ := h
  obtain ⟨more, hc, -⟩ := hgrows
  exact ⟨events ++ more, by rw [hc, hb, List.append_assoc], List.mem_append_left _ hmem⟩

theorem Publishes.after {reply : KbcReply} {a b c : KbcState σ} (hgrows : Grows a b)
    (h : Publishes reply b c) : Publishes reply a c := by
  obtain ⟨events, hc, hmem⟩ := h
  obtain ⟨more, hb, -⟩ := hgrows
  exact ⟨more ++ events, by rw [hc, hb, List.append_assoc], List.mem_append_right _ hmem⟩

theorem StillPending.trans {reply : KbcReply} {a b c : KbcState σ} (h : StillPending reply a b)
    (h' : StillPending reply b c) : StillPending reply a c :=
  ⟨h'.waiting, h'.ticks.trans h.ticks, h'.polls.trans h.polls,
    h'.fifo.trans (max_le h.fifo (le_max_right _ _))⟩

theorem Awaits.refl (s : KbcState σ) : Awaits s s :=
  ⟨.of_same rfl, fun _ hwaiting => Or.inr ⟨hwaiting, le_rfl, le_rfl, le_max_left _ _⟩⟩

theorem Awaits.trans {a b c : KbcState σ} (h : Awaits a b) (h' : Awaits b c) : Awaits a c := by
  refine ⟨h.grows.trans h'.grows, fun reply hwaiting => ?_⟩
  obtain hpublishes | hpending := h.reply reply hwaiting
  · exact Or.inl (hpublishes.before h'.grows)
  · obtain hpublishes | hpending' := h'.reply reply hpending.waiting
    · exact Or.inl (hpublishes.after h.grows)
    · exact Or.inr (hpending.trans hpending')

theorem StillWaits.pending {reply : KbcReply} {s s' : KbcState σ} (h : StillWaits s.chip s'.chip)
    (hwaiting : s.chip.delayed_response = some reply)
    (hfifo : s'.chip.fifo.length ≤ max s.chip.fifo.length 6) : StillPending reply s s' :=
  ⟨h.delayed_response.trans hwaiting, h.ticks, h.polls, hfifo⟩

/-- Other bytes go into the FIFO only where it is nearly empty. -/
theorem KbcMove.awaits {s s' : KbcState σ} (hmove : KbcMove s s') : Awaits s s' := by
  cases hmove with
  | other lines waits hjournal =>
    refine ⟨.of_same hjournal, fun reply hwaiting => Or.inr (waits.pending hwaiting ?_)⟩
    rw [lines.fifo]
    exact le_max_left _ _
  | queue entry filled waits few hjournal =>
    refine ⟨.of_event hjournal (fun h => nomatch h), fun reply hwaiting =>
      Or.inr (waits.pending hwaiting ?_)⟩
    obtain hnone | hfew := few
    · rw [hnone] at hwaiting
      exact nomatch hwaiting
    · rw [filled.fifo, List.length_append, List.length_singleton]
      exact le_max_of_le_right hfew
  | publish reply waiting filled published hjournal =>
    refine ⟨.of_event hjournal (fun h => nomatch h), fun other hwaiting => Or.inl ?_⟩
    obtain rfl : reply = other := Option.some.inj (waiting.symm.trans hwaiting)
    exact ⟨_, hjournal, List.mem_singleton_self _⟩
  | hand reply lines kept taken hjournal =>
    refine ⟨.of_event hjournal (fun h => nomatch h), fun other hwaiting =>
      Or.inr ((kept (by rw [hwaiting]; rfl)).pending hwaiting ?_)⟩
    rw [lines.fifo]
    exact le_max_left _ _

theorem KbcSteps.awaits {s s' : KbcState σ} (hsteps : KbcSteps s s') : Awaits s s' := by
  induction hsteps with
  | refl => exact .refl s
  | tail _ hstep ih =>
    refine ih.trans ?_
    cases hstep with
    | move hmove => exact hmove.awaits
    | pop entry before waits hjournal =>
      refine ⟨.of_event hjournal (fun h => nomatch h), fun reply hwaiting =>
        Or.inr (waits.pending hwaiting ?_)⟩
      rw [before, List.length_cons]
      exact le_max_of_le_left (Nat.le_succ _)
    | command hfifo waits hjournal =>
      refine ⟨.of_same hjournal, fun reply hwaiting => Or.inr (waits.pending hwaiting ?_)⟩
      rw [hfifo]
      exact le_max_left _ _

/-! ## What makes it wait for less -/

theorem kbc_publish_response_publishes {s : KbcState σ} {reply : KbcReply}
    (hroom : reply.bytes.length ≤ kbc_fifo_capacity - s.chip.fifo.length) :
    Publishes reply s (kbc_publish_response link s reply) := by
  have hpos := reply.length_pos
  obtain ⟨-, hjournal⟩ := kbc_enqueue_all link reply.origin reply.bytes (s := s) rfl
    (List.ne_nil_of_length_pos hpos) (by omega)
  refine ⟨[.published reply], ?_, List.mem_singleton_self _⟩
  rw [← hjournal]
  rfl

/-- The reply's own part of an advance. -/
theorem kbc_advance_response_cases {s : KbcState σ} {reply : KbcReply}
    (hwaiting : s.chip.delayed_response = some reply) (elapsed_ticks : ℕ) :
    Publishes reply s (kbc_advance_response link s elapsed_ticks) ∨
      (kbc_advance_response link s elapsed_ticks).chip.delayed_response = some reply ∧
        (kbc_advance_response link s elapsed_ticks).chip.response_remaining_ticks =
          s.chip.response_remaining_ticks - elapsed_ticks := by
  unfold kbc_advance_response
  rw [hwaiting]
  dsimp only
  by_cases hearly : elapsed_ticks < s.chip.response_remaining_ticks
  · rw [if_pos hearly]
    exact Or.inr ⟨hwaiting, rfl⟩
  · rw [if_neg hearly]
    split_ifs with hpublish
    · rw [kbc_response_can_publish, Bool.and_eq_true, decide_eq_true_eq] at hpublish
      exact Or.inl (kbc_publish_response_publishes link hpublish.2)
    · exact Or.inr ⟨hwaiting, by dsimp only; omega⟩

/-- Time makes it wait for fewer ticks. -/
theorem kbc_advance_ticks {s : KbcState σ} {reply : KbcReply}
    (hwaiting : s.chip.delayed_response = some reply) {elapsed_ticks : ℕ} (ht : 0 < elapsed_ticks)
    (hticks : s.chip.response_remaining_ticks ≠ 0) :
    Publishes reply s (kbc_advance link s elapsed_ticks) ∨
      (kbc_advance link s elapsed_ticks).chip.response_remaining_ticks <
        s.chip.response_remaining_ticks := by
  have hserial (s : KbcState σ) : KbcMoves s (kbc_advance_serial s elapsed_ticks) :=
    moves_beside ⟨⟨rfl, rfl, rfl⟩, rfl, rfl, rfl⟩ ⟨rfl, le_rfl, le_rfl⟩ rfl
  have hbefore := ((kbc_advance_pulses_moves link s elapsed_ticks).trans <| (hserial _).trans <|
    (kbc_drain_keyboard_serial_moves link _).trans (kbc_advance_bat_moves link _)).steps.awaits
  have hresponse (s : KbcState σ) :=
    (kbc_advance_response_moves link s elapsed_ticks).steps.awaits
  have hrepeat (s : KbcState σ) := (kbc_advance_repeat_moves link s elapsed_ticks).steps.awaits
  unfold kbc_advance
  dsimp only
  obtain hpublishes | hpending := hbefore.reply reply hwaiting
  · exact Or.inl (hpublishes.before ((hresponse _).trans (hrepeat _)).grows)
  · obtain hpublishes | ⟨hwaiting', hless⟩ :=
      kbc_advance_response_cases link hpending.waiting elapsed_ticks
    · exact Or.inl ((hpublishes.after hbefore.grows).before (hrepeat _).grows)
    · obtain hpublishes | hpending' := (hrepeat _).reply reply hwaiting'
      · exact Or.inl (hpublishes.after (hbefore.trans (hresponse _)).grows)
      · have hle := hpending'.ticks
        have hle' := hpending.ticks
        rw [hless] at hle
        exact Or.inr (by omega)

/-- A poll makes it wait for one poll less, once its ticks are over. -/
theorem kbc_read_status_polls {s : KbcState σ} {reply : KbcReply}
    (hwaiting : s.chip.delayed_response = some reply)
    (hticks : s.chip.response_remaining_ticks = 0)
    (hpolls : s.chip.response_status_polls_remaining ≠ 0) :
    Publishes reply s (kbc_read_status link s).2 ∨
      (kbc_read_status link s).2.chip.response_status_polls_remaining <
        s.chip.response_status_polls_remaining := by
  have hdue : s.chip.delayed_response.isSome ∧ s.chip.response_remaining_ticks = 0 ∧
      s.chip.response_status_polls_remaining ≠ 0 := ⟨by rw [hwaiting]; rfl, hticks, hpolls⟩
  unfold kbc_read_status
  dsimp only
  rw [if_pos hdue]
  dsimp only
  have hless : (kbc_poll s).chip.response_status_polls_remaining =
      s.chip.response_status_polls_remaining - 1 := rfl
  have hawaits := (kbc_advance_moves link (kbc_poll s) 0).steps.awaits
  split_ifs
  · obtain hpublishes | hpending := hawaits.reply reply hwaiting
    · exact Or.inl (hpublishes.after (a := s) (.of_same rfl))
    · have hle := hpending.polls
      exact Or.inr (by omega)
  · exact Or.inr (by omega)

/-- A read of the FIFO makes room. -/
theorem kbc_read_data_room {s : KbcState σ} {reply : KbcReply}
    (hwaiting : s.chip.delayed_response = some reply)
    (hspecial : s.chip.special_read_pending = false) (hfull : 60 < s.chip.fifo.length) :
    Publishes reply s (kbc_read_data link s).2 ∨
      (kbc_read_data link s).2.chip.fifo.length < s.chip.fifo.length := by
  unfold kbc_read_data
  rw [hspecial]
  simp only [Bool.false_eq_true, if_false]
  unfold kbc_dequeue
  cases hfifo : s.chip.fifo with
  | nil =>
    rw [hfifo] at hfull
    exact absurd hfull (by decide)
  | cons entry rest =>
    dsimp only
    have htake := (kbc_take_steps link hfifo).awaits
    have hafter := ((kbc_advance_moves link (kbc_take link s entry rest) 0).trans
      (kbc_drain_keyboard_serial_moves link _)).steps.awaits
    have hrest : (kbc_take link s entry rest).chip.fifo = rest := by
      unfold kbc_take
      rw [(kbc_refresh_current_irq_chip link _).1]
      unfold kbc_acknowledge
      split_ifs
      · rw [kbc_settled, (kbc_deassert_irq1_chip link _).1]
        rfl
      · rw [kbc_settled, (kbc_deassert_irq12_chip link _).1]
        rfl
      · rfl
    obtain hpublishes | hpending := htake.reply reply hwaiting
    · exact Or.inl (hpublishes.before hafter.grows)
    · obtain hpublishes | hpending' := hafter.reply reply hpending.waiting
      · exact Or.inl (hpublishes.after htake.grows)
      · have hle := hpending'.fifo
        rw [hrest] at hle
        rw [hfifo, List.length_cons] at hfull
        rw [List.length_cons]
        exact Or.inr (by omega)

/-! ## The publication -/

/-- The pins of the controller's output port are not the keyboard's. -/
def PinsKeepKeyboard : Prop :=
  ∀ context value, link.keyboard_inputs (link.output_port context value) =
    link.keyboard_inputs context

/-- What decides about the publication, before the reply's part of an advance. -/
theorem kbc_advance_pulses_keeps (hpins : PinsKeepKeyboard link) (s : KbcState σ)
    (elapsed_ticks : ℕ) :
    let s' := kbc_advance_serial (kbc_advance_pulses link s elapsed_ticks) elapsed_ticks
    s'.chip.fifo = s.chip.fifo ∧ s'.chip.delayed_response = s.chip.delayed_response ∧
      s'.chip.response_remaining_ticks = s.chip.response_remaining_ticks ∧
      s'.chip.response_status_polls_remaining = s.chip.response_status_polls_remaining ∧
      kbc_keyboard_serial_delivery_pending link s' =
        kbc_keyboard_serial_delivery_pending link s ∧ s'.journal = s.journal := by
  unfold kbc_advance_pulses
  dsimp only
  split_ifs
  · exact ⟨rfl, rfl, rfl, rfl, rfl, rfl⟩
  · exact ⟨rfl, rfl, rfl, rfl, rfl, rfl⟩
  · refine ⟨rfl, rfl, rfl, rfl, ?_, rfl⟩
    unfold kbc_keyboard_serial_delivery_pending kbc_advance_serial kbc_apply_output_port
    dsimp only
    rw [hpins]
    rfl

/-- A reply that waits for nothing any more is published by an advance. -/
theorem kbc_advance_publishes (hpins : PinsKeepKeyboard link) {s : KbcState σ}
    {reply : KbcReply} (hwaiting : s.chip.delayed_response = some reply)
    (hticks : s.chip.response_remaining_ticks = 0)
    (hpolls : s.chip.response_status_polls_remaining = 0) (hroom : s.chip.fifo.length ≤ 60)
    (hquiet : kbc_keyboard_serial_delivery_pending link s = false) (elapsed_ticks : ℕ) :
    Publishes reply s (kbc_advance link s elapsed_ticks) := by
  obtain ⟨hfifo, hwaiting', hticks', hpolls', hquiet', hjournal⟩ :=
    kbc_advance_pulses_keeps link hpins s elapsed_ticks
  have hrepeat (s : KbcState σ) := (kbc_advance_repeat_moves link s elapsed_ticks).steps.awaits
  unfold kbc_advance
  dsimp only
  generalize kbc_advance_serial (kbc_advance_pulses link s elapsed_ticks) elapsed_ticks = ready
    at hfifo hwaiting' hticks' hpolls' hquiet' hjournal ⊢
  rw [hwaiting] at hwaiting'
  rw [hquiet] at hquiet'
  -- neither scan bytes nor BAT go before the reply
  have hdrain : kbc_drain_keyboard_serial link ready = ready := by
    unfold kbc_drain_keyboard_serial
    exact if_pos (Or.inr hquiet')
  have hbat : kbc_advance_bat link ready = ready := by
    unfold kbc_advance_bat
    rw [hwaiting']
    simp
  rw [hdrain, hbat]
  refine Publishes.before ?_ (hrepeat _).grows
  have hlength := reply.length_le
  have hcan : kbc_response_can_publish link
      { ready with chip := { ready.chip with response_remaining_ticks := 0 } } reply = true := by
    have hkept : kbc_keyboard_serial_delivery_pending link
        { ready with chip := { ready.chip with response_remaining_ticks := 0 } } = false := hquiet'
    unfold kbc_response_can_publish
    rw [hkept]
    dsimp only
    rw [hpolls', hpolls, hfifo]
    have hspace : reply.bytes.length ≤ kbc_fifo_capacity - s.chip.fifo.length := by
      simp only [kbc_fifo_capacity, kbc_response_capacity] at hlength ⊢
      omega
    rw [decide_eq_true hspace]
    rfl
  unfold kbc_advance_response
  rw [hwaiting']
  dsimp only
  rw [if_neg (by rw [hticks', hticks]; exact Nat.not_lt_zero _), if_pos hcan]
  have hspace : reply.bytes.length ≤ kbc_fifo_capacity - ready.chip.fifo.length := by
    rw [hfifo]
    simp only [kbc_fifo_capacity, kbc_response_capacity] at hlength ⊢
    omega
  refine Publishes.after (b := { ready with chip :=
    { ready.chip with response_remaining_ticks := 0 } }) ?_
    (kbc_publish_response_publishes link hspace)
  exact .of_same hjournal

/-! ## Runs without end -/

/-- The state after so many calls. -/
def kbc_run (start : KbcState σ) (calls : ℕ → KbcOp σ) : ℕ → KbcState σ
  | 0 => start
  | n + 1 => kbc_apply link (kbc_run start calls n) (calls n)

/-- From a call on nothing is cleared; and again and again time passes, the guest polls the
status and reads the FIFO, and there is an advance where the keyboard has no deliverable
bytes. -/
structure KeepsServing (start : KbcState σ) (calls : ℕ → KbcOp σ) (N : ℕ) : Prop where
  clears : ∀ n ≥ N, ¬ Clears (calls n)
  time : ∀ n ≥ N, ∃ m ≥ n, ∃ ticks, 0 < ticks ∧ calls m = .advance ticks
  polls : ∀ n ≥ N, ∃ m ≥ n, calls m = .read_status
  reads : ∀ n ≥ N, ∃ m ≥ n, calls m = .read_data ∧
    (kbc_run link start calls m).chip.special_read_pending = false
  quiet : ∀ n ≥ N, ∃ m ≥ n, ∃ ticks, calls m = .advance ticks ∧
    kbc_keyboard_serial_delivery_pending link (kbc_run link start calls m) = false

section Serving

variable {link} {start : KbcState σ} {calls : ℕ → KbcOp σ} {N : ℕ}

theorem KeepsServing.awaits (hserving : KeepsServing link start calls N) {n : ℕ} (hn : N ≤ n) :
    Awaits (kbc_run link start calls n) (kbc_run link start calls (n + 1)) :=
  (kbc_apply_steps link _ (hserving.clears n hn)).awaits

theorem KeepsServing.grows (hserving : KeepsServing link start calls N) {n : ℕ} (hn : N ≤ n) :
    Grows (kbc_run link start calls N) (kbc_run link start calls n) := by
  induction hn with
  | refl => exact .of_same rfl
  | @step n hn ih => exact ih.trans (hserving.awaits hn).grows

/-- The waiting reply is published. -/
theorem KeepsServing.publishes (hpins : PinsKeepKeyboard link)
    (hserving : KeepsServing link start calls N) {reply : KbcReply}
    (hwaiting : (kbc_run link start calls N).chip.delayed_response = some reply) :
    ∃ M ≥ N, Publishes reply (kbc_run link start calls N) (kbc_run link start calls M) := by
  by_contra hnever
  -- then it waits for ever, for less and less
  have hnot {n : ℕ} (hn : N ≤ n) :
      ¬ Publishes reply (kbc_run link start calls n) (kbc_run link start calls (n + 1)) :=
    fun hpublishes => hnever ⟨n + 1, Nat.le_succ_of_le hn, hpublishes.after (hserving.grows hn)⟩
  have hwaits (n : ℕ) (hn : N ≤ n) :
      (kbc_run link start calls n).chip.delayed_response = some reply := by
    induction hn with
    | refl => exact hwaiting
    | @step n hn ih =>
      exact (((hserving.awaits hn).reply reply ih).resolve_left (hnot hn)).waiting
  have hpending {n : ℕ} (hn : N ≤ n) :=
    ((hserving.awaits hn).reply reply (hwaits n hn)).resolve_left (hnot hn)
  obtain ⟨T, hT, hticks⟩ := eventually_zero
    (μ := fun n => (kbc_run link start calls n).chip.response_remaining_ticks)
    (fun n hn => (hpending hn).ticks) (fun n hn => by
      obtain ⟨m, hm, ticks, hpos, hcall⟩ := hserving.time n hn
      refine ⟨m, hm, fun hne => ?_⟩
      have h := kbc_advance_ticks link (hwaits m (hn.trans hm)) hpos hne
      have hnext : kbc_run link start calls (m + 1) =
          kbc_advance link (kbc_run link start calls m) ticks := by
        rw [kbc_run, hcall]
        rfl
      rw [← hnext] at h
      exact h.resolve_left (hnot (hn.trans hm)))
  obtain ⟨P, hP, hpolls⟩ := eventually_zero (N := T)
    (μ := fun n => (kbc_run link start calls n).chip.response_status_polls_remaining)
    (fun n hn => (hpending (hT.trans hn)).polls) (fun n hn => by
      obtain ⟨m, hm, hcall⟩ := hserving.polls n (hT.trans hn)
      refine ⟨m, hm, fun hne => ?_⟩
      have hmN : N ≤ m := hT.trans (hn.trans hm)
      have h := kbc_read_status_polls link (hwaits m hmN) (hticks m (hn.trans hm)) hne
      have hnext : kbc_run link start calls (m + 1) =
          (kbc_read_status link (kbc_run link start calls m)).2 := by
        rw [kbc_run, hcall]
        rfl
      rw [← hnext] at h
      exact h.resolve_left (hnot hmN))
  obtain ⟨R, hR, hroom⟩ := eventually_zero
    (μ := fun n => (kbc_run link start calls n).chip.fifo.length - 60)
    (fun n hn => by
      have hfifo := (hpending hn).fifo
      omega) (fun n hn => by
      obtain ⟨m, hm, hcall, hspecial⟩ := hserving.reads n hn
      refine ⟨m, hm, fun hne => ?_⟩
      have hmN : N ≤ m := hn.trans hm
      have h := kbc_read_data_room link (hwaits m hmN) hspecial (by omega)
      have hnext : kbc_run link start calls (m + 1) =
          (kbc_read_data link (kbc_run link start calls m)).2 := by
        rw [kbc_run, hcall]
        rfl
      rw [← hnext] at h
      have hless := h.resolve_left (hnot hmN)
      omega)
  -- the next advance without deliverable bytes publishes it
  obtain ⟨m, hm, ticks, hcall, hquiet⟩ := hserving.quiet (max P R) (hR.trans (le_max_right _ _))
  have hmP : P ≤ m := (le_max_left _ _).trans hm
  have hmR : R ≤ m := (le_max_right _ _).trans hm
  have hmN : N ≤ m := hR.trans hmR
  have hpublishes := kbc_advance_publishes link hpins (hwaits m hmN)
    (hticks m (hP.trans hmP)) (hpolls m hmP) (Nat.sub_eq_zero_iff_le.mp (hroom m hmR)) hquiet ticks
  have hnext : kbc_run link start calls (m + 1) =
      kbc_advance link (kbc_run link start calls m) ticks := by
    rw [kbc_run, hcall]
    rfl
  rw [← hnext] at hpublishes
  exact hnot hmN hpublishes

end Serving

theorem kbc_run_replays (context : σ) (calls : ℕ → KbcOp σ) (n : ℕ) :
    Replays (kbc_run link (kbc_create link context) calls n) := by
  induction n with
  | zero => exact kbc_create_replays link context
  | succ n ih => exact kbc_apply_replays link ih (calls n)

/-- A reply handed over while none waits is put into the FIFO exactly once, whole, in order
and with its origin, unless it is cleared: at every later time each accepted reply is
published or is the one that waits and each byte put into the FIFO was read or is still in
it, both in order; and in a run that goes on serving the reply is the next one published. -/
theorem kbc_reply_placed_once (hpins : PinsKeepKeyboard link) (context : σ)
    (calls : ℕ → KbcOp σ) (N : ℕ)
    (hserving : KeepsServing link (kbc_create link context) calls N)
    {before after : List KbcEvent} {reply : KbcReply} {t : KbcTransport}
    (hjournal : (kbc_run link (kbc_create link context) calls N).journal =
      before ++ .handed reply :: after)
    (hbefore : KbcTransport.run ⟨[], none⟩ before = some t) (hfree : t.waiting = none)
    (hcleared : .cleared ∉ after) :
    let s := kbc_run link (kbc_create link context) calls
    (∀ n ≥ N, ∃ events, (s n).journal = before ++ .handed reply :: events ∧
      t.accepted (.handed reply :: events) =
        published events ++ (s n).chip.delayed_response.toList ∧
      t.fifo ++ placed events = taken events ++ (s n).chip.fifo) ∧
    ∃ M ≥ N, ∃ mid rest,
      (s M).journal = before ++ .handed reply :: (mid ++ .published reply :: rest) ∧
        published mid = [] := by
  intro s
  have hlater (n : ℕ) (hn : N ≤ n) : ∃ events,
      (s n).journal = before ++ .handed reply :: events ∧ .cleared ∉ events ∧
        t.run (.handed reply :: events) =
          some ⟨(s n).chip.fifo, (s n).chip.delayed_response⟩ := by
    obtain ⟨more, hmore, hne⟩ := hserving.grows hn
    have hevents : (s n).journal = before ++ .handed reply :: (after ++ more) := by
      rw [hmore, hjournal, List.append_assoc, List.cons_append]
    refine ⟨after ++ more, hevents, fun hmem => (List.mem_append.mp hmem).elim hcleared hne, ?_⟩
    have hreplays : Replays (s n) := kbc_run_replays link context calls n
    unfold Replays at hreplays
    rw [hevents, KbcTransport.run_append, hbefore] at hreplays
    exact hreplays
  have hnot {events : List KbcEvent} (hne : .cleared ∉ events) :
      .cleared ∉ KbcEvent.handed reply :: events :=
    fun hmem => (List.mem_cons.mp hmem).elim (fun h => by cases h) hne
  constructor
  · intro n hn
    obtain ⟨events, hevents, hne, hrun⟩ := hlater n hn
    have hreplies := KbcTransport.replies_conserved hrun (hnot hne)
    have hbytes := KbcTransport.bytes_conserved hrun (hnot hne)
    rw [hfree] at hreplies
    exact ⟨events, hevents, hreplies, hbytes⟩
  · -- at any time the reply is the next one published, or it waits
    have htook : t.step (.handed reply) = some { t with waiting := some reply } := by
      rw [KbcTransport.step, hfree]
      rfl
    have hnext (n : ℕ) (hn : N ≤ n) :
        (∃ events, (s n).journal = before ++ .handed reply :: events ∧ published events = [] ∧
          (s n).chip.delayed_response = some reply) ∨
        ∃ mid rest, (s n).journal = before ++ .handed reply :: (mid ++ .published reply :: rest) ∧
          published mid = [] := by
      obtain ⟨events, hevents, hne, hrun⟩ := hlater n hn
      rw [KbcTransport.run, htook, Option.bind_some] at hrun
      obtain ⟨hnone, hwaiting⟩ | ⟨mid, rest, hsplit, hmid⟩ :=
        KbcTransport.first_published hrun hne rfl
      · exact Or.inl ⟨events, hevents, hnone, hwaiting⟩
      · exact Or.inr ⟨mid, rest, by rw [hevents, hsplit], hmid⟩
    obtain ⟨-, -, -, hwaiting⟩ | hplaced := hnext N le_rfl
    · obtain ⟨M, hM, events, hevents, hmem⟩ := hserving.publishes hpins hwaiting
      obtain ⟨events', hevents', hnone, -⟩ | hplaced := hnext M hM
      · have hafter : (s M).journal = before ++ .handed reply :: (after ++ events) := by
          rw [hevents, hjournal, List.append_assoc, List.cons_append]
        have hsame : events' = after ++ events :=
          (List.cons.inj (List.append_cancel_left (hevents'.symm.trans hafter))).2
        have hpublished : reply ∈ published events' := by
          rw [hsame]
          exact List.mem_filterMap.mpr ⟨_, List.mem_append_right _ hmem, rfl⟩
        rw [hnone] at hpublished
        cases hpublished
      · exact ⟨M, hM, hplaced⟩
    · exact ⟨N, le_rfl, hplaced⟩

end Progress

/-- Command 20h with a reply that takes three ticks and a status poll, and then time, polls
and reads in turn. -/
def read_command_byte : ℕ → KbcOp Unit
  | 0 => .set_command_response_timing 3
  | 1 => .set_command_response_status_polls 1
  | 2 => .write_command 0x20
  | n + 3 => if n % 3 = 0 then .advance 1 else if n % 3 = 1 then .read_status else .read_data

/-- The command byte that reset leaves, as a reply. -/
def command_byte_reply : KbcReply := ⟨[0x43], .controller, by decide, by decide⟩

/-- Once the reply is read, the controller is at rest. -/
theorem read_command_byte_rests (n : ℕ) (hn : 12 ≤ n) :
    (kbc_run kbc_unplugged (kbc_create kbc_unplugged ()) read_command_byte n).chip =
      (kbc_run kbc_unplugged (kbc_create kbc_unplugged ()) read_command_byte 12).chip := by
  have hrest (op : KbcOp Unit) (hop : op = .advance 1 ∨ op = .read_status ∨ op = .read_data)
      (journal : List KbcEvent) :
      (kbc_apply kbc_unplugged
        ⟨(kbc_run kbc_unplugged (kbc_create kbc_unplugged ()) read_command_byte 12).chip, (),
          journal⟩ op).chip =
      (kbc_run kbc_unplugged (kbc_create kbc_unplugged ()) read_command_byte 12).chip := by
    rcases hop with rfl | rfl | rfl <;> rfl
  induction hn with
  | refl => rfl
  | @step n hn ih =>
    have hop : read_command_byte n = .advance 1 ∨ read_command_byte n = .read_status ∨
        read_command_byte n = .read_data := by
      obtain ⟨k, rfl⟩ := Nat.exists_eq_add_of_le' ((by decide : 3 ≤ 12).trans hn)
      simp only [read_command_byte]
      split_ifs
      · exact Or.inl rfl
      · exact Or.inr (Or.inl rfl)
      · exact Or.inr (Or.inr rfl)
    rw [← hrest _ hop (kbc_run kbc_unplugged (kbc_create kbc_unplugged ())
      read_command_byte n).journal, ← ih]
    rfl

/-- The guest of this run goes on serving. -/
theorem read_command_byte_serves :
    KeepsServing kbc_unplugged (kbc_create kbc_unplugged ()) read_command_byte 3 := by
  have hcall (k i : ℕ) (hi : i < 3) : read_command_byte (3 * k + i + 3) =
      if i = 0 then .advance 1 else if i = 1 then .read_status else .read_data := by
    have hmod : (3 * k + i) % 3 = i := by omega
    simp only [read_command_byte, hmod]
  constructor
  case clears =>
    intro n hn
    obtain ⟨k, rfl⟩ := Nat.exists_eq_add_of_le' hn
    simp only [read_command_byte]
    split_ifs <;> exact not_false
  case time => exact fun n _ => ⟨3 * n + 0 + 3, by omega, 1, Nat.one_pos, hcall n 0 (by decide)⟩
  case polls => exact fun n _ => ⟨3 * n + 1 + 3, by omega, hcall n 1 (by decide)⟩
  case reads =>
    intro n hn
    refine ⟨3 * (n + 3) + 2 + 3, by omega, hcall (n + 3) 2 (by decide), ?_⟩
    rw [read_command_byte_rests _ (by omega)]
    rfl
  case quiet =>
    intro n hn
    refine ⟨3 * (n + 3) + 0 + 3, by omega, 1, hcall (n + 3) 0 (by decide), ?_⟩
    unfold kbc_keyboard_serial_delivery_pending
    rw [read_command_byte_rests _ (by omega)]
    rfl

/-- The command byte is put into the FIFO. -/
theorem kbc_reply_placed_once_command_byte :
    ∃ M ≥ 3, ∃ mid rest,
      (kbc_run kbc_unplugged (kbc_create kbc_unplugged ()) read_command_byte M).journal =
        [.cleared] ++ .handed command_byte_reply ::
          (mid ++ .published command_byte_reply :: rest) ∧ published mid = [] :=
  (kbc_reply_placed_once kbc_unplugged (fun _ _ => rfl) () read_command_byte 3
    read_command_byte_serves (t := ⟨[], none⟩) (by decide)
    rfl rfl List.not_mem_nil).2

/-- Commands 20h and ABh while the first reply takes five ticks: the second reply is handed
over and is neither published nor waits, however the guest goes on to drain the FIFO. -/
theorem kbc_second_reply_dropped :
    let ops : List (KbcOp Unit) :=
      [.set_command_response_timing 5, .write_command 0x20, .write_command 0xab, .advance 5,
        .read_data, .advance 5, .read_data]
    let s := ops.foldl (kbc_apply kbc_unplugged) (kbc_create kbc_unplugged ())
    let second : KbcReply := ⟨[0x00], .controller, by decide, by decide⟩
    s.journal = [.cleared, .handed command_byte_reply, .handed second,
        .published command_byte_reply, .taken (0x43, .controller)] ∧
      s.chip.fifo = [] ∧ s.chip.delayed_response = none := by
  decide

end Nxvm.Chips
