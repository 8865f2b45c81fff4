/-
What a call of the keyboard controller can do to its output.

The FIFO, the waiting reply and the two interrupt lines change in few ways: a byte is put
into the FIFO, the waiting reply is published, a reply is handed over. Everything else that
a delivery, an advance or an endpoint does leaves them alone; and whenever the FIFO grows,
both lines are set by its head.
-/
import Mathlib.Logic.Relation
import Nxvm.Chips.Kbc

set_option autoImplicit false

namespace Nxvm.Chips

open Nxvm.Lib Nxvm.Lib.Register Nxvm.Machine

/-! ## The lines -/

/-- The head of the FIFO is IRQ1's. -/
def irq1_turn (chip : Kbc) : Bool := (kbc_head_origin chip).any (is_irq1_origin chip)

/-- The head of the FIFO is IRQ12's. -/
def irq12_turn (chip : Kbc) : Bool := decide (kbc_head_origin chip = some .aux)

/-- The interrupt of the keyboard is enabled. -/
def irq1_enabled (chip : Kbc) : Bool := is_set chip.command_byte kbc_command_irq1

/-- The controller with these lines. -/
def Kbc.with_lines (chip : Kbc) (irq1 irq12 : Bool) : Kbc :=
  { chip with irq1_asserted := irq1, irq12_asserted := irq12 }

theorem Kbc.with_lines_self (chip : Kbc) :
    chip.with_lines chip.irq1_asserted chip.irq12_asserted = chip := rfl

/-- The controller with both lines refreshed: a line that is asserted stays so while it is
its turn, and is asserted if it is enabled. -/
def kbc_settled (chip : Kbc) : Kbc :=
  chip.with_lines (irq1_turn chip && (chip.irq1_asserted || irq1_enabled chip))
    (irq12_turn chip && (chip.irq12_asserted || irq12_enabled chip))

theorem aux_not_irq1 (chip : Kbc) : is_irq1_origin chip .aux = false := by
  unfold is_irq1_origin
  cases chip.aux_present <;> rfl

/-- It is never the turn of both. -/
theorem irq12_turn_of_irq1_turn {chip : Kbc} (h : irq1_turn chip = true) :
    irq12_turn chip = false := by
  unfold irq1_turn at h
  unfold irq12_turn
  refine decide_eq_false fun haux => ?_
  rw [haux] at h
  change is_irq1_origin chip .aux = true at h
  rw [aux_not_irq1] at h
  exact Bool.false_ne_true h

section Link

variable {σ : Type} (link : KbcLink σ)

theorem kbc_deassert_irq1_chip (s : KbcState σ) :
    (kbc_deassert_irq1 link s).chip = s.chip.with_lines false s.chip.irq12_asserted ∧
      (kbc_deassert_irq1 link s).journal = s.journal := by
  unfold kbc_deassert_irq1
  split_ifs with h
  · have hoff : s.chip.irq1_asserted = false := by simpa using h
    refine ⟨?_, rfl⟩
    rw [← hoff, Kbc.with_lines_self]
  · exact ⟨rfl, rfl⟩

theorem kbc_deassert_irq12_chip (s : KbcState σ) :
    (kbc_deassert_irq12 link s).chip = s.chip.with_lines s.chip.irq1_asserted false ∧
      (kbc_deassert_irq12 link s).journal = s.journal := by
  unfold kbc_deassert_irq12
  split_ifs with h
  · have hoff : s.chip.irq12_asserted = false := by simpa using h
    refine ⟨?_, rfl⟩
    rw [← hoff, Kbc.with_lines_self]
  · exact ⟨rfl, rfl⟩

theorem kbc_deassert_both_chip (s : KbcState σ) :
    (kbc_deassert_irq12 link (kbc_deassert_irq1 link s)).chip = s.chip.with_lines false false ∧
      (kbc_deassert_irq12 link (kbc_deassert_irq1 link s)).journal = s.journal := by
  have h1 := kbc_deassert_irq1_chip link s
  have hboth := kbc_deassert_irq12_chip link (kbc_deassert_irq1 link s)
  rw [hboth.1, hboth.2, h1.1, h1.2]
  exact ⟨rfl, rfl⟩

/-- Asserting the line of the head, unless it is asserted or not enabled. -/
theorem kbc_assert_irq1_chip (s : KbcState σ) :
    (if !s.chip.irq1_asserted && irq1_enabled s.chip then kbc_assert_irq1 link s else s).chip =
        s.chip.with_lines (s.chip.irq1_asserted || irq1_enabled s.chip) s.chip.irq12_asserted ∧
      (if !s.chip.irq1_asserted && irq1_enabled s.chip then kbc_assert_irq1 link s else s).journal =
        s.journal := by
  split_ifs with h
  · rw [Bool.and_eq_true] at h
    rw [h.2, Bool.or_true]
    exact ⟨rfl, rfl⟩
  · have hor : (s.chip.irq1_asserted || irq1_enabled s.chip) = s.chip.irq1_asserted := by
      revert h
      cases s.chip.irq1_asserted <;> cases irq1_enabled s.chip <;> decide
    rw [hor, Kbc.with_lines_self]
    exact ⟨rfl, rfl⟩

theorem kbc_assert_irq12_chip (s : KbcState σ) :
    (if !s.chip.irq12_asserted && irq12_enabled s.chip then kbc_assert_irq12 link s else s).chip =
        s.chip.with_lines s.chip.irq1_asserted (s.chip.irq12_asserted || irq12_enabled s.chip) ∧
      (if !s.chip.irq12_asserted && irq12_enabled s.chip then kbc_assert_irq12 link s
        else s).journal = s.journal := by
  split_ifs with h
  · rw [Bool.and_eq_true] at h
    rw [h.2, Bool.or_true]
    exact ⟨rfl, rfl⟩
  · have hor : (s.chip.irq12_asserted || irq12_enabled s.chip) = s.chip.irq12_asserted := by
      revert h
      cases s.chip.irq12_asserted <;> cases irq12_enabled s.chip <;> decide
    rw [hor, Kbc.with_lines_self]
    exact ⟨rfl, rfl⟩

/-- A refresh settles both lines. -/
theorem kbc_refresh_current_irq_chip (s : KbcState σ) :
    (kbc_refresh_current_irq link s).chip = kbc_settled s.chip ∧
      (kbc_refresh_current_irq link s).journal = s.journal := by
  have hboth := kbc_deassert_both_chip link s
  unfold kbc_refresh_current_irq kbc_settled irq1_turn irq12_turn
  cases horigin : kbc_head_origin s.chip with
  | none => exact hboth
  | some origin =>
    dsimp only [Option.any_some]
    by_cases hirq1 : is_irq1_origin s.chip origin = true
    · have haux : some origin ≠ some KbcOrigin.aux := by
        intro haux
        rw [Option.some.inj haux, aux_not_irq1] at hirq1
        exact Bool.false_ne_true hirq1
      have h12 := kbc_deassert_irq12_chip link s
      have h := kbc_assert_irq1_chip link (kbc_deassert_irq12 link s)
      rw [h12.1, h12.2] at h
      rw [if_pos hirq1, hirq1, decide_eq_false haux, Bool.true_and, Bool.false_and, h12.1]
      exact h
    · rw [if_neg hirq1, Bool.not_eq_true _ |>.mp hirq1, Bool.false_and]
      by_cases haux : origin = .aux
      · have h1 := kbc_deassert_irq1_chip link s
        have h := kbc_assert_irq12_chip link (kbc_deassert_irq1 link s)
        rw [h1.1, h1.2] at h
        rw [if_pos haux, haux, h1.1, decide_eq_true rfl, Bool.true_and]
        exact h
      · have hne : some origin ≠ some KbcOrigin.aux := fun h => haux (Option.some.inj h)
        rw [if_neg haux, decide_eq_false hne, Bool.false_and]
        exact hboth

end Link

/-! ## Moves -/

/-- What enables the lines is as before. -/
structure SameSettings (chip chip' : Kbc) : Prop where
  command_byte : chip'.command_byte = chip.command_byte
  aux_enabled : chip'.aux_enabled = chip.aux_enabled
  aux_present : chip'.aux_present = chip.aux_present

/-- The FIFO and the lines are as before, and so is what enables them. -/
structure SameLines (chip chip' : Kbc) : Prop extends SameSettings chip chip' where
  fifo : chip'.fifo = chip.fifo
  irq1 : chip'.irq1_asserted = chip.irq1_asserted
  irq12 : chip'.irq12_asserted = chip.irq12_asserted

/-- The waiting reply is as before and waits for no more than before. -/
structure StillWaits (chip chip' : Kbc) : Prop where
  delayed_response : chip'.delayed_response = chip.delayed_response
  ticks : chip'.response_remaining_ticks ≤ chip.response_remaining_ticks
  polls : chip'.response_status_polls_remaining ≤ chip.response_status_polls_remaining

/-- The FIFO has grown, and its head has set the lines. -/
structure Filled (chip chip' : Kbc) (entries : List KbcEntry) : Prop
    extends SameSettings chip chip' where
  fifo : chip'.fifo = chip.fifo ++ entries
  irq1 : chip'.irq1_asserted =
    (irq1_turn chip' && (chip.irq1_asserted || irq1_enabled chip))
  irq12 : chip'.irq12_asserted =
    (irq12_turn chip' && (chip.irq12_asserted || irq12_enabled chip))

/-- One change of the output. While a reply waits, other bytes go into the FIFO only where
there are fewer than six. -/
inductive KbcMove {σ : Type} (s s' : KbcState σ) : Prop where
  | other (lines : SameLines s.chip s'.chip) (waits : StillWaits s.chip s'.chip)
      (journal : s'.journal = s.journal)
  | queue (entry : KbcEntry) (filled : Filled s.chip s'.chip [entry])
      (waits : StillWaits s.chip s'.chip)
      (few : s.chip.delayed_response = none ∨ s.chip.fifo.length < 6)
      (journal : s'.journal = s.journal ++ [.queued entry])
  | publish (reply : KbcReply) (waiting : s.chip.delayed_response = some reply)
      (filled : Filled s.chip s'.chip reply.entries) (published : s'.chip.delayed_response = none)
      (journal : s'.journal = s.journal ++ [.published reply])
  | hand (reply : KbcReply) (lines : SameLines s.chip s'.chip)
      (kept : s.chip.delayed_response.isSome → StillWaits s.chip s'.chip)
      (taken : s.chip.delayed_response = none → s'.chip.delayed_response = some reply)
      (journal : s'.journal = s.journal ++ [.handed reply])

/-- Any number of changes of the output. -/
def KbcMoves {σ : Type} : KbcState σ → KbcState σ → Prop := Relation.ReflTransGen KbcMove

theorem StillWaits.refl (chip : Kbc) : StillWaits chip chip := ⟨rfl, le_rfl, le_rfl⟩

theorem KbcMoves.refl {σ : Type} (s : KbcState σ) : KbcMoves s s := Relation.ReflTransGen.refl

theorem KbcMoves.trans {σ : Type} {a b c : KbcState σ} (h : KbcMoves a b) (h' : KbcMoves b c) :
    KbcMoves a c := Relation.ReflTransGen.trans h h'

theorem KbcMove.moves {σ : Type} {s s' : KbcState σ} (h : KbcMove s s') : KbcMoves s s' :=
  Relation.ReflTransGen.single h

/-- A change beside the output. -/
theorem moves_beside {σ : Type} {s s' : KbcState σ} (lines : SameLines s.chip s'.chip)
    (waits : StillWaits s.chip s'.chip) (journal : s'.journal = s.journal) : KbcMoves s s' :=
  (KbcMove.other lines waits journal).moves

/-- A change of the context. -/
theorem moves_context {σ : Type} (s : KbcState σ) (context : σ) :
    KbcMoves s { s with context } :=
  moves_beside ⟨⟨rfl, rfl, rfl⟩, rfl, rfl, rfl⟩ (.refl _) rfl

/-! ## Growing -/

theorem irq1_turn_congr {chip chip' : Kbc} (hhead : kbc_head_origin chip' = kbc_head_origin chip)
    (haux : chip'.aux_present = chip.aux_present) : irq1_turn chip' = irq1_turn chip := by
  unfold irq1_turn is_irq1_origin
  rw [hhead, haux]

theorem irq12_turn_congr {chip chip' : Kbc}
    (hhead : kbc_head_origin chip' = kbc_head_origin chip) :
    irq12_turn chip' = irq12_turn chip := by
  unfold irq12_turn
  rw [hhead]

theorem irq1_enabled_congr {chip chip' : Kbc} (h : SameSettings chip chip') :
    irq1_enabled chip' = irq1_enabled chip := by
  unfold irq1_enabled
  rw [h.command_byte]

theorem irq12_enabled_congr {chip chip' : Kbc} (h : SameSettings chip chip') :
    irq12_enabled chip' = irq12_enabled chip := by
  unfold irq12_enabled
  rw [h.command_byte, h.aux_enabled, h.aux_present]

theorem SameSettings.trans {a b c : Kbc} (h : SameSettings a b) (h' : SameSettings b c) :
    SameSettings a c :=
  ⟨h'.command_byte.trans h.command_byte, h'.aux_enabled.trans h.aux_enabled,
    h'.aux_present.trans h.aux_present⟩

/-- What is put at the end leaves the head. -/
theorem Filled.head {chip chip' : Kbc} {entries : List KbcEntry} (h : Filled chip chip' entries)
    (hhead : chip.fifo ≠ []) : kbc_head_origin chip' = kbc_head_origin chip := by
  obtain ⟨entry, rest, hfifo⟩ := List.exists_cons_of_ne_nil hhead
  unfold kbc_head_origin
  rw [h.fifo, hfifo]
  rfl

theorem Filled.trans {a b c : Kbc} {entries entries' : List KbcEntry} (h : Filled a b entries)
    (h' : Filled b c entries') (hne : entries ≠ []) : Filled a c (entries ++ entries') := by
  have hb : b.fifo ≠ [] := by
    rw [h.fifo]
    simp [hne]
  have hhead := h'.head hb
  constructor
  case toSameSettings => exact h.toSameSettings.trans h'.toSameSettings
  case fifo => rw [h'.fifo, h.fifo, List.append_assoc]
  case irq1 =>
    rw [h'.irq1, h.irq1, irq1_enabled_congr h.toSameSettings,
      irq1_turn_congr hhead h'.aux_present]
    cases irq1_turn b <;> cases a.irq1_asserted <;> cases irq1_enabled a <;> rfl
  case irq12 =>
    rw [h'.irq12, h.irq12, irq12_enabled_congr h.toSameSettings, irq12_turn_congr hhead]
    cases irq12_turn b <;> cases a.irq12_asserted <;> cases irq12_enabled a <;> rfl

section Link

variable {σ : Type} (link : KbcLink σ)

/-- An enqueue with room. -/
theorem kbc_enqueue_spec {s : KbcState σ} (value : U8) (origin : KbcOrigin)
    (hroom : s.chip.fifo.length < kbc_fifo_capacity) :
    (kbc_enqueue link s value origin).1 = .ok ∧
      Filled s.chip (kbc_enqueue link s value origin).2.chip [(value, origin)] ∧
      StillWaits s.chip (kbc_enqueue link s value origin).2.chip ∧
      (kbc_enqueue link s value origin).2.journal = s.journal := by
  unfold kbc_enqueue
  rw [if_neg (Nat.not_le.mpr hroom)]
  dsimp only
  refine ⟨rfl, ?_⟩
  rw [(kbc_refresh_current_irq_chip link _).1, (kbc_refresh_current_irq_chip link _).2]
  exact ⟨⟨⟨rfl, rfl, rfl⟩, rfl, rfl, rfl⟩, ⟨rfl, le_rfl, le_rfl⟩, rfl⟩

theorem kbc_enqueue_full {s : KbcState σ} (value : U8) (origin : KbcOrigin)
    (hfull : ¬ s.chip.fifo.length < kbc_fifo_capacity) :
    kbc_enqueue link s value origin = (.invalid_state, s) := by
  unfold kbc_enqueue
  rw [if_pos (Nat.not_lt.mp hfull)]

/-- Either the byte is queued or nothing happens. -/
theorem kbc_queue_byte_cases (s : KbcState σ) (value : U8) (origin : KbcOrigin) :
    (kbc_queue_byte link s value origin).2 = s ∨
      (Filled s.chip (kbc_queue_byte link s value origin).2.chip [(value, origin)] ∧
        StillWaits s.chip (kbc_queue_byte link s value origin).2.chip ∧
        (kbc_queue_byte link s value origin).2.journal =
          s.journal ++ [.queued (value, origin)]) := by
  unfold kbc_queue_byte
  dsimp only
  by_cases hroom : s.chip.fifo.length < kbc_fifo_capacity
  · obtain ⟨hok, hfilled, hwaits, hjournal⟩ := kbc_enqueue_spec link value origin hroom
    rw [if_pos hok]
    refine Or.inr ⟨hfilled, hwaits, ?_⟩
    rw [← hjournal]
    rfl
  · rw [kbc_enqueue_full link value origin hroom]
    exact Or.inl rfl

theorem kbc_queue_byte_moves {s : KbcState σ} (value : U8) (origin : KbcOrigin)
    (hfew : s.chip.delayed_response = none ∨ s.chip.fifo.length < 6) :
    KbcMoves s (kbc_queue_byte link s value origin).2 := by
  obtain hsame | ⟨hfilled, hwaits, hjournal⟩ := kbc_queue_byte_cases link s value origin
  · rw [hsame]
    exact .refl s
  · exact (KbcMove.queue _ hfilled hwaits hfew hjournal).moves

theorem kbc_queue_bytes_moves (origin : KbcOrigin) (bytes : List U8) {s : KbcState σ}
    (hfew : s.chip.delayed_response = none ∨ s.chip.fifo.length + bytes.length ≤ 6) :
    KbcMoves s (kbc_queue_bytes link s bytes origin) := by
  unfold kbc_queue_bytes
  induction bytes generalizing s with
  | nil => exact .refl s
  | cons byte bytes ih =>
    rw [List.length_cons] at hfew
    refine (kbc_queue_byte_moves link byte origin (hfew.imp_right (by omega))).trans (ih ?_)
    obtain hsame | ⟨hfilled, hwaits, -⟩ := kbc_queue_byte_cases link s byte origin
    · rw [hsame]
      exact hfew.imp_right (by omega)
    · rw [hwaits.delayed_response, hfilled.fifo, List.length_append, List.length_singleton]
      exact hfew.imp_right (by omega)

/-- The bytes of a reply, where there is room for all of them. -/
theorem kbc_enqueue_all (origin : KbcOrigin) (bytes : List U8) {s : KbcState σ} {s' : KbcState σ}
    (hs' : s' = bytes.foldl (fun s byte => (kbc_enqueue link s byte origin).2) s)
    (hne : bytes ≠ []) (hroom : s.chip.fifo.length + bytes.length ≤ kbc_fifo_capacity) :
    Filled s.chip s'.chip (bytes.map fun byte => (byte, origin)) ∧ s'.journal = s.journal := by
  induction bytes generalizing s with
  | nil => exact absurd rfl hne
  | cons byte bytes ih =>
    rw [List.length_cons] at hroom
    obtain ⟨-, hfilled, -, hjournal⟩ := kbc_enqueue_spec link byte origin (s := s) (by omega)
    by_cases hlast : bytes = []
    · subst hlast
      rw [hs']
      exact ⟨hfilled, hjournal⟩
    · have hrest := ih hs' hlast
        (by rw [hfilled.fifo, List.length_append, List.length_singleton]; omega)
      exact ⟨hfilled.trans hrest.1 (List.cons_ne_nil _ _), hrest.2.trans hjournal⟩

theorem kbc_publish_response_moves {s : KbcState σ} {reply : KbcReply}
    (hwaiting : s.chip.delayed_response = some reply)
    (hroom : reply.bytes.length ≤ kbc_fifo_capacity - s.chip.fifo.length) :
    KbcMoves s (kbc_publish_response link s reply) := by
  have hpos := reply.length_pos
  obtain ⟨hfilled, hjournal⟩ := kbc_enqueue_all link reply.origin reply.bytes (s := s) rfl
    (List.ne_nil_of_length_pos hpos) (by omega)
  refine (KbcMove.publish reply hwaiting ?_ rfl ?_).moves
  · exact ⟨⟨hfilled.command_byte, hfilled.aux_enabled, hfilled.aux_present⟩, hfilled.fifo,
      hfilled.irq1, hfilled.irq12⟩
  · rw [← hjournal]
    rfl

/-! ## The keyboard's stream -/

theorem kbc_queue_native_bytes_moves (s : KbcState σ) (bytes : List U8) :
    KbcMoves s (kbc_queue_native_bytes s bytes).2 := by
  unfold kbc_queue_native_bytes
  by_cases hfull : kbc_keyboard_serial_capacity - s.chip.keyboard_serial.length < bytes.length
  · rw [if_pos hfull]
    exact .refl s
  · rw [if_neg hfull]
    exact moves_beside ⟨⟨rfl, rfl, rfl⟩, rfl, rfl, rfl⟩ ⟨rfl, le_rfl, le_rfl⟩ rfl

theorem kbc_reset_keyboard_stream_moves (s : KbcState σ) :
    KbcMoves s (kbc_reset_keyboard_stream s) :=
  moves_beside ⟨⟨rfl, rfl, rfl⟩, rfl, rfl, rfl⟩ ⟨rfl, le_rfl, le_rfl⟩ rfl

theorem kbc_set_pause_bytes_moves (s : KbcState σ) (bytes : List U8) :
    KbcMoves s (kbc_set_pause_bytes s bytes) :=
  moves_beside ⟨⟨rfl, rfl, rfl⟩, rfl, rfl, rfl⟩ ⟨rfl, le_rfl, le_rfl⟩ rfl

theorem kbc_set_break_pending_moves (s : KbcState σ) (pending : Bool) :
    KbcMoves s (kbc_set_break_pending s pending) :=
  moves_beside ⟨⟨rfl, rfl, rfl⟩, rfl, rfl, rfl⟩ ⟨rfl, le_rfl, le_rfl⟩ rfl

theorem kbc_translate_pause_byte_moves {s : KbcState σ} (native_byte : U8)
    (hempty : s.chip.fifo = []) : KbcMoves s (kbc_translate_pause_byte link s native_byte).2 := by
  unfold kbc_translate_pause_byte kbc_enqueue_set1_pause
  dsimp only
  split_ifs
  · exact .refl s
  · exact kbc_set_pause_bytes_moves s _
  · exact kbc_set_pause_bytes_moves s _
  · exact kbc_set_pause_bytes_moves s _
  · dsimp only
    refine (kbc_set_pause_bytes_moves s _).trans
      (kbc_queue_bytes_moves link .keyboard pause_set1 (Or.inr ?_))
    rw [show (kbc_set_pause_bytes s []).chip.fifo = [] from hempty]
    decide

theorem kbc_translate_set2_byte_moves {s : KbcState σ} (native_byte : U8)
    (hempty : s.chip.fifo = []) : KbcMoves s (kbc_translate_set2_byte link s native_byte).2 := by
  unfold kbc_translate_set2_byte
  split_ifs
  · exact kbc_translate_pause_byte_moves link native_byte hempty
  · exact kbc_queue_byte_moves link _ _ (Or.inr (by rw [hempty]; decide))
  · exact kbc_set_break_pending_moves s true
  all_goals
    cases keyboard_set2_to_set1 native_byte with
    | none => exact .refl s
    | some translated =>
      refine (kbc_set_break_pending_moves s false).trans
        (kbc_queue_byte_moves link _ _ (Or.inr ?_))
      rw [show (kbc_set_break_pending s false).chip.fifo = [] from hempty]
      decide

theorem kbc_drain_keyboard_serial_moves (s : KbcState σ) :
    KbcMoves s (kbc_drain_keyboard_serial link s) := by
  unfold kbc_drain_keyboard_serial
  split_ifs
  · exact .refl s
  · split
    · rename_i native_byte backlog hempty hserial
      have hpublish : KbcMoves s (kbc_publish_native_byte link s native_byte).2 := by
        unfold kbc_publish_native_byte
        split_ifs
        · exact kbc_translate_set2_byte_moves link native_byte hempty
        · exact kbc_queue_byte_moves link _ _ (Or.inr (by rw [hempty]; decide))
      dsimp only
      split_ifs
      · exact hpublish
      all_goals
        exact hpublish.trans
          (moves_beside ⟨⟨rfl, rfl, rfl⟩, rfl, rfl, rfl⟩ ⟨rfl, le_rfl, le_rfl⟩ rfl)
    · exact .refl s

/-! ## Time -/

theorem kbc_apply_output_port_moves (s : KbcState σ) (value : U8) :
    KbcMoves s (kbc_apply_output_port link s value) :=
  moves_beside ⟨⟨rfl, rfl, rfl⟩, rfl, rfl, rfl⟩ ⟨rfl, le_rfl, le_rfl⟩ rfl

theorem kbc_advance_pulses_moves (s : KbcState σ) (elapsed_ticks : ℕ) :
    KbcMoves s (kbc_advance_pulses link s elapsed_ticks) := by
  unfold kbc_advance_pulses
  split_ifs
  · exact .refl s
  · exact moves_beside ⟨⟨rfl, rfl, rfl⟩, rfl, rfl, rfl⟩ ⟨rfl, le_rfl, le_rfl⟩ rfl
  · exact moves_beside ⟨⟨rfl, rfl, rfl⟩, rfl, rfl, rfl⟩ ⟨rfl, le_rfl, le_rfl⟩ rfl

theorem kbc_advance_bat_moves (s : KbcState σ) : KbcMoves s (kbc_advance_bat link s) := by
  unfold kbc_advance_bat
  dsimp only
  split_ifs with hidle
  · rw [Bool.and_eq_true, Option.isNone_iff_eq_none] at hidle
    exact (moves_context s _).trans (kbc_queue_byte_moves link _ _ (Or.inl hidle.2))
  · exact moves_context s _
  · exact .refl s

theorem kbc_advance_response_moves (s : KbcState σ) (elapsed_ticks : ℕ) :
    KbcMoves s (kbc_advance_response link s elapsed_ticks) := by
  unfold kbc_advance_response
  cases hwaiting : s.chip.delayed_response with
  | none => exact .refl s
  | some reply =>
    have hready : KbcMoves s { s with chip := { s.chip with response_remaining_ticks := 0 } } :=
      moves_beside ⟨⟨rfl, rfl, rfl⟩, rfl, rfl, rfl⟩ ⟨rfl, Nat.zero_le _, le_rfl⟩ rfl
    dsimp only
    split_ifs with _ hpublish
    · exact moves_beside ⟨⟨rfl, rfl, rfl⟩, rfl, rfl, rfl⟩ ⟨rfl, Nat.sub_le _ _, le_rfl⟩ rfl
    · rw [kbc_response_can_publish, Bool.and_eq_true, decide_eq_true_eq] at hpublish
      exact hready.trans (kbc_publish_response_moves link hwaiting hpublish.2)
    · exact hready

theorem kbc_run_keyboard_advance_moves (s : KbcState σ) (keyboard : KeyboardAdvance σ) :
    KbcMoves s (kbc_run_keyboard_advance s keyboard).2 := by
  induction keyboard generalizing s with
  | done answer context => exact moves_context s context
  | emit bytes next ih => exact (kbc_queue_native_bytes_moves s bytes).trans (ih _ _)

theorem kbc_advance_repeat_moves (s : KbcState σ) (elapsed_ticks : ℕ) :
    KbcMoves s (kbc_advance_repeat link s elapsed_ticks) := by
  have hrun := kbc_run_keyboard_advance_moves s (link.keyboard_advance s.context elapsed_ticks)
  unfold kbc_advance_repeat
  dsimp only
  split_ifs
  · exact hrun.trans (kbc_drain_keyboard_serial_moves link _)
  · exact hrun
  · exact .refl s

/-- An advance only moves. -/
theorem kbc_advance_moves (s : KbcState σ) (elapsed_ticks : ℕ) :
    KbcMoves s (kbc_advance link s elapsed_ticks) := by
  have hserial (s : KbcState σ) : KbcMoves s (kbc_advance_serial s elapsed_ticks) :=
    moves_beside ⟨⟨rfl, rfl, rfl⟩, rfl, rfl, rfl⟩ ⟨rfl, le_rfl, le_rfl⟩ rfl
  unfold kbc_advance
  dsimp only
  exact (kbc_advance_pulses_moves link s elapsed_ticks).trans <| (hserial _).trans <|
    (kbc_drain_keyboard_serial_moves link _).trans <| (kbc_advance_bat_moves link _).trans <|
    (kbc_advance_response_moves link _ _).trans (kbc_advance_repeat_moves link _ _)

/-! ## Replies -/

theorem kbc_schedule_reply_moves (s : KbcState σ) (reply : KbcReply) :
    KbcMoves s (kbc_schedule_reply link s reply) := by
  unfold kbc_schedule_reply
  dsimp only
  split_ifs with hwaiting
  · change s.chip.delayed_response.isSome = true at hwaiting
    apply KbcMove.moves
    refine .hand reply ⟨⟨rfl, rfl, rfl⟩, rfl, rfl, rfl⟩ (fun _ => .refl _) (fun hnone => ?_) rfl
    rw [hnone] at hwaiting
    exact nomatch hwaiting
  all_goals
    have hnone : s.chip.delayed_response = none := by
      rw [Bool.not_eq_true, Option.isSome_eq_false_iff, Option.isNone_iff_eq_none] at hwaiting
      exact hwaiting
    have hhand : KbcMoves s { s.note (.handed reply) with chip := { s.chip with
        delayed_response := some reply
        response_remaining_ticks := s.chip.command_response_ticks
        response_status_polls_remaining := s.chip.command_response_status_polls } } := by
      apply KbcMove.moves
      refine .hand reply ⟨⟨rfl, rfl, rfl⟩, rfl, rfl, rfl⟩ (fun hsome => ?_) (fun _ => rfl) rfl
      rw [hnone] at hsome
      exact nomatch hsome
  · exact hhand.trans (kbc_advance_moves link _ 0)
  · exact hhand

theorem kbc_schedule_response_moves (s : KbcState σ) (bytes : List U8) (origin : KbcOrigin) :
    KbcMoves s (kbc_schedule_response link s bytes origin) := by
  unfold kbc_schedule_response
  split_ifs
  · exact kbc_schedule_reply_moves link s _
  · exact .refl s

theorem kbc_receive_reply_moves (s : KbcState σ) (origin : KbcOrigin) (bytes : List U8) :
    KbcMoves s (kbc_receive_reply link s origin bytes) := by
  unfold kbc_receive_reply
  split_ifs <;> exact kbc_schedule_response_moves link s _ origin

theorem kbc_run_endpoint_moves (s : KbcState σ) (endpoint : EndpointWrite σ) :
    KbcMoves s (kbc_run_endpoint link s endpoint) := by
  induction endpoint generalizing s with
  | done context => exact moves_context s context
  | reply context origin bytes next ih =>
    exact (moves_context s context).trans
      ((kbc_receive_reply_moves link _ origin bytes).trans (ih _ _))
  | reset_stream next ih => exact (kbc_reset_keyboard_stream_moves s).trans (ih _)

/-! ## Calls that only move -/

theorem kbc_read_status_moves (s : KbcState σ) : KbcMoves s (kbc_read_status link s).2 := by
  have hpolled : KbcMoves s (kbc_poll s) :=
    moves_beside ⟨⟨rfl, rfl, rfl⟩, rfl, rfl, rfl⟩ ⟨rfl, le_rfl, Nat.sub_le _ _⟩ rfl
  unfold kbc_read_status
  dsimp only
  split_ifs
  · exact hpolled.trans (kbc_advance_moves link _ 0)
  · exact hpolled
  · exact .refl s

theorem kbc_receive_keyboard_bytes_moves (s : KbcState σ) (native_bytes : List U8) :
    KbcMoves s (kbc_receive_keyboard_bytes link s native_bytes).2 := by
  unfold kbc_receive_keyboard_bytes
  dsimp only
  split_ifs
  · exact .refl s
  · exact moves_context s _
  · exact (moves_context s _).trans (kbc_queue_native_bytes_moves _ _)
  · exact (moves_context s _).trans ((kbc_queue_native_bytes_moves _ _).trans
      (kbc_drain_keyboard_serial_moves link _))

theorem kbc_receive_aux_packet_moves (s : KbcState σ) (b0 b1 b2 : U8) :
    KbcMoves s (kbc_receive_aux_packet link s b0 b1 b2).2 := by
  unfold kbc_receive_aux_packet
  split_ifs with hrefused
  · exact .refl s
  · have hnone : s.chip.delayed_response = none := by
      rw [Bool.not_eq_true, Bool.or_eq_false_iff, Bool.or_eq_false_iff,
        Option.isSome_eq_false_iff, Option.isNone_iff_eq_none] at hrefused
      exact hrefused.1.2
    dsimp only
    exact kbc_queue_bytes_moves link .aux [b0, b1, b2] (Or.inl hnone)

theorem kbc_write_begin_moves (s : KbcState σ) (command : Bool) :
    KbcMoves s (kbc_write_begin s command) :=
  moves_beside ⟨⟨rfl, rfl, rfl⟩, rfl, rfl, rfl⟩ ⟨rfl, le_rfl, le_rfl⟩ rfl

theorem kbc_write_end_moves (s : KbcState σ) : KbcMoves s (kbc_write_end s) :=
  moves_beside ⟨⟨rfl, rfl, rfl⟩, rfl, rfl, rfl⟩ ⟨rfl, le_rfl, le_rfl⟩ rfl

theorem kbc_set_pending_write_moves (s : KbcState σ) (pending_write : KbcPendingWrite) :
    KbcMoves s (kbc_set_pending_write s pending_write) :=
  moves_beside ⟨⟨rfl, rfl, rfl⟩, rfl, rfl, rfl⟩ ⟨rfl, le_rfl, le_rfl⟩ rfl

theorem kbc_await_data_moves (s : KbcState σ) (pending_write : KbcPendingWrite) :
    KbcMoves s (kbc_await_data link s pending_write) :=
  moves_beside ⟨⟨rfl, rfl, rfl⟩, rfl, rfl, rfl⟩ ⟨rfl, le_rfl, le_rfl⟩ rfl

theorem kbc_pulse_output_moves (s : KbcState σ) (command : U8) :
    KbcMoves s (kbc_pulse_output link s command) := by
  unfold kbc_pulse_output
  dsimp only
  split_ifs <;>
    exact moves_beside ⟨⟨rfl, rfl, rfl⟩, rfl, rfl, rfl⟩ ⟨rfl, le_rfl, le_rfl⟩ rfl

theorem kbc_write_plain_command_moves (s : KbcState σ) (command : U8) :
    KbcMoves s (kbc_write_plain_command link s command) := by
  unfold kbc_write_plain_command
  split_ifs
  · exact kbc_pulse_output_moves link s command
  · exact .refl s

theorem kbc_write_other_command_moves (s : KbcState σ) (command : U8) :
    KbcMoves s (kbc_write_other_command link s command) := by
  have hextended (s : KbcState σ) (result : CommandExtensionResult) :
      KbcMoves s (kbc_write_extended_command link s command result) := by
    cases result with
    | unhandled => exact kbc_write_plain_command_moves link s command
    | handled => exact .refl s
    | special_read data =>
      exact moves_beside ⟨⟨rfl, rfl, rfl⟩, rfl, rfl, rfl⟩ ⟨rfl, le_rfl, le_rfl⟩ rfl
  unfold kbc_write_other_command
  cases link.command_extension with
  | none => exact kbc_write_plain_command_moves link s command
  | some extension => exact (moves_context s _).trans (hextended _ _)

/-- A command only moves, but for the self test, the keyboard's clock and the auxiliary
device's. -/
inductive KbcCommandCase (s s' : KbcState σ) (command : U8) : Prop where
  | moves (moves : KbcMoves s s') (command_ne : command ≠ 0xa7 ∧ command ≠ 0xaa)
  | self_test (command_eq : command = 0xaa) (after : s' = kbc_self_test link s)
  | clock (value : U8) (value_eq : value = s.chip.command_byte ||| kbc_command_disable_keyboard ∨
        value = s.chip.command_byte &&& ~~~kbc_command_disable_keyboard)
      (command_ne : command ≠ 0xa7 ∧ command ≠ 0xaa)
      (after : s' = kbc_set_command_byte link s value)
  | aux (enabled : Bool) (command_eq : command = if enabled then 0xa8 else 0xa7)
      (after : s' = kbc_set_aux_enabled link s enabled)

theorem kbc_write_command_body_cases (s : KbcState σ) (command : U8) :
    KbcCommandCase link s (kbc_write_command_body link s command) command := by
  let is_case (s' : KbcState σ) : Prop := KbcCommandCase link s s' command
  have hreply (value : U8) (hne : command ≠ 0xa7 ∧ command ≠ 0xaa) :
      is_case (kbc_schedule_response_byte link s value .controller) :=
    .moves (kbc_schedule_response_moves link s [value] .controller) hne
  have hawait (pending_write : KbcPendingWrite) (hne : command ≠ 0xa7 ∧ command ≠ 0xaa) :
      is_case (kbc_await_data link s pending_write) :=
    .moves (kbc_await_data_moves link s pending_write) hne
  -- a command that is this one is not one of those
  have hne {value : U8} (h : command = value) (hvalue : value ≠ 0xa7 ∧ value ≠ 0xaa) :
      command ≠ 0xa7 ∧ command ≠ 0xaa := by
    rw [h]
    exact hvalue
  change is_case (kbc_write_command_body link s command)
  unfold kbc_write_command_body
  refine iteInduction (motive := is_case) (fun h => hreply _ (hne h (by decide))) fun _ => ?_
  refine iteInduction (motive := is_case) (fun h => hawait _ (hne h (by decide))) fun _ => ?_
  refine iteInduction (motive := is_case) (fun h => .self_test h rfl) fun hself => ?_
  refine iteInduction (motive := is_case) (fun h => hreply _ (hne h (by decide))) fun _ => ?_
  refine iteInduction (motive := is_case)
    (fun h => .clock _ (Or.inl rfl) (hne h (by decide)) rfl) fun _ => ?_
  refine iteInduction (motive := is_case)
    (fun h => .clock _ (Or.inr rfl) (hne h (by decide)) rfl) fun _ => ?_
  refine iteInduction (motive := is_case) (fun h => .aux false h rfl) fun haux => ?_
  refine iteInduction (motive := is_case) (fun h => .aux true h rfl) fun _ => ?_
  refine iteInduction (motive := is_case) (fun _ => hreply _ ⟨haux, hself⟩) fun _ => ?_
  refine iteInduction (motive := is_case) (fun _ => hreply _ ⟨haux, hself⟩) fun _ => ?_
  refine iteInduction (motive := is_case) (fun _ => hreply _ ⟨haux, hself⟩) fun _ => ?_
  refine iteInduction (motive := is_case) (fun _ => hawait _ ⟨haux, hself⟩) fun _ => ?_
  refine iteInduction (motive := is_case) (fun _ => hawait _ ⟨haux, hself⟩) fun _ => ?_
  refine iteInduction (motive := is_case) (fun _ => hreply _ ⟨haux, hself⟩) fun _ => ?_
  exact .moves (kbc_write_other_command_moves link s command) ⟨haux, hself⟩

end Link

end Nxvm.Chips
