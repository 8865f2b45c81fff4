/-
The interrupts of the keyboard controller follow the head of its FIFO.

Between calls each line is asserted exactly when it is due: it is its turn and it is
enabled. A line that is asserted is left alone by a refresh, so that a call that takes the
enable away from an asserted line leaves it asserted; no other call parts a line from what
is due.
-/
import Nxvm.Chips.KbcMoves

set_option autoImplicit false

namespace Nxvm.Chips

open Nxvm.Lib Nxvm.Lib.Register Nxvm.Machine

/-! ## Lines that are due -/

/-- Each line is asserted exactly when it is its turn and it is enabled. -/
structure LinesDue (chip : Kbc) : Prop where
  irq1 : chip.irq1_asserted = (irq1_turn chip && irq1_enabled chip)
  irq12 : chip.irq12_asserted = (irq12_turn chip && irq12_enabled chip)

/-- A line is asserted only when it is its turn. -/
structure Standing (chip : Kbc) : Prop where
  irq1 : chip.irq1_asserted = true → irq1_turn chip = true
  irq12 : chip.irq12_asserted = true → irq12_turn chip = true

/-- A line is asserted only when it is enabled. -/
structure Covered (chip : Kbc) : Prop where
  irq1 : chip.irq1_asserted = true → irq1_enabled chip = true
  irq12 : chip.irq12_asserted = true → irq12_enabled chip = true

theorem LinesDue.standing {chip : Kbc} (h : LinesDue chip) : Standing chip := by
  constructor
  · intro hline
    rw [h.irq1, Bool.and_eq_true] at hline
    exact hline.1
  · intro hline
    rw [h.irq12, Bool.and_eq_true] at hline
    exact hline.1

theorem LinesDue.covered {chip : Kbc} (h : LinesDue chip) : Covered chip := by
  constructor
  · intro hline
    rw [h.irq1, Bool.and_eq_true] at hline
    exact hline.2
  · intro hline
    rw [h.irq12, Bool.and_eq_true] at hline
    exact hline.2

/-- It is never both lines. -/
theorem Standing.not_both {chip : Kbc} (h : Standing chip) :
    ¬ (chip.irq1_asserted = true ∧ chip.irq12_asserted = true) := by
  rintro ⟨h1, h12⟩
  have hturn := irq12_turn_of_irq1_turn (h.irq1 h1)
  rw [h.irq12 h12] at hturn
  exact Bool.false_ne_true hturn.symm

/-- A line that is covered is due once it is settled. -/
theorem and_or_covered {turn line enabled : Bool} (h : line = true → enabled = true) :
    (turn && (line || enabled)) = (turn && enabled) := by
  revert h
  cases turn <;> cases line <;> cases enabled <;> decide

theorem kbc_settled_due {chip : Kbc} (h : Covered chip) : LinesDue (kbc_settled chip) :=
  ⟨and_or_covered h.irq1, and_or_covered h.irq12⟩

/-- And only so, if it is asserted in its turn. -/
theorem kbc_settled_due_iff {chip : Kbc} (hstanding : Standing chip) :
    LinesDue (kbc_settled chip) ↔ Covered chip := by
  refine ⟨fun h => ⟨fun hline => ?_, fun hline => ?_⟩, kbc_settled_due⟩
  · have hdue : (irq1_turn chip && (chip.irq1_asserted || irq1_enabled chip)) =
        (irq1_turn chip && irq1_enabled chip) := h.irq1
    rw [hline, hstanding.irq1 hline] at hdue
    simpa using hdue.symm
  · have hdue : (irq12_turn chip && (chip.irq12_asserted || irq12_enabled chip)) =
        (irq12_turn chip && irq12_enabled chip) := h.irq12
    rw [hline, hstanding.irq12 hline] at hdue
    simpa using hdue.symm

/-- The FIFO is empty and no line is asserted. -/
theorem linesDue_of_empty {chip : Kbc} (hfifo : chip.fifo = []) (h1 : chip.irq1_asserted = false)
    (h12 : chip.irq12_asserted = false) : LinesDue chip := by
  have hhead : kbc_head_origin chip = none := by
    rw [kbc_head_origin, hfifo]
    rfl
  constructor
  · rw [h1, irq1_turn, hhead]
    rfl
  · rw [h12, irq12_turn, hhead]
    rfl

/-! ## Moves -/

theorem SameLines.head {chip chip' : Kbc} (h : SameLines chip chip') :
    kbc_head_origin chip' = kbc_head_origin chip := by
  unfold kbc_head_origin
  rw [h.fifo]

theorem SameLines.due {chip chip' : Kbc} (h : SameLines chip chip') (hdue : LinesDue chip) :
    LinesDue chip' := by
  constructor
  · rw [h.irq1, hdue.irq1, irq1_turn_congr h.head h.aux_present,
      irq1_enabled_congr h.toSameSettings]
  · rw [h.irq12, hdue.irq12, irq12_turn_congr h.head, irq12_enabled_congr h.toSameSettings]

theorem SameLines.standing {chip chip' : Kbc} (h : SameLines chip chip')
    (hstanding : Standing chip) : Standing chip' := by
  constructor
  · rw [h.irq1, irq1_turn_congr h.head h.aux_present]
    exact hstanding.irq1
  · rw [h.irq12, irq12_turn_congr h.head]
    exact hstanding.irq12

theorem SameLines.covered_iff {chip chip' : Kbc} (h : SameLines chip chip') :
    Covered chip' ↔ Covered chip := by
  constructor
  · rintro ⟨h1, h12⟩
    rw [h.irq1, irq1_enabled_congr h.toSameSettings] at h1
    rw [h.irq12, irq12_enabled_congr h.toSameSettings] at h12
    exact ⟨h1, h12⟩
  · rintro ⟨h1, h12⟩
    rw [← h.irq1, ← irq1_enabled_congr h.toSameSettings] at h1
    rw [← h.irq12, ← irq12_enabled_congr h.toSameSettings] at h12
    exact ⟨h1, h12⟩

section Filled

variable {chip chip' : Kbc} {entries : List KbcEntry} (h : Filled chip chip' entries)

include h

theorem Filled.due (hcovered : Covered chip) : LinesDue chip' := by
  constructor
  · rw [h.irq1, irq1_enabled_congr h.toSameSettings]
    exact and_or_covered hcovered.irq1
  · rw [h.irq12, irq12_enabled_congr h.toSameSettings]
    exact and_or_covered hcovered.irq12

theorem Filled.standing : Standing chip' := by
  constructor
  · intro hline
    rw [h.irq1, Bool.and_eq_true] at hline
    exact hline.1
  · intro hline
    rw [h.irq12, Bool.and_eq_true] at hline
    exact hline.1

/-- An asserted line stays asserted: the head is the one it was. -/
theorem Filled.covered_iff (hstanding : Standing chip) : Covered chip' ↔ Covered chip := by
  refine ⟨fun hcovered => ⟨fun hline => ?_, fun hline => ?_⟩, fun hcovered =>
    (h.due hcovered).covered⟩
  · have hturn := hstanding.irq1 hline
    have hne : chip.fifo ≠ [] := by
      intro hempty
      rw [irq1_turn, kbc_head_origin, hempty] at hturn
      exact Bool.false_ne_true hturn
    have hline' : chip'.irq1_asserted = true := by
      rw [h.irq1, irq1_turn_congr (h.head hne) h.aux_present, hturn, hline]
      rfl
    rw [← irq1_enabled_congr h.toSameSettings]
    exact hcovered.irq1 hline'
  · have hturn := hstanding.irq12 hline
    have hne : chip.fifo ≠ [] := by
      intro hempty
      rw [irq12_turn, kbc_head_origin, hempty] at hturn
      exact Bool.false_ne_true hturn
    have hline' : chip'.irq12_asserted = true := by
      rw [h.irq12, irq12_turn_congr (h.head hne), hturn, hline]
      rfl
    rw [← irq12_enabled_congr h.toSameSettings]
    exact hcovered.irq12 hline'

end Filled

section Moves

variable {σ : Type} {s s' : KbcState σ}

theorem KbcMove.due (h : KbcMove s s') (hdue : LinesDue s.chip) : LinesDue s'.chip := by
  cases h with
  | other lines => exact lines.due hdue
  | queue entry filled => exact filled.due hdue.covered
  | publish reply waiting filled => exact filled.due hdue.covered
  | hand reply lines => exact lines.due hdue

theorem KbcMove.standing (h : KbcMove s s') (hstanding : Standing s.chip) : Standing s'.chip := by
  cases h with
  | other lines => exact lines.standing hstanding
  | queue entry filled => exact filled.standing
  | publish reply waiting filled => exact filled.standing
  | hand reply lines => exact lines.standing hstanding

theorem KbcMove.covered_iff (h : KbcMove s s') (hstanding : Standing s.chip) :
    Covered s'.chip ↔ Covered s.chip := by
  cases h with
  | other lines => exact lines.covered_iff
  | queue entry filled => exact filled.covered_iff hstanding
  | publish reply waiting filled => exact filled.covered_iff hstanding
  | hand reply lines => exact lines.covered_iff

theorem KbcMove.settings (h : KbcMove s s') : SameSettings s.chip s'.chip := by
  cases h with
  | other lines => exact lines.toSameSettings
  | queue entry filled => exact filled.toSameSettings
  | publish reply waiting filled => exact filled.toSameSettings
  | hand reply lines => exact lines.toSameSettings

theorem KbcMoves.due (h : KbcMoves s s') (hdue : LinesDue s.chip) : LinesDue s'.chip := by
  induction h with
  | refl => exact hdue
  | tail _ hmove ih => exact hmove.due ih

theorem KbcMoves.settings (h : KbcMoves s s') : SameSettings s.chip s'.chip := by
  induction h with
  | refl => exact ⟨rfl, rfl, rfl⟩
  | tail _ hmove ih => exact ih.trans hmove.settings

/-- Moves neither cover nor uncover an asserted line. -/
theorem KbcMoves.covered_iff (h : KbcMoves s s') (hstanding : Standing s.chip) :
    Standing s'.chip ∧ (Covered s'.chip ↔ Covered s.chip) := by
  induction h with
  | refl => exact ⟨hstanding, Iff.rfl⟩
  | tail _ hmove ih => exact ⟨hmove.standing ih.1, (hmove.covered_iff ih.1).trans ih.2⟩

end Moves

/-! ## Commands -/

theorem is_set_irq1 (value : U8) : is_set value kbc_command_irq1 = value.getLsbD 0 :=
  is_set_line value 0

theorem is_set_irq12 (value : U8) : is_set value kbc_command_irq12 = value.getLsbD 1 :=
  is_set_line value 1

theorem is_set_disable_aux (value : U8) :
    is_set value kbc_command_disable_aux = value.getLsbD 5 :=
  is_set_line value 5

/-- What a written command byte enables. -/
theorem kbc_masked_command_byte_bits (chip : Kbc) (value : U8) :
    is_set (kbc_masked_command_byte chip value) kbc_command_irq1 =
        is_set value kbc_command_irq1 ∧
      is_set (kbc_masked_command_byte chip value) kbc_command_irq12 =
        (chip.aux_present && is_set value kbc_command_irq12) ∧
      is_set (kbc_masked_command_byte chip value) kbc_command_disable_aux =
        is_set value kbc_command_disable_aux := by
  have h0 : (0x7d : U8).getLsbD 0 = true ∧ (0x7d : U8).getLsbD 1 = false ∧
      (0x7d : U8).getLsbD 5 = true := by decide
  have h2 : kbc_command_irq12.getLsbD 0 = false ∧ kbc_command_irq12.getLsbD 1 = true ∧
      kbc_command_irq12.getLsbD 5 = false := by decide
  have hz (i : ℕ) : (0 : U8).getLsbD i = false := BitVec.getLsbD_zero
  rw [is_set_irq1, is_set_irq1, is_set_irq12, is_set_irq12, is_set_disable_aux,
    is_set_disable_aux]
  unfold kbc_masked_command_byte
  simp only [BitVec.getLsbD_or, BitVec.getLsbD_and, h0]
  cases chip.aux_present with
  | true =>
    simp only [if_true, BitVec.getLsbD_and, h2]
    simp
  | false =>
    simp only [Bool.false_eq_true, if_false, hz]
    simp

/-- The auxiliary device is enabled only where the command byte does not disable it. -/
def AuxListed (chip : Kbc) : Prop :=
  chip.aux_enabled = true → is_set chip.command_byte kbc_command_disable_aux = false

theorem SameSettings.aux_listed {chip chip' : Kbc} (h : SameSettings chip chip')
    (hlisted : AuxListed chip) : AuxListed chip' := by
  unfold AuxListed
  rw [h.aux_enabled, h.command_byte]
  exact hlisted

/-- The bits of a command byte that enable the lines are as before. -/
structure SameEnables (before after : U8) : Prop where
  irq1 : is_set after kbc_command_irq1 = is_set before kbc_command_irq1
  irq12 : is_set after kbc_command_irq12 = is_set before kbc_command_irq12
  disable_aux : is_set after kbc_command_disable_aux = is_set before kbc_command_disable_aux

/-- Setting or clearing a bit that enables no line. -/
theorem same_enables_bit (value mask : U8) (hmask : mask.getLsbD 0 = false ∧
    mask.getLsbD 1 = false ∧ mask.getLsbD 5 = false) :
    SameEnables value (value ||| mask) ∧ SameEnables value (value &&& ~~~mask) := by
  obtain ⟨h0, h1, h5⟩ := hmask
  refine ⟨⟨?_, ?_, ?_⟩, ⟨?_, ?_, ?_⟩⟩ <;>
    simp only [is_set_irq1, is_set_irq12, is_set_disable_aux, BitVec.getLsbD_or,
      BitVec.getLsbD_and, BitVec.getLsbD_not, h0, h1, h5] <;> simp

/-- The command byte changes in bits that enable no line. -/
theorem LinesDue.of_enables {chip chip' : Kbc} (hdue : LinesDue chip)
    (hfifo : chip'.fifo = chip.fifo) (hirq1 : chip'.irq1_asserted = chip.irq1_asserted)
    (hirq12 : chip'.irq12_asserted = chip.irq12_asserted)
    (haux : chip'.aux_enabled = chip.aux_enabled) (hpresent : chip'.aux_present = chip.aux_present)
    (hbits : SameEnables chip.command_byte chip'.command_byte) : LinesDue chip' := by
  have hhead : kbc_head_origin chip' = kbc_head_origin chip := by
    unfold kbc_head_origin
    rw [hfifo]
  constructor
  · rw [hirq1, hdue.irq1, irq1_turn_congr hhead hpresent]
    unfold irq1_enabled
    rw [hbits.irq1]
  · rw [hirq12, hdue.irq12, irq12_turn_congr hhead]
    unfold irq12_enabled
    rw [hbits.irq12, hbits.disable_aux, haux, hpresent]

section Calls

variable {σ : Type} (link : KbcLink σ)

/-- What holds between calls. -/
structure KbcSettled (s : KbcState σ) : Prop where
  due : LinesDue s.chip
  listed : AuxListed s.chip

theorem KbcMoves.settled {s s' : KbcState σ} (h : KbcMoves s s') (hsettled : KbcSettled s) :
    KbcSettled s' :=
  ⟨h.due hsettled.due, h.settings.aux_listed hsettled.listed⟩

/-- A command byte that takes the enable from an asserted line. -/
def Uncovers (chip : Kbc) (value : U8) : Prop :=
  (chip.irq1_asserted = true ∧ is_set value kbc_command_irq1 = false) ∨
    (chip.irq12_asserted = true ∧ (is_set value kbc_command_irq12 = false ∨
      is_set value kbc_command_disable_aux = true))

theorem kbc_store_command_byte_covered {s : KbcState σ} (hdue : LinesDue s.chip) (value : U8) :
    Covered (kbc_store_command_byte s value).chip ↔ ¬ Uncovers s.chip value := by
  obtain ⟨hirq1, hirq12, haux⟩ := kbc_masked_command_byte_bits s.chip value
  have h1 : irq1_enabled (kbc_store_command_byte s value).chip =
      is_set value kbc_command_irq1 := hirq1
  have h12 (hpresent : s.chip.aux_present = true) :
      irq12_enabled (kbc_store_command_byte s value).chip =
        (is_set value kbc_command_irq12 && !is_set value kbc_command_disable_aux) := by
    unfold irq12_enabled kbc_store_command_byte
    dsimp only
    rw [hirq12, haux, hpresent]
    cases is_set value kbc_command_irq12 <;> cases is_set value kbc_command_disable_aux <;> rfl
  -- an asserted IRQ12 has its device
  have hpresent (hline : s.chip.irq12_asserted = true) : s.chip.aux_present = true := by
    have henabled := hdue.covered.irq12 hline
    simp only [irq12_enabled, Bool.and_eq_true] at henabled
    exact henabled.1.1.1
  constructor
  · rintro ⟨hc1, hc12⟩ (⟨hline, hclear⟩ | ⟨hline, hclear⟩)
    · have hset := h1.symm.trans (hc1 hline)
      rw [hclear] at hset
      exact Bool.false_ne_true hset
    · have hset := (h12 (hpresent hline)).symm.trans (hc12 hline)
      rw [Bool.and_eq_true] at hset
      rcases hclear with hclear | hclear <;> simp [hclear] at hset
  · intro hkeeps
    refine ⟨fun hline => ?_, fun hline => ?_⟩
    · rw [h1]
      by_contra hclear
      exact hkeeps (Or.inl ⟨hline, Bool.not_eq_true _ |>.mp hclear⟩)
    · rw [h12 (hpresent hline), Bool.and_eq_true, Bool.not_eq_true']
      constructor
      · by_contra hclear
        exact hkeeps (Or.inr ⟨hline, Or.inl (Bool.not_eq_true _ |>.mp hclear)⟩)
      · by_contra hset
        exact hkeeps (Or.inr ⟨hline, Or.inr (Bool.not_eq_false _ |>.mp hset)⟩)

/-- A command byte keeps the lines due unless it takes the enable from an asserted one. -/
theorem kbc_set_command_byte_due {s : KbcState σ} (hdue : LinesDue s.chip) (value : U8) :
    (LinesDue (kbc_set_command_byte link s value).chip ↔ ¬ Uncovers s.chip value) ∧
      AuxListed (kbc_set_command_byte link s value).chip := by
  have hstanding : Standing (kbc_store_command_byte s value).chip :=
    ⟨hdue.standing.irq1, hdue.standing.irq12⟩
  have hlisted : AuxListed (kbc_store_command_byte s value).chip := by
    intro haux
    change (s.chip.aux_present && !is_set (kbc_masked_command_byte s.chip value)
      kbc_command_disable_aux) = true at haux
    rw [Bool.and_eq_true, Bool.not_eq_true'] at haux
    exact haux.2
  have hmoves (s : KbcState σ) (previous_command_byte : U8) : KbcMoves s
      (if kbc_starts_keyboard s.chip previous_command_byte then
        if (link.keyboard_start s.context).1 then
          kbc_advance link { s with context := (link.keyboard_start s.context).2 } 0
        else { s with context := (link.keyboard_start s.context).2 }
      else s) := by
    split_ifs
    · exact (moves_context s _).trans (kbc_advance_moves link _ 0)
    · exact moves_context s _
    · exact .refl s
  unfold kbc_set_command_byte
  dsimp only
  have hstarted := hmoves (kbc_store_command_byte s value) s.chip.command_byte
  obtain ⟨hstanding', hcovered⟩ := hstarted.covered_iff hstanding
  rw [(kbc_refresh_current_irq_chip link _).1]
  refine ⟨?_, hstarted.settings.aux_listed hlisted⟩
  rw [kbc_settled_due_iff hstanding', hcovered]
  exact kbc_store_command_byte_covered hdue value

/-- A command byte with the enables it has does not. -/
theorem not_uncovers {chip : Kbc} (hdue : LinesDue chip) {value : U8}
    (hbits : SameEnables chip.command_byte value) : ¬ Uncovers chip value := by
  rintro (⟨hline, hclear⟩ | ⟨hline, hclear⟩)
  · have henabled := hdue.covered.irq1 hline
    rw [irq1_enabled, ← hbits.irq1, hclear] at henabled
    exact Bool.false_ne_true henabled
  · have henabled := hdue.covered.irq12 hline
    rw [irq12_enabled, ← hbits.irq12, ← hbits.disable_aux] at henabled
    rcases hclear with hclear | hclear <;> simp [hclear] at henabled

/-- The keyboard clock is switched. -/
theorem kbc_set_command_byte_settled {s : KbcState σ} (hsettled : KbcSettled s) {value : U8}
    (hbits : SameEnables s.chip.command_byte value) :
    KbcSettled (kbc_set_command_byte link s value) := by
  obtain ⟨hdue, hlisted⟩ := kbc_set_command_byte_due link hsettled.due value
  exact ⟨hdue.mpr (not_uncovers hsettled.due hbits), hlisted⟩

/-! ## Calls -/

/-- A refresh settles a line that is covered. -/
theorem kbc_refresh_settled {s : KbcState σ} (hcovered : Covered s.chip)
    (hlisted : AuxListed s.chip) : KbcSettled (kbc_refresh_current_irq link s) := by
  constructor
  · rw [(kbc_refresh_current_irq_chip link s).1]
    exact kbc_settled_due hcovered
  · rw [(kbc_refresh_current_irq_chip link s).1]
    exact hlisted

theorem kbc_acknowledge_covered {s : KbcState σ} (hcovered : Covered s.chip)
    (hlisted : AuxListed s.chip) (origin : KbcOrigin) :
    Covered (kbc_acknowledge link s origin).chip ∧
      AuxListed (kbc_acknowledge link s origin).chip := by
  unfold kbc_acknowledge
  split_ifs
  · rw [(kbc_deassert_irq1_chip link s).1]
    exact ⟨⟨fun hline => (nomatch hline), hcovered.irq12⟩, hlisted⟩
  · rw [(kbc_deassert_irq12_chip link s).1]
    exact ⟨⟨hcovered.irq1, fun hline => nomatch hline⟩, hlisted⟩
  · exact ⟨hcovered, hlisted⟩

theorem kbc_read_data_settled {s : KbcState σ} (hsettled : KbcSettled s) :
    KbcSettled (kbc_read_data link s).2 := by
  have hcovered := hsettled.due.covered
  unfold kbc_read_data
  split_ifs
  · refine KbcMoves.settled (s := s) ?_ hsettled
    exact moves_beside ⟨⟨rfl, rfl, rfl⟩, rfl, rfl, rfl⟩ ⟨rfl, le_rfl, le_rfl⟩ rfl
  · unfold kbc_dequeue
    cases s.chip.fifo with
    | nil => exact hsettled
    | cons entry rest =>
      have hacknowledged := kbc_acknowledge_covered link (s := kbc_pop s entry rest)
        ⟨hcovered.irq1, hcovered.irq12⟩ hsettled.listed entry.2
      exact ((kbc_advance_moves link _ 0).trans (kbc_drain_keyboard_serial_moves link _)).settled
        (kbc_refresh_settled link hacknowledged.1 hacknowledged.2)

/-- An asserted IRQ12 has its device, present and enabled. -/
theorem LinesDue.aux_of_irq12 {chip : Kbc} (hdue : LinesDue chip)
    (hline : chip.irq12_asserted = true) :
    chip.aux_present = true ∧ chip.aux_enabled = true ∧
      is_set chip.command_byte kbc_command_irq12 = true ∧
      is_set chip.command_byte kbc_command_disable_aux = false := by
  have henabled := hdue.covered.irq12 hline
  simp only [irq12_enabled, Bool.and_eq_true, Bool.not_eq_true'] at henabled
  exact ⟨henabled.1.1.1, henabled.1.1.2, henabled.1.2, henabled.2⟩

/-- A8h. -/
theorem kbc_store_aux_enabled_covered {s : KbcState σ} (hdue : LinesDue s.chip)
    (aux_enabled : Bool) :
    (Covered (kbc_store_aux_enabled s aux_enabled).chip ↔
        ¬ (aux_enabled = false ∧ s.chip.irq12_asserted = true)) ∧
      AuxListed (kbc_store_aux_enabled s aux_enabled).chip := by
  have hbits (value mask : U8) (i : ℕ) (hi : mask.getLsbD i = false) (hlt : i < 8) :
      (value &&& ~~~mask).getLsbD i = value.getLsbD i ∧
        (value ||| mask).getLsbD i = value.getLsbD i := by
    rw [BitVec.getLsbD_and, BitVec.getLsbD_not, BitVec.getLsbD_or, hi]
    simp [hlt]
  have hirq1 := hbits s.chip.command_byte kbc_command_disable_aux 0 (by decide) (by decide)
  have hirq12 := hbits s.chip.command_byte kbc_command_disable_aux 1 (by decide) (by decide)
  have hset : kbc_command_disable_aux.getLsbD 5 = true := by decide
  unfold AuxListed
  cases aux_enabled with
  | true =>
    have hdisable : is_set (s.chip.command_byte &&& ~~~kbc_command_disable_aux)
        kbc_command_disable_aux = false := by
      rw [is_set_disable_aux, BitVec.getLsbD_and, BitVec.getLsbD_not, hset]
      simp
    refine ⟨⟨fun _ h => Bool.false_ne_true h.1.symm, fun _ => ⟨fun hline => ?_, fun hline => ?_⟩⟩,
      fun _ => hdisable⟩
    · have henabled := hdue.covered.irq1 hline
      change is_set (s.chip.command_byte &&& ~~~kbc_command_disable_aux) kbc_command_irq1 = true
      rw [is_set_irq1, hirq1.1, ← is_set_irq1]
      exact henabled
    · obtain ⟨hpresent, -, henabled, -⟩ := hdue.aux_of_irq12 hline
      change (s.chip.aux_present && true &&
        is_set (s.chip.command_byte &&& ~~~kbc_command_disable_aux) kbc_command_irq12 &&
        !is_set (s.chip.command_byte &&& ~~~kbc_command_disable_aux)
          kbc_command_disable_aux) = true
      rw [hdisable, is_set_irq12, hirq12.1, ← is_set_irq12, hpresent, henabled]
      rfl
  | false =>
    refine ⟨⟨fun hcovered h => ?_, fun hkeeps => ⟨fun hline => ?_, fun hline => ?_⟩⟩,
      fun h => nomatch h⟩
    · have henabled := hcovered.irq12 h.2
      simp [irq12_enabled, kbc_store_aux_enabled] at henabled
    · have henabled := hdue.covered.irq1 hline
      change is_set (s.chip.command_byte ||| kbc_command_disable_aux) kbc_command_irq1 = true
      rw [is_set_irq1, hirq1.2, ← is_set_irq1]
      exact henabled
    · exact absurd ⟨rfl, hline⟩ hkeeps

/-- A7h and A8h: the device may be disabled only while IRQ12 is not asserted. -/
theorem kbc_set_aux_enabled_settled {s : KbcState σ} (hsettled : KbcSettled s)
    (aux_enabled : Bool) :
    (LinesDue (kbc_set_aux_enabled link s aux_enabled).chip ↔
        ¬ (aux_enabled = false ∧ s.chip.irq12_asserted = true)) ∧
      AuxListed (kbc_set_aux_enabled link s aux_enabled).chip := by
  have hstanding : Standing (kbc_store_aux_enabled s aux_enabled).chip :=
    ⟨hsettled.due.standing.irq1, hsettled.due.standing.irq12⟩
  unfold kbc_set_aux_enabled
  split_ifs with habsent
  · -- without the device IRQ12 is not asserted
    have hline (hline : s.chip.irq12_asserted = true) : False := by
      rw [(hsettled.due.aux_of_irq12 hline).1] at habsent
      exact Bool.false_ne_true habsent
    exact ⟨⟨fun _ h => hline h.2, fun _ => hsettled.due⟩, hsettled.listed⟩
  · obtain ⟨hcovered, hlisted⟩ := kbc_store_aux_enabled_covered hsettled.due aux_enabled
    rw [(kbc_refresh_current_irq_chip link _).1]
    refine ⟨?_, hlisted⟩
    rw [kbc_settled_due_iff hstanding]
    exact hcovered

theorem kbc_set_aux_present_settled {s : KbcState σ} (hsettled : KbcSettled s) (present : Bool) :
    KbcSettled (kbc_set_aux_present link s present) := by
  have hcovered := hsettled.due.covered
  have hirq1 : kbc_command_irq12.getLsbD 0 = false ∧ kbc_command_irq12.getLsbD 5 = false := by
    decide
  unfold kbc_set_aux_present
  dsimp only
  cases present with
  | true =>
    simp only [if_true]
    refine kbc_refresh_settled link ⟨hcovered.irq1, fun hline => ?_⟩ ?_
    · obtain ⟨-, haux, henabled, hdisable⟩ := hsettled.due.aux_of_irq12 hline
      change (true && (true && s.chip.aux_enabled) &&
        is_set s.chip.command_byte kbc_command_irq12 &&
        !is_set s.chip.command_byte kbc_command_disable_aux) = true
      rw [haux, henabled, hdisable]
      rfl
    · exact hsettled.listed
  | false =>
    simp only [Bool.false_eq_true, if_false]
    have hchip := (kbc_deassert_irq12_chip link (kbc_store_aux_present s false)).1
    refine kbc_refresh_settled link ?_ ?_
    · rw [hchip]
      refine ⟨fun hline => ?_, fun hline => nomatch hline⟩
      have henabled := hcovered.irq1 hline
      change is_set (s.chip.command_byte &&& ~~~kbc_command_irq12) kbc_command_irq1 = true
      rw [irq1_enabled, is_set_irq1] at henabled
      rw [is_set_irq1, BitVec.getLsbD_and, BitVec.getLsbD_not, hirq1.1, henabled]
      rfl
    · rw [hchip]
      exact fun haux => nomatch haux

/-- The system flag enables no line. -/
theorem kbc_store_system_settled {s : KbcState σ} (hsettled : KbcSettled s) (system : Bool) :
    KbcSettled (kbc_store_system s system) := by
  have hsystem := same_enables_bit s.chip.command_byte kbc_command_system (by decide)
  have hbits : SameEnables s.chip.command_byte (kbc_store_system s system).chip.command_byte := by
    cases system
    · exact hsystem.2
    · exact hsystem.1
  refine ⟨hsettled.due.of_enables rfl rfl rfl rfl rfl hbits, fun haux => ?_⟩
  rw [hbits.disable_aux]
  exact hsettled.listed haux

theorem kbc_self_test_settled {s : KbcState σ} (hsettled : KbcSettled s) :
    KbcSettled (kbc_self_test link s) := by
  have hflushed : KbcSettled (kbc_flush_output link s) := by
    unfold kbc_flush_output
    dsimp only
    constructor
    · rw [(kbc_deassert_both_chip link _).1]
      exact linesDue_of_empty rfl rfl rfl
    · rw [(kbc_deassert_both_chip link _).1]
      exact hsettled.listed
  have hwritten := (kbc_set_pending_write_moves (kbc_flush_output link s) .none).settled hflushed
  have hcommanded := kbc_set_command_byte_settled link hwritten
    (same_enables_bit _ kbc_command_disable_keyboard (by decide)).1
  exact (kbc_schedule_response_moves link _ [0x55] .controller).settled
    (kbc_store_system_settled hcommanded true)

theorem kbc_reset_settled (s : KbcState σ) : KbcSettled (kbc_reset link s) := by
  constructor
  · exact linesDue_of_empty rfl rfl rfl
  · intro haux
    change (s.chip.aux_present && !is_set (kbc_reset_chip s.chip).command_byte
      kbc_command_disable_aux) = true at haux
    rw [Bool.and_eq_true, Bool.not_eq_true'] at haux
    exact haux.2

/-! ## Operations -/

/-- The call takes the enable from an asserted line: a command byte that clears it, or A7h
while IRQ12 is asserted. -/
def Disables (chip : Kbc) : KbcOp σ → Prop
  | .write_data value => chip.pending_write = .command_byte ∧ Uncovers chip value
  | .write_command command => command = 0xa7 ∧ chip.irq12_asserted = true
  | _ => False

theorem KbcSettled.due_iff {s : KbcState σ} (h : KbcSettled s) {disables : Prop}
    (hnot : ¬ disables) : (LinesDue s.chip ↔ ¬ disables) ∧ AuxListed s.chip :=
  ⟨⟨fun _ => hnot, fun _ => h.due⟩, h.listed⟩

theorem kbc_write_end_due (s : KbcState σ) :
    (LinesDue (kbc_write_end s).chip ↔ LinesDue s.chip) ∧
      (AuxListed (kbc_write_end s).chip ↔ AuxListed s.chip) :=
  ⟨⟨fun h => ⟨h.irq1, h.irq12⟩, fun h => ⟨h.irq1, h.irq12⟩⟩, Iff.rfl⟩

theorem kbc_write_data_settled {s : KbcState σ} (hsettled : KbcSettled s) (value : U8) :
    (LinesDue (kbc_write_data link s value).chip ↔
        ¬ (s.chip.pending_write = .command_byte ∧ Uncovers s.chip value)) ∧
      AuxListed (kbc_write_data link s value).chip := by
  have hbegun := (kbc_write_begin_moves s false).settled hsettled
  unfold kbc_write_data
  rw [(kbc_write_end_due _).1, (kbc_write_end_due _).2]
  unfold kbc_write_data_body
  cases hpending : (kbc_write_begin s false).chip.pending_write <;>
    change s.chip.pending_write = _ at hpending <;> rw [hpending] <;> dsimp only
  case command_byte =>
    have hcleared := (kbc_set_pending_write_moves (kbc_write_begin s false) .none).settled hbegun
    have h := kbc_set_command_byte_due link hcleared.due value
    refine ⟨h.1.trans ?_, h.2⟩
    exact ⟨fun hkeeps hboth => hkeeps hboth.2, fun hkeeps huncovers => hkeeps ⟨rfl, huncovers⟩⟩
  case output_port =>
    exact (((kbc_apply_output_port_moves link _ value).trans
      (kbc_set_pending_write_moves _ .none)).settled hbegun).due_iff fun h => nomatch h.1
  case aux_device =>
    exact (((kbc_set_pending_write_moves _ .none).trans
      (kbc_run_endpoint_moves link _ _)).settled hbegun).due_iff fun h => nomatch h.1
  case aux_discard =>
    exact ((kbc_set_pending_write_moves _ .none).settled hbegun).due_iff fun h => nomatch h.1
  case none =>
    exact ((kbc_run_endpoint_moves link _ _).settled hbegun).due_iff fun h => nomatch h.1

theorem kbc_write_command_settled {s : KbcState σ} (hsettled : KbcSettled s) (command : U8) :
    (LinesDue (kbc_write_command link s command).chip ↔
        ¬ (command = 0xa7 ∧ s.chip.irq12_asserted = true)) ∧
      AuxListed (kbc_write_command link s command).chip := by
  have hbegun := (kbc_write_begin_moves s true).settled hsettled
  have hswitch := same_enables_bit (kbc_write_begin s true).chip.command_byte
    kbc_command_disable_keyboard (by decide)
  unfold kbc_write_command
  rw [(kbc_write_end_due _).1, (kbc_write_end_due _).2]
  cases kbc_write_command_body_cases link (kbc_write_begin s true) command with
  | moves hmoves hne => exact (hmoves.settled hbegun).due_iff fun h => hne.1 h.1
  | self_test hcommand hafter =>
    rw [hafter]
    refine (kbc_self_test_settled link hbegun).due_iff fun h => ?_
    rw [hcommand] at h
    exact absurd h.1 (by decide)
  | clock value hvalue hne hafter =>
    rw [hafter]
    refine KbcSettled.due_iff ?_ fun h => hne.1 h.1
    rcases hvalue with rfl | rfl
    · exact kbc_set_command_byte_settled link hbegun hswitch.1
    · exact kbc_set_command_byte_settled link hbegun hswitch.2
  | aux enabled hcommand hafter =>
    rw [hafter]
    have h := kbc_set_aux_enabled_settled link hbegun enabled
    refine ⟨h.1.trans (not_congr ⟨fun hoff => ⟨?_, hoff.2⟩, fun hoff => ⟨?_, hoff.2⟩⟩), h.2⟩
    · rw [hcommand, hoff.1]
      rfl
    · cases enabled with
      | true => exact absurd (hcommand.symm.trans hoff.1) (by decide)
      | false => rfl

/-- One call keeps the lines due, unless it takes the enable from an asserted line. -/
theorem kbc_apply_settled {s : KbcState σ} (hsettled : KbcSettled s) (op : KbcOp σ) :
    (LinesDue (kbc_apply link s op).chip ↔ ¬ Disables s.chip op) ∧
      AuxListed (kbc_apply link s op).chip := by
  have hbeside (chip : Kbc) (lines : SameLines s.chip chip) (waits : StillWaits s.chip chip) :
      KbcSettled { s with chip } :=
    (moves_beside lines waits rfl : KbcMoves s { s with chip }).settled hsettled
  have hsame : KbcSettled (kbc_apply link s op) →
      (LinesDue (kbc_apply link s op).chip ↔ ¬ False) ∧ AuxListed (kbc_apply link s op).chip :=
    fun h => h.due_iff not_false
  cases op with
  | write_data value => exact kbc_write_data_settled link hsettled value
  | write_command command => exact kbc_write_command_settled link hsettled command
  | read_data => exact hsame (kbc_read_data_settled link hsettled)
  | read_status => exact hsame ((kbc_read_status_moves link s).settled hsettled)
  | receive_keyboard_bytes native_bytes =>
    exact hsame ((kbc_receive_keyboard_bytes_moves link s native_bytes).settled hsettled)
  | receive_reply origin bytes =>
    exact hsame ((kbc_receive_reply_moves link s origin bytes).settled hsettled)
  | receive_aux_packet b0 b1 b2 =>
    exact hsame ((kbc_receive_aux_packet_moves link s b0 b1 b2).settled hsettled)
  | reset_keyboard_stream => exact hsame ((kbc_reset_keyboard_stream_moves s).settled hsettled)
  | advance elapsed_ticks => exact hsame ((kbc_advance_moves link s elapsed_ticks).settled hsettled)
  | reset => exact hsame (kbc_reset_settled link s)
  | set_aux_present present => exact hsame (kbc_set_aux_present_settled link hsettled present)
  | set_reset_output_port value =>
    exact hsame ((kbc_apply_output_port_moves link _ value).settled
      (hbeside _ ⟨⟨rfl, rfl, rfl⟩, rfl, rfl, rfl⟩ ⟨rfl, le_rfl, le_rfl⟩))
  | set_reset_system_flag enabled =>
    exact hsame (kbc_store_system_settled
      (hbeside { s.chip with reset_system_flag := enabled } ⟨⟨rfl, rfl, rfl⟩, rfl, rfl, rfl⟩
        ⟨rfl, le_rfl, le_rfl⟩) enabled)
  | set_serial_delivery_timing ticks =>
    exact hsame ((kbc_drain_keyboard_serial_moves link _).settled
      (hbeside _ ⟨⟨rfl, rfl, rfl⟩, rfl, rfl, rfl⟩ ⟨rfl, le_rfl, le_rfl⟩))
  | endpoints context => exact hsame ((moves_context s context).settled hsettled)
  | set_input_port value =>
    exact hsame (hbeside _ ⟨⟨rfl, rfl, rfl⟩, rfl, rfl, rfl⟩ ⟨rfl, le_rfl, le_rfl⟩)
  | set_test_inputs value =>
    exact hsame (hbeside _ ⟨⟨rfl, rfl, rfl⟩, rfl, rfl, rfl⟩ ⟨rfl, le_rfl, le_rfl⟩)
  | set_reset_command_byte value =>
    exact hsame (hbeside _ ⟨⟨rfl, rfl, rfl⟩, rfl, rfl, rfl⟩ ⟨rfl, le_rfl, le_rfl⟩)
  | set_command_response_timing ticks =>
    exact hsame (hbeside _ ⟨⟨rfl, rfl, rfl⟩, rfl, rfl, rfl⟩ ⟨rfl, le_rfl, le_rfl⟩)
  | set_command_response_status_polls polls =>
    exact hsame (hbeside _ ⟨⟨rfl, rfl, rfl⟩, rfl, rfl, rfl⟩ ⟨rfl, le_rfl, le_rfl⟩)
  | set_output_pulse_timing ticks =>
    exact hsame (hbeside _ ⟨⟨rfl, rfl, rfl⟩, rfl, rfl, rfl⟩ ⟨rfl, le_rfl, le_rfl⟩)

/-! ## Runs -/

/-- IRQ1 is asserted exactly while the head of the FIFO is the keyboard's, or the
controller's where there is no auxiliary device, and the command byte enables it; IRQ12
exactly while the head is the auxiliary device's, which is present and enabled, and the
command byte enables it; never both. -/
structure FollowsHead (chip : Kbc) : Prop where
  irq1 : chip.irq1_asserted = true ↔
    (kbc_head_origin chip = some .keyboard ∨
      (kbc_head_origin chip = some .controller ∧ chip.aux_present = false)) ∧
    is_set chip.command_byte kbc_command_irq1 = true
  irq12 : chip.irq12_asserted = true ↔
    kbc_head_origin chip = some .aux ∧ chip.aux_present = true ∧ chip.aux_enabled = true ∧
      is_set chip.command_byte kbc_command_irq12 = true
  not_both : ¬ (chip.irq1_asserted = true ∧ chip.irq12_asserted = true)

theorem irq1_turn_iff (chip : Kbc) : irq1_turn chip = true ↔
    kbc_head_origin chip = some .keyboard ∨
      (kbc_head_origin chip = some .controller ∧ chip.aux_present = false) := by
  unfold irq1_turn is_irq1_origin
  cases kbc_head_origin chip with
  | none => simp
  | some origin => cases origin <;> simp

theorem follows_head_iff {chip : Kbc} (hlisted : AuxListed chip) :
    FollowsHead chip ↔ LinesDue chip := by
  have h1 : (irq1_turn chip && irq1_enabled chip) = true ↔
      (kbc_head_origin chip = some .keyboard ∨
        (kbc_head_origin chip = some .controller ∧ chip.aux_present = false)) ∧
      is_set chip.command_byte kbc_command_irq1 = true := by
    rw [Bool.and_eq_true, irq1_turn_iff]
    rfl
  have h12 : (irq12_turn chip && irq12_enabled chip) = true ↔
      kbc_head_origin chip = some .aux ∧ chip.aux_present = true ∧ chip.aux_enabled = true ∧
        is_set chip.command_byte kbc_command_irq12 = true := by
    simp only [irq12_turn, irq12_enabled, Bool.and_eq_true, decide_eq_true_eq, Bool.not_eq_true']
    constructor
    · rintro ⟨hhead, ⟨⟨hpresent, haux⟩, henabled⟩, -⟩
      exact ⟨hhead, hpresent, haux, henabled⟩
    · rintro ⟨hhead, hpresent, haux, henabled⟩
      exact ⟨hhead, ⟨⟨hpresent, haux⟩, henabled⟩, hlisted haux⟩
  constructor
  · intro h
    exact ⟨Bool.eq_iff_iff.mpr (h.irq1.trans h1.symm), Bool.eq_iff_iff.mpr (h.irq12.trans h12.symm)⟩
  · intro h
    exact ⟨(Bool.eq_iff_iff.mp h.irq1).trans h1, (Bool.eq_iff_iff.mp h.irq12).trans h12,
      h.standing.not_both⟩

/-- No call of the run takes the enable from an asserted line. -/
def NeverDisables (s : KbcState σ) : List (KbcOp σ) → Prop
  | [] => True
  | op :: ops => ¬ Disables s.chip op ∧ NeverDisables (kbc_apply link s op) ops

theorem run_follows_head (ops : List (KbcOp σ)) {s : KbcState σ} (hsettled : KbcSettled s) :
    (∀ k ≤ ops.length, FollowsHead ((ops.take k).foldl (kbc_apply link) s).chip) ↔
      NeverDisables link s ops := by
  induction ops generalizing s with
  | nil =>
    refine ⟨fun _ => trivial, fun _ k _ => ?_⟩
    rw [List.take_nil]
    exact (follows_head_iff hsettled.listed).mpr hsettled.due
  | cons op ops ih =>
    obtain ⟨hdue, hlisted⟩ := kbc_apply_settled link hsettled op
    constructor
    · intro hall
      have hfirst := hall 1 (by simp)
      have hkeeps := hdue.mp ((follows_head_iff hlisted).mp hfirst)
      refine ⟨hkeeps, (ih ⟨hdue.mpr hkeeps, hlisted⟩).mp fun k hk => ?_⟩
      exact hall (k + 1) (by simpa using hk)
    · rintro ⟨hkeeps, hrest⟩ k hk
      cases k with
      | zero => exact (follows_head_iff hsettled.listed).mpr hsettled.due
      | succ k =>
        exact (ih ⟨hdue.mpr hkeeps, hlisted⟩).mpr hrest k (by simpa using hk)

/-- The interrupts follow the head of the FIFO after every call of a run exactly when no call
takes the enable from an asserted line. -/
theorem kbc_interrupts_follow_head (context : σ) (ops : List (KbcOp σ)) :
    (∀ k ≤ ops.length,
        FollowsHead ((ops.take k).foldl (kbc_apply link) (kbc_create link context)).chip) ↔
      NeverDisables link (kbc_create link context) ops :=
  run_follows_head link ops (kbc_reset_settled link _)

end Calls

/-- A keyboard's reply at the head, then a command byte that disables IRQ1: it stays
asserted. -/
theorem kbc_irq1_outlives_enable :
    let ops : List (KbcOp Unit) :=
      [.receive_reply .keyboard [0xfa], .write_command 0x60, .write_data 0x40]
    let chip := (ops.foldl (kbc_apply kbc_unplugged) (kbc_create kbc_unplugged ())).chip
    chip.irq1_asserted = true ∧ is_set chip.command_byte kbc_command_irq1 = false ∧
      ¬ FollowsHead chip := by
  intro ops chip
  have h : chip.irq1_asserted = true ∧ is_set chip.command_byte kbc_command_irq1 = false := by
    decide
  refine ⟨h.1, h.2, fun hfollows => ?_⟩
  have henabled := (hfollows.irq1.mp h.1).2
  rw [h.2] at henabled
  exact Bool.false_ne_true henabled

end Nxvm.Chips
