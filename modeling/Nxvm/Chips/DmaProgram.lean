/-
The programming of the DMA controller's address and count registers (`dma.c`).

Eight 16-bit registers behind an 8-bit port, one byte an access: one flip-flop, toggled by
reads and writes alike, says which. A write should put its value into that byte of the base
and of the current register and leave the other one. The low write of the source assigns the
whole word, and its high write merges without clearing, so both do so only from some states:
here are these states, and what a whole run of accesses is worth when its writes meet them.
-/
import Nxvm.Chips.Dma

set_option autoImplicit false

namespace Nxvm.Chips

open Nxvm.Lib Nxvm.Lib.Register Nxvm.Machine

/-! ## The bytes of a word -/

/-- The byte that the flip-flop selects. -/
def half (msb : Bool) (word : U16) : U8 :=
  if !msb then word.setWidth 8 else (word >>> 8).setWidth 8

/-- The word with another value in the byte that the flip-flop selects. -/
def with_half (msb : Bool) (word : U16) (value : U8) : U16 :=
  if !msb then half true word ++ value else value ++ half false word

theorem getLsbD_half (msb : Bool) (word : U16) (i : ℕ) (hi : i < 8) :
    (half msb word).getLsbD i = word.getLsbD (if msb then 8 + i else i) := by
  by_cases h : msb = true
  · rw [h, half, if_neg (by simp), if_pos rfl, BitVec.getLsbD_setWidth, BitVec.getLsbD_ushiftRight]
    simp [hi]
  · rw [Bool.eq_false_iff.mpr h, half, if_pos (by simp), if_neg (by simp), BitVec.getLsbD_setWidth]
    simp [hi]

/-- A word is its two bytes. -/
theorem eq_of_halves {x y : U16} (hlow : half false x = half false y)
    (hhigh : half true x = half true y) : x = y := by
  apply BitVec.eq_of_getLsbD_eq
  intro i hi
  by_cases h : i < 8
  · have hbit := congrArg (fun z => z.getLsbD i) hlow
    simpa [getLsbD_half _ _ i h] using hbit
  · have hbit := congrArg (fun z => z.getLsbD (i - 8)) hhigh
    have hplace : 8 + (i - 8) = i := by omega
    simpa [getLsbD_half _ _ (i - 8) (by omega), hplace] using hbit

theorem half_append (high low : U8) :
    half true (high ++ low) = high ∧ half false (high ++ low) = low := by
  constructor <;>
  · apply BitVec.eq_of_getLsbD_eq
    intro i hi
    rw [getLsbD_half _ _ i hi, BitVec.getLsbD_append]
    simp [hi]

theorem half_or (msb : Bool) (x y : U16) : half msb (x ||| y) = half msb x ||| half msb y := by
  apply BitVec.eq_of_getLsbD_eq
  intro i hi
  rw [BitVec.getLsbD_or, getLsbD_half _ _ i hi, getLsbD_half _ _ i hi, getLsbD_half _ _ i hi,
    BitVec.getLsbD_or]

/-- A byte widened is the low byte of its word. -/
theorem half_setWidth (value : U8) :
    half true (value.setWidth 16) = 0 ∧ half false (value.setWidth 16) = value := by
  constructor
  · apply BitVec.eq_of_getLsbD_eq
    intro i hi
    rw [getLsbD_half _ _ i hi, if_pos rfl, BitVec.getLsbD_setWidth,
      BitVec.getLsbD_of_ge value (8 + i) (by omega)]
    simp
  · apply BitVec.eq_of_getLsbD_eq
    intro i hi
    rw [getLsbD_half _ _ i hi, if_neg (by simp), BitVec.getLsbD_setWidth]
    simp [show i < 16 by omega]

/-- A byte widened and shifted is the high byte of its word. -/
theorem half_shifted (value : U8) :
    half true (value.setWidth 16 <<< 8) = value ∧ half false (value.setWidth 16 <<< 8) = 0 := by
  constructor
  · apply BitVec.eq_of_getLsbD_eq
    intro i hi
    rw [getLsbD_half _ _ i hi, if_pos rfl, BitVec.getLsbD_shiftLeft, BitVec.getLsbD_setWidth,
      Nat.add_sub_cancel_left]
    simp [show 8 + i < 16 by omega, show i < 16 by omega]
  · apply BitVec.eq_of_getLsbD_eq
    intro i hi
    rw [getLsbD_half _ _ i hi, if_neg (by simp), BitVec.getLsbD_shiftLeft]
    simp [hi]

@[simp] theorem half_with_half (msb : Bool) (word : U16) (value : U8) :
    half msb (with_half msb word value) = value := by
  by_cases h : msb = true
  · rw [h, with_half, if_neg (by simp)]
    exact (half_append _ _).1
  · rw [Bool.eq_false_iff.mpr h, with_half, if_pos (by simp)]
    exact (half_append _ _).2

@[simp] theorem half_with_half_not (msb : Bool) (word : U16) (value : U8) :
    half (!msb) (with_half msb word value) = half (!msb) word := by
  by_cases h : msb = true
  · rw [h, with_half, if_neg (by simp)]
    exact (half_append _ _).2
  · rw [Bool.eq_false_iff.mpr h, with_half, if_pos (by simp)]
    exact (half_append _ _).1

/-- A word has a value in one byte and another word's byte beside it exactly when it is that
word with the value put in. -/
theorem eq_with_half_iff (msb : Bool) (x word : U16) (value : U8) :
    x = with_half msb word value ↔ half msb x = value ∧ half (!msb) x = half (!msb) word := by
  constructor
  · intro h
    rw [h]
    exact ⟨half_with_half msb word value, half_with_half_not msb word value⟩
  · rintro ⟨hsame, hother⟩
    rw [← half_with_half msb word value] at hsame
    rw [← half_with_half_not msb word value] at hother
    by_cases h : msb = true
    · rw [h] at hsame hother ⊢
      exact eq_of_halves hother hsame
    · rw [Bool.eq_false_iff.mpr h] at hsame hother ⊢
      exact eq_of_halves hsame hother

/-! ## The eight registers -/

/-- The port of an address or count register. -/
def port (register : Fin 8) : U8 := BitVec.ofNat 8 register.val

/-- The base register behind a port: an address at an even one, a count at an odd one. -/
def base_register (dma : Dma) (register : Fin 8) : U16 :=
  let channel : Fin 4 := ⟨register.val / 2, by omega⟩
  if register.val % 2 = 0 then dma.baseAddr channel else dma.baseCount channel

/-- The current register behind a port. -/
def current_register (dma : Dma) (register : Fin 8) : U16 :=
  let channel : Fin 4 := ⟨register.val / 2, by omega⟩
  if register.val % 2 = 0 then dma.currAddr channel else dma.currCount channel

/-- What the address decoder makes of the port of a register. -/
theorem port_decode (register : Fin 8) :
    (port register).toNat < 8 ∧
      channel_select (port register >>> 1) = ⟨register.val / 2, by omega⟩ ∧
      (port register &&& 1 = 0 ↔ register.val % 2 = 0) := by
  revert register
  decide

/-- A read gives the selected byte of the current register and turns the flip-flop. -/
theorem read_register_spec (dma : Dma) (register : Fin 8) (io_value : U8) :
    dma_read_register dma (port register) io_value =
      (half dma.flagMSB (current_register dma register),
        { dma with flagMSB := !dma.flagMSB }) := by
  obtain ⟨hlt, hchannel, hparity⟩ := port_decode register
  unfold dma_read_register
  rw [if_pos hlt]
  dsimp only
  rw [hchannel, current_register]
  by_cases h : register.val % 2 = 0
  · rw [if_pos (hparity.mpr h), if_pos h]
    rfl
  · rw [if_neg (fun hz => h (hparity.mp hz)), if_neg h]
    rfl

/-- A write makes the base register of its port the merged word. -/
theorem write_base (dma : Dma) (register : Fin 8) (value : U8) :
    base_register (dma_write_register dma (port register) value) register =
      dma_write_half dma (base_register dma register) value := by
  obtain ⟨hlt, hchannel, hparity⟩ := port_decode register
  unfold dma_write_register
  rw [if_pos hlt]
  dsimp only
  rw [hchannel]
  by_cases h : register.val % 2 = 0
  · rw [if_pos (hparity.mpr h)]
    simp [base_register, dma_write_address, h]
  · rw [if_neg (fun hz => h (hparity.mp hz))]
    simp [base_register, dma_write_count, h]

/-- A write makes the current register of its port the new base register. -/
theorem write_current (dma : Dma) (register : Fin 8) (value : U8) :
    current_register (dma_write_register dma (port register) value) register =
      dma_write_half dma (base_register dma register) value := by
  obtain ⟨hlt, hchannel, hparity⟩ := port_decode register
  unfold dma_write_register
  rw [if_pos hlt]
  dsimp only
  rw [hchannel]
  by_cases h : register.val % 2 = 0
  · rw [if_pos (hparity.mpr h)]
    simp [current_register, base_register, dma_write_address, h]
  · rw [if_neg (fun hz => h (hparity.mp hz))]
    simp [current_register, base_register, dma_write_count, h]

/-- A write leaves the other seven registers. -/
theorem write_other (dma : Dma) {register other : Fin 8} (value : U8) (hne : other ≠ register) :
    base_register (dma_write_register dma (port register) value) other = base_register dma other ∧
      current_register (dma_write_register dma (port register) value) other =
        current_register dma other := by
  obtain ⟨hlt, hchannel, hparity⟩ := port_decode register
  have hval : other.val ≠ register.val := fun h => hne (Fin.ext h)
  unfold dma_write_register
  rw [if_pos hlt]
  dsimp only
  rw [hchannel]
  by_cases h : register.val % 2 = 0
  · rw [if_pos (hparity.mpr h)]
    by_cases ho : other.val % 2 = 0
    · have hch : other.val / 2 ≠ register.val / 2 := by omega
      simp [base_register, current_register, dma_write_address, ho, hch]
    · simp [base_register, current_register, dma_write_address, ho]
  · rw [if_neg (fun hz => h (hparity.mp hz))]
    by_cases ho : other.val % 2 = 0
    · simp [base_register, current_register, dma_write_count, ho]
    · have hch : other.val / 2 ≠ register.val / 2 := by omega
      simp [base_register, current_register, dma_write_count, ho, hch]

/-! ## One write -/

/-- A write that does what the flip-flop says: exactly the selected byte of the base and of the
current register of the port changes, and it becomes the written value. -/
def ExactWrite (dma : Dma) (register : Fin 8) (value : U8) : Prop :=
  let dma' := dma_write_register dma (port register) value
  base_register dma' register = with_half dma.flagMSB (base_register dma register) value ∧
    current_register dma' register = with_half dma.flagMSB (current_register dma register) value ∧
    ∀ other, other ≠ register →
      base_register dma' other = base_register dma other ∧
        current_register dma' other = current_register dma other

/-- The states from which a write can be exact: before a low byte the high bytes must be zero,
and a high byte must cover the old one, with the two registers alike below it. -/
def WriteFits (dma : Dma) (register : Fin 8) (value : U8) : Prop :=
  if dma.flagMSB then
    half true (base_register dma register) ||| value = value ∧
      half false (current_register dma register) = half false (base_register dma register)
  else
    half true (base_register dma register) = 0 ∧ half true (current_register dma register) = 0

instance (dma : Dma) (register : Fin 8) (value : U8) : Decidable (WriteFits dma register value) := by
  unfold WriteFits
  infer_instance

/-- The bytes of the merged word. -/
theorem half_write_half (dma : Dma) (base : U16) (value : U8) :
    half false (dma_write_half dma base value) =
        (if dma.flagMSB then half false base else value) ∧
      half true (dma_write_half dma base value) =
        if dma.flagMSB then half true base ||| value else 0 := by
  unfold dma_write_half
  by_cases h : dma.flagMSB = true
  · rw [if_neg (by simp [h]), if_pos h, if_pos h, half_or, half_or, (half_shifted value).1,
      (half_shifted value).2]
    exact ⟨BitVec.or_zero, rfl⟩
  · rw [if_pos (by simp [h]), if_neg h, if_neg h]
    exact ⟨(half_setWidth value).2, (half_setWidth value).1⟩

/-- A write is exact from the states it fits, and from no other. -/
theorem exact_write_iff (dma : Dma) (register : Fin 8) (value : U8) :
    ExactWrite dma register value ↔ WriteFits dma register value := by
  obtain ⟨hlow, hhigh⟩ := half_write_half dma (base_register dma register) value
  unfold ExactWrite WriteFits
  dsimp only
  rw [write_base, write_current, eq_with_half_iff, eq_with_half_iff]
  by_cases h : dma.flagMSB = true
  · rw [if_pos h] at hlow hhigh
    rw [if_pos h, h, Bool.not_true, hlow, hhigh]
    constructor
    · rintro ⟨⟨hbase, -⟩, ⟨-, hcurrent⟩, -⟩
      exact ⟨hbase, hcurrent.symm⟩
    · rintro ⟨hbase, hcurrent⟩
      exact ⟨⟨hbase, rfl⟩, ⟨hbase, hcurrent.symm⟩, fun other hne => write_other dma value hne⟩
  · rw [if_neg h] at hlow hhigh
    rw [if_neg h, Bool.eq_false_iff.mpr h, Bool.not_false, hlow, hhigh]
    constructor
    · rintro ⟨⟨-, hbase⟩, ⟨-, hcurrent⟩, -⟩
      exact ⟨hbase.symm, hcurrent.symm⟩
    · rintro ⟨hbase, hcurrent⟩
      exact ⟨⟨rfl, hbase.symm⟩, ⟨rfl, hcurrent.symm⟩, fun other hne => write_other dma value hne⟩

/-! ## Runs of accesses -/

/-- An access of the processor to the registers, or a clear of the flip-flop. -/
inductive DmaAccess where
  | read (register : Fin 8)
  | write (register : Fin 8) (value : U8)
  | clear (value : U8)
  deriving DecidableEq, Repr

/-- One access. -/
def access (dma : Dma) : DmaAccess → Dma
  | .read register => (dma_read_register dma (port register) 0).2
  | .write register value => dma_write_register dma (port register) value
  | .clear value => dma_write_register dma 12 value

/-- A run of accesses. -/
def accesses (dma : Dma) (run : List DmaAccess) : Dma := run.foldl access dma

theorem accesses_append (dma : Dma) (run rest : List DmaAccess) :
    accesses dma (run ++ rest) = accesses (accesses dma run) rest := by
  rw [accesses, List.foldl_append]
  rfl

theorem accesses_snoc (dma : Dma) (run : List DmaAccess) (last : DmaAccess) :
    accesses dma (run ++ [last]) = access (accesses dma run) last := by
  rw [accesses_append]
  rfl

/-- Every write of the run is exact. -/
def WritesExact (dma : Dma) (run : List DmaAccess) : Prop :=
  ∀ before register value after, run = before ++ .write register value :: after →
    ExactWrite (accesses dma before) register value

/-- No access of `between` writes the byte of the register that `msb` selects. -/
def Unwritten (dma : Dma) (register : Fin 8) (msb : Bool) (between : List DmaAccess) : Prop :=
  ∀ before value after, between = before ++ .write register value :: after →
    (accesses dma before).flagMSB ≠ msb

/-- Every read of the run answers the last value written to the byte it selects. -/
def ReadsBack (dma : Dma) (run : List DmaAccess) : Prop :=
  ∀ before register value between after,
    run = before ++ .write register value :: (between ++ .read register :: after) →
    let written := accesses dma (before ++ [.write register value])
    let msb := (accesses dma before).flagMSB
    Unwritten written register msb between →
    (accesses written between).flagMSB = msb →
    (dma_read_register (accesses written between) (port register) 0).1 = value

theorem WritesExact.tail {dma : Dma} {first : DmaAccess} {rest : List DmaAccess}
    (h : WritesExact dma (first :: rest)) : WritesExact (access dma first) rest := by
  intro before register value after hsplit
  apply h (first :: before) register value after
  rw [hsplit]
  rfl

theorem Unwritten.tail {dma : Dma} {register : Fin 8} {msb : Bool} {first : DmaAccess}
    {rest : List DmaAccess} (h : Unwritten dma register msb (first :: rest)) :
    Unwritten (access dma first) register msb rest := by
  intro before value after hsplit
  apply h (first :: before) value after
  rw [hsplit]
  rfl

/-- A read and a clear touch the flip-flop only. -/
theorem access_current (dma : Dma) (register other : Fin 8) (value : U8) :
    current_register (access dma (.read other)) register = current_register dma register ∧
      current_register (access dma (.clear value)) register = current_register dma register := by
  constructor
  · show current_register (dma_read_register dma (port other) 0).2 register = _
    rw [read_register_spec]
    rfl
  · rfl

/-- An exact write of another byte keeps this one. -/
theorem ExactWrite.kept {dma : Dma} {register other : Fin 8} {msb : Bool} {value : U8}
    (h : ExactWrite dma other value) (hother : other = register → dma.flagMSB ≠ msb) :
    half msb (current_register (dma_write_register dma (port other) value) register) =
      half msb (current_register dma register) := by
  obtain ⟨-, hcurrent, hrest⟩ := h
  by_cases hr : other = register
  · subst hr
    have hmsb : msb = !dma.flagMSB := by
      rw [Bool.eq_not]
      exact fun he => hother rfl he.symm
    rw [hcurrent, hmsb, half_with_half_not]
  · rw [(hrest register fun he => hr he.symm).2]

/-- A byte survives a run of exact writes that leave it alone. -/
theorem half_kept (register : Fin 8) (msb : Bool) (between : List DmaAccess) :
    ∀ dma, WritesExact dma between → Unwritten dma register msb between →
      half msb (current_register (accesses dma between) register) =
        half msb (current_register dma register) := by
  induction between with
  | nil =>
    intro dma _ _
    rfl
  | cons first rest ih =>
    intro dma hexact hunwritten
    have hstep : half msb (current_register (access dma first) register) =
        half msb (current_register dma register) := by
      cases first with
      | read other => rw [(access_current dma register other 0).1]
      | clear value => rw [(access_current dma register 0 value).2]
      | write other value =>
        apply ExactWrite.kept (hexact [] other value rest rfl)
        intro he
        apply hunwritten [] value rest
        rw [he]
        rfl
    rw [← hstep]
    exact ih (access dma first) hexact.tail hunwritten.tail

/-- Exact writes are read back. -/
theorem WritesExact.reads_back {dma : Dma} {run : List DmaAccess} (h : WritesExact dma run) :
    ReadsBack dma run := by
  intro before register value between after hsplit written msb hunwritten hflag
  have hfirst : ExactWrite (accesses dma before) register value :=
    h before register value _ hsplit
  have hrest : WritesExact written between := by
    intro b r v a hb
    have hwrite := h (before ++ [.write register value] ++ b) r v (a ++ .read register :: after)
      (by rw [hsplit, hb]; simp)
    rwa [accesses_append] at hwrite
  have hwritten : written =
      dma_write_register (accesses dma before) (port register) value := accesses_snoc _ _ _
  have hvalue : half msb (current_register written register) = value := by
    rw [hwritten, hfirst.2.1]
    exact half_with_half _ _ _
  rw [read_register_spec, hflag]
  show half msb (current_register (accesses written between) register) = value
  rw [half_kept register msb between written hrest hunwritten, hvalue]

/-- A run of accesses changes exactly the bytes it writes, and reads them back, when each of its
writes fits the state it is made in, and only then. -/
theorem dma_program_iff (dma : Dma) (run : List DmaAccess) :
    (WritesExact dma run ∧ ReadsBack dma run) ↔
      ∀ before register value after, run = before ++ .write register value :: after →
        WriteFits (accesses dma before) register value := by
  constructor
  · rintro ⟨hexact, -⟩ before register value after hsplit
    exact (exact_write_iff _ register value).mp (hexact before register value after hsplit)
  · intro hfits
    have hexact : WritesExact dma run := by
      intro before register value after hsplit
      exact (exact_write_iff _ register value).mpr (hfits before register value after hsplit)
    exact ⟨hexact, hexact.reads_back⟩

/-- The address of channel 0 is programmed to `0x1200`; then a read turns the flip-flop and a
high byte is written over `0x12`. -/
def merged_run : List DmaAccess :=
  [.write 0 0x00, .write 0 0x12, .clear 0, .read 0, .write 0 0x34, .read 0, .read 0]

/-- The second high byte is merged into the first: `0x36` is read where `0x34` was written. -/
theorem high_byte_merged :
    ¬ WritesExact dma_create merged_run ∧ ¬ ReadsBack dma_create merged_run := by
  constructor
  · intro h
    have hwrite := h [.write 0 0x00, .write 0 0x12, .clear 0, .read 0] 0 0x34 [.read 0, .read 0] rfl
    rw [exact_write_iff] at hwrite
    revert hwrite
    decide
  · intro h
    have hread := h [.write 0 0x00, .write 0 0x12, .clear 0, .read 0] 0 0x34 [.read 0] [] rfl
      (fun before value after hsplit => by
        have hlen := congrArg List.length hsplit
        cases before with
        | nil => simp at hsplit
        | cons first rest => simp at hlen) rfl
    revert hread
    decide

end Nxvm.Chips
