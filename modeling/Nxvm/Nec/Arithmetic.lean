/-
The arithmetic unit of the processor as far as 8080 emulation uses it (`_a_add` to
`_a_rcr` with the flag helpers `_kaf_*`), and what its flags mean to an 8080.

The unit is shared with native mode: it works at 8, 16 and 32 bits, and its auxiliary
carry is the x86 one, a borrow after a subtraction. A routine answers its result and
the flags register it leaves. The scratch the source keeps in the instruction record
is `Arith`; which flags are undefined afterwards is left out, since nothing here
reads it.
-/
import Nxvm.Cpu.Types
import Nxvm.Lib.Intel8080

set_option autoImplicit false

namespace Nxvm.Nec

open Nxvm.Cpu Nxvm.Lib

/-! ## Flags -/

def VCPU_EFLAGS_CF : U32 := 0x00000001
def VCPU_EFLAGS_PF : U32 := 0x00000004
def VCPU_EFLAGS_AF : U32 := 0x00000010
def VCPU_EFLAGS_ZF : U32 := 0x00000040
def VCPU_EFLAGS_SF : U32 := 0x00000080
def VCPU_EFLAGS_OF : U32 := 0x00000800

/-- `X86_CPU_NEC_PSW_MD`: set in native mode, clear in 8080 emulation. -/
def X86_CPU_NEC_PSW_MD : U32 := 0x00008000

/-- `X86_CPU_BIT_MAKE`. -/
def bit_make (destination source : U32) (enabled : Bool) : U32 :=
  if enabled then destination ||| source else destination &&& ~~~source

/-- The operation in progress (`instruction_state.data.type`), without the width the
source has in its name. -/
inductive ArithType where
  | adc
  | add
  | sbb
  | sub
  | cmp
  | logic
  deriving DecidableEq, Repr

/-- The operands and the result, at the width of the operation. -/
structure Arith (w : ℕ) where
  type : ArithType
  opr1 : BitVec w
  opr2 : BitVec w
  result : BitVec w

variable {w : ℕ}

/-- `_kaf_calc_CF`. The masks of AND, OR and XOR do not name the carry. -/
def kaf_calc_CF (o : Arith w) (eflags : U32) : U32 :=
  match o.type with
  | .adc =>
    bit_make eflags VCPU_EFLAGS_CF
      (if bit_is_set eflags VCPU_EFLAGS_CF && o.opr2 == BitVec.allOnes w then true
        else o.result < o.opr1 || o.result < o.opr2)
  | .add => bit_make eflags VCPU_EFLAGS_CF (o.result < o.opr1 || o.result < o.opr2)
  | .sbb =>
    bit_make eflags VCPU_EFLAGS_CF
      (o.opr1 < o.result || bit_is_set eflags VCPU_EFLAGS_CF && o.opr2 == BitVec.allOnes w)
  | .sub | .cmp => bit_make eflags VCPU_EFLAGS_CF (o.opr1 < o.opr2)
  | .logic => eflags

/-- `_kaf_calc_OF`. -/
def kaf_calc_OF (o : Arith w) (eflags : U32) : U32 :=
  match o.type with
  | .adc | .add =>
    bit_make eflags VCPU_EFLAGS_OF
      (o.opr1.msb == o.opr2.msb && o.opr1.msb != o.result.msb)
  | .sbb | .sub | .cmp =>
    bit_make eflags VCPU_EFLAGS_OF
      (o.opr1.msb != o.opr2.msb && o.opr2.msb == o.result.msb)
  | .logic => eflags

/-- `_kaf_calc_AF`. -/
def kaf_calc_AF (o : Arith w) (eflags : U32) : U32 :=
  bit_make eflags VCPU_EFLAGS_AF ((o.opr1 ^^^ o.opr2 ^^^ o.result).getLsbD 4)

/-- The folding of `_kaf_calc_PF`: the ones of a byte are even in number. -/
def fold_parity (res8 : U8) : Bool :=
  let res8 := res8 ^^^ (res8 >>> 4)
  let res8 := res8 ^^^ (res8 >>> 2)
  let res8 := res8 ^^^ (res8 >>> 1)
  res8 &&& 1 == 0

/-- `_kaf_calc_PF`. -/
def kaf_calc_PF (o : Arith w) (eflags : U32) : U32 :=
  bit_make eflags VCPU_EFLAGS_PF (fold_parity (o.result.setWidth 8))

/-- `_kaf_calc_ZF`. -/
def kaf_calc_ZF (o : Arith w) (eflags : U32) : U32 :=
  bit_make eflags VCPU_EFLAGS_ZF (o.result == 0)

/-- `_kaf_calc_SF`. -/
def kaf_calc_SF (o : Arith w) (eflags : U32) : U32 :=
  bit_make eflags VCPU_EFLAGS_SF o.result.msb

/-- `_kaf_set_flags`. -/
def kaf_set_flags (o : Arith w) (flags eflags : U32) : U32 :=
  let eflags := if bit_is_set flags VCPU_EFLAGS_CF then kaf_calc_CF o eflags else eflags
  let eflags := if bit_is_set flags VCPU_EFLAGS_PF then kaf_calc_PF o eflags else eflags
  let eflags := if bit_is_set flags VCPU_EFLAGS_AF then kaf_calc_AF o eflags else eflags
  let eflags := if bit_is_set flags VCPU_EFLAGS_ZF then kaf_calc_ZF o eflags else eflags
  let eflags := if bit_is_set flags VCPU_EFLAGS_SF then kaf_calc_SF o eflags else eflags
  if bit_is_set flags VCPU_EFLAGS_OF then kaf_calc_OF o eflags else eflags

/-- `ADD_FLAG`, and `ADC_FLAG`, `SUB_FLAG`, `SBB_FLAG` and `CMP_FLAG`. -/
def ADD_FLAG : U32 :=
  VCPU_EFLAGS_OF ||| VCPU_EFLAGS_SF ||| VCPU_EFLAGS_ZF ||| VCPU_EFLAGS_AF ||| VCPU_EFLAGS_CF |||
    VCPU_EFLAGS_PF

/-- `OR_FLAG`, and `AND_FLAG` and `XOR_FLAG`. -/
def OR_FLAG : U32 := VCPU_EFLAGS_SF ||| VCPU_EFLAGS_ZF ||| VCPU_EFLAGS_PF

/-- `INC_FLAG` and `DEC_FLAG`. -/
def INC_FLAG : U32 :=
  VCPU_EFLAGS_OF ||| VCPU_EFLAGS_SF ||| VCPU_EFLAGS_ZF ||| VCPU_EFLAGS_AF ||| VCPU_EFLAGS_PF

/-! ## Operations -/

/-- `_kac_arith1` and `_kac_arith2`: the result, and the flags of it. -/
def kac_arith (funflag : U32) (o : Arith w) (eflags : U32) : BitVec w × U32 :=
  (o.result, kaf_set_flags o funflag eflags)

/-- `_GetEFLAGS_CF` as a number. -/
def carry_of (w : ℕ) (eflags : U32) : BitVec w :=
  if bit_is_set eflags VCPU_EFLAGS_CF then 1 else 0

def a_add (cdest csrc : BitVec w) (eflags : U32) : BitVec w × U32 :=
  kac_arith ADD_FLAG ⟨.add, cdest, csrc, cdest + csrc⟩ eflags

def a_adc (cdest csrc : BitVec w) (eflags : U32) : BitVec w × U32 :=
  kac_arith ADD_FLAG ⟨.adc, cdest, csrc, cdest + csrc + carry_of w eflags⟩ eflags

def a_sub (cdest csrc : BitVec w) (eflags : U32) : BitVec w × U32 :=
  kac_arith ADD_FLAG ⟨.sub, cdest, csrc, cdest - csrc⟩ eflags

def a_sbb (cdest csrc : BitVec w) (eflags : U32) : BitVec w × U32 :=
  kac_arith ADD_FLAG ⟨.sbb, cdest, csrc, cdest - (csrc + carry_of w eflags)⟩ eflags

def a_cmp (cdest csrc : BitVec w) (eflags : U32) : BitVec w × U32 :=
  kac_arith ADD_FLAG ⟨.cmp, cdest, csrc, cdest - csrc⟩ eflags

/-- What `_a_and`, `_a_or` and `_a_xor` share: overflow and carry are cleared. -/
def a_logic (cdest csrc result : BitVec w) (eflags : U32) : BitVec w × U32 :=
  let r := kac_arith OR_FLAG ⟨.logic, cdest, csrc, result⟩ eflags
  (r.1, bit_make (bit_make r.2 VCPU_EFLAGS_OF false) VCPU_EFLAGS_CF false)

def a_and (cdest csrc : BitVec w) (eflags : U32) : BitVec w × U32 :=
  a_logic cdest csrc (cdest &&& csrc) eflags

def a_xor (cdest csrc : BitVec w) (eflags : U32) : BitVec w × U32 :=
  a_logic cdest csrc (cdest ^^^ csrc) eflags

def a_or (cdest csrc : BitVec w) (eflags : U32) : BitVec w × U32 :=
  a_logic cdest csrc (cdest ||| csrc) eflags

def a_inc (cdest : BitVec w) (eflags : U32) : BitVec w × U32 :=
  kac_arith INC_FLAG ⟨.add, cdest, 1, cdest + 1⟩ eflags

def a_dec (cdest : BitVec w) (eflags : U32) : BitVec w × U32 :=
  kac_arith INC_FLAG ⟨.sub, cdest, 1, cdest - 1⟩ eflags

/-- `_a_rotate`; on the V30 the count is not masked. -/
def a_rotate (cdest : BitVec w) (count : ℕ) (right : Bool) (eflags : U32) : BitVec w × U32 :=
  if count = 0 then (cdest, eflags)
  else
    let rotation := count &&& (w - 1)
    let result :=
      if rotation = 0 then cdest
      else if right then (cdest >>> rotation) ||| (cdest <<< (w - rotation))
      else (cdest <<< rotation) ||| (cdest >>> (w - rotation))
    let carry := if right then result.getLsbD (w - 1) else result.getLsbD 0
    let eflags := bit_make eflags VCPU_EFLAGS_CF carry
    let high := result.getLsbD (w - 1)
    let other := if right then result.getLsbD (w - 2) else carry
    (result, if count = 1 then bit_make eflags VCPU_EFLAGS_OF (high ^^ other) else eflags)

def a_rol (cdest : BitVec w) (count : ℕ) : U32 → BitVec w × U32 := a_rotate cdest count false

def a_ror (cdest : BitVec w) (count : ℕ) : U32 → BitVec w × U32 := a_rotate cdest count true

/-- The rotation of `_a_rotate_carry` by one. -/
def a_rotate_carry_once (value : BitVec w) (right : Bool) (eflags : U32) : BitVec w × U32 :=
  let carry := bit_is_set eflags VCPU_EFLAGS_CF
  if right then
    let overflow := value.getLsbD (w - 1) != carry
    let result := (value >>> 1) ||| ((BitVec.ofBool carry).setWidth w <<< (w - 1))
    (result, bit_make (bit_make eflags VCPU_EFLAGS_CF (value.getLsbD 0)) VCPU_EFLAGS_OF overflow)
  else
    let next_carry := value.getLsbD (w - 1)
    let result := (value <<< 1) ||| (BitVec.ofBool carry).setWidth w
    let overflow := result.getLsbD (w - 1) != next_carry
    (result, bit_make (bit_make eflags VCPU_EFLAGS_CF next_carry) VCPU_EFLAGS_OF overflow)

/-- The rotation of `_a_rotate_carry` by more: operand and carry are a ring. -/
def a_rotate_carry_ring (value : BitVec w) (count : ℕ) (right : Bool) (eflags : U32) :
    BitVec w × U32 :=
  let ring : BitVec (1 + w) := BitVec.ofBool (bit_is_set eflags VCPU_EFLAGS_CF) ++ value
  let rotation := count % (w + 1)
  if rotation = 0 then (value, eflags)
  else
    let ring :=
      if right then (ring >>> rotation) ||| (ring <<< (w + 1 - rotation))
      else (ring <<< rotation) ||| (ring >>> (w + 1 - rotation))
    (ring.setWidth w, bit_make eflags VCPU_EFLAGS_CF (ring.getLsbD w))

/-- `_a_rotate_carry`, with the count as the V30 takes it. -/
def a_rotate_carry (value : BitVec w) (count : ℕ) (right : Bool) (eflags : U32) :
    BitVec w × U32 :=
  if count = 0 then (value, eflags)
  else if count = 1 then a_rotate_carry_once value right eflags
  else a_rotate_carry_ring value count right eflags

def a_rcl (cdest : BitVec w) (count : ℕ) : U32 → BitVec w × U32 := a_rotate_carry cdest count false

def a_rcr (cdest : BitVec w) (count : ℕ) : U32 → BitVec w × U32 := a_rotate_carry cdest count true

/-! ## What the flags mean -/

/-- The condition flags of an 8080 in the flags register. -/
def flags_of (eflags : U32) : Intel8080.Flags :=
  ⟨eflags.getLsbD 7, eflags.getLsbD 6, eflags.getLsbD 4, eflags.getLsbD 2, eflags.getLsbD 0⟩

theorem bit_make_getLsbD (d s : U32) (e : Bool) (i : ℕ) :
    (bit_make d s e).getLsbD i = if s.getLsbD i then e else d.getLsbD i := by
  by_cases hi : i < 32
  · cases e with
    | true => simp [bit_make, Bool.or_comm]
    | false => simp [bit_make, hi, Bool.and_comm]
  · rw [BitVec.getLsbD_of_ge _ _ (by omega), BitVec.getLsbD_of_ge s _ (by omega),
      BitVec.getLsbD_of_ge d _ (by omega)]
    simp

section Bits

variable (e : U32) (b : Bool)

/-! Each flag is one field, and overflow is none. -/

@[simp] theorem flags_of_make_CF :
    flags_of (bit_make e VCPU_EFLAGS_CF b) = { flags_of e with cy := b } := by
  simp only [flags_of, bit_make_getLsbD]
  rfl

@[simp] theorem flags_of_make_PF :
    flags_of (bit_make e VCPU_EFLAGS_PF b) = { flags_of e with p := b } := by
  simp only [flags_of, bit_make_getLsbD]
  rfl

@[simp] theorem flags_of_make_AF :
    flags_of (bit_make e VCPU_EFLAGS_AF b) = { flags_of e with ac := b } := by
  simp only [flags_of, bit_make_getLsbD]
  rfl

@[simp] theorem flags_of_make_ZF :
    flags_of (bit_make e VCPU_EFLAGS_ZF b) = { flags_of e with z := b } := by
  simp only [flags_of, bit_make_getLsbD]
  rfl

@[simp] theorem flags_of_make_SF :
    flags_of (bit_make e VCPU_EFLAGS_SF b) = { flags_of e with s := b } := by
  simp only [flags_of, bit_make_getLsbD]
  rfl

@[simp] theorem flags_of_make_OF :
    flags_of (bit_make e VCPU_EFLAGS_OF b) = flags_of e := by
  simp only [flags_of, bit_make_getLsbD]
  rfl

end Bits

/-- A test of a single bit. -/
theorem bit_is_set_twoPow (e : U32) (i : ℕ) :
    bit_is_set e (BitVec.twoPow 32 i) = e.getLsbD i := by
  rw [bit_is_set, BitVec.and_twoPow]
  by_cases h : e.getLsbD i = true
  · have hi : i < 32 := BitVec.lt_of_getLsbD h
    have hne : BitVec.twoPow 32 i ≠ 0#32 := by
      intro heq
      have hbit := congrArg (fun x => x.getLsbD i) heq
      simp [hi] at hbit
    simp [h, hne]
  · simp [h]

theorem carry_set (e : U32) : bit_is_set e VCPU_EFLAGS_CF = e.getLsbD 0 :=
  bit_is_set_twoPow e 0

theorem emulating_set (e : U32) : bit_is_set e X86_CPU_NEC_PSW_MD = e.getLsbD 15 :=
  bit_is_set_twoPow e 15

/-- The folding counts ones. -/
theorem fold_parity_eq (v : U8) : fold_parity v = Intel8080.even_parity v := by
  revert v
  decide +kernel

theorem kaf_calc_OF_flags (o : Arith w) (e : U32) : flags_of (kaf_calc_OF o e) = flags_of e := by
  unfold kaf_calc_OF
  cases o.type with
  | adc => exact flags_of_make_OF ..
  | add => exact flags_of_make_OF ..
  | sbb => exact flags_of_make_OF ..
  | sub => exact flags_of_make_OF ..
  | cmp => exact flags_of_make_OF ..
  | logic => rfl

/-- The carry `_kaf_calc_CF` computes. -/
def carry_out (o : Arith w) (e : U32) : Bool := (flags_of (kaf_calc_CF o e)).cy

theorem kaf_calc_CF_flags (o : Arith w) (e : U32) :
    flags_of (kaf_calc_CF o e) = { flags_of e with cy := carry_out o e } := by
  unfold carry_out kaf_calc_CF
  cases o.type with
  | adc => rw [flags_of_make_CF]
  | add => rw [flags_of_make_CF]
  | sbb => rw [flags_of_make_CF]
  | sub => rw [flags_of_make_CF]
  | cmp => rw [flags_of_make_CF]
  | logic => rfl

/-- Which flags a mask names. -/
structure Names (flags : U32) (s z ac p cy : Bool) : Prop where
  s : bit_is_set flags VCPU_EFLAGS_SF = s
  z : bit_is_set flags VCPU_EFLAGS_ZF = z
  ac : bit_is_set flags VCPU_EFLAGS_AF = ac
  p : bit_is_set flags VCPU_EFLAGS_PF = p
  cy : bit_is_set flags VCPU_EFLAGS_CF = cy

theorem add_flag_names : Names ADD_FLAG true true true true true := ⟨rfl, rfl, rfl, rfl, rfl⟩

theorem inc_flag_names : Names INC_FLAG true true true true false := ⟨rfl, rfl, rfl, rfl, rfl⟩

theorem or_flag_names : Names OR_FLAG true true false true false := ⟨rfl, rfl, rfl, rfl, rfl⟩

/-- `_kaf_set_flags` computes sign, zero and parity under every mask used here; the other
two flags it leaves alone when the mask does not name them. -/
theorem kaf_set_flags_named {o : Arith w} {flags e : U32} {ac cy : Bool}
    (h : Names flags true true ac true cy) :
    flags_of (kaf_set_flags o flags e) =
      { s := o.result.msb
        z := o.result == 0
        ac := if ac then (o.opr1 ^^^ o.opr2 ^^^ o.result).getLsbD 4 else (flags_of e).ac
        p := Intel8080.even_parity (o.result.setWidth 8)
        cy := if cy then carry_out o e else (flags_of e).cy } := by
  obtain ⟨hs, hz, hac, hp, hcy⟩ := h
  have hof : flags_of (kaf_set_flags o flags e) =
      flags_of (kaf_calc_SF o (kaf_calc_ZF o (if ac then
        kaf_calc_AF o (kaf_calc_PF o (if cy then kaf_calc_CF o e else e))
        else kaf_calc_PF o (if cy then kaf_calc_CF o e else e)))) := by
    simp only [kaf_set_flags, hs, hz, hac, hp, hcy, if_true]
    by_cases hov : bit_is_set flags VCPU_EFLAGS_OF = true
    · rw [if_pos hov, kaf_calc_OF_flags]
    · rw [if_neg hov]
  rw [hof, kaf_calc_SF, flags_of_make_SF, kaf_calc_ZF, flags_of_make_ZF]
  cases ac with
  | true =>
    cases cy with
    | true =>
      simp only [if_true, kaf_calc_AF, kaf_calc_PF, flags_of_make_AF, flags_of_make_PF,
        kaf_calc_CF_flags, fold_parity_eq]
    | false =>
      simp [kaf_calc_AF, kaf_calc_PF, fold_parity_eq]
  | false =>
    cases cy with
    | true => simp [kaf_calc_PF, kaf_calc_CF_flags, fold_parity_eq]
    | false => simp [kaf_calc_PF, fold_parity_eq]

end Nxvm.Nec
