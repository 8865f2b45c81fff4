/-
The divisions of the arithmetic unit (`_a_div`, `_a_idiv`), at every width and for every profile.

The dividend is in the accumulator pair, which takes the quotient and the remainder, or stays what
it was where a divide error is raised. What the host itself must not compute, a division by zero
or one that overflows, is an outcome of its own.
-/
import Nxvm.Nec.Arithmetic
import Nxvm.Lib.TruncatedDivision

set_option autoImplicit false

namespace Nxvm.Nec

open Nxvm.Cpu Nxvm.Lib Nxvm.Lib.TruncatedDivision

/-! ## State -/

/-- The registers of the accumulator pair. -/
structure Accumulators where
  eax : U32
  edx : U32
  deriving DecidableEq

/-- The processor and the record of the instruction, as far as divisions use them. -/
structure DivState where
  cpu_profile : Profile
  instruction_in_progress : Bool
  preview_mode : Bool
  regs : Accumulators
  bit : U8
  opr1 : U64
  opr2 : U64
  result : U64
  udf : U32
  timing_gpr_writes : U8

/-- How a division ends: done, with a fault, or with something that C leaves undefined. -/
inductive DivOutcome where
  | done (s : DivState)
  | fault (raised : Fault) (s : DivState)
  | undefined

/-- The pair as a dividend of twice the width, and the pair with a quotient and a remainder. -/
structure DivForm (w : ℕ) where
  get : Accumulators → BitVec (w + w)
  put : BitVec w → BitVec w → Accumulators → Accumulators
  writes : U8
  get_put : ∀ quotient remainder regs, get (put quotient remainder regs) = remainder ++ quotient

/-- `AX`, with the quotient in `AL` and the remainder in `AH`. -/
def form8 : DivForm 8 where
  get regs := regs.eax.setWidth 16
  put quotient remainder regs :=
    { regs with eax := regs.eax.extractLsb' 16 16 ++ (remainder ++ quotient) }
  writes := 1
  get_put quotient remainder _ := setWidth_append _ (remainder ++ quotient)

/-- `DX:AX`. -/
def form16 : DivForm 16 where
  get regs := regs.edx.setWidth 16 ++ regs.eax.setWidth 16
  put quotient remainder regs :=
    { eax := regs.eax.extractLsb' 16 16 ++ quotient
      edx := regs.edx.extractLsb' 16 16 ++ remainder }
  writes := 1 ||| 4
  get_put _ _ _ := congrArg₂ _ (setWidth_append _ _) (setWidth_append _ _)

/-- `EDX:EAX`. -/
def form32 : DivForm 32 where
  get regs := regs.edx ++ regs.eax
  put quotient remainder _ := { eax := quotient, edx := remainder }
  writes := 1 ||| 4
  get_put _ _ _ := rfl

variable {w : ℕ}

/-- `_kma_gpr_destination`: the registers that are written, noted for the timing. -/
def kma_gpr_destination (writes : U8) (s : DivState) : DivState :=
  if s.cpu_profile = .p80486sx ∧ s.instruction_in_progress = true ∧ s.preview_mode = false then
    { s with timing_gpr_writes := s.timing_gpr_writes ||| writes }
  else s

/-- The flags that a division leaves undefined. -/
def VCPU_DIV_UNDEFINED : U32 :=
  VCPU_EFLAGS_SF ||| VCPU_EFLAGS_ZF ||| VCPU_EFLAGS_CF ||| VCPU_EFLAGS_AF ||| VCPU_EFLAGS_PF |||
    VCPU_EFLAGS_OF

/-- `_SetExcept_DE(0)`, and the return behind it. -/
def divide_error (s : DivState) : DivOutcome := .fault ⟨.de, 0⟩ s

/-- The operands of a division. -/
def div_operands (form : DivForm w) (csrc : U64) (s : DivState) : DivState :=
  { s with
    bit := BitVec.ofNat 8 w
    opr1 := (form.get s.regs).setWidth 64
    opr2 := (csrc.setWidth w).setWidth 64 }

/-- The quotient and the remainder are written, and the pair is the result. -/
def div_write (form : DivForm w) (quotient remainder : BitVec w) (s : DivState) : DivOutcome :=
  let s := kma_gpr_destination form.writes
    { s with regs := form.put quotient remainder s.regs }
  .done { s with
    result := (form.get s.regs).setWidth 64
    udf := s.udf ||| VCPU_DIV_UNDEFINED }

/-! ## The unit -/

/-- One width of `_a_div`. -/
def div_unsigned (form : DivForm w) (csrc : U64) (s : DivState) : DivOutcome :=
  let s := div_operands form csrc s
  let divisor := csrc.setWidth w
  if divisor = 0 then divide_error s
  else
    match host_udiv (form.get s.regs).toNat divisor.toNat with
    | none => .undefined
    | some (temp, rest) =>
      if temp > 2 ^ w - 1 then divide_error s
      else div_write form (BitVec.ofNat w temp) (BitVec.ofNat w rest) s

/-- `_a_div`. -/
def a_div (csrc : U64) (bit : ℕ) (s : DivState) : DivOutcome :=
  match bit with
  | 8 => div_unsigned form8 csrc s
  | 16 => div_unsigned form16 csrc s
  | 32 => div_unsigned form32 csrc s
  | _ => .fault ⟨.ce, BitVec.ofNat 32 bit⟩ s

/-- One width of `_a_idiv`: the two wider ones look for the least dividend by minus one first. -/
def div_signed (form : DivForm w) (guards : Bool) (least : ℤ) (csrc : U64) (s : DivState) :
    DivOutcome :=
  let s := div_operands form csrc s
  let dividend := (form.get s.regs).toInt
  let divisor := (csrc.setWidth w).toInt
  if csrc.setWidth w = 0 then divide_error s
  else if guards = true ∧ dividend = -2 ^ (w + w - 1) ∧ divisor = -1 then divide_error s
  else
    match host_sdiv dividend divisor with
    | none => .undefined
    | some (temp, rest) =>
      if temp > 2 ^ (w - 1) - 1 ∨ temp < least then divide_error s
      else div_write form (BitVec.ofInt w temp) (BitVec.ofInt w rest) s

/-- `_a_idiv`. The quotients of the V30 leave out the least number. -/
def a_idiv (csrc : U64) (bit : ℕ) (s : DivState) : DivOutcome :=
  match bit with
  | 8 => div_signed form8 false (if s.cpu_profile = .v30 then -0x7f else -0x80) csrc s
  | 16 => div_signed form16 true (if s.cpu_profile = .v30 then -0x7fff else -0x8000) csrc s
  | 32 => div_signed form32 true (-0x80000000) csrc s
  | _ => .fault ⟨.ce, BitVec.ofNat 32 bit⟩ s

/-! ## What a division is -/

/-- The quotient that the pair holds. -/
def DivForm.quotient (form : DivForm w) (regs : Accumulators) : BitVec w :=
  (form.get regs).setWidth w

/-- The remainder that the pair holds. -/
def DivForm.remainder (form : DivForm w) (regs : Accumulators) : BitVec w :=
  (form.get regs).extractLsb' w w

/-- A divide error is raised exactly where `errs` says, and leaves the pair unchanged; otherwise the
pair holds a quotient and a remainder as `divides` says. The host computes nothing that C leaves
undefined. -/
structure Divided (form : DivForm w) (s : DivState) (errs : Prop)
    (divides : BitVec w → BitVec w → Prop) (outcome : DivOutcome) : Prop where
  defined : outcome ≠ .undefined
  raises : (∃ s', outcome = .fault ⟨.de, 0⟩ s') ↔ errs
  unchanged : ∀ raised s', outcome = .fault raised s' → raised = ⟨.de, 0⟩ ∧ s'.regs = s.regs
  result : ∀ s', outcome = .done s' →
    divides (form.quotient s'.regs) (form.remainder s'.regs)

variable {form : DivForm w} {s : DivState} {errs : Prop} {divides : BitVec w → BitVec w → Prop}

theorem divided_error (csrc : U64) (herrs : errs) :
    Divided form s errs divides (divide_error (div_operands form csrc s)) where
  defined := nofun
  raises := ⟨fun _ => herrs, fun _ => ⟨_, rfl⟩⟩
  unchanged := by
    intro raised s' h
    cases h
    exact ⟨rfl, rfl⟩
  result := nofun

theorem div_write_regs (quotient remainder : BitVec w) :
    ∃ s', div_write form quotient remainder s = .done s' ∧
      s'.regs = form.put quotient remainder s.regs := by
  refine ⟨_, rfl, ?_⟩
  dsimp only
  unfold kma_gpr_destination
  split <;> rfl

theorem divided_write (csrc : U64) {quotient remainder : BitVec w} (herrs : ¬ errs)
    (h : divides quotient remainder) :
    Divided form s errs divides (div_write form quotient remainder (div_operands form csrc s)) := by
  obtain ⟨s', hdone, hregs⟩ :=
    @div_write_regs _ form (div_operands form csrc s) quotient remainder
  rw [hdone]
  refine ⟨nofun, ⟨nofun, fun h => absurd h herrs⟩, nofun, ?_⟩
  intro s'' hsame
  cases hsame
  rw [DivForm.quotient, DivForm.remainder, hregs, form.get_put, setWidth_append, extract_append]
  exact h

theorem div_unsigned_divided (form : DivForm w) (csrc : U64) (s : DivState) :
    Divided form s
      ((csrc.setWidth w).toNat = 0 ∨
        2 ^ w ≤ (form.get s.regs).toNat / (csrc.setWidth w).toNat)
      (fun quotient remainder =>
        quotient.toNat * (csrc.setWidth w).toNat + remainder.toNat = (form.get s.regs).toNat ∧
          remainder.toNat < (csrc.setWidth w).toNat)
      (div_unsigned form csrc s) := by
  have hregs : (div_operands form csrc s).regs = s.regs := rfl
  rw [div_unsigned]
  rw [hregs]
  generalize hdividend : (form.get s.regs).toNat = dividend
  by_cases hzero : csrc.setWidth w = 0
  · rw [if_pos hzero]
    exact divided_error csrc (.inl (by rw [hzero]; simp))
  have hne : (csrc.setWidth w).toNat ≠ 0 := fun h => hzero (BitVec.eq_of_toNat_eq (by simpa using h))
  have hlt := (csrc.setWidth w).isLt
  rw [if_neg hzero]
  generalize (csrc.setWidth w).toNat = divisor at hne hlt ⊢
  rw [host_udiv, if_neg hne]
  dsimp only
  by_cases hfits : dividend / divisor > 2 ^ w - 1
  · rw [if_pos hfits]
    exact divided_error csrc (.inr (by omega))
  · rw [if_neg hfits]
    have hrest := Nat.mod_lt dividend (Nat.pos_of_ne_zero hne)
    have hpow := Nat.one_le_two_pow (n := w)
    apply divided_write csrc
    · rintro (h | h)
      · exact hne h
      · omega
    · rw [BitVec.toNat_ofNat, BitVec.toNat_ofNat, Nat.mod_eq_of_lt (by omega),
        Nat.mod_eq_of_lt (by omega : dividend % divisor < 2 ^ w)]
      exact ⟨Nat.div_add_mod' dividend divisor, hrest⟩

theorem div_signed_divided (form : DivForm w) (hw : 0 < w) {guards : Bool}
    (hhost : w + w ≤ 64 ∧ (guards = true ∨ w + w < 64)) {least : ℤ}
    (hleast : -2 ^ (w - 1) ≤ least) (csrc : U64) (s : DivState) :
    Divided form s
      ((csrc.setWidth w).toInt = 0 ∨
        (form.get s.regs).toInt.tdiv (csrc.setWidth w).toInt > 2 ^ (w - 1) - 1 ∨
        (form.get s.regs).toInt.tdiv (csrc.setWidth w).toInt < least)
      (fun quotient remainder =>
        Truncates (form.get s.regs).toInt (csrc.setWidth w).toInt quotient.toInt remainder.toInt)
      (div_signed form guards least csrc s) := by
  have hregs : (div_operands form csrc s).regs = s.regs := rfl
  rw [div_signed]
  rw [hregs]
  by_cases hzero : csrc.setWidth w = 0
  · rw [if_pos hzero]
    exact divided_error csrc (.inl (by rw [hzero]; simp))
  have hne : (csrc.setWidth w).toInt ≠ 0 := fun h => hzero (BitVec.eq_of_toInt_eq (by simpa using h))
  have hge := BitVec.le_toInt (form.get s.regs)
  rw [if_neg hzero]
  by_cases hguard : guards = true ∧ (form.get s.regs).toInt = -2 ^ (w + w - 1) ∧
      (csrc.setWidth w).toInt = -1
  · rw [if_pos hguard]
    refine divided_error csrc (.inr (.inl ?_))
    rw [hguard.2.1, hguard.2.2, tdiv_neg_one, neg_neg]
    have hpow : (2 : ℤ) ^ (w - 1) ≤ 2 ^ (w + w - 1) := by
      exact_mod_cast Nat.pow_le_pow_right (by decide : 0 < 2) (by omega : w - 1 ≤ w + w - 1)
    omega
  rw [if_neg hguard]
  -- The least dividend of the host by minus one has been caught, or is out of reach.
  have hsafe : ¬ ((csrc.setWidth w).toInt = 0 ∨
      (form.get s.regs).toInt = -2 ^ 63 ∧ (csrc.setWidth w).toInt = -1) := by
    rintro (h | ⟨hleast_dividend, hminus⟩)
    · exact hne h
    · have hpow : w + w - 1 ≤ 62 → (2 : ℤ) ^ (w + w - 1) ≤ 2 ^ 62 := by
        intro h
        exact_mod_cast Nat.pow_le_pow_right (by decide : 0 < 2) h
      by_cases hwide : w + w = 64
      · rcases hhost.2 with hguards | hlt
        · have hexp : w + w - 1 = 63 := by omega
          rw [hexp] at hguard
          exact hguard ⟨hguards, hleast_dividend, hminus⟩
        · omega
      · have hsmall := hpow (by omega)
        omega
  rw [host_sdiv, if_neg hsafe]
  have htruncates := truncates_tdiv (form.get s.regs).toInt hne
  have hrest : ((form.get s.regs).toInt.tmod (csrc.setWidth w).toInt).natAbs <
      (csrc.setWidth w).toInt.natAbs := htruncates.small
  by_cases hfits : (form.get s.regs).toInt.tdiv (csrc.setWidth w).toInt > 2 ^ (w - 1) - 1 ∨
      (form.get s.regs).toInt.tdiv (csrc.setWidth w).toInt < least
  · dsimp only
    rw [if_pos hfits]
    exact divided_error csrc (.inr hfits)
  · dsimp only
    rw [if_neg hfits]
    apply divided_write csrc
    · rintro (h | h)
      · exact hne h
      · exact hfits h
    · rw [toInt_ofInt_fits hw (by omega) (by omega), toInt_ofInt_small hw hrest]
      exact htruncates

/-! ## All widths -/

/-- A quotient that IDIV does not record: it does not fit, or, on the V30 up to 16 bits, is the
most negative one. -/
def IdivOverflows (profile : Profile) (w : ℕ) (quotient : ℤ) : Prop :=
  ¬ (-2 ^ (w - 1) ≤ quotient ∧ quotient < 2 ^ (w - 1)) ∨
    profile = .v30 ∧ w ≤ 16 ∧ quotient = -2 ^ (w - 1)

/-- DIV at a width. -/
def DivCorrect (form : DivForm w) (csrc : U64) (s : DivState) : DivOutcome → Prop :=
  Divided form s
    ((csrc.setWidth w).toNat = 0 ∨ 2 ^ w ≤ (form.get s.regs).toNat / (csrc.setWidth w).toNat)
    fun quotient remainder =>
      quotient.toNat * (csrc.setWidth w).toNat + remainder.toNat = (form.get s.regs).toNat ∧
        remainder.toNat < (csrc.setWidth w).toNat

/-- IDIV at a width. -/
def IdivCorrect (form : DivForm w) (csrc : U64) (s : DivState) : DivOutcome → Prop :=
  Divided form s
    ((csrc.setWidth w).toInt = 0 ∨ IdivOverflows s.cpu_profile w
      ((form.get s.regs).toInt.tdiv (csrc.setWidth w).toInt))
    fun quotient remainder =>
      Truncates (form.get s.regs).toInt (csrc.setWidth w).toInt quotient.toInt remainder.toInt

theorem Divided.congr_errs {errs' : Prop} {outcome : DivOutcome} (h : errs ↔ errs')
    (hdivided : Divided form s errs divides outcome) : Divided form s errs' divides outcome where
  defined := hdivided.defined
  raises := hdivided.raises.trans h
  unchanged := hdivided.unchanged
  result := hdivided.result

/-- The limits of a width are the quotients that overflow. -/
theorem idiv_limits {profile : Profile} {w : ℕ} {least : ℤ}
    (hleast : least = if profile = .v30 ∧ w ≤ 16 then -2 ^ (w - 1) + 1 else -2 ^ (w - 1))
    (divisor quotient : ℤ) :
    (divisor = 0 ∨ quotient > 2 ^ (w - 1) - 1 ∨ quotient < least) ↔
      (divisor = 0 ∨ IdivOverflows profile w quotient) := by
  rw [hleast, IdivOverflows]
  by_cases hv30 : profile = .v30 ∧ w ≤ 16
  · rw [if_pos hv30]
    simp only [hv30, true_and]
    omega
  · rw [if_neg hv30]
    have hnone : ¬ (profile = .v30 ∧ w ≤ 16 ∧ quotient = -2 ^ (w - 1)) :=
      fun h => hv30 ⟨h.1, h.2.1⟩
    simp only [hnone, or_false]
    omega

/-- DIV and IDIV raise a divide error exactly where the divisor is zero or the quotient cannot be
recorded, and divide otherwise, at every width, for every profile. -/
theorem a_div_idiv_correct (csrc : U64) (s : DivState) :
    (DivCorrect form8 csrc s (a_div csrc 8 s) ∧ DivCorrect form16 csrc s (a_div csrc 16 s) ∧
      DivCorrect form32 csrc s (a_div csrc 32 s)) ∧
    (IdivCorrect form8 csrc s (a_idiv csrc 8 s) ∧ IdivCorrect form16 csrc s (a_idiv csrc 16 s) ∧
      IdivCorrect form32 csrc s (a_idiv csrc 32 s)) := by
  refine ⟨⟨div_unsigned_divided form8 csrc s, div_unsigned_divided form16 csrc s,
    div_unsigned_divided form32 csrc s⟩, ?_, ?_, ?_⟩
  · have hleast : (if s.cpu_profile = .v30 then -0x7f else -0x80 : ℤ) =
        if s.cpu_profile = .v30 ∧ 8 ≤ 16 then -2 ^ (8 - 1) + 1 else -2 ^ (8 - 1) := by
      simp only [Nat.reduceLeDiff, and_true]
      rfl
    refine (div_signed_divided form8 (by decide) ⟨by decide, .inr (by decide)⟩ ?_ csrc s).congr_errs
      (idiv_limits hleast _ _)
    split <;> decide
  · have hleast : (if s.cpu_profile = .v30 then -0x7fff else -0x8000 : ℤ) =
        if s.cpu_profile = .v30 ∧ 16 ≤ 16 then -2 ^ (16 - 1) + 1 else -2 ^ (16 - 1) := by
      simp only [le_refl, and_true]
      rfl
    refine (div_signed_divided form16 (by decide) ⟨by decide, .inl rfl⟩ ?_ csrc s).congr_errs
      (idiv_limits hleast _ _)
    split <;> decide
  · have hleast : (-0x80000000 : ℤ) =
        if s.cpu_profile = .v30 ∧ 32 ≤ 16 then -2 ^ (32 - 1) + 1 else -2 ^ (32 - 1) := by
      simp
    exact (div_signed_divided form32 (by decide) ⟨by decide, .inl rfl⟩ (by decide)
      csrc s).congr_errs (idiv_limits hleast _ _)

end Nxvm.Nec
