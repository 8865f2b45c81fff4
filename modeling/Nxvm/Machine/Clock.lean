/-
The clock domains of a machine (`clock.c`).

A domain converts the machine's ticks into those of a device by a ratio of two words, and
carries the remainder as its phase. The other way round, it tells how many ticks of the
machine a device has to wait. The conversions are those of a rate, in words of 64 bits.
-/
import Nxvm.Lib.Rate
import Nxvm.Machine.Status
import Mathlib.Data.BitVec

set_option autoImplicit false

namespace Nxvm.Machine

open Nxvm.Lib

/-! ## The domain -/

/-- `x86_core_machine_clock_ratio`. -/
structure ClockRatio where
  numerator : BitVec 32
  denominator : BitVec 32
  reset_phase : BitVec 32
  deriving DecidableEq

/-- `x86_core_machine_clock_identity`. -/
def clock_identity : ClockRatio := { numerator := 1, denominator := 1, reset_phase := 0 }

/-- `x86_core_machine_clock_ratio_is_valid`. -/
def clock_ratio_is_valid (ratio : ClockRatio) : Bool :=
  if ratio.numerator = 0 ∧ ratio.denominator = 0 ∧ ratio.reset_phase = 0 then true
  else ratio.numerator ≠ 0 && ratio.denominator ≠ 0 && ratio.reset_phase < ratio.denominator

/-- `x86_core_machine_clock_domain`. -/
structure ClockDomain where
  numerator : BitVec 32
  denominator : BitVec 32
  reset_phase : BitVec 32
  phase : BitVec 32
  delivered_ticks : BitVec 64
  deriving DecidableEq

/-- `x86_core_machine_clock_domain_reset`. -/
def clock_domain_reset (domain : ClockDomain) : ClockDomain :=
  { domain with phase := domain.reset_phase, delivered_ticks := 0 }

/-- `x86_core_machine_clock_domain_initialize`. -/
def clock_domain_initialize (ratio : ClockRatio) : Except Status ClockDomain :=
  if !clock_ratio_is_valid ratio then .error .invalid_argument
  else
    let resolved := if ratio.numerator = 0 then clock_identity else ratio
    .ok (clock_domain_reset
      { numerator := resolved.numerator
        denominator := resolved.denominator
        reset_phase := resolved.reset_phase
        phase := 0
        delivered_ticks := 0 })

/-- What the divisions of `x86_core_machine_clock_domain_advance` convert: the ticks, and the
phase they leave. -/
def clock_domain_convert (domain : ClockDomain) (elapsed_ticks : BitVec 64) :
    BitVec 64 × BitVec 32 :=
  let numerator := domain.numerator.setWidth 64
  let denominator := domain.denominator.setWidth 64
  let ticks := elapsed_ticks / denominator * numerator
  let remainder := elapsed_ticks % denominator * numerator + domain.phase.setWidth 64
  (ticks + remainder / denominator, (remainder % denominator).setWidth 32)

/-- `x86_core_machine_clock_domain_advance`. -/
def clock_domain_advance (domain : ClockDomain) (elapsed_ticks : BitVec 64) :
    BitVec 64 × ClockDomain :=
  if domain.denominator = 0 then (0, domain)
  else if domain.numerator = domain.denominator then
    -- An identity, with a phase that stays.
    (elapsed_ticks, { domain with delivered_ticks := domain.delivered_ticks + elapsed_ticks })
  else
    let (converted, phase) := clock_domain_convert domain elapsed_ticks
    (converted,
      { domain with
        phase := phase
        delivered_ticks := domain.delivered_ticks + converted })

/-- `LIB_UINT32_MAX`. -/
def lib_uint32_max : BitVec 64 := 0xffffffff

/-- `LIB_UINT64_MAX`. -/
def lib_uint64_max : BitVec 64 := 0xffffffffffffffff

/-- The source ticks required, in words of 32 bits. -/
def source_ticks_narrow (required : BitVec 64) (numerator : BitVec 32) : BitVec 64 :=
  let narrow := required.setWidth 32
  let quotient := narrow / numerator
  let remainder := narrow % numerator
  quotient.setWidth 64 + (if remainder ≠ 0 then 1 else 0)

/-- The source ticks required, in words of 64 bits. -/
def source_ticks_wide (required : BitVec 64) (numerator : BitVec 32) : BitVec 64 :=
  required / numerator.setWidth 64 +
    (if required % numerator.setWidth 64 ≠ 0 then 1 else 0)

/-- `x86_core_machine_clock_domain_source_ticks_until`. -/
def clock_domain_source_ticks_until (domain : ClockDomain) (delivered_ticks : BitVec 64) :
    Except Status (BitVec 64) :=
  if delivered_ticks = 0 ∨ domain.numerator = 0 ∨ domain.denominator = 0 ∨
      (lib_uint32_max < delivered_ticks ∧
        lib_uint64_max / domain.denominator.setWidth 64 < delivered_ticks) then
    .error .invalid_argument
  else
    let required := delivered_ticks * domain.denominator.setWidth 64
    if required ≤ domain.phase.setWidth 64 then .ok 1
    else
      let required := required - domain.phase.setWidth 64
      let source_ticks :=
        if required ≤ lib_uint32_max then source_ticks_narrow required domain.numerator
        else source_ticks_wide required domain.numerator
      if source_ticks = 0 then .error .invalid_state else .ok source_ticks

/-! ## What an advance converts -/

/-- The ratio of a domain. -/
def ClockDomain.ratio (domain : ClockDomain) : ClockRatio :=
  { numerator := domain.numerator
    denominator := domain.denominator
    reset_phase := domain.reset_phase }

/-- A domain with a rate: its phase is a remainder. -/
structure ClockDomain.Converts (domain : ClockDomain) : Prop where
  numerator_pos : 0 < domain.numerator.toNat
  phase_lt : domain.phase.toNat < domain.denominator.toNat

namespace ClockDomain

variable {domain : ClockDomain}

theorem Converts.denominator_pos (h : domain.Converts) : 0 < domain.denominator.toNat :=
  Nat.zero_lt_of_lt h.phase_lt

/-- The ticks that a domain delivers exactly. -/
def delivered (domain : ClockDomain) (ticks : ℕ) : ℕ :=
  Rate.delivered domain.numerator.toNat domain.denominator.toNat domain.phase.toNat ticks

/-- The phase that they leave exactly. -/
def carried (domain : ClockDomain) (ticks : ℕ) : ℕ :=
  Rate.carried domain.numerator.toNat domain.denominator.toNat domain.phase.toNat ticks

/-- The source ticks that deliver so many. -/
def needed (domain : ClockDomain) (ticks : ℕ) : ℕ :=
  Rate.needed domain.numerator.toNat domain.denominator.toNat domain.phase.toNat ticks

end ClockDomain

/-- The remainder of an advance fits into a word: it is less than a product of two halves. -/
theorem remainder_lt {num den phase ticks : ℕ} (hnum : num < 2 ^ 32) (hden : den < 2 ^ 32)
    (hphase : phase < den) : ticks % den * num + phase < 2 ^ 64 := by
  have hticks : ticks % den ≤ den - 1 := Nat.le_sub_one_of_lt (Nat.mod_lt _ (by omega))
  have hmul : ticks % den * num ≤ (2 ^ 32 - 2) * (2 ^ 32 - 1) :=
    Nat.mul_le_mul (by omega) (by omega)
  omega

theorem clock_domain_convert_spec {domain : ClockDomain} (h : domain.Converts)
    (elapsed_ticks : BitVec 64) :
    (clock_domain_convert domain elapsed_ticks).1.toNat =
        domain.delivered elapsed_ticks.toNat % 2 ^ 64 ∧
      (clock_domain_convert domain elapsed_ticks).2.toNat =
        domain.carried elapsed_ticks.toNat := by
  have hnum : domain.numerator.toNat < 2 ^ 32 := domain.numerator.isLt
  have hden : domain.denominator.toNat < 2 ^ 32 := domain.denominator.isLt
  have hphase := h.phase_lt
  have hremainder : elapsed_ticks.toNat % domain.denominator.toNat * domain.numerator.toNat +
      domain.phase.toNat < 2 ^ 64 := remainder_lt hnum hden hphase
  have hwide {x : BitVec 32} : x.toNat % 2 ^ 64 = x.toNat := by
    have := x.isLt
    omega
  have hcut : (elapsed_ticks.toNat % domain.denominator.toNat * domain.numerator.toNat % 2 ^ 64 +
      domain.phase.toNat) % 2 ^ 64 =
      elapsed_ticks.toNat % domain.denominator.toNat * domain.numerator.toNat +
        domain.phase.toNat := by
    rw [Nat.mod_add_mod, Nat.mod_eq_of_lt hremainder]
  have hmod := Nat.mod_lt (elapsed_ticks.toNat % domain.denominator.toNat *
    domain.numerator.toNat + domain.phase.toNat) h.denominator_pos
  constructor
  · rw [ClockDomain.delivered, Rate.delivered_split h.denominator_pos]
    simp only [clock_domain_convert, BitVec.toNat_add, BitVec.toNat_mul, BitVec.toNat_udiv,
      BitVec.toNat_umod, BitVec.toNat_setWidth, hwide, hcut, Nat.mod_add_mod]
  · rw [ClockDomain.carried, Rate.carried_split]
    simp only [clock_domain_convert, BitVec.toNat_add, BitVec.toNat_mul,
      BitVec.toNat_umod, BitVec.toNat_setWidth, hwide, hcut]
    omega

/-- With equal words the divisions change nothing. -/
theorem clock_domain_convert_identity {domain : ClockDomain} (h : domain.Converts)
    (hequal : domain.numerator = domain.denominator) (elapsed_ticks : BitVec 64) :
    clock_domain_convert domain elapsed_ticks = (elapsed_ticks, domain.phase) := by
  obtain ⟨hticks, hphase⟩ := clock_domain_convert_spec h elapsed_ticks
  have hpos := h.denominator_pos
  rw [ClockDomain.delivered, hequal, Rate.delivered, Nat.add_comm,
    Nat.add_mul_div_right _ _ hpos, Nat.div_eq_of_lt h.phase_lt, Nat.zero_add,
    Nat.mod_eq_of_lt elapsed_ticks.isLt] at hticks
  rw [ClockDomain.carried, hequal, Rate.carried, Nat.add_comm, Nat.add_mul_mod_self_right,
    Nat.mod_eq_of_lt h.phase_lt] at hphase
  exact Prod.ext (BitVec.eq_of_toNat_eq hticks) (BitVec.eq_of_toNat_eq hphase)

/-- An advance is a conversion: the shortcut of equal words is one too. -/
theorem clock_domain_advance_eq {domain : ClockDomain} (h : domain.Converts)
    (elapsed_ticks : BitVec 64) :
    clock_domain_advance domain elapsed_ticks =
      ((clock_domain_convert domain elapsed_ticks).1,
        { domain with
          phase := (clock_domain_convert domain elapsed_ticks).2
          delivered_ticks :=
            domain.delivered_ticks + (clock_domain_convert domain elapsed_ticks).1 }) := by
  have hpos := h.denominator_pos
  have hden : domain.denominator ≠ 0 := by
    intro hzero
    rw [hzero] at hpos
    exact absurd hpos (by decide)
  rw [clock_domain_advance, if_neg hden]
  split
  · rename_i hequal
    rw [clock_domain_convert_identity h hequal]
  · rfl

theorem clock_domain_advance_delivers {domain : ClockDomain} (h : domain.Converts)
    (elapsed_ticks : BitVec 64) :
    (clock_domain_advance domain elapsed_ticks).1.toNat =
      domain.delivered elapsed_ticks.toNat % 2 ^ 64 := by
  rw [clock_domain_advance_eq h]
  exact (clock_domain_convert_spec h elapsed_ticks).1

theorem clock_domain_advance_carries {domain : ClockDomain} (h : domain.Converts)
    (elapsed_ticks : BitVec 64) :
    (clock_domain_advance domain elapsed_ticks).2.phase.toNat =
      domain.carried elapsed_ticks.toNat := by
  rw [clock_domain_advance_eq h]
  exact (clock_domain_convert_spec h elapsed_ticks).2

@[simp] theorem clock_domain_advance_ratio (domain : ClockDomain) (elapsed_ticks : BitVec 64) :
    (clock_domain_advance domain elapsed_ticks).2.ratio = domain.ratio := by
  rw [clock_domain_advance]
  split
  · rfl
  · split <;> rfl

@[simp] theorem clock_domain_reset_ratio (domain : ClockDomain) :
    (clock_domain_reset domain).ratio = domain.ratio := rfl

theorem ClockDomain.numerator_eq {domain other : ClockDomain}
    (h : domain.ratio = other.ratio) : domain.numerator = other.numerator :=
  congrArg ClockRatio.numerator h

theorem ClockDomain.denominator_eq {domain other : ClockDomain}
    (h : domain.ratio = other.ratio) : domain.denominator = other.denominator :=
  congrArg ClockRatio.denominator h

theorem ClockDomain.Converts.advance {domain : ClockDomain} (h : domain.Converts)
    (elapsed_ticks : BitVec 64) : (clock_domain_advance domain elapsed_ticks).2.Converts where
  numerator_pos := by
    rw [ClockDomain.numerator_eq (clock_domain_advance_ratio domain elapsed_ticks)]
    exact h.numerator_pos
  phase_lt := by
    rw [ClockDomain.denominator_eq (clock_domain_advance_ratio domain elapsed_ticks),
      clock_domain_advance_carries h]
    exact Rate.carried_lt h.denominator_pos _ _

/-- A reset domain of a valid ratio converts. -/
theorem ClockDomain.Converts.reset {domain : ClockDomain}
    (hvalid : clock_ratio_is_valid domain.ratio = true) (hnumerator : domain.numerator ≠ 0) :
    (clock_domain_reset domain).Converts := by
  rw [clock_ratio_is_valid, if_neg (fun hzero => hnumerator hzero.1)] at hvalid
  have hsound : domain.numerator ≠ 0 ∧ domain.denominator ≠ 0 ∧
      domain.reset_phase < domain.denominator := by
    simp only [Bool.and_eq_true, decide_eq_true_eq, and_assoc] at hvalid
    exact hvalid
  obtain ⟨-, -, hphase⟩ := hsound
  refine ⟨Nat.pos_of_ne_zero fun hzero => hnumerator ?_, BitVec.lt_def.mp hphase⟩
  exact BitVec.eq_of_toNat_eq hzero

/-! ## A run of advances -/

/-- A run of advances: the ticks that each returns. -/
def clock_domain_run : ClockDomain → List (BitVec 64) → List (BitVec 64) × ClockDomain
  | domain, [] => ([], domain)
  | domain, elapsed_ticks :: rest =>
    let (converted, domain) := clock_domain_advance domain elapsed_ticks
    let (returned, domain) := clock_domain_run domain rest
    (converted :: returned, domain)

/-- The total of a list of ticks. -/
def total (list : List (BitVec 64)) : ℕ := (list.map BitVec.toNat).sum

@[simp] theorem total_cons (elapsed_ticks : BitVec 64) (list : List (BitVec 64)) :
    total (elapsed_ticks :: list) = elapsed_ticks.toNat + total list := List.sum_cons

theorem clock_domain_run_spec {domain : ClockDomain} (h : domain.Converts)
    (list : List (BitVec 64)) :
    (clock_domain_run domain list).1.map BitVec.toNat =
        (Rate.deliveries domain.numerator.toNat domain.denominator.toNat domain.phase.toNat
          (list.map BitVec.toNat)).map (· % 2 ^ 64) ∧
      (clock_domain_run domain list).2.phase.toNat = domain.carried (total list) ∧
      (clock_domain_run domain list).2.ratio = domain.ratio ∧
      (clock_domain_run domain list).2.Converts := by
  induction list generalizing domain with
  | nil =>
    refine ⟨rfl, ?_, rfl, h⟩
    exact (Rate.carried_zero h.phase_lt).symm
  | cons elapsed_ticks rest ih =>
    obtain ⟨hreturned, hphase, hratio, hconverts⟩ := ih (h.advance elapsed_ticks)
    have hadvance := clock_domain_advance_ratio domain elapsed_ticks
    have hnum := ClockDomain.numerator_eq hadvance
    have hden := ClockDomain.denominator_eq hadvance
    have hcarried := clock_domain_advance_carries h elapsed_ticks
    refine ⟨?_, ?_, hratio.trans hadvance, hconverts⟩
    · rw [hnum, hden, hcarried] at hreturned
      rw [clock_domain_run, List.map_cons, hreturned, clock_domain_advance_delivers h]
      rfl
    · rw [ClockDomain.carried, hnum, hden, hcarried] at hphase
      rw [clock_domain_run, hphase, total_cons, ClockDomain.carried, ClockDomain.carried,
        Rate.carried_add]

/-- The total returned is that of the exact deliveries only where none of them is cut off. -/
theorem clock_domain_run_total_iff {domain : ClockDomain} (h : domain.Converts)
    (list : List (BitVec 64)) :
    total (clock_domain_run domain list).1 = domain.delivered (total list) ↔
      ∀ before elapsed_ticks after, list = before ++ elapsed_ticks :: after →
        Rate.delivered domain.numerator.toNat domain.denominator.toNat
          (domain.carried (total before)) elapsed_ticks.toNat < 2 ^ 64 := by
  have hden := h.denominator_pos
  rw [total, (clock_domain_run_spec h list).1, ClockDomain.delivered, total,
    ← Rate.deliveries_sum hden _ h.phase_lt, Rate.sum_map_mod_eq_iff _ _ (by decide),
    Rate.forall_deliveries _ h.phase_lt]
  constructor
  · intro hall before elapsed_ticks after hsplit
    refine hall (before.map BitVec.toNat) elapsed_ticks.toNat (after.map BitVec.toNat) ?_
    rw [hsplit, List.map_append, List.map_cons]
  · intro hall before ticks after hsplit
    obtain ⟨before, middle, rfl, rfl, hmiddle⟩ := List.map_eq_append_iff.mp hsplit
    obtain ⟨elapsed_ticks, after, rfl, rfl, -⟩ := List.map_eq_cons_iff.mp hmiddle
    exact hall before elapsed_ticks after rfl

/-- However the elapsed ticks are split, their total is converted: exactly, unless the count
of an advance does not fit into its word. -/
theorem clock_domain_run_converts (domain : ClockDomain)
    (hvalid : clock_ratio_is_valid domain.ratio = true) (hnumerator : domain.numerator ≠ 0)
    (list : List (BitVec 64)) :
    let (returned, after) := clock_domain_run (clock_domain_reset domain) list
    let num := domain.numerator.toNat
    let den := domain.denominator.toNat
    let count (ticks : ℕ) := ticks * num + domain.reset_phase.toNat
    after.phase < after.denominator ∧
      after.phase.toNat = count (total list) % den ∧
      ((∀ elapsed_ticks ∈ list, elapsed_ticks.toNat * num < 2 ^ 64) →
        total returned = count (total list) / den) ∧
      (total returned = count (total list) / den ↔
        ∀ before elapsed_ticks rest, list = before ++ elapsed_ticks :: rest →
          (elapsed_ticks.toNat * num + count (total before) % den) / den < 2 ^ 64) ∧
      (domain.numerator = domain.denominator → ∀ elapsed_ticks,
        clock_domain_convert after elapsed_ticks = (elapsed_ticks, after.phase)) := by
  have h : (clock_domain_reset domain).Converts := .reset hvalid hnumerator
  obtain ⟨-, hphase, hratio, hconverts⟩ := clock_domain_run_spec h list
  have htotal := clock_domain_run_total_iff h list
  refine ⟨BitVec.lt_def.mpr hconverts.phase_lt, hphase, ?_, htotal, ?_⟩
  · intro hproducts
    refine htotal.mpr fun before elapsed_ticks after hsplit => ?_
    refine Rate.delivered_lt (Rate.carried_lt h.denominator_pos _ _) (hproducts _ ?_)
    rw [hsplit]
    exact List.mem_append_right _ List.mem_cons_self
  · intro hequal elapsed_ticks
    refine clock_domain_convert_identity hconverts ?_ elapsed_ticks
    rw [ClockDomain.numerator_eq hratio, ClockDomain.denominator_eq hratio]
    exact hequal

/-- Three ticks of a half from a phase, in two advances. -/
theorem clock_domain_run_converts_halves :
    let domain : ClockDomain :=
      { numerator := 1
        denominator := 2
        reset_phase := 1
        phase := 0
        delivered_ticks := 0 }
    total (clock_domain_run (clock_domain_reset domain) [1, 2]).1 = 2 :=
  (clock_domain_run_converts
    { numerator := 1
      denominator := 2
      reset_phase := 1
      phase := 0
      delivered_ticks := 0 } (by decide) (by decide) [1, 2]).2.2.1 (by simp)

end Nxvm.Machine
