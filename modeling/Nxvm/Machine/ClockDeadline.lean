/-
How long a device has to wait (`clock.c`).

The source ticks that a domain tells until so many are delivered are the least ones that
deliver them: the two roundings are a Galois connection. This is so up to the word in which an
advance counts, which the guard of the request does not look at.
-/
import Nxvm.Machine.Clock

set_option autoImplicit false

namespace Nxvm.Machine

open Nxvm.Lib

/-! ## The domains that a machine reaches -/

/-- The domains reached from an initialisation by resets and advances. -/
inductive ClockDomain.Reachable : ClockDomain → Prop
  | initialized {ratio : ClockRatio} {domain : ClockDomain}
      (h : clock_domain_initialize ratio = .ok domain) : Reachable domain
  | reset {domain : ClockDomain} (h : Reachable domain) : Reachable (clock_domain_reset domain)
  | advance {domain : ClockDomain} (h : Reachable domain) (elapsed_ticks : BitVec 64) :
      Reachable (clock_domain_advance domain elapsed_ticks).2

/-- An initialised domain has a valid ratio, and not the zero that stands for the identity. -/
theorem clock_domain_initialize_valid {ratio : ClockRatio} {domain : ClockDomain}
    (h : clock_domain_initialize ratio = .ok domain) :
    clock_ratio_is_valid domain.ratio = true ∧ domain.numerator ≠ 0 ∧
      clock_domain_reset domain = domain := by
  rw [ clock_domain_initialize] at h
  by_cases hvalid : clock_ratio_is_valid ratio = true
  · rw [hvalid, Bool.not_true, if_neg Bool.false_ne_true] at h
    cases h
    by_cases hzero : ratio.numerator = 0
    · simp only [hzero, if_true]
      exact ⟨rfl, by decide, rfl⟩
    · simp only [hzero, if_false]
      exact ⟨hvalid, hzero, rfl⟩
  · rw [Bool.not_eq_true] at hvalid
    rw [hvalid, Bool.not_false, if_pos rfl] at h
    cases h

/-- A reachable domain converts, and so it does after a reset. -/
theorem ClockDomain.Reachable.converts {domain : ClockDomain} (h : domain.Reachable) :
    domain.Converts ∧ (clock_domain_reset domain).Converts := by
  induction h with
  | initialized hok =>
    obtain ⟨hvalid, hnumerator, hreset⟩ := clock_domain_initialize_valid hok
    have hconverts := ClockDomain.Converts.reset hvalid hnumerator
    exact ⟨hreset ▸ hconverts, hconverts⟩
  | reset _ ih => exact ⟨ih.2, ih.2⟩
  | @advance domain _ elapsed_ticks ih =>
    refine ⟨ih.1.advance elapsed_ticks, ?_⟩
    have hratio : (clock_domain_reset (clock_domain_advance domain elapsed_ticks).2).ratio =
        (clock_domain_reset domain).ratio := by
      rw [clock_domain_reset_ratio, clock_domain_advance_ratio, clock_domain_reset_ratio]
    have hphase : (clock_domain_reset (clock_domain_advance domain elapsed_ticks).2).phase =
        (clock_domain_reset domain).phase := congrArg ClockRatio.reset_phase hratio
    constructor
    · rw [ClockDomain.numerator_eq hratio]
      exact ih.2.numerator_pos
    · rw [ClockDomain.denominator_eq hratio, hphase]
      exact ih.2.phase_lt

/-! ## The ticks required -/

theorem source_ticks_wide_toNat {required : BitVec 64} {numerator : BitVec 32}
    (hnumerator : 0 < numerator.toNat) :
    (source_ticks_wide required numerator).toNat =
      (required.toNat + (numerator.toNat - 1)) / numerator.toNat := by
  have hnum := numerator.isLt
  have hcut : numerator.toNat % 2 ^ 64 = numerator.toNat := Nat.mod_eq_of_lt (by omega)
  have hzero : required % numerator.setWidth 64 ≠ 0 ↔ required.toNat % numerator.toNat ≠ 0 := by
    rw [ne_eq, ← BitVec.toNat_inj, BitVec.toNat_umod, BitVec.toNat_setWidth, hcut]
    rfl
  have hrequired := required.isLt
  have hle := Nat.div_le_self required.toNat numerator.toNat
  rw [source_ticks_wide, Rate.add_pred_div hnumerator, BitVec.toNat_add, BitVec.toNat_udiv,
    BitVec.toNat_setWidth, hcut]
  by_cases h : required.toNat % numerator.toNat ≠ 0
  · have hone : numerator.toNat ≠ 1 := by
      intro hone
      rw [hone, Nat.mod_one] at h
      exact h rfl
    have hhalf : required.toNat / numerator.toNat ≤ required.toNat / 2 :=
      Nat.div_le_div_left (by omega) (by decide)
    rw [if_pos (hzero.mpr h), if_pos h]
    exact Nat.mod_eq_of_lt (by simp; omega)
  · rw [if_neg (fun h' => h (hzero.mp h')), if_neg h]
    exact Nat.mod_eq_of_lt (by simp; omega)

/-- The two widths divide alike. -/
theorem source_ticks_narrow_eq {required : BitVec 64} {numerator : BitVec 32}
    (hrequired : required ≤ lib_uint32_max) (hnumerator : 0 < numerator.toNat) :
    source_ticks_narrow required numerator = source_ticks_wide required numerator := by
  have hnum := numerator.isLt
  have hlt : required.toNat < 2 ^ 32 := by
    have h : required.toNat ≤ 0xffffffff := BitVec.le_def.mp hrequired
    omega
  have hcut : required.toNat % 2 ^ 32 = required.toNat := Nat.mod_eq_of_lt hlt
  have hwide : numerator.toNat % 2 ^ 64 = numerator.toNat := Nat.mod_eq_of_lt (by omega)
  have hquotient : (required.setWidth 32 / numerator).setWidth 64 =
      required / numerator.setWidth 64 := by
    apply BitVec.eq_of_toNat_eq
    have hle := Nat.div_le_self required.toNat numerator.toNat
    rw [BitVec.toNat_setWidth, BitVec.toNat_udiv, BitVec.toNat_udiv, BitVec.toNat_setWidth,
      BitVec.toNat_setWidth, hcut, hwide]
    exact Nat.mod_eq_of_lt (by omega)
  have hremainder : required.setWidth 32 % numerator ≠ 0 ↔
      required % numerator.setWidth 64 ≠ 0 := by
    rw [ne_eq, ne_eq, ← BitVec.toNat_inj, ← BitVec.toNat_inj, BitVec.toNat_umod,
      BitVec.toNat_umod, BitVec.toNat_setWidth, BitVec.toNat_setWidth, hcut, hwide]
    rfl
  rw [source_ticks_narrow, source_ticks_wide]
  simp only [hquotient, hremainder]

/-- What an accepted request has passed, and what it is told. -/
theorem source_ticks_until_spec {domain : ClockDomain} (h : domain.Converts)
    {delivered_ticks n : BitVec 64}
    (hok : clock_domain_source_ticks_until domain delivered_ticks = .ok n) :
    0 < delivered_ticks.toNat ∧
      delivered_ticks.toNat * domain.denominator.toNat < 2 ^ 64 ∧
      n.toNat = domain.needed delivered_ticks.toNat := by
  have hphase := h.phase_lt
  have hden := domain.denominator.isLt
  have hcut : domain.denominator.toNat % 2 ^ 64 = domain.denominator.toNat :=
    Nat.mod_eq_of_lt (by omega)
  have hphasecut : domain.phase.toNat % 2 ^ 64 = domain.phase.toNat :=
    Nat.mod_eq_of_lt (by omega)
  rw [clock_domain_source_ticks_until] at hok
  split at hok
  · cases hok
  rename_i hguard
  simp only [not_or, not_and] at hguard
  obtain ⟨hzero, -, -, hproduct⟩ := hguard
  have hpos : 0 < delivered_ticks.toNat := by
    refine Nat.pos_of_ne_zero fun heq => hzero ?_
    exact BitVec.eq_of_toNat_eq heq
  have hfits : delivered_ticks.toNat * domain.denominator.toNat < 2 ^ 64 := by
    by_cases hwide : lib_uint32_max < delivered_ticks
    · -- the guard divides the largest word
      have hle := BitVec.le_def.mp (BitVec.not_lt.mp (hproduct hwide))
      rw [BitVec.toNat_udiv, BitVec.toNat_setWidth, hcut,
        Nat.le_div_iff_mul_le h.denominator_pos] at hle
      exact Nat.lt_of_le_of_lt hle (by decide)
    · have hle : delivered_ticks.toNat ≤ 2 ^ 32 - 1 := BitVec.le_def.mp (BitVec.not_lt.mp hwide)
      have hmul : delivered_ticks.toNat * domain.denominator.toNat ≤ (2 ^ 32 - 1) * (2 ^ 32 - 1) :=
        Nat.mul_le_mul hle (by omega)
      omega
  have hrequired : (delivered_ticks * domain.denominator.setWidth 64).toNat =
      delivered_ticks.toNat * domain.denominator.toNat := by
    rw [BitVec.toNat_mul, BitVec.toNat_setWidth, hcut, Nat.mod_eq_of_lt hfits]
  -- a phase is less than what a single tick requires
  have hle : domain.denominator.toNat ≤ delivered_ticks.toNat * domain.denominator.toNat :=
    Nat.le_mul_of_pos_left _ hpos
  have hlt : ¬ delivered_ticks * domain.denominator.setWidth 64 ≤ domain.phase.setWidth 64 := by
    rw [BitVec.le_def, hrequired, BitVec.toNat_setWidth, hphasecut]
    omega
  have hsub : (delivered_ticks * domain.denominator.setWidth 64 -
      domain.phase.setWidth 64).toNat =
        delivered_ticks.toNat * domain.denominator.toNat - domain.phase.toNat := by
    rw [BitVec.toNat_sub_of_le (BitVec.le_of_lt (BitVec.not_le.mp hlt)), hrequired,
      BitVec.toNat_setWidth, hphasecut]
  have hwidths : (if delivered_ticks * domain.denominator.setWidth 64 -
        domain.phase.setWidth 64 ≤ lib_uint32_max then
        source_ticks_narrow (delivered_ticks * domain.denominator.setWidth 64 -
          domain.phase.setWidth 64) domain.numerator
      else source_ticks_wide (delivered_ticks * domain.denominator.setWidth 64 -
          domain.phase.setWidth 64) domain.numerator) =
      source_ticks_wide (delivered_ticks * domain.denominator.setWidth 64 -
        domain.phase.setWidth 64) domain.numerator := by
    split
    · rename_i hnarrow
      exact source_ticks_narrow_eq hnarrow h.numerator_pos
    · rfl
  simp only [if_neg hlt, hwidths] at hok
  split at hok
  · cases hok
  cases hok
  refine ⟨hpos, hfits, ?_⟩
  rw [source_ticks_wide_toNat h.numerator_pos, hsub]
  rfl

/-! ## The least source ticks -/

/-- `n` are the least source ticks that deliver `delivered_ticks`: either width tells them, and
no product on the way leaves its word. -/
structure ClockDomain.Least (domain : ClockDomain) (delivered_ticks n : BitVec 64) : Prop where
  delivers : delivered_ticks ≤ (clock_domain_advance domain n).1
  least : 1 < n → (clock_domain_advance domain (n - 1)).1 < delivered_ticks
  widths : ∀ required,
    required = delivered_ticks * domain.denominator.setWidth 64 - domain.phase.setWidth 64 →
    required ≤ lib_uint32_max →
      source_ticks_narrow required domain.numerator = source_ticks_wide required domain.numerator
  required_fits : delivered_ticks.toNat * domain.denominator.toNat < 2 ^ 64
  converted_fits : n.toNat / domain.denominator.toNat * domain.numerator.toNat < 2 ^ 64

/-- The ticks that a domain tells are the least ones, as long as what these deliver is a
number of 64 bits. -/
theorem source_ticks_until_least_iff {domain : ClockDomain} (hreachable : domain.Reachable)
    {delivered_ticks n : BitVec 64}
    (hok : clock_domain_source_ticks_until domain delivered_ticks = .ok n) :
    domain.Least delivered_ticks n ↔
      domain.delivered (domain.needed delivered_ticks.toNat) < 2 ^ 64 := by
  have h := hreachable.converts.1
  obtain ⟨hpos, hfits, hn⟩ := source_ticks_until_spec h hok
  have hgalois (ticks : ℕ) : delivered_ticks.toNat ≤ domain.delivered ticks ↔ n.toNat ≤ ticks := by
    rw [hn]
    exact Rate.le_delivered_iff h.numerator_pos h.denominator_pos _ _ _
  have hadvance := clock_domain_advance_delivers h
  have hword := delivered_ticks.isLt
  have hnum := domain.numerator.isLt
  -- one source tick is not enough to deliver nothing
  have hnpos : 0 < n.toNat := by
    refine Nat.pos_of_ne_zero fun hzero => ?_
    have hle := (hgalois 0).mpr (by omega)
    rw [ClockDomain.delivered, Rate.delivered_zero h.phase_lt] at hle
    omega
  have hbefore : domain.delivered (n.toNat - 1) < delivered_ticks.toNat := by
    rw [← Nat.not_le, hgalois]
    omega
  have hstep : domain.delivered n.toNat ≤ domain.delivered (n.toNat - 1) +
      domain.numerator.toNat := by
    have hsucc := @Rate.delivered_succ_le domain.numerator.toNat _ h.denominator_pos
      domain.phase.toNat (n.toNat - 1)
    rwa [Nat.sub_add_cancel hnpos] at hsucc
  rw [← hn]
  constructor
  · intro hleast
    -- a wrapped count would be less than the one before
    have hdelivers := BitVec.le_def.mp hleast.delivers
    rw [hadvance] at hdelivers
    omega
  · intro hlt
    refine ⟨?_, fun _ => ?_, ?_, hfits, ?_⟩
    · rw [BitVec.le_def, hadvance, Nat.mod_eq_of_lt hlt, hgalois]
    · have hpred : (n - 1).toNat = n.toNat - 1 := by
        have hone : 1 ≤ n := BitVec.le_def.mpr hnpos
        rw [BitVec.toNat_sub_of_le hone]
        rfl
      rw [BitVec.lt_def, hadvance, hpred, Nat.mod_eq_of_lt (by omega)]
      exact hbefore
    · intro required _ hnarrow
      exact source_ticks_narrow_eq hnarrow h.numerator_pos
    · rw [ClockDomain.delivered, Rate.delivered_split h.denominator_pos] at hlt
      exact Nat.lt_of_le_of_lt (Nat.le_add_right _ _) hlt

/-- The largest request of a clock of twice the rate: the ticks told deliver one more than a
word holds, and an advance by them returns nothing. -/
theorem source_ticks_until_not_least :
    ∃ (domain : ClockDomain) (delivered_ticks n : BitVec 64), domain.Reachable ∧
      clock_domain_source_ticks_until domain delivered_ticks = .ok n ∧
      (clock_domain_advance domain n).1 < delivered_ticks ∧
      ¬ domain.Least delivered_ticks n := by
  refine ⟨{ numerator := 2, denominator := 1, reset_phase := 0, phase := 0, delivered_ticks := 0 },
    0xffffffffffffffff, 0x8000000000000000, ?_, by decide, by decide, ?_⟩
  · have hok : clock_domain_initialize { numerator := 2, denominator := 1, reset_phase := 0 } =
        .ok _ := rfl
    exact .initialized hok
  · intro hleast
    exact absurd hleast.delivers (by decide)

/-- Three ticks of two for each source tick. -/
theorem source_ticks_until_least_iff_double :
    let domain : ClockDomain :=
      { numerator := 2
        denominator := 1
        reset_phase := 0
        phase := 0
        delivered_ticks := 0 }
    domain.Least 3 2 ↔ domain.delivered (domain.needed 3) < 2 ^ 64 :=
  source_ticks_until_least_iff
    (ClockDomain.Reachable.initialized
      (show clock_domain_initialize { numerator := 2, denominator := 1, reset_phase := 0 } =
        .ok _ from rfl))
    (by decide)

end Nxvm.Machine
