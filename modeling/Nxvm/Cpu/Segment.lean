/-
Segmentation: `_kma_linear_logical`, the check every logical access passes
before it is translated and carried out.

The routine reads the descriptor cache of one segment register and the mode bits
of the processor, and either answers a linear address or raises a fault. It
changes nothing, so it is a function here.
-/
import Nxvm.Cpu.Types

set_option autoImplicit false

namespace Nxvm.Cpu

/-! ## The check -/

/-- The part of `_kma_linear_logical` that looks at the segment's type: what the
type forbids, and otherwise the lowest and the highest offset it allows. The
lowest is kept wider than 32 bits, as in the source: one past the limit of an
expand-down segment may be `2^32`. -/
def segment_bounds (profile : Profile) (c : CpuData) (r : Sreg) (write force : Bool) :
    Except Fault (Nat × U32) :=
  -- data and stack segments: the limit bounds from below when the segment
  -- expands down
  let grow : Except Fault (Nat × U32) :=
    if r.expdown then .ok (r.limit.toNat + 1, if r.big then 0xffffffff else 0x0000ffff)
    else .ok (0, r.limit)
  match r.sregtype with
  | .code =>
    if !r.flagValid then .error impossible
    else if c.is_protected && !force && write then .error ⟨.gp, 0⟩
    else if c.is_protected && !force && !r.readable then .error ⟨.gp, 0⟩
    else .ok (0, r.limit)
  | .stack =>
    if !r.flagValid then .error impossible
    else if c.is_protected && (r.executable || !r.writable) then .error impossible
    else grow
  | .data =>
    if !r.flagValid then .error ⟨.gp, 0⟩
    else if c.is_protected && is_selector_null r.selector then .error ⟨.gp, 0⟩
    else if c.is_protected && r.executable && !r.readable then .error impossible
    else if c.is_protected && !force && write && r.executable then .error ⟨.gp, 0⟩
    else if c.is_protected && !force && write && !r.writable then .error ⟨.gp, 0⟩
    else grow
  | .gdtr => if !c.cr0_pe then .error impossible else .ok (0, r.limit)
  | .idtr =>
    .ok (0, if !cpu_profile_has_protected_architecture profile then 0x03ff else r.limit)
  | .ldtr =>
    if !c.cr0_pe then .error impossible
    else if selector_ti r.selector then .error impossible
    else if !r.flagValid || is_selector_null r.selector then .error ⟨.gp, 0⟩
    else .ok (0, r.limit)
  | .tr =>
    if !c.cr0_pe then .error impossible
    else if !r.flagValid || is_selector_null r.selector then .error impossible
    else if selector_ti r.selector then .error impossible
    else .ok (0, r.limit)

/-- The fault of an access that leaves the segment. -/
def segment_limit_fault (profile : Profile) (c : CpuData) (r : Sreg) : Fault :=
  match r.sregtype with
  | .stack =>
    if !c.is_protected && profile = .p80286 then ⟨.gp, 0⟩ else ⟨.ss, 0⟩
  | .tr => ⟨.ts, selector_code r.selector⟩
  | _ => ⟨.gp, 0⟩

/-- `_kma_linear_logical`: the linear address of `byte` bytes at `offset`. -/
def kma_linear_logical (profile : Profile) (c : CpuData) (r : Sreg) (offset : U32)
    (byte : Nat) (write force : Bool) : Except Fault U32 :=
  if profile = .v30 && !c.cr0_pe &&
      (r.sregtype = .code || r.sregtype = .stack || r.sregtype = .data) then
    .ok (r.base + offset)
  else
    match segment_bounds profile c r write force with
    | .error e => .error e
    | .ok (lower, upper) =>
      let base :=
        if r.sregtype = .idtr && !cpu_profile_has_protected_architecture profile then 0
        else r.base
      if offset.toNat < lower || upper < offset ||
          (byte != 0 && (upper - offset).toNat < byte - 1) then
        .error (segment_limit_fault profile c r)
      else .ok (base + offset)

/-! ## What a protected-mode load leaves in a register

The segmentation check trusts what the load has established. `Loaded` says what
that is, by kind of register; the loads themselves are proved to establish it
where they are modelled. -/

/-- The caches a protected-mode load can produce. A data register or the LDTR may
have been loaded with a null selector, which leaves it invalid. -/
def Loaded (r : Sreg) : Prop :=
  match r.sregtype with
  | .data => r.flagValid = true →
      is_selector_null r.selector = false ∧ (r.executable = true → r.readable = true)
  | .stack => r.flagValid = true ∧ r.executable = false ∧ r.writable = true
  | .code => r.flagValid = true ∧ r.executable = true
  | .ldtr => selector_ti r.selector = false ∧
      (r.flagValid = true → is_selector_null r.selector = false)
  | .tr => r.flagValid = true ∧ selector_ti r.selector = false ∧
      is_selector_null r.selector = false
  | .gdtr => False
  | .idtr => False

/-! ## What a segment is

The abstract side: which offsets belong to a segment, which directions its type
permits, and which fault a refused access raises. -/

/-- A data segment that expands down; code never does. -/
def expands_down (r : Sreg) : Bool :=
  (r.sregtype == .data || r.sregtype == .stack) && !r.executable && r.expdown

/-- Offset `o` is a byte of the segment. Offsets are natural numbers here, so an
offset past the top of the offset space is simply not one of them. -/
def Inside (r : Sreg) (o : Nat) : Prop :=
  r.flagValid = true ∧
    (if expands_down r then r.limit.toNat + 1 else 0) ≤ o ∧
    o ≤ if expands_down r then (if r.big then 0xffffffff else 0xffff) else r.limit.toNat

instance (r : Sreg) (o : Nat) : Decidable (Inside r o) :=
  inferInstanceAs (Decidable (_ ∧ _))

/-- The segment's type permits the direction: code may be read if readable, data
may be read and, if writable, written, system segments are the processor's own. -/
def permits (r : Sreg) (write : Bool) : Bool :=
  if r.sregtype == .ldtr || r.sregtype == .tr then true
  else if r.executable then !write && r.readable
  else !write || r.writable

/-- The fault of a refused access. -/
def refusal (r : Sreg) : Fault :=
  match r.sregtype with
  | .stack => ⟨.ss, 0⟩
  | .tr => ⟨.ts, selector_code r.selector⟩
  | _ => ⟨.gp, 0⟩

/-- Code in a data register whose conforming bit is set: the one cache whose bytes
the check reads as an expand-down data segment. -/
def conforming_in_data (r : Sreg) : Bool :=
  r.sregtype == .data && r.executable && r.conform

/-- An interval holds a run of `n + 1` offsets iff it holds the first and there
is room for `n` more. -/
theorem run_inside_iff (lower upper o n : Nat) :
    (∀ k < n + 1, lower ≤ o + k ∧ o + k ≤ upper) ↔ lower ≤ o ∧ o ≤ upper ∧ n ≤ upper - o := by
  constructor
  · intro h
    have h₀ := h 0 (by omega)
    have h₁ := h n (by omega)
    omega
  · rintro ⟨hl, hu, hn⟩ k hk
    omega

/-- The bounds of a loaded register are those of its segment. -/
theorem segment_bounds_loaded (profile : Profile) {c : CpuData} {r : Sreg} (write : Bool)
    (hp : c.is_protected = true) (hr : Loaded r) (hc : conforming_in_data r = false) :
    segment_bounds profile c r write false =
      if r.flagValid && permits r write then
        .ok (if expands_down r then r.limit.toNat + 1 else 0,
          if expands_down r then (if r.big then 0xffffffff else 0x0000ffff) else r.limit)
      else .error ⟨.gp, 0⟩ := by
  have hpe : c.cr0_pe = true := by
    unfold CpuData.is_protected at hp
    simp_all
  obtain ⟨base, limit, selector, valid, t, dpl, exec, acc, d, e, w, st⟩ := r
  cases t with
  | data =>
    simp only [Loaded, conforming_in_data] at hr hc
    cases valid <;> cases exec <;> cases e <;> cases w <;> cases write <;>
      simp_all [segment_bounds, permits, expands_down]
  | stack =>
    simp only [Loaded] at hr
    cases e <;> cases write <;> simp_all [segment_bounds, permits, expands_down]
  | code =>
    simp only [Loaded] at hr
    cases w <;> cases write <;> simp_all [segment_bounds, permits, expands_down]
  | ldtr =>
    simp only [Loaded] at hr
    cases valid <;> simp_all [segment_bounds, permits, expands_down]
  | tr =>
    simp only [Loaded] at hr
    simp_all [segment_bounds, permits, expands_down]
  | gdtr => exact hr.elim
  | idtr => exact hr.elim

/-- The limit test against the bounds of a segment asks whether the whole run of
offsets is inside it. -/
theorem limit_test_iff {r : Sreg} {byte : Nat} (hv : r.flagValid = true) (offset : U32)
    (hb : 0 < byte) :
    (offset.toNat < (if expands_down r then r.limit.toNat + 1 else 0) ||
        (if expands_down r then (if r.big then 0xffffffff else 0x0000ffff) else r.limit) < offset ||
        (byte != 0 && ((if expands_down r then (if r.big then 0xffffffff else 0x0000ffff)
          else r.limit) - offset).toNat < byte - 1)) = false ↔
      ∀ k < byte, Inside r (offset.toNat + k) := by
  obtain ⟨n, rfl⟩ : ∃ n, byte = n + 1 := ⟨byte - 1, by omega⟩
  generalize hu : (if expands_down r then (if r.big then (0xffffffff : U32) else 0x0000ffff)
    else r.limit) = upper
  generalize hl : (if expands_down r then r.limit.toNat + 1 else 0) = lower
  have hin : ∀ o, Inside r o ↔ lower ≤ o ∧ o ≤ upper.toNat := by
    intro o
    subst hu hl
    unfold Inside
    cases expands_down r <;> cases r.big <;> simp [hv]
  simp only [hin, run_inside_iff]
  simp only [Nat.add_sub_cancel, Bool.or_eq_false_iff, Bool.and_eq_false_iff,
    decide_eq_false_iff_not, bne_eq_false_iff_eq]
  constructor
  · rintro ⟨⟨h₁, h₂⟩, h₃⟩
    have hle : offset ≤ upper := by simpa using h₂
    have hsub := BitVec.toNat_sub_of_le hle
    have hle' : offset.toNat ≤ upper.toNat := hle
    omega
  · rintro ⟨h₁, h₂, h₃⟩
    have hle : offset ≤ upper := h₂
    have hsub := BitVec.toNat_sub_of_le hle
    refine ⟨⟨by omega, by simpa using hle⟩, Or.inr (by omega)⟩

/-- A refused direction raises the general fault of its segment. -/
theorem refusal_of_not_permitted {r : Sreg} {write : Bool} (hr : Loaded r)
    (h : (r.flagValid && permits r write) = false) : refusal r = ⟨.gp, 0⟩ := by
  obtain ⟨base, limit, selector, valid, t, dpl, exec, acc, d, e, w, st⟩ := r
  cases t <;> simp_all [Loaded, refusal, permits]

/-- **The segmentation check.** Outside the conforming-code case, a protected-mode
access of at least one byte is accepted exactly when every byte of it lies inside
the segment and the type permits the direction; it then has linear address base
plus offset. Otherwise it raises the fault of its segment. -/
theorem kma_linear_logical_spec (profile : Profile) (c : CpuData) (r : Sreg) (offset : U32)
    (byte : Nat) (write : Bool) (hp : c.is_protected = true) (hr : Loaded r)
    (hc : conforming_in_data r = false) (hb : 0 < byte) :
    kma_linear_logical profile c r offset byte write false =
      if (∀ k < byte, Inside r (offset.toNat + k)) ∧ permits r write = true then
        .ok (r.base + offset)
      else .error (refusal r) := by
  have hpe : c.cr0_pe = true := by
    unfold CpuData.is_protected at hp
    simp_all
  have hidt : ¬ r.sregtype = .idtr := by
    intro h
    simp [Loaded, h] at hr
  unfold kma_linear_logical
  rw [if_neg (by simp [hpe]), segment_bounds_loaded profile write hp hr hc]
  cases hvp : r.flagValid && permits r write with
  | false =>
    -- an invalid register or a forbidden direction: no byte is accessible
    have hno : ¬ ((∀ k < byte, Inside r (offset.toNat + k)) ∧ permits r write = true) := by
      rintro ⟨hin, hw⟩
      have hv := (hin 0 hb).1
      simp [hv, hw] at hvp
    rw [if_neg hno, refusal_of_not_permitted hr hvp]
    rfl
  | true =>
    obtain ⟨hv, hw⟩ : r.flagValid = true ∧ permits r write = true := by simpa using hvp
    have htest := limit_test_iff hv offset hb
    simp only [if_true, hidt, decide_false, Bool.false_and, hw, and_true]
    by_cases hin : ∀ k < byte, Inside r (offset.toNat + k)
    · rw [if_pos hin, htest.mpr hin]
      rfl
    · rw [if_neg hin, (Bool.not_eq_false _).mp (fun h => hin (htest.mp h))]
      have hf : segment_limit_fault profile c r = refusal r := by
        obtain ⟨base, limit, selector, valid, t, dpl, exec, acc, d, e, w, st⟩ := r
        cases t <;> simp [segment_limit_fault, refusal, hp]
      simp [hf]

/-- A writable expand-down stack, 32-bit, limit `fff`: the last byte of the offset
space is inside. -/
theorem kma_linear_logical_stack_top :
    kma_linear_logical .p80386 { CpuData.zero with cr0 := 1 }
      { Sreg.zero .stack with
        flagValid := true, limit := 0xfff, base := 0x1000
        defsize := true, conform := true, readable := true }
      0xffffffff 1 true false = .ok 0x00000fff := by
  rw [kma_linear_logical_spec _ _ _ _ _ _ (by decide) (by simp [Loaded, Sreg.zero]) (by decide)
    (by decide)]
  decide

/-- The task register's own refusal: an access past the limit of the TSS raises
the invalid-TSS fault with the selector, not the general-protection fault. -/
theorem kma_linear_logical_tss_limit :
    Loaded { Sreg.zero .tr with flagValid := true, selector := 0x28, limit := 0x67 } ∧
    kma_linear_logical .p80386 { CpuData.zero with cr0 := 1 }
      { Sreg.zero .tr with flagValid := true, selector := 0x28, limit := 0x67 }
      0x68 4 false false = .error ⟨.ts, 0x28⟩ := by
  refine ⟨by simp [Loaded, Sreg.zero]; decide, by decide⟩

end Nxvm.Cpu
