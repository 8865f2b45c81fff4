/-
The count of a line and the flags of its sources.

A line is high while its count is not zero, and the count is kept apart from the
flags of the sources: an assert and a deassert change both. Binding a source to
another line clears its flag only, so the count stays right as long as a source is
bound again only while it is quiescent, and as long as no line has more sources
asserted than a count can hold.
-/
import Nxvm.BoardBase.PicBusRefresh

set_option autoImplicit false

namespace Nxvm.BoardBase

open Nxvm.Lib Nxvm.Lib.Register Nxvm.Chips Nxvm.Machine

/-! ## Counts -/

/-- The source asserts this line. -/
def asserts (side : PicSide) (id : Fin 8) (source : PicIrqSource) : Bool :=
  source.asserted && decide (irq_side source.irq = side) && decide (irq_line source.irq = id)

/-- How many sources of the pair assert this line. -/
def asserting (pair : PicPair) (side : PicSide) (id : Fin 8) : ℕ :=
  pair.sources.countP (asserts side id)

/-- The counts are right. -/
structure Counted (pair : PicPair) : Prop where
  counts : ∀ side id, ((pair.bus side).asserted id).toNat = asserting pair side id
  irqs : ∀ source ∈ pair.sources, source.irq.toNat < 16

theorem board_pic_initialize_counted : Counted board_pic_initialize :=
  ⟨fun side id => by cases side <;> rfl, fun source hs => absurd hs (by simp [ board_pic_initialize])⟩

@[simp] theorem PicPair.bus_sources (pair : PicPair) (sources : List PicIrqSource)
    (side : PicSide) : ({ pair with sources := sources } : PicPair).bus side = pair.bus side := by
  cases side <;> rfl

/-- Only the counts and the sources matter. -/
theorem Counted.congr {pair pair' : PicPair} (h : Counted pair)
    (hmaster : pair'.master.asserted = pair.master.asserted)
    (hslave : pair'.slave.asserted = pair.slave.asserted)
    (hsources : pair'.sources = pair.sources) : Counted pair' := by
  refine ⟨fun side id => ?_, fun source hs => h.irqs source (hsources ▸ hs)⟩
  have hcount := h.counts side id
  unfold asserting at hcount ⊢
  rw [hsources, ← hcount]
  cases side with
  | master => exact congrArg BitVec.toNat (congrFun hmaster id)
  | slave => exact congrArg BitVec.toNat (congrFun hslave id)

/-- A quiet source more or less does not count. -/
theorem asserts_quiet (side : PicSide) (id : Fin 8) (irq : U8) :
    asserts side id { irq, asserted := false } = false := rfl

/-- What one source in another state does to the number of a line. -/
theorem asserting_set {pair : PicPair} {handle : ℕ} {source : PicIrqSource}
    (hs : pair.sources[handle]? = some source) (source' : PicIrqSource) (side : PicSide)
    (id : Fin 8) :
    asserting { pair with sources := pair.sources.set handle source' } side id +
        (asserts side id source).toNat =
      asserting pair side id + (asserts side id source').toNat := by
  obtain ⟨hlt, hget⟩ := List.getElem?_eq_some_iff.mp hs
  have hle : (asserts side id source).toNat ≤ pair.sources.countP (asserts side id) := by
    cases h : asserts side id source with
    | false => simp
    | true =>
      exact List.countP_pos_iff.mpr ⟨source, hget ▸ List.getElem_mem hlt, h⟩
  unfold asserting
  rw [List.countP_set hlt, hget]
  cases h : asserts side id source <;> cases h' : asserts side id source' <;>
    simp only [h, Bool.toNat_true, Bool.toNat_false, if_true, if_false,
      Bool.false_eq_true] at hle ⊢ <;> omega

/-! ## Binding -/

theorem Counted.bind_new {pair : PicPair} (h : Counted pair) {irq : U8}
    (hirq : irq.toNat < 16) :
    Counted { pair with sources := pair.sources ++ [{ irq, asserted := false }] } := by
  refine ⟨fun side id => ?_, fun source hs => ?_⟩
  · have hcount := h.counts side id
    unfold asserting at hcount ⊢
    rw [List.countP_append, List.countP_singleton, asserts_quiet, if_neg Bool.false_ne_true,
      Nat.add_zero, ← hcount]
    cases side <;> rfl
  · rcases List.mem_append.mp hs with hs | hs
    · exact h.irqs source hs
    · rw [List.mem_singleton.mp hs]
      exact hirq

theorem Counted.bind_again {pair : PicPair} (h : Counted pair) {handle : ℕ} {irq : U8}
    (hirq : irq.toNat < 16)
    (hquiet : ∀ source, pair.sources[handle]? = some source → source.asserted = false) :
    Counted { pair with
      sources := pair.sources.set handle { irq, asserted := false } } := by
  refine ⟨fun side id => ?_, fun source hs => ?_⟩
  · cases hs : pair.sources[handle]? with
    | none =>
      rw [List.set_eq_of_length_le (List.getElem?_eq_none_iff.mp hs)]
      exact h.counts side id
    | some source =>
      have hset := asserting_set hs { irq, asserted := false } side id
      have hold : asserts side id source = false := by
        simp [asserts, hquiet source hs]
      rw [asserts_quiet, hold] at hset
      rw [PicPair.bus_sources, h.counts side id]
      exact (Nat.add_right_cancel hset).symm
  · rcases List.mem_or_eq_of_mem_set hs with hs | rfl
    · exact h.irqs source hs
    · exact hirq

/-! ## Asserting and deasserting -/

theorem PicPair.bus_set_bus (pair : PicPair) (side side' : PicSide) (bus : PicBus) :
    (pair.set_bus side bus).bus side' = if side' = side then bus else pair.bus side' := by
  cases side <;> cases side' <;> rfl

theorem PicPair.sources_set_bus (pair : PicPair) (side : PicSide) (bus : PicBus) :
    (pair.set_bus side bus).sources = pair.sources := by
  cases side <;> rfl

/-- A refresh touches neither counts nor sources. -/
theorem Counted.refresh {pair : PicPair} (h : Counted pair) :
    Counted (board_pic_refresh pair) :=
  h.congr rfl rfl rfl

/-- A flag and the count of its line change together. -/
theorem Counted.set_flag {pair : PicPair} (h : Counted pair) {handle : ℕ}
    {source : PicIrqSource} (hs : pair.sources[handle]? = some source) (flag : Bool)
    (device : Pic) {count : U8}
    (hcount : count.toNat + source.asserted.toNat =
      ((pair.bus (irq_side source.irq)).asserted (irq_line source.irq)).toNat + flag.toNat) :
    Counted (({ pair with
        sources := pair.sources.set handle { source with asserted := flag } } : PicPair).set_bus
      (irq_side source.irq)
      { device
        asserted := Function.update (pair.bus (irq_side source.irq)).asserted
          (irq_line source.irq) count }) := by
  refine ⟨fun side id => ?_, fun source' hs' => ?_⟩
  · have hset := asserting_set hs { source with asserted := flag } side id
    have hold := h.counts side id
    have hnumber (pair' : PicPair) (bus : PicBus) :
        asserting (pair'.set_bus (irq_side source.irq) bus) side id =
          asserting pair' side id := by
      rw [asserting, PicPair.sources_set_bus, asserting]
    rw [PicPair.bus_set_bus, PicPair.bus_sources, hnumber]
    by_cases hside : irq_side source.irq = side
    · subst hside
      rw [if_pos rfl]
      by_cases hline : irq_line source.irq = id
      · subst hline
        simp only [asserts, decide_true, Bool.and_true] at hset
        dsimp only
        rw [Function.update_self]
        omega
      · simp only [asserts, decide_eq_false hline, Bool.and_false, Bool.toNat_false] at hset
        dsimp only
        rw [Function.update_of_ne (Ne.symm hline)]
        omega
    · simp only [asserts, decide_eq_false hside, Bool.and_false, Bool.false_and,
        Bool.toNat_false] at hset
      rw [if_neg (Ne.symm hside), PicPair.bus_sources]
      omega
  · rw [PicPair.sources_set_bus] at hs'
    have hmem : source ∈ pair.sources := List.mem_of_getElem? hs
    rcases List.mem_or_eq_of_mem_set hs' with hs' | rfl
    · exact h.irqs source' hs'
    · exact h.irqs source hmem

theorem Counted.assert {pair : PicPair} (h : Counted pair) {handle : ℕ}
    (hroom : ∀ source, pair.sources[handle]? = some source → source.asserted = false →
      asserting pair (irq_side source.irq) (irq_line source.irq) < 255) :
    Counted (board_pic_irq_source_assert pair handle) := by
  unfold board_pic_irq_source_assert
  cases hs : pair.sources[handle]? with
  | none => exact h
  | some source =>
    dsimp only
    by_cases hskip : source.asserted = true ∨ 16 ≤ source.irq.toNat
    · rw [if_pos hskip]
      exact h
    · rw [if_neg hskip]
      have hflag : source.asserted = false := by
        simpa using (not_or.mp hskip).1
      have hlt := hroom source hs hflag
      rw [← h.counts] at hlt
      have hne : (pair.bus (irq_side source.irq)).asserted (irq_line source.irq) ≠ 0xff :=
        fun heq => by
          rw [heq] at hlt
          exact absurd hlt (by decide)
      rw [if_pos hne]
      apply Counted.refresh
      apply h.set_flag hs
      rw [hflag]
      simp only [Bool.toNat_false, Bool.toNat_true]
      bv_omega

theorem Counted.deassert {pair : PicPair} (h : Counted pair) (handle : ℕ) :
    Counted (board_pic_irq_source_deassert pair handle) := by
  unfold board_pic_irq_source_deassert
  cases hs : pair.sources[handle]? with
  | none => exact h
  | some source =>
    dsimp only
    cases hflag : source.asserted with
    | false => exact h
    | true =>
      have hmem : source ∈ pair.sources := List.mem_of_getElem? hs
      have hirq := h.irqs source hmem
      rw [if_neg (by simp), if_neg (by omega)]
      -- an asserted source is counted, so the count is not zero
      have hpos : 0 < asserting pair (irq_side source.irq) (irq_line source.irq) :=
        List.countP_pos_iff.mpr ⟨source, hmem, by simp [asserts, hflag]⟩
      rw [← h.counts] at hpos
      have hne : (pair.bus (irq_side source.irq)).asserted (irq_line source.irq) ≠ 0 :=
        fun heq => by
          rw [heq] at hpos
          exact absurd hpos (by decide)
      rw [PicPair.bus_sources, if_neg hne]
      apply Counted.refresh
      apply h.set_flag hs
      rw [hflag]
      simp only [Bool.toNat_false, Bool.toNat_true]
      bv_omega

/-! ## Runs -/

/-- The call keeps the counts right: a source that is bound again is not asserted, and no
line gets a 256th asserted source. -/
def Quiescent (pair : PicPair) : PicPairOp → Prop
  | .irq_source_bind (some handle) irq _ =>
    irq.toNat < 16 → irq ≠ 2 →
      ∀ source, pair.sources[handle]? = some source → source.asserted = false
  | .irq_source_assert handle =>
    ∀ source, pair.sources[handle]? = some source → source.asserted = false →
      asserting pair (irq_side source.irq) (irq_line source.irq) < 255
  | _ => True

/-- Every call of the run is `Quiescent` where it is made. -/
def QuiescentAll (pair : PicPair) : List PicPairOp → Prop
  | [] => True
  | op :: ops => Quiescent pair op ∧ QuiescentAll (board_pic_apply pair op) ops

theorem Counted.bind {pair : PicPair} (h : Counted pair) {handle : Option ℕ} {irq : U8}
    {allocated : Bool} (hop : Quiescent pair (.irq_source_bind handle irq allocated)) :
    Counted (board_pic_irq_source_bind pair handle irq allocated).2.2 := by
  unfold board_pic_irq_source_bind
  by_cases hreject : 16 ≤ irq.toNat ∨ irq = 2
  · rw [if_pos hreject]
    exact h
  · rw [if_neg hreject]
    obtain ⟨hlt, hcascade⟩ := not_or.mp hreject
    cases handle with
    | none =>
      dsimp only
      split_ifs
      · exact h.bind_new (by omega)
      · exact h
    | some handle =>
      dsimp only
      split_ifs
      · exact h.bind_again (by omega) (hop (by omega) hcascade)
      · exact h

/-- One call keeps the counts. -/
theorem board_pic_apply_counted {pair : PicPair} (h : Counted pair) {op : PicPairOp}
    (hop : Quiescent pair op) : Counted (board_pic_apply pair op) := by
  cases op with
  | refresh => exact h.refresh
  | reset => exact h.congr rfl rfl rfl
  | set_irq_timing master slave => exact h.congr rfl rfl rfl
  | advance elapsed_ticks => exact h.congr rfl rfl rfl
  | write_register side selector value =>
    simp only [board_pic_apply, board_pic_write_register]
    split_ifs
    · exact h
    · cases side <;> exact h.congr rfl rfl rfl
  | read_register side selector value =>
    simp only [board_pic_apply, board_pic_read_register]
    split_ifs
    · exact h
    · cases side <;> exact h.congr rfl rfl rfl
    · cases side <;> exact h.congr rfl rfl rfl
  | irq_source_bind handle irq allocated => exact h.bind hop
  | irq_source_assert handle => exact h.assert hop
  | irq_source_deassert handle => exact h.deassert handle
  | get_interrupt =>
    simp only [board_pic_apply, board_pic_get_interrupt]
    split_ifs <;> exact h.congr rfl rfl rfl

theorem run_counted (ops : List PicPairOp) {pair : PicPair} (h : Counted pair)
    (hshown : Shown pair) (hops : QuiescentAll pair ops) :
    Counted (ops.foldl board_pic_apply pair) ∧ Shown (ops.foldl board_pic_apply pair) := by
  induction ops generalizing pair with
  | nil => exact ⟨h, hshown⟩
  | cons op ops ih =>
    exact ih (board_pic_apply_counted h hops.1) (board_pic_apply_shown hshown op) hops.2

/-- A level is high exactly while its line is counted. -/
theorem Shown.level {pair : PicPair} (h : Shown pair) (side : PicSide) (id : Fin 8) :
    (pair.bus side).device.input_levels.getLsbD id.val =
      decide ((pair.bus side).asserted id ≠ 0) := by
  have hlevels : (pair.bus side).device.input_levels = pic_bus_levels (pair.bus side) := by
    cases side with
    | master => exact h.master.input_levels
    | slave => exact h.slave.input_levels
  rw [hlevels, pic_bus_levels, getLsbD_of_lines]

/-- In every run that binds sources again only while they are quiescent and asserts at most
255 of them on one line, the count of each line is the number of asserted sources bound to
it, and the input of the line is high exactly while there is one. -/
theorem board_pic_counts_sources (ops : List PicPairOp)
    (hops : QuiescentAll board_pic_initialize ops) (side : PicSide) (id : Fin 8) :
    let pair := ops.foldl board_pic_apply board_pic_initialize
    ((pair.bus side).asserted id).toNat =
        pair.sources.countP (fun source => source.asserted &&
          decide (irq_side source.irq = side) && decide (irq_line source.irq = id)) ∧
      ((pair.bus side).device.input_levels.getLsbD id.val = true ↔
        ∃ source ∈ pair.sources, source.asserted = true ∧ irq_side source.irq = side ∧
          irq_line source.irq = id) := by
  obtain ⟨hcounted, hshown⟩ :=
    run_counted ops board_pic_initialize_counted board_pic_initialize_shown hops
  intro pair
  have hcount : ((pair.bus side).asserted id).toNat = asserting pair side id :=
    hcounted.counts side id
  refine ⟨hcount, ?_⟩
  have hzero : (pair.bus side).asserted id ≠ 0 ↔ 0 < asserting pair side id := by
    rw [← hcount, Nat.pos_iff_ne_zero, BitVec.toNat_ne]
    rfl
  rw [hshown.level, decide_eq_true_iff, hzero, asserting, List.countP_pos_iff]
  simp only [asserts, Bool.and_eq_true, decide_eq_true_eq, and_assoc]

/-- Two sources share line 5; the input goes low when the second of them deasserts. -/
theorem board_pic_counts_sources_shared :
    let ops : List PicPairOp := [.irq_source_bind none 5 true, .irq_source_bind none 5 true,
      .irq_source_assert 0, .irq_source_assert 1, .irq_source_deassert 0,
      .irq_source_deassert 1, .irq_source_bind (some 1) 12 true]
    let pair := ops.foldl board_pic_apply board_pic_initialize
    (pair.master.device.input_levels.getLsbD 5 = true ↔
      ∃ source ∈ pair.sources, source.asserted = true ∧ irq_side source.irq = .master ∧
        irq_line source.irq = 5) := by
  intro ops pair
  have hops : QuiescentAll board_pic_initialize ops := by
    simp only [ops, QuiescentAll, Quiescent]
    decide
  exact (board_pic_counts_sources ops hops .master 5).2

/-- A source that is bound again while it asserts leaves its old line high for good: the
count stays one with no source asserted. -/
theorem board_pic_rebind_asserted :
    let ops : List PicPairOp := [.irq_source_bind none 3 true, .irq_source_assert 0,
      .irq_source_bind (some 0) 4 true, .irq_source_deassert 0]
    let pair := ops.foldl board_pic_apply board_pic_initialize
    pair.master.asserted 3 = 1 ∧ pair.master.device.input_levels = 0x08 ∧
      pair.sources.countP (fun source => source.asserted &&
        decide (irq_side source.irq = .master) && decide (irq_line source.irq = 3)) = 0 := by
  decide

end Nxvm.BoardBase
