/-
Sorting in place by merging runs.

A list is in runs of a width when any two of its entries in one run are in order. Merging the
first two runs left of a place doubles the width of what is before it; a merge that prefers the
left run where neither entry is less keeps equal entries in the order they were in.
-/
import Mathlib.Data.List.Basic
import Mathlib.Tactic.Common

set_option autoImplicit false

namespace Nxvm.Lib.StableSort

variable {α : Type}

/-! ## Pieces of a list -/

/-- The entries from one place up to another. -/
def slice (xs : List α) (start stop : ℕ) : List α := (xs.take stop).drop start

/-- The list with a piece of it written over. -/
def splice (xs : List α) (start : ℕ) (piece : List α) : List α :=
  xs.take start ++ (piece ++ xs.drop (start + piece.length))

theorem length_slice {xs : List α} {start stop : ℕ} (hstop : stop ≤ xs.length) :
    (slice xs start stop).length = stop - start := by
  unfold slice
  rw [List.length_drop, List.length_take, Nat.min_eq_left hstop]

theorem slice_nil (xs : List α) {start stop : ℕ} (hle : stop ≤ start) :
    slice xs start stop = [] := by
  unfold slice
  apply List.drop_eq_nil_of_le
  rw [List.length_take]
  exact Nat.le_trans (Nat.min_le_left stop xs.length) hle

theorem slice_cons {xs : List α} {start stop : ℕ} (hstop : stop ≤ xs.length)
    (hlt : start < stop) :
    slice xs start stop = xs[start] :: slice xs (start + 1) stop := by
  have htake : start < (xs.take stop).length := by
    rw [List.length_take, Nat.min_eq_left hstop]
    exact hlt
  unfold slice
  rw [List.drop_eq_getElem_cons htake, List.getElem_take]

theorem slice_getElem? {xs : List α} {start stop i : ℕ} :
    (slice xs start stop)[i]? = if start + i < stop then xs[start + i]? else none := by
  unfold slice
  rw [List.getElem?_drop, List.getElem?_take]

theorem length_splice {xs piece : List α} {start : ℕ}
    (hfits : start + piece.length ≤ xs.length) : (splice xs start piece).length = xs.length := by
  unfold splice
  rw [List.length_append, List.length_append, List.length_take, List.length_drop,
    Nat.min_eq_left (by omega)]
  omega

theorem splice_nil (xs : List α) (start : ℕ) : splice xs start [] = xs := by
  unfold splice
  rw [List.nil_append, List.length_nil, Nat.add_zero, List.take_append_drop]

/-- Writing entry by entry. -/
theorem splice_set {xs piece : List α} {start : ℕ} {x : α} (hstart : start < xs.length) :
    splice (xs.set start x) (start + 1) piece = splice xs start (x :: piece) := by
  unfold splice
  rw [List.take_set, List.drop_set_of_lt (by omega), List.length_cons,
    show start + (piece.length + 1) = start + 1 + piece.length by omega]
  rw [List.take_add_one, List.getElem?_eq_getElem hstart, Option.toList_some,
    List.set_append_right _ _ (by rw [List.length_take]; omega), List.length_take,
    Nat.min_eq_left (by omega), Nat.sub_self, List.set_cons_zero, List.append_assoc]
  rfl

/-- Writing one piece behind another. -/
theorem splice_append {xs piece piece' : List α} {start : ℕ}
    (hfits : start + piece.length ≤ xs.length) :
    splice (splice xs start piece) (start + piece.length) piece' =
      splice xs start (piece ++ piece') := by
  induction piece generalizing xs start with
  | nil => rw [splice_nil, List.length_nil, Nat.add_zero, List.nil_append]
  | cons x piece ih =>
    rw [List.length_cons] at hfits ⊢
    rw [← splice_set (by omega), List.cons_append, ← splice_set (by omega),
      show start + (piece.length + 1) = start + 1 + piece.length by omega]
    apply ih
    rw [List.length_set]
    omega

/-- A piece written over a list and taken out of it again. -/
theorem slice_splice {xs piece : List α} {start : ℕ} (hstart : start ≤ xs.length) :
    slice (splice xs start piece) start (start + piece.length) = piece := by
  unfold slice splice
  rw [List.take_append, List.take_of_length_le (by rw [List.length_take]; omega),
    List.length_take, Nat.min_eq_left hstart, Nat.add_sub_cancel_left,
    List.take_left, List.drop_left' (by rw [List.length_take]; omega)]

theorem splice_getElem? {xs piece : List α} {start : ℕ}
    (hfits : start + piece.length ≤ xs.length) (i : ℕ) :
    (splice xs start piece)[i]? =
      if start ≤ i ∧ i < start + piece.length then piece[i - start]? else xs[i]? := by
  have hlength : (xs.take start).length = start := by
    rw [List.length_take]
    omega
  unfold splice
  by_cases hbefore : i < start
  · rw [if_neg (by omega), List.getElem?_append_left (by omega), List.getElem?_take_of_lt hbefore]
  · rw [List.getElem?_append_right (by omega), hlength]
    by_cases hinside : i < start + piece.length
    · rw [if_pos ⟨by omega, hinside⟩, List.getElem?_append_left (by omega)]
    · rw [if_neg (by omega), List.getElem?_append_right (by omega), List.getElem?_drop]
      congr 1
      omega

/-! ## Runs -/

section Runs

variable {le : α → α → Bool}

/-- In order within each run of so many entries. -/
def Runs (le : α → α → Bool) (width : ℕ) (xs : List α) : Prop :=
  ∀ i j a b, i < j → i / width = j / width → xs[i]? = some a → xs[j]? = some b → le a b = true

theorem runs_one (xs : List α) : Runs le 1 xs := by
  intro i j a b hlt hrun
  rw [Nat.div_one, Nat.div_one] at hrun
  omega

/-- A single run is a sorted list. -/
theorem Runs.pairwise {width : ℕ} {xs : List α} (h : Runs le width xs)
    (hwidth : xs.length ≤ width) : xs.Pairwise fun a b => le a b = true := by
  rw [List.pairwise_iff_getElem]
  intro i j hi hj hlt
  apply h i j _ _ hlt
  · rw [Nat.div_eq_of_lt (by omega), Nat.div_eq_of_lt (by omega)]
  · exact List.getElem?_eq_getElem hi
  · exact List.getElem?_eq_getElem hj

/-- Before a place the runs are of twice the width. -/
structure Merged (le : α → α → Bool) (width first : ℕ) (xs : List α) : Prop where
  before : ∀ i j a b, i < j → j < first → i / (width * 2) = j / (width * 2) → xs[i]? = some a →
    xs[j]? = some b → le a b = true
  after : ∀ i j a b, i < j → first ≤ i → i / width = j / width → xs[i]? = some a →
    xs[j]? = some b → le a b = true

theorem Runs.merged {width : ℕ} {xs : List α} (h : Runs le width xs) : Merged le width 0 xs where
  before _ j _ _ _ hj := absurd hj (Nat.not_lt_zero j)
  after i j a b hlt _ := h i j a b hlt

theorem Merged.runs {width first : ℕ} {xs : List α} (h : Merged le width first xs)
    (hfirst : xs.length ≤ first) : Runs le (width * 2) xs := by
  intro i j a b hlt hrun hi hj
  obtain ⟨hj_lt, -⟩ := List.getElem?_eq_some_iff.mp hj
  exact h.before i j a b hlt (by omega) hrun hi hj

/-- A run that has not been merged is in order. -/
theorem Merged.slice {width first start stop : ℕ} {xs : List α} (h : Merged le width first xs)
    (hfirst : first ≤ start) (hrun : ∀ i, start ≤ i → i < stop → i / width = start / width) :
    (slice xs start stop).Pairwise fun a b => le a b = true := by
  rw [List.pairwise_iff_getElem]
  intro i j hi hj hlt
  have hi' := List.getElem?_eq_getElem hi
  have hj' := List.getElem?_eq_getElem hj
  rw [slice_getElem?] at hi' hj'
  split_ifs at hi' hj' with hi_stop hj_stop
  exact h.after (start + i) (start + j) _ _ (by omega) (by omega)
    ((hrun _ (by omega) hi_stop).trans (hrun _ (by omega) hj_stop).symm) hi' hj'

/-! ## Merging -/

/-- Neither is before the other. -/
def alike (le : α → α → Bool) (a b : α) : Bool := le a b && le b a

/-- The same entries, those alike in the same order. -/
structure Rearranged (le : α → α → Bool) (xs ys : List α) : Prop where
  perm : ys.Perm xs
  stable : ∀ a, ys.filter (alike le a) = xs.filter (alike le a)

theorem Rearranged.refl (xs : List α) : Rearranged le xs xs := ⟨.refl xs, fun _ => rfl⟩

theorem Rearranged.trans {xs ys zs : List α} (h : Rearranged le xs ys)
    (h' : Rearranged le ys zs) : Rearranged le xs zs :=
  ⟨h'.perm.trans h.perm, fun a => (h'.stable a).trans (h.stable a)⟩

theorem Rearranged.length_eq {xs ys : List α} (h : Rearranged le xs ys) :
    ys.length = xs.length := h.perm.length_eq

variable (trans : ∀ a b c, le a b = true → le b c = true → le a c = true)
  (total : ∀ a b, (le a b || le b a) = true)

include trans in
/-- What is before the head of a sorted list has nothing like it there. -/
theorem filter_alike_nil {a b : α} {xs : List α} (h : ∀ x ∈ xs, le b x = true)
    (hless : le b a = false) : xs.filter (alike le a) = [] := by
  rw [List.filter_eq_nil_iff]
  intro x hx halike
  unfold alike at halike
  rw [Bool.and_eq_true] at halike
  have hle := trans b x a (h x hx) halike.2
  rw [hless] at hle
  exact Bool.false_ne_true hle

include trans total in
theorem merge_stable {xs ys : List α} (hxs : xs.Pairwise fun a b => le a b = true)
    (a : α) :
    (xs.merge ys le).filter (alike le a) = (xs ++ ys).filter (alike le a) := by
  induction xs generalizing ys with
  | nil => rw [List.nil_merge, List.nil_append]
  | cons x xs ihx =>
    induction ys with
    | nil => rw [List.merge_right, List.append_nil]
    | cons y ys ihy =>
      rw [List.pairwise_cons] at hxs
      rw [List.cons_merge_cons]
      by_cases hle : le x y = true
      · rw [if_pos hle, List.cons_append, List.filter_cons, List.filter_cons, ihx hxs.2]
      · -- `y` is before all that is left, so nothing there is like it
        rw [if_neg hle, List.filter_cons, ihy, List.filter_append, List.filter_append]
        by_cases hy : alike le a y = true
        · have hya : le a y = true := by
            unfold alike at hy
            rw [Bool.and_eq_true] at hy
            exact hy.1
          have hless : le x a = false := by
            rw [← Bool.not_eq_true]
            intro hxa
            exact hle (trans x a y hxa hya)
          have hnone : (x :: xs).filter (alike le a) = [] := by
            apply filter_alike_nil trans _ hless
            intro z hz
            rw [List.mem_cons] at hz
            obtain rfl | hz := hz
            · have hself := total z z
              rwa [Bool.or_self] at hself
            · exact hxs.1 z hz
          rw [if_pos hy, hnone, List.nil_append, List.nil_append, List.filter_cons, if_pos hy]
        · rw [if_neg hy, List.filter_cons (x := y), if_neg hy]

include trans total in
theorem merge_rearranged {xs ys : List α} (hxs : xs.Pairwise fun a b => le a b = true) :
    Rearranged le (xs ++ ys) (xs.merge ys le) :=
  ⟨List.merge_perm_append le, merge_stable trans total hxs⟩

theorem slice_append {xs : List α} {start middle stop : ℕ} (hle : start ≤ middle)
    (hle' : middle ≤ stop) (hstop : stop ≤ xs.length) :
    slice xs start middle ++ slice xs middle stop = slice xs start stop := by
  apply List.ext_getElem?
  intro i
  have hlength : (slice xs start middle).length = middle - start :=
    length_slice (Nat.le_trans hle' hstop)
  by_cases hi : i < middle - start
  · rw [List.getElem?_append_left (by omega), slice_getElem?, slice_getElem?,
      if_pos (by omega), if_pos (by omega)]
  · rw [List.getElem?_append_right (by omega), slice_getElem?, slice_getElem?, hlength,
      show middle + (i - (middle - start)) = start + i by omega]

/-- A piece rearranged is the list rearranged. -/
theorem Rearranged.splice {xs piece : List α} {start stop : ℕ} (hle : start ≤ stop)
    (hstop : stop ≤ xs.length) (h : Rearranged le (slice xs start stop) piece) :
    Rearranged le xs (splice xs start piece) := by
  have hlength : start + piece.length = stop := by
    rw [h.length_eq, length_slice hstop]
    omega
  have hparts : xs = xs.take start ++ (slice xs start stop ++ xs.drop stop) := by
    have hfront : xs.take stop = xs.take start ++ slice xs start stop := by
      have hcut := List.take_append_drop start (xs.take stop)
      rw [List.take_take, Nat.min_eq_left hle] at hcut
      exact hcut.symm
    rw [← List.append_assoc, ← hfront, List.take_append_drop]
  unfold StableSort.splice
  rw [hlength]
  constructor
  · conv_rhs => rw [hparts]
    exact (h.perm.append_right _).append_left _
  · intro a
    conv_rhs => rw [hparts]
    rw [List.filter_append, List.filter_append, List.filter_append, List.filter_append, h.stable]

/-- A place in the first of two runs, or in the second. -/
theorem div_of_run {width first i : ℕ} (hwidth : 0 < width) (hfirst : first % (width * 2) = 0)
    (hle : first ≤ i) (hlt : i < first + width * 2) :
    i / (width * 2) = first / (width * 2) ∧
      i / width = if i < first + width then first / width else (first + width) / width := by
  obtain ⟨k, rfl⟩ := Nat.dvd_of_mod_eq_zero hfirst
  have hcommute : width * 2 * k = 2 * k * width := by
    rw [Nat.mul_comm width 2, Nat.mul_assoc, Nat.mul_comm width k, ← Nat.mul_assoc]
  constructor
  · rw [Nat.mul_div_cancel_left k (by omega)]
    apply Nat.div_eq_of_lt_le
    · rw [Nat.mul_comm k]
      exact hle
    · rw [Nat.succ_mul, Nat.mul_comm k]
      exact hlt
  · rw [hcommute] at hle hlt ⊢
    split_ifs with hleft
    · rw [Nat.mul_div_cancel _ hwidth]
      apply Nat.div_eq_of_lt_le
      · exact hle
      · rw [Nat.succ_mul]
        exact hleft
    · rw [← Nat.succ_mul, Nat.mul_div_cancel _ hwidth]
      apply Nat.div_eq_of_lt_le
      · rw [Nat.succ_mul]
        omega
      · rw [Nat.succ_mul, Nat.succ_mul]
        omega

include trans total in
/-- The first two runs that have not been merged, merged. -/
theorem Merged.step {width first middle last : ℕ} {xs : List α} (h : Merged le width first xs)
    (hwidth : 0 < width) (hfirst : first % (width * 2) = 0) (hlt : first < xs.length)
    (hmiddle : middle = min (first + width) xs.length)
    (hlast : last = min (middle + width) xs.length) :
    Merged le width (first + width * 2)
        (splice xs first ((StableSort.slice xs first middle).merge
          (StableSort.slice xs middle last) le)) ∧
      Rearranged le xs (splice xs first ((StableSort.slice xs first middle).merge
        (StableSort.slice xs middle last) le)) := by
  have hleft : (StableSort.slice xs first middle).Pairwise fun a b => le a b = true := by
    apply h.slice (Nat.le_refl first)
    intro i hfrom hto
    rw [(div_of_run hwidth hfirst hfrom (by omega)).2, if_pos (by omega)]
  have hright : (StableSort.slice xs middle last).Pairwise fun a b => le a b = true := by
    apply h.slice (by omega)
    intro i hfrom hto
    rw [(div_of_run hwidth hfirst (by omega) (by omega)).2, if_neg (by omega),
      show middle = first + width by omega]
  have hmerged := @merge_rearranged _ _ trans total _ (StableSort.slice xs middle last) hleft
  rw [slice_append (by omega) (by omega) (by omega)] at hmerged
  have hsorted := List.pairwise_merge trans total _ _ hleft hright
  have hlength := hmerged.length_eq
  rw [length_slice (by omega)] at hlength
  generalize (StableSort.slice xs first middle).merge (StableSort.slice xs middle last) le =
    piece at hmerged hsorted hlength ⊢
  refine ⟨⟨?_, ?_⟩, hmerged.splice (by omega) (by omega)⟩
  · intro i j a b hij hj hrun ha hb
    rw [splice_getElem? (by omega)] at ha hb
    by_cases hj_before : j < first
    · rw [if_neg (by omega)] at ha hb
      exact h.before i j a b hij hj_before hrun ha hb
    · have hj_run := (div_of_run hwidth hfirst (show first ≤ j by omega) hj).1
      have hi_from : first ≤ i := by
        -- a place before `first` is in an earlier run
        by_contra hbefore
        have hbase : first / (width * 2) * (width * 2) = first := Nat.div_mul_cancel
          (Nat.dvd_of_mod_eq_zero hfirst)
        rw [hj_run] at hrun
        have hi_base := Nat.div_mul_le_self i (width * 2)
        rw [hrun, hbase] at hi_base
        exact hbefore hi_base
      have hj_lt : j < last := by
        by_contra hbeyond
        rw [if_neg (by omega), List.getElem?_eq_none (by omega)] at hb
        cases hb
      rw [if_pos ⟨hi_from, by omega⟩] at ha
      rw [if_pos ⟨by omega, by omega⟩] at hb
      obtain ⟨hi_lt, rfl⟩ := List.getElem?_eq_some_iff.mp ha
      obtain ⟨hj_lt', rfl⟩ := List.getElem?_eq_some_iff.mp hb
      exact List.pairwise_iff_getElem.mp hsorted _ _ hi_lt hj_lt' (by omega)
  · intro i j a b hij hi hrun ha hb
    rw [splice_getElem? (by omega), if_neg (by omega)] at ha hb
    exact h.after i j a b hij (by omega) hrun ha hb

end Runs

end Nxvm.Lib.StableSort
