/-
The sorting of the COP's entries (`cop.c`).

Runs are merged from `entries` into `scratch` and copied back, at widths that double. The two
buffers are given with their lengths, and an access outside of one has no result: that there is a
result says that the loops stay inside.
-/
import Nxvm.Chips.Words
import Nxvm.Lib.StableSort

set_option autoImplicit false

namespace Nxvm.Raiden

open Nxvm.Chips (U8 U16 U32)
open Nxvm.Lib Nxvm.Lib.StableSort

/-- `myraidenii_core_cop_sort_entry`. -/
structure SortEntry where
  offset : U16
  key : ℤ
  deriving DecidableEq, Repr

/-- A write to a buffer. -/
def entry_set (entries : List SortEntry) (index : ℕ) (entry : SortEntry) :
    Option (List SortEntry) :=
  if index < entries.length then some (entries.set index entry) else none

/-- Whether the left entry is taken. -/
def take_left (descending : Bool) (left right : SortEntry) : Bool :=
  if descending then decide (left.key ≥ right.key) else decide (left.key ≤ right.key)

/-! ## The loops -/

/-- `target[output++] = source[left++]`, up to `limit`. -/
def copy_entries (source : List SortEntry) (limit left output : ℕ) (target : List SortEntry) :
    Option (List SortEntry × ℕ) :=
  if left < limit then do
    let entry ← source[left]?
    let target ← entry_set target output entry
    copy_entries source limit (left + 1) (output + 1) target
  else some (target, output)
termination_by limit - left

/-- The merge of two runs into `scratch`. -/
def merge_entries (descending : Bool) (entries : List SortEntry) (middle last : ℕ)
    (left right output : ℕ) (scratch : List SortEntry) : Option (List SortEntry) :=
  if left < middle ∧ right < last then do
    let left_entry ← entries[left]?
    let right_entry ← entries[right]?
    if take_left descending left_entry right_entry then
      let scratch ← entry_set scratch output left_entry
      merge_entries descending entries middle last (left + 1) right (output + 1) scratch
    else
      let scratch ← entry_set scratch output right_entry
      merge_entries descending entries middle last left (right + 1) (output + 1) scratch
  else do
    let (scratch, output) ← copy_entries entries middle left output scratch
    let (scratch, _) ← copy_entries entries last right output scratch
    some scratch
termination_by (middle - left) + (last - right)

/-- Every two runs of a width. -/
def merge_width (descending : Bool) (count width : ℕ) (hwidth : 0 < width) (first : ℕ)
    (entries scratch : List SortEntry) : Option (List SortEntry × List SortEntry) :=
  if first < count then do
    let middle := if first + width < count then first + width else count
    let last := if middle + width < count then middle + width else count
    let scratch ← merge_entries descending entries middle last first middle first scratch
    let (entries, _) ← copy_entries scratch last first first entries
    merge_width descending count width hwidth (first + width * 2) entries scratch
  else some (entries, scratch)
termination_by count - first

/-- Every width from one on. -/
def sort_widths (descending : Bool) (count width : ℕ) (hwidth : 0 < width)
    (entries scratch : List SortEntry) : Option (List SortEntry × List SortEntry) :=
  if width < count then do
    let (entries, scratch) ← merge_width descending count width hwidth 0 entries scratch
    if width > count / 2 then some (entries, scratch)
    else sort_widths descending count (width * 2) (by omega) entries scratch
  else some (entries, scratch)
termination_by count - width

/-- `myraidenii_core_cop_sort_stable`: the two buffers, sorted and used. -/
def cop_sort_stable (entries scratch : List SortEntry) (count : ℕ) (descending : Bool) :
    Option (List SortEntry × List SortEntry) :=
  sort_widths descending count 1 Nat.one_pos entries scratch

/-! ## What they do -/

theorem take_left_trans (descending : Bool) (a b c : SortEntry)
    (hab : take_left descending a b = true) (hbc : take_left descending b c = true) :
    take_left descending a c = true := by
  unfold take_left at *
  cases descending with
  | false =>
    rw [if_neg Bool.false_ne_true, decide_eq_true_iff] at *
    omega
  | true =>
    rw [if_pos rfl, decide_eq_true_iff] at *
    omega

theorem take_left_total (descending : Bool) (a b : SortEntry) :
    (take_left descending a b || take_left descending b a) = true := by
  unfold take_left
  rw [Bool.or_eq_true]
  cases descending with
  | false =>
    rw [if_neg Bool.false_ne_true, if_neg Bool.false_ne_true, decide_eq_true_iff,
      decide_eq_true_iff]
    omega
  | true =>
    rw [if_pos rfl, if_pos rfl, decide_eq_true_iff, decide_eq_true_iff]
    omega

theorem copy_entries_eq {source target : List SortEntry} {limit left output : ℕ}
    (hlimit : limit ≤ source.length) (hfits : output + (limit - left) ≤ target.length) :
    copy_entries source limit left output target =
      some (splice target output (slice source left limit), output + (limit - left)) := by
  induction hn : limit - left generalizing left output target with
  | zero =>
    rw [copy_entries, if_neg (by omega), slice_nil source (by omega), splice_nil, Nat.add_zero]
  | succ n ih =>
    have hindex : left < source.length := by omega
    have hsource := List.getElem?_eq_getElem hindex
    generalize hentry : source[left] = entry at hsource
    have hset : entry_set target output entry = some (target.set output entry) :=
      if_pos (by omega)
    have hrest : copy_entries source limit (left + 1) (output + 1) (target.set output entry) =
        some (splice (target.set output entry) (output + 1) (slice source (left + 1) limit),
          output + 1 + n) :=
      ih (by rw [List.length_set]; omega) (by omega)
    rw [copy_entries, if_pos (by omega), hsource]
    simp only [Option.bind_eq_bind, Option.bind_some, hset]
    rw [hrest, splice_set (by omega), slice_cons hlimit (show left < limit by omega), hentry,
      show output + 1 + n = output + (n + 1) by omega]

/-- What is left of one run when the other is used up. -/
theorem merge_entries_rest {descending : Bool} {entries scratch : List SortEntry}
    {middle last left right output : ℕ} (hmiddle : middle ≤ entries.length)
    (hlast : last ≤ entries.length)
    (hfits : output + (middle - left) + (last - right) ≤ scratch.length)
    (hdone : ¬ (left < middle ∧ right < last)) :
    merge_entries descending entries middle last left right output scratch =
      some (splice scratch output (slice entries left middle ++ slice entries right last)) := by
  have hlength : (slice entries left middle).length = middle - left := length_slice hmiddle
  have hright : copy_entries entries last right (output + (middle - left))
        (splice scratch output (slice entries left middle)) =
      some (splice (splice scratch output (slice entries left middle))
        (output + (middle - left)) (slice entries right last),
          output + (middle - left) + (last - right)) :=
    copy_entries_eq hlast (by rw [length_splice (by omega)]; exact hfits)
  rw [merge_entries, if_neg hdone, copy_entries_eq hmiddle (by omega), Option.bind_eq_bind,
    Option.bind_some]
  dsimp only
  rw [hright, Option.bind_some, ← hlength, splice_append (by omega)]

theorem merge_entries_eq {descending : Bool} {entries scratch : List SortEntry}
    {middle last left right output : ℕ} (hmiddle : middle ≤ entries.length)
    (hlast : last ≤ entries.length)
    (hfits : output + (middle - left) + (last - right) ≤ scratch.length) :
    merge_entries descending entries middle last left right output scratch =
      some (splice scratch output
        ((slice entries left middle).merge (slice entries right last)
          (take_left descending))) := by
  induction hn : (middle - left) + (last - right) generalizing left right output scratch with
  | zero =>
    rw [merge_entries_rest hmiddle hlast hfits (by omega), slice_nil _ (show middle ≤ left by omega),
      slice_nil _ (show last ≤ right by omega), List.nil_append, List.nil_merge]
  | succ n ih =>
    by_cases hboth : left < middle ∧ right < last
    · have hindex : left < entries.length := by omega
      have hindex' : right < entries.length := by omega
      have hleft := List.getElem?_eq_getElem hindex
      have hright := List.getElem?_eq_getElem hindex'
      have hslice := slice_cons hmiddle hboth.1
      have hslice' := slice_cons hlast hboth.2
      generalize entries[left] = left_entry at hleft hslice
      generalize entries[right] = right_entry at hright hslice'
      have hset (entry : SortEntry) :
          entry_set scratch output entry = some (scratch.set output entry) := if_pos (by omega)
      rw [merge_entries, if_pos hboth, hleft, hright, hslice, hslice', List.cons_merge_cons]
      simp only [Option.bind_eq_bind, Option.bind_some, hset]
      by_cases htake : take_left descending left_entry right_entry = true
      · have hrest : merge_entries descending entries middle last (left + 1) right (output + 1)
            (scratch.set output left_entry) = some (splice (scratch.set output left_entry)
              (output + 1) ((slice entries (left + 1) middle).merge (slice entries right last)
                (take_left descending))) :=
          ih (by rw [List.length_set]; omega) (by omega)
        rw [if_pos htake, if_pos htake, hrest, splice_set (by omega),
          hslice']
      · have hrest : merge_entries descending entries middle last left (right + 1) (output + 1)
            (scratch.set output right_entry) = some (splice (scratch.set output right_entry)
              (output + 1) ((slice entries left middle).merge (slice entries (right + 1) last)
                (take_left descending))) :=
          ih (by rw [List.length_set]; omega) (by omega)
        rw [if_neg htake, if_neg htake, hrest, splice_set (by omega),
          hslice]
    · rw [merge_entries_rest hmiddle hlast hfits hboth]
      by_cases hleft : left < middle
      · rw [slice_nil entries (show last ≤ right by omega), List.append_nil, List.merge_right]
      · rw [slice_nil entries (show middle ≤ left by omega), List.nil_append, List.nil_merge]

/-- One width: the runs are twice as wide. -/
theorem merge_width_spec {descending : Bool} {count width first : ℕ} (hwidth : 0 < width)
    {entries scratch : List SortEntry} (hentries : entries.length = count)
    (hscratch : scratch.length = count) (hfirst : first % (width * 2) = 0)
    (hmerged : Merged (take_left descending) width first entries) :
    ∃ entries' scratch',
      merge_width descending count width hwidth first entries scratch =
          some (entries', scratch') ∧
        entries'.length = count ∧ scratch'.length = count ∧
        Rearranged (take_left descending) entries entries' ∧
        Runs (take_left descending) (width * 2) entries' := by
  induction hn : count - first using Nat.strong_induction_on
    generalizing first entries scratch with
  | _ n ih =>
    by_cases hlt : first < count
    · generalize hmiddle :
        (if first + width < count then first + width else count) = middle
      generalize hlast : (if middle + width < count then middle + width else count) = last
      have hmiddle_eq : middle = min (first + width) entries.length := by
        rw [← hmiddle, hentries]
        split_ifs
        all_goals omega
      have hlast_eq : last = min (middle + width) entries.length := by
        rw [← hlast, hentries]
        split_ifs
        all_goals omega
      obtain ⟨hnext, hrearranged⟩ := hmerged.step (take_left_trans descending)
        (take_left_total descending) hwidth hfirst (by omega) hmiddle_eq hlast_eq
      have hmerge : merge_entries descending entries middle last first middle first scratch =
          some (splice scratch first ((slice entries first middle).merge
            (slice entries middle last) (take_left descending))) :=
        merge_entries_eq (by omega) (by omega) (by omega)
      have hpiece : ((slice entries first middle).merge (slice entries middle last)
          (take_left descending)).length = last - first := by
        rw [List.length_merge, length_slice (by omega), length_slice (by omega)]
        omega
      generalize (slice entries first middle).merge (slice entries middle last)
        (take_left descending) = piece at *
      have hlength : (splice scratch first piece).length = count := by
        rw [length_splice (by omega), hscratch]
      have hback : copy_entries (splice scratch first piece) last first first entries =
          some (splice entries first piece, first + (last - first)) := by
        rw [copy_entries_eq (by omega) (by omega)]
        have hslice : slice (splice scratch first piece) first last = piece := by
          rw [show last = first + piece.length by omega, slice_splice (by omega)]
        rw [hslice]
      obtain ⟨entries', scratch', hrun, hentries', hscratch', hmore, hruns⟩ :=
        ih (count - (first + width * 2)) (by omega) (by rw [length_splice (by omega), hentries])
          hlength (by rw [Nat.add_mod_right]; exact hfirst) hnext rfl
      refine ⟨entries', scratch', ?_, hentries', hscratch', hrearranged.trans hmore, hruns⟩
      rw [merge_width, if_pos hlt]
      dsimp only
      rw [hmiddle, hlast, hmerge]
      simp only [Option.bind_eq_bind, Option.bind_some, hback]
      exact hrun
    · refine ⟨entries, scratch, ?_, hentries, hscratch, .refl entries, hmerged.runs (by omega)⟩
      rw [merge_width, if_neg hlt]

/-- Every width: the runs become one. -/
theorem sort_widths_spec {descending : Bool} {count width : ℕ} (hwidth : 0 < width)
    {entries scratch : List SortEntry} (hentries : entries.length = count)
    (hscratch : scratch.length = count) (hruns : Runs (take_left descending) width entries) :
    ∃ entries' scratch',
      sort_widths descending count width hwidth entries scratch = some (entries', scratch') ∧
        Rearranged (take_left descending) entries entries' ∧
        entries'.Pairwise fun a b => take_left descending a b = true := by
  induction hn : count - width using Nat.strong_induction_on
    generalizing width entries scratch with
  | _ n ih =>
    by_cases hlt : width < count
    · obtain ⟨entries', scratch', hrun, hentries', hscratch', hrearranged, hruns'⟩ :=
        merge_width_spec hwidth hentries hscratch (Nat.zero_mod _) hruns.merged
      by_cases hstop : width > count / 2
      · refine ⟨entries', scratch', ?_, hrearranged, hruns'.pairwise (by omega)⟩
        rw [sort_widths, if_pos hlt, hrun, Option.bind_eq_bind, Option.bind_some]
        exact if_pos hstop
      · obtain ⟨sorted, used, hrest, hmore, hsorted⟩ :=
          ih (count - width * 2) (by omega) (by omega) hentries' hscratch' hruns' rfl
        refine ⟨sorted, used, ?_, hrearranged.trans hmore, hsorted⟩
        rw [sort_widths, if_pos hlt, hrun, Option.bind_eq_bind, Option.bind_some]
        exact (if_neg hstop).trans hrest
    · refine ⟨entries, scratch, ?_, .refl entries, hruns.pairwise (by omega)⟩
      rw [sort_widths, if_neg hlt]

/-- The loops stay inside of the buffers and sort, whatever is in the scratch buffer. -/
theorem cop_sort_stable_spec (descending : Bool) {count : ℕ} {entries scratch : List SortEntry}
    (hentries : entries.length = count) (hscratch : scratch.length = count) :
    ∃ entries' scratch',
      cop_sort_stable entries scratch count descending = some (entries', scratch') ∧
        Rearranged (take_left descending) entries entries' ∧
        entries'.Pairwise fun a b => take_left descending a b = true :=
  sort_widths_spec Nat.one_pos hentries hscratch (runs_one entries)

end Nxvm.Raiden
