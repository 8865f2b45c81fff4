/-
What the sort command of the COP leaves in memory.

The lookup words are the old ones in the order of their objects' keys, those of one key in the
order they were in; no other byte changes. A read that fails leaves everything as it was.
-/
import Nxvm.Raiden.SortCommand
import Nxvm.Bus.Cycles

set_option autoImplicit false

namespace Nxvm.Raiden

open Nxvm.Chips (U8 U16 U32)
open Nxvm.Machine (Status)
open Nxvm.Lib Nxvm.Lib.StableSort

/-! ## The words -/

/-- Entries of words, sorted, are entries of the words so sorted. -/
structure SortedWords (key : U16 → ℤ) (parameter : U16) (words words' : List U16) : Prop where
  perm : words'.Perm words
  ascending : parameter = 1 → words'.Pairwise fun a b => key a ≤ key b
  descending : parameter = 2 → words'.Pairwise fun a b => key a ≥ key b
  stable : parameter = 1 ∨ parameter = 2 → ∀ k,
    words'.filter (fun word => key word = k) = words.filter fun word => key word = k
  unchanged : parameter ≠ 1 → parameter ≠ 2 → words' = words

theorem alike_iff (descending : Bool) (a b : SortEntry) :
    alike (take_left descending) a b = decide (b.key = a.key) := by
  unfold alike take_left
  rw [Bool.eq_iff_iff, Bool.and_eq_true]
  cases descending with
  | false =>
    rw [if_neg Bool.false_ne_true, if_neg Bool.false_ne_true, decide_eq_true_iff,
      decide_eq_true_iff, decide_eq_true_iff]
    omega
  | true =>
    rw [if_pos rfl, if_pos rfl, decide_eq_true_iff, decide_eq_true_iff, decide_eq_true_iff]
    omega

section Words

variable {entry : U16 → SortEntry}

/-- Entries that are those of some words are those of their own offsets. -/
theorem entries_of_offsets (hentry : ∀ word, (entry word).offset = word) {words : List U16}
    {entries : List SortEntry} (hperm : entries.Perm (words.map entry)) :
    (entries.map SortEntry.offset).map entry = entries := by
  have hsame : ∀ e ∈ entries, (entry ∘ SortEntry.offset) e = e := by
    intro e he
    obtain ⟨word, -, rfl⟩ := List.mem_map.mp (hperm.mem_iff.mp he)
    rw [Function.comp_apply, hentry]
  rw [List.map_map]
  exact (List.map_congr_left hsame).trans (List.map_id' entries)

theorem offsets_of_entries (hentry : ∀ word, (entry word).offset = word) (words : List U16) :
    (words.map entry).map SortEntry.offset = words := by
  rw [List.map_map]
  apply List.map_id''
  exact hentry

theorem sort_entries_spec (hentry : ∀ word, (entry word).offset = word) (parameter : U16)
    {count : ℕ} {words : List U16} (hwords : words.length = count) {scratch : List SortEntry}
    (hscratch : scratch.length = count) :
    ∃ sorted, sort_entries parameter count (words.map entry) scratch = some sorted ∧
      SortedWords (fun word => (entry word).key) parameter words
        (sorted.map SortEntry.offset) := by
  unfold sort_entries
  have hlength : (words.map entry).length = count := by
    rw [List.length_map]
    exact hwords
  by_cases hparameter : parameter = 1 ∨ parameter = 2
  · obtain ⟨sorted, used, hrun, hrearranged, hsorted⟩ :=
      cop_sort_stable_spec (decide (parameter = 2)) hlength hscratch
    have hentries := entries_of_offsets hentry hrearranged.perm
    rw [if_pos hparameter, hrun]
    refine ⟨sorted, rfl, ?_, ?_, ?_, ?_, ?_⟩
    · have hperm := hrearranged.perm.map SortEntry.offset
      rwa [offsets_of_entries hentry] at hperm
    · intro hone
      rw [hone, decide_eq_false (by decide), ← hentries, List.pairwise_map] at hsorted
      exact hsorted.imp fun h => of_decide_eq_true h
    · intro htwo
      rw [htwo, decide_eq_true rfl, ← hentries, List.pairwise_map] at hsorted
      exact hsorted.imp fun h => of_decide_eq_true h
    · intro _ k
      have hstable := hrearranged.stable ⟨0, k⟩
      have hfilter (list : List U16) :
          ((list.map entry).filter (alike (take_left (decide (parameter = 2))) ⟨0, k⟩)).map
              SortEntry.offset =
            list.filter fun word => (entry word).key = k := by
        rw [List.filter_map, offsets_of_entries hentry]
        apply List.filter_congr
        intro word _
        rw [Function.comp_apply, alike_iff]
      rw [← hentries] at hstable
      rw [← hfilter, ← hfilter, hstable]
    · intro hone htwo
      exact absurd hparameter (by rintro (h | h) <;> contradiction)
  · rw [if_neg hparameter]
    refine ⟨_, rfl, ?_⟩
    rw [offsets_of_entries hentry]
    exact ⟨.refl words, fun h => absurd (.inl h) hparameter, fun h => absurd (.inr h) hparameter,
      fun h => absurd h hparameter, fun _ _ => rfl⟩

end Words

/-! ## The command -/

/-- As many entries as there were. -/
theorem sort_entries_isSome (parameter : U16) {count : ℕ} {entries : List SortEntry}
    (hentries : entries.length = count) (block : ℕ → SortEntry) :
    ∃ sorted, sort_entries parameter count entries
        ((List.range count).map fun index => block (count + index)) = some sorted ∧
      sorted.length = count := by
  have hscratch : ((List.range count).map fun index => block (count + index)).length = count := by
    rw [List.length_map, List.length_range]
  unfold sort_entries
  by_cases hparameter : parameter = 1 ∨ parameter = 2
  · obtain ⟨sorted, used, hrun, hrearranged, -⟩ :=
      cop_sort_stable_spec (decide (parameter = 2)) hentries hscratch
    rw [if_pos hparameter, hrun]
    exact ⟨sorted, rfl, hrearranged.length_eq.trans hentries⟩
  · rw [if_neg hparameter]
    exact ⟨entries, rfl, hentries⟩

/-- The sort keeps to its buffers, whatever the memory does. -/
theorem cop_sort_isSome {σ : Type} (cycle : MemoryCycle σ) (block : Option (ℕ → SortEntry))
    (cop : Cop σ) : ∃ status cop', cop_sort cycle block cop = some (status, cop') := by
  unfold cop_sort
  dsimp only
  by_cases hcount : cop.pending.count.toNat = 0
  · rw [if_pos hcount]
    exact ⟨_, _, rfl⟩
  rw [if_neg hcount]
  cases block with
  | none => exact ⟨_, _, rfl⟩
  | some block =>
    dsimp only
    unfold read_tables
    obtain ⟨status, entries, read, hread, hlength⟩ :=
      read_entries_isSome (lookup_base cop) (object_base cop)
        (show ((List.range cop.pending.count.toNat).map block).length =
          cop.pending.count.toNat by rw [List.length_map, List.length_range]) cop
    rw [hread]
    dsimp only
    split_ifs with hstatus
    · exact ⟨_, _, rfl⟩
    · obtain ⟨sorted, hsort, hlength'⟩ := sort_entries_isSome (cop_word cop 0x458) hlength block
      rw [hsort]
      exact write_entries_isSome (lookup_base cop) hlength' read

/-- The memory before a sort and after it. -/
structure SortedTables (memory memory' : U32 → U8) (lookup object : U32) (count : ℕ)
    (parameter : U16) : Prop where
  words : SortedWords (object_key memory object) parameter (read_words memory lookup count)
    (read_words memory' lookup count)
  others : ∀ address, (∀ i < 2 * count, address ≠ lookup + BitVec.ofNat 32 i) →
    memory' address = memory address

section Tables

variable {σ : Type} {cycle cycle' : MemoryCycle σ} {bytes : σ → U32 → U8} {region : U32 → Prop}

/-- What a successful sort leaves. -/
theorem cop_sort_tables (h : WordMemory cycle bytes region) {block : Option (ℕ → SortEntry)}
    {cop cop' : Cop σ} (htables : TablesInMemory region (bytes cop.machine) (lookup_base cop)
      (object_base cop) cop.pending.count.toNat)
    (hsort : cop_sort cycle block cop = some (.ok, cop')) :
    SortedTables (bytes cop.machine) (bytes cop'.machine) (lookup_base cop) (object_base cop)
      cop.pending.count.toNat (cop_word cop 0x458) := by
  have hcount := cop.pending.count.isLt
  generalize hn : cop.pending.count.toNat = count at *
  unfold cop_sort at hsort
  dsimp only at hsort
  rw [hn] at hsort
  by_cases hzero : count = 0
  · rw [if_pos hzero] at hsort
    cases hsort
    subst hzero
    exact ⟨⟨.refl _, fun _ => .nil, fun _ => .nil, fun _ _ => rfl, fun _ _ => rfl⟩,
      fun _ _ => rfl⟩
  rw [if_neg hzero] at hsort
  cases block with
  | none => cases hsort
  | some block =>
    dsimp only at hsort
    have hblock : ((List.range count).map block).length = count := by
      rw [List.length_map, List.length_range]
    obtain ⟨status, entries, read, hread, hlength⟩ : ∃ status entries read,
        read_entries cycle (lookup_base cop) (object_base cop) count 0
          ((List.range count).map block) cop = some (status, entries, read) ∧
        entries.length = count := read_entries_isSome _ _ hblock cop
    have hreading : read_tables cycle block cop = some (status, entries, read) := by
      unfold read_tables
      rw [hn]
      exact hread
    rw [hreading] at hsort
    dsimp only at hsort
    by_cases hstatus : status = .ok
    · rw [if_neg (not_not.mpr hstatus)] at hsort
      subst hstatus
      obtain ⟨hsame, -⟩ := read_entries_spec h hblock htables hread
      have hentries := read_entries_all h hblock htables hlength hread
      have hwords := length_read_words (bytes cop.machine) (lookup_base cop) count
      generalize hold : read_words (bytes cop.machine) (lookup_base cop) count = words at *
      have hscratch : ((List.range count).map fun index => block (count + index)).length =
          count := by
        rw [List.length_map, List.length_range]
      have hoffset (word : U16) :
          (entry_of (bytes cop.machine) (object_base cop) word).offset = word := rfl
      obtain ⟨sorted, hrun, hspec⟩ :=
        sort_entries_spec hoffset (cop_word cop 0x458) hwords hscratch
      rw [hentries, hrun] at hsort
      dsimp only at hsort
      have hsorted : (sorted.map SortEntry.offset).length = count :=
        hspec.perm.length_eq.trans hwords
      have hmemory := write_entries_spec h (by rwa [List.length_map] at hsorted)
        htables.lookup_word hsort
      rw [BitVec.zero_mul, BitVec.add_zero, List.drop_zero, hsame.memory] at hmemory
      constructor
      · have hback : read_words (bytes cop'.machine) (lookup_base cop) count =
            sorted.map SortEntry.offset := by
          rw [hmemory, ← hsorted]
          exact read_words_write_words (by omega)
        rw [hback, hold]
        exact hspec
      · intro address hout
        rw [hmemory]
        apply write_words_of_ne
        rw [hsorted]
        exact hout
    · rw [if_pos hstatus] at hsort
      obtain ⟨hok, -⟩ := Prod.mk.inj (Option.some.inj hsort)
      exact absurd hok hstatus

/-- The sort goes no further than a read that fails. -/
theorem cop_sort_read_failed {block : ℕ → SortEntry} {cop read : Cop σ} {status : Status}
    {entries : List SortEntry} (hread : read_tables cycle block cop = some (status, entries, read))
    (hstatus : status ≠ .ok) : cop_sort cycle (some block) cop = some (status, read) := by
  unfold cop_sort
  dsimp only
  by_cases hcount : cop.pending.count.toNat = 0
  · -- without words nothing is read that could fail
    unfold read_tables at hread
    rw [hcount, read_entries, if_neg (Nat.lt_irrefl 0)] at hread
    cases hread
    exact absurd rfl hstatus
  · rw [if_neg hcount, hread]
    exact if_pos hstatus

theorem cop_lanes_congr (hsame : ∀ machine address n lane,
      cycle' machine address n false lane = cycle machine address n false lane)
    (address : U32) (n : ℕ) (value : U32) (index : ℕ) (result : U32) (cop : Cop σ) :
    cop_lanes cycle' address n false value index result cop =
      cop_lanes cycle address n false value index result cop := by
  induction hk : n - index using Nat.strong_induction_on generalizing index result cop with
  | _ k ih =>
    rw [cop_lanes, cop_lanes]
    dsimp only
    rw [if_neg Bool.false_ne_true, hsame]
    by_cases hindex : index < n
    · rw [if_pos hindex, if_pos hindex, ih (n - (index + (if n = 1 then 1 else 2))) (by
        split_ifs <;> omega) _ _ _ rfl]
    · rw [if_neg hindex, if_neg hindex]

/-- The first loop makes no write. -/
theorem read_entries_congr (hsame : ∀ machine address n lane,
      cycle' machine address n false lane = cycle machine address n false lane)
    (lookup object : U32) (count index : ℕ) (entries : List SortEntry) (cop : Cop σ) :
    read_entries cycle' lookup object count index entries cop =
      read_entries cycle lookup object count index entries cop := by
  have hmemory (cop : Cop σ) (base displacement : U32) (n : ℕ) (value : U32) :
      cop_memory cycle' cop base displacement n false value =
        cop_memory cycle cop base displacement n false value := by
    unfold cop_memory
    rw [cop_lanes_congr hsame]
  induction hn : count - index generalizing index entries cop with
  | zero => rw [read_entries, read_entries, if_neg (by omega), if_neg (by omega)]
  | succ n ih =>
    rw [read_entries, read_entries, if_pos (by omega), if_pos (by omega)]
    simp only [hmemory]
    generalize (if (cop_memory cycle cop lookup (BitVec.ofNat 32 index * 2) 2 false 0).1 = .ok then
      _ else _) = called
    cases entry_set entries index _ with
    | none => rfl
    | some entries =>
      dsimp only
      rw [ih _ _ _ (by omega)]

/-- Where every cycle succeeds and the tables fit, so does the sort. -/
theorem cop_sort_ok (h : WordMemory cycle bytes region)
    (hcycle : ∀ machine address write lane, (cycle machine address 2 write lane).1 = .ok)
    {block : ℕ → SortEntry} {cop cop' : Cop σ} {status : Status}
    (htables : TablesInMemory region (bytes cop.machine) (lookup_base cop) (object_base cop)
      cop.pending.count.toNat)
    (hfit : TablesFit (bytes cop.machine) (lookup_base cop) (object_base cop)
      cop.pending.count.toNat)
    (hsort : cop_sort cycle (some block) cop = some (status, cop')) : status = .ok := by
  have hcount := cop.pending.count.isLt
  unfold cop_sort at hsort
  dsimp only at hsort
  by_cases hzero : cop.pending.count.toNat = 0
  · rw [if_pos hzero] at hsort
    cases hsort
    rfl
  rw [if_neg hzero] at hsort
  have hblock : ((List.range cop.pending.count.toNat).map block).length =
      cop.pending.count.toNat := by
    rw [List.length_map, List.length_range]
  obtain ⟨status', entries, read, hread, hlength⟩ : ∃ status entries read,
      read_tables cycle block cop = some (status, entries, read) ∧
        entries.length = cop.pending.count.toNat := read_entries_isSome _ _ hblock cop
  have hok := read_entries_ok h hcycle hcount hblock htables hfit hread
  rw [hread] at hsort
  dsimp only at hsort
  rw [if_neg (not_not.mpr hok)] at hsort
  obtain ⟨sorted, hsorted, hlength'⟩ := sort_entries_isSome (cop_word cop 0x458) hlength block
  rw [hsorted] at hsort
  exact write_entries_ok hcycle hcount hfit.lookup_lt hlength' hsort

/-- A sort command keeps to its buffers and ends. Where it succeeds, and it does so where the
cycles do, the lookup words are sorted by the keys of their objects and nothing else is written;
where a read fails nothing is. -/
theorem cop_advance_sort_command (h : WordMemory cycle bytes region)
    (block : Option (ℕ → SortEntry)) (cop : Cop σ)
    (htables : TablesInMemory region (bytes cop.machine) (lookup_base cop) (object_base cop)
      cop.pending.count.toNat) :
    ∃ status cop', cop_advance_sort cycle block cop = some (status, cop') ∧
      (status = .ok → SortedTables (bytes cop.machine) (bytes cop'.machine) (lookup_base cop)
        (object_base cop) cop.pending.count.toNat (cop_word cop 0x458)) ∧
      ((∀ machine address write lane, (cycle machine address 2 write lane).1 = .ok) →
        block.isSome = true → TablesFit (bytes cop.machine) (lookup_base cop) (object_base cop)
          cop.pending.count.toNat → status = .ok) ∧
      ∀ allocated, block = some allocated → ∀ status' entries read,
        read_tables cycle allocated (begin_sort cop) = some (status', entries, read) →
          status' ≠ .ok →
            status = status' ∧ bytes cop'.machine = bytes cop.machine ∧
              ∀ cycle' : MemoryCycle σ, (∀ machine address n lane,
                  cycle' machine address n false lane = cycle machine address n false lane) →
                cop_advance_sort cycle' block cop = cop_advance_sort cycle block cop := by
  have hkept (status : Status) (cop' : Cop σ) :
      (if status ≠ .ok then cop_note_failure cop' status 0 else cop').machine = cop'.machine := by
    unfold cop_note_failure
    split_ifs
    all_goals rfl
  have hbegun : TablesInMemory region (bytes (begin_sort cop).machine)
      (lookup_base (begin_sort cop)) (object_base (begin_sort cop))
      (begin_sort cop).pending.count.toNat := htables
  obtain ⟨status, sorted, hsort⟩ := cop_sort_isSome cycle block (begin_sort cop)
  have hadvance : cop_advance_sort cycle block cop = some (status,
      { (if status ≠ .ok then cop_note_failure sorted status 0 else sorted) with
        pending := CopPending.clear }) := by
    unfold cop_advance_sort
    rw [hsort]
  refine ⟨_, _, hadvance, ?_, ?_, ?_⟩
  · intro hstatus
    dsimp only
    rw [hkept]
    rw [hstatus] at hsort
    have hsorted := cop_sort_tables h hbegun hsort
    exact hsorted
  · intro hcycle hblock hfit
    obtain ⟨allocated, rfl⟩ := Option.isSome_iff_exists.mp hblock
    exact cop_sort_ok h hcycle hbegun hfit hsort
  · rintro allocated rfl status' entries read hread hstatus
    have hstopped := cop_sort_read_failed hread hstatus
    rw [hsort] at hstopped
    obtain ⟨rfl, rfl⟩ := Prod.mk.inj (Option.some.inj hstopped)
    have hblock : ((List.range (begin_sort cop).pending.count.toNat).map allocated).length =
        (begin_sort cop).pending.count.toNat := by
      rw [List.length_map, List.length_range]
    obtain ⟨hsame, -⟩ := read_entries_spec h hblock hbegun hread
    refine ⟨rfl, ?_, ?_⟩
    · dsimp only
      rw [hkept, hsame.memory]
      rfl
    · intro cycle' hreads
      have hread' : read_tables cycle' allocated (begin_sort cop) =
          some (status, entries, sorted) := by
        rw [← hread]
        exact read_entries_congr hreads _ _ _ _ _ _
      unfold cop_advance_sort
      rw [hsort, cop_sort_read_failed hread' hstatus]

end Tables

/-! ## Plain memory -/

/-- So many bytes from address zero, and the lane of the cycle that is on the bus. -/
structure PlainMemory where
  size : ℕ
  bytes : U32 → U8
  lane : U16

/-- A word access of it. -/
def plain_access (address : U32) (write : Bool) (m : Bus.BusMachine PlainMemory) :
    Status × Bus.BusMachine PlainMemory :=
  (.ok, m.with_context (if write then
      { m.context with bytes := write_word m.context.bytes address m.context.lane }
    else { m.context with lane := memory_word m.context.bytes address }))

/-- The cycle of a machine with plain memory, of words. -/
def plain_cycle : MemoryCycle (Bus.BusMachine PlainMemory) := fun m address n write lane =>
  let called := Bus.dma_memory_cycle
    ⟨address.toNat, n, 0, write, if address.toNat + n ≤ m.context.size then .ok else
      .internal_error⟩
    (fun m => (.ok, m)) (plain_access address write) (fun m => (.ok, m))
    (m.with_context { m.context with lane })
  (called.1, called.2.context.lane, called.2)

/-- It is memory. -/
theorem plain_cycle_memory :
    WordMemory plain_cycle (fun m => m.context.bytes) fun _ => True where
  read m address lane _ hok := by
    unfold plain_cycle at hok ⊢
    dsimp only at hok ⊢
    unfold Bus.dma_memory_cycle at hok ⊢
    dsimp only at hok ⊢
    split_ifs at hok ⊢
    all_goals first | contradiction | exact ⟨rfl, rfl⟩
  write m address lane _ hok := by
    unfold plain_cycle at hok ⊢
    dsimp only at hok ⊢
    unfold Bus.dma_memory_cycle at hok ⊢
    dsimp only at hok ⊢
    split_ifs at hok ⊢
    all_goals first | contradiction | rfl
  failed m address write lane _ hbad := by
    unfold plain_cycle at hbad ⊢
    dsimp only at hbad ⊢
    unfold Bus.dma_memory_cycle at hbad ⊢
    dsimp only at hbad ⊢
    split_ifs at hbad ⊢
    all_goals first | rfl | exact absurd rfl hbad

/-- Three words, two of them of objects with one key. -/
def plain_bytes (address : U32) : U8 :=
  if address = 0x1000 then 4 else if address = 0x1002 then 0 else if address = 0x1004 then 8
  else if address = 0x2000 then 7 else if address = 0x2004 then 7 else if address = 0x200b then 0x80
  else 0

/-- A bus without a cycle on it. -/
def plain_machine : Bus.BusMachine PlainMemory where
  transaction := Bus.transaction_initialize
  transaction_contract := ⟨0, false, false, false, 0⟩
  cpu_profile := .v30
  elapsed_ticks := 0
  dma_cycle_wait_remaining := 0
  refresh_cycle_ticks_remaining := 0
  dma_cycle_bus_ready := true
  cpu_cycle_bus_ready := true
  context := ⟨0x10000, plain_bytes, 0⟩

/-- The sort of three words from `0x1000`, ascending, of objects from `0x2000`. -/
def plain_cop : Cop (Bus.BusMachine PlainMemory) where
  machine := plain_machine
  registers index :=
    if index = 0x53 then 0x20 else if index = 0x57 then 0x10 else if index = 0x58 then 1 else 0
  pending := ⟨.sort, 0, 0, 0, 3, 0⟩
  failure := CopFailure.clear

theorem cop_advance_sort_plain :
    ∃ status cop', cop_advance_sort plain_cycle (some fun _ => ⟨0, 0⟩) plain_cop =
        some (status, cop') ∧
      (status = .ok → SortedTables plain_bytes cop'.machine.context.bytes (lookup_base plain_cop)
        (object_base plain_cop) 3 (cop_word plain_cop 0x458)) := by
  obtain ⟨status, cop', hrun, hsorted, -⟩ := cop_advance_sort_command plain_cycle_memory
    (some fun _ => ⟨0, 0⟩) plain_cop ⟨fun _ _ => trivial, fun _ _ => trivial, fun _ _ => trivial⟩
  exact ⟨status, cop', hrun, hsorted⟩

end Nxvm.Raiden
