/-
The sort command of the COP (`cop.c`).

The command reads the lookup words and the keys of the objects they name, sorts, and writes the
words back. What a memory cycle does is a parameter: of it only that where there is memory a cycle
reads what was written, and that one that fails leaves the memory alone.
-/
import Nxvm.Raiden.Sort
import Nxvm.Machine.Status

set_option autoImplicit false

namespace Nxvm.Raiden

open Nxvm.Chips (U8 U16 U32)
open Nxvm.Machine (Status)
open Nxvm.Lib Nxvm.Lib.StableSort

/-! ## The COP -/

/-- `myraidenii_core_cop_operation`. -/
inductive CopOperation where
  | none
  | command
  | dma
  | sort
  deriving DecidableEq, Repr

/-- `myraidenii_core_cop_failure_observation`. -/
structure CopFailure where
  valid : Bool
  operation : CopOperation
  operation_value : U16
  dma_source : U16
  dma_size : U16
  dma_destination : U16
  dma_relative : U16
  physical : U32
  status : Status
  deriving DecidableEq, Repr

def CopFailure.clear : CopFailure := ⟨false, .none, 0, 0, 0, 0, 0, 0, .ok⟩

/-- `myraidenii_core_cop_pending`; `kind` is named after the operation. -/
structure CopPending where
  kind : CopOperation
  command : U16
  mode : U16
  relative : U16
  count : U16
  slot : U8
  deriving DecidableEq, Repr

def CopPending.clear : CopPending := ⟨.none, 0, 0, 0, 0, 0⟩

/-- `myraidenii_core_cop`, what the sort uses of it; `σ` is the machine. -/
structure Cop (σ : Type) where
  machine : σ
  registers : ℕ → U8
  pending : CopPending
  failure : CopFailure

/-- `x86_core_machine_dma_memory_cycle` of the address, the width, whether it writes, and the
lane: the status, the lane after it and the machine. -/
abbrev MemoryCycle (σ : Type) := σ → U32 → ℕ → Bool → U16 → Status × U16 × σ

section Command

variable {σ : Type} (cycle : MemoryCycle σ)

/-- `myraidenii_core_cop_word`. -/
def cop_word (cop : Cop σ) (physical : ℕ) : U16 :=
  (cop.registers (physical - 0x400)).setWidth 16 |||
    (cop.registers (physical - 0x400 + 1)).setWidth 16 <<< 8

/-- `myraidenii_core_cop_note_failure`. -/
def cop_note_failure (cop : Cop σ) (status : Status) (physical : U32) : Cop σ :=
  if cop.failure.valid then cop
  else { cop with failure := { cop.failure with valid := true, status, physical } }

/-- The cycles of `myraidenii_core_cop_memory`, from `index` on. -/
def cop_lanes (address : U32) (bytes : ℕ) (write : Bool) (value : U32) (index : ℕ) (result : U32)
    (cop : Cop σ) : Status × U32 × Cop σ :=
  if index < bytes then
    let lane : U16 := if write then (value >>> (index * 8)).setWidth 16 else 0
    if address.toNat > 0xffffffff - index then
      (.invalid_argument, result, cop_note_failure cop .invalid_argument address)
    else
      let called := cycle cop.machine (address + BitVec.ofNat 32 index)
        (if bytes = 1 then 1 else 2) write lane
      let cop := { cop with machine := called.2.2 }
      if called.1 ≠ .ok then
        (called.1, result, cop_note_failure cop called.1 (address + BitVec.ofNat 32 index))
      else
        cop_lanes address bytes write value (index + (if bytes = 1 then 1 else 2))
          (result ||| called.2.1.setWidth 32 <<< (index * 8)) cop
  else (.ok, result, cop)
termination_by bytes - index
decreasing_by split <;> omega

/-- `myraidenii_core_cop_memory`: the status, `*value` after it and the COP. -/
def cop_memory (cop : Cop σ) (base displacement : U32) (bytes : ℕ) (write : Bool) (value : U32) :
    Status × U32 × Cop σ :=
  if base.toNat > 0xffffffff - displacement.toNat then
    (.invalid_argument, value, cop_note_failure cop .invalid_argument base)
  else
    let called := cop_lanes cycle (base + displacement) bytes write value 0 0 cop
    (called.1, if called.1 = .ok ∧ !write then called.2.1 else value, called.2.2)

/-- `myraidenii_core_cop_signed_dword`. -/
def cop_signed_dword (value : U32) : ℤ :=
  if value.toNat ≤ 0x7fffffff then value.toNat else (value.toNat : ℤ) - 0x100000000

/-- The first loop of `myraidenii_core_cop_sort`. -/
def read_entries (lookup_base object_base : U32) (count index : ℕ) (entries : List SortEntry)
    (cop : Cop σ) : Option (Status × List SortEntry × Cop σ) :=
  if index < count then
    let looked := cop_memory cycle cop lookup_base (BitVec.ofNat 32 index * 2) 2 false 0
    let offset : U16 := looked.2.1.setWidth 16
    let called := if looked.1 = .ok then
        cop_memory cycle looked.2.2 object_base (offset.setWidth 32) 4 false looked.2.1
      else looked
    match entry_set entries index ⟨offset, cop_signed_dword called.2.1⟩ with
    | none => none
    | some entries =>
      if called.1 = .ok then
        read_entries lookup_base object_base count (index + 1) entries called.2.2
      else some (called.1, entries, called.2.2)
  else some (.ok, entries, cop)
termination_by count - index

/-- The last loop of `myraidenii_core_cop_sort`. -/
def write_entries (lookup_base : U32) (count index : ℕ) (entries : List SortEntry)
    (cop : Cop σ) : Option (Status × Cop σ) :=
  if index < count then
    match entries[index]? with
    | none => none
    | some entry =>
      let called := cop_memory cycle cop lookup_base (BitVec.ofNat 32 index * 2) 2 true
        (entry.offset.setWidth 32)
      if called.1 = .ok then
        write_entries lookup_base count (index + 1) entries called.2.2
      else some (called.1, called.2.2)
  else some (.ok, cop)
termination_by count - index

def object_base (cop : Cop σ) : U32 :=
  (cop_word cop 0x450).setWidth 32 <<< 16 ||| (cop_word cop 0x452).setWidth 32

def lookup_base (cop : Cop σ) : U32 :=
  (cop_word cop 0x454).setWidth 32 <<< 16 ||| (cop_word cop 0x456).setWidth 32

/-- The sort between the two loops, where the parameter asks for one. -/
def sort_entries (parameter : U16) (count : ℕ) (entries scratch : List SortEntry) :
    Option (List SortEntry) :=
  if parameter = 1 ∨ parameter = 2 then
    (cop_sort_stable entries scratch count (decide (parameter = 2))).map Prod.fst
  else some entries

/-- The first loop, into the block that was allocated. -/
def read_tables (block : ℕ → SortEntry) (cop : Cop σ) :
    Option (Status × List SortEntry × Cop σ) :=
  read_entries cycle (lookup_base cop) (object_base cop) cop.pending.count.toNat 0
    ((List.range cop.pending.count.toNat).map block) cop

/-- `myraidenii_core_cop_sort`; `block` is what `lib_allocate` answers. -/
def cop_sort (block : Option (ℕ → SortEntry)) (cop : Cop σ) : Option (Status × Cop σ) :=
  let count := cop.pending.count.toNat
  if count = 0 then some (.ok, cop)
  else
    match block with
    | none => some (.no_memory, cop)
    | some block =>
      let scratch := (List.range count).map fun index => block (count + index)
      match read_tables cycle block cop with
      | none => none
      | some (status, entries, read) =>
        if status ≠ .ok then some (status, read)
        else
          match sort_entries (cop_word cop 0x458) count entries scratch with
          | none => none
          | some entries => write_entries cycle (lookup_base cop) count 0 entries read

/-- The failure observation of a sort that begins. -/
def begin_sort (cop : Cop σ) : Cop σ :=
  { cop with failure := { CopFailure.clear with
    operation := .sort
    operation_value := cop.pending.count } }

/-- `myraidenii_core_cop_advance` of a pending sort. -/
def cop_advance_sort (block : Option (ℕ → SortEntry)) (cop : Cop σ) :
    Option (Status × Cop σ) :=
  match cop_sort cycle block (begin_sort cop) with
  | none => none
  | some (status, cop) =>
    let cop := if status ≠ .ok then cop_note_failure cop status 0 else cop
    some (status, { cop with pending := CopPending.clear })

end Command

/-! ## Memory -/

/-- Two bytes, the low one first. -/
def memory_word (memory : U32 → U8) (address : U32) : U16 :=
  memory (address + 1) ++ memory address

def memory_dword (memory : U32 → U8) (address : U32) : U32 :=
  memory_word memory (address + 2) ++ memory_word memory address

/-- The memory with a word written. -/
def write_word (memory : U32 → U8) (address : U32) (word : U16) : U32 → U8 :=
  Function.update (Function.update memory address (word.setWidth 8)) (address + 1)
    ((word >>> 8).setWidth 8)

def read_words (memory : U32 → U8) (address : U32) : ℕ → List U16
  | 0 => []
  | n + 1 => memory_word memory address :: read_words memory (address + 2) n

def write_words (memory : U32 → U8) (address : U32) : List U16 → U32 → U8
  | [] => memory
  | word :: words => write_words (write_word memory address word) (address + 2) words

/-- Word cycles at these addresses are of memory that holds bytes. -/
structure WordMemory {σ : Type} (cycle : MemoryCycle σ) (bytes : σ → U32 → U8)
    (region : U32 → Prop) : Prop where
  read : ∀ machine address lane, region address →
    (cycle machine address 2 false lane).1 = .ok →
      (cycle machine address 2 false lane).2.1 = memory_word (bytes machine) address ∧
        bytes (cycle machine address 2 false lane).2.2 = bytes machine
  write : ∀ machine address lane, region address →
    (cycle machine address 2 true lane).1 = .ok →
      bytes (cycle machine address 2 true lane).2.2 = write_word (bytes machine) address lane
  failed : ∀ machine address write lane, region address →
    (cycle machine address 2 write lane).1 ≠ .ok →
      bytes (cycle machine address 2 write lane).2.2 = bytes machine

theorem add_ofNat_ne {address : U32} {i j : ℕ} (hi : i < 2 ^ 32) (hj : j < 2 ^ 32) (hne : i ≠ j) :
    address + BitVec.ofNat 32 i ≠ address + BitVec.ofNat 32 j := by
  intro hsame
  have hnat := congrArg BitVec.toNat (add_left_cancel hsame)
  rw [BitVec.toNat_ofNat, BitVec.toNat_ofNat, Nat.mod_eq_of_lt hi, Nat.mod_eq_of_lt hj] at hnat
  exact hne hnat

theorem write_word_of_ne {memory : U32 → U8} {address a : U32} {word : U16} (hlow : a ≠ address)
    (hhigh : a ≠ address + 1) : write_word memory address word a = memory a := by
  unfold write_word
  rw [Function.update_of_ne hhigh, Function.update_of_ne hlow]

theorem memory_word_write_word (memory : U32 → U8) (address : U32) (word : U16) :
    memory_word (write_word memory address word) address = word := by
  have hne : address ≠ address + 1 := by
    have hne : address + BitVec.ofNat 32 0 ≠ address + BitVec.ofNat 32 1 :=
      add_ofNat_ne (by decide) (by decide) (by decide)
    rwa [BitVec.add_zero] at hne
  have hparts : (word >>> 8).setWidth 8 ++ word.setWidth 8 = word := by
    apply BitVec.eq_of_getLsbD_eq
    intro i hi
    rw [BitVec.getLsbD_append]
    by_cases hlow : i < 8
    · rw [if_pos hlow, BitVec.getLsbD_setWidth, decide_eq_true hlow, Bool.true_and]
    · rw [if_neg hlow, BitVec.getLsbD_setWidth, BitVec.getLsbD_ushiftRight,
        decide_eq_true (show i - 8 < 8 by omega), Bool.true_and, Nat.add_sub_cancel' (by omega)]
  unfold memory_word write_word
  rw [Function.update_self, Function.update_of_ne hne, Function.update_self]
  exact hparts

/-- What is not one of the words stays. -/
theorem write_words_of_ne {memory : U32 → U8} {address a : U32} {words : List U16}
    (hout : ∀ i < 2 * words.length, a ≠ address + BitVec.ofNat 32 i) :
    write_words memory address words a = memory a := by
  induction words generalizing memory address with
  | nil => rfl
  | cons word words ih =>
    rw [List.length_cons] at hout
    have hlow := hout 0 (by omega)
    have hhigh := hout 1 (by omega)
    rw [BitVec.add_zero] at hlow
    rw [write_words, ih, write_word_of_ne hlow hhigh]
    intro i hi
    have hnext := hout (i + 2) (by omega)
    rwa [BitVec.ofNat_add, BitVec.add_comm (BitVec.ofNat 32 i), ← BitVec.add_assoc] at hnext

/-- What is written is read. -/
theorem read_words_write_words {memory : U32 → U8} {address : U32} {words : List U16}
    (hlength : 2 * words.length ≤ 2 ^ 32) :
    read_words (write_words memory address words) address words.length = words := by
  induction words generalizing memory address with
  | nil => rfl
  | cons word words ih =>
    rw [List.length_cons] at hlength ⊢
    have hword : memory_word (write_words (write_word memory address word) (address + 2) words)
        address = memory_word (write_word memory address word) address := by
      have hout (k : ℕ) (hk : k < 2) : ∀ i < 2 * words.length,
          address + BitVec.ofNat 32 k ≠ address + 2 + BitVec.ofNat 32 i := by
        intro i hi
        rw [BitVec.add_assoc, show (2 : U32) = BitVec.ofNat 32 2 from rfl, ← BitVec.ofNat_add]
        exact add_ofNat_ne (by omega) (by omega) (by omega)
      have hstays (k : ℕ) (hk : k < 2) :
          write_words (write_word memory address word) (address + 2) words
              (address + BitVec.ofNat 32 k) =
            write_word memory address word (address + BitVec.ofNat 32 k) :=
        write_words_of_ne (hout k hk)
      have hlow := hstays 0 (by decide)
      rw [BitVec.add_zero] at hlow
      unfold memory_word
      rw [hlow]
      exact congrArg (· ++ write_word memory address word address) (hstays 1 (by decide))
    rw [write_words, read_words, hword, memory_word_write_word, ih (by omega)]

theorem length_read_words (memory : U32 → U8) (address : U32) (n : ℕ) :
    (read_words memory address n).length = n := by
  induction n generalizing address with
  | zero => rfl
  | succ n ih => rw [read_words, List.length_cons, ih]

/-! ## The cycles of the COP -/

section Cycles

variable {σ : Type} {cycle : MemoryCycle σ} {bytes : σ → U32 → U8} {region : U32 → Prop}

/-- The memory, the registers and the command are left alone. -/
structure Undisturbed (bytes : σ → U32 → U8) (cop cop' : Cop σ) : Prop where
  registers : cop'.registers = cop.registers
  pending : cop'.pending = cop.pending
  memory : bytes cop'.machine = bytes cop.machine

theorem Undisturbed.refl (cop : Cop σ) : Undisturbed bytes cop cop := ⟨rfl, rfl, rfl⟩

theorem Undisturbed.trans {cop cop' cop'' : Cop σ} (h : Undisturbed bytes cop cop')
    (h' : Undisturbed bytes cop' cop'') : Undisturbed bytes cop cop'' :=
  ⟨h'.registers.trans h.registers, h'.pending.trans h.pending, h'.memory.trans h.memory⟩

theorem Undisturbed.note {cop cop' : Cop σ} (h : Undisturbed bytes cop cop') (status : Status)
    (physical : U32) : Undisturbed bytes cop (cop_note_failure cop' status physical) := by
  unfold cop_note_failure
  split_ifs
  · exact h
  · exact ⟨h.registers, h.pending, h.memory⟩

/-- A lane of two bytes that are read. -/
theorem cop_lanes_read (h : WordMemory cycle bytes region) (cop : Cop σ) {address : U32} {n : ℕ}
    (hn : n ≠ 1) (value : U32) {index : ℕ} (hindex : index < n) (result : U32)
    (hregion : region (address + BitVec.ofNat 32 index)) :
    ∃ cop', Undisturbed bytes cop cop' ∧
      ((∃ status, status ≠ .ok ∧
          cop_lanes cycle address n false value index result cop = (status, result, cop')) ∨
        cop_lanes cycle address n false value index result cop =
          cop_lanes cycle address n false value (index + 2)
            (result ||| (memory_word (bytes cop.machine)
              (address + BitVec.ofNat 32 index)).setWidth 32 <<< (index * 8)) cop') := by
  rw [cop_lanes, if_pos hindex]
  dsimp only
  rw [if_neg Bool.false_ne_true, if_neg hn]
  by_cases hover : address.toNat > 0xffffffff - index
  · rw [if_pos hover]
    exact ⟨_, (Undisturbed.refl cop).note _ _, .inl ⟨_, by decide, rfl⟩⟩
  · rw [if_neg hover]
    by_cases hok : (cycle cop.machine (address + BitVec.ofNat 32 index) 2 false 0).1 = .ok
    · obtain ⟨hword, hmemory⟩ := h.read _ _ _ hregion hok
      rw [if_neg (not_not.mpr hok), hword]
      generalize (cycle cop.machine (address + BitVec.ofNat 32 index) 2 false 0).2.2 = machine at *
      exact ⟨{ cop with machine }, ⟨rfl, rfl, hmemory⟩, .inr rfl⟩
    · have hmemory := h.failed _ _ _ _ hregion hok
      rw [if_pos hok]
      generalize (cycle cop.machine (address + BitVec.ofNat 32 index) 2 false 0).2.2 = machine at *
      have hsame : Undisturbed bytes cop { cop with machine } := ⟨rfl, rfl, hmemory⟩
      exact ⟨_, hsame.note _ _, .inl ⟨_, hok, rfl⟩⟩

theorem cop_lanes_done {cop : Cop σ} {address value result : U32} {n index : ℕ} {write : Bool}
    (hindex : n ≤ index) :
    cop_lanes cycle address n write value index result cop = (.ok, result, cop) := by
  rw [cop_lanes, if_neg (by omega)]

/-- A word of memory, read. -/
theorem cop_memory_read_word (h : WordMemory cycle bytes region) (cop : Cop σ)
    {base displacement : U32} (value : U32) (hregion : region (base + displacement)) :
    Undisturbed bytes cop (cop_memory cycle cop base displacement 2 false value).2.2 ∧
      ((cop_memory cycle cop base displacement 2 false value).1 = .ok →
        (cop_memory cycle cop base displacement 2 false value).2.1 =
          (memory_word (bytes cop.machine) (base + displacement)).setWidth 32) := by
  unfold cop_memory
  by_cases hover : base.toNat > 0xffffffff - displacement.toNat
  · rw [if_pos hover]
    exact ⟨(Undisturbed.refl cop).note _ _, fun hok => by cases hok⟩
  · rw [if_neg hover]
    dsimp only
    obtain ⟨cop', hsame, ⟨status, hbad, hrun⟩ | hrun⟩ := cop_lanes_read h cop (by decide)
      value (show 0 < 2 by decide) 0 (by rw [BitVec.add_zero]; exact hregion)
    · rw [hrun]
      exact ⟨hsame, fun hok => absurd hok hbad⟩
    · rw [cop_lanes_done (le_refl 2)] at hrun
      rw [hrun, if_pos ⟨rfl, rfl⟩]
      refine ⟨hsame, fun _ => ?_⟩
      dsimp only
      rw [BitVec.add_zero, Nat.zero_mul, BitVec.shiftLeft_zero]
      exact BitVec.zero_or

/-- The result of two lanes. -/
theorem lanes_append (low high : U16) :
    (0 : U32) ||| low.setWidth 32 ||| high.setWidth 32 <<< (2 * 8) = high ++ low := by
  have hzero : (0 : U32) ||| low.setWidth 32 = low.setWidth 32 := BitVec.zero_or
  rw [hzero]
  apply BitVec.eq_of_getLsbD_eq
  intro i hi
  rw [BitVec.getLsbD_append, BitVec.getLsbD_or, BitVec.getLsbD_shiftLeft, BitVec.getLsbD_setWidth,
    BitVec.getLsbD_setWidth, decide_eq_true hi, Bool.true_and, Bool.true_and]
  by_cases hlow : i < 16
  · rw [if_pos hlow, decide_eq_true (show i < 2 * 8 from hlow), Bool.not_true, Bool.false_and,
      Bool.or_false]
  · rw [if_neg hlow, decide_eq_false (show ¬ i < 2 * 8 from hlow),
      BitVec.getLsbD_of_ge low i (by omega), decide_eq_true (show i - 2 * 8 < 32 by omega),
      Bool.not_false, Bool.true_and, Bool.true_and, Bool.false_or]

/-- Two words of memory, read. -/
theorem cop_memory_read_dword (h : WordMemory cycle bytes region) (cop : Cop σ)
    {base displacement : U32} (value : U32) (hlow : region (base + displacement))
    (hhigh : region (base + displacement + 2)) :
    Undisturbed bytes cop (cop_memory cycle cop base displacement 4 false value).2.2 ∧
      ((cop_memory cycle cop base displacement 4 false value).1 = .ok →
        (cop_memory cycle cop base displacement 4 false value).2.1 =
          memory_dword (bytes cop.machine) (base + displacement)) := by
  unfold cop_memory
  by_cases hover : base.toNat > 0xffffffff - displacement.toNat
  · rw [if_pos hover]
    exact ⟨(Undisturbed.refl cop).note _ _, fun hok => by cases hok⟩
  · rw [if_neg hover]
    dsimp only
    obtain ⟨cop', hsame, ⟨status, hbad, hrun⟩ | hrun⟩ := cop_lanes_read h cop (by decide)
      value (show 0 < 4 by decide) 0 (by rw [BitVec.add_zero]; exact hlow)
    · rw [hrun]
      exact ⟨hsame, fun hok => absurd hok hbad⟩
    rw [BitVec.add_zero, Nat.zero_mul, BitVec.shiftLeft_zero, show 0 + 2 = 2 from rfl] at hrun
    obtain ⟨cop'', hsame', ⟨status, hbad, hrun'⟩ | hrun'⟩ := cop_lanes_read h cop' (by decide)
      value (show 2 < 4 by decide)
      (0 ||| (memory_word (bytes cop.machine) (base + displacement)).setWidth 32) hhigh
    · rw [hrun, hrun']
      exact ⟨hsame.trans hsame', fun hok => absurd hok hbad⟩
    · rw [cop_lanes_done (le_refl 4), hsame.memory] at hrun'
      rw [hrun, hrun', if_pos ⟨rfl, rfl⟩]
      refine ⟨hsame.trans hsame', fun _ => ?_⟩
      unfold memory_dword
      generalize memory_word (bytes cop.machine) (base + displacement) = low
      generalize memory_word (bytes cop.machine) (base + displacement + BitVec.ofNat 32 2) = high
      exact lanes_append low high

theorem word_of_value (word : U16) : (word.setWidth 32).setWidth 16 = word := by
  rw [BitVec.setWidth_setWidth_of_le _ (by decide), BitVec.setWidth_eq]

/-- A word of memory, written. -/
theorem cop_memory_write_word (h : WordMemory cycle bytes region) (cop : Cop σ)
    {base displacement : U32} (value : U16) (hregion : region (base + displacement)) :
    ((cop_memory cycle cop base displacement 2 true (value.setWidth 32)).2.2.registers =
          cop.registers ∧
        (cop_memory cycle cop base displacement 2 true (value.setWidth 32)).2.2.pending =
          cop.pending) ∧
      ((cop_memory cycle cop base displacement 2 true (value.setWidth 32)).1 = .ok →
        bytes (cop_memory cycle cop base displacement 2 true (value.setWidth 32)).2.2.machine =
          write_word (bytes cop.machine) (base + displacement) value) := by
  have hkept (cop' : Cop σ) (status : Status) (physical : U32) :
      (cop_note_failure cop' status physical).registers = cop'.registers ∧
        (cop_note_failure cop' status physical).pending = cop'.pending := by
    unfold cop_note_failure
    split_ifs
    all_goals exact ⟨rfl, rfl⟩
  unfold cop_memory
  by_cases hover : base.toNat > 0xffffffff - displacement.toNat
  · rw [if_pos hover]
    exact ⟨hkept _ _ _, fun hok => by cases hok⟩
  · have hlane : ((value.setWidth 32 >>> (0 * 8)).setWidth 16 : U16) = value := by
      rw [Nat.zero_mul, BitVec.ushiftRight_zero, word_of_value]
    rw [if_neg hover, cop_lanes, if_pos (by decide)]
    dsimp only
    rw [if_pos rfl, if_neg (show ¬ (base + displacement).toNat > 0xffffffff - 0 by
        have hlt := (base + displacement).isLt
        omega), BitVec.add_zero, hlane, if_neg (show ¬ 2 = 1 by decide)]
    by_cases hok : (cycle cop.machine (base + displacement) 2 true value).1 = .ok
    · have hwrite := h.write _ _ _ hregion hok
      rw [if_neg (not_not.mpr hok), cop_lanes_done (le_refl 2)]
      exact ⟨⟨rfl, rfl⟩, fun _ => hwrite⟩
    · rw [if_pos hok]
      exact ⟨hkept _ _ _, fun hok' => absurd hok' hok⟩

/-! ## The two loops -/

/-- The key of the object an offset names. -/
def object_key (memory : U32 → U8) (base : U32) (offset : U16) : ℤ :=
  cop_signed_dword (memory_dword memory (base + offset.setWidth 32))

def entry_of (memory : U32 → U8) (base : U32) (offset : U16) : SortEntry :=
  ⟨offset, object_key memory base offset⟩

theorem read_words_getElem? (memory : U32 → U8) (address : U32) {n i : ℕ} (hi : i < n) :
    (read_words memory address n)[i]? =
      some (memory_word memory (address + BitVec.ofNat 32 i * 2)) := by
  induction n generalizing address i with
  | zero => exact absurd hi (Nat.not_lt_zero i)
  | succ n ih =>
    rw [read_words]
    cases i with
    | zero => rw [List.getElem?_cons_zero, BitVec.zero_mul, BitVec.add_zero]
    | succ i =>
      have hnext : address + BitVec.ofNat 32 (i + 1) * 2 = address + 2 + BitVec.ofNat 32 i * 2 := by
        rw [BitVec.ofNat_add, BitVec.add_mul, BitVec.add_assoc, BitVec.add_comm 2]
        rfl
      rw [List.getElem?_cons_succ, ih _ (by omega), hnext]

/-- The cycles of the tables are of memory. -/
structure TablesInMemory (region : U32 → Prop) (memory : U32 → U8) (lookup object : U32)
    (count : ℕ) : Prop where
  lookup_word : ∀ i < count, region (lookup + BitVec.ofNat 32 i * 2)
  object_low : ∀ offset ∈ read_words memory lookup count, region (object + offset.setWidth 32)
  object_high : ∀ offset ∈ read_words memory lookup count, region (object + offset.setWidth 32 + 2)

theorem entry_set_of_lt {entries : List SortEntry} {index : ℕ} (entry : SortEntry)
    (hindex : index < entries.length) :
    entry_set entries index entry = some (entries.set index entry) := if_pos hindex

/-- The reading stays inside of the entries. -/
theorem read_entries_isSome (lookup object : U32) {count index : ℕ} {entries : List SortEntry}
    (hlength : entries.length = count) (cop : Cop σ) :
    ∃ status entries' cop', read_entries cycle lookup object count index entries cop =
      some (status, entries', cop') ∧ entries'.length = count := by
  induction hn : count - index generalizing index entries cop with
  | zero => exact ⟨_, _, _, by rw [read_entries, if_neg (by omega)], hlength⟩
  | succ n ih =>
    rw [read_entries, if_pos (by omega)]
    dsimp only
    generalize (if (cop_memory cycle cop lookup (BitVec.ofNat 32 index * 2) 2 false 0).1 = .ok then
      _ else _) = called
    rw [entry_set_of_lt _ (by omega)]
    dsimp only
    by_cases hok : called.1 = .ok
    · rw [if_pos hok]
      exact ih (by rw [List.length_set]; exact hlength) _ (by omega)
    · rw [if_neg hok]
      exact ⟨_, _, _, rfl, by rw [List.length_set]; exact hlength⟩

/-- What it reads, and that it writes nothing. -/
theorem read_entries_spec (h : WordMemory cycle bytes region) {lookup object : U32}
    {count index : ℕ} {entries entries' : List SortEntry} (hlength : entries.length = count)
    {cop cop' : Cop σ} {status : Status}
    (htables : TablesInMemory region (bytes cop.machine) lookup object count)
    (hread : read_entries cycle lookup object count index entries cop =
      some (status, entries', cop')) :
    Undisturbed bytes cop cop' ∧ (status = .ok →
      ∀ i < count, entries'[i]? = if i < index then entries[i]? else
        some (entry_of (bytes cop.machine) object (memory_word (bytes cop.machine)
          (lookup + BitVec.ofNat 32 i * 2)))) := by
  induction hn : count - index generalizing index entries cop with
  | zero =>
    rw [read_entries, if_neg (by omega)] at hread
    cases hread
    refine ⟨.refl _, fun _ i hi => ?_⟩
    rw [if_pos (by omega)]
  | succ n ih =>
    have hindex : index < count := by omega
    obtain ⟨hlooked, hvalue⟩ := cop_memory_read_word h cop 0 (htables.lookup_word index hindex)
    rw [read_entries, if_pos hindex] at hread
    dsimp only at hread
    rw [entry_set_of_lt _ (by omega)] at hread
    dsimp only at hread
    by_cases hok : (cop_memory cycle cop lookup (BitVec.ofNat 32 index * 2) 2 false 0).1 = .ok
    · rw [if_pos hok, hvalue hok, word_of_value] at hread
      generalize hcalled : (cop_memory cycle cop lookup (BitVec.ofNat 32 index * 2) 2 false 0).2.2 =
        looked at *
      have hmem : memory_word (bytes cop.machine) (lookup + BitVec.ofNat 32 index * 2) ∈
          read_words (bytes cop.machine) lookup count :=
        List.mem_of_getElem? (read_words_getElem? _ _ hindex)
      generalize hoffset : memory_word (bytes cop.machine) (lookup + BitVec.ofNat 32 index * 2) =
        offset at hread hmem
      obtain ⟨hnamed, hkey⟩ := cop_memory_read_dword h looked (offset.setWidth 32)
        (htables.object_low offset hmem) (htables.object_high offset hmem)
      have hboth := hlooked.trans hnamed
      by_cases hok' : (cop_memory cycle looked object (offset.setWidth 32) 4 false
          (offset.setWidth 32)).1 = .ok
      · rw [if_pos hok', hkey hok', hlooked.memory] at hread
        obtain ⟨hrest, hentries⟩ := ih (by rw [List.length_set]; exact hlength)
          (by rw [hboth.memory]; exact htables) hread (by omega)
        refine ⟨hboth.trans hrest, fun hstatus i hi => ?_⟩
        rw [hentries hstatus i hi, hboth.memory]
        by_cases hthis : i = index
        · subst hthis
          rw [if_pos (Nat.lt_succ_self i), if_neg (Nat.lt_irrefl i),
            List.getElem?_set_self (by omega), hoffset]
          rfl
        · by_cases hbefore : i < index
          · rw [if_pos (by omega), if_pos hbefore, List.getElem?_set_ne (Ne.symm hthis)]
          · rw [if_neg (by omega), if_neg hbefore]
      · rw [if_neg hok'] at hread
        cases hread
        exact ⟨hboth, fun hstatus => absurd hstatus hok'⟩
    · rw [if_neg hok, if_neg hok] at hread
      cases hread
      exact ⟨hlooked, fun hstatus => absurd hstatus hok⟩

/-- All of them together. -/
theorem read_entries_all (h : WordMemory cycle bytes region) {lookup object : U32}
    {count : ℕ} {entries entries' : List SortEntry} (hlength : entries.length = count)
    {cop cop' : Cop σ} (htables : TablesInMemory region (bytes cop.machine) lookup object count)
    (hlength' : entries'.length = count)
    (hread : read_entries cycle lookup object count 0 entries cop = some (.ok, entries', cop')) :
    entries' = (read_words (bytes cop.machine) lookup count).map
      (entry_of (bytes cop.machine) object) := by
  obtain ⟨-, hentries⟩ := read_entries_spec h hlength htables hread
  apply List.ext_getElem?
  intro i
  by_cases hi : i < count
  · rw [hentries rfl i hi, if_neg (Nat.not_lt_zero i), List.getElem?_map,
      read_words_getElem? _ _ hi]
    rfl
  · rw [List.getElem?_eq_none (by omega), List.getElem?_eq_none (by
      rw [List.length_map, length_read_words]
      omega)]

/-- The writing stays inside of the entries. -/
theorem write_entries_isSome (lookup : U32) {count index : ℕ} {entries : List SortEntry}
    (hlength : entries.length = count) (cop : Cop σ) :
    ∃ status cop', write_entries cycle lookup count index entries cop = some (status, cop') := by
  induction hn : count - index generalizing index cop with
  | zero => exact ⟨_, _, by rw [write_entries, if_neg (by omega)]⟩
  | succ n ih =>
    rw [write_entries, if_pos (by omega), List.getElem?_eq_getElem (by omega)]
    dsimp only
    split_ifs
    · exact ih _ (by omega)
    · exact ⟨_, _, rfl⟩

/-- What it writes. -/
theorem write_entries_spec (h : WordMemory cycle bytes region) {lookup : U32} {count index : ℕ}
    {entries : List SortEntry} (hlength : entries.length = count) {cop cop' : Cop σ}
    (hlookup : ∀ i < count, region (lookup + BitVec.ofNat 32 i * 2))
    (hwrite : write_entries cycle lookup count index entries cop = some (.ok, cop')) :
    bytes cop'.machine = write_words (bytes cop.machine) (lookup + BitVec.ofNat 32 index * 2)
      ((entries.drop index).map SortEntry.offset) := by
  induction hn : count - index generalizing index cop with
  | zero =>
    rw [write_entries, if_neg (by omega)] at hwrite
    cases hwrite
    rw [List.drop_eq_nil_of_le (by omega)]
    rfl
  | succ n ih =>
    have hindex : index < count := by omega
    have hinside : index < entries.length := by omega
    have hentry := List.getElem?_eq_getElem hinside
    rw [write_entries, if_pos hindex, hentry] at hwrite
    dsimp only at hwrite
    rw [List.drop_eq_getElem_cons (by omega)]
    generalize entries[index] = entry at *
    obtain ⟨-, hmemory⟩ := cop_memory_write_word h cop entry.offset (hlookup index hindex)
    have hnext : lookup + BitVec.ofNat 32 (index + 1) * 2 =
        lookup + BitVec.ofNat 32 index * 2 + 2 := by
      rw [BitVec.ofNat_add, BitVec.add_mul, BitVec.add_assoc]
      rfl
    by_cases hok : (cop_memory cycle cop lookup (BitVec.ofNat 32 index * 2) 2 true
        (entry.offset.setWidth 32)).1 = .ok
    · rw [if_pos hok] at hwrite
      rw [ih hwrite (by omega), hmemory hok, hnext]
      rfl
    · rw [if_neg hok] at hwrite
      obtain ⟨hstatus, -⟩ := Prod.mk.inj (Option.some.inj hwrite)
      exact absurd hstatus hok

/-! ## Cycles that succeed -/

/-- Where every cycle succeeds only an address that does not exist fails. -/
theorem cop_memory_ok (hcycle : ∀ machine address write lane,
      (cycle machine address 2 write lane).1 = .ok) (cop : Cop σ) {base displacement : U32}
    {n : ℕ} (hn : n % 2 = 0) (hpos : 0 < n) (write : Bool) (value : U32)
    (hfits : base.toNat + displacement.toNat + n ≤ 2 ^ 32 + 1) :
    (cop_memory cycle cop base displacement n write value).1 = .ok := by
  have hlanes (address : U32) (haddress : address.toNat + n ≤ 2 ^ 32 + 1) (index : ℕ)
      (heven : index % 2 = 0) (result : U32) (cop : Cop σ) :
      (cop_lanes cycle address n write value index result cop).1 = .ok := by
    induction hk : n - index using Nat.strong_induction_on generalizing index result cop with
    | _ k ih =>
      by_cases hindex : index < n
      · rw [cop_lanes, if_pos hindex]
        dsimp only
        rw [if_neg (by omega), if_neg (show n ≠ 1 by omega),
          if_neg (not_not.mpr (hcycle _ _ _ _))]
        exact ih (n - (index + 2)) (by omega) (index + 2) (by omega) _ _ rfl
      · rw [cop_lanes_done (by omega)]
  have hsum : (base + displacement).toNat = base.toNat + displacement.toNat := by
    rw [BitVec.toNat_add]
    exact Nat.mod_eq_of_lt (by omega)
  unfold cop_memory
  rw [if_neg (by omega)]
  exact hlanes _ (by rw [hsum]; exact hfits) 0 rfl 0 cop

theorem toNat_index {index : ℕ} (hindex : index < 2 ^ 16) :
    (BitVec.ofNat 32 index * 2).toNat = index * 2 := by
  rw [BitVec.toNat_mul, BitVec.toNat_ofNat, Nat.mod_eq_of_lt (show index < 2 ^ 32 by omega)]
  exact Nat.mod_eq_of_lt (show index * 2 < 2 ^ 32 by omega)

/-- The tables end before the addresses do. -/
structure TablesFit (memory : U32 → U8) (lookup object : U32) (count : ℕ) : Prop where
  lookup_lt : lookup.toNat + count * 2 < 2 ^ 32
  object_lt : ∀ offset ∈ read_words memory lookup count, object.toNat + offset.toNat + 2 < 2 ^ 32

theorem read_entries_ok (h : WordMemory cycle bytes region)
    (hcycle : ∀ machine address write lane, (cycle machine address 2 write lane).1 = .ok)
    {lookup object : U32} {count index : ℕ} (hcount : count < 2 ^ 16)
    {entries entries' : List SortEntry} (hlength : entries.length = count) {cop cop' : Cop σ}
    {status : Status}
    (htables : TablesInMemory region (bytes cop.machine) lookup object count)
    (hfit : TablesFit (bytes cop.machine) lookup object count)
    (hread : read_entries cycle lookup object count index entries cop =
      some (status, entries', cop')) : status = .ok := by
  induction hn : count - index generalizing index entries cop with
  | zero =>
    rw [read_entries, if_neg (by omega)] at hread
    cases hread
    rfl
  | succ n ih =>
    have hindex : index < count := by omega
    have hlookup := hfit.lookup_lt
    obtain ⟨hlooked, hvalue⟩ := cop_memory_read_word h cop 0 (htables.lookup_word index hindex)
    have hok : (cop_memory cycle cop lookup (BitVec.ofNat 32 index * 2) 2 false 0).1 = .ok :=
      cop_memory_ok hcycle cop rfl (by decide) false 0 (by rw [toNat_index (by omega)]; omega)
    have hmem := List.mem_of_getElem? (read_words_getElem? (bytes cop.machine) lookup hindex)
    rw [read_entries, if_pos hindex] at hread
    dsimp only at hread
    rw [entry_set_of_lt _ (by omega)] at hread
    dsimp only at hread
    rw [if_pos hok, hvalue hok, word_of_value] at hread
    generalize memory_word (bytes cop.machine) (lookup + BitVec.ofNat 32 index * 2) = offset at *
    generalize (cop_memory cycle cop lookup (BitVec.ofNat 32 index * 2) 2 false 0).2.2 = looked at *
    obtain ⟨hnamed, -⟩ := cop_memory_read_dword h looked (offset.setWidth 32)
      (htables.object_low offset hmem) (htables.object_high offset hmem)
    have hobject := hfit.object_lt offset hmem
    have hwide : (offset.setWidth 32).toNat = offset.toNat :=
      BitVec.toNat_setWidth_of_le (by decide)
    have hok' : (cop_memory cycle looked object (offset.setWidth 32) 4 false
        (offset.setWidth 32)).1 = .ok :=
      cop_memory_ok hcycle looked rfl (by decide) false _ (by rw [hwide]; omega)
    rw [if_pos hok'] at hread
    have hmemory := (hlooked.trans hnamed).memory
    exact ih (by rw [List.length_set]; exact hlength) (by rw [hmemory]; exact htables)
      (by rw [hmemory]; exact hfit) hread (by omega)

theorem write_entries_ok
    (hcycle : ∀ machine address write lane, (cycle machine address 2 write lane).1 = .ok)
    {lookup : U32} {count index : ℕ} (hcount : count < 2 ^ 16)
    (hlookup : lookup.toNat + count * 2 < 2 ^ 32) {entries : List SortEntry}
    (hlength : entries.length = count) {cop cop' : Cop σ} {status : Status}
    (hwrite : write_entries cycle lookup count index entries cop = some (status, cop')) :
    status = .ok := by
  induction hn : count - index generalizing index cop with
  | zero =>
    rw [write_entries, if_neg (by omega)] at hwrite
    cases hwrite
    rfl
  | succ n ih =>
    have hok (value : U32) :
        (cop_memory cycle cop lookup (BitVec.ofNat 32 index * 2) 2 true value).1 = .ok :=
      cop_memory_ok hcycle cop rfl (by decide) true value (by rw [toNat_index (by omega)]; omega)
    rw [write_entries, if_pos (by omega), List.getElem?_eq_getElem (by omega)] at hwrite
    dsimp only at hwrite
    rw [if_pos (hok _)] at hwrite
    exact ih hwrite (by omega)

end Cycles

end Nxvm.Raiden
