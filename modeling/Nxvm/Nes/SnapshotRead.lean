/-
A stored console taken back into memory (`core_snapshot_read`).

The machine that is running lies in memory: its structure, its cartridge's structure
and the blocks the latter points to. The reader decodes into copies of the two
structures, whose pointers are those of the running machine, and stages the two
blocks of memory it may have to replace. The memory is touched at the very end, when
nothing can fail any more: a call that fails leaves the machine as it was.
-/
import Mathlib.Logic.Function.Basic
import Nxvm.Nes.Snapshot

set_option autoImplicit false

namespace Nxvm.Nes

open Nxvm.Lib Nxvm.Lib.Exec Nxvm.Lib.Stream
open Nxvm.Machine (Status)

/-! ## Memory -/

/-- An address of a structure or of a block. -/
abbrev Address := ℕ

/-- What the call can reach: the machine, the structures cartridge pointers point to, and the
blocks of bytes. Blocks from `next` on have not been handed out yet. -/
structure Store where
  machine : CoreMachine Address
  cartridges : Address → Cartridge Address
  blocks : Address → Bytes
  next : Address

/-- `*machine->cartridge`. -/
def Store.cartridge (st : Store) : Cartridge Address := st.cartridges st.machine.cartridge

/-- A cartridge's structure with the blocks behind its pointers. -/
def Cartridge.over (c : Cartridge Address) (blocks : Address → Bytes) : Cartridge Bytes :=
  { c with
    prg := blocks c.prg
    chr := blocks c.chr
    prg_ram := c.prg_ram.map blocks }

/-- The console that lies in memory. -/
def Store.console (st : Store) : Console :=
  { st.machine with cartridge := st.cartridge.over st.blocks }

/-- The blocks of the running machine were handed out, each once. -/
structure Store.Separate (st : Store) : Prop where
  prg_lt : st.cartridge.prg < st.next
  chr_lt : st.cartridge.chr < st.next
  prg_ram_lt : ∀ a, st.cartridge.prg_ram = some a → a < st.next
  prg_ne_chr : st.cartridge.prg ≠ st.cartridge.chr
  prg_ram_ne : ∀ a, st.cartridge.prg_ram = some a → a ≠ st.cartridge.prg ∧ a ≠ st.cartridge.chr

/-- A computation over memory and the context of a callback. -/
abbrev SnapshotM (σ : Type) := EStateM Stop (Store × σ)

section Read

variable {σ α : Type} (read : ReadCallback σ) (grants : Address → Bool)

/-- A computation over the context alone. -/
def on_stream (x : StreamM σ α) : SnapshotM σ α := fun s =>
  match x s.2 with
  | .ok a context => .ok a (s.1, context)
  | .error status context => .error (.status status) (s.1, context)

/-- `lib_allocate`: a block that was never handed out, if the allocator grants it. -/
def lib_allocate (byte_count : ℕ) : SnapshotM σ (Option Address) := fun s =>
  if grants s.1.next then
    .ok (some s.1.next)
      ({ s.1 with
          blocks := Function.update s.1.blocks s.1.next (List.replicate byte_count 0)
          next := s.1.next + 1 }, s.2)
  else .ok none s

/-- Read into a block. The callback may have written there also when it fails. -/
def read_block (block : Address) (byte_count : ℕ) : SnapshotM σ Unit := fun s =>
  let r := read byte_count s.2
  let store := { s.1 with blocks := Function.update s.1.blocks block (List.ofFn r.2.1) }
  if r.1 = .ok then .ok () (store, r.2.2) else .error (.status r.1) (store, r.2.2)

/-- `lib_memory_copy`, of a block to the start of another. -/
def lib_memory_copy (target source : Address) (byte_count : ℕ) : SnapshotM σ Unit := do
  let s ← get
  if byte_count ≤ (s.1.blocks target).length ∧ byte_count ≤ (s.1.blocks source).length then
    update fun s =>
      ({ s.1 with
          blocks := Function.update s.1.blocks target
            ((s.1.blocks source).take byte_count ++ (s.1.blocks target).drop byte_count) }, s.2)
  else throw .out_of_bounds

/-- `MNS1`. -/
def snapshot_magic : Table 4 U8 := ![0x4d, 0x4e, 0x53, 0x31]

/-- `CORE_SNAPSHOT_VERSION`. -/
def snapshot_version : U32 := 3

/-- `CORE_SNAPSHOT_PRG_RAM_BYTES`. -/
def snapshot_prg_ram_bytes : ℕ := 8192

/-- The bytes of program memory a stream for this cartridge has. -/
def prg_ram_bytes {β : Type} (c : Cartridge β) : ℕ :=
  if c.prg_ram.isSome then snapshot_prg_ram_bytes else 0

/-- The bytes of pattern memory a stream for this cartridge has. -/
def chr_ram_bytes {β : Type} (c : Cartridge β) : ℕ := if c.chr_ram then c.chr_bytes else 0

/-- The front of the stream, which says what cartridge it is for. -/
def read_header (live : Cartridge Address) : StreamM σ Unit := do
  let magic ← read_table read 4
  raise_if (magic ≠ snapshot_magic) .invalid_argument
  let version ← snapshot_read_u32 read
  raise_if (version ≠ snapshot_version) .invalid_argument
  let identity ← snapshot_read_u64 read
  raise_if (identity ≠ live.content_identity) .invalid_argument
  let mapper ← snapshot_read_u32 read
  raise_if (mapper ≠ live.mapper.zeroExtend 32) .invalid_argument
  let prg_ram_count ← snapshot_read_u32 read
  raise_if (prg_ram_count ≠ BitVec.ofNat 32 (prg_ram_bytes live)) .invalid_argument
  let chr_ram_count ← snapshot_read_u32 read
  raise_if (chr_ram_count ≠ BitVec.ofNat 32 (chr_ram_bytes live)) .invalid_argument

/-- A block read beside the running machine's, when there are bytes to read. -/
def stage (byte_count : ℕ) : SnapshotM σ (Option Address) :=
  if byte_count = 0 then pure none
  else do
    let staged ← lib_allocate grants byte_count
    match staged with
    | none => throw (.status .no_memory)
    | some block => do
      read_block read block byte_count
      pure (some block)

/-- What the call has when it is about to touch the running machine. -/
structure Candidate where
  machine : CoreMachine Address
  cartridge : Cartridge Address
  staged_prg : Option Address
  staged_chr : Option Address

/-- Everything that can fail. -/
def prepare : SnapshotM σ Candidate := do
  let s ← get
  let live := s.1.cartridge
  on_stream (read_header read live)
  let machine ← on_stream (snapshot_read_machine read s.1.machine)
  let cartridge ← on_stream (snapshot_read_cartridge read live)
  raise_if (cartridge.chr_ram ≠ live.chr_ram ∨ cartridge.battery_backed ≠ live.battery_backed)
    (.status .invalid_argument)
  let staged_prg ← stage read grants (prg_ram_bytes live)
  -- The byte count of the stream is a 32-bit number.
  let staged_chr ← stage read grants (BitVec.ofNat 32 (chr_ram_bytes live)).toNat
  pure ⟨machine, cartridge, staged_prg, staged_chr⟩

/-- Copy a staged block over the block a pointer of the running cartridge points to. -/
def restore_block (target : Option Address) (staged : Option Address) (byte_count : ℕ) :
    SnapshotM σ Unit :=
  match staged with
  | none => pure ()
  | some source => do
    let target ← of_option .out_of_bounds target
    lib_memory_copy target source byte_count

/-- The candidate takes the place of the running machine. The pointers and sizes of the running
cartridge stay. -/
def commit (candidate : Candidate) : SnapshotM σ Unit := do
  let cartridge ← of_option .out_of_bounds (core_cartridge_rebuild_mapping candidate.cartridge)
  let s ← get
  let live := s.1.cartridge
  update fun s =>
    ({ s.1 with machine := { candidate.machine with cartridge := s.1.machine.cartridge } }, s.2)
  update fun s =>
    ({ s.1 with
        cartridges := Function.update s.1.cartridges s.1.machine.cartridge
          { cartridge with
            prg := live.prg
            chr := live.chr
            prg_ram := live.prg_ram
            prg_bytes := live.prg_bytes
            chr_bytes := live.chr_bytes } }, s.2)
  restore_block live.prg_ram candidate.staged_prg (prg_ram_bytes live)
  restore_block (some live.chr) candidate.staged_chr (BitVec.ofNat 32 (chr_ram_bytes live)).toNat

/-- `core_snapshot_read`. -/
def core_snapshot_read : SnapshotM σ Unit := do
  let candidate ← prepare read grants
  commit candidate

end Read

/-! ## A call that fails -/

section Atomic

variable {σ α : Type} (read : ReadCallback σ) (grants : Address → Bool)

/-- The running machine is as it was: its structures, and every block that was handed out. -/
def live_frame : Frame (Store × σ) where
  rel s s' :=
    s'.1.machine = s.1.machine ∧ s'.1.cartridges = s.1.cartridges ∧ s.1.next ≤ s'.1.next ∧
      ∀ a < s.1.next, s'.1.blocks a = s.1.blocks a
  refl _ := ⟨rfl, rfl, le_rfl, fun _ _ => rfl⟩
  trans := by
    rintro s₁ s₂ s₃ ⟨hm, hc, hn, hb⟩ ⟨hm', hc', hn', hb'⟩
    exact ⟨hm'.trans hm, hc'.trans hc, hn.trans hn', fun a ha =>
      (hb' a (ha.trans_le hn)).trans (hb a ha)⟩

theorem on_stream_live (x : StreamM σ α) : Respects live_frame (on_stream x) := by
  refine ⟨fun s => ?_⟩
  have hstore : (final (on_stream x) s).1 = s.1 := by
    unfold on_stream final
    dsimp only
    cases x s.2 with
    | ok a context => rfl
    | error status context => rfl
  exact ⟨congrArg Store.machine hstore, congrArg Store.cartridges hstore,
    (congrArg Store.next hstore).ge, fun a _ => congrFun (congrArg Store.blocks hstore) a⟩

/-- What is staged goes to a block the running machine does not have. -/
theorem read_staged_live {s s' : Store × σ} {block : Address} {byte_count : ℕ}
    (h : s.1.next ≤ block) (hs : live_frame.rel s s') :
    live_frame.rel s (final (read_block read block byte_count) s') := by
  obtain ⟨hm, hc, hn, hb⟩ := hs
  have hblocks (a : Address) (ha : a < s.1.next) :
      Function.update s'.1.blocks block (List.ofFn (read byte_count s'.2).2.1) a =
        s.1.blocks a := by
    rw [Function.update_of_ne (Nat.ne_of_lt (Nat.lt_of_lt_of_le ha h))]
    exact hb a ha
  unfold read_block final
  dsimp only
  by_cases hok : (read byte_count s'.2).1 = .ok
  · rw [if_pos hok]
    exact ⟨hm, hc, hn, hblocks⟩
  · rw [if_neg hok]
    exact ⟨hm, hc, hn, hblocks⟩

/-- The store once a block has been handed out. -/
def Store.allocated (st : Store) (byte_count : ℕ) : Store :=
  { st with
    blocks := Function.update st.blocks st.next (List.replicate byte_count 0)
    next := st.next + 1 }

theorem allocated_live (s : Store × σ) (byte_count : ℕ) :
    live_frame.rel s (s.1.allocated byte_count, s.2) :=
  ⟨rfl, rfl, Nat.le_succ _, fun _ ha => Function.update_of_ne (Nat.ne_of_lt ha) _ _⟩

theorem lib_allocate_cases (byte_count : ℕ) (s : Store × σ) :
    lib_allocate grants byte_count s = .ok (some s.1.next) (s.1.allocated byte_count, s.2) ∨
      lib_allocate grants byte_count s = .ok none s := by
  unfold lib_allocate
  by_cases hgrant : grants s.1.next
  · rw [if_pos hgrant]
    exact Or.inl rfl
  · rw [if_neg hgrant]
    exact Or.inr rfl

theorem stage_live (byte_count : ℕ) :
    Respects live_frame (stage read grants byte_count) := by
  refine ⟨fun s => ?_⟩
  unfold stage
  by_cases hzero : byte_count = 0
  · rw [if_pos hzero]
    exact live_frame.refl s
  rw [if_neg hzero]
  rcases lib_allocate_cases grants byte_count s with hsome | hnone
  · rw [final_bind_ok hsome]
    dsimp only
    rw [final_bind_pure]
    exact read_staged_live read le_rfl (allocated_live s byte_count)
  · rw [final_bind_ok hnone]
    exact live_frame.refl s

theorem prepare_live : Respects live_frame (prepare read grants) := by
  unfold prepare
  refine .bind .of_get fun s => .bind (on_stream_live _) fun _ => .bind (on_stream_live _)
    fun _ => .bind (on_stream_live _) fun _ => .bind (.of_raise_if _ _) fun _ =>
    .bind (stage_live read grants _) fun _ => .bind (stage_live read grants _) fun _ => ?_
  exact .of_pure _

/-- Nothing the callback or the allocator does makes the last part of the call fail. -/
theorem commit_in_place (candidate : Candidate) :
    Triple (fun _ : Store × σ => True) (commit candidate) (fun _ _ => True)
      (fun e _ => e = .out_of_bounds) := by
  have hrestore (target staged : Option Address) (n : ℕ) :
      Triple (fun _ : Store × σ => True) (restore_block target staged n) (fun _ _ => True)
        (fun e _ => e = .out_of_bounds) := by
    unfold restore_block
    cases staged with
    | none => exact .of_pure fun _ _ => trivial
    | some source =>
      refine Triple.bind (M := fun _ _ => True)
        (.of_of_option (fun _ _ _ _ => trivial) fun _ _ _ => rfl) fun target => ?_
      unfold lib_memory_copy
      refine Triple.bind (M := fun _ _ => True) (.of_get fun _ _ => trivial) fun s =>
        .ite (fun _ => .of_update fun _ _ => trivial) fun _ => .of_throw fun _ _ => rfl
  unfold commit
  refine Triple.bind (M := fun _ _ => True)
    (.of_of_option (fun _ _ _ _ => trivial) fun _ _ _ => rfl) fun cartridge =>
    .bind (M := fun _ _ => True) (.of_get fun _ _ => trivial) fun s =>
    .bind (M := fun _ _ => True) (.of_update fun _ _ => trivial) fun _ =>
    .bind (M := fun _ _ => True) (.of_update fun _ _ => trivial) fun _ =>
    .bind (M := fun _ _ => True) (hrestore _ _ _) fun _ => hrestore _ _ _

/-- **A call that fails leaves the running machine as it was**: the machine, its cartridge's
registers, and its program and pattern memory. -/
theorem snapshot_read_atomic {st st' : Store} {context context' : σ} {status : Status}
    (hst : st.Separate)
    (h : core_snapshot_read read grants (st, context) = .error (.status status) (st', context')) :
    st'.machine = st.machine ∧ st'.cartridge = st.cartridge ∧
      (∀ block, st.cartridge.prg_ram = some block → st'.blocks block = st.blocks block) ∧
      st'.blocks st.cartridge.chr = st.blocks st.cartridge.chr ∧
      st'.console = st.console := by
  have hlive : live_frame.rel (st, context) (st', context') := by
    rcases bind_eq_error.mp h with hprepare | ⟨candidate, s₁, hprepare, hcommit⟩
    · exact (prepare_live read grants).error hprepare
    · have he := (commit_in_place candidate).of_error trivial hcommit
      cases he
  obtain ⟨hmachine, hcartridges, -, hblocks⟩ := hlive
  have hcartridge : st'.cartridge = st.cartridge := by
    unfold Store.cartridge
    rw [hcartridges, hmachine]
  have hprg_ram (block : Address) (h : st.cartridge.prg_ram = some block) :
      st'.blocks block = st.blocks block := hblocks block (hst.prg_ram_lt block h)
  have hchr : st'.blocks st.cartridge.chr = st.blocks st.cartridge.chr := hblocks _ hst.chr_lt
  have hover : st'.cartridge.over st'.blocks = st.cartridge.over st.blocks := by
    unfold Cartridge.over
    rw [hcartridge, hblocks _ hst.prg_lt, hchr, Option.map_congr hprg_ram]
  refine ⟨hmachine, hcartridge, hprg_ram, hchr, ?_⟩
  unfold Store.console
  rw [hmachine, hover]

end Atomic

/-- A callback that reads a list, and fails where the list ends. -/
def list_callback : ReadCallback (List U8) := fun n bytes =>
  if n ≤ bytes.length then (.ok, fun i => bytes.getD i.val 0, bytes.drop n)
  else (.io_error, Table.fill 0, bytes)

/-- A machine with a blank cartridge: its blocks are 0 and 1. -/
def blank_store : Store where
  machine := { Console.zero (unmapped_cartridge [] ⟨16384, 8192, 0, 2, false, false⟩) 0 with
    cartridge := (0 : Address) }
  cartridges _ := { unmapped_cartridge [] ⟨16384, 8192, 0, 2, false, false⟩ with
    prg := (0 : Address), chr := (1 : Address), prg_ram := none }
  blocks address := List.replicate (if address = 0 then 16384 else 8192) 0
  next := 2

/-- The stream ends after its magic. -/
theorem snapshot_read_atomic_magic :
    ∃ st', core_snapshot_read list_callback (fun _ => true)
        (blank_store, [0x4d, 0x4e, 0x53, 0x31]) = .error (.status .io_error) (st', []) ∧
      st'.console = blank_store.console := by
  have hseparate : blank_store.Separate := by
    refine ⟨by decide, by decide, ?_, by decide, ?_⟩
    · intro block hblock
      cases hblock
    · intro block hblock
      cases hblock
  have hread : core_snapshot_read list_callback (fun _ => true)
      (blank_store, [0x4d, 0x4e, 0x53, 0x31]) = .error (.status .io_error) (blank_store, []) := rfl
  have hatomic := snapshot_read_atomic list_callback (fun _ => true) hseparate hread
  exact ⟨blank_store, hread, hatomic.2.2.2.2⟩

end Nxvm.Nes
