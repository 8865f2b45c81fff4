/-
What an accepted stream leaves behind.

The readers look at the fields they range check and at no others. Here every reader
answers in the ranges its unit needs, the cartridge's structure keeps what was decided
when the cartridge was created, and so a stream that is accepted, whatever it holds,
leaves a console in which every access is inside its array.
-/
import Nxvm.Nes.Bounds
import Nxvm.Nes.SnapshotRead

set_option autoImplicit false

namespace Nxvm.Nes

open Nxvm.Lib Nxvm.Lib.Exec Nxvm.Lib.Stream
open Nxvm.Machine (Status)

/-! ## The readers' checks -/

section Checks

variable {β γ σ : Type}

theorem ppu_in_range {ppu : Ppu} (h : ¬ ppu_refused ppu) : ppu.InRange := by
  unfold ppu_refused at h
  push Not at h
  obtain ⟨hdot, hscanline, hselected, hnext, -, -, hsecondary, hnext', hbyte, hfine⟩ := h
  exact ⟨hdot, hscanline, hselected, hnext, hsecondary, hnext', hbyte, hfine⟩

theorem apu_in_range {apu : Apu} (h : ¬ apu_refused apu) : apu.InRange := by
  unfold apu_refused at h
  push Not at h
  obtain ⟨hpulse₀, hpulse₁, htriangle, hlinear, hbits, houtput, hmode, hcycles, hphase⟩ := h
  rw [ite_not] at hcycles
  exact ⟨Fin.forall_fin_two.mpr ⟨hpulse₀, hpulse₁⟩, htriangle, hlinear, hbits, houtput, hmode,
    hcycles, hphase⟩

theorem cartridge_in_range {c : Cartridge β} (h : ¬ cartridge_refused c) : c.InRange := by
  unfold cartridge_refused at h
  push Not at h
  obtain ⟨hmirroring, hcount, hdata, hcontrol, hbank₀, hbank₁, hprg, hcnrom⟩ := h
  exact ⟨hmirroring, hcount, hdata, hcontrol, hbank₀, hbank₁, hprg, hcnrom⟩

theorem machine_in_range {m : CoreMachine γ} (h : ¬ machine_refused m) : m.Counters := by
  unfold machine_refused at h
  push Not at h
  obtain ⟨hindex, htrace, hcount, hinterrupt, hdma, hbyte, hactive, hdmc, hdmc'⟩ := h
  exact ⟨hindex, htrace, hcount, hinterrupt, hdma, hbyte, hactive, hdmc, hdmc'⟩

variable (read : ReadCallback σ)

theorem read_apu_in_range (apu : Apu) : Returns Apu.InRange (snapshot_read_apu read apu) := by
  unfold snapshot_read_apu
  iterate 33 refine .bind fun _ => ?_
  exact .ite (fun _ => .of_throw _) fun h => .of_pure (apu_in_range h)

theorem read_ppu_in_range (ppu : Ppu) : Returns Ppu.InRange (snapshot_read_ppu read ppu) := by
  unfold snapshot_read_ppu
  iterate 45 refine .bind fun _ => ?_
  exact .ite (fun _ => .of_throw _) fun h => .of_pure (ppu_in_range h)

/-- The parts of a machine that have readers of their own. -/
def CoreMachine.units (m : CoreMachine γ) : γ × Apu × Ppu := (m.cartridge, m.apu, m.ppu)

theorem read_registers_units (m : CoreMachine γ) :
    Returns (fun m' => m'.units = m.units) (read_registers read m) := by
  unfold read_registers
  iterate 9 refine .bind fun _ => ?_
  exact .of_pure rfl

theorem read_lines_units (m : CoreMachine γ) :
    Returns (fun m' => m'.units = m.units) (read_lines read m) := by
  unfold read_lines
  iterate 11 refine .bind fun _ => ?_
  exact .of_pure rfl

theorem read_dma_units (m : CoreMachine γ) :
    Returns (fun m' => m'.units = m.units) (read_dma read m) := by
  unfold read_dma
  iterate 11 refine .bind fun _ => ?_
  exact .of_pure rfl

theorem read_counts_units (m : CoreMachine γ) :
    Returns (fun m' => m'.units = m.units) (read_counts read m) := by
  unfold read_counts
  iterate 3 refine .bind fun _ => ?_
  exact .of_pure rfl

theorem read_breakpoints_units (m : CoreMachine γ) :
    Returns (fun m' => m'.units = m.units) (read_breakpoints read m) := by
  unfold read_breakpoints
  iterate 4 refine .bind fun _ => ?_
  exact .of_pure rfl

/-- A machine that was read is in range in all its parts; its cartridge is still the one of the
machine it was read over. -/
structure MachineAccepted (live m : CoreMachine γ) : Prop where
  cartridge : m.cartridge = live.cartridge
  apu : m.apu.InRange
  ppu : m.ppu.InRange
  counters : m.Counters

theorem read_machine_accepted (m : CoreMachine γ) :
    Returns (MachineAccepted m) (snapshot_read_machine read m) := by
  unfold snapshot_read_machine
  refine .bind_of (read_apu_in_range read _) fun apu hapu =>
    .bind_of (read_ppu_in_range read _) fun ppu hppu => .bind fun controller => ?_
  refine .bind_of (read_registers_units read _) fun m₁ h₁ =>
    .bind_of (read_lines_units read _) fun m₂ h₂ => .bind_of (read_dma_units read _)
    fun m₃ h₃ => .bind_of (read_counts_units read _) fun m₄ h₄ => .bind fun trap =>
    .bind fun trace_count => .bind fun trace => ?_
  refine .bind_of (read_breakpoints_units read _) fun m₅ h₅ => ?_
  refine .ite (fun _ => .of_throw _) fun h => .of_pure ?_
  have hunits : m₅.units = (m.cartridge, apu, ppu) :=
    h₅.trans (h₄.trans (h₃.trans (h₂.trans h₁)))
  obtain ⟨hcartridge, heq⟩ := Prod.mk.inj hunits
  obtain ⟨hapu', hppu'⟩ := Prod.mk.inj heq
  exact ⟨hcartridge, hapu' ▸ hapu, hppu' ▸ hppu, machine_in_range h⟩

/-- `c` is `live` but for its registers. -/
structure Cartridge.Registers (c live : Cartridge β) : Prop where
  prg : c.prg = live.prg
  chr : c.chr = live.chr
  prg_ram : c.prg_ram = live.prg_ram
  prg_bytes : c.prg_bytes = live.prg_bytes
  chr_bytes : c.chr_bytes = live.chr_bytes
  mapper : c.mapper = live.mapper
  content_identity : c.content_identity = live.content_identity
  prg_offsets : c.mmc3_prg_offsets = live.mmc3_prg_offsets
  chr_offsets : c.mmc3_chr_offsets = live.mmc3_chr_offsets

theorem read_cartridge_accepted (live : Cartridge β) :
    Returns (fun c => c.Registers live ∧ c.InRange) (snapshot_read_cartridge read live) := by
  unfold snapshot_read_cartridge
  iterate 23 refine .bind fun _ => ?_
  refine .ite (fun _ => .of_throw _) fun h => .of_pure ⟨?_, cartridge_in_range h⟩
  exact ⟨rfl, rfl, rfl, rfl, rfl, rfl, rfl, rfl, rfl⟩

end Checks

/-! ## What is staged -/

section Staging

variable {σ : Type} (read : ReadCallback σ) (grants : Address → Bool)

/-- `staged` holds `byte_count` bytes in a block that was handed out after `st`. -/
def Store.Staged (st st' : Store) (byte_count : ℕ) (staged : Option Address) : Prop :=
  match staged with
  | none => byte_count = 0
  | some block =>
    byte_count ≠ 0 ∧ st.next ≤ block ∧ block < st'.next ∧
      (st'.blocks block).length = byte_count

/-- What was staged stays there while the running machine's memory is left alone. -/
theorem Store.Staged.keep {st : Store} {s s' : Store × σ} {byte_count : ℕ}
    {staged : Option Address} (h : st.Staged s.1 byte_count staged) (hs : live_frame.rel s s') :
    st.Staged s'.1 byte_count staged := by
  obtain ⟨-, -, hnext, hblocks⟩ := hs
  cases staged with
  | none => exact h
  | some block =>
    obtain ⟨hpos, hnew, hold, hlen⟩ := h
    refine ⟨hpos, hnew, hold.trans_le hnext, ?_⟩
    rw [hblocks block hold]
    exact hlen

/-- A block that was handed out late was handed out after anything earlier, too. -/
theorem Store.Staged.since {st st₀ st' : Store} {byte_count : ℕ} {staged : Option Address}
    (h : st.Staged st' byte_count staged) (hn : st₀.next ≤ st.next) :
    st₀.Staged st' byte_count staged := by
  cases staged with
  | none => exact h
  | some block => exact ⟨h.1, hn.trans h.2.1, h.2.2⟩

theorem stage_staged {byte_count : ℕ} {s s' : Store × σ} {staged : Option Address}
    (h : stage read grants byte_count s = .ok staged s') :
    s.1.Staged s'.1 byte_count staged := by
  unfold stage at h
  by_cases hzero : byte_count = 0
  · rw [if_pos hzero] at h
    cases h
    exact hzero
  rw [if_neg hzero] at h
  rcases lib_allocate_cases grants byte_count s with hsome | hnone
  · rw [bind_run_ok hsome] at h
    obtain ⟨u, s₁, hread, hdone⟩ := bind_eq_ok.mp h
    cases hdone
    unfold read_block at hread
    dsimp only at hread
    split at hread
    · cases hread
      refine ⟨hzero, le_rfl, Nat.lt_succ_self _, ?_⟩
      dsimp only
      rw [Function.update_self, List.length_ofFn]
    · cases hread
  · rw [bind_run_ok hnone] at h
    cases h

/-- What the call has made sure of when it is about to touch the running machine. -/
structure Prepared (st st' : Store) (candidate : Candidate) : Prop where
  machine : MachineAccepted st.machine candidate.machine
  cartridge : candidate.cartridge.Registers st.cartridge
  registers : candidate.cartridge.InRange
  chr_ram : candidate.cartridge.chr_ram = st.cartridge.chr_ram
  battery_backed : candidate.cartridge.battery_backed = st.cartridge.battery_backed
  same_machine : st'.machine = st.machine
  same_cartridge : st'.cartridge = st.cartridge
  same_blocks : ∀ a < st.next, st'.blocks a = st.blocks a
  next_le : st.next ≤ st'.next
  staged_prg : st.Staged st' (prg_ram_bytes st.cartridge) candidate.staged_prg
  staged_chr : st.Staged st' (BitVec.ofNat 32 (chr_ram_bytes st.cartridge)).toNat
    candidate.staged_chr

theorem on_stream_eq_ok {α : Type} {x : StreamM σ α} {s s' : Store × σ} {a : α}
    (h : on_stream x s = .ok a s') : x s.2 = .ok a s'.2 := by
  unfold on_stream at h
  cases hx : x s.2 with
  | ok b context =>
    rw [hx] at h
    cases h
    rfl
  | error status context =>
    rw [hx] at h
    cases h

theorem prepare_prepared {s s' : Store × σ} {candidate : Candidate}
    (h : prepare read grants s = .ok candidate s') : Prepared s.1 s'.1 candidate := by
  have hlive := (prepare_live read grants).ok h
  obtain ⟨hmachine, hcartridges, hnext, hblocks⟩ := hlive
  unfold prepare at h
  rw [get_bind_run] at h
  obtain ⟨_, s₁, h₁, h⟩ := bind_eq_ok.mp h
  obtain ⟨machine, s₂, h₂, h⟩ := bind_eq_ok.mp h
  obtain ⟨cartridge, s₃, h₃, h⟩ := bind_eq_ok.mp h
  obtain ⟨_, s₄, h₄, h⟩ := bind_eq_ok.mp h
  obtain ⟨staged_prg, s₅, h₅, h⟩ := bind_eq_ok.mp h
  obtain ⟨staged_chr, s₆, h₆, h⟩ := bind_eq_ok.mp h
  cases h
  obtain ⟨hcheck, rfl⟩ := raise_if_eq_ok.mp h₄
  have hkept : cartridge.chr_ram = s.1.cartridge.chr_ram ∧
      cartridge.battery_backed = s.1.cartridge.battery_backed := by
    simpa using hcheck
  obtain ⟨hregisters, hrange⟩ := read_cartridge_accepted read _ _ _ _ (on_stream_eq_ok h₃)
  have hbefore : live_frame.rel s s₄ :=
    live_frame.trans ((on_stream_live _).ok h₁)
      (live_frame.trans ((on_stream_live _).ok h₂) ((on_stream_live _).ok h₃))
  have hsame : s'.1.cartridge = s.1.cartridge := by
    unfold Store.cartridge
    rw [hcartridges, hmachine]
  exact
    { machine := read_machine_accepted read _ _ _ _ (on_stream_eq_ok h₂)
      cartridge := hregisters
      registers := hrange
      chr_ram := hkept.1
      battery_backed := hkept.2
      same_machine := hmachine
      same_cartridge := hsame
      same_blocks := hblocks
      next_le := hnext
      staged_prg :=
        ((stage_staged read grants h₅).keep ((stage_live read grants _).ok h₆)).since
          hbefore.2.2.1
      staged_chr := (stage_staged read grants h₆).since
        (hbefore.2.2.1.trans ((stage_live read grants _).ok h₅).2.2.1) }

end Staging

/-! ## What is committed -/

section Committing

variable {σ : Type}

/-- The blocks once the staged one, if any, has been copied over the target. -/
def restored (blocks : Address → Bytes) (target staged : Option Address) : Address → Bytes :=
  fun a => if target = some a then (staged.map blocks).getD (blocks a) else blocks a

theorem restore_block_run {target staged : Option Address} {byte_count : ℕ} {s : Store × σ}
    (h : ∀ source, staged = some source → (s.1.blocks source).length = byte_count ∧
      ∃ a, target = some a ∧ (s.1.blocks a).length = byte_count) :
    restore_block target staged byte_count s =
      .ok () ({ s.1 with blocks := restored s.1.blocks target staged }, s.2) := by
  cases staged with
  | none =>
    have hsame : restored s.1.blocks target none = s.1.blocks := by
      funext a
      unfold restored
      split <;> rfl
    rw [hsame]
    rfl
  | some source =>
    obtain ⟨hsource, a, rfl, ha⟩ := h source rfl
    have hcopy : restored s.1.blocks (some a) (some source) =
        Function.update s.1.blocks a (s.1.blocks source) := by
      funext b
      unfold restored
      by_cases hb : b = a
      · rw [hb, if_pos rfl, Function.update_self]
        rfl
      · rw [if_neg fun he => hb (Option.some.inj he).symm, Function.update_of_ne hb]
    rw [hcopy]
    unfold restore_block lib_memory_copy
    dsimp only
    rw [bind_run_ok (show of_option Stop.out_of_bounds (some a) s = .ok a s from rfl),
      get_bind_run, if_pos ⟨ha.ge, hsource.ge⟩]
    have hbytes : (s.1.blocks source).take byte_count ++ (s.1.blocks a).drop byte_count =
        s.1.blocks source := by
      rw [List.take_of_length_le hsource.le, List.drop_eq_nil_of_le ha.le, List.append_nil]
    exact congrArg (fun bytes => EStateM.Result.ok ()
      ({ s.1 with blocks := Function.update s.1.blocks a bytes }, s.2)) hbytes

/-- The blocks are where the last step of the call can copy them. -/
structure Ready (st : Store) (candidate : Candidate) : Prop where
  prg : ∀ source, candidate.staged_prg = some source →
    (st.blocks source).length = prg_ram_bytes st.cartridge ∧
      ∃ a, st.cartridge.prg_ram = some a ∧ (st.blocks a).length = prg_ram_bytes st.cartridge
  chr : ∀ source, candidate.staged_chr = some source →
    (st.blocks source).length = (BitVec.ofNat 32 (chr_ram_bytes st.cartridge)).toNat ∧
      (st.blocks st.cartridge.chr).length =
        (BitVec.ofNat 32 (chr_ram_bytes st.cartridge)).toNat ∧
      st.cartridge.prg_ram ≠ some source

/-- The console a candidate makes of the running one. -/
def Candidate.console (candidate : Candidate) (st : Store) (registers : Cartridge Address) :
    Console :=
  { candidate.machine with
    cartridge :=
      { registers with
        prg := st.console.cartridge.prg
        chr := (candidate.staged_chr.map st.blocks).getD st.console.cartridge.chr
        prg_ram := st.console.cartridge.prg_ram.map (candidate.staged_prg.map st.blocks).getD
        prg_bytes := st.cartridge.prg_bytes
        chr_bytes := st.cartridge.chr_bytes } }

/-- The store once the structures have been replaced. -/
def Store.published (st : Store) (candidate : Candidate) (registers : Cartridge Address) :
    Store :=
  { st with
    machine := { candidate.machine with cartridge := st.machine.cartridge }
    cartridges := Function.update st.cartridges st.machine.cartridge
      { registers with
        prg := st.cartridge.prg
        chr := st.cartridge.chr
        prg_ram := st.cartridge.prg_ram
        prg_bytes := st.cartridge.prg_bytes
        chr_bytes := st.cartridge.chr_bytes } }

theorem published_cartridge (st : Store) (candidate : Candidate) (registers : Cartridge Address)
    (blocks : Address → Bytes) :
    Store.cartridge { st.published candidate registers with blocks := blocks } =
      { registers with
        prg := st.cartridge.prg
        chr := st.cartridge.chr
        prg_ram := st.cartridge.prg_ram
        prg_bytes := st.cartridge.prg_bytes
        chr_bytes := st.cartridge.chr_bytes } :=
  Function.update_self _ _ _

theorem commit_run {s : Store × σ} {candidate : Candidate} {registers : Cartridge Address}
    (hmap : core_cartridge_rebuild_mapping candidate.cartridge = some registers) :
    commit candidate s =
      (restore_block s.1.cartridge.prg_ram candidate.staged_prg
          (prg_ram_bytes s.1.cartridge) >>= fun _ =>
        restore_block (some s.1.cartridge.chr) candidate.staged_chr
          (BitVec.ofNat 32 (chr_ram_bytes s.1.cartridge)).toNat)
        (s.1.published candidate registers, s.2) := by
  unfold commit
  rw [hmap, bind_run_ok (show of_option Stop.out_of_bounds (some registers) s =
    .ok registers s from rfl), get_bind_run, update_bind_run, update_bind_run]
  rfl

/-- **The last part of the call** puts the candidate and the staged blocks in the place of the
running machine's. -/
theorem commit_console {s : Store × σ} {candidate : Candidate} {registers : Cartridge Address}
    (hsep : s.1.Separate) (hready : Ready s.1 candidate)
    (hmap : core_cartridge_rebuild_mapping candidate.cartridge = some registers) :
    ∃ st', commit candidate s = .ok () (st', s.2) ∧
      st'.console = candidate.console s.1 registers := by
  have hchr : s.1.cartridge.prg_ram ≠ some s.1.cartridge.chr := fun h =>
    (hsep.prg_ram_ne _ h).2 rfl
  have hprg : s.1.cartridge.prg_ram ≠ some s.1.cartridge.prg := fun h =>
    (hsep.prg_ram_ne _ h).1 rfl
  have hother (a : Address) (h : s.1.cartridge.prg_ram ≠ some a) :
      restored s.1.blocks s.1.cartridge.prg_ram candidate.staged_prg a = s.1.blocks a :=
    if_neg h
  have hfirst := restore_block_run (s := (s.1.published candidate registers, s.2)) hready.prg
  rw [commit_run hmap, bind_run_ok hfirst, restore_block_run]
  · refine ⟨_, rfl, ?_⟩
    generalize hblocks : restored (restored (s.1.published candidate registers).blocks
      s.1.cartridge.prg_ram candidate.staged_prg) (some s.1.cartridge.chr)
      candidate.staged_chr = blocks
    change restored (restored s.1.blocks _ _) _ _ = blocks at hblocks
    have hrom : blocks s.1.cartridge.prg = s.1.blocks s.1.cartridge.prg := by
      rw [← hblocks, restored, if_neg fun h => hsep.prg_ne_chr (Option.some.inj h).symm]
      exact hother _ hprg
    have hpattern : blocks s.1.cartridge.chr =
        (candidate.staged_chr.map s.1.blocks).getD (s.1.blocks s.1.cartridge.chr) := by
      rw [← hblocks, restored, if_pos rfl, hother _ hchr]
      congr 1
      exact Option.map_congr fun source hsource => hother _ (hready.chr source hsource).2.2
    have hwork : s.1.cartridge.prg_ram.map blocks =
        (s.1.cartridge.prg_ram.map s.1.blocks).map
          (candidate.staged_prg.map s.1.blocks).getD := by
      rw [Option.map_map]
      refine Option.map_congr fun a ha => ?_
      rw [← hblocks, restored, if_neg fun h => (hsep.prg_ram_ne a ha).2 (Option.some.inj h).symm,
        restored, if_pos ha]
      rfl
    unfold Store.console
    rw [published_cartridge]
    unfold Cartridge.over
    dsimp only
    rw [hrom, hpattern, hwork]
    rfl
  · intro source hsource
    obtain ⟨hlen, hold, hne⟩ := hready.chr source hsource
    refine ⟨?_, s.1.cartridge.chr, rfl, ?_⟩
    · rw [← hlen]
      exact congrArg List.length (hother source hne)
    · rw [← hold]
      exact congrArg List.length (hother _ hchr)

/-! ## A console that was taken back -/

variable {origin : Cartridge Bytes}

theorem Prepared.separate {st st' : Store} {candidate : Candidate}
    (h : Prepared st st' candidate) (hsep : st.Separate) : st'.Separate := by
  obtain ⟨hprg, hchr, hram, hne, hram_ne⟩ := hsep
  constructor <;> rw [h.same_cartridge]
  · exact hprg.trans_le h.next_le
  · exact hchr.trans_le h.next_le
  · exact fun a ha => (hram a ha).trans_le h.next_le
  · exact hne
  · exact hram_ne

theorem Prepared.same_console {st st' : Store} {candidate : Candidate}
    (h : Prepared st st' candidate) (hsep : st.Separate) : st'.console = st.console := by
  have hover : st'.cartridge.over st'.blocks = st.cartridge.over st.blocks := by
    unfold Cartridge.over
    rw [h.same_cartridge, h.same_blocks _ hsep.prg_lt, h.same_blocks _ hsep.chr_lt,
      Option.map_congr fun a ha => h.same_blocks a (hsep.prg_ram_lt a ha)]
  unfold Store.console
  rw [h.same_machine, hover]

theorem prg_ram_length {st : Store} (hv : st.console.Valid origin) {a : Address}
    (ha : st.cartridge.prg_ram = some a) : (st.blocks a).length = 8192 := by
  have hram : st.console.cartridge.prg_ram = some (st.blocks a) :=
    congrArg (Option.map st.blocks) ha
  by_cases hm : st.console.cartridge.mapper = 4
  · obtain ⟨bytes, hbytes, hlen⟩ := hv.cartridge.prg_ram hm
    rw [hram] at hbytes
    cases hbytes
    exact hlen
  · rw [hv.cartridge.no_prg_ram hm] at hram
    cases hram

theorem chr_ram_count {st : Store} (hv : st.console.Valid origin)
    (h : st.cartridge.chr_ram = true) :
    (BitVec.ofNat 32 (chr_ram_bytes st.cartridge)).toNat = 8192 ∧
      (st.blocks st.cartridge.chr).length = 8192 := by
  have hbytes : st.cartridge.chr_bytes = 8192 := hv.cartridge.chr_ram h
  refine ⟨?_, ?_⟩
  · rw [chr_ram_bytes, if_pos h, hbytes]
    rfl
  · exact hv.cartridge.chr.trans hbytes

theorem Prepared.ready {st st' : Store} {candidate : Candidate}
    (h : Prepared st st' candidate) (hsep : st.Separate) (hv : st.console.Valid origin) :
    Ready st' candidate := by
  have hv' : st'.console.Valid origin := h.same_console hsep ▸ hv
  constructor
  · intro source hsource
    have hstaged := h.staged_prg
    rw [hsource] at hstaged
    obtain ⟨hpos, -, -, hlen⟩ := hstaged
    cases hram : st.cartridge.prg_ram with
    | none => exact absurd (by rw [prg_ram_bytes, hram]; rfl) hpos
    | some a =>
      have hram' : st'.cartridge.prg_ram = some a := by rw [h.same_cartridge, hram]
      have hcount : prg_ram_bytes st'.cartridge = 8192 := by rw [prg_ram_bytes, hram']; rfl
      rw [← h.same_cartridge] at hlen
      exact ⟨hlen, a, hram', by rw [hcount, prg_ram_length hv' hram']⟩
  · intro source hsource
    have hstaged := h.staged_chr
    rw [hsource] at hstaged
    obtain ⟨hpos, hnew, -, hlen⟩ := hstaged
    have hchr_ram : st.cartridge.chr_ram = true := by
      by_contra hno
      exact hpos (by rw [chr_ram_bytes, if_neg hno]; rfl)
    rw [← h.same_cartridge] at hchr_ram hlen
    obtain ⟨hcount, hold⟩ := chr_ram_count hv' hchr_ram
    refine ⟨hlen, by rw [hold, hcount], fun hram => ?_⟩
    rw [h.same_cartridge] at hram
    exact absurd (hsep.prg_ram_lt source hram) (Nat.not_lt.mpr hnew)

/-- The registers of a candidate with the mapping they spell. -/
theorem candidate_mapping {st : Store} {c : Cartridge Address}
    (hv : st.console.Valid origin) (hc : c.Registers st.cartridge) :
    core_cartridge_rebuild_mapping c = some (if c.mapper = 4 then mapped c else c) := by
  by_cases hm : c.mapper = 4
  · rw [if_pos hm]
    refine rebuild_mapping_eq c hm ?_
    rw [hc.mapper, hc.prg_bytes, hc.chr_bytes]
    exact hv.cartridge.board
  · rw [if_neg hm]
    exact rebuild_mapping_other c hm

/-- A cartridge taken back over a valid one: its memory is of the sizes it had, its registers
are in range and its mapping is up to date. -/
theorem Cartridge.Valid.reloaded {live c : Cartridge Bytes} (h : live.Valid origin)
    (hc : c.Registers { live with
      chr := c.chr, prg_ram := c.prg_ram
      mmc3_prg_offsets := c.mmc3_prg_offsets, mmc3_chr_offsets := c.mmc3_chr_offsets })
    (hbattery : c.battery_backed = live.battery_backed) (hchr_ram : c.chr_ram = live.chr_ram)
    (hchr : c.chr_ram = false → c.chr = live.chr) (hlen : c.chr.length = live.chr.length)
    (hram : c.mapper = 4 → ∃ prg_ram, c.prg_ram = some prg_ram ∧ prg_ram.length = 8192)
    (hno_ram : c.mapper ≠ 4 → c.prg_ram = none) (hrange : c.InRange)
    (hmapping : core_cartridge_rebuild_mapping c = some c)
    (hunmapped : c.mapper ≠ 4 →
      c.mmc3_prg_offsets = Table.fill 0 ∧ c.mmc3_chr_offsets = Table.fill 0) :
    c.Valid origin where
  same :=
    { prg := hc.prg.trans h.same.prg
      chr := fun hrom => (hchr (hchr_ram.trans (h.same.chr_ram.trans hrom))).trans
        (h.same.chr hrom)
      prg_bytes := hc.prg_bytes.trans h.same.prg_bytes
      chr_bytes := hc.chr_bytes.trans h.same.chr_bytes
      mapper := hc.mapper.trans h.same.mapper
      content_identity := hc.content_identity.trans h.same.content_identity
      battery_backed := hbattery.trans h.same.battery_backed
      chr_ram := hchr_ram.trans h.same.chr_ram }
  board := by rw [hc.mapper, hc.prg_bytes, hc.chr_bytes]; exact h.board
  prg := by rw [hc.prg, hc.prg_bytes]; exact h.prg
  chr := by rw [hlen, hc.chr_bytes]; exact h.chr
  chr_ram := by rw [hchr_ram, hc.chr_bytes]; exact h.chr_ram
  prg_ram := hram
  no_prg_ram := hno_ram
  battery := by rw [hbattery, hc.mapper]; exact h.battery
  registers := hrange
  mapping := hmapping
  unmapped := hunmapped

/-- The registers a candidate is committed with. -/
def Candidate.registers (candidate : Candidate) : Cartridge Address :=
  if candidate.cartridge.mapper = 4 then mapped candidate.cartridge else candidate.cartridge

/-- **A candidate that was prepared is a valid console.** -/
theorem Prepared.valid {st st' : Store} {candidate : Candidate}
    (h : Prepared st st' candidate) (hsep : st.Separate) (hv : st.console.Valid origin) :
    (candidate.console st' candidate.registers).Valid origin := by
  have hready := h.ready hsep hv
  have hv' : st'.console.Valid origin := h.same_console hsep ▸ hv
  have hregisters := h.cartridge
  rw [← h.same_cartridge] at hregisters
  have hboard : AdmittedBoard candidate.cartridge.mapper candidate.cartridge.prg_bytes
      candidate.cartridge.chr_bytes := by
    rw [hregisters.mapper, hregisters.prg_bytes, hregisters.chr_bytes]
    exact hv'.cartridge.board
  -- What was staged has the size of what it replaces.
  have hchr : candidate.cartridge.chr_ram = false →
      (candidate.staged_chr.map st'.blocks).getD st'.console.cartridge.chr =
        st'.console.cartridge.chr := by
    intro hrom
    have hstaged := h.staged_chr
    cases hsource : candidate.staged_chr with
    | none => rfl
    | some source =>
      rw [hsource, chr_ram_bytes, ← h.chr_ram, hrom] at hstaged
      exact absurd rfl hstaged.1
  have hlen : ((candidate.staged_chr.map st'.blocks).getD st'.console.cartridge.chr).length =
      st'.console.cartridge.chr.length := by
    cases hsource : candidate.staged_chr with
    | none => rfl
    | some source =>
      obtain ⟨hsize, hold, -⟩ := hready.chr source hsource
      exact hsize.trans hold.symm
  have hram : candidate.cartridge.mapper = 4 → ∃ prg_ram,
      st'.console.cartridge.prg_ram.map (candidate.staged_prg.map st'.blocks).getD =
        some prg_ram ∧ prg_ram.length = 8192 := by
    intro hm
    rw [hregisters.mapper] at hm
    obtain ⟨prg_ram, hbytes, hsize⟩ := hv'.cartridge.prg_ram hm
    rw [hbytes, Option.map_some]
    refine ⟨_, rfl, ?_⟩
    cases hsource : candidate.staged_prg with
    | none => exact hsize
    | some source =>
      obtain ⟨hnew, a, ha, hold⟩ := hready.prg source hsource
      exact hnew.trans (hold.symm.trans (prg_ram_length hv' ha))
  have hno_ram : candidate.cartridge.mapper ≠ 4 →
      st'.console.cartridge.prg_ram.map (candidate.staged_prg.map st'.blocks).getD = none := by
    intro hm
    rw [hregisters.mapper] at hm
    rw [hv'.cartridge.no_prg_ram hm]
    rfl
  have hbattery : candidate.cartridge.battery_backed = st'.cartridge.battery_backed := by
    rw [h.battery_backed, h.same_cartridge]
  have hchr_ram : candidate.cartridge.chr_ram = st'.cartridge.chr_ram := by
    rw [h.chr_ram, h.same_cartridge]
  refine ⟨?_, h.machine.ppu, h.machine.apu, h.machine.counters⟩
  unfold Candidate.console Candidate.registers
  dsimp only
  rw [← hregisters.prg_bytes, ← hregisters.chr_bytes]
  have hrange := h.registers
  by_cases hm : candidate.cartridge.mapper = 4
  · rw [if_pos hm]
    refine hv'.cartridge.reloaded ?_ hbattery hchr_ram hchr hlen hram hno_ram ?_ ?_
      fun hno => absurd hm hno
    · exact ⟨rfl, rfl, rfl, hregisters.prg_bytes, hregisters.chr_bytes, hregisters.mapper,
        hregisters.content_identity, rfl, rfl⟩
    · exact ⟨hrange.1, hrange.2, hrange.3, hrange.4, hrange.5, hrange.6, hrange.7, hrange.8⟩
    · exact rebuild_mapping_mapped
        { candidate.cartridge with
          prg := st'.console.cartridge.prg
          chr := (candidate.staged_chr.map st'.blocks).getD st'.console.cartridge.chr
          prg_ram := st'.console.cartridge.prg_ram.map
            (candidate.staged_prg.map st'.blocks).getD } hm hboard
  · rw [if_neg hm]
    refine hv'.cartridge.reloaded ?_ hbattery hchr_ram hchr hlen hram hno_ram ?_ ?_ ?_
    · exact ⟨rfl, rfl, rfl, hregisters.prg_bytes, hregisters.chr_bytes, hregisters.mapper,
        hregisters.content_identity, rfl, rfl⟩
    · exact ⟨hrange.1, hrange.2, hrange.3, hrange.4, hrange.5, hrange.6, hrange.7, hrange.8⟩
    · exact rebuild_mapping_other _ hm
    · intro hno
      rw [hregisters.prg_offsets, hregisters.chr_offsets]
      exact hv'.cartridge.unmapped fun h4 => hno (hregisters.mapper.trans h4)

/-- Nothing before the last part of the call is an access to an array. -/
theorem prepare_in_bounds (read : ReadCallback σ) (grants : Address → Bool) :
    Triple (fun _ : Store × σ => True) (prepare read grants) (fun _ _ => True)
      (fun e _ => in_bounds e) := by
  have hstream {α : Type} (x : StreamM σ α) :
      Triple (fun _ : Store × σ => True) (on_stream x) (fun _ _ => True)
        (fun e _ => in_bounds e) := by
    refine Triple.intro (fun _ _ _ _ _ => trivial) fun s e s' _ h => ?_
    unfold on_stream at h
    cases hx : x s.2 with
    | ok a context =>
      rw [hx] at h
      cases h
    | error status context =>
      rw [hx] at h
      cases h
      exact nofun
  have hstage (n : ℕ) : Triple (fun _ : Store × σ => True) (stage read grants n)
      (fun _ _ => True) (fun e _ => in_bounds e) := by
    unfold stage
    refine .ite (fun _ => .of_pure fun _ _ => trivial) fun _ => ?_
    refine Triple.bind (M := fun _ _ => True) ?_ fun staged => ?_
    · refine Triple.intro (fun _ _ _ _ _ => trivial) fun s e s' _ h => ?_
      rcases lib_allocate_cases grants n s with hsome | hnone
      · rw [hsome] at h
        cases h
      · rw [hnone] at h
        cases h
    · cases staged with
      | none => exact .of_throw fun _ _ => nofun
      | some block =>
        refine Triple.bind (M := fun _ _ => True) ?_ fun _ => .of_pure fun _ _ => trivial
        refine Triple.intro (fun _ _ _ _ _ => trivial) fun s e s' _ h => ?_
        unfold read_block at h
        dsimp only at h
        split at h
        · cases h
        · cases h
          exact nofun
  unfold prepare
  refine Triple.bind (M := fun _ _ => True) (.of_get fun _ _ => trivial) fun s =>
    .bind (M := fun _ _ => True) (hstream _) fun _ =>
    .bind (M := fun _ _ => True) (hstream _) fun _ =>
    .bind (M := fun _ _ => True) (hstream _) fun _ =>
    .bind (M := fun _ _ => True) ?_ fun _ =>
    .bind (M := fun _ _ => True) (hstage _) fun _ =>
    .bind (M := fun _ _ => True) (hstage _) fun _ => .of_pure fun _ _ => trivial
  exact .of_raise_if (fun _ _ _ => nofun) fun _ _ _ => trivial

/-- **What was prepared is committed.** -/
theorem Prepared.commits {st : Store} {s : Store × σ} {candidate : Candidate}
    (h : Prepared st s.1 candidate) (hsep : st.Separate) (hv : st.console.Valid origin) :
    ∃ st', commit candidate s = .ok () (st', s.2) ∧
      st'.console = candidate.console s.1 candidate.registers := by
  refine commit_console (h.separate hsep) (h.ready hsep hv) ?_
  exact candidate_mapping (h.same_console hsep ▸ hv) (h.same_cartridge ▸ h.cartridge)

/-- **Taking any stream back** over a valid console: no access leaves its array, and a stream
that is accepted leaves a valid console. -/
theorem snapshot_read_safe (read : ReadCallback σ) (grants : Address → Bool) :
    Triple (fun s : Store × σ => s.1.Separate ∧ s.1.console.Valid origin)
      (core_snapshot_read read grants) (fun _ s => s.1.console.Valid origin)
      (fun e _ => in_bounds e) := by
  refine Triple.intro (fun s u s' hs h => ?_) fun s e s' hs h => ?_
  · obtain ⟨candidate, s₁, hprepare, hcommit⟩ := bind_eq_ok.mp h
    have hp := prepare_prepared read grants hprepare
    obtain ⟨st', hrun, hconsole⟩ := hp.commits hs.1 hs.2
    rw [hrun] at hcommit
    cases hcommit
    rw [hconsole]
    exact hp.valid hs.1 hs.2
  · rcases bind_eq_error.mp h with hprepare | ⟨candidate, s₁, hprepare, hcommit⟩
    · exact (prepare_in_bounds read grants).of_error trivial hprepare
    · obtain ⟨st', hrun, -⟩ := (prepare_prepared read grants hprepare).commits hs.1 hs.2
      rw [hrun] at hcommit
      cases hcommit

end Committing

end Nxvm.Nes
