/-
8080 emulation refines the 8080: whole runs of the emulated processor are runs of the
direct interpreter on the same board.

One instruction is fetched, decoded and executed on both sides; a run is the induction
over its instructions. The queue is the one thing the 8080 does not have, and the
condition on a run is that what the queue still holds of an instruction is what memory
holds when it is executed.
-/
import Nxvm.Cpu.FlatBoard
import Nxvm.Nec.Fetch

set_option autoImplicit false

namespace Nxvm.Nec

open Nxvm.Cpu Nxvm.Lib Nxvm.Lib.Exec Nxvm.Lib.Memory Nxvm.Lib.Lockstep

variable {β : Type} {w : Windows}

/-! ## One instruction -/

/-- The length and the form of a documented instruction. It is no escape, so its second
byte does not matter, and it advances the program counter by the common path. -/
theorem emulation_of_decode {op : U8} {i : Intel8080.Instr}
    (h : Intel8080.decode op = some i) :
    op ≠ 0xed ∧ kdf_emulation_length op 0 = i.length ∧
      ¬ (x86_core_cpu_emulation_form op = .hlt ∨ x86_core_cpu_emulation_form op = .ei ∨
        x86_core_cpu_emulation_form op = .di) := by
  have hall : ∀ o : U8, (Intel8080.decode o).all (fun j =>
      decide (o ≠ 0xed ∧ kdf_emulation_length o 0 = j.length ∧
        ¬ (x86_core_cpu_emulation_form o = .hlt ∨ x86_core_cpu_emulation_form o = .ei ∨
          x86_core_cpu_emulation_form o = .di))) = true := by
    decide +kernel
  have ho := hall op
  rw [h] at ho
  simpa using ho

/-- The bytes of an instruction are skipped one by one; the program counter wraps. -/
theorem advance_run {e : Executor β} (n : ℕ) (heip : e.context.cpu.eip.toNat ≤ 0xffff) :
    ∃ (e' : Executor β) (eip : U32), advance n e = .ok () e' ∧
      e'.context = { e.context with cpu := { e.context.cpu with eip := eip } } ∧
      eip.toNat ≤ 0xffff ∧ low_word eip = low_word e.context.cpu.eip + BitVec.ofNat 16 n := by
  induction n generalizing e with
  | zero => exact ⟨e, e.context.cpu.eip, rfl, rfl, heip, by simp⟩
  | succ n ih =>
    have hmask : ((e.context.cpu.eip + 1) &&& 0xffff).toNat =
        (e.context.cpu.eip.toNat + 1) % 0x10000 := by
      rw [Bits.and_low_toNat _ 0xffff 16 rfl, BitVec.toNat_add]
      simp only [BitVec.ofNat_eq_ofNat, BitVec.toNat_ofNat]
      omega
    let next : Executor β :=
      { e with
        context := { e.context with
          cpu := { e.context.cpu with eip := (e.context.cpu.eip + 1) &&& 0xffff } }
        prefetch_expected_linear := e.context.cpu.cs.base + ((e.context.cpu.eip + 1) &&& 0xffff)
        prefetch_expected_valid := true }
    have hnext : next.context.cpu.eip.toNat ≤ 0xffff := by
      change ((e.context.cpu.eip + 1) &&& 0xffff).toNat ≤ 0xffff
      rw [hmask]
      omega
    obtain ⟨e', eip, hrun, hcontext, hle, hlow⟩ := ih hnext
    refine ⟨e', eip, ?_, hcontext, hle, ?_⟩
    · rw [advance, bind_run_ok (show kdf_skip e = .ok () next from rfl)]
      exact hrun
    · rw [hlow]
      refine BitVec.eq_of_toNat_eq ?_
      change (low_word ((e.context.cpu.eip + 1) &&& 0xffff) + BitVec.ofNat 16 n).toNat = _
      simp only [low_word, BitVec.toNat_add, BitVec.extractLsb'_toNat, hmask, BitVec.toNat_ofNat]
      omega

/-- The executor's next instruction is a documented one. -/
def Documented {p : Platform β} (M : CodeMemory p.bus) (w : Windows) (e : Executor β) : Prop :=
  (Intel8080.decode (M.segment w e.context.bus e.offset)).isSome = true

instance {p : Platform β} (M : CodeMemory p.bus) (w : Windows) (e : Executor β) :
    Decidable (Documented M w e) :=
  inferInstanceAs (Decidable (_ = true))

/-- What the queue holds of the executor's next instruction has not been overwritten. -/
def Fresh {p : Platform β} (M : CodeMemory p.bus) (w : Windows) (e : Executor β) : Prop :=
  prefetch_lost e e.linear = true ∨
    ∀ i, Intel8080.decode (M.segment w e.context.bus e.offset) = some i →
      ∀ j < i.length, Coherent M w e (e.offset + BitVec.ofNat 16 j)

section Step

variable {p : Platform β} (M : CodeMemory p.bus) {e : Executor β}

/-- The offset of a later byte of the instruction, as the source computes it. -/
theorem later_byte (he : Emulating w e.context) {k : U32} {j : ℕ} (hk : k.toNat = j) :
    (e.context.cpu.eip + k) &&& 0xffff = (e.offset + BitVec.ofNat 16 j).setWidth 32 := by
  have heip := he.eip
  refine BitVec.eq_of_toNat_eq ?_
  rw [Bits.and_low_toNat _ 0xffff 16 rfl]
  simp only [Executor.offset, low_word, BitVec.toNat_add, BitVec.toNat_setWidth,
    BitVec.extractLsb'_toNat, BitVec.toNat_ofNat, hk]
  omega

/-- The instruction is fetched: what follows is its execution. -/
theorem nec_emulation_run (he : Emulating w e.context) {i : Intel8080.Instr}
    (hi : Intel8080.decode (M.segment w e.context.bus e.offset) = some i)
    (hqueue : ∀ j < i.length, Coherent M w e (e.offset + BitVec.ofNat 16 j)) :
    OrRefused p e.context.bus e (nec_emulation p e)
      ((advance i.length >>= fun _ => on_context
          (nec_execute p (x86_core_cpu_emulation_form i.opcode) i.opcode
            (if 1 < i.length then M.segment w e.context.bus (e.offset + 1) else 0)
            (if 2 < i.length then M.segment w e.context.bus (e.offset + 2) else 0))) e) := by
  have hop := Intel8080.opcode_of_decode hi
  obtain ⟨hed, hlength, hform⟩ := emulation_of_decode hi
  have hpos := Intel8080.Instr.length_pos i
  have hbyte : ∀ (k : U32) (j : ℕ), k.toNat = j → j < i.length →
      Answers p e.context.bus e (s_read_cs p (e.context.cpu.eip + k))
        (M.segment w e.context.bus (e.offset + BitVec.ofNat 16 j)) :=
    fun k j hk hj => s_read_cs_answers M he (later_byte he hk) (hqueue j hj)
  have h0 := hbyte 0 0 rfl hpos
  simp only [BitVec.ofNat_eq_ofNat, BitVec.add_zero, ← hop] at h0
  rw [← hop] at hed hlength hform
  have hsome : i.length ≠ 0 := Nat.ne_of_gt hpos
  rw [nec_emulation, bind_run, query_run]
  refine Answers.bind h0 ?_
  simp only [hed, hlength, hsome, hform, if_false, pure_bind, ne_eq, not_false_eq_true, true_and]
  by_cases h1 : 1 < i.length
  · simp only [h1, if_true]
    refine Answers.bind (hbyte 1 1 rfl h1) ?_
    by_cases h2 : 2 < i.length
    · simp only [h2, if_true]
      refine Answers.bind (hbyte 2 2 rfl h2) ?_
      exact .inl rfl
    · simp only [h2, if_false, pure_bind]
      exact .inl rfl
  · have h2 : ¬ 2 < i.length := by omega
    simp only [h1, h2, if_false, pure_bind]
    exact .inl rfl

/-- An instruction of the emulation ends like the 8080's. If it faults, the registers are
back at its start, and either the board refused code or the 8080 stops as well. -/
def Matches (w : Windows) (e : Executor β) : EStateM.Result Fault (Executor β) Unit → Prop
  | .ok _ e' => Emulating w e'.context ∧
      Intel8080.step (board p M w) (machine_of e.context) = .ok () (machine_of e'.context)
  | .error f e' => f.except = .ce ∧ e'.context.cpu = e.context.cpu ∧
      (Refused p e.context.bus ∧ e'.context.bus = e.context.bus ∨
        Intel8080.step (board p M w) (machine_of e.context) = .error () (machine_of e'.context))

/-- The registers put back, as `exec_ins` leaves them after a fault. -/
def Executor.restored (e e' : Executor β) : Executor β :=
  { e' with context := { e'.context with cpu := e.context.cpu } }

/-- The last part of an instruction, on both sides, with the registers of the start put
back on both sides if it faults. -/
theorem on_context_alike {e₁ : Executor β} {x : Exec β Unit} {y : Intel8080.Run β Unit}
    (h : Alike (Same w) Stopped (x e₁.context) (y (machine_of e.context))) :
    Alike (fun _ (e' : Executor β) _ m => Emulating w e'.context ∧ m = machine_of e'.context)
      (fun f (e' : Executor β) _ m => f.except = .ce ∧ m = machine_of (e.restored e').context)
      (on_context x e₁) (Intel8080.restoring y (machine_of e.context)) := by
  cases hx : x e₁.context with
  | ok v c =>
    cases hy : y (machine_of e.context) with
    | ok v' m =>
      rw [hx, hy] at h
      rw [on_context_ok hx, Intel8080.restoring_ok hy]
      exact h.2
    | error f m =>
      rw [hx, hy] at h
      exact h.elim
  | error f c =>
    cases hy : y (machine_of e.context) with
    | ok v' m =>
      rw [hx, hy] at h
      exact h.elim
    | error f' m =>
      rw [hx, hy] at h
      rw [on_context_error hx, Intel8080.restoring_error hy]
      obtain ⟨hf, hbus⟩ := h
      refine ⟨hf, ?_⟩
      rw [← hbus]
      rfl

/-- The execution of a fetched instruction. -/
theorem execute_alike (he : Emulating w e.context) {i : Intel8080.Instr}
    (hi : Intel8080.decode (M.segment w e.context.bus e.offset) = some i) :
    Alike (fun _ (e' : Executor β) _ m => Emulating w e'.context ∧ m = machine_of e'.context)
      (fun f (e' : Executor β) _ m => f.except = .ce ∧ m = machine_of (e.restored e').context)
      ((advance i.length >>= fun _ => on_context
          (nec_execute p (x86_core_cpu_emulation_form i.opcode) i.opcode
            (if 1 < i.length then M.segment w e.context.bus (e.offset + 1) else 0)
            (if 2 < i.length then M.segment w e.context.bus (e.offset + 2) else 0))) e)
      (Intel8080.step (board p M w) (machine_of e.context)) := by
  obtain ⟨e₁, eip, hadvance, hcontext, hle, hlow⟩ := advance_run i.length he.eip
  have he₁ : Emulating w e₁.context := by
    rw [hcontext]
    exact ⟨he.cs, he.ds, he.real, he.md, hle, he.data, he.unlocked⟩
  have hmachine : machine_of e₁.context =
      { machine_of e.context with
        regs := { registers_of e.context.cpu with
          pc := e.offset + BitVec.ofNat 16 i.length } } := by
    rw [hcontext]
    simp only [machine_of, registers_of, hlow, Executor.offset]
  have hexec := executes p M hi e₁.context he₁
    (if 1 < i.length then M.segment w e.context.bus (e.offset + 1) else 0)
    (if 2 < i.length then M.segment w e.context.bus (e.offset + 2) else 0)
  have hstep := Intel8080.step_of_decode (board p M w) (m := machine_of e.context) hi
  rw [Intel8080.exec_own_bytes, hmachine] at hexec
  rw [bind_run_ok hadvance, hstep]
  exact on_context_alike hexec

theorem exec_ins_ok {e' : Executor β} (h : (exec_init p >>= fun _ => nec_emulation p) e = .ok () e') :
    exec_ins p e = .ok () e' := by
  rw [exec_ins, h]

theorem exec_ins_error {e' : Executor β} {f : Fault}
    (h : (exec_init p >>= fun _ => nec_emulation p) e = .error f e') :
    exec_ins p e = .error f (e.restored e') := by
  rw [exec_ins, h]
  rfl

theorem exec_ins_matches (he : Emulating w e.context) (hdoc : Documented M w e)
    (hfresh : Fresh M w e) : Matches M w e (exec_ins p e) := by
  obtain ⟨i, hi⟩ := Option.isSome_iff_exists.mp hdoc
  have hinit := exec_init_run M he
    (fun a => ∃ j < i.length, a = e.offset + BitVec.ofNat 16 j) (by
      refine hfresh.imp id fun h => ?_
      rintro _ ⟨j, hj, rfl⟩
      exact h i hi j hj)
  rcases hinit with ⟨e₀, hinit, hrefilled, hqueue⟩ | ⟨hrefused, f, e₀, hinit, hf, hbus⟩
  · have hbus : e₀.context.bus = e.context.bus := by rw [hrefilled]
    have hcpu : e₀.context.cpu = e.context.cpu := by rw [hrefilled]
    have hoffset : e₀.offset = e.offset := by rw [Executor.offset, hcpu, Executor.offset]
    have hi₀ : Intel8080.decode (M.segment w e₀.context.bus e₀.offset) = some i := by
      rw [hbus, hoffset]
      exact hi
    have he₀ := hrefilled.emulating he
    have hrun := nec_emulation_run M he₀ hi₀ fun j hj => hqueue _ ⟨j, hj, by rw [hoffset]⟩
    rcases hrun with hrun | ⟨hrefused, f, hrun, hf⟩
    · have halike := execute_alike M he₀ hi₀
      rw [← hrun, hrefilled.machine] at halike
      cases hnec : nec_emulation p e₀ with
      | ok v e' =>
        rw [exec_ins_ok ((bind_run_ok hinit).trans hnec)]
        cases hstep : Intel8080.step (board p M w) (machine_of e.context) with
        | ok v' m =>
          rw [hnec, hstep] at halike
          obtain ⟨he', rfl⟩ := halike
          exact ⟨he', hstep⟩
        | error f m =>
          rw [hnec, hstep] at halike
          exact halike.elim
      | error f e' =>
        rw [exec_ins_error ((bind_run_ok hinit).trans hnec)]
        cases hstep : Intel8080.step (board p M w) (machine_of e.context) with
        | ok v' m =>
          rw [hnec, hstep] at halike
          exact halike.elim
        | error f' m =>
          rw [hnec, hstep] at halike
          obtain ⟨hf, rfl⟩ := halike
          refine ⟨hf, rfl, .inr ?_⟩
          rw [hstep]
          simp only [machine_of, Executor.restored, hcpu]
    · rw [exec_ins_error ((bind_run_ok hinit).trans hrun)]
      rw [hbus] at hrefused
      exact ⟨hf, rfl, .inl ⟨hrefused, hbus⟩⟩
  · rw [exec_ins_error (bind_run_error hinit)]
    exact ⟨hf, rfl, .inl ⟨hrefused, hbus⟩⟩

end Step

/-! ## Runs -/

/-- Every state in which the emulation executes an instruction, of the next `n`, has a
documented instruction before it, and a queue that has not been overtaken by a write. -/
def Faithful (p : Platform β) (M : CodeMemory p.bus) (w : Windows) (n : ℕ) (e : Executor β) :
    Prop :=
  ∀ k < n, ∀ e', exec_run p k e = .ok () e' → Documented M w e' ∧ Fresh M w e'

theorem exec_run_succ {p : Platform β} {e e₁ : Executor β} (h : exec_ins p e = .ok () e₁) (n : ℕ) :
    exec_run p (n + 1) e = exec_run p n e₁ := by
  rw [exec_run, bind_run_ok h]

theorem Faithful.tail {p : Platform β} {M : CodeMemory p.bus} {n : ℕ} {e e₁ : Executor β}
    (h : Faithful p M w (n + 1) e) (hins : exec_ins p e = .ok () e₁) : Faithful p M w n e₁ := by
  intro k hk e' hrun
  exact h (k + 1) (by omega) e' ((exec_run_succ hins k).trans hrun)

/-- The emulation runs like the 8080 on the same board. If a fault stops it, the registers
and the program counter are those before the instruction that faulted; up to there it
ran like the 8080, and there the 8080 stops as well, or the board has refused a read of
code. -/
theorem exec_run_refines (p : Platform β) (M : CodeMemory p.bus) (w : Windows) (n : ℕ)
    (e : Executor β) (he : Emulating w e.context) (h : Faithful p M w n e) :
    (∀ e', exec_run p n e = .ok () e' → Emulating w e'.context ∧
      Intel8080.run (board p M w) n (machine_of e.context) = .ok () (machine_of e'.context)) ∧
    ∀ f e', exec_run p n e = .error f e' → f.except = .ce ∧
      ∃ k < n, ∃ e₀, exec_run p k e = .ok () e₀ ∧ e'.context.cpu = e₀.context.cpu ∧
        Intel8080.run (board p M w) k (machine_of e.context) = .ok () (machine_of e₀.context) ∧
        (Refused p e₀.context.bus ∧ e'.context.bus = e₀.context.bus ∨
          Intel8080.step (board p M w) (machine_of e₀.context) =
            .error () (machine_of e'.context)) := by
  induction n generalizing e with
  | zero =>
    refine ⟨fun e' hrun => ?_, fun f e' hrun => ?_⟩
    · obtain rfl : e = e' := by simpa [exec_run] using hrun
      exact ⟨he, rfl⟩
    · exact absurd hrun (by simp [exec_run])
  | succ n ih =>
    obtain ⟨hdoc, hfresh⟩ := h 0 (by omega) e rfl
    have hmatches := exec_ins_matches M he hdoc hfresh
    cases hins : exec_ins p e with
    | ok v e₁ =>
      rw [hins] at hmatches
      obtain ⟨he₁, hstep⟩ := hmatches
      have hdirect : ∀ k, Intel8080.run (board p M w) (k + 1) (machine_of e.context) =
          Intel8080.run (board p M w) k (machine_of e₁.context) := by
        intro k
        rw [Intel8080.run, bind_run_ok hstep]
      obtain ⟨hok, herror⟩ := ih e₁ he₁ (h.tail hins)
      rw [exec_run_succ hins]
      refine ⟨fun e' hrun => ?_, fun f e' hrun => ?_⟩
      · obtain ⟨he', hsame⟩ := hok e' hrun
        exact ⟨he', (hdirect n).trans hsame⟩
      · obtain ⟨hf, k, hk, e₀, hreach, hcpu, hsame, hstop⟩ := herror f e' hrun
        exact ⟨hf, k + 1, by omega, e₀, (exec_run_succ hins k).trans hreach, hcpu,
          (hdirect k).trans hsame, hstop⟩
    | error f e₁ =>
      rw [hins] at hmatches
      obtain ⟨hf, hcpu, hstop⟩ := hmatches
      rw [exec_run, bind_run_error hins]
      refine ⟨fun e' hrun => absurd hrun (by simp), fun f' e' hrun => ?_⟩
      obtain ⟨rfl, rfl⟩ : f = f' ∧ e₁ = e' := by simpa using hrun
      exact ⟨hf, 0, by omega, e, rfl, hcpu, rfl, hstop⟩

/-! ## A program that overtakes its queue -/

/-- Memory, and ports that accept everything. -/
def flat_platform : Platform (Mem 32) where
  bus := flat_bus
  ports := ⟨fun _ _ _ _ mem => (some 0, mem), fun _ _ _ mem => mem⟩
  native _ _ _ := pure ()

def flat_code : CodeMemory flat_platform.bus where
  code mem := mem
  quiet _ _ _ _ _ _ := rfl
  bytes a n q cc mem data _ h i _ := by
    cases h
    rfl

def flat_windows : Windows where
  cs := { CpuData.zero.cs with limit := 0xffff }
  ds := { CpuData.zero.ds with limit := 0xffff }
  code := rfl
  data := rfl
  low := by decide

/-- `STA 0103`, and the `NOP` it overwrites with `INR A`. -/
def overwriting : Executor (Mem 32) where
  context := flat_context
    { CpuData.zero with cs := flat_windows.cs, ds := flat_windows.ds, eax := 0x3c, eip := 0x100 }
    (store (fun _ => 0) 0x100 [0x32, 0x03, 0x01, 0x00])
  prefetch_linear := 0
  prefetch_bytes _ := 0
  prefetch_expected_linear := 0
  prefetch_expected_valid := false

theorem overwriting_emulating : Emulating flat_windows overwriting.context :=
  ⟨rfl, rfl, rfl, rfl, by decide, rfl, rfl⟩

/-- A run that raises no fault ends in its final state. -/
theorem run_of_no_fault {ε σ : Type} {x : EStateM ε σ Unit} {s : σ}
    (h : (fault_of x s).isNone = true) : x s = .ok () (final x s) := by
  rw [fault_of] at h
  rw [final]
  cases hx : x s with
  | ok v s' => rfl
  | error f s' =>
    rw [hx] at h
    exact absurd h (by simp)

/-- Its first instruction runs like the 8080's. -/
theorem exec_run_refines_overwriting :
    ∃ e', exec_run flat_platform 1 overwriting = .ok () e' ∧
      Intel8080.run (board flat_platform flat_code flat_windows) 1
        (machine_of overwriting.context) = .ok () (machine_of e'.context) := by
  have hrun := run_of_no_fault (x := exec_run flat_platform 1) (s := overwriting)
    (by decide +kernel)
  have hfaithful : Faithful flat_platform flat_code flat_windows 1 overwriting := by
    intro k hk e' hreach
    obtain rfl : k = 0 := by omega
    obtain rfl : overwriting = e' := by simpa [exec_run] using hreach
    exact ⟨by decide +kernel, .inl (by decide +kernel)⟩
  have hrefines := exec_run_refines flat_platform flat_code flat_windows 1 overwriting
    overwriting_emulating hfaithful
  exact ⟨_, hrun, (hrefines.1 _ hrun).2⟩

/-- The second instruction is taken from the queue, where it is still `NOP`. -/
theorem overtaken_queue :
    Emulating flat_windows overwriting.context ∧
      (∀ k < 2, ∀ e', exec_run flat_platform k overwriting = .ok () e' →
        Documented flat_code flat_windows e') ∧
      ∃ e' m, exec_run flat_platform 2 overwriting = .ok () e' ∧
        Intel8080.run (board flat_platform flat_code flat_windows) 2
          (machine_of overwriting.context) = .ok () m ∧
        (registers_of e'.context.cpu).a = 0x3c ∧ m.regs.a = 0x3d := by
  refine ⟨overwriting_emulating, ?_, ?_⟩
  · intro k hk e' hreach
    have hfinal := final_of_ok hreach
    have hcases : k = 0 ∨ k = 1 := by omega
    rw [← hfinal]
    rcases hcases with rfl | rfl
    · decide +kernel
    · decide +kernel
  · exact ⟨_, _, run_of_no_fault (by decide +kernel), run_of_no_fault (by decide +kernel),
      by decide +kernel, by decide +kernel⟩

end Nxvm.Nec
