/-
Seeks and recalibrates of the floppy disk controller (`x86_fdc_advance_seeks`).

Each drive has a tick at which its next step is due. A round takes the drive whose step is due
first, so long as that is not ahead, steps it, and puts its next step as much later as the step
rate says, or not later at all where the ticks saturate. What ends the rounds is not time but the
cylinders left to go, and the 77 steps that a recalibrate has.
-/
import Nxvm.Chips.Fdc
import Nxvm.Lib.Rounds

set_option autoImplicit false

namespace Nxvm.Chips

open Nxvm.Lib Nxvm.Lib.Register Nxvm.Lib.Rounds

section Setup

variable {μ σ : Type} (setup : FdcSetup μ σ)

/-! ## Seeks -/

/-- The heads are where the seek takes them. -/
def fdc_seek_arrived (motion : FdcMotion μ) (drive : Fin 4) : Bool :=
  if motion.seek_recalibrate drive then fdc_track_zero setup motion.drives drive
  else (motion.pcn drive).toNat = (motion.seek_target drive).toNat

/-- `x86_fdc_begin_seek`. -/
def fdc_begin_seek (s : FdcState μ σ) (target : U16) : FdcState μ σ :=
  let data := s.core.data
  let drive := data.selected_drive
  let recalibrate : Bool := data.command_code = fdc_cmd_recalibrate
  let motion := { s.motion with
    seek_target := Function.update s.motion.seek_target drive target
    seek_recalibrate := Function.update s.motion.seek_recalibrate drive recalibrate
    seek_head := Function.update s.motion.seek_head drive (data.command_byte 1 &&& 0x04)
    seek_steps := Function.update s.motion.seek_steps drive 0
    pcn := if recalibrate then Function.update s.motion.pcn drive 0 else s.motion.pcn }
  let complete := fdc_seek_arrived setup motion drive
  let ticks :=
    if complete || !fdc_drive_status_ready setup motion.drives drive then 0
    else fdc_step_ticks setup data
  { core := fdc_command_phase s.core
    motion := { motion with
      seek_due_tick :=
        Function.update motion.seek_due_tick drive (fdc_deadline data.elapsed_ticks ticks)
      seek_pending_mask := Function.update motion.seek_pending_mask drive true } }

/-- `x86_fdc_finish_seek`, without the interrupt. -/
def fdc_finish_seek (motion : FdcMotion μ) (drive : Fin 4) (status : U8) : FdcMotion μ :=
  { motion with
    seek_pending_mask := Function.update motion.seek_pending_mask drive false
    seek_results := motion.seek_results ++ [⟨status ||| fdc_st0_seek_end |||
      motion.seek_head drive ||| BitVec.ofNat 8 drive.val, motion.pcn drive⟩] }

/-- The drive whose step is due first, of those due by now. -/
def fdc_next_seek (elapsed_ticks : ℕ) (motion : FdcMotion μ) : Option (Fin 4) :=
  (List.finRange 4).foldl (fun next drive =>
    if motion.seek_pending_mask drive = true ∧ motion.seek_due_tick drive ≤ elapsed_ticks ∧
        (∀ earlier ∈ next, motion.seek_due_tick drive < motion.seek_due_tick earlier) then
      some drive
    else next) none

/-- One step of a drive. -/
def fdc_seek_stepped (motion : FdcMotion μ) (drive : Fin 4) : FdcMotion μ :=
  let recalibrate := motion.seek_recalibrate drive
  let outward : Bool :=
    recalibrate || (motion.seek_target drive).toNat < (motion.pcn drive).toNat
  let pcn := if outward then motion.pcn drive - 1 else motion.pcn drive + 1
  { motion with
    drives := setup.step motion.drives drive outward
    steps := motion.steps ++ [⟨drive, outward, motion.seek_due_tick drive⟩]
    seek_steps := Function.update motion.seek_steps drive (motion.seek_steps drive + 1)
    pcn := if recalibrate then motion.pcn else Function.update motion.pcn drive pcn }

/-- One round of the loop of `x86_fdc_advance_seeks`. -/
def fdc_seek_round (step_ticks : ℕ) (motion : FdcMotion μ) (drive : Fin 4) : FdcMotion μ :=
  let due := motion.seek_due_tick drive
  let motion :=
    if fdc_seek_arrived setup motion drive then motion else fdc_seek_stepped setup motion drive
  if fdc_seek_arrived setup motion drive then fdc_finish_seek motion drive fdc_st0_normal
  else if motion.seek_recalibrate drive = true ∧ motion.seek_steps drive = 77 then
    fdc_finish_seek motion drive (fdc_st0_abnormal ||| fdc_st0_equipment_check)
  else
    { motion with
      seek_due_tick := Function.update motion.seek_due_tick drive (fdc_deadline due step_ticks) }

/-- The drives that are not ready give up. -/
def fdc_finish_not_ready (motion : FdcMotion μ) : FdcMotion μ :=
  (List.finRange 4).foldl (fun motion drive =>
    if motion.seek_pending_mask drive = true ∧
        fdc_drive_status_ready setup motion.drives drive = false then
      fdc_finish_seek motion drive (fdc_st0_abnormal ||| fdc_st0_not_ready)
    else motion) motion

/-- Enough rounds for four drives. -/
def fdc_seek_rounds : ℕ := 4 * 256

/-- `x86_fdc_advance_seeks`, as far as the heads are concerned. -/
def fdc_move_heads (step_ticks elapsed_ticks : ℕ) (motion : FdcMotion μ) : FdcMotion μ :=
  loop (fdc_next_seek elapsed_ticks) (fdc_seek_round setup step_ticks) fdc_seek_rounds
    (fdc_finish_not_ready setup motion)

/-- `x86_fdc_advance_seeks`: whatever finishes raises the interrupt. -/
def fdc_advance_seeks (s : FdcState μ σ) : FdcState μ σ :=
  let motion :=
    fdc_move_heads setup (fdc_step_ticks setup s.core.data) s.core.data.elapsed_ticks s.motion
  { core :=
      if s.motion.seek_results.length < motion.seek_results.length then fdc_raise_irq s.core
      else s.core
    motion }

/-! ## The drive that is next -/

/-- The step of `drive` comes before that of `other`: of those due together, the lower one. -/
def FdcPrecedes (motion : FdcMotion μ) (drive other : Fin 4) : Prop :=
  motion.seek_due_tick drive < motion.seek_due_tick other ∨
    motion.seek_due_tick drive = motion.seek_due_tick other ∧ drive ≤ other

/-- The step of the drive is due. -/
def FdcSeekDue (elapsed_ticks : ℕ) (motion : FdcMotion μ) (drive : Fin 4) : Prop :=
  motion.seek_pending_mask drive = true ∧ motion.seek_due_tick drive ≤ elapsed_ticks

theorem FdcPrecedes.antisymm {motion : FdcMotion μ} {a b : Fin 4} (h : FdcPrecedes motion a b)
    (h' : FdcPrecedes motion b a) : a = b := by
  unfold FdcPrecedes at h h'
  omega

/-- The loop over the drives, from a choice that it already has. -/
def fdc_next_seek_from (elapsed_ticks : ℕ) (motion : FdcMotion μ) :
    Option (Fin 4) → List (Fin 4) → Option (Fin 4) :=
  List.foldl fun next drive =>
    if motion.seek_pending_mask drive = true ∧ motion.seek_due_tick drive ≤ elapsed_ticks ∧
        (∀ earlier ∈ next, motion.seek_due_tick drive < motion.seek_due_tick earlier) then
      some drive
    else next

theorem fdc_next_seek_eq (elapsed_ticks : ℕ) (motion : FdcMotion μ) :
    fdc_next_seek elapsed_ticks motion =
      fdc_next_seek_from elapsed_ticks motion none (List.finRange 4) := rfl

/-- The choice is no later than anything that was due, and only where nothing was there is none. -/
theorem fdc_next_seek_from_spec (elapsed_ticks : ℕ) (motion : FdcMotion μ)
    (drives : List (Fin 4)) :
    ∀ next : Option (Fin 4), drives.Pairwise (· < ·) →
      (∀ earlier ∈ next, ∀ drive ∈ drives, earlier < drive) →
      (∀ earlier ∈ next, FdcSeekDue elapsed_ticks motion earlier) →
      (∀ chosen ∈ fdc_next_seek_from elapsed_ticks motion next drives,
        FdcSeekDue elapsed_ticks motion chosen ∧
          (∀ earlier ∈ next, FdcPrecedes motion chosen earlier) ∧
          ∀ drive ∈ drives, FdcSeekDue elapsed_ticks motion drive →
            FdcPrecedes motion chosen drive) ∧
      (fdc_next_seek_from elapsed_ticks motion next drives = none →
        next = none ∧ ∀ drive ∈ drives, ¬ FdcSeekDue elapsed_ticks motion drive) := by
  induction drives with
  | nil =>
    intro next _ _ hdue
    refine ⟨fun chosen hchosen => ⟨hdue chosen hchosen, ?_, by simp⟩,
      fun hnone => ⟨hnone, by simp⟩⟩
    intro earlier hearlier
    obtain rfl := Option.mem_unique hchosen hearlier
    exact .inr ⟨rfl, le_refl _⟩
  | cons head tail ih =>
    intro next hsorted hbefore hdue
    rw [List.pairwise_cons] at hsorted
    rw [fdc_next_seek_from, List.foldl_cons]
    by_cases htaken : motion.seek_pending_mask head = true ∧
        motion.seek_due_tick head ≤ elapsed_ticks ∧
        ∀ earlier ∈ next, motion.seek_due_tick head < motion.seek_due_tick earlier
    · rw [if_pos htaken]
      obtain ⟨hpending, hhead, hearlier⟩ := htaken
      obtain ⟨hsome, hnone⟩ := ih (some head) hsorted.2
        (fun earlier h drive hdrive => by
          cases h
          exact hsorted.1 drive hdrive)
        (fun earlier h => by
          cases h
          exact ⟨hpending, hhead⟩)
      constructor
      · intro chosen hchosen
        obtain ⟨hchosen_due, hfirst, hrest⟩ := hsome chosen hchosen
        have hle := hfirst head rfl
        refine ⟨hchosen_due, fun earlier h => ?_, fun drive hdrive hdrive_due => ?_⟩
        · have hlt := hearlier earlier h
          unfold FdcPrecedes at hle ⊢
          omega
        · rcases List.mem_cons.mp hdrive with rfl | hdrive
          · exact hle
          · exact hrest drive hdrive hdrive_due
      · intro h
        cases (hnone h).1
    · rw [if_neg htaken]
      obtain ⟨hsome, hnone⟩ := ih next hsorted.2
        (fun earlier h drive hdrive => hbefore earlier h drive (List.mem_cons_of_mem _ hdrive))
        hdue
      constructor
      · intro chosen hchosen
        obtain ⟨hchosen_due, hfirst, hrest⟩ := hsome chosen hchosen
        refine ⟨hchosen_due, hfirst, fun drive hdrive hdrive_due => ?_⟩
        rcases List.mem_cons.mp hdrive with rfl | hdrive
        · -- It was due and not taken, so what was already there is no later.
          have hkept : ∃ earlier ∈ next,
              motion.seek_due_tick earlier ≤ motion.seek_due_tick drive := by
            by_contra hno
            push Not at hno
            exact htaken ⟨hdrive_due.1, hdrive_due.2, hno⟩
          obtain ⟨earlier, hmem, hle⟩ := hkept
          have hlt := hbefore earlier hmem drive List.mem_cons_self
          have hprecedes := hfirst earlier hmem
          unfold FdcPrecedes at hprecedes ⊢
          omega
        · exact hrest drive hdrive hdrive_due
      · intro h
        obtain ⟨hnext, hrest⟩ := hnone h
        refine ⟨hnext, fun drive hdrive hdrive_due => ?_⟩
        rcases List.mem_cons.mp hdrive with rfl | hdrive
        · subst hnext
          exact htaken ⟨hdrive_due.1, hdrive_due.2, by simp⟩
        · exact hrest drive hdrive hdrive_due

theorem fdc_next_seek_none {elapsed_ticks : ℕ} {motion : FdcMotion μ}
    (h : fdc_next_seek elapsed_ticks motion = none) (drive : Fin 4) :
    ¬ FdcSeekDue elapsed_ticks motion drive := by
  rw [fdc_next_seek_eq] at h
  exact ((fdc_next_seek_from_spec elapsed_ticks motion _ none (List.pairwise_lt_finRange 4)
    (by simp) (by simp)).2 h).2 drive (List.mem_finRange drive)

/-- What is next is due, and before every other drive that seeks. -/
theorem fdc_next_seek_some {elapsed_ticks : ℕ} {motion : FdcMotion μ} {drive : Fin 4}
    (h : fdc_next_seek elapsed_ticks motion = some drive) :
    FdcSeekDue elapsed_ticks motion drive ∧
      ∀ other, motion.seek_pending_mask other = true → FdcPrecedes motion drive other := by
  rw [fdc_next_seek_eq] at h
  obtain ⟨hdue, -, hfirst⟩ := (fdc_next_seek_from_spec elapsed_ticks motion _ none
    (List.pairwise_lt_finRange 4) (by simp) (by simp)).1 drive h
  refine ⟨hdue, fun other hother => ?_⟩
  by_cases hother_due : motion.seek_due_tick other ≤ elapsed_ticks
  · exact hfirst other (List.mem_finRange other) ⟨hother, hother_due⟩
  · have hle := hdue.2
    exact .inl (by omega)

/-- What is next by an earlier tick is next by a later one. -/
theorem fdc_next_seek_mono {early late : ℕ} (hle : early ≤ late) {motion : FdcMotion μ}
    {drive : Fin 4} (h : fdc_next_seek early motion = some drive) :
    fdc_next_seek late motion = some drive := by
  obtain ⟨hdue, hfirst⟩ := fdc_next_seek_some h
  cases hlate : fdc_next_seek late motion with
  | none => exact absurd ⟨hdue.1, hdue.2.trans hle⟩ (fdc_next_seek_none hlate drive)
  | some other =>
    obtain ⟨hother, hother_first⟩ := fdc_next_seek_some hlate
    rw [(hother_first drive hdue.1).antisymm (hfirst other hother.1)]

/-! ## The way that is left -/

/-- The steps that a drive can still be given: the cylinders left to go, or what is left of the 77
steps of a recalibrate. -/
def fdc_steps_left (motion : FdcMotion μ) (drive : Fin 4) : ℕ :=
  if motion.seek_recalibrate drive then 77 - (motion.seek_steps drive).toNat
  else (motion.pcn drive).toNat - (motion.seek_target drive).toNat +
    ((motion.seek_target drive).toNat - (motion.pcn drive).toNat)

/-- The steps go outward. -/
def fdc_outward (motion : FdcMotion μ) (drive : Fin 4) : Bool :=
  motion.seek_recalibrate drive || (motion.seek_target drive).toNat < (motion.pcn drive).toNat

/-- The steps left, with their directions. -/
def fdc_way (motion : FdcMotion μ) (drive : Fin 4) : List Bool :=
  List.replicate (fdc_steps_left motion drive) (fdc_outward motion drive)

/-- The directions of the steps that a drive was given. -/
def fdc_pulses (issued : List FdcStep) (drive : Fin 4) : List Bool :=
  (issued.filter fun step => step.unit = drive).map FdcStep.outward

/-- A seek such as the commands ask for: the cylinder is a byte, and a recalibrate has not had all
its steps. -/
structure FdcSeekValid (motion : FdcMotion μ) (drive : Fin 4) : Prop where
  target : motion.seek_recalibrate drive = false → (motion.seek_target drive).toNat < 256
  steps : motion.seek_recalibrate drive = true → (motion.seek_steps drive).toNat < 77
  due : motion.seek_due_tick drive ≤ tick_max

/-- All seeks are such, and there is room for the results of all. -/
structure FdcSeeksValid (motion : FdcMotion μ) : Prop where
  seeks : ∀ drive, motion.seek_pending_mask drive = true → FdcSeekValid motion drive
  room : motion.seek_results.length +
    (Finset.univ.filter fun drive => motion.seek_pending_mask drive = true).card ≤ 4

/-- The drive is where it was, with the same seek. -/
structure FdcSeekSame (a b : FdcMotion μ) (drive : Fin 4) : Prop where
  pcn : b.pcn drive = a.pcn drive
  target : b.seek_target drive = a.seek_target drive
  recalibrate : b.seek_recalibrate drive = a.seek_recalibrate drive
  steps : b.seek_steps drive = a.seek_steps drive

@[simp] theorem fdc_pulses_append (issued issued' : List FdcStep) (drive : Fin 4) :
    fdc_pulses (issued ++ issued') drive = fdc_pulses issued drive ++ fdc_pulses issued' drive := by
  simp [fdc_pulses]

theorem FdcSeekSame.left {a b : FdcMotion μ} {drive : Fin 4} (h : FdcSeekSame a b drive) :
    fdc_steps_left b drive = fdc_steps_left a drive := by
  simp only [fdc_steps_left, h.pcn, h.target, h.recalibrate, h.steps]

theorem FdcSeekSame.way {a b : FdcMotion μ} {drive : Fin 4} (h : FdcSeekSame a b drive) :
    fdc_way b drive = fdc_way a drive := by
  simp only [fdc_way, h.left, fdc_outward, h.pcn, h.target, h.recalibrate]

theorem FdcSeekSame.valid {a b : FdcMotion μ} {drive : Fin 4} (h : FdcSeekSame a b drive)
    (hdue : b.seek_due_tick drive = a.seek_due_tick drive) (hvalid : FdcSeekValid a drive) :
    FdcSeekValid b drive where
  target := by
    rw [h.recalibrate, h.target]
    exact hvalid.target
  steps := by
    rw [h.recalibrate, h.steps]
    exact hvalid.steps
  due := by
    rw [hdue]
    exact hvalid.due

theorem fdc_seek_stepped_same (motion : FdcMotion μ) {drive other : Fin 4} (hne : other ≠ drive) :
    FdcSeekSame motion (fdc_seek_stepped setup motion drive) other where
  pcn := by
    rw [fdc_seek_stepped]
    dsimp only
    rw [apply_ite (fun pcn : Fin 4 → U8 => pcn other), Function.update_of_ne hne, ite_self]
  target := rfl
  recalibrate := rfl
  steps := Function.update_of_ne hne _ _

theorem fdc_finish_seek_same (motion : FdcMotion μ) (drive other : Fin 4) (status : U8) :
    FdcSeekSame motion (fdc_finish_seek motion drive status) other :=
  ⟨rfl, rfl, rfl, rfl⟩

/-- The position after a step toward the target. -/
theorem fdc_seek_stepped_pcn {motion : FdcMotion μ} {drive : Fin 4}
    (hrecalibrate : motion.seek_recalibrate drive = false)
    (htarget : (motion.seek_target drive).toNat < 256)
    (hne : (motion.pcn drive).toNat ≠ (motion.seek_target drive).toNat) :
    ((fdc_seek_stepped setup motion drive).pcn drive).toNat =
      if (motion.seek_target drive).toNat < (motion.pcn drive).toNat then
        (motion.pcn drive).toNat - 1
      else (motion.pcn drive).toNat + 1 := by
  have hlt := (motion.pcn drive).isLt
  simp only [fdc_seek_stepped, hrecalibrate, Bool.false_or, Bool.false_eq_true, if_false,
    Function.update_self, decide_eq_true_eq]
  by_cases hout : (motion.seek_target drive).toNat < (motion.pcn drive).toNat
  · rw [if_pos hout, if_pos hout, BitVec.toNat_sub_of_le (by rw [BitVec.le_def]; simp; omega)]
    rfl
  · rw [if_neg hout, if_neg hout, BitVec.toNat_add_of_lt (by simp; omega)]
    rfl

/-- A step of a drive that has not arrived is one of those left, and what is left after it goes the
same way. -/
theorem fdc_steps_left_stepped {motion : FdcMotion μ} {drive : Fin 4}
    (hvalid : FdcSeekValid motion drive)
    (hgoing : fdc_seek_arrived setup motion drive = false) :
    fdc_steps_left motion drive =
        fdc_steps_left (fdc_seek_stepped setup motion drive) drive + 1 ∧
      (fdc_steps_left (fdc_seek_stepped setup motion drive) drive ≠ 0 →
        fdc_outward (fdc_seek_stepped setup motion drive) drive = fdc_outward motion drive) := by
  cases hrecalibrate : motion.seek_recalibrate drive with
  | true =>
    have hlt := hvalid.steps hrecalibrate
    have hstep : (motion.seek_steps drive + 1).toNat = (motion.seek_steps drive).toNat + 1 := by
      rw [BitVec.toNat_add_of_lt (by simp; omega)]
      rfl
    simp only [fdc_steps_left, fdc_outward, fdc_seek_stepped, hrecalibrate,
      Function.update_self, Bool.true_or, if_true, hstep]
    exact ⟨by omega, fun _ => trivial⟩
  | false =>
    have htarget := hvalid.target hrecalibrate
    have hne : (motion.pcn drive).toNat ≠ (motion.seek_target drive).toNat := by
      simpa [fdc_seek_arrived, hrecalibrate] using hgoing
    have hpcn := fdc_seek_stepped_pcn setup hrecalibrate htarget hne
    have hkept : (fdc_seek_stepped setup motion drive).seek_recalibrate drive = false :=
      hrecalibrate
    have hsame : (fdc_seek_stepped setup motion drive).seek_target drive =
        motion.seek_target drive := rfl
    simp only [fdc_steps_left, fdc_outward, hkept, hrecalibrate, hsame, hpcn, Bool.false_or,
      Bool.false_eq_true, if_false, decide_eq_decide]
    by_cases hout : (motion.seek_target drive).toNat < (motion.pcn drive).toNat
    · rw [if_pos hout]
      omega
    · rw [if_neg hout]
      omega

/-- A step of a drive that has not arrived is the first of its way. -/
theorem fdc_way_stepped {motion : FdcMotion μ} {drive : Fin 4}
    (hvalid : FdcSeekValid motion drive)
    (hgoing : fdc_seek_arrived setup motion drive = false) :
    fdc_way motion drive =
      fdc_outward motion drive :: fdc_way (fdc_seek_stepped setup motion drive) drive := by
  obtain ⟨hleft, hsame⟩ := fdc_steps_left_stepped setup hvalid hgoing
  rw [fdc_way, hleft, List.replicate_succ, fdc_way]
  by_cases hlast : fdc_steps_left (fdc_seek_stepped setup motion drive) drive = 0
  · rw [hlast, List.replicate_zero, List.replicate_zero]
  · rw [hsame hlast]

/-! ## What a round does -/

theorem fdc_steps_left_arrived {motion : FdcMotion μ} {drive : Fin 4}
    (hrecalibrate : motion.seek_recalibrate drive = false)
    (harrived : fdc_seek_arrived setup motion drive = true) : fdc_steps_left motion drive = 0 := by
  have heq : (motion.pcn drive).toNat = (motion.seek_target drive).toNat := by
    simpa [fdc_seek_arrived, hrecalibrate] using harrived
  simp only [fdc_steps_left, hrecalibrate, Bool.false_eq_true, if_false]
  omega

/-- A round ends the seek, after one step or none, or steps the drive and puts its next step
later. -/
theorem fdc_seek_round_cases (step_ticks : ℕ) {motion : FdcMotion μ} {drive : Fin 4}
    (hvalid : FdcSeekValid motion drive) :
    (∃ moved status,
      (moved = motion ∨ fdc_seek_arrived setup motion drive = false ∧
        moved = fdc_seek_stepped setup motion drive) ∧
      (motion.seek_recalibrate drive = false → fdc_steps_left moved drive = 0) ∧
      fdc_seek_round setup step_ticks motion drive = fdc_finish_seek moved drive status) ∨
    (fdc_seek_arrived setup motion drive = false ∧
      FdcSeekValid (fdc_seek_stepped setup motion drive) drive ∧
      fdc_seek_round setup step_ticks motion drive =
        { fdc_seek_stepped setup motion drive with
          seek_due_tick := Function.update motion.seek_due_tick drive
            (fdc_deadline (motion.seek_due_tick drive) step_ticks) }) := by
  cases harrived : fdc_seek_arrived setup motion drive with
  | true =>
    refine .inl ⟨motion, fdc_st0_normal, .inl rfl,
      fun h => fdc_steps_left_arrived setup h harrived, ?_⟩
    simp only [fdc_seek_round, harrived, if_true]
  | false =>
    have hround : fdc_seek_round setup step_ticks motion drive =
        if fdc_seek_arrived setup (fdc_seek_stepped setup motion drive) drive then
          fdc_finish_seek (fdc_seek_stepped setup motion drive) drive fdc_st0_normal
        else if motion.seek_recalibrate drive = true ∧
            (fdc_seek_stepped setup motion drive).seek_steps drive = 77 then
          fdc_finish_seek (fdc_seek_stepped setup motion drive) drive
            (fdc_st0_abnormal ||| fdc_st0_equipment_check)
        else
          { fdc_seek_stepped setup motion drive with
            seek_due_tick := Function.update motion.seek_due_tick drive
              (fdc_deadline (motion.seek_due_tick drive) step_ticks) } := by
      simp only [fdc_seek_round, harrived, Bool.false_eq_true, if_false]
      rfl
    cases hthere : fdc_seek_arrived setup (fdc_seek_stepped setup motion drive) drive with
    | true =>
      refine .inl ⟨_, fdc_st0_normal, .inr ⟨rfl, rfl⟩,
        fun h => fdc_steps_left_arrived setup h hthere, ?_⟩
      rw [hround, hthere, if_pos rfl]
    | false =>
      rw [hthere, if_neg Bool.false_ne_true] at hround
      by_cases hspent : motion.seek_recalibrate drive = true ∧
          (fdc_seek_stepped setup motion drive).seek_steps drive = 77
      · rw [if_pos hspent] at hround
        refine .inl ⟨_, _, .inr ⟨rfl, rfl⟩, fun h => ?_, hround⟩
        rw [hspent.1] at h
        cases h
      · rw [if_neg hspent] at hround
        refine .inr ⟨rfl, ⟨hvalid.target, fun hrecalibrate => ?_, hvalid.due⟩, hround⟩
        -- The step that it had is not yet the last one.
        have hlt := hvalid.steps hrecalibrate
        have hne : (fdc_seek_stepped setup motion drive).seek_steps drive ≠ 77 :=
          fun h => hspent ⟨hrecalibrate, h⟩
        have hsteps : (fdc_seek_stepped setup motion drive).seek_steps drive =
            motion.seek_steps drive + 1 := Function.update_self _ _ _
        rw [hsteps] at hne ⊢
        rw [Ne, ← BitVec.toNat_inj, BitVec.toNat_add_of_lt (by simp; omega)] at hne
        rw [BitVec.toNat_add_of_lt (by simp; omega)]
        simp only [BitVec.toNat_ofNat, BitVec.ofNat_eq_ofNat] at hne ⊢
        omega

end Setup

end Nxvm.Chips
