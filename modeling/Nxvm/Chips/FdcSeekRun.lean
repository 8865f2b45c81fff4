/-
What the rounds of the seeks do to the drives, one after another.

Of every round it is said what it issues: its step comes no earlier than those before it and no
later than any step that is still to come, and takes a drive one step along its way. This is kept
from one round to the next, so it holds of all rounds of a call and of all calls of a run.
-/
import Nxvm.Chips.FdcSeek
import Mathlib.Algebra.Order.BigOperators.Group.Finset

set_option autoImplicit false

namespace Nxvm.Chips

open Nxvm.Lib Nxvm.Lib.Register Nxvm.Lib.Rounds

section Setup

variable {μ σ : Type} (setup : FdcSetup μ σ)

/-! ## From one motion to another -/

/-- The steps issued on the way from `a` to `b`. A seek that is over has gone its way, but for the
drives that gave up. -/
structure FdcMoved (gives_up : Fin 4 → Prop) (a b : FdcMotion μ) (issued : List FdcStep) :
    Prop where
  issues : b.steps = a.steps ++ issued
  pending : ∀ drive, b.seek_pending_mask drive = true → a.seek_pending_mask drive = true
  later : ∀ drive, b.seek_pending_mask drive = true →
    a.seek_due_tick drive ≤ b.seek_due_tick drive
  since : ∀ step ∈ issued, a.seek_pending_mask step.unit = true ∧
    a.seek_due_tick step.unit ≤ step.due
  ahead : ∀ step ∈ issued, ∀ drive, b.seek_pending_mask drive = true →
    step.due ≤ b.seek_due_tick drive
  sorted : issued.Pairwise fun step step' => step.due ≤ step'.due
  recalibrate : b.seek_recalibrate = a.seek_recalibrate
  way : ∀ drive, fdc_pulses issued drive ++ fdc_way b drive = fdc_way a drive
  ends : ∀ drive, a.seek_pending_mask drive = true → b.seek_pending_mask drive = false →
    ¬ gives_up drive → a.seek_recalibrate drive = false → fdc_way b drive = []

variable {gives_up : Fin 4 → Prop}

theorem FdcMoved.refl (motion : FdcMotion μ) : FdcMoved gives_up motion motion [] where
  issues := (List.append_nil _).symm
  pending _ h := h
  later _ _ := le_refl _
  since := by simp
  ahead := by simp
  sorted := .nil
  recalibrate := rfl
  way _ := rfl
  ends drive h h' := by
    rw [h] at h'
    cases h'

theorem FdcMoved.trans {a b c : FdcMotion μ} {issued issued' : List FdcStep}
    (h : FdcMoved gives_up a b issued) (h' : FdcMoved gives_up b c issued') :
    FdcMoved gives_up a c (issued ++ issued') where
  issues := by rw [h'.issues, h.issues, List.append_assoc]
  pending drive hdrive := h.pending drive (h'.pending drive hdrive)
  later drive hdrive := (h.later drive (h'.pending drive hdrive)).trans (h'.later drive hdrive)
  since := by
    intro step hstep
    rcases List.mem_append.mp hstep with hstep | hstep
    · exact h.since step hstep
    · obtain ⟨hpending, hdue⟩ := h'.since step hstep
      exact ⟨h.pending _ hpending, (h.later _ hpending).trans hdue⟩
  ahead := by
    intro step hstep drive hdrive
    rcases List.mem_append.mp hstep with hstep | hstep
    · exact (h.ahead step hstep drive (h'.pending drive hdrive)).trans (h'.later drive hdrive)
    · exact h'.ahead step hstep drive hdrive
  sorted := by
    rw [List.pairwise_append]
    refine ⟨h.sorted, h'.sorted, fun step hstep step' hstep' => ?_⟩
    obtain ⟨hpending, hdue⟩ := h'.since step' hstep'
    exact (h.ahead step hstep _ hpending).trans hdue
  recalibrate := h'.recalibrate.trans h.recalibrate
  way drive := by rw [fdc_pulses_append, List.append_assoc, h'.way drive, h.way drive]
  ends := by
    intro drive hpending hover hup hseek
    have hway := h'.way drive
    cases hmiddle : b.seek_pending_mask drive with
    | true => exact h'.ends drive hmiddle hover hup (by rw [h.recalibrate, hseek])
    | false =>
      -- It was over before, with nothing left to go.
      rw [h.ends drive hpending hmiddle hup hseek] at hway
      exact (List.append_eq_nil_iff.mp hway).2

/-! ## One round -/

/-- A step of the drive that is next. -/
theorem fdc_seek_stepped_moved {motion : FdcMotion μ} {drive : Fin 4}
    (hvalid : FdcSeekValid motion drive) (hpending : motion.seek_pending_mask drive = true)
    (hfirst : ∀ other, motion.seek_pending_mask other = true → FdcPrecedes motion drive other)
    (hgoing : fdc_seek_arrived setup motion drive = false) :
    FdcMoved gives_up motion (fdc_seek_stepped setup motion drive)
      [⟨drive, fdc_outward motion drive, motion.seek_due_tick drive⟩] where
  issues := rfl
  pending _ h := h
  later _ _ := le_refl _
  since := by
    intro step hstep
    rw [List.mem_singleton.mp hstep]
    exact ⟨hpending, le_refl _⟩
  ahead := by
    intro step hstep other hother
    rw [List.mem_singleton.mp hstep]
    rcases hfirst other hother with hlt | ⟨heq, -⟩
    · exact hlt.le
    · exact heq.le
  sorted := List.pairwise_singleton _ _
  recalibrate := rfl
  way other := by
    by_cases hother : other = drive
    · rw [hother, fdc_way_stepped setup hvalid hgoing]
      simp [fdc_pulses]
    · rw [(fdc_seek_stepped_same setup motion hother).way]
      simp [fdc_pulses, Ne.symm hother]
  ends other h h' := by
    rw [fdc_seek_stepped] at h'
    rw [h] at h'
    cases h'

/-- The end of a seek that has gone its way, or is given up. -/
theorem fdc_finish_seek_moved {motion : FdcMotion μ} {drive : Fin 4} (status : U8)
    (hgone : ¬ gives_up drive → motion.seek_recalibrate drive = false →
      fdc_steps_left motion drive = 0) :
    FdcMoved gives_up motion (fdc_finish_seek motion drive status) [] where
  issues := (List.append_nil _).symm
  pending other h := by
    rw [fdc_finish_seek] at h
    by_cases hother : other = drive
    · simp [hother] at h
    · simpa [Function.update_of_ne hother] using h
  later _ _ := le_refl _
  since := by simp
  ahead := by simp
  sorted := .nil
  recalibrate := rfl
  way other := (fdc_finish_seek_same motion drive other status).way
  ends := by
    intro other h h' hup hseek
    rw [fdc_finish_seek] at h'
    by_cases hother : other = drive
    · rw [hother] at hup hseek ⊢
      rw [(fdc_finish_seek_same motion drive drive status).way, fdc_way, hgone hup hseek,
        List.replicate_zero]
    · simp only [Function.update_of_ne hother, h, Bool.true_eq_false] at h'

/-- The next step of a drive is put later. -/
theorem fdc_seek_delayed_moved (motion : FdcMotion μ) (drive : Fin 4) {due : ℕ}
    (hlater : motion.seek_due_tick drive ≤ due) :
    FdcMoved gives_up motion
      { motion with seek_due_tick := Function.update motion.seek_due_tick drive due } [] where
  issues := (List.append_nil _).symm
  pending _ h := h
  later other _ := by
    by_cases hother : other = drive
    · simpa [hother] using hlater
    · simp [Function.update_of_ne hother]
  since := by simp
  ahead := by simp
  sorted := .nil
  recalibrate := rfl
  way _ := rfl
  ends other h h' := by
    dsimp only at h'
    rw [h] at h'
    cases h'

theorem fdc_deadline_ge {now ticks : ℕ} (hnow : now ≤ tick_max) :
    now ≤ fdc_deadline now ticks := by
  unfold fdc_deadline
  split
  · exact hnow
  · omega

theorem fdc_deadline_le (now ticks : ℕ) (hnow : now ≤ tick_max) :
    fdc_deadline now ticks ≤ tick_max := by
  unfold fdc_deadline
  split <;> omega

/-- A round moves one drive, and gives nothing up. -/
theorem fdc_seek_round_moved (step_ticks elapsed_ticks : ℕ) {motion : FdcMotion μ} {drive : Fin 4}
    (hvalid : FdcSeeksValid motion) (hnext : fdc_next_seek elapsed_ticks motion = some drive) :
    ∃ issued, FdcMoved gives_up motion (fdc_seek_round setup step_ticks motion drive) issued := by
  obtain ⟨⟨hpending, -⟩, hfirst⟩ := fdc_next_seek_some hnext
  have hdrive := hvalid.seeks drive hpending
  rcases fdc_seek_round_cases setup step_ticks hdrive with
    ⟨moved, status, hmoved, hgone, hround⟩ | ⟨hgoing, hstepped, hround⟩
  · rw [hround]
    rcases hmoved with rfl | ⟨hgoing, rfl⟩
    · exact ⟨_, fdc_finish_seek_moved status fun _ => hgone⟩
    · exact ⟨_, (fdc_seek_stepped_moved setup hdrive hpending hfirst hgoing).trans
        (fdc_finish_seek_moved status fun _ => hgone)⟩
  · rw [hround]
    exact ⟨_, (fdc_seek_stepped_moved setup hdrive hpending hfirst hgoing).trans
      (fdc_seek_delayed_moved _ drive (fdc_deadline_ge hdrive.due))⟩

/-! ## The seeks stay valid -/

/-- A seek that ends makes room for its result. -/
theorem fdc_finish_seek_valid {motion moved : FdcMotion μ} {drive : Fin 4} (status : U8)
    (hvalid : FdcSeeksValid motion) (hpending : motion.seek_pending_mask drive = true)
    (hmask : moved.seek_pending_mask = motion.seek_pending_mask)
    (hresults : moved.seek_results = motion.seek_results)
    (hdue : moved.seek_due_tick = motion.seek_due_tick)
    (hothers : ∀ other, other ≠ drive → FdcSeekSame motion moved other) :
    FdcSeeksValid (fdc_finish_seek moved drive status) where
  seeks := by
    intro other hother
    have hne : other ≠ drive := by
      intro heq
      simp [fdc_finish_seek, heq] at hother
    have hbefore : motion.seek_pending_mask other = true := by
      simpa [fdc_finish_seek, Function.update_of_ne hne, hmask] using hother
    have hmoved := (hothers other hne).valid (by rw [hdue]) (hvalid.seeks other hbefore)
    exact (fdc_finish_seek_same moved drive other status).valid rfl hmoved
  room := by
    have hroom := hvalid.room
    have hfewer : (Finset.univ.filter fun other =>
          (fdc_finish_seek moved drive status).seek_pending_mask other = true) =
        (Finset.univ.filter fun other => motion.seek_pending_mask other = true).erase drive := by
      ext other
      rw [Finset.mem_erase, Finset.mem_filter, Finset.mem_filter, fdc_finish_seek]
      by_cases hother : other = drive
      · simp [hother]
      · simp [hmask, hother]
    have hmem : drive ∈ Finset.univ.filter fun other => motion.seek_pending_mask other = true := by
      simpa using hpending
    rw [hfewer, Finset.card_erase_of_mem hmem]
    have hpos := Finset.card_pos.mpr ⟨drive, hmem⟩
    have hmore : (fdc_finish_seek moved drive status).seek_results.length =
        motion.seek_results.length + 1 := by
      simp [fdc_finish_seek, hresults]
    omega

theorem fdc_seek_round_valid (step_ticks elapsed_ticks : ℕ) {motion : FdcMotion μ} {drive : Fin 4}
    (hvalid : FdcSeeksValid motion) (hnext : fdc_next_seek elapsed_ticks motion = some drive) :
    FdcSeeksValid (fdc_seek_round setup step_ticks motion drive) := by
  obtain ⟨⟨hpending, -⟩, -⟩ := fdc_next_seek_some hnext
  have hdrive := hvalid.seeks drive hpending
  rcases fdc_seek_round_cases setup step_ticks hdrive with
    ⟨moved, status, hmoved, -, hround⟩ | ⟨-, hstepped, hround⟩
  · rw [hround]
    rcases hmoved with rfl | ⟨-, rfl⟩
    · exact fdc_finish_seek_valid status hvalid hpending rfl rfl rfl fun _ _ => ⟨rfl, rfl, rfl, rfl⟩
    · exact fdc_finish_seek_valid status hvalid hpending rfl rfl rfl fun _ hne =>
        fdc_seek_stepped_same setup motion hne
  · rw [hround]
    refine ⟨fun other hother => ?_, hvalid.room⟩
    by_cases heq : other = drive
    · rw [heq]
      refine ⟨hstepped.target, hstepped.steps, ?_⟩
      dsimp only
      rw [Function.update_self]
      exact fdc_deadline_le _ _ hdrive.due
    · have hsame := fdc_seek_stepped_same setup motion heq
      refine FdcSeekSame.valid ⟨hsame.pcn, hsame.target, hsame.recalibrate, hsame.steps⟩ ?_
        (hvalid.seeks other hother)
      exact Function.update_of_ne heq _ _

/-! ## The rounds end -/

/-- The rounds that a drive can still take. -/
def fdc_seek_work (motion : FdcMotion μ) (drive : Fin 4) : ℕ :=
  if motion.seek_pending_mask drive then fdc_steps_left motion drive + 1 else 0

theorem fdc_seek_work_le {motion : FdcMotion μ} (hvalid : FdcSeeksValid motion) :
    ∑ drive, fdc_seek_work motion drive ≤ fdc_seek_rounds := by
  have heach : ∀ drive ∈ (Finset.univ : Finset (Fin 4)), fdc_seek_work motion drive ≤ 256 := by
    intro drive _
    unfold fdc_seek_work
    by_cases hpending : motion.seek_pending_mask drive = true
    · rw [if_pos hpending, fdc_steps_left]
      have hlt := (motion.pcn drive).isLt
      by_cases hrecalibrate : motion.seek_recalibrate drive = true
      · rw [if_pos hrecalibrate]
        omega
      · have htarget := (hvalid.seeks drive hpending).target (Bool.eq_false_iff.mpr hrecalibrate)
        rw [if_neg hrecalibrate]
        omega
    · rw [if_neg hpending]
      omega
  have hsum := Finset.sum_le_card_nsmul _ _ _ heach
  simpa [fdc_seek_rounds] using hsum

/-- A round leaves less to do. -/
theorem fdc_seek_round_less (step_ticks elapsed_ticks : ℕ) {motion : FdcMotion μ} {drive : Fin 4}
    (hvalid : FdcSeeksValid motion) (hnext : fdc_next_seek elapsed_ticks motion = some drive) :
    ∑ other, fdc_seek_work (fdc_seek_round setup step_ticks motion drive) other <
      ∑ other, fdc_seek_work motion other := by
  obtain ⟨⟨hpending, -⟩, -⟩ := fdc_next_seek_some hnext
  have hdrive := hvalid.seeks drive hpending
  have hbefore : fdc_seek_work motion drive = fdc_steps_left motion drive + 1 := by
    rw [fdc_seek_work, if_pos hpending]
  -- The drive itself has less to do, whatever the round was.
  have hless : fdc_seek_work (fdc_seek_round setup step_ticks motion drive) drive <
      fdc_seek_work motion drive := by
    rw [hbefore]
    rcases fdc_seek_round_cases setup step_ticks hdrive with
      ⟨moved, status, -, -, hround⟩ | ⟨hgoing, -, hround⟩
    · rw [hround]
      simp [fdc_seek_work, fdc_finish_seek]
    · obtain ⟨hleft, -⟩ := fdc_steps_left_stepped setup hdrive hgoing
      rw [hround, fdc_seek_work]
      have hsame : fdc_steps_left
            { fdc_seek_stepped setup motion drive with
              seek_due_tick := Function.update motion.seek_due_tick drive
                (fdc_deadline (motion.seek_due_tick drive) step_ticks) } drive =
          fdc_steps_left (fdc_seek_stepped setup motion drive) drive := rfl
      split <;> omega
  refine Finset.sum_lt_sum (fun other _ => ?_) ⟨drive, Finset.mem_univ _, hless⟩
  by_cases heq : other = drive
  · rw [heq]
    exact hless.le
  · rcases fdc_seek_round_cases setup step_ticks hdrive with
      ⟨moved, status, hmoved, -, hround⟩ | ⟨-, -, hround⟩
    · have hsame : FdcSeekSame motion moved other ∧
          moved.seek_pending_mask = motion.seek_pending_mask := by
        rcases hmoved with rfl | ⟨-, rfl⟩
        · exact ⟨⟨rfl, rfl, rfl, rfl⟩, rfl⟩
        · exact ⟨fdc_seek_stepped_same setup motion heq, rfl⟩
      rw [hround, fdc_seek_work, fdc_seek_work,
        (fdc_finish_seek_same moved drive other status).left, hsame.1.left, fdc_finish_seek]
      simp [Function.update_of_ne heq, hsame.2]
    · have hsame := fdc_seek_stepped_same setup motion heq
      rw [hround, fdc_seek_work, fdc_seek_work]
      have hleft : fdc_steps_left
            { fdc_seek_stepped setup motion drive with
              seek_due_tick := Function.update motion.seek_due_tick drive
                (fdc_deadline (motion.seek_due_tick drive) step_ticks) } other =
          fdc_steps_left motion other := hsame.left
      rw [hleft]
      exact le_refl _

/-! ## Drives that are not ready -/

/-- A drive that seeks and is not ready gives up. -/
def fdc_give_up (motion : FdcMotion μ) (drive : Fin 4) : FdcMotion μ :=
  if motion.seek_pending_mask drive = true ∧
      fdc_drive_status_ready setup motion.drives drive = false then
    fdc_finish_seek motion drive (fdc_st0_abnormal ||| fdc_st0_not_ready)
  else motion

theorem fdc_finish_not_ready_eq (motion : FdcMotion μ) :
    fdc_finish_not_ready setup motion =
      (List.finRange 4).foldl (fdc_give_up setup) motion := rfl

/-- The drive is not ready. -/
def FdcNotReady (drives : μ) (drive : Fin 4) : Prop :=
  fdc_drive_status_ready setup drives drive = false

theorem fdc_give_up_drives (motion : FdcMotion μ) (drive : Fin 4) :
    (fdc_give_up setup motion drive).drives = motion.drives := by
  unfold fdc_give_up
  split <;> rfl

theorem fdc_give_up_moved (motion : FdcMotion μ) (drive : Fin 4) :
    FdcMoved (FdcNotReady setup motion.drives) motion (fdc_give_up setup motion drive) [] := by
  unfold fdc_give_up
  split
  · rename_i hgives
    exact fdc_finish_seek_moved _ fun hup => absurd hgives.2 hup
  · exact .refl motion

theorem fdc_give_up_valid {motion : FdcMotion μ} (hvalid : FdcSeeksValid motion)
    (drive : Fin 4) : FdcSeeksValid (fdc_give_up setup motion drive) := by
  unfold fdc_give_up
  split
  · rename_i hgives
    exact fdc_finish_seek_valid _ hvalid hgives.1 rfl rfl rfl fun _ _ => ⟨rfl, rfl, rfl, rfl⟩
  · exact hvalid

/-- A drive that has been asked seeks on only where it is ready. -/
theorem fdc_give_up_ready {motion : FdcMotion μ} {drive : Fin 4}
    (hpending : (fdc_give_up setup motion drive).seek_pending_mask drive = true) :
    fdc_drive_status_ready setup motion.drives drive = true := by
  unfold fdc_give_up at hpending
  split at hpending
  · simp [fdc_finish_seek] at hpending
  · rename_i hkept
    by_contra hnot
    exact hkept ⟨hpending, Bool.eq_false_iff.mpr hnot⟩

theorem fdc_give_up_all (drives : List (Fin 4)) :
    ∀ motion : FdcMotion μ, FdcSeeksValid motion →
      FdcSeeksValid (drives.foldl (fdc_give_up setup) motion) ∧
      (drives.foldl (fdc_give_up setup) motion).drives = motion.drives ∧
      FdcMoved (FdcNotReady setup motion.drives) motion
        (drives.foldl (fdc_give_up setup) motion) [] ∧
      ∀ drive ∈ drives, (drives.foldl (fdc_give_up setup) motion).seek_pending_mask drive = true →
        fdc_drive_status_ready setup motion.drives drive = true := by
  induction drives with
  | nil => exact fun motion hvalid => ⟨hvalid, rfl, .refl motion, by simp⟩
  | cons head tail ih =>
    intro motion hvalid
    obtain ⟨hvalid', hdrives, hmoved, hready⟩ :=
      ih (fdc_give_up setup motion head) (fdc_give_up_valid setup hvalid head)
    rw [fdc_give_up_drives] at hdrives hmoved hready
    rw [List.foldl_cons]
    refine ⟨hvalid', hdrives, (fdc_give_up_moved setup motion head).trans hmoved, ?_⟩
    intro drive hdrive hpending
    rcases List.mem_cons.mp hdrive with rfl | hdrive
    · exact fdc_give_up_ready setup (hmoved.pending drive hpending)
    · exact hready drive hdrive hpending

/-- Where all that seek are ready, nothing is given up. -/
theorem fdc_finish_not_ready_of_ready {motion : FdcMotion μ}
    (hready : ∀ drive, motion.seek_pending_mask drive = true →
      fdc_drive_status_ready setup motion.drives drive = true) :
    fdc_finish_not_ready setup motion = motion := by
  have hone : ∀ drive, fdc_give_up setup motion drive = motion := by
    intro drive
    rw [fdc_give_up, if_neg]
    rintro ⟨hpending, hnot⟩
    rw [hready drive hpending] at hnot
    cases hnot
  have hall : ∀ drives : List (Fin 4),
      drives.foldl (fdc_give_up setup) motion = motion := by
    intro drives
    induction drives with
    | nil => rfl
    | cons head tail ih => rw [List.foldl_cons, hone, ih]
  exact hall _

/-! ## A call -/

/-- A call ends with nothing due, and moves the heads along their ways. -/
theorem fdc_move_heads_spec (step_ticks elapsed_ticks : ℕ) {motion : FdcMotion μ}
    (hvalid : FdcSeeksValid motion) :
    fdc_next_seek elapsed_ticks (fdc_move_heads setup step_ticks elapsed_ticks motion) = none ∧
      FdcSeeksValid (fdc_move_heads setup step_ticks elapsed_ticks motion) ∧
      ∃ issued, FdcMoved (FdcNotReady setup motion.drives) motion
        (fdc_move_heads setup step_ticks elapsed_ticks motion) issued := by
  obtain ⟨hvalid', -, hmoved, -⟩ := fdc_give_up_all setup (List.finRange 4) motion hvalid
  rw [← fdc_finish_not_ready_eq] at hvalid' hmoved
  have hkeep : ∀ m drive, FdcSeeksValid m → fdc_next_seek elapsed_ticks m = some drive →
      FdcSeeksValid (fdc_seek_round setup step_ticks m drive) :=
    fun m drive h hnext => fdc_seek_round_valid setup step_ticks elapsed_ticks h hnext
  have hreaches := @loop_reaches _ _ (fdc_next_seek elapsed_ticks)
    (fdc_seek_round setup step_ticks) fdc_seek_rounds (fdc_finish_not_ready setup motion)
  refine ⟨?_, hreaches.keeps hkeep hvalid', ?_⟩
  · exact loop_rests (fun m => ∑ drive, fdc_seek_work m drive) hkeep
      (fun m drive h hnext => fdc_seek_round_less setup step_ticks elapsed_ticks h hnext)
      fdc_seek_rounds _ hvalid' (fdc_seek_work_le hvalid')
  · -- What the rounds so far have issued, the next one adds to.
    have hrun := @Reaches.keeps _ _ _ _ (fun m => FdcSeeksValid m ∧
      ∃ issued, FdcMoved (FdcNotReady setup motion.drives) motion m issued)
      (fun m drive h hnext => by
        obtain ⟨hm, issued, hissued⟩ := h
        obtain ⟨issued', hround⟩ := fdc_seek_round_moved setup step_ticks elapsed_ticks hm hnext
        exact ⟨hkeep m drive hm hnext, _, hissued.trans hround⟩)
      _ _ hreaches ⟨hvalid', _, hmoved⟩
    exact hrun.2

/-! ## Calls in between -/

/-- Stepping changes no READY line. -/
def FdcReadySteady (setup : FdcSetup μ σ) : Prop :=
  ∀ drives unit outward drive,
    (setup.sample (setup.step drives unit outward) drive).ready = (setup.sample drives drive).ready

variable {setup}

theorem fdc_seek_round_ready (hsteady : FdcReadySteady setup) (step_ticks : ℕ)
    (motion : FdcMotion μ) (drive other : Fin 4) :
    fdc_drive_status_ready setup (fdc_seek_round setup step_ticks motion drive).drives other =
      fdc_drive_status_ready setup motion.drives other := by
  have hmoved : (fdc_seek_round setup step_ticks motion drive).drives =
      if fdc_seek_arrived setup motion drive then motion.drives
      else (fdc_seek_stepped setup motion drive).drives := by
    unfold fdc_seek_round fdc_finish_seek
    dsimp only
    split_ifs <;> rfl
  rw [hmoved]
  split
  · rfl
  · exact hsteady _ _ _ _

/-- The heads are moved as far by a call for an earlier tick and one for a later tick as by the
later one alone. -/
theorem fdc_move_heads_split (hsteady : FdcReadySteady setup) (step_ticks : ℕ) {early late : ℕ}
    (hle : early ≤ late) {motion : FdcMotion μ} (hvalid : FdcSeeksValid motion) :
    fdc_move_heads setup step_ticks late (fdc_move_heads setup step_ticks early motion) =
      fdc_move_heads setup step_ticks late motion := by
  obtain ⟨hrest, hvalid', -⟩ := fdc_move_heads_spec setup step_ticks early hvalid
  obtain ⟨hlate, -, -⟩ := fdc_move_heads_spec setup step_ticks late hvalid
  obtain ⟨hlate', -, -⟩ := fdc_move_heads_spec setup step_ticks late hvalid'
  obtain ⟨hgiven, hdrives, -, hready⟩ := fdc_give_up_all setup (List.finRange 4) motion hvalid
  rw [← fdc_finish_not_ready_eq] at hgiven hdrives hready
  have hfirst := @loop_reaches _ _ (fdc_next_seek early)
    (fdc_seek_round setup step_ticks) fdc_seek_rounds (fdc_finish_not_ready setup motion)
  -- All that seek after the first call are ready, so the second gives none up.
  have hkept : (∀ drive, (fdc_move_heads setup step_ticks early motion).seek_pending_mask drive =
        true → fdc_drive_status_ready setup motion.drives drive = true) ∧
      ∀ drive, fdc_drive_status_ready setup
          (fdc_move_heads setup step_ticks early motion).drives drive =
        fdc_drive_status_ready setup motion.drives drive := by
    have hrun := @Reaches.keeps _ _ _ _ (fun m => FdcSeeksValid m ∧
        (∀ drive, m.seek_pending_mask drive = true →
          fdc_drive_status_ready setup motion.drives drive = true) ∧
        ∀ drive, fdc_drive_status_ready setup m.drives drive =
          fdc_drive_status_ready setup motion.drives drive)
      (fun m drive h hnext => by
        obtain ⟨hm, hpending, hlines⟩ := h
        obtain ⟨issued, hround⟩ := @fdc_seek_round_moved _ _ setup (fun _ => False)
          step_ticks early _ _ hm hnext
        refine ⟨fdc_seek_round_valid setup step_ticks early hm hnext,
          fun other hother => hpending other (hround.pending other hother), fun other => ?_⟩
        rw [fdc_seek_round_ready hsteady, hlines])
      _ _ hfirst ⟨hgiven, fun drive => hready drive (List.mem_finRange drive),
        fun drive => by rw [hdrives]⟩
    exact hrun.2
  have hsecond := @loop_reaches _ _ (fdc_next_seek late)
    (fdc_seek_round setup step_ticks) fdc_seek_rounds
    (fdc_finish_not_ready setup (fdc_move_heads setup step_ticks early motion))
  have hsame : fdc_finish_not_ready setup (fdc_move_heads setup step_ticks early motion) =
      fdc_move_heads setup step_ticks early motion :=
    fdc_finish_not_ready_of_ready setup fun drive hdrive => by
      rw [hkept.2 drive]
      exact hkept.1 drive hdrive
  rw [hsame] at hsecond
  have hboth := (hfirst.mono fun m drive h => fdc_next_seek_mono hle h).trans hsecond
  have honce := @loop_reaches _ _ (fdc_next_seek late)
    (fdc_seek_round setup step_ticks) fdc_seek_rounds (fdc_finish_not_ready setup motion)
  rw [fdc_move_heads, hsame] at hlate' ⊢
  exact hboth.unique hlate' honce hlate

end Setup

end Nxvm.Chips
