/-
Runs of the floppy disk controller: calls at any ticks issue the steps that one call issues.
-/
import Nxvm.Chips.FdcAdvance
import Nxvm.Chips.FdcHost

set_option autoImplicit false

namespace Nxvm.Chips

open Nxvm.Lib.Register

section Setup

variable {μ σ : Type} {setup : FdcSetup μ σ}

/-- A chip that was just created seeks nothing. -/
theorem fdc_create_valid (drives : μ) (media : σ) :
    FdcSeeksValid (fdc_create setup drives media).motion where
  seeks := nofun
  room := by simp [fdc_create, FdcMotion.created]

/-! ## Calls in between -/

/-- Ticks that are not ahead of the last one make no difference to the heads. -/
theorem fdc_advance_at_split (hsteady : FdcReadySteady setup) (last : ℕ) (ticks : List ℕ) :
    ∀ s : FdcState μ σ, FdcSeeksValid s.motion → FdcNoSeekWaits s.core →
      last ≤ tick_max → s.core.data.elapsed_ticks ≤ last → (∀ tick ∈ ticks, tick ≤ last) →
      (fdc_advance_at setup (ticks.foldl (fdc_advance_at setup) s) last).motion =
        (fdc_advance_at setup s last).motion := by
  induction ticks with
  | nil => exact fun s _ _ _ _ _ => rfl
  | cons tick ticks ih =>
    intro s hvalid hwaits hmax hlast hticks
    have htick := hticks tick List.mem_cons_self
    have hrest : ∀ other ∈ ticks, other ≤ last :=
      fun other h => hticks other (List.mem_cons_of_mem _ h)
    rw [List.foldl_cons]
    by_cases hbehind : tick < s.core.data.elapsed_ticks
    · have hsame : fdc_advance_at setup s tick = s := by rw [fdc_advance_at, if_pos hbehind]
      rw [hsame]
      exact ih s hvalid hwaits hmax hlast hrest
    · obtain ⟨hmotion, hsrt, helapsed, hquiet⟩ :=
        fdc_advance_at_spec setup hwaits (Nat.le_of_not_lt hbehind)
      obtain ⟨hmotion', -⟩ :=
        @fdc_advance_at_spec _ _ setup _ hquiet.no_seek_waits last (by omega)
      obtain ⟨honce, -⟩ := fdc_advance_at_spec setup hwaits hlast
      have hvalid' := fdc_advance_at_valid setup hvalid (htick.trans hmax)
      have hdue : FdcSeeksValid (fdc_due_motion s) := by
        obtain ⟨results, hle, heq⟩ := fdc_due_motion_eq s
        rw [heq]
        exact hvalid.sensed hle
      rw [ih _ hvalid' hquiet.no_seek_waits hmax (by omega) hrest, hmotion', honce,
        hquiet.due_motion, hquiet.due_srt, hsrt, hmotion]
      exact fdc_move_heads_split hsteady _ htick hdue

/-! ## What a run issues -/

/-- The steps that a run issues come by their ticks. A seek takes the way to its target, and all
of it by the time that it is over; a recalibrate takes what is left of its 77 steps, if that. -/
structure FdcRunIssues (setup : FdcSetup μ σ) (a b : FdcMotion μ) (issued : List FdcStep) :
    Prop where
  issues : b.steps = a.steps ++ issued
  by_tick : issued.Pairwise fun step step' => step.due ≤ step'.due
  pending : ∀ drive, b.seek_pending_mask drive = true → a.seek_pending_mask drive = true
  idle : ∀ drive, a.seek_pending_mask drive = false → fdc_pulses issued drive = []
  seek : ∀ drive, a.seek_recalibrate drive = false → ∃ steps ≤ fdc_steps_left a drive,
    fdc_pulses issued drive = List.replicate steps
      (decide ((a.seek_target drive).toNat < (a.pcn drive).toNat)) ∧
    (a.seek_pending_mask drive = true → b.seek_pending_mask drive = false →
      fdc_drive_status_ready setup a.drives drive = true →
      steps = (a.pcn drive).toNat - (a.seek_target drive).toNat +
        ((a.seek_target drive).toNat - (a.pcn drive).toNat))
  recalibrate : ∀ drive, a.seek_recalibrate drive = true → ∃ steps ≤ 77,
    fdc_pulses issued drive = List.replicate steps true

/-- A part of repetitions is repetitions. -/
theorem fdc_way_part {issued : List FdcStep} {a b : FdcMotion μ} {drive : Fin 4}
    (h : fdc_pulses issued drive ++ fdc_way b drive = fdc_way a drive) :
    ∃ steps ≤ fdc_steps_left a drive,
      fdc_pulses issued drive = List.replicate steps (fdc_outward a drive) ∧
      (fdc_way b drive = [] → steps = fdc_steps_left a drive) := by
  have hlength := congrArg List.length h
  rw [List.length_append, fdc_way, fdc_way, List.length_replicate, List.length_replicate] at hlength
  refine ⟨(fdc_pulses issued drive).length, by omega, ?_, fun hend => ?_⟩
  · rw [List.eq_replicate_iff]
    refine ⟨rfl, fun pulse hpulse => ?_⟩
    have hmem : pulse ∈ fdc_way a drive := by
      rw [← h]
      exact List.mem_append_left _ hpulse
    exact List.eq_of_mem_replicate hmem
  · rw [hend, List.append_nil] at h
    rw [h, fdc_way, List.length_replicate]

theorem FdcMoved.run_issues {a b : FdcMotion μ} {issued : List FdcStep}
    (h : FdcMoved (FdcNotReady setup a.drives) a b issued) : FdcRunIssues setup a b issued where
  issues := h.issues
  by_tick := h.sorted
  pending := h.pending
  idle := by
    intro drive hidle
    rw [fdc_pulses, List.map_eq_nil_iff, List.filter_eq_nil_iff]
    intro step hstep hunit
    have hpending := (h.since step hstep).1
    rw [decide_eq_true_eq] at hunit
    rw [hunit, hidle] at hpending
    cases hpending
  seek := by
    intro drive hseek
    obtain ⟨steps, hle, hpulses, hall⟩ := fdc_way_part (h.way drive)
    have hout : fdc_outward a drive =
        decide ((a.seek_target drive).toNat < (a.pcn drive).toNat) := by
      rw [fdc_outward, hseek, Bool.false_or]
    refine ⟨steps, hle, by rw [hpulses, hout], fun hpending hover hready => ?_⟩
    have hup : ¬ FdcNotReady setup a.drives drive := by
      rw [FdcNotReady, hready]
      decide
    rw [hall (h.ends drive hpending hover hup hseek), fdc_steps_left, hseek,
      if_neg Bool.false_ne_true]
  recalibrate := by
    intro drive hrecalibrate
    obtain ⟨steps, hle, hpulses, -⟩ := fdc_way_part (h.way drive)
    rw [fdc_steps_left, hrecalibrate, if_pos rfl] at hle
    refine ⟨steps, by omega, ?_⟩
    rw [hpulses, fdc_outward, hrecalibrate, Bool.true_or]

/-- Where no seek waits to be begun, a call ends with nothing due, issues the steps by their ticks
and along the ways of the drives, ends every seek by the last tick there is, and does all that
calls in between would have done. -/
theorem fdc_seeks_advance (setup : FdcSetup μ σ) {s : FdcState μ σ}
    (hvalid : FdcSeeksValid s.motion) (hwaits : FdcNoSeekWaits s.core) {last : ℕ}
    (hmax : last ≤ tick_max) (hlast : s.core.data.elapsed_ticks ≤ last) :
    fdc_next_seek last (fdc_advance_at setup s last).motion = none ∧
      FdcSeeksValid (fdc_advance_at setup s last).motion ∧
      (∃ issued, FdcRunIssues setup s.motion (fdc_advance_at setup s last).motion issued) ∧
      (last = tick_max →
        ∀ drive, (fdc_advance_at setup s last).motion.seek_pending_mask drive = false) ∧
      (FdcReadySteady setup → ∀ ticks : List ℕ, (∀ tick ∈ ticks, tick ≤ last) →
        (fdc_advance_at setup (ticks.foldl (fdc_advance_at setup) s) last).motion =
          (fdc_advance_at setup s last).motion) := by
  obtain ⟨hmotion, -⟩ := fdc_advance_at_spec setup hwaits hlast
  have hvalid' := fdc_advance_at_valid setup hvalid hmax
  obtain ⟨results, hle, hdue⟩ := fdc_due_motion_eq s
  obtain ⟨hrest, -, issued, hmoved⟩ := fdc_move_heads_spec setup
    (fdc_srt_ticks setup (fdc_due_srt s)) last (hdue ▸ hvalid.sensed hle)
  rw [← hmotion] at hrest hmoved
  refine ⟨hrest, hvalid', ⟨issued, ?_⟩, ?_, ?_⟩
  · rw [hdue] at hmoved
    have hrun := hmoved.run_issues
    exact ⟨hrun.issues, hrun.by_tick, hrun.pending, hrun.idle, hrun.seek, hrun.recalibrate⟩
  · intro heq drive
    by_contra hpending
    rw [Bool.not_eq_false] at hpending
    have hdrive := (hvalid'.seeks drive hpending).due
    rw [← heq] at hdrive
    exact fdc_next_seek_none hrest drive ⟨hpending, hdrive⟩
  · intro hsteady ticks hticks
    exact fdc_advance_at_split hsteady last ticks s hvalid hwaits hmax hlast hticks

end Setup

/-! ## A bench -/

/-- Four drives with the cylinders of their heads, and the READY lines as given. -/
def fdc_bench (ready : Bool) : FdcSetup (Fin 4 → ℕ) Unit where
  timing := {
    reset_ticks := 1
    step_numerator := 1
    step_denominator := 1
    fm_byte_ticks := 0
    mfm_byte_ticks := 0
    fm_read_service_ticks := 0
    mfm_read_service_ticks := 0
    fm_write_service_ticks := 0
    mfm_write_service_ticks := 0 }
  sample := fun cylinder drive => {
    ready
    track_zero := cylinder drive = 0
    write_protected := false
    two_sided := true
    fault := false
    data_available := true }
  step := fun cylinder drive outward => Function.update cylinder drive
    (if outward then cylinder drive - 1 else cylinder drive + 1)
  track := fun _ _ _ _ => (false, ⟨0, 0, 0, 0, 0, false⟩)
  read := fun _ _ _ => (.absent, 0)
  write := fun media _ _ _ => (.absent, media)
  read_mark := fun _ _ _ => (.absent, false)
  write_mark := fun media _ _ _ => (.absent, media)
  format := fun media _ _ _ => (.absent, media)

/-- The chip after SEEK for drive 0 to cylinder 5, its heads on cylinder three. -/
def fdc_seek_waiting : FdcState (Fin 4 → ℕ) Unit :=
  fdc_write_all (fdc_bench true) (fdc_create (fdc_bench true) (fun _ => 3) ()) [0x0f, 0x00, 0x05]

/-- RECALIBRATE for drive 1 besides, both begun. -/
def fdc_both_seeking : FdcState (Fin 4 → ℕ) Unit :=
  let s := fdc_advance_at (fdc_bench true) fdc_seek_waiting 0
  fdc_advance_at (fdc_bench true) (fdc_write_all (fdc_bench true) s [0x07, 0x01]) 0

theorem fdc_both_seeking_valid : FdcSeeksValid fdc_both_seeking.motion := by
  apply fdc_advance_at_valid (fdc_bench true) _ (by decide)
  rw [fdc_write_all_motion]
  apply fdc_advance_at_valid (fdc_bench true) _ (by decide)
  rw [fdc_seek_waiting, fdc_write_all_motion]
  exact fdc_create_valid _ ()

theorem fdc_both_seeking_waits : FdcNoSeekWaits fdc_both_seeking.core := by
  have hphase : fdc_both_seeking.core.data.phase = .command := by decide +kernel
  exact ⟨by rw [hphase]; nofun, by rw [hphase]; nofun⟩

/-- Both go on: the seek takes five steps and the recalibrate three, at whatever ticks it is
called. -/
theorem fdc_seeks_advance_bench :
    (∃ issued, FdcRunIssues (fdc_bench true) fdc_both_seeking.motion
      (fdc_advance_at (fdc_bench true) fdc_both_seeking 1000).motion issued) ∧
    (fdc_advance_at (fdc_bench true) fdc_both_seeking 1000).motion.steps.length = 8 ∧
    (fdc_advance_at (fdc_bench true) ([20, 20, 70].foldl (fdc_advance_at (fdc_bench true))
      fdc_both_seeking) 1000).motion =
        (fdc_advance_at (fdc_bench true) fdc_both_seeking 1000).motion := by
  obtain ⟨-, -, hissues, -, hsplit⟩ := fdc_seeks_advance (fdc_bench true)
    (s := fdc_both_seeking) fdc_both_seeking_valid fdc_both_seeking_waits (by decide : 1000 ≤ tick_max)
    (by decide +kernel)
  exact ⟨hissues, by decide +kernel, hsplit (fun _ _ _ _ => rfl) [20, 20, 70] (by decide)⟩

/-- A SEEK that waits begins with the next call: by tick 100 it has made its five steps where there
was a call at tick 1, and none where there was not. And a drive that is not ready makes none at
all. -/
theorem fdc_seek_waiting_split :
    (fdc_advance_at (fdc_bench true)
        (fdc_advance_at (fdc_bench true) fdc_seek_waiting 1) 100).motion.steps.length = 5 ∧
      (fdc_advance_at (fdc_bench true) fdc_seek_waiting 100).motion.steps.length = 0 ∧
      (let begun := fdc_advance_at (fdc_bench true) fdc_seek_waiting 1
       let ended := fdc_advance_at (fdc_bench false) begun tick_max
       begun.motion.seek_pending_mask 0 = true ∧ begun.motion.pcn 0 = 0 ∧
        begun.motion.seek_target 0 = 5 ∧ ended.motion.steps = [] ∧
        ended.motion.seek_results = [⟨0x68, 0⟩]) := by
  decide +kernel

end Nxvm.Chips
