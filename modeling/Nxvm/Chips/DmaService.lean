/-
A service of the DMA controller ends.

Each clock of a service either ends it or brings it nearer to its terminal count,
whatever the devices on the bus answer: a transfer counts down, and between two
transfers the chip goes through at most four states.
-/
import Nxvm.Chips.Dma

set_option autoImplicit false

namespace Nxvm.Chips

open Nxvm.Lib Nxvm.Lib.Register Nxvm.Machine

/-! ## What decides a service -/

/-- Nothing that decides how a service goes on has changed, but for the counts. -/
structure SameService (dma dma' : Dma) : Prop where
  isr : dma'.isr = dma.isr
  phase : dma'.phase = dma.phase
  command : dma'.command = dma.command
  request : dma'.request = dma.request
  flagM2MWrite : dma'.flagM2MWrite = dma.flagM2MWrite

theorem SameService.trans {a b c : Dma} (h : SameService a b) (h' : SameService b c) :
    SameService a c :=
  ⟨h'.isr.trans h.isr, h'.phase.trans h.phase, h'.command.trans h.command,
    h'.request.trans h.request, h'.flagM2MWrite.trans h.flagM2MWrite⟩

theorem InputsOnly.same_service {dma dma' : Dma} (h : InputsOnly dma dma') :
    SameService dma dma' := by
  obtain ⟨status, flagEOP, rfl⟩ := h
  exact ⟨rfl, rfl, rfl, rfl, rfl⟩

theorem InputsOnly.currCount {dma dma' : Dma} (h : InputsOnly dma dma') :
    dma'.currCount = dma.currCount := by
  obtain ⟨status, flagEOP, rfl⟩ := h
  rfl

theorem InputsOnly.trans {a b c : Dma} (h : InputsOnly a b) (h' : InputsOnly b c) :
    InputsOnly a c := by
  obtain ⟨status, flagEOP, rfl⟩ := h
  obtain ⟨status', flagEOP', rfl⟩ := h'
  exact ⟨status', flagEOP', rfl⟩

theorem InputsOnly.refl (dma : Dma) : InputsOnly dma dma := ⟨dma.status, dma.flagEOP, rfl⟩

theorem count_down_same_service (dma : Dma) (channel : Fin 4) :
    SameService dma (count_down dma channel) := ⟨rfl, rfl, rfl, rfl, rfl⟩

/-- A transfer that does not reach the terminal count leaves one less. -/
theorem count_down_currCount {dma : Dma} {channel : Fin 4}
    (h : (count_down dma channel).flagEOP = false) :
    ((count_down dma channel).currCount channel).toNat + 1 = (dma.currCount channel).toNat := by
  unfold count_down at h ⊢
  dsimp only at h ⊢
  rw [Function.update_self]
  split_ifs at h with hwrap
  bv_omega

/-! ## Transfers -/

section Service

variable {κ : Type} (bus : DmaBus κ)

/-- What a transfer leaves of the service. -/
theorem transmission_spec (channel : Fin 4) (s : Dma × κ) :
    SameService s.1 (transmission bus channel s).2.1 ∧
      ((transmission bus channel s).1 = true → (transmission bus channel s).2.1.flagEOP = false →
        ((transmission bus channel s).2.1.currCount channel).toNat + 1 =
          (s.1.currCount channel).toNat) := by
  unfold transmission
  cases transfer_kind (s.1.mode channel) with
  | none => exact ⟨⟨rfl, rfl, rfl, rfl, rfl⟩, fun h => nomatch h⟩
  | some kind =>
    have hinputs := bus.cycle_inputs kind channel (s.1.currAddr channel) 0 s
    change SameService s.1 (transfer bus kind channel s).2.1 ∧
      ((transfer bus kind channel s).1 = true → (transfer bus kind channel s).2.1.flagEOP = false →
        ((transfer bus kind channel s).2.1.currCount channel).toNat + 1 =
          (s.1.currCount channel).toNat)
    unfold transfer
    generalize bus.cycle kind channel (s.1.currAddr channel) 0 s = answer at hinputs ⊢
    obtain ⟨status, byte, dma, k⟩ := answer
    dsimp only at hinputs ⊢
    split_ifs
    · exact ⟨hinputs.same_service, fun h => nomatch h⟩
    · refine ⟨?_, fun _ hEOP => ?_⟩
      · have hcount := hinputs.same_service.trans (count_down_same_service _ channel)
        exact ⟨hcount.isr, hcount.phase, hcount.command, hcount.request, hcount.flagM2MWrite⟩
      · rw [← hinputs.currCount]
        exact count_down_currCount hEOP

theorem complete_channel_spec (s : Dma × κ) (index : Fin 4) :
    (complete_channel bus s index).1.isr = s.1.isr ∧
      (complete_channel bus s index).1.command = s.1.command := by
  have hinputs := (bus.terminal_inputs index
    ({ s.1 with request := s.1.request &&& ~~~drq index }, s.2)).same_service
  unfold complete_channel
  dsimp only
  split_ifs <;> exact ⟨hinputs.isr, hinputs.command⟩

/-- A terminal count ends the service. -/
theorem dma_complete_transfer_spec (channel : Fin 4) (memory_to_memory : Bool) (s : Dma × κ) :
    (dma_complete_transfer bus channel memory_to_memory s).1.isr = none ∧
      (dma_complete_transfer bus channel memory_to_memory s).1.command = s.1.command := by
  have hfold (indexes : List (Fin 4)) (s : Dma × κ) :
      (indexes.foldl (complete_channel bus) s).1.isr = s.1.isr ∧
        (indexes.foldl (complete_channel bus) s).1.command = s.1.command := by
    induction indexes generalizing s with
    | nil => exact ⟨rfl, rfl⟩
    | cons index indexes ih =>
      have hone := complete_channel_spec bus s index
      have hrest := ih (complete_channel bus s index)
      exact ⟨hrest.1.trans hone.1, hrest.2.trans hone.2⟩
  unfold dma_complete_transfer
  dsimp only
  have h := hfold (if memory_to_memory then [0, 1] else [channel]) (dma_release s.1, s.2)
  exact ⟨h.1, h.2⟩

/-- The end of process ends the service; without it the service goes on as it was. -/
theorem execute_end_spec (channel : Fin 4) (memory_to_memory : Bool) (s : Dma × κ) :
    (execute_end bus channel memory_to_memory s).1.command = s.1.command ∧
      ((execute_end bus channel memory_to_memory s).1.isr = none ∨
        (s.1.flagEOP = false ∧
          SameService s.1 (execute_end bus channel memory_to_memory s).1 ∧
          (execute_end bus channel memory_to_memory s).1.currCount = s.1.currCount)) := by
  unfold execute_end
  dsimp only
  split_ifs with hEOP
  · have h := dma_complete_transfer_spec bus channel memory_to_memory s
    exact ⟨h.2, Or.inl h.1⟩
  · exact ⟨rfl, Or.inr ⟨Bool.eq_false_of_not_eq_true hEOP, ⟨rfl, rfl, rfl, rfl, rfl⟩, rfl⟩⟩

/-- Once released, a channel stays released to the end of `Execute`. -/
theorem execute_end_released (channel : Fin 4) (memory_to_memory : Bool) (s : Dma × κ) :
    (execute_end bus channel memory_to_memory (dma_release s.1, s.2)).1.command = s.1.command ∧
      (execute_end bus channel memory_to_memory (dma_release s.1, s.2)).1.isr = none := by
  obtain ⟨hcommand, hend | ⟨-, hsame, -⟩⟩ :=
    execute_end_spec bus channel memory_to_memory (dma_release s.1, s.2)
  · exact ⟨hcommand, hend⟩
  · exact ⟨hcommand, hsame.isr⟩

/-! ## What is left of a service -/

/-- Steps of transfers until the terminal count: a memory-to-memory transfer takes two. -/
def transfers_left (dma : Dma) (channel : Fin 4) : ℕ :=
  if is_memory_to_memory dma channel then
    2 * ((dma.currCount 1).toNat + 1) - dma.flagM2MWrite.toNat
  else (dma.currCount channel).toNat + 1

theorem is_memory_to_memory_congr {dma dma' : Dma} (hrequest : dma'.request = dma.request)
    (hcommand : dma'.command = dma.command) (channel : Fin 4) :
    is_memory_to_memory dma' channel = is_memory_to_memory dma channel := by
  unfold is_memory_to_memory
  rw [hrequest, hcommand]

/-- The service has ended, or it goes on and has less left. -/
structure Serves (dma dma' : Dma) (channel : Fin 4) : Prop where
  command : dma'.command = dma.command
  service : dma'.isr = none ∨ (dma'.isr = dma.isr ∧ dma'.phase = dma.phase ∧
    transfers_left dma' channel < transfers_left dma channel)

/-- After one more transfer of a channel of its own. -/
theorem serves_of_transfer {dma dma' : Dma} {channel : Fin 4} (hsame : SameService dma dma')
    (hm : is_memory_to_memory dma channel = false)
    (hcount : (dma'.currCount channel).toNat + 1 = (dma.currCount channel).toNat) :
    Serves dma dma' channel := by
  refine ⟨hsame.command, Or.inr ⟨hsame.isr, hsame.phase, ?_⟩⟩
  have hm' := is_memory_to_memory_congr hsame.request hsame.command channel
  unfold transfers_left
  rw [hm', hm]
  simp only [Bool.false_eq_true, if_false]
  omega

/-- A transfer whose follow-up ends the service or leaves it alone. -/
theorem execute_transfer_serves {id : Fin 4} {s : Dma × κ} {next : Dma × κ → Dma × κ}
    (hm : is_memory_to_memory s.1 id = false)
    (hnext : ∀ s, (next s).1.command = s.1.command ∧ ((next s).1.isr = none ∨
      (s.1.flagEOP = false ∧ SameService s.1 (next s).1 ∧
        (next s).1.currCount = s.1.currCount))) :
    Serves s.1 (execute_transfer bus id s next).1 id := by
  have hsent := transmission_spec bus id s
  unfold execute_transfer
  generalize transmission bus id s = sent at hsent ⊢
  obtain ⟨answer, s'⟩ := sent
  obtain ⟨hsame, hcount⟩ := hsent
  dsimp only at hsame hcount
  cases answer with
  | false => exact ⟨hsame.command, Or.inl rfl⟩
  | true =>
    obtain ⟨hcommand, hend | ⟨hEOP, hgoes, hkeep⟩⟩ := hnext s'
    · exact ⟨hcommand.trans hsame.command, Or.inl hend⟩
    · refine serves_of_transfer (hsame.trans hgoes) hm ?_
      dsimp only
      rw [hkeep]
      exact hcount rfl hEOP

/-- The end of process is noted already. -/
theorem execute_end_serves {id channel : Fin 4} {memory_to_memory : Bool} {s : Dma × κ}
    (hEOP : s.1.flagEOP = true) :
    Serves s.1 (execute_end bus id memory_to_memory s).1 channel := by
  obtain ⟨hcommand, hend | ⟨hoff, -, -⟩⟩ := execute_end_spec bus id memory_to_memory s
  · exact ⟨hcommand, Or.inl hend⟩
  · rw [hEOP] at hoff
    exact nomatch hoff

theorem execute_mode_serves {id : Fin 4} {request_asserted : Bool} {s : Dma × κ}
    (hm : is_memory_to_memory s.1 id = false) :
    Serves s.1 (execute_mode bus id request_asserted s).1 id := by
  have hreleased := execute_end_released bus id false
  unfold execute_mode
  dsimp only
  split_ifs
  · -- demand
    unfold execute_demand
    split_ifs with hsend hoff
    · exact execute_transfer_serves bus hm (execute_end_spec bus id false)
    · exact ⟨(hreleased s).1, Or.inl (hreleased s).2⟩
    · exact execute_end_serves bus (by simpa using hoff)
  · -- single
    unfold execute_single
    split_ifs with hoff
    · refine execute_transfer_serves bus hm fun s' => ?_
      split_ifs with hlast
      · exact ⟨(hreleased s').1, Or.inl (hreleased s').2⟩
      · exact execute_end_spec bus id false s'
    · exact execute_end_serves bus (by simpa using hoff)
  · -- block
    unfold execute_block
    split_ifs with hoff
    · exact execute_transfer_serves bus hm (execute_end_spec bus id false)
    · exact execute_end_serves bus (by simpa using hoff)
  · exact ⟨rfl, Or.inl rfl⟩

theorem execute_memory_read_serves {s : Dma × κ} (hm : is_memory_to_memory s.1 0 = true)
    (hwrite : s.1.flagM2MWrite = false) :
    Serves s.1 (execute_memory_read bus s).1 0 := by
  have hinputs := bus.cycle_inputs .memory_read 0 (s.1.currAddr 0) s.1.temp s
  unfold execute_memory_read
  generalize bus.cycle .memory_read 0 (s.1.currAddr 0) s.1.temp s = answer at hinputs ⊢
  obtain ⟨status, byte, dma, k⟩ := answer
  dsimp only at hinputs ⊢
  have hsame := hinputs.same_service
  split_ifs
  · exact ⟨hsame.command, Or.inl rfl⟩
  · -- channel 1 has still to write
    refine ⟨hsame.command, Or.inr ⟨hsame.isr, hsame.phase, ?_⟩⟩
    have hm' : is_memory_to_memory { dma with temp := byte, flagM2MWrite := true } 0 = true :=
      (is_memory_to_memory_congr hsame.request hsame.command 0).trans hm
    unfold transfers_left
    rw [hm, hm', if_pos rfl, if_pos rfl, hwrite, hinputs.currCount]
    simp only [Bool.toNat_true, Bool.toNat_false]
    omega

theorem memory_addresses_same_service (dma : Dma) :
    SameService dma (memory_addresses dma) ∧
      (memory_addresses dma).currCount = dma.currCount ∧
      (memory_addresses dma).flagEOP = dma.flagEOP := by
  unfold memory_addresses
  dsimp only
  split_ifs <;> exact ⟨⟨rfl, rfl, rfl, rfl, rfl⟩, rfl, rfl⟩

theorem execute_memory_write_serves {s : Dma × κ} (hm : is_memory_to_memory s.1 0 = true)
    (hwrite : s.1.flagM2MWrite = true) :
    Serves s.1 (execute_memory_write bus s).1 0 := by
  have hinputs := bus.cycle_inputs .memory_write 1 (s.1.currAddr 1) s.1.temp s
  unfold execute_memory_write
  generalize bus.cycle .memory_write 1 (s.1.currAddr 1) s.1.temp s = answer at hinputs ⊢
  obtain ⟨status, byte, dma, k⟩ := answer
  dsimp only at hinputs ⊢
  have hsame := hinputs.same_service
  split_ifs
  · exact ⟨hsame.command, Or.inl rfl⟩
  · generalize hsent : count_down { dma with flagM2MWrite := false } 1 = sent
    have hcounted : sent.isr = dma.isr ∧ sent.phase = dma.phase ∧ sent.command = dma.command ∧
        sent.request = dma.request ∧ sent.flagM2MWrite = false := by
      rw [← hsent]
      exact ⟨rfl, rfl, rfl, rfl, rfl⟩
    obtain ⟨haddresses, hcounts, hEOPs⟩ := memory_addresses_same_service sent
    obtain ⟨hcommand, hend | ⟨hEOP, hgoes, hkeep⟩⟩ :=
      execute_end_spec bus 0 true (memory_addresses sent, k)
    · refine ⟨?_, Or.inl hend⟩
      rw [hcommand, haddresses.command, hcounted.2.2.1, hsame.command]
    · have hall := haddresses.trans hgoes
      refine ⟨?_, Or.inr ⟨?_, ?_, ?_⟩⟩
      · rw [hall.command, hcounted.2.2.1, hsame.command]
      · rw [hall.isr, hcounted.1, hsame.isr]
      · rw [hall.phase, hcounted.2.1, hsame.phase]
      · have hoff : sent.flagEOP = false := hEOPs.symm.trans hEOP
        rw [← hsent] at hoff
        have hcount := count_down_currCount hoff
        rw [hsent] at hcount
        have hm' := is_memory_to_memory_congr
          (hall.request.trans (hcounted.2.2.2.1.trans hsame.request))
          (hall.command.trans (hcounted.2.2.1.trans hsame.command)) 0
        unfold transfers_left
        rw [hm', hm, if_pos rfl, if_pos rfl, hall.flagM2MWrite, hcounted.2.2.2.2, hwrite, hkeep,
          hcounts, ← hinputs.currCount]
        simp only [Bool.toNat_true, Bool.toNat_false]
        dsimp only at hcount
        omega

theorem execute_memory_serves {s : Dma × κ} (hm : is_memory_to_memory s.1 0 = true) :
    Serves s.1 (execute_memory bus s).1 0 := by
  unfold execute_memory
  split_ifs with hEOP hwrite
  · exact execute_end_serves bus hEOP
  · exact execute_memory_read_serves bus hm (by simpa using hwrite)
  · exact execute_memory_write_serves bus hm (by simpa using hwrite)

/-- One `Execute` ends the service or leaves less of it. -/
theorem execute_serves (id : Fin 4) (s : Dma × κ) : Serves s.1 (execute bus id s).1 id := by
  -- a rotation does not matter to the service
  have hrotate (drx : Fin 4) (dma' : Dma) (h : Serves { s.1 with drx := drx } dma' id) :
      Serves s.1 dma' id := ⟨h.command, h.service⟩
  unfold execute
  dsimp only
  cases hm : is_memory_to_memory s.1 id with
  | true =>
    obtain rfl : id = 0 := by
      simp only [is_memory_to_memory, Bool.and_eq_true, decide_eq_true_eq] at hm
      exact hm.1.1
    simp only [if_true]
    split_ifs
    · exact hrotate _ _ (execute_memory_serves bus (s := ({ s.1 with drx := 0 + 1 }, s.2)) hm)
    · exact execute_memory_serves bus hm
  | false =>
    simp only [Bool.false_eq_true, if_false]
    split_ifs
    · exact hrotate _ _ (execute_mode_serves bus (s := ({ s.1 with drx := id + 1 }, s.2)) hm)
    · exact execute_mode_serves bus hm

/-! ## Clocks -/

/-- Clocks until the next `Execute`, that one included. -/
def phase_left : DmaPhase → ℕ
  | .idle | .s4 | .s14 | .s24 => 1
  | .s3 | .s13 | .s23 => 2
  | .s2 | .s12 | .s22 => 3
  | .s1 | .s11 | .s21 => 4

/-- Clocks until the service has ended, at most. -/
def service_left (dma : Dma) : ℕ :=
  match dma.isr with
  | none => 0
  | some channel => 5 * transfers_left dma channel + phase_left dma.phase

theorem service_left_of_none (dma : Dma) (h : dma.isr = none) : service_left dma = 0 := by
  rw [service_left, h]

theorem service_left_of_some (dma : Dma) {channel : Fin 4} (h : dma.isr = some channel) :
    service_left dma = 5 * transfers_left dma channel + phase_left dma.phase := by
  rw [service_left, h]

theorem phase_left_pos (phase : DmaPhase) : 0 < phase_left phase := by
  cases phase <;> decide

theorem phase_left_le (phase : DmaPhase) : phase_left phase ≤ 4 := by
  cases phase <;> decide

/-- The state of the chip does not matter to the transfers. -/
theorem transfers_left_phase (dma : Dma) (channel : Fin 4) (phase : DmaPhase) :
    transfers_left { dma with phase := phase } channel = transfers_left dma channel := rfl

/-- A clock that only goes to the next state of the chip. -/
theorem service_left_phase {dma : Dma} {channel : Fin 4} (h : dma.isr = some channel)
    {phase : DmaPhase} (hphase : phase_left phase < phase_left dma.phase) :
    service_left { dma with phase := phase } < service_left dma := by
  rw [service_left_of_some { dma with phase := phase } h, service_left_of_some dma h,
    transfers_left_phase]
  exact Nat.add_lt_add_left hphase _

/-- Whatever state follows an `Execute`, there is less of the service left. -/
theorem Serves.service_left {dma dma' : Dma} {channel : Fin 4} (hserves : Serves dma dma' channel)
    (h : dma.isr = some channel) (phase : DmaPhase) :
    (dma'.isr = none ∨ dma'.isr = some channel) ∧
      service_left { dma' with phase := phase } < service_left dma := by
  have hpos := phase_left_pos dma.phase
  have hphase := phase_left_le phase
  rw [service_left_of_some dma h]
  obtain hend | ⟨hisr, -, hless⟩ := hserves.service
  · rw [service_left_of_none { dma' with phase := phase } hend]
    exact ⟨Or.inl hend, by omega⟩
  · rw [service_left_of_some { dma' with phase := phase } (hisr.trans h),
      transfers_left_phase]
    refine ⟨Or.inr (hisr.trans h), ?_⟩
    dsimp only
    omega

/-- Each clock of a service leaves less of it. -/
theorem dma_advance_service_left {s : Dma × κ} {channel : Fin 4}
    (h : s.1.isr = some channel) :
    (dma_advance bus s).1.command = s.1.command ∧
      ((dma_advance bus s).1.isr = none ∨ (dma_advance bus s).1.isr = some channel) ∧
      service_left (dma_advance bus s).1 < service_left s.1 := by
  have hserves := execute_serves bus channel s
  -- the clocks that only change the state of the chip
  have hstep (phase : DmaPhase) (hphase : phase_left phase < phase_left s.1.phase) :
      ({ s.1 with phase := phase } : Dma).command = s.1.command ∧
        (({ s.1 with phase := phase } : Dma).isr = none ∨
          ({ s.1 with phase := phase } : Dma).isr = some channel) ∧
        service_left { s.1 with phase := phase } < service_left s.1 :=
    ⟨rfl, Or.inr h, service_left_phase h hphase⟩
  -- the clocks that execute, with the state the source chooses or the one there was
  have hexecute (phase : DmaPhase) :
      ({ (execute bus channel s).1 with phase := phase } : Dma).command = s.1.command ∧
        (({ (execute bus channel s).1 with phase := phase } : Dma).isr = none ∨
          ({ (execute bus channel s).1 with phase := phase } : Dma).isr = some channel) ∧
        service_left { (execute bus channel s).1 with phase := phase } < service_left s.1 :=
    ⟨hserves.command, hserves.service_left h phase⟩
  unfold dma_advance
  rw [h]
  cases hphase : s.1.phase <;> rw [hphase] at hstep <;> dsimp only
  case s1 => exact hstep .s2 (by decide)
  case s2 =>
    split_ifs
    · exact hstep .s4 (by decide)
    · exact hstep .s3 (by decide)
  case s3 => exact hstep .s4 (by decide)
  case s11 => exact hstep .s12 (by decide)
  case s12 => exact hstep .s13 (by decide)
  case s13 => exact hstep .s14 (by decide)
  case s21 => exact hstep .s22 (by decide)
  case s22 => exact hstep .s23 (by decide)
  case s23 => exact hstep .s24 (by decide)
  case s4 | s14 | s24 =>
    split_ifs
    all_goals exact hexecute _
  case idle =>
    refine ⟨rfl, Or.inl rfl, ?_⟩
    rw [service_left_of_none _ rfl, service_left_of_some _ h]
    exact Nat.add_pos_right _ (phase_left_pos _)

/-! ## The rest of the machine -/

/-- The calls of the bus keep to a relation between the rest of the machine before and
after. -/
structure KeepsTo (R : κ → κ → Prop) : Prop where
  refl : ∀ k, R k k
  trans : ∀ {a b c}, R a b → R b c → R a c
  cycle : ∀ kind channel address byte s, R s.2 (bus.cycle kind channel address byte s).2.2.2
  terminal : ∀ channel s, R s.2 (bus.terminal channel s).2

section KeepsTo

variable {bus} {R : κ → κ → Prop} (h : KeepsTo bus R)

include h

theorem KeepsTo.transmission (channel : Fin 4) (s : Dma × κ) :
    R s.2 (transmission bus channel s).2.2 := by
  unfold Chips.transmission
  cases transfer_kind (s.1.mode channel) with
  | none => exact h.refl s.2
  | some kind =>
    change R s.2 (transfer bus kind channel s).2.2
    have hcycle := h.cycle kind channel (s.1.currAddr channel) 0 s
    unfold transfer
    generalize bus.cycle kind channel (s.1.currAddr channel) 0 s = answer at hcycle ⊢
    obtain ⟨status, byte, dma, k⟩ := answer
    dsimp only
    split_ifs <;> exact hcycle

theorem KeepsTo.dma_complete_transfer (channel : Fin 4) (memory_to_memory : Bool)
    (s : Dma × κ) : R s.2 (dma_complete_transfer bus channel memory_to_memory s).2 := by
  have hone (s : Dma × κ) (index : Fin 4) : R s.2 (complete_channel bus s index).2 := by
    unfold complete_channel
    dsimp only
    split_ifs <;>
      exact h.terminal index ({ s.1 with request := s.1.request &&& ~~~drq index }, s.2)
  have hfold (indexes : List (Fin 4)) (s : Dma × κ) :
      R s.2 (indexes.foldl (complete_channel bus) s).2 := by
    induction indexes generalizing s with
    | nil => exact h.refl s.2
    | cons index indexes ih => exact h.trans (hone s index) (ih _)
  exact hfold _ (dma_release s.1, s.2)

theorem KeepsTo.execute_end (channel : Fin 4) (memory_to_memory : Bool) (s : Dma × κ) :
    R s.2 (execute_end bus channel memory_to_memory s).2 := by
  unfold Chips.execute_end
  dsimp only
  split_ifs
  · exact h.dma_complete_transfer channel memory_to_memory s
  · exact h.refl s.2

theorem KeepsTo.execute_memory (s : Dma × κ) : R s.2 (execute_memory bus s).2 := by
  unfold Chips.execute_memory
  split_ifs
  · exact h.execute_end 0 true s
  · have hcycle := h.cycle .memory_read 0 (s.1.currAddr 0) s.1.temp s
    unfold execute_memory_read
    generalize bus.cycle .memory_read 0 (s.1.currAddr 0) s.1.temp s = answer at hcycle ⊢
    obtain ⟨status, byte, dma, k⟩ := answer
    dsimp only
    split_ifs <;> exact hcycle
  · have hcycle := h.cycle .memory_write 1 (s.1.currAddr 1) s.1.temp s
    unfold execute_memory_write
    generalize bus.cycle .memory_write 1 (s.1.currAddr 1) s.1.temp s = answer at hcycle ⊢
    obtain ⟨status, byte, dma, k⟩ := answer
    dsimp only
    split_ifs
    · exact hcycle
    · exact h.trans hcycle (h.execute_end 0 true
        (memory_addresses (count_down { dma with flagM2MWrite := false } 1), k))

theorem KeepsTo.execute_transfer {id : Fin 4} {s : Dma × κ} {next : Dma × κ → Dma × κ}
    (hnext : ∀ s, R s.2 (next s).2) : R s.2 (execute_transfer bus id s next).2 := by
  have hsent := h.transmission id s
  unfold Chips.execute_transfer
  generalize Chips.transmission bus id s = sent at hsent ⊢
  obtain ⟨answer, s'⟩ := sent
  cases answer with
  | false => exact hsent
  | true => exact h.trans hsent (hnext s')

theorem KeepsTo.execute_mode (id : Fin 4) (request_asserted : Bool) (s : Dma × κ) :
    R s.2 (execute_mode bus id request_asserted s).2 := by
  have hend := h.execute_end id false
  unfold Chips.execute_mode
  dsimp only
  split_ifs
  · unfold execute_demand
    split_ifs
    · exact h.execute_transfer hend
    · exact hend (dma_release s.1, s.2)
    · exact hend s
  · unfold execute_single
    split_ifs
    · refine h.execute_transfer fun s' => ?_
      split_ifs
      · exact hend (dma_release s'.1, s'.2)
      · exact hend s'
    · exact hend s
  · unfold execute_block
    split_ifs
    · exact h.execute_transfer hend
    · exact hend s
  · exact h.refl s.2

theorem KeepsTo.execute (id : Fin 4) (s : Dma × κ) : R s.2 (execute bus id s).2 := by
  unfold Chips.execute
  dsimp only
  split_ifs
  · exact h.execute_memory ({ s.1 with drx := id + 1 }, s.2)
  · exact h.execute_memory s
  · exact h.execute_mode id _ ({ s.1 with drx := id + 1 }, s.2)
  · exact h.execute_mode id _ s

/-- A clock of the chip keeps the rest of the machine to the relation. -/
theorem KeepsTo.dma_advance (s : Dma × κ) : R s.2 (dma_advance bus s).2 := by
  unfold Chips.dma_advance
  cases s.1.isr with
  | none => exact h.refl s.2
  | some channel =>
    have hexecute := h.execute channel s
    dsimp only
    cases s.1.phase <;> dsimp only
    case s4 | s14 | s24 => split_ifs <;> exact hexecute
    all_goals exact h.refl s.2

end KeepsTo

/-- A channel has not much more than its count to go. -/
theorem service_left_le (dma : Dma) : service_left dma ≤ 655364 := by
  cases h : dma.isr with
  | none => rw [service_left_of_none dma h]; exact Nat.zero_le _
  | some channel =>
    have hphase := phase_left_le dma.phase
    have hleft : transfers_left dma channel ≤ 131072 := by
      have h1 := (dma.currCount 1).isLt
      have hc := (dma.currCount channel).isLt
      unfold transfers_left
      split_ifs <;> omega
    rw [service_left_of_some dma h]
    omega

end Service

end Nxvm.Chips
