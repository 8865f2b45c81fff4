/-
What a bus transfer counts and what it leaves alone.

A transfer runs the devices and may change any of them, but not the processor, not
the two transfers that hold it, and not what the host sees of a run. It takes one
slot whether it is answered or not, and a read is not answered for eight addresses
only.
-/
import Mathlib.Data.BitVec
import Nxvm.Lib.Meter
import Nxvm.Nes.Machine

set_option autoImplicit false

namespace Nxvm.Nes

open Nxvm.Lib Nxvm.Lib.Exec
open Nxvm.Machine (Status)

/-! ## The rest of the machine -/

/-- The machine without what a transfer may change. -/
def steady (m : Console) : CoreMachine Unit :=
  { m with
    cartridge := ()
    apu := core_apu_reset
    ppu := Ppu.zero
    controller := core_controller_reset
    ram := Table.fill 0
    data_latch := 0
    irq_asserted := false
    cartridge_irq_asserted := false
    apu_irq_asserted := false
    ppu_nmi_asserted := false
    nmi_asserted := false
    nmi_pending := false
    nmi_defer_once := false
    dma_page := 0
    dma_pending := false
    slots := 0
    trace := Table.fill { address := 0, value := 0, kind := .read }
    trace_count := 0 }

theorem steady_cycles {m m' : Console} (h : steady m' = steady m) : m'.cycles = m.cycles :=
  congrArg (fun s : CoreMachine Unit => s.cycles) h

/-- What the devices leave alone: all of that, and what counts transfers. -/
def device_frame : Frame Console :=
  Frame.same fun m => (steady m, m.slots, m.trace_count)

theorem device_frame_iff {m m' : Console} :
    device_frame.rel m m' ↔
      steady m' = steady m ∧ m'.slots = m.slots ∧ m'.trace_count = m.trace_count := by
  show (steady m', m'.slots, m'.trace_count) = (steady m, m.slots, m.trace_count) ↔ _
  simp

theorem apu_device (m : Console) (apu : Apu) : device_frame.rel m { m with apu := apu } := rfl

theorem on_video_device {α : Type} (x : PpuM α) : Respects device_frame (on_video x) := by
  refine ⟨fun m => ?_⟩
  unfold on_video final
  dsimp only
  cases x ⟨m.ppu, m.cartridge⟩ with
  | ok a v => rfl
  | error e v => rfl

theorem cartridge_read_device (address : U16) :
    Respects device_frame (cartridge_read address) := by
  unfold cartridge_read
  exact .bind .of_get fun _ => .of_of_option _ _

theorem device_read_device (address : U16) : Respects device_frame (device_read address) := by
  unfold device_read
  refine .bind .of_get fun m => ?_
  dsimp only
  refine .ite (.of_of_option _ _) (.ite (on_video_device _) (.ite ?_ (.ite ?_ (.ite (.of_pure _)
    (.ite (.of_pure _) (.ite (cartridge_read_device _) (.ite (.of_pure _)
    (.ite (cartridge_read_device _) (.of_throw _)))))))))
  · exact .bind (.of_update fun m => apu_device m _) fun _ => .of_pure _
  · exact .bind (.of_update fun _ => rfl) fun _ => .of_pure _

theorem cartridge_write_device (address : U16) (value : U8) :
    Respects device_frame (cartridge_write address value) := by
  unfold cartridge_write
  exact .bind .of_get fun _ => .bind (.of_of_option _ _) fun _ =>
    .bind (.of_update fun _ => rfl) fun _ => .of_pure _

theorem apu_write_device (address : U16) (value : U8) :
    Respects device_frame (apu_write address value) := by
  unfold apu_write
  exact .bind (.of_update fun m => apu_device m _) fun _ => .of_update fun _ => rfl

theorem device_write_device (address : U16) (value : U8) :
    Respects device_frame (device_write address value) := by
  unfold device_write
  refine .bind .of_get fun m => ?_
  dsimp only
  refine .ite ?_ (.ite ?_ (.ite (.of_update fun _ => rfl) (.ite (apu_write_device _ _)
    (.ite (apu_write_device _ _) (.ite (.of_update fun _ => rfl) (.ite ?_ (.ite ?_
    (.ite (.of_pure _) (.of_throw _)))))))))
  · exact .bind (.of_of_option _ _) fun _ => .of_update fun _ => rfl
  · exact .bind (on_video_device _) fun _ => .of_update fun _ => rfl
  · refine .bind (cartridge_write_device _ _) fun taken => .ite (.of_throw _) ?_
    exact .of_update fun _ => rfl
  · exact .bind (cartridge_write_device _ _) fun _ => .of_pure _

/-! ## Slots and the trace -/

/-- The trace's count after one more transfer. -/
def bump (count : U32) : U32 := if 16 ≤ count.toNat then count else count + 1

/-- Answered transfers: a slot and a place in the trace for each. The cycles are counted by
whoever asks for the transfers. -/
def transfers : Meter Console where
  after n m m' :=
    m'.slots = m.slots + BitVec.ofNat 64 n ∧ m'.trace_count = bump^[n] m.trace_count ∧
      m'.cycles = m.cycles
  refl m := ⟨by simp, rfl, rfl⟩
  trans := by
    rintro i j a b c ⟨hs, ht, hc⟩ ⟨hs', ht', hc'⟩
    refine ⟨?_, ?_, hc'.trans hc⟩
    · rw [hs', hs, BitVec.ofNat_add, BitVec.add_assoc]
    · rw [ht', ht, ← Function.iterate_add_apply, Nat.add_comm]

theorem one_lt_bump {count : U32} (h : 1 ≤ count.toNat) : 1 < (bump count).toNat := by
  unfold bump
  split
  · omega
  · bv_omega

theorem bump_iterate_one {n : ℕ} : bump^[n] 1 = 1 ↔ n = 0 := by
  have hone : ∀ k, 1 ≤ (bump^[k] 1).toNat := by
    intro k
    induction k with
    | zero => decide
    | succ k ih =>
      rw [Function.iterate_succ_apply']
      exact (one_lt_bump ih).le
  refine ⟨fun h => ?_, fun h => by rw [h]; rfl⟩
  by_contra hn
  obtain ⟨k, rfl⟩ := Nat.exists_eq_succ_of_ne_zero hn
  rw [Function.iterate_succ_apply'] at h
  have hlt := one_lt_bump (hone k)
  rw [h] at hlt
  exact absurd hlt (by decide)

theorem bus_slot_device (m : Console) :
    device_frame.rel { m with slots := m.slots + 1 } (final core_bus_slot m) := by
  unfold core_bus_slot
  rw [final_update_bind]
  refine Respects.run ?_ _
  refine .bind (on_video_device _) fun _ => .bind (on_video_device _) fun _ =>
    .bind (on_video_device _) fun _ => .bind (.of_update fun m => apu_device m _) fun _ =>
    .bind (.of_update fun _ => rfl) fun _ => .bind (.of_update fun _ => rfl) fun _ => ?_
  exact .of_update fun _ => rfl

/-- What a slot leaves: one more slot, and the rest of the processor's side. -/
theorem bus_slot_ok {m m' : Console} {u : Unit} (h : core_bus_slot m = .ok u m') :
    steady m' = steady m ∧ m'.slots = m.slots + 1 ∧ m'.trace_count = m.trace_count := by
  have hd := bus_slot_device m
  rw [final_of_ok h] at hd
  exact device_frame_iff.mp hd

theorem bus_trace_ok {address : U16} {value : U8} {kind : TransferKind} {m m' : Console}
    {u : Unit} (h : core_bus_trace address value kind m = .ok u m') :
    steady m' = steady m ∧ m'.slots = m.slots ∧ m'.trace_count = bump m.trace_count := by
  unfold core_bus_trace at h
  rw [get_bind_run] at h
  unfold bump
  by_cases hfull : 16 ≤ m.trace_count.toNat
  · rw [if_pos hfull] at h ⊢
    cases h
    exact ⟨rfl, rfl, rfl⟩
  · rw [if_neg hfull] at h ⊢
    obtain ⟨trace, m₁, ht, h₁⟩ := bind_eq_ok.mp h
    obtain ⟨-, rfl⟩ := of_option_eq_ok.mp ht
    cases h₁
    exact ⟨rfl, rfl, rfl⟩

/-! ## Which transfers are answered -/

/-- The eight addresses behind which there is nothing to read. -/
def unmapped (address : U16) : Prop := 0x4018 ≤ address.toNat ∧ address.toNat < 0x4020

instance (address : U16) : Decidable (unmapped address) := by
  unfold unmapped
  infer_instance

/-- `x` stops only where an access leaves its array. -/
def Unfailing {α : Type} (x : NesM α) : Prop :=
  Triple (fun _ => True) x (fun _ _ => True) (fun e _ => e = .out_of_bounds)

namespace Unfailing

theorem of_pure {α : Type} (a : α) : Unfailing (pure a) := fun _ _ => trivial

theorem of_get : Unfailing get := fun _ _ => trivial

theorem of_update (f : Console → Console) : Unfailing (update f) := fun _ _ => trivial

theorem of_of_option {α : Type} (o : Option α) : Unfailing (of_option .out_of_bounds o) :=
  Triple.of_of_option (fun _ _ _ _ => trivial) fun _ _ _ => rfl

theorem of_on_video {α : Type} (x : PpuM α) : Unfailing (on_video x) := by
  intro m _
  unfold on_video
  cases x ⟨m.ppu, m.cartridge⟩ with
  | ok a v => trivial
  | error e v => rfl

theorem bind {α β : Type} {x : NesM α} {f : α → NesM β} (hx : Unfailing x)
    (hf : ∀ a, Unfailing (f a)) : Unfailing (x >>= f) := Triple.bind hx hf

end Unfailing

/-- The fault of a computation is never the status of success. -/
def not_ok (e : Stop) : Prop := e ≠ .status .ok

theorem Unfailing.not_ok {α : Type} {x : NesM α} (hx : Unfailing x) :
    Triple (fun _ => True) x (fun _ _ => True) (fun e _ => Nes.not_ok e) :=
  Triple.weaken hx (fun _ _ h => h) fun e _ he h => by
    rw [he] at h
    cases h

/-- A read at `address` is answered when there is something behind the address, and fails
when there is not. -/
def Answers {α : Type} (address : U16) (x : NesM α) : Prop :=
  Triple (fun _ => True) x (fun _ _ => ¬ unmapped address)
    (fun e _ => e = .out_of_bounds ∨ e = .status .unsupported ∧ unmapped address)

theorem Unfailing.answers {α : Type} {x : NesM α} {address : U16} (hx : Unfailing x)
    (h : ¬ unmapped address) : Answers address x :=
  Triple.weaken hx (fun _ _ _ => h) fun _ _ he => Or.inl he

theorem fail_answers {α : Type} {address : U16} (h : unmapped address) :
    Answers address (fail .unsupported : NesM α) :=
  fun _ _ => Or.inr ⟨rfl, h⟩

theorem cartridge_read_unfailing (address : U16) : Unfailing (cartridge_read address) :=
  .bind .of_get fun _ => .of_of_option _

theorem device_read_answers (address : U16) : Answers address (device_read address) := by
  unfold device_read
  refine Triple.bind (M := fun _ _ => True) (fun _ _ => trivial) fun m => ?_
  dsimp only
  refine .ite (fun _ => ?_) fun _ => .ite (fun _ => ?_) fun _ => .ite (fun _ => ?_) fun _ =>
    .ite (fun _ => ?_) fun _ => .ite (fun _ => ?_) fun _ => .ite (fun _ => ?_) fun _ =>
    .ite (fun _ => ?_) fun _ => .ite (fun _ => ?_) fun _ => .ite (fun _ => ?_) fun _ => ?_
  · exact (Unfailing.of_of_option _).answers (by unfold unmapped; omega)
  · exact (Unfailing.of_on_video _).answers (by unfold unmapped; omega)
  · exact (Unfailing.bind (.of_update _) fun _ => .of_pure _).answers (by unfold unmapped; omega)
  · exact (Unfailing.bind (.of_update _) fun _ => .of_pure _).answers (by unfold unmapped; omega)
  · exact (Unfailing.of_pure _).answers (by unfold unmapped; omega)
  · exact (Unfailing.of_pure _).answers (by unfold unmapped; omega)
  · exact (cartridge_read_unfailing _).answers (by unfold unmapped; omega)
  · exact (Unfailing.of_pure _).answers (by unfold unmapped; omega)
  · exact (cartridge_read_unfailing _).answers (by unfold unmapped; omega)
  · exact fail_answers (by unfold unmapped; omega)

theorem bus_trace_unfailing (address : U16) (value : U8) (kind : TransferKind) :
    Unfailing (core_bus_trace address value kind) := by
  unfold core_bus_trace
  refine .bind .of_get fun m => ?_
  by_cases hfull : 16 ≤ m.trace_count.toNat
  · rw [if_pos hfull]
    exact .of_pure _
  · rw [if_neg hfull]
    exact .bind (.of_of_option _) fun _ => .of_update _

theorem bus_slot_unfailing : Unfailing core_bus_slot := by
  unfold core_bus_slot
  exact .bind (.of_update _) fun _ => .bind (.of_on_video _) fun _ =>
    .bind (.of_on_video _) fun _ => .bind (.of_on_video _) fun _ => .bind (.of_update _) fun _ =>
    .bind (.of_update _) fun _ => .bind (.of_update _) fun _ => .of_update _

theorem read_done_unfailing (address : U16) (value : U8) :
    Unfailing (bus_read_done address value) :=
  .bind (.of_update _) fun _ => .bind (bus_trace_unfailing _ _ _) fun _ => .of_pure _

theorem bus_read_answers (address : U16) : Answers address (core_bus_read address) := by
  unfold core_bus_read
  refine Triple.bind (M := fun _ _ => True) (fun _ _ => trivial) fun m => ?_
  refine .ite (fun hearly => ?_) fun _ => ?_
  · have hrange : ¬ unmapped address := by
      unfold status_read_early at hearly
      unfold unmapped
      have h := of_decide_eq_true hearly
      omega
    exact (Unfailing.bind (.of_on_video _) fun _ => .bind bus_slot_unfailing fun _ =>
      read_done_unfailing _ _).answers hrange
  · refine Triple.bind (M := fun _ _ => True)
      (bus_slot_unfailing.weaken (fun _ _ h => h) fun _ _ h => Or.inl h) fun _ => ?_
    refine Triple.bind (M := fun _ _ => ¬ unmapped address) (device_read_answers address)
      fun value => ?_
    exact fun m hm => (read_done_unfailing address value).answers hm m trivial

theorem cartridge_write_unfailing (address : U16) (value : U8) :
    Unfailing (cartridge_write address value) :=
  .bind .of_get fun _ => .bind (.of_of_option _) fun _ => .bind (.of_update _) fun _ =>
    .of_pure _

theorem apu_write_unfailing (address : U16) (value : U8) : Unfailing (apu_write address value) :=
  .bind (.of_update _) fun _ => .of_update _

/-- A write whose address has nothing behind it, or whose cartridge does not take it, fails;
success is never among its failures. -/
theorem device_write_not_ok (address : U16) (value : U8) :
    Triple (fun _ => True) (device_write address value) (fun _ _ => True)
      (fun e _ => not_ok e) := by
  unfold device_write
  refine Triple.bind (M := fun _ _ => True) (fun _ _ => trivial) fun m => ?_
  dsimp only
  refine .ite (fun _ => ?_) fun _ => .ite (fun _ => ?_) fun _ => .ite (fun _ => ?_) fun _ =>
    .ite (fun _ => ?_) fun _ => .ite (fun _ => ?_) fun _ => .ite (fun _ => ?_) fun _ =>
    .ite (fun _ => ?_) fun _ => .ite (fun _ => ?_) fun _ => .ite (fun _ => ?_) fun _ => ?_
  · exact (Unfailing.bind (.of_of_option _) fun _ => .of_update _).not_ok
  · exact (Unfailing.bind (.of_on_video _) fun _ => .of_update _).not_ok
  · exact (Unfailing.of_update _).not_ok
  · exact (apu_write_unfailing _ _).not_ok
  · exact (apu_write_unfailing _ _).not_ok
  · exact (Unfailing.of_update _).not_ok
  · refine Triple.bind (M := fun _ _ => True) ?_ fun taken => .ite (fun _ => ?_) fun _ => ?_
    · exact (cartridge_write_unfailing _ _).not_ok
    · exact fun _ _ h => by cases h
    · exact (Unfailing.of_update _).not_ok
  · exact (Unfailing.bind (cartridge_write_unfailing _ _) fun _ => .of_pure _).not_ok
  · exact (Unfailing.of_pure _).not_ok
  · exact fun _ _ h => by cases h

/-! ## A transfer -/

theorem read_done_ok {address : U16} {value value' : U8} {m m' : Console}
    (h : bus_read_done address value m = .ok value' m') :
    steady m' = steady m ∧ m'.slots = m.slots ∧ m'.trace_count = bump m.trace_count := by
  unfold bus_read_done at h
  rw [update_bind_run] at h
  obtain ⟨u, m₁, htrace, hpure⟩ := bind_eq_ok.mp h
  obtain ⟨-, rfl⟩ := pure_eq_ok.mp hpure
  have htraced := bus_trace_ok htrace
  exact htraced

/-- An answered read: one slot, one place in the trace. -/
theorem bus_read_ok {address : U16} {value : U8} {m m' : Console}
    (h : core_bus_read address m = .ok value m') :
    steady m' = steady m ∧ m'.slots = m.slots + 1 ∧ m'.trace_count = bump m.trace_count := by
  unfold core_bus_read at h
  rw [get_bind_run] at h
  by_cases hearly : status_read_early m address
  · rw [if_pos hearly] at h
    obtain ⟨v, m₁, hvideo, h₁⟩ := bind_eq_ok.mp h
    obtain ⟨u, m₂, hslot, hdone⟩ := bind_eq_ok.mp h₁
    obtain ⟨hs, hn, ht⟩ := device_frame_iff.mp ((on_video_device _).ok hvideo)
    obtain ⟨hs', hn', ht'⟩ := bus_slot_ok hslot
    obtain ⟨hs'', hn'', ht''⟩ := read_done_ok hdone
    exact ⟨hs''.trans (hs'.trans hs), by rw [hn'', hn', hn], by rw [ht'', ht', ht]⟩
  · rw [if_neg hearly] at h
    obtain ⟨u, m₁, hslot, h₁⟩ := bind_eq_ok.mp h
    obtain ⟨v, m₂, hread, hdone⟩ := bind_eq_ok.mp h₁
    obtain ⟨hs, hn, ht⟩ := bus_slot_ok hslot
    obtain ⟨hs', hn', ht'⟩ := device_frame_iff.mp ((device_read_device _).ok hread)
    obtain ⟨hs'', hn'', ht''⟩ := read_done_ok hdone
    exact ⟨hs''.trans (hs'.trans hs), by rw [hn'', hn', hn], by rw [ht'', ht', ht]⟩

theorem bus_read_takes (address : U16) :
    Takes transfers 1 not_ok (core_bus_read address) := by
  refine ⟨fun h => ⟨1, rfl, ?_⟩, fun h => ?_⟩
  · obtain ⟨hs, hn, ht⟩ := bus_read_ok h
    exact ⟨hn, ht, steady_cycles hs⟩
  · rcases (bus_read_answers address).of_error trivial h with rfl | ⟨rfl, -⟩
    · exact fun h => by cases h
    · exact fun h => by cases h

/-- A write that was taken: one slot, one place in the trace. -/
theorem bus_write_ok {address : U16} {value : U8} {u : Unit} {m m' : Console}
    (h : core_bus_write address value m = .ok u m') :
    steady m' = steady m ∧ m'.slots = m.slots + 1 ∧ m'.trace_count = bump m.trace_count := by
  unfold core_bus_write at h
  obtain ⟨u₁, m₁, hslot, h₁⟩ := bind_eq_ok.mp h
  rw [update_bind_run] at h₁
  obtain ⟨u₂, m₂, htrace, hwrite⟩ := bind_eq_ok.mp h₁
  obtain ⟨hs, hn, ht⟩ := bus_slot_ok hslot
  obtain ⟨hs', hn', ht'⟩ := bus_trace_ok htrace
  obtain ⟨hs'', hn'', ht''⟩ := device_frame_iff.mp ((device_write_device _ _).ok hwrite)
  exact ⟨hs''.trans (hs'.trans hs), by rw [hn'', hn', ← hn], by rw [ht'', ht', ← ht]⟩

theorem bus_write_takes (address : U16) (value : U8) :
    Takes transfers 1 not_ok (core_bus_write address value) := by
  refine ⟨fun h => ⟨1, rfl, ?_⟩, fun h => ?_⟩
  · obtain ⟨hs, hn, ht⟩ := bus_write_ok h
    exact ⟨hn, ht, steady_cycles hs⟩
  · have hslot : Triple (fun _ => True) (core_bus_write address value) (fun _ _ => True)
        (fun e _ => not_ok e) := by
      unfold core_bus_write
      refine Triple.bind (M := fun _ _ => True) ?_ fun _ =>
        Triple.bind (M := fun _ _ => True) (fun _ _ => trivial) fun _ =>
        Triple.bind (M := fun _ _ => True) ?_ fun _ => device_write_not_ok address value
      · exact bus_slot_unfailing.not_ok
      · exact (bus_trace_unfailing _ _ _).not_ok
    exact hslot.of_error trivial h

/-! ## The processor's side over a transfer -/

/-- What a transfer leaves alone. -/
abbrev bus_frame : Frame Console := Frame.same steady

theorem device_bus {α : Type} {x : NesM α} (hx : Respects device_frame x) :
    Respects bus_frame x := hx.mono fun _ _ h => (device_frame_iff.mp h).1

theorem bus_slot_bus : Respects bus_frame core_bus_slot :=
  ⟨fun m => (device_frame_iff.mp (bus_slot_device m)).1⟩

theorem bus_trace_bus (address : U16) (value : U8) (kind : TransferKind) :
    Respects bus_frame (core_bus_trace address value kind) := by
  unfold core_bus_trace
  refine .bind .of_get fun m => ?_
  by_cases hfull : 16 ≤ m.trace_count.toNat
  · rw [if_pos hfull]
    exact .of_pure _
  · rw [if_neg hfull]
    exact .bind (.of_of_option _ _) fun _ => .of_update fun _ => rfl

theorem read_done_bus (address : U16) (value : U8) :
    Respects bus_frame (bus_read_done address value) :=
  .bind (.of_update fun _ => rfl) fun _ => .bind (bus_trace_bus _ _ _) fun _ => .of_pure _

theorem bus_read_bus (address : U16) : Respects bus_frame (core_bus_read address) := by
  unfold core_bus_read
  refine .bind .of_get fun m => .ite ?_ ?_
  · exact .bind (device_bus (on_video_device _)) fun _ => .bind bus_slot_bus fun _ =>
      read_done_bus _ _
  · exact .bind bus_slot_bus fun _ => .bind (device_bus (device_read_device _)) fun _ =>
      read_done_bus _ _

theorem bus_write_bus (address : U16) (value : U8) :
    Respects bus_frame (core_bus_write address value) := by
  unfold core_bus_write
  exact .bind bus_slot_bus fun _ => .bind (.of_update fun _ => rfl) fun _ =>
    .bind (bus_trace_bus _ _ _) fun _ => device_bus (device_write_device _ _)

end Nxvm.Nes
