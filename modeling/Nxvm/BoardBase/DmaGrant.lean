/-
The cascade grant and the service it is for.

A service of the primary holds a channel of each chip, and only the clock that ends it at
the primary releases the secondary. A master clear of the primary ends it without that
clock; where no such clear comes while the grant is held, the secondary's cascade channel
is in service only while the primary serves, every service ends, and an idle pair grants
the next request.
-/
import Nxvm.BoardBase.DmaBus
import Nxvm.Chips.DmaSelect
import Nxvm.Lib.Progress

set_option autoImplicit false

namespace Nxvm.BoardBase

open Nxvm.Lib Nxvm.Lib.Register Nxvm.Chips Nxvm.Machine

/-! ## The grant -/

/-- The cascade channel of the secondary is in service only while the primary serves. -/
def Held (pair : DmaPair) : Prop :=
  pair.secondary.device.isr = some 0 → pair.primary.device.isr ≠ none

/-- Both controllers are enabled. -/
def BothEnabled (pair : DmaPair) : Prop :=
  is_set pair.primary.device.command command_ctrl = false ∧
    is_set pair.secondary.device.command command_ctrl = false

/-- Nothing is in service. -/
def Idle (pair : DmaPair) : Prop :=
  pair.primary.device.isr = none ∧ pair.secondary.device.isr = none

/-- Clocks until the bus is free, at most. The cascade goes with the primary. -/
def pair_left (pair : DmaPair) : ℕ :=
  service_left pair.primary.device +
    (if pair.secondary.device.isr = some 0 then 0 else service_left pair.secondary.device)

/-- Calls that change inputs leave the services alone. -/
theorem Held.inputs {pair pair' : DmaPair} (h : Held pair)
    (hinputs : ∀ side, InputsOnly (pair.device side) (pair'.device side)) : Held pair' := by
  have hprimary := (hinputs .primary).same_service.isr
  have hsecondary := (hinputs .secondary).same_service.isr
  unfold Held
  change pair'.secondary.device.isr = pair.secondary.device.isr at hsecondary
  change pair'.primary.device.isr = pair.primary.device.isr at hprimary
  rw [hprimary, hsecondary]
  exact h

theorem InputsOnly.service_left {dma dma' : Dma} (h : InputsOnly dma dma') :
    service_left dma' = service_left dma := by
  obtain ⟨status, flagEOP, rfl⟩ := h
  rfl

/-! ## Clocks of one chip -/

section Grant

variable {σ : Type} (devices : DmaDevices σ)

/-- The other side. -/
def other_side : DmaSide → DmaSide
  | .primary => .secondary
  | .secondary => .primary

/-- While one chip is clocked, only inputs of the other change. -/
theorem pair_bus_keeps_other (side : DmaSide) :
    KeepsTo (pair_bus devices side) fun before after : DmaPair × σ =>
      InputsOnly (before.1.device (other_side side)) (after.1.device (other_side side)) := by
  have hother (pair : DmaPair) (dma : Dma) :
      (pair.set_device side dma).device (other_side side) = pair.device (other_side side) := by
    cases side <;> rfl
  refine ⟨fun k => InputsOnly.refl _, fun h h' => h.trans h', fun kind channel address byte s => ?_,
    fun channel s => ?_⟩
  · have h (requests : List DmaRequest) :=
      requests_inputs requests (s.2.1.set_device side s.1) (other_side side)
    rw [hother] at h
    exact h _
  · have h (requests : List DmaRequest) :=
      requests_inputs requests (s.2.1.set_device side s.1) (other_side side)
    rw [hother] at h
    exact h _

/-- What a clock of one chip leaves of both. -/
theorem dma_bus_advance_spec (side : DmaSide) {s : DmaPair × σ} {channel : Fin 4}
    (h : (s.1.device side).isr = some channel) :
    ((dma_bus_advance devices side s).1.device side).command = (s.1.device side).command ∧
      (((dma_bus_advance devices side s).1.device side).isr = none ∨
        ((dma_bus_advance devices side s).1.device side).isr = some channel) ∧
      service_left ((dma_bus_advance devices side s).1.device side) <
        service_left (s.1.device side) ∧
      InputsOnly (s.1.device (other_side side))
        ((dma_bus_advance devices side s).1.device (other_side side)) := by
  have hother := (pair_bus_keeps_other devices side).dma_advance (s.1.device side, s)
  have hspec := dma_advance_service_left (pair_bus devices side) (s := (s.1.device side, s)) h
  unfold dma_bus_advance
  generalize dma_advance (pair_bus devices side) (s.1.device side, s) = after at hother hspec ⊢
  obtain ⟨dma, pair, rest⟩ := after
  dsimp only at hother hspec ⊢
  rw [DmaPair.device_set_device, if_pos rfl, DmaPair.device_set_device]
  have hne : other_side side ≠ side := by
    cases side <;> decide
  rw [if_neg hne]
  exact ⟨hspec.1, hspec.2.1, hspec.2.2, hother⟩

/-! ## Arbitration -/

/-- The commands are those of before. -/
structure SameCommands (pair pair' : DmaPair) : Prop where
  primary : pair'.primary.device.command = pair.primary.device.command
  secondary : pair'.secondary.device.command = pair.secondary.device.command

theorem SameCommands.both_enabled {pair pair' : DmaPair} (h : SameCommands pair pair')
    (henabled : BothEnabled pair) : BothEnabled pair' := by
  unfold BothEnabled
  rw [h.primary, h.secondary]
  exact henabled

/-- A line of arbitration is a request of the secondary, and the cascade one of the primary. -/
theorem arbitration_requests_line {pair : DmaPair} {i : Fin 4}
    (h : (arbitration_requests pair).getLsbD i.val = true) :
    (dma_pending_requests pair.secondary.device).getLsbD i.val = true ∧
      (i = 0 → dma_pending_requests pair.primary.device ≠ 0) := by
  have hown (j : Fin 4) : (0x0e : U8).getLsbD j.val = true → j ≠ 0 := by
    revert j
    decide
  unfold arbitration_requests at h
  dsimp only at h
  rw [BitVec.getLsbD_or, Bool.or_eq_true, BitVec.getLsbD_and, Bool.and_eq_true] at h
  rcases h with h | h
  · exact ⟨h.1, fun h0 => absurd h0 (hown i h.2)⟩
  · split_ifs at h with hfirst
    · rw [BitVec.getLsbD_and, Bool.and_eq_true] at h
      rw [Bool.and_eq_true] at hfirst
      exact ⟨h.1, fun _ => of_decide_eq_true hfirst.2⟩
    · exact nomatch BitVec.getLsbD_zero.symm.trans h

/-- A grant of a request: of a channel of the secondary, or through the cascade of a channel
of the primary. -/
structure Granted (pair pair' : DmaPair) (channel : Fin 4) : Prop where
  secondary : pair'.secondary.device.isr = some channel
  requested : (dma_pending_requests pair.secondary.device).getLsbD channel.val = true
  primary : channel = 0 → ∃ first : Fin 4, pair'.primary.device.isr = some first ∧
    (dma_pending_requests pair.primary.device).getLsbD first.val = true

/-- The selection of arbitration is granted. -/
theorem board_dma_arbitrate_selected {pair : DmaPair} {channel : Fin 4}
    (hselect : dma_select pair.secondary.device (arbitration_requests pair) = some channel) :
    Granted pair (board_dma_arbitrate pair) channel ∧
      SameCommands pair (board_dma_arbitrate pair) := by
  obtain ⟨hrequested, hprimary⟩ := arbitration_requests_line (dma_select_eq_some hselect)
  unfold board_dma_arbitrate
  rw [hselect]
  dsimp only
  generalize hgranted : pair.set_device .secondary
    (dma_grant pair.secondary.device channel (decide (channel = 0))) = granted
  have hsecondary : granted.secondary.device.isr = some channel := by
    rw [← hgranted]
    rfl
  have hcommands : SameCommands pair granted := by
    rw [← hgranted]
    exact ⟨rfl, rfl⟩
  have hsame : granted.primary.device = pair.primary.device := by
    rw [← hgranted]
    rfl
  split_ifs with hcascade
  · -- the cascade is requested for a request of the primary only
    obtain ⟨first, hfirst⟩ := dma_pending_requests_select (hprimary hcascade)
    have hserved : grant_primary granted (dma_get_signals pair.primary.device).requests =
        granted.set_device .primary (dma_grant granted.primary.device first false) := by
      unfold grant_primary
      rw [show dma_select granted.primary.device _ = some first by rw [hsame]; exact hfirst]
    rw [hserved]
    refine ⟨⟨hsecondary, hrequested, fun _ => ⟨first, rfl, dma_select_eq_some hfirst⟩⟩, ?_⟩
    exact ⟨hcommands.primary, hcommands.secondary⟩
  · exact ⟨⟨hsecondary, hrequested, fun h => absurd h hcascade⟩, hcommands⟩

/-- Arbitration grants the cascade only together with a channel of the primary. -/
theorem board_dma_arbitrate_spec {pair : DmaPair} (hidle : pair.secondary.device.isr = none) :
    Held (board_dma_arbitrate pair) ∧ SameCommands pair (board_dma_arbitrate pair) := by
  cases hselect : dma_select pair.secondary.device (arbitration_requests pair) with
  | none =>
    have hstays : board_dma_arbitrate pair = pair := by
      rw [board_dma_arbitrate, hselect]
    rw [hstays]
    exact ⟨fun hsecondary => (nomatch hidle.symm.trans hsecondary), rfl, rfl⟩
  | some channel =>
    obtain ⟨hgranted, hcommands⟩ := board_dma_arbitrate_selected hselect
    refine ⟨fun hsecondary => ?_, hcommands⟩
    obtain ⟨first, hfirst, -⟩ :=
      hgranted.primary (Option.some.inj (hgranted.secondary.symm.trans hsecondary))
    rw [hfirst]
    exact Option.some_ne_none first

/-- A pending request of an idle pair is a line of arbitration. -/
theorem arbitration_requests_pending {pair : DmaPair} (henabled : BothEnabled pair)
    (hidle : Idle pair) (hpending : board_dma_has_pending_request pair = true) :
    ∃ i : Fin 8, i.val < 4 ∧ (arbitration_requests pair).getLsbD i.val = true := by
  have hlow (value : U8) (hvalue : value = 0x0e ∨ value = 1) (i : Fin 8)
      (hi : value.getLsbD i.val = true) : i.val < 4 := by
    revert i
    rcases hvalue with rfl | rfl <;> decide
  simp only [board_dma_has_pending_request, dma_get_signals, henabled.1, henabled.2, hidle.1,
    hidle.2, Bool.not_false, Bool.true_and, Option.isSome_none, Bool.false_or, Bool.or_eq_true,
    Bool.and_eq_true, decide_eq_true_eq] at hpending
  unfold arbitration_requests
  dsimp only
  rcases hpending with hown | ⟨hfirst, hcascade⟩
  · obtain ⟨i, hi⟩ := ne_zero_iff_lines.mp hown
    have hmask := hi
    rw [BitVec.getLsbD_and, Bool.and_eq_true] at hmask
    refine ⟨i, hlow _ (Or.inl rfl) i hmask.2, ?_⟩
    rw [BitVec.getLsbD_or]
    exact Bool.or_eq_true_iff.mpr (Or.inl hi)
  · obtain ⟨i, hi⟩ := ne_zero_iff_lines.mp hcascade
    have hmask := hi
    rw [BitVec.getLsbD_and, Bool.and_eq_true] at hmask
    have hsignal : ((dma_get_signals pair.primary.device).enabled &&
        decide ((dma_get_signals pair.primary.device).requests ≠ 0)) = true := by
      have hfirst' : (dma_get_signals pair.primary.device).enabled = true := by
        rw [dma_get_signals, henabled.1]
        rfl
      exact Bool.and_eq_true_iff.mpr ⟨hfirst', decide_eq_true hfirst⟩
    refine ⟨i, hlow _ (Or.inr rfl) i hmask.2, ?_⟩
    rw [BitVec.getLsbD_or, if_pos hsignal]
    exact Bool.or_eq_true_iff.mpr (Or.inr hi)

/-- A pending request of an idle pair is granted. -/
theorem board_dma_arbitrate_grants {pair : DmaPair} (henabled : BothEnabled pair)
    (hidle : Idle pair) (hpending : board_dma_has_pending_request pair = true) :
    ∃ channel, Granted pair (board_dma_arbitrate pair) channel := by
  obtain ⟨i, hi, hline⟩ := arbitration_requests_pending henabled hidle hpending
  obtain ⟨channel, hselect⟩ := Option.isSome_iff_exists.mp
    (dma_select_isSome (masked_ne_zero hi hline))
  exact ⟨channel, (board_dma_arbitrate_selected hselect).1⟩

/-! ## One clock of the pair -/

/-- A clock of the pair: the grant stays with a service, the commands stay, and an enabled
pair that is not idle comes nearer to being idle. -/
structure Clocked (pair pair' : DmaPair) : Prop where
  held : Held pair'
  commands : SameCommands pair pair'
  less : BothEnabled pair → ¬ Idle pair → pair_left pair' < pair_left pair

theorem pair_left_of_cascade {pair : DmaPair} (h : pair.secondary.device.isr = some 0) :
    pair_left pair = service_left pair.primary.device := by
  rw [pair_left, if_pos h, Nat.add_zero]

theorem pair_left_of_own {pair : DmaPair} (h : pair.secondary.device.isr ≠ some 0) :
    pair_left pair =
      service_left pair.primary.device + service_left pair.secondary.device := by
  rw [pair_left, if_neg h]

/-- A clock of the secondary in a service of its own. -/
theorem clocked_secondary {s : DmaPair × σ} {channel : Fin 4}
    (h : s.1.secondary.device.isr = some channel) (hown : channel ≠ 0) :
    Clocked s.1 (dma_bus_advance devices .secondary s).1 := by
  obtain ⟨hcommand, hisr, hless, hother⟩ :=
    dma_bus_advance_spec devices .secondary (s := s) h
  change InputsOnly s.1.primary.device
    (dma_bus_advance devices .secondary s).1.primary.device at hother
  change (dma_bus_advance devices .secondary s).1.secondary.device.isr = none ∨
    (dma_bus_advance devices .secondary s).1.secondary.device.isr = some channel at hisr
  have hnot : (dma_bus_advance devices .secondary s).1.secondary.device.isr ≠ some 0 := by
    rcases hisr with hisr | hisr <;> rw [hisr]
    · exact fun h0 => nomatch h0
    · exact fun h0 => hown (Option.some.inj h0)
  refine ⟨fun h0 => absurd h0 hnot, ⟨hother.same_service.command, hcommand⟩, fun _ _ => ?_⟩
  rw [pair_left_of_own hnot, pair_left_of_own (by rw [h]; exact fun h0 => hown (Option.some.inj h0)),
    InputsOnly.service_left hother]
  exact Nat.add_lt_add_left hless _

/-- What a clock of the primary leaves of the secondary. -/
theorem clock_primary_spec {s : DmaPair × σ} {channel : Fin 4}
    (h : s.1.primary.device.isr = some channel) :
    SameCommands s.1 (dma_bus_advance devices .primary s).1 ∧
      service_left (dma_bus_advance devices .primary s).1.primary.device <
        service_left s.1.primary.device ∧
      InputsOnly s.1.secondary.device
        (dma_bus_advance devices .primary s).1.secondary.device := by
  obtain ⟨hcommand, -, hless, hother⟩ :=
    dma_bus_advance_spec devices .primary (s := s) h
  change InputsOnly s.1.secondary.device
    (dma_bus_advance devices .primary s).1.secondary.device at hother
  exact ⟨⟨hcommand, hother.same_service.command⟩, hless, hother⟩

theorem board_dma_advance_one_clocked {s : DmaPair × σ} (hheld : Held s.1) :
    Clocked s.1 (board_dma_advance_one devices s).1 := by
  -- nothing happens while a controller that would have to move is disabled
  have hstay (hdisabled : ¬ BothEnabled s.1) : Clocked s.1 s.1 :=
    ⟨hheld, ⟨rfl, rfl⟩, fun henabled => absurd henabled hdisabled⟩
  have hgrant (hidle : s.1.secondary.device.isr = none) (hnone : BothEnabled s.1 → Idle s.1) :
      Clocked s.1 (board_dma_arbitrate s.1) := by
    have hspec := board_dma_arbitrate_spec hidle
    exact ⟨hspec.1, hspec.2, fun henabled hbusy => absurd (hnone henabled) hbusy⟩
  unfold board_dma_advance_one
  dsimp only
  by_cases hsecond : (dma_get_signals s.1.secondary.device).enabled = true
  case neg =>
    rw [if_pos (by rw [Bool.not_eq_true _ |>.mp hsecond]; rfl)]
    refine hstay fun henabled => hsecond ?_
    rw [dma_get_signals, henabled.2]
    rfl
  rw [if_neg (by rw [hsecond]; decide)]
  cases hactive : (dma_get_signals s.1.secondary.device).active_channel with
  | some channel =>
    change s.1.secondary.device.isr = some channel at hactive
    dsimp only
    by_cases hcascade : channel = 0
    · subst hcascade
      rw [if_neg (not_not.mpr rfl)]
      obtain ⟨first, hserving⟩ := Option.ne_none_iff_exists'.mp (hheld hactive)
      by_cases hfirst : ((dma_get_signals s.1.primary.device).enabled &&
          (dma_get_signals s.1.primary.device).active_channel.isSome) = true
      case neg =>
        rw [if_neg hfirst]
        refine hstay fun henabled => hfirst ?_
        rw [dma_get_signals, henabled.1, hserving]
        rfl
      obtain ⟨hcommands, hless, hother⟩ := clock_primary_spec devices hserving
      rw [if_pos hfirst]
      by_cases hended : (dma_get_signals
          (dma_bus_advance devices .primary s).1.primary.device).active_channel = none
      · -- the service has ended, and the cascade is released with it
        rw [if_pos hended]
        have hreleased : ((dma_bus_advance devices .primary s).1.set_device .secondary
            (dma_release (dma_bus_advance devices .primary s).1.secondary.device)
            ).secondary.device.isr = none := rfl
        constructor
        case held => exact fun h0 => nomatch hreleased.symm.trans h0
        case commands => exact ⟨hcommands.primary, hcommands.secondary⟩
        case less =>
          intro _ _
          rw [pair_left_of_cascade hactive,
            pair_left_of_own fun h0 => nomatch hreleased.symm.trans h0]
          exact hless
      · rw [if_neg hended]
        have hcascade : (dma_bus_advance devices .primary s).1.secondary.device.isr = some 0 :=
          hother.same_service.isr.trans hactive
        refine ⟨fun _ => hended, hcommands, fun _ _ => ?_⟩
        rw [pair_left_of_cascade hactive, pair_left_of_cascade hcascade]
        exact hless
    · rw [if_pos hcascade]
      exact clocked_secondary devices hactive hcascade
  | none =>
    change s.1.secondary.device.isr = none at hactive
    dsimp only
    by_cases hfirst : ((dma_get_signals s.1.primary.device).enabled &&
        (dma_get_signals s.1.primary.device).active_channel.isSome) = true
    case neg =>
      rw [if_neg hfirst]
      refine hgrant hactive fun henabled => ⟨?_, hactive⟩
      rw [dma_get_signals, henabled.1, Bool.not_false, Bool.true_and,
        Option.isSome_iff_ne_none, not_not] at hfirst
      exact hfirst
    have hfirst' := hfirst
    rw [Bool.and_eq_true] at hfirst'
    obtain ⟨first, hserving⟩ := Option.isSome_iff_exists.mp hfirst'.2
    obtain ⟨hcommands, hless, hother⟩ := clock_primary_spec devices hserving
    have hnone : (dma_bus_advance devices .primary s).1.secondary.device.isr = none :=
      hother.same_service.isr.trans hactive
    rw [if_pos hfirst]
    refine ⟨fun h0 => ?_, hcommands, fun _ _ => ?_⟩
    · rw [hnone] at h0
      exact nomatch h0
    · have hbefore : s.1.secondary.device.isr ≠ some 0 := fun h0 => nomatch hactive.symm.trans h0
      have hafter : (dma_bus_advance devices .primary s).1.secondary.device.isr ≠ some 0 :=
        fun h0 => nomatch hnone.symm.trans h0
      rw [pair_left_of_own hbefore, pair_left_of_own hafter, InputsOnly.service_left hother]
      exact Nat.add_lt_add_right hless _

end Grant

end Nxvm.BoardBase
