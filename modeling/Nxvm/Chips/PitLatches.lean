/-
The latches of the interval timer (`pit.c`).

A counter is read a byte at a time, through three things that different commands move: the
latched count, the latched status and the flip-flop that says which byte is next. What they
hold together is a port: a status that waits, before the bytes of a latched count that are not
read yet. Everything but reads, latch commands and control words leaves the port alone.
-/
import Nxvm.Chips.PitSound

set_option autoImplicit false

namespace Nxvm.Chips

open Nxvm.Lib Nxvm.Lib.Register Nxvm.Machine

/-- The bytes of a count in the order that a control word programs. -/
def programmed_bytes (cw : U8) (count : U16) : List U8 :=
  match vpit_get_cw_rw cw with
  | 1 => [count.setWidth 8]
  | 2 => [(count >>> 8).setWidth 8]
  | 3 => [count.setWidth 8, (count >>> 8).setWidth 8]
  | _ => []

namespace PitCounter

variable {personality : PitPersonality} {counter : PitCounter}

/-! ## The port of a counter -/

/-- What the reads of a counter go through. -/
structure Port where
  cw : U8
  flagLatch : Bool
  latch : U16
  flagRead : PitStatusRw
  flagStatusLatch : Bool
  status_latch : U8
  deriving DecidableEq

def port (counter : PitCounter) : Port :=
  { cw := counter.cw, flagLatch := counter.flagLatch, latch := counter.latch
    flagRead := counter.flagRead, flagStatusLatch := counter.flagStatusLatch
    status_latch := counter.status_latch }

/-- The count that is counted, as it is read. -/
def live_count (counter : PitCounter) : U16 := pit_encode_count counter.cw counter.remaining

/-- The bytes of a latched count that are not read yet. -/
def Port.held (port : Port) : List U8 :=
  if port.flagLatch then
    (programmed_bytes port.cw port.latch).drop
      (if vpit_get_cw_rw port.cw = 3 ∧ port.flagRead = .msb then 1 else 0)
  else []

/-- No byte of a count is half read, unless a count is latched. -/
def Port.Rested (port : Port) : Prop := port.flagLatch = false → port.flagRead = .ready

/-! ## What leaves the port alone -/

theorem port_set_output_level (counter : PitCounter) (asserted : Bool) :
    (set_output_level counter asserted).port = counter.port := by
  rw [set_output_level_eq]
  rfl

theorem port_start_count (personality : PitPersonality) (counter : PitCounter) :
    (start_count personality counter).port = counter.port := by
  rw [start_count]
  split <;> rfl

theorem port_count_down (counter : PitCounter) : (count_down counter).port = counter.port := by
  simp only [count_down]
  split
  · exact port_set_output_level _ true
  · rfl

theorem port_tick_mode0 (personality : PitPersonality) (counter : PitCounter) :
    (tick_mode0 personality counter).port = counter.port := by
  rw [tick_mode0]
  split
  · rfl
  · split
    · rfl
    · exact port_count_down counter

theorem port_tick_mode1 (personality : PitPersonality) (counter : PitCounter) :
    (tick_mode1 personality counter).port = counter.port := by
  rw [tick_mode1]
  split
  · rw [port_set_output_level]
    exact port_start_count personality _
  · split
    · rfl
    · exact port_count_down counter

theorem port_tick_mode2 (personality : PitPersonality) (counter : PitCounter) :
    (tick_mode2 personality counter).port = counter.port := by
  simp only [tick_mode2]
  split
  · rfl
  · split
    · rfl
    · split
      · rfl
      · split
        · refine (port_set_output_level _ true).trans ?_
          split
          · exact port_start_count personality _
          · exact port_start_count personality _
        · split
          · exact port_set_output_level _ false
          · rfl

theorem port_mode3_half (was_output : Bool) (counter : PitCounter) :
    (mode3_half was_output counter).port = counter.port := by
  rw [mode3_half]
  split
  · split
    · rfl
    · exact port_set_output_level _ false
  · exact port_set_output_level _ true

theorem port_mode3_turn (personality : PitPersonality) (counter : PitCounter) :
    (mode3_turn personality counter).port = counter.port := by
  refine (port_mode3_half _ _).trans ?_
  split <;> rfl

theorem port_tick_mode3 (personality : PitPersonality) (counter : PitCounter) :
    (tick_mode3 personality counter).port = counter.port := by
  simp only [tick_mode3]
  split
  · rfl
  · split
    · rfl
    · split
      · rfl
      · split
        · exact port_mode3_turn personality _
        · rfl

theorem port_tick_mode4_or_5 (personality : PitPersonality) (counter : PitCounter) :
    (tick_mode4_or_5 personality counter).port = counter.port := by
  simp only [tick_mode4_or_5]
  split
  · exact port_set_output_level counter true
  · split
    · refine (port_set_output_level _ true).trans ?_
      split <;> rfl
    · split
      · rfl
      · split
        · rfl
        · split
          · refine (port_set_output_level _ true).trans ?_
            split <;> rfl
          · split
            · exact port_set_output_level _ false
            · rfl

theorem port_tick (personality : PitPersonality) (counter : PitCounter) :
    (tick personality counter).port = counter.port := by
  rw [tick]
  split
  · rfl
  · split
    · rfl
    · split
      · exact port_tick_mode0 personality counter
      · exact port_tick_mode1 personality counter
      · exact port_tick_mode2 personality counter
      · exact port_tick_mode3 personality counter
      · exact port_tick_mode4_or_5 personality counter
      · exact port_tick_mode4_or_5 personality counter

theorem port_stop_mode0 (counter : PitCounter) : (stop_mode0 counter).port = counter.port := by
  rw [stop_mode0]
  split
  · exact port_set_output_level _ false
  · rfl

theorem port_write_counter (counter : PitCounter) (value : U8) :
    (write_counter counter value).port = counter.port := by
  rw [write_counter]
  split
  · exact port_stop_mode0 _
  · exact port_stop_mode0 _
  · split
    · exact port_stop_mode0 _
    · exact port_stop_mode0 _
  · rfl

theorem port_set_gate (counter : PitCounter) (asserted : Bool) :
    (set_gate counter asserted).port = counter.port := by
  simp only [set_gate]
  split
  · rfl
  · split
    · split
      · exact port_set_output_level _ true
      · rfl
    · split
      · split <;> rfl
      · split
        · split <;> rfl
        · rfl

/-! ## The latch commands -/

theorem port_latch_count (counter : PitCounter) :
    (latch_count counter).port =
      if counter.flagLatch then counter.port
      else
        { counter.port with
          flagLatch := true, latch := live_count counter
          flagRead := read_start counter.cw } := by
  rw [latch_count]
  split <;> rfl

theorem port_latch_status (counter : PitCounter) :
    (latch_status counter).port =
      if counter.flagStatusLatch then counter.port
      else
        { counter.port with
          status_latch := capture_status counter, flagStatusLatch := true } := by
  rw [latch_status]
  split <;> rfl

/-- A latched count is held whole. -/
theorem held_latch_count (h : counter.flagLatch = false) :
    (latch_count counter).port.held = programmed_bytes counter.cw (live_count counter) := by
  have hstart : ¬ (vpit_get_cw_rw counter.cw = 3 ∧ read_start counter.cw = .msb) := by
    intro hmsb
    rw [read_start, if_neg (by omega)] at hmsb
    cases hmsb.2
  rw [port_latch_count, if_neg (by rw [h]; exact Bool.false_ne_true), Port.held, if_pos rfl]
  exact congrArg (List.drop · (programmed_bytes counter.cw (live_count counter))) (if_neg hstart)

theorem latch_count_latched (h : counter.flagLatch = true) : latch_count counter = counter :=
  if_pos h

theorem latch_status_latched (h : counter.flagStatusLatch = true) :
    latch_status counter = counter :=
  if_pos h

/-- A latch of the status is no read of the count. -/
theorem held_latch_status (counter : PitCounter) :
    (latch_status counter).port.held = counter.port.held := by
  rw [port_latch_status]
  split <;> rfl

/-! ## The reads -/

/-- A status that waits is read first, and nothing else moves. -/
theorem read_counter_status (h : counter.flagStatusLatch = true) (inout_value : U8) :
    read_counter counter inout_value =
      (counter.status_latch, { counter with flagStatusLatch := false }) :=
  if_pos h

/-- What is held of a latched count: all of it, or its second byte. -/
theorem held_latched (h : counter.flagLatch = true) :
    counter.port.held =
      (programmed_bytes counter.cw counter.latch).drop
        (if vpit_get_cw_rw counter.cw = 3 ∧ counter.flagRead = .msb then 1 else 0) :=
  if_pos h

/-- A read of a count gives the first byte that is held, and leaves the others. -/
theorem read_counter_held {byte : U8} {bytes : List U8} (hstatus : counter.flagStatusLatch = false)
    (h : counter.port.held = byte :: bytes) (inout_value : U8) :
    (read_counter counter inout_value).1 = byte ∧
      (read_counter counter inout_value).2.port.held = bytes ∧
      (read_counter counter inout_value).2.cw = counter.cw ∧
      (bytes = [] → (read_counter counter inout_value).2.port.Rested) := by
  have hlatch : counter.flagLatch = true := by
    by_contra hlatch
    rw [port, Port.held, if_neg hlatch] at h
    cases h
  rw [held_latched hlatch] at h
  simp only [read_counter, hstatus, hlatch, if_true, Bool.false_eq_true, if_false]
  split
  · rename_i hrw
    rw [if_neg (by omega), List.drop_zero, programmed_bytes, hrw] at h
    injection h with hbyte hbytes
    exact ⟨hbyte, hbytes, rfl, fun _ _ => rfl⟩
  · rename_i hrw
    rw [if_neg (by omega), List.drop_zero, programmed_bytes, hrw] at h
    injection h with hbyte hbytes
    exact ⟨hbyte, hbytes, rfl, fun _ _ => rfl⟩
  · rename_i hrw
    by_cases hmsb : counter.flagRead = .msb
    · rw [if_pos ⟨hrw, hmsb⟩, programmed_bytes, hrw] at h
      injection h with hbyte hbytes
      rw [if_pos hmsb]
      exact ⟨hbyte, hbytes, rfl, fun _ _ => rfl⟩
    · rw [if_neg (fun hboth => hmsb hboth.2), List.drop_zero, programmed_bytes, hrw] at h
      injection h with hbyte hbytes
      rw [if_neg hmsb]
      refine ⟨hbyte, ?_, rfl, fun hnil => ?_⟩
      · rw [held_latched rfl, if_pos ⟨hrw, rfl⟩, programmed_bytes, hrw]
        exact hbytes
      · rw [hnil] at hbytes
        cases hbytes
  · rename_i h1 h2 h3
    have hnone : programmed_bytes counter.cw counter.latch = [] := by
      rw [programmed_bytes]
      split
      · exact absurd ‹_› h1
      · exact absurd ‹_› h2
      · exact absurd ‹_› h3
      · rfl
    rw [hnone, List.drop_nil] at h
    cases h

/-- A read with no latch gives the first programmed byte of the live count. -/
theorem read_counter_live (hstatus : counter.flagStatusLatch = false)
    (hlatch : counter.flagLatch = false) (hrested : counter.flagRead = .ready)
    (inout_value : U8) {byte : U8}
    (h : byte ∈ (programmed_bytes counter.cw (live_count counter)).head?) :
    (read_counter counter inout_value).1 = byte := by
  simp only [read_counter, hstatus, hlatch, Bool.false_eq_true, if_false, sync_count, hrested,
    reduceCtorEq]
  rw [programmed_bytes] at h
  split
  · rename_i hrw
    rw [hrw] at h
    exact Option.some.inj h
  · rename_i hrw
    rw [hrw] at h
    exact Option.some.inj h
  · rename_i hrw
    rw [hrw] at h
    exact Option.some.inj h
  · rename_i h1 h2 h3
    split at h
    · exact absurd ‹_› h1
    · exact absurd ‹_› h2
    · exact absurd ‹_› h3
    · cases h

end PitCounter

/-! ## The calls, seen from one counter -/

section Calls

variable (personality : PitPersonality) (id : Fin 3)

/-- A call that starts a counter anew: a control word of its own, or a reset. -/
def controls : PitCall → Bool
  | .write_register selector value =>
    selector.toNat = 3 && vpit_get_cw_sc value = id.val && vpit_get_cw_rw value ≠ 0
  | .reset => true
  | _ => false

/-- A command that latches the count of a counter: its own, or a read-back of the 8254. -/
def latches_count : PitCall → Bool
  | .write_register selector value =>
    selector.toNat = 3 &&
      (vpit_get_cw_sc value = id.val && vpit_get_cw_rw value = 0 ||
        (vpit_get_cw_sc value = 3 && personality = .personality_8254 &&
          !is_set value (vpit_rb_cnt id) && !is_set value vpit_rb_count))
  | _ => false

/-- A command that latches the status of a counter: a read-back of the 8254. -/
def latches_status : PitCall → Bool
  | .write_register selector value =>
    selector.toNat = 3 && vpit_get_cw_sc value = 3 && personality = .personality_8254 &&
      !is_set value (vpit_rb_cnt id) && !is_set value vpit_rb_status
  | _ => false

/-- What a call reads of a counter: whether a status was waiting, and the byte. -/
def pit_returned (pit : Pit) : PitCall → Option (Bool × U8)
  | .read_counter selector inout_value =>
    if selector.toNat = id.val then
      some ((pit.counters id).flagStatusLatch, (pit_read_counter pit selector inout_value).2.1)
    else none
  | _ => none

/-- What a run of calls reads of a counter, in order. -/
def pit_returns : Pit → List PitCall → List (Bool × U8)
  | _, [] => []
  | pit, call :: calls =>
    (pit_returned id pit call).toList ++ pit_returns (pit_call pit call) calls

end Calls

/-- The bytes of counts among what was read. -/
def count_bytes (reads : List (Bool × U8)) : List U8 :=
  (reads.filter fun read => !read.1).map Prod.snd

section Runs

variable {id : Fin 3} {pit : Pit}

theorem pit_select_of_lt {selector : U8} (h : selector.toNat < 3) :
    pit_select selector = some ⟨selector.toNat, h⟩ := dif_pos h

theorem pit_select_none {selector : U8} (h : ¬ selector.toNat < 3) : pit_select selector = none :=
  dif_neg h

theorem controls_write_register (selector value : U8) :
    controls id (.write_register selector value) =
      (decide (selector.toNat = 3) && decide (vpit_get_cw_sc value = id.val) &&
        decide (vpit_get_cw_rw value ≠ 0)) := rfl

/-- What latch commands make of a counter. -/
def latched (personality : PitPersonality) (id : Fin 3) (call : PitCall)
    (counter : PitCounter) : PitCounter :=
  let counter := if latches_count personality id call then counter.latch_count else counter
  if latches_status personality id call then counter.latch_status else counter

theorem vpit_get_cw_sc_lt (cw : U8) : vpit_get_cw_sc cw < 4 := by
  rw [vpit_get_cw_sc, BitVec.toNat_ushiftRight, Nat.shiftRight_eq_div_pow]
  have hbyte := (cw &&& vpit_cw_sc).isLt
  omega

/-- A read-back command of the 8254 latches what it says. -/
theorem latched_read_back {selector value : U8} (hselector : selector.toNat = 3)
    (hsc : vpit_get_cw_sc value = 3) (counter : PitCounter) :
    latched .personality_8254 id (.write_register selector value) counter =
      pit_read_back value id counter := by
  have hother : ¬ 3 = id.val := Nat.ne_of_gt id.isLt
  simp only [latched, latches_count, latches_status, pit_read_back, hselector, hsc, hother,
    decide_true, decide_false, Bool.false_and, Bool.false_or, Bool.true_and]
  generalize is_set value (vpit_rb_cnt id) = selected
  generalize is_set value vpit_rb_count = count
  generalize is_set value vpit_rb_status = status
  cases selected with
  | true => rfl
  | false => cases count <;> cases status <;> rfl

/-- The 8253 has no read-back command. -/
theorem latched_8253 {selector value : U8} (hsc : vpit_get_cw_sc value = 3)
    {personality : PitPersonality} (h : personality ≠ .personality_8254) (counter : PitCounter) :
    latched personality id (.write_register selector value) counter = counter := by
  have hother : ¬ 3 = id.val := Nat.ne_of_gt id.isLt
  simp only [latched, latches_count, latches_status, hsc, hother, h, decide_false,
    Bool.false_and, Bool.and_false, Bool.or_false, Bool.false_eq_true, if_false]

/-- A byte for one counter latches the count of that counter alone. -/
theorem latched_selected {personality : PitPersonality} {selector value : U8}
    (hselector : selector.toNat = 3) (hsc : vpit_get_cw_sc value < 3) (counter : PitCounter) :
    latched personality id (.write_register selector value) counter =
      if vpit_get_cw_sc value = id.val ∧ vpit_get_cw_rw value = 0 then counter.latch_count
      else counter := by
  have hrest : vpit_get_cw_sc value ≠ 3 := Nat.ne_of_lt hsc
  simp only [latched, latches_count, latches_status, hselector, hrest, decide_true, decide_false,
    Bool.true_and, Bool.false_and, Bool.or_false, Bool.false_eq_true, if_false,
    Bool.and_eq_true, decide_eq_true_eq]

/-- A control byte that is no control word of a counter latches what it says. -/
theorem pit_write_control_latched {selector value : U8} (hselector : selector.toNat = 3)
    (h : controls id (.write_register selector value) = false) :
    (pit_write_control pit value).counters id =
      latched pit.personality id (.write_register selector value) (pit.counters id) := by
  rw [pit_write_control]
  by_cases hsc : vpit_get_cw_sc value < 3
  · -- A byte for one counter: its own latch command, or one for another counter.
    rw [dif_pos hsc, latched_selected hselector hsc]
    dsimp only
    by_cases hid : vpit_get_cw_sc value = id.val
    · have hfin : (⟨vpit_get_cw_sc value, hsc⟩ : Fin 3) = id := Fin.ext hid
      have hrw : vpit_get_cw_rw value = 0 := by
        rw [controls_write_register, decide_eq_true hselector, decide_eq_true hid,
          Bool.true_and, Bool.true_and] at h
        exact not_not.mp (of_decide_eq_false h)
      rw [if_pos hrw, if_pos ⟨hid, hrw⟩, pit_change_counters, hfin, if_pos rfl]
    · have hfin : id ≠ (⟨vpit_get_cw_sc value, hsc⟩ : Fin 3) :=
        fun heq => hid (congrArg Fin.val heq).symm
      have hneither : ¬ (vpit_get_cw_sc value = id.val ∧ vpit_get_cw_rw value = 0) :=
        fun hboth => hid hboth.1
      rw [if_neg hneither]
      split <;> rw [pit_change_counters, if_neg hfin]
  · -- A read-back command, which the 8253 does not know.
    have hthree : vpit_get_cw_sc value = 3 := by
      have hlt := vpit_get_cw_sc_lt value
      omega
    rw [dif_neg hsc]
    by_cases hpersonality : pit.personality = .personality_8254
    · rw [if_neg (not_not.mpr hpersonality), hpersonality, latched_read_back hselector hthree]
    · rw [if_pos hpersonality, latched_8253 hthree hpersonality]

/-- A change that leaves the port of a counter leaves every port. -/
theorem port_pit_change {change : PitCounter → PitCounter} (sel : Fin 3)
    (h : ∀ counter, (change counter).port = counter.port) :
    ((pit_change pit sel change).counters id).port = (pit.counters id).port := by
  rw [pit_change_counters]
  split
  · rename_i hid
    rw [h, hid]
  · rfl

/-- A call that reads nothing of a counter and does not start it anew leaves its port, but for
the latches. -/
theorem pit_call_port {call : PitCall} (hcontrols : controls id call = false)
    (hreads : pit_returned id pit call = none) :
    ((pit_call pit call).counters id).port =
      (latched pit.personality id call (pit.counters id)).port := by
  cases call with
  | write_register selector value =>
    rw [pit_call, pit_write_register]
    by_cases hthree : selector.toNat = 3
    · rw [if_neg (by omega), pit_select_none (by omega)]
      exact congrArg PitCounter.port (pit_write_control_latched hthree hcontrols)
    · -- A byte of a count, or no register at all.
      have hlatched : latched pit.personality id (.write_register selector value)
          (pit.counters id) = pit.counters id := by
        simp [latched, latches_count, latches_status, hthree]
      rw [hlatched]
      split
      · rfl
      · rw [pit_select_of_lt (by omega)]
        exact port_pit_change _ fun counter => PitCounter.port_write_counter counter value
  | read_counter selector inout_value =>
    have hother : ¬ selector.toNat = id.val := by
      intro hid
      rw [pit_returned, if_pos hid] at hreads
      cases hreads
    rw [pit_call, pit_read_counter]
    by_cases hlt : selector.toNat < 3
    · rw [pit_select_of_lt hlt, pit_change_counters, if_neg]
      · rfl
      · intro hid
        exact hother (congrArg Fin.val hid).symm
    · rw [pit_select_none hlt]
      rfl
  | set_output selector provider =>
    rw [pit_call, pit_set_output]
    split
    · rfl
    · exact port_pit_change _ fun _ => rfl
  | set_gate selector asserted =>
    rw [pit_call, pit_set_gate]
    split
    · rfl
    · exact port_pit_change _ fun counter => PitCounter.port_set_gate counter asserted
  | tick => exact PitCounter.port_tick pit.personality (pit.counters id)
  | reset => cases hcontrols

/-- A call that reads a counter. -/
theorem pit_call_reads {call : PitCall} {read : Bool × U8}
    (hreads : pit_returned id pit call = some read) :
    ∃ inout_value, read = ((pit.counters id).flagStatusLatch,
        ((pit.counters id).read_counter inout_value).1) ∧
      (pit_call pit call).counters id = ((pit.counters id).read_counter inout_value).2 := by
  cases call with
  | read_counter selector inout_value =>
    rw [pit_returned] at hreads
    split at hreads
    · rename_i hid
      have hlt : selector.toNat < 3 := by omega
      have hfin : (⟨selector.toNat, hlt⟩ : Fin 3) = id := Fin.ext hid
      refine ⟨inout_value, ?_, ?_⟩
      · rw [← Option.some.inj hreads, pit_read_counter, pit_select_of_lt hlt, hfin]
      · rw [pit_call, pit_read_counter, pit_select_of_lt hlt, hfin, pit_change_counters,
          if_pos rfl]
    · cases hreads
  | _ => cases hreads

theorem pit_call_personality (pit : Pit) (call : PitCall) :
    (pit_call pit call).personality = pit.personality := by
  cases call with
  | write_register selector value =>
    rw [pit_call, pit_write_register, pit_write_control]
    split
    · rfl
    · split
      · dsimp only
        split
        · split <;> rfl
        · split <;> rfl
      · rfl
  | read_counter selector inout_value =>
    rw [pit_call, pit_read_counter]
    split <;> rfl
  | set_output selector provider =>
    rw [pit_call, pit_set_output]
    split <;> rfl
  | set_gate selector asserted =>
    rw [pit_call, pit_set_gate]
    split <;> rfl
  | tick => rfl
  | reset => rfl

/-! ## What a call leaves of a port -/

theorem count_bytes_status (byte : U8) (reads : List (Bool × U8)) :
    count_bytes ((true, byte) :: reads) = count_bytes reads := rfl

theorem count_bytes_count (byte : U8) (reads : List (Bool × U8)) :
    count_bytes ((false, byte) :: reads) = byte :: count_bytes reads := rfl

/-- A latch command leaves a count that is held. -/
theorem held_latched_call {counter : PitCounter} (personality : PitPersonality) (call : PitCall)
    {byte : U8} {bytes : List U8} (h : counter.port.held = byte :: bytes) :
    (latched personality id call counter).port.held = byte :: bytes := by
  have hlatch : counter.flagLatch = true := by
    by_contra hlatch
    rw [PitCounter.port, PitCounter.Port.held, if_neg hlatch] at h
    cases h
  rw [latched, PitCounter.latch_count_latched hlatch, ite_self]
  split
  · rw [PitCounter.held_latch_status, h]
  · exact h

/-- What both latches keep, a latch command keeps. -/
theorem latched_keeps {p : PitCounter → Prop} {counter : PitCounter}
    (hcount : ∀ counter, p counter → p counter.latch_count)
    (hstatus : ∀ counter, p counter → p counter.latch_status)
    (personality : PitPersonality) (call : PitCall) (h : p counter) :
    p (latched personality id call counter) := by
  have hmiddle : p (if latches_count personality id call then counter.latch_count
      else counter) := by
    split
    · exact hcount counter h
    · exact h
  rw [latched]
  split
  · exact hstatus _ hmiddle
  · exact hmiddle

theorem rested_latched_call {counter : PitCounter} (personality : PitPersonality)
    (call : PitCall) (h : counter.port.Rested) :
    (latched personality id call counter).port.Rested := by
  refine latched_keeps (p := fun counter => counter.port.Rested) ?_ ?_ personality call h
  · intro counter hrested
    rw [PitCounter.port_latch_count]
    split
    · exact hrested
    · intro hlatch
      cases hlatch
  · intro counter hrested
    rw [PitCounter.port_latch_status]
    split
    · exact hrested
    · exact hrested

theorem latched_cw {counter : PitCounter} (personality : PitPersonality) (call : PitCall) :
    (latched personality id call counter).cw = counter.cw := by
  refine latched_keeps (p := fun middle => middle.cw = counter.cw) ?_ ?_ personality call rfl
  · intro middle hcw
    rw [PitCounter.latch_count]
    split <;> exact hcw
  · intro middle hcw
    rw [PitCounter.latch_status]
    split <;> exact hcw

theorem read_counter_cw (counter : PitCounter) (inout_value : U8) :
    (counter.read_counter inout_value).2.cw = counter.cw := by
  rw [PitCounter.read_counter]
  split
  · rfl
  · dsimp only
    split
    · split <;> rfl
    · split <;> rfl
    · split
      · split <;> rfl
      · split <;> rfl
    · split <;> rfl

theorem pit_call_cw {call : PitCall} (hcontrols : controls id call = false) :
    ((pit_call pit call).counters id).cw = (pit.counters id).cw := by
  cases hreads : pit_returned id pit call with
  | none =>
    have hport := congrArg PitCounter.Port.cw (pit_call_port hcontrols hreads)
    exact hport.trans (latched_cw _ call)
  | some read =>
    obtain ⟨inout_value, -, hcounter⟩ := pit_call_reads hreads
    rw [hcounter, read_counter_cw]

/-! ## Runs -/

/-- The counts read after a latch are the bytes that it holds, in order. -/
theorem held_read_in_order (calls : List PitCall) {bytes : List U8}
    (hheld : (pit.counters id).port.held = bytes)
    (hcalls : ∀ call ∈ calls, controls id call = false) :
    (count_bytes (pit_returns id pit calls)).take bytes.length =
      bytes.take (count_bytes (pit_returns id pit calls)).length := by
  induction calls generalizing pit bytes with
  | nil => simp [pit_returns, count_bytes]
  | cons call calls ih =>
    have hcall := hcalls call (List.mem_cons_self ..)
    have hrest : ∀ call ∈ calls, controls id call = false :=
      fun other hmem => hcalls other (List.mem_cons_of_mem _ hmem)
    cases bytes with
    | nil => rw [List.length_nil, List.take_zero, List.take_nil]
    | cons byte bytes =>
      rw [pit_returns]
      cases hreads : pit_returned id pit call with
      | none =>
        refine ih ?_ hrest
        rw [pit_call_port hcall hreads]
        exact held_latched_call _ call hheld
      | some read =>
        obtain ⟨inout_value, hread, hcounter⟩ := pit_call_reads hreads
        cases hstatus : (pit.counters id).flagStatusLatch with
        | true =>
          -- The status is read: the count is held as before.
          rw [PitCounter.read_counter_status hstatus] at hread hcounter
          rw [hstatus] at hread
          rw [hread, Option.toList_some, List.singleton_append, count_bytes_status]
          refine ih ?_ hrest
          rw [hcounter]
          exact hheld
        | false =>
          obtain ⟨hbyte, hleft, -, -⟩ :=
            PitCounter.read_counter_held hstatus hheld inout_value
          rw [hbyte, hstatus] at hread
          rw [hread, Option.toList_some, List.singleton_append, count_bytes_count,
            List.length_cons, List.length_cons, List.take_succ_cons, List.take_succ_cons]
          refine congrArg (byte :: ·) (ih ?_ hrest)
          rw [hcounter, hleft]

/-- Without a read of the count, no byte comes to be half read. -/
theorem rested_run (calls : List PitCall) (hrested : (pit.counters id).port.Rested)
    (hcalls : ∀ call ∈ calls, controls id call = false)
    (hnone : count_bytes (pit_returns id pit calls) = []) :
    ((calls.foldl pit_call pit).counters id).port.Rested := by
  induction calls generalizing pit with
  | nil => exact hrested
  | cons call calls ih =>
    have hcall := hcalls call (List.mem_cons_self ..)
    have hrest : ∀ call ∈ calls, controls id call = false :=
      fun other hmem => hcalls other (List.mem_cons_of_mem _ hmem)
    rw [pit_returns] at hnone
    cases hreads : pit_returned id pit call with
    | none =>
      rw [hreads] at hnone
      refine ih ?_ hrest hnone
      rw [pit_call_port hcall hreads]
      exact rested_latched_call _ call hrested
    | some read =>
      obtain ⟨inout_value, hread, hcounter⟩ := pit_call_reads hreads
      rw [hreads, Option.toList_some, List.singleton_append, hread] at hnone
      cases hstatus : (pit.counters id).flagStatusLatch with
      | true =>
        rw [hstatus] at hnone
        refine ih ?_ hrest hnone
        rw [hcounter, PitCounter.read_counter_status hstatus]
        exact hrested
      | false =>
        rw [hstatus, count_bytes_count] at hnone
        cases hnone

/-- Once every byte that is held has been read, no byte is half read. -/
theorem rested_after_last (calls : List PitCall) {byte : U8} {bytes : List U8}
    (hheld : (pit.counters id).port.held = byte :: bytes)
    (hcalls : ∀ call ∈ calls, controls id call = false)
    (hlast : (count_bytes (pit_returns id pit calls)).length = bytes.length + 1) :
    ((calls.foldl pit_call pit).counters id).port.Rested := by
  induction calls generalizing pit byte bytes with
  | nil => cases hlast
  | cons call calls ih =>
    have hcall := hcalls call (List.mem_cons_self ..)
    have hrest : ∀ call ∈ calls, controls id call = false :=
      fun other hmem => hcalls other (List.mem_cons_of_mem _ hmem)
    rw [pit_returns] at hlast
    cases hreads : pit_returned id pit call with
    | none =>
      rw [hreads] at hlast
      refine @ih (pit_call pit call) byte bytes ?_ hrest hlast
      rw [pit_call_port hcall hreads]
      exact held_latched_call _ call hheld
    | some read =>
      obtain ⟨inout_value, hread, hcounter⟩ := pit_call_reads hreads
      rw [hreads, Option.toList_some, List.singleton_append, hread] at hlast
      cases hstatus : (pit.counters id).flagStatusLatch with
      | true =>
        rw [hstatus] at hlast
        refine @ih (pit_call pit call) byte bytes ?_ hrest hlast
        rw [hcounter, PitCounter.read_counter_status hstatus]
        exact hheld
      | false =>
        obtain ⟨-, hleft, -, hrested⟩ :=
          PitCounter.read_counter_held hstatus hheld inout_value
        rw [hstatus, count_bytes_count, List.length_cons, Nat.add_right_cancel_iff] at hlast
        cases bytes with
        | nil =>
          refine rested_run calls ?_ hrest (List.eq_nil_of_length_eq_zero hlast)
          rw [hcounter]
          exact hrested rfl
        | cons second bytes =>
          refine @ih (pit_call pit call) second bytes ?_ hrest hlast
          rw [hcounter, hleft]

theorem pit_calls_cw (calls : List PitCall)
    (hcalls : ∀ call ∈ calls, controls id call = false) :
    ((calls.foldl pit_call pit).counters id).cw = (pit.counters id).cw := by
  induction calls generalizing pit with
  | nil => rfl
  | cons call calls ih =>
    have hstep := @ih (pit_call pit call)
      fun other hmem => hcalls other (List.mem_cons_of_mem _ hmem)
    exact hstep.trans (pit_call_cw (hcalls call (List.mem_cons_self ..)))

/-- The next byte of a count, with no count latched and no byte half read, is the first of the
live count. -/
theorem next_read_live {call : PitCall} {byte : U8}
    (hread : pit_returned id pit call = some (false, byte))
    (hlatch : (pit.counters id).flagLatch = false) (hrested : (pit.counters id).port.Rested)
    (hprogrammed : programmed_bytes (pit.counters id).cw (pit.counters id).live_count ≠ []) :
    (programmed_bytes (pit.counters id).cw (pit.counters id).live_count).head? = some byte := by
  obtain ⟨inout_value, hpair, -⟩ := pit_call_reads hread
  obtain ⟨hstatus, hbyte⟩ := Prod.mk.inj hpair
  obtain ⟨first, hfirst⟩ := Option.isSome_iff_exists.mp (List.isSome_head?.mpr hprogrammed)
  have hlive := PitCounter.read_counter_live hstatus.symm hlatch (hrested hlatch) inout_value
    (Option.mem_def.mpr hfirst)
  rw [hfirst, hbyte, hlive]

/-- A status is latched by the commands that say so alone. -/
theorem latched_no_status {counter : PitCounter} {personality : PitPersonality} {call : PitCall}
    (h : latches_status personality id call = false) :
    (latched personality id call counter).flagStatusLatch = counter.flagStatusLatch := by
  rw [latched, h, if_neg Bool.false_ne_true]
  split
  · rw [PitCounter.latch_count]
    split <;> rfl
  · rfl

/-- A status that waits is not latched again. -/
theorem latched_waiting {counter : PitCounter} (personality : PitPersonality) (call : PitCall)
    (h : counter.flagStatusLatch = true) :
    (latched personality id call counter).flagStatusLatch = true ∧
      (latched personality id call counter).status_latch = counter.status_latch := by
  refine latched_keeps (p := fun middle => middle.flagStatusLatch = true ∧
    middle.status_latch = counter.status_latch) ?_ ?_ personality call ⟨h, rfl⟩
  · intro middle hmiddle
    rw [PitCounter.latch_count]
    split <;> exact hmiddle
  · intro middle hmiddle
    rw [PitCounter.latch_status_latched hmiddle.1]
    exact hmiddle

/-- A call that reads nothing of a counter leaves the status that waits there. -/
theorem pit_call_waiting {call : PitCall} (hcontrols : controls id call = false)
    (hreads : pit_returned id pit call = none)
    (hstatus : (pit.counters id).flagStatusLatch = true) :
    ((pit_call pit call).counters id).flagStatusLatch = true ∧
      ((pit_call pit call).counters id).status_latch = (pit.counters id).status_latch := by
  have hport := pit_call_port hcontrols hreads
  obtain ⟨hflag, hvalue⟩ := @latched_waiting id _ pit.personality call hstatus
  exact ⟨(congrArg PitCounter.Port.flagStatusLatch hport).trans hflag,
    (congrArg PitCounter.Port.status_latch hport).trans hvalue⟩

/-- A read of a count leaves no status. -/
theorem read_counter_no_status (counter : PitCounter) (inout_value : U8) :
    (counter.read_counter inout_value).2.flagStatusLatch = false := by
  rw [PitCounter.read_counter]
  split
  · rfl
  · rename_i hstatus
    rw [Bool.not_eq_true] at hstatus
    dsimp only
    split
    · split <;> exact hstatus
    · split <;> exact hstatus
    · split
      · split <;> exact hstatus
      · split <;> exact hstatus
    · split <;> exact hstatus

/-- No status is read before a command latches one. -/
theorem no_status_read (calls : List PitCall)
    (hstatus : (pit.counters id).flagStatusLatch = false)
    (hcalls : ∀ call ∈ calls, controls id call = false)
    (hlatches : ∀ call ∈ calls, latches_status pit.personality id call = false) :
    ∀ read ∈ pit_returns id pit calls, read.1 = false := by
  induction calls generalizing pit with
  | nil =>
    intro read hread
    cases hread
  | cons call calls ih =>
    have hcall := hcalls call (List.mem_cons_self ..)
    have hlatch := hlatches call (List.mem_cons_self ..)
    have hrest : ((pit_call pit call).counters id).flagStatusLatch = false →
        ∀ read ∈ pit_returns id (pit_call pit call) calls, read.1 = false := by
      intro hnext
      refine ih hnext (fun other hmem => hcalls other (List.mem_cons_of_mem _ hmem)) ?_
      intro other hmem
      rw [pit_call_personality]
      exact hlatches other (List.mem_cons_of_mem _ hmem)
    rw [pit_returns]
    cases hreads : pit_returned id pit call with
    | none =>
      refine hrest ?_
      have hport := congrArg PitCounter.Port.flagStatusLatch (pit_call_port hcall hreads)
      exact (hport.trans (latched_no_status hlatch)).trans hstatus
    | some first =>
      obtain ⟨inout_value, hread, hcounter⟩ := pit_call_reads hreads
      intro read hmem
      rw [Option.toList_some, List.singleton_append, List.mem_cons] at hmem
      cases hmem with
      | inl heq => rw [heq, hread, hstatus]
      | inr hmem =>
        refine hrest ?_ read hmem
        rw [hcounter]
        exact read_counter_no_status _ inout_value

/-- A status waits through every call that reads nothing of its counter. -/
theorem waiting_status_run (waiting : List PitCall)
    (hstatus : (pit.counters id).flagStatusLatch = true)
    (hcalls : ∀ call ∈ waiting, controls id call = false)
    (hnone : pit_returns id pit waiting = []) :
    ((waiting.foldl pit_call pit).counters id).flagStatusLatch = true ∧
      ((waiting.foldl pit_call pit).counters id).status_latch =
        (pit.counters id).status_latch := by
  induction waiting generalizing pit with
  | nil => exact ⟨hstatus, rfl⟩
  | cons call waiting ih =>
    rw [pit_returns, List.append_eq_nil_iff] at hnone
    have hreads : pit_returned id pit call = none := by
      cases hreads : pit_returned id pit call with
      | none => rfl
      | some read =>
        rw [hreads] at hnone
        cases hnone.1
    obtain ⟨hflag, hvalue⟩ := pit_call_waiting (hcalls call (List.mem_cons_self ..)) hreads hstatus
    rw [← hvalue]
    exact ih hflag (fun other hmem => hcalls other (List.mem_cons_of_mem _ hmem)) hnone.2

theorem latches_count_plain {personality : PitPersonality} {call : PitCall}
    (h : latches_count personality id call = true) :
    controls id call = false ∧ pit_returned id pit call = none := by
  cases call with
  | write_register selector value =>
    refine ⟨?_, rfl⟩
    rw [controls_write_register, Bool.and_eq_false_iff, Bool.and_eq_false_iff]
    simp only [latches_count, Bool.and_eq_true, Bool.or_eq_true, decide_eq_true_eq] at h
    cases h.2 with
    | inl hown => exact .inr (decide_eq_false (not_not.mpr hown.2))
    | inr hback =>
      refine .inl (.inr (decide_eq_false ?_))
      rw [hback.1.1.1]
      exact Nat.ne_of_gt id.isLt
  | _ => cases h

theorem latches_status_plain {personality : PitPersonality} {call : PitCall}
    (h : latches_status personality id call = true) :
    controls id call = false ∧ pit_returned id pit call = none := by
  cases call with
  | write_register selector value =>
    refine ⟨?_, rfl⟩
    rw [controls_write_register, Bool.and_eq_false_iff, Bool.and_eq_false_iff]
    simp only [latches_status, Bool.and_eq_true, decide_eq_true_eq] at h
    refine .inl (.inr (decide_eq_false ?_))
    rw [h.1.1.1.2]
    exact Nat.ne_of_gt id.isLt
  | _ => cases h

/-- A status command leaves the status of its moment waiting. -/
theorem latches_status_waits {call : PitCall}
    (hlatches : latches_status pit.personality id call = true)
    (hstatus : (pit.counters id).flagStatusLatch = false) :
    ((pit_call pit call).counters id).flagStatusLatch = true ∧
      ((pit_call pit call).counters id).status_latch = (pit.counters id).capture_status := by
  obtain ⟨hcontrols, hreads⟩ := @latches_status_plain id pit _ _ hlatches
  have hport := pit_call_port hcontrols hreads
  generalize hmiddle : (if latches_count pit.personality id call then
    (pit.counters id).latch_count else pit.counters id) = middle
  have hcapture : middle.capture_status = (pit.counters id).capture_status := by
    rw [← hmiddle]
    split
    · rw [PitCounter.latch_count]
      split <;> rfl
    · rfl
  have hpending : ¬ middle.flagStatusLatch = true := by
    rw [← hmiddle, Bool.not_eq_true, ← hstatus]
    split
    · rw [PitCounter.latch_count]
      split <;> rfl
    · rfl
  rw [latched, hmiddle, hlatches, if_pos rfl, PitCounter.port_latch_status, if_neg hpending,
    hcapture] at hport
  exact ⟨congrArg PitCounter.Port.flagStatusLatch hport,
    congrArg PitCounter.Port.status_latch hport⟩

/-- A count command, with no count latched, holds the bytes of the count of its moment. -/
theorem latches_count_holds {call : PitCall}
    (hlatches : latches_count pit.personality id call = true)
    (hlatch : (pit.counters id).flagLatch = false) :
    ((pit_call pit call).counters id).port.held =
      programmed_bytes (pit.counters id).cw (pit.counters id).live_count := by
  obtain ⟨hcontrols, hreads⟩ := @latches_count_plain id pit _ _ hlatches
  rw [pit_call_port hcontrols hreads, latched, hlatches, if_pos rfl,
    ← PitCounter.held_latch_count hlatch]
  split
  · exact PitCounter.held_latch_status _
  · rfl

/-- The bytes that a control word programs are as many for every count. -/
theorem programmed_bytes_length (cw : U8) (count other : U16) :
    (programmed_bytes cw count).length = (programmed_bytes cw other).length := by
  rw [programmed_bytes, programmed_bytes]
  split <;> rfl

end Runs

/-- A counter of two bytes, loaded with 1234h. -/
def latch_bench : List PitCall :=
  [.write_register 3 0x34, .write_register 0 0x34, .write_register 0 0x12, .tick]

/-- Ticks, a gate change and another latch among three reads. -/
def latch_bench_reads : List PitCall :=
  [.tick, .read_counter 0 0, .tick, .read_counter 0 0, .set_gate 0 false,
    .write_register 3 0x00, .read_counter 0 0]

end Nxvm.Chips
