/-
The interval timer (`pit.h`, `pit.c`): the 8253 and the 8254.

Three counters of one chip. A counter is programmed by a control word and the bytes of a
count, loads the count on a later tick, and counts it down in one of six modes, under a gate,
to move its output. The arrays of the source are here the fields of one counter, and the
32-bit words that hold an effective count are numbers: none of them exceeds 65536, and the
one operation that could leave its word, the decrement of a zero, wraps as the source's does.

What an output's provider is told is kept as a list.
-/
import Nxvm.Chips.Words
import Nxvm.Lib.Register
import Nxvm.Lib.Table
import Nxvm.Machine.Status
import Mathlib.Logic.Function.Iterate

set_option autoImplicit false

namespace Nxvm.Chips

open Nxvm.Lib Nxvm.Lib.Register Nxvm.Machine

/-! ## The chip -/

/-- `x86_pit_personality`. -/
inductive PitPersonality where
  | personality_8254
  | personality_8253
  deriving DecidableEq, Repr

/-- `t_pit_data_status_rw`. -/
inductive PitStatusRw where
  | ready
  | lsb
  | msb
  deriving DecidableEq, Repr

/-- The modes of a counter: a control word with 6 or 7 means 2 or 3. -/
inductive PitMode where
  | mode0
  | mode1
  | mode2
  | mode3
  | mode4
  | mode5
  deriving DecidableEq, Repr

/-- One counter: its part of `t_pit_data` and of `t_pit_connect`. -/
structure PitCounter where
  cw : U8
  init : U16
  count : U16
  latch : U16
  status_latch : U8
  flagReady : Bool
  flagLatch : Bool
  flagStatusLatch : Bool
  flagOutput : Bool
  flagActive : Bool
  flagPulseLow : Bool
  flagLoadPending : Bool
  flagTrigger : Bool
  flagRestart : Bool
  reload : ℕ
  remaining : ℕ
  phase : ℕ
  flagRead : PitStatusRw
  flagWrite : PitStatusRw
  flagGate : Bool
  /-- A provider is bound to the output. -/
  output : Bool
  /-- The levels that the output's providers were told. -/
  told : List Bool
  deriving DecidableEq

/-- `x86_pit`. -/
structure Pit where
  personality : PitPersonality
  counters : Table 3 PitCounter
  deriving DecidableEq

def vpit_cw_bcd : U8 := 0x01
def vpit_cw_m : U8 := 0x0e
def vpit_cw_rw : U8 := 0x30
def vpit_cw_sc : U8 := 0xc0
def vpit_rb_status : U8 := 0x10
def vpit_rb_count : U8 := 0x20
def vpit_sb_bcd : U8 := 0x01
def vpit_sb_m : U8 := 0x0e
def vpit_sb_rw : U8 := 0x30
def vpit_sb_nc : U8 := 0x40
def vpit_sb_out : U8 := 0x80

/-- `VPIT_GetCW_SC`. -/
def vpit_get_cw_sc (cw : U8) : ℕ := ((cw &&& vpit_cw_sc) >>> 6).toNat

/-- `VPIT_GetCW_RW`. -/
def vpit_get_cw_rw (cw : U8) : ℕ := ((cw &&& vpit_cw_rw) >>> 4).toNat

/-- `VPIT_GetCW_M`. -/
def vpit_get_cw_m (cw : U8) : ℕ := ((cw &&& vpit_cw_m) >>> 1).toNat

/-- `VPIT_RB_CNT`. -/
def vpit_rb_cnt (id : Fin 3) : U8 := BitVec.twoPow 8 (id.val + 1)

/-- `x86_pit_mode`. -/
def pit_mode (cw : U8) : PitMode :=
  match vpit_get_cw_m cw with
  | 0 => .mode0
  | 1 => .mode1
  | 2 => .mode2
  | 3 => .mode3
  | 4 => .mode4
  | 5 => .mode5
  | 6 => .mode2
  | _ => .mode3

/-- `x86_pit_bcd_decode`. -/
def pit_bcd_decode (value : U16) : ℕ :=
  (value &&& 0x000f).toNat + ((value >>> 4) &&& 0x000f).toNat * 10 +
    ((value >>> 8) &&& 0x000f).toNat * 100 + ((value >>> 12) &&& 0x000f).toNat * 1000

/-- `x86_pit_bcd_encode`. -/
def pit_bcd_encode (value : ℕ) : U16 :=
  BitVec.ofNat 16 (value % 10) ||| BitVec.ofNat 16 (value / 10 % 10) <<< 4 |||
    BitVec.ofNat 16 (value / 100 % 10) <<< 8 ||| BitVec.ofNat 16 (value / 1000 % 10) <<< 12

/-- What `x86_pit_decode_reload` makes of a count under a control word. -/
def pit_decode (cw : U8) (init : U16) : ℕ :=
  if is_set cw vpit_cw_bcd then
    if pit_bcd_decode init = 0 then 10000 else pit_bcd_decode init
  else if init = 0 then 65536 else init.toNat

/-- `x86_pit_encode_count`. -/
def pit_encode_count (cw : U8) (count : ℕ) : U16 :=
  if is_set cw vpit_cw_bcd then
    if count = 10000 then 0 else pit_bcd_encode count
  else if count = 65536 then 0 else BitVec.ofNat 16 count

/-- The decrement of a 32-bit word. -/
def decrement (word : ℕ) : ℕ := if word = 0 then 2 ^ 32 - 1 else word - 1

namespace PitCounter

/-! ## One counter -/

/-- `x86_pit_decode_reload`. -/
def decode_reload (counter : PitCounter) : ℕ := pit_decode counter.cw counter.init

/-- `x86_pit_sync_count`. -/
def sync_count (counter : PitCounter) : PitCounter :=
  { counter with count := pit_encode_count counter.cw counter.remaining }

/-- `x86_pit_decrement_count`. -/
def decrement_count (counter : PitCounter) : PitCounter :=
  let remaining :=
    if counter.remaining = 0 then if is_set counter.cw vpit_cw_bcd then 10000 else 65536
    else counter.remaining
  sync_count { counter with remaining := decrement remaining }

/-- `x86_pit_set_output_level`. -/
def set_output_level (counter : PitCounter) (asserted : Bool) : PitCounter :=
  if counter.flagOutput = asserted then counter
  else
    { counter with
      flagOutput := asserted
      told := if counter.output then counter.told ++ [asserted] else counter.told }

/-- `x86_pit_mode3_high_length`. -/
def mode3_high_length (counter : PitCounter) : ℕ := (counter.reload + 1) / 2

/-- `x86_pit_mode3_low_length`. -/
def mode3_low_length (counter : PitCounter) : ℕ := counter.reload / 2

/-- `x86_pit_mode3_count`. -/
def mode3_count (personality : PitPersonality) (counter : PitCounter) : ℕ :=
  counter.reload - (if personality = .personality_8254 then counter.reload % 2 else 0)

/-- `x86_pit_load` and `x86_pit_commit_pending`. -/
def load (personality : PitPersonality) (counter : PitCounter) : PitCounter :=
  let mode := pit_mode counter.cw
  let counter := { counter with reload := decode_reload counter }
  sync_count
    { counter with
      remaining := if mode = .mode3 then mode3_count personality counter else counter.reload
      phase := if mode = .mode3 then mode3_high_length counter else 0
      flagReady := true
      flagLoadPending := false
      flagRestart := false
      flagActive := mode ≠ .mode1 && mode ≠ .mode5
      flagPulseLow := false }

/-- `x86_pit_read_start`. -/
def read_start (cw : U8) : PitStatusRw := if vpit_get_cw_rw cw = 2 then .msb else .lsb

/-- `x86_pit_capture_status`. -/
def capture_status (counter : PitCounter) : U8 :=
  let status := counter.cw &&& (vpit_sb_bcd ||| vpit_sb_m ||| vpit_sb_rw)
  let status := if counter.flagOutput then status ||| vpit_sb_out else status
  if counter.flagReady then status else status ||| vpit_sb_nc

/-- `x86_pit_latch_count`. -/
def latch_count (counter : PitCounter) : PitCounter :=
  if counter.flagLatch then counter
  else
    let counter := sync_count counter
    { counter with
      latch := counter.count, flagLatch := true, flagRead := read_start counter.cw }

/-- `x86_pit_latch_status`. -/
def latch_status (counter : PitCounter) : PitCounter :=
  if counter.flagStatusLatch then counter
  else { counter with status_latch := capture_status counter, flagStatusLatch := true }

/-- `x86_pit_read_counter`: the byte read, which an unprogrammed counter leaves as it was. -/
def read_counter (counter : PitCounter) (inout_value : U8) : U8 × PitCounter :=
  if counter.flagStatusLatch then
    (counter.status_latch, { counter with flagStatusLatch := false })
  else
    let counter := if counter.flagLatch then counter else sync_count counter
    let value := if counter.flagLatch then counter.latch else counter.count
    match vpit_get_cw_rw counter.cw with
    | 1 => (value.setWidth 8, { counter with flagRead := .ready, flagLatch := false })
    | 2 => ((value >>> 8).setWidth 8, { counter with flagRead := .ready, flagLatch := false })
    | 3 =>
      if counter.flagRead = .msb then
        ((value >>> 8).setWidth 8, { counter with flagRead := .ready, flagLatch := false })
      else (value.setWidth 8, { counter with flagRead := .msb })
    | _ => (inout_value, { counter with flagLatch := false })

/-- Mode 0 starts again with its output low. -/
def stop_mode0 (counter : PitCounter) : PitCounter :=
  if pit_mode counter.cw = .mode0 then
    set_output_level { counter with flagActive := false, flagPulseLow := false } false
  else counter

/-- The end of `x86_pit_write_counter`, with a complete count. -/
def complete_count (counter : PitCounter) : PitCounter :=
  stop_mode0 { counter with flagWrite := .ready, flagReady := false, flagLoadPending := true }

/-- `x86_pit_write_counter`. -/
def write_counter (counter : PitCounter) (value : U8) : PitCounter :=
  match vpit_get_cw_rw counter.cw with
  | 1 => complete_count { counter with init := value.setWidth 16 }
  | 2 => complete_count { counter with init := value.setWidth 16 <<< 8 }
  | 3 =>
    if counter.flagWrite = .msb then
      complete_count
        { counter with init := value.setWidth 16 <<< 8 ||| (counter.init &&& 0x00ff) }
    else
      stop_mode0
        { counter with
          init := value.setWidth 16
          flagWrite := .msb
          flagReady := counter.flagReady && pit_mode counter.cw ≠ .mode0 }
  | _ => counter

/-- `x86_pit_write_control`, for the counter that a control word selects. -/
def write_control (counter : PitCounter) (value : U8) : PitCounter :=
  let start : PitStatusRw := if vpit_get_cw_rw value = 2 then .msb else .lsb
  set_output_level
    { counter with
      flagLatch := false, flagStatusLatch := false, cw := value, flagReady := false
      flagLoadPending := false, flagTrigger := false, flagRestart := false
      flagActive := false, flagPulseLow := false, remaining := 0, reload := 0, phase := 0
      count := 0, flagRead := start, flagWrite := start }
    (pit_mode value ≠ .mode0)

/-- `x86_pit_set_gate`. -/
def set_gate (counter : PitCounter) (asserted : Bool) : PitCounter :=
  if counter.flagGate = asserted then counter
  else
    let counter := { counter with flagGate := asserted }
    let mode := pit_mode counter.cw
    if !asserted then
      if mode = .mode2 ∨ mode = .mode3 then
        set_output_level { counter with flagPulseLow := false } true
      else counter
    else if mode = .mode1 ∨ mode = .mode5 then
      if !counter.flagReady && !counter.flagLoadPending then counter
      else { counter with flagTrigger := true }
    else if mode = .mode2 ∨ mode = .mode3 then
      if counter.flagReady || counter.flagLoadPending then { counter with flagRestart := true }
      else counter
    else counter

/-- `x86_pit_reset`, for one counter: the connection stays. -/
def reset (counter : PitCounter) : PitCounter :=
  { cw := 0, init := 0, count := 0, latch := 0, status_latch := 0, flagReady := true
    flagLatch := false, flagStatusLatch := false, flagOutput := false, flagActive := false
    flagPulseLow := false, flagLoadPending := false, flagTrigger := false, flagRestart := false
    reload := 0, remaining := 0, phase := 0, flagRead := .ready, flagWrite := .ready
    flagGate := true, output := counter.output
    told := if counter.flagOutput && counter.output then counter.told ++ [false]
      else counter.told }

/-- A counter of allocated memory. -/
def zero : PitCounter :=
  { cw := 0, init := 0, count := 0, latch := 0, status_latch := 0, flagReady := false
    flagLatch := false, flagStatusLatch := false, flagOutput := false, flagActive := false
    flagPulseLow := false, flagLoadPending := false, flagTrigger := false, flagRestart := false
    reload := 0, remaining := 0, phase := 0, flagRead := .ready, flagWrite := .ready
    flagGate := false, output := false, told := [] }

/-! ## A tick of one counter -/

/-- `--remaining`, and the output of a counter that ends there. -/
def count_down (counter : PitCounter) : PitCounter :=
  let counter := { counter with remaining := decrement counter.remaining }
  sync_count
    (if counter.remaining = 0 then set_output_level { counter with flagActive := false } true
    else counter)

/-- The count starts again, from a pending one or from the one in use. -/
def start_count (personality : PitPersonality) (counter : PitCounter) : PitCounter :=
  if counter.flagLoadPending then load personality counter
  else { counter with remaining := counter.reload }

/-- `x86_pit_tick_mode0`. -/
def tick_mode0 (personality : PitPersonality) (counter : PitCounter) : PitCounter :=
  if counter.flagLoadPending then load personality counter
  else if !counter.flagActive || !counter.flagGate then counter
  else count_down counter

/-- `x86_pit_tick_mode1`. -/
def tick_mode1 (personality : PitPersonality) (counter : PitCounter) : PitCounter :=
  if counter.flagTrigger then
    let counter := start_count personality { counter with flagTrigger := false }
    let counter := sync_count { counter with flagPulseLow := false }
    set_output_level { counter with flagActive := true } false
  else if !counter.flagActive then counter
  else count_down counter

/-- The terminal count of `x86_pit_tick_mode2`. -/
def mode2_terminal (personality : PitPersonality) : ℕ :=
  if personality = .personality_8253 then 0 else 1

/-- `x86_pit_tick_mode2`. -/
def tick_mode2 (personality : PitPersonality) (counter : PitCounter) : PitCounter :=
  let terminal := mode2_terminal personality
  if counter.flagRestart then load personality counter
  else if counter.flagLoadPending && !counter.flagActive then load personality counter
  else if !counter.flagActive || !counter.flagGate then counter
  else if counter.flagPulseLow then
    let counter := start_count personality { counter with flagPulseLow := false }
    let counter :=
      if terminal = 0 then { counter with remaining := decrement counter.remaining } else counter
    sync_count (set_output_level counter true)
  else if counter.remaining ≤ terminal + 1 then
    sync_count
      (set_output_level { counter with remaining := terminal, flagPulseLow := true } false)
  else sync_count { counter with remaining := decrement counter.remaining }

/-- The decrement of `x86_pit_tick_mode3`. -/
def mode3_decrement (personality : PitPersonality) (counter : PitCounter) : ℕ :=
  if personality = .personality_8253 ∧ counter.reload % 2 ≠ 0 ∧
      counter.phase =
        (if counter.flagOutput then mode3_high_length counter else mode3_low_length counter) then
    if counter.flagOutput then 1 else 3
  else 2

/-- The half of a period of mode 3 that follows the one with output `was_output`. -/
def mode3_half (was_output : Bool) (counter : PitCounter) : PitCounter :=
  if was_output then
    if mode3_low_length counter = 0 then { counter with phase := mode3_high_length counter }
    else set_output_level { counter with phase := mode3_low_length counter } false
  else set_output_level { counter with phase := mode3_high_length counter } true

/-- The end of a half in `x86_pit_tick_mode3`. -/
def mode3_turn (personality : PitPersonality) (counter : PitCounter) : PitCounter :=
  let was_output := counter.flagOutput
  let counter := if counter.flagLoadPending then load personality counter else counter
  mode3_half was_output { counter with remaining := mode3_count personality counter }

/-- `x86_pit_tick_mode3`. -/
def tick_mode3 (personality : PitPersonality) (counter : PitCounter) : PitCounter :=
  if counter.flagRestart then load personality counter
  else if counter.flagLoadPending && !counter.flagActive then load personality counter
  else if !counter.flagActive || !counter.flagGate then counter
  else
    let step := mode3_decrement personality counter
    let remaining := if counter.remaining > step then counter.remaining - step else 0
    let counter := { counter with remaining := remaining, phase := decrement counter.phase }
    sync_count (if counter.phase = 0 then mode3_turn personality counter else counter)

/-- `x86_pit_tick_mode4_or_5`. -/
def tick_mode4_or_5 (personality : PitPersonality) (counter : PitCounter) : PitCounter :=
  let mode := pit_mode counter.cw
  if mode = .mode4 && counter.flagLoadPending then
    load personality (set_output_level counter true)
  else if mode = .mode5 && counter.flagTrigger then
    let counter := { counter with flagTrigger := false }
    let counter :=
      if counter.flagLoadPending then load personality counter
      else sync_count { counter with remaining := counter.reload, flagPulseLow := false }
    set_output_level { counter with flagActive := true } true
  else if !counter.flagActive then counter
  else if mode = .mode4 && !counter.flagGate && !counter.flagPulseLow then counter
  else if counter.flagPulseLow then
    let counter :=
      if counter.flagGate || mode = .mode5 then decrement_count counter else counter
    sync_count
      (set_output_level { counter with flagPulseLow := false, flagActive := false } true)
  else
    let counter := { counter with remaining := decrement counter.remaining }
    sync_count
      (if counter.remaining = 0 then set_output_level { counter with flagPulseLow := true } false
      else counter)

/-- A counter that has ended goes on counting, without an output: the guard of `x86_pit_tick`. -/
def runs_on (counter : PitCounter) : Bool :=
  let mode := pit_mode counter.cw
  !counter.flagActive && counter.reload ≠ 0 && !counter.flagTrigger && !counter.flagRestart &&
    (mode = .mode1 || mode = .mode5 ||
      ((mode = .mode0 || mode = .mode4) && !counter.flagLoadPending)) &&
    (counter.flagGate || mode = .mode1 || mode = .mode5)

/-- `x86_pit_tick`. -/
def tick (personality : PitPersonality) (counter : PitCounter) : PitCounter :=
  if !counter.flagReady && !counter.flagLoadPending && !counter.flagTrigger then counter
  else if runs_on counter then decrement_count counter
  else
    match pit_mode counter.cw with
    | .mode0 => tick_mode0 personality counter
    | .mode1 => tick_mode1 personality counter
    | .mode2 => tick_mode2 personality counter
    | .mode3 => tick_mode3 personality counter
    | .mode4 => tick_mode4_or_5 personality counter
    | .mode5 => tick_mode4_or_5 personality counter

/-- The tick that moves a counter's output is due next. -/
def output_due (counter : PitCounter) : Bool :=
  let mode := pit_mode counter.cw
  counter.flagRestart || counter.flagTrigger ||
    (counter.flagLoadPending && (mode = .mode0 || mode = .mode4 ||
      ((mode = .mode2 || mode = .mode3) && !counter.flagActive)))

/-- The gate does not let a counter count. -/
def gated (counter : PitCounter) : Bool :=
  let mode := pit_mode counter.cw
  !counter.flagGate && mode ≠ .mode1 && mode ≠ .mode5 && !(mode = .mode4 && counter.flagPulseLow)

/-- The switch of `x86_pit_ticks_until_output`. -/
def output_distance (personality : PitPersonality) (counter : PitCounter) : ℕ :=
  match pit_mode counter.cw with
  | .mode0 | .mode1 => counter.remaining
  | .mode2 =>
    if counter.flagPulseLow || counter.remaining ≤ 1 then 1
    else counter.remaining - (if personality = .personality_8253 then 0 else 1)
  | .mode3 => counter.phase
  | .mode4 | .mode5 => if counter.flagPulseLow then 1 else counter.remaining

/-- `x86_pit_ticks_until_output`. -/
def ticks_until_output (personality : PitPersonality) (counter : PitCounter) : Except Status ℕ :=
  if output_due counter then .ok 1
  else if !counter.flagActive || gated counter then .error .invalid_state
  else if output_distance personality counter = 0 then .error .invalid_state
  else .ok (output_distance personality counter)

end PitCounter

/-! ## The chip's operations -/

/-- `x86_pit_create`, where there is memory. -/
def pit_create (personality : PitPersonality) : Pit :=
  { personality := personality, counters := Table.fill PitCounter.zero }

/-- The counter that a selector names. -/
def pit_select (id : U8) : Option (Fin 3) :=
  if h : id.toNat < 3 then some ⟨id.toNat, h⟩ else none

/-- A change of one counter. -/
def pit_change (pit : Pit) (id : Fin 3) (change : PitCounter → PitCounter) : Pit :=
  { pit with counters := Function.update pit.counters id (change (pit.counters id)) }

theorem pit_change_counters (pit : Pit) (id : Fin 3) (change : PitCounter → PitCounter)
    (other : Fin 3) :
    (pit_change pit id change).counters other =
      if other = id then change (pit.counters id) else pit.counters other :=
  Function.update_apply _ _ _ _

/-- The latches that a read-back command asks a counter for. -/
def pit_read_back (value : U8) (id : Fin 3) (counter : PitCounter) : PitCounter :=
  if is_set value (vpit_rb_cnt id) then counter
  else
    let counter :=
      if is_set value vpit_rb_count then counter else PitCounter.latch_count counter
    if is_set value vpit_rb_status then counter else PitCounter.latch_status counter

/-- `x86_pit_write_control`. -/
def pit_write_control (pit : Pit) (value : U8) : Pit :=
  if h : vpit_get_cw_sc value < 3 then
    let id : Fin 3 := ⟨vpit_get_cw_sc value, h⟩
    if vpit_get_cw_rw value = 0 then pit_change pit id PitCounter.latch_count
    else pit_change pit id fun counter => PitCounter.write_control counter value
  else if pit.personality ≠ .personality_8254 then pit
  else { pit with counters := fun id => pit_read_back value id (pit.counters id) }

/-- `x86_pit_write_register`. -/
def pit_write_register (pit : Pit) (selector value : U8) : Status × Pit :=
  if selector.toNat ≥ 4 then (.invalid_argument, pit)
  else
    match pit_select selector with
    | none => (.ok, pit_write_control pit value)
    | some id => (.ok, pit_change pit id fun counter => PitCounter.write_counter counter value)

/-- `x86_pit_read_counter`. -/
def pit_read_counter (pit : Pit) (id inout_value : U8) : Status × U8 × Pit :=
  match pit_select id with
  | none => (.invalid_argument, inout_value, pit)
  | some id =>
    (.ok, (PitCounter.read_counter (pit.counters id) inout_value).1,
      pit_change pit id fun counter => (PitCounter.read_counter counter inout_value).2)

/-- `x86_pit_set_output`. -/
def pit_set_output (pit : Pit) (id : U8) (provider : Bool) : Pit :=
  match pit_select id with
  | none => pit
  | some id => pit_change pit id fun counter => { counter with output := provider }

/-- `x86_pit_set_gate`. -/
def pit_set_gate (pit : Pit) (id : U8) (asserted : Bool) : Pit :=
  match pit_select id with
  | none => pit
  | some id => pit_change pit id fun counter => PitCounter.set_gate counter asserted

/-- `x86_pit_get_output`. -/
def pit_get_output (pit : Pit) (id : U8) : Bool :=
  match pit_select id with
  | none => false
  | some id => (pit.counters id).flagOutput

/-- `x86_pit_reset`. -/
def pit_reset (pit : Pit) : Pit :=
  { pit with counters := fun id => PitCounter.reset (pit.counters id) }

/-- A tick of the three counters. -/
def pit_tick (pit : Pit) : Pit :=
  { pit with counters := fun id => PitCounter.tick pit.personality (pit.counters id) }

/-- `x86_pit_advance`. -/
def pit_advance (pit : Pit) (elapsed_ticks : ℕ) : Pit := pit_tick^[elapsed_ticks] pit

/-- `x86_pit_ticks_until_output`. -/
def pit_ticks_until_output (pit : Pit) (id : U8) : Except Status ℕ :=
  match pit_select id with
  | none => .error .invalid_argument
  | some id => PitCounter.ticks_until_output pit.personality (pit.counters id)

/-! ## Runs -/

/-- A call of the chip's interface, with what its caller passes. An advance is the run of its
ticks. -/
inductive PitCall where
  | write_register (selector value : U8)
  | read_counter (id inout_value : U8)
  | set_output (id : U8) (provider : Bool)
  | set_gate (id : U8) (asserted : Bool)
  | tick
  | reset
  deriving DecidableEq

/-- What a call leaves. -/
def pit_call (pit : Pit) : PitCall → Pit
  | .write_register selector value => (pit_write_register pit selector value).2
  | .read_counter id inout_value => (pit_read_counter pit id inout_value).2.2
  | .set_output id provider => pit_set_output pit id provider
  | .set_gate id asserted => pit_set_gate pit id asserted
  | .tick => pit_tick pit
  | .reset => pit_reset pit

/-- A run of calls on a new chip. -/
def pit_run (personality : PitPersonality) (calls : List PitCall) : Pit :=
  calls.foldl pit_call (pit_create personality)

end Nxvm.Chips
