/-
The keyboard endpoint (`keyboard.h`, `keyboard.c`).

The bytes of an incomplete sequence and those of the repeating key are lists, where the source
has arrays with a count: nothing reads past the count. What a delivery may touch while the
keyboard calls out, the record of accepted output and the pending BAT, is a part of its own, so
that a caller's sink can be any function of it. Pointers that a caller leaves null are not here.
-/
import Nxvm.Chips.Kbc
import Nxvm.Lib.Table

set_option autoImplicit false

namespace Nxvm.Chips

open Nxvm.Lib Nxvm.Lib.Register Nxvm.Machine

/-- `keyboard_parameter`. -/
inductive KeyboardParameter where
  | none
  | leds
  | typematic
  | scan_set
  | key_typematic
  | key_make_break
  | key_make
  deriving DecidableEq, Repr

/-- The fields of `x86_keyboard` that a delivery may touch. -/
structure KeyboardHistory where
  last_output : U8
  previous_output : U8
  has_output : Bool
  bat_pending : Bool
  deriving DecidableEq

/-- `x86_keyboard`. -/
structure KeyboardEndpoint where
  pending : KeyboardParameter
  scan_set : U8
  leds : U8
  typematic : U8
  key_types : Table 0x85 U8
  repeat_bytes : List U8
  input_prefix : List U8
  history : KeyboardHistory
  scanning : Bool
  startup_released : Bool
  nominal_initial_ticks : U32
  nominal_repeat_ticks : U32
  initial_ticks : ℕ
  repeat_ticks : ℕ
  remaining_ticks : ℕ
  deriving DecidableEq

def keyboard_key_make : U8 := 0x01
def keyboard_key_break : U8 := 0x02
def keyboard_key_repeat : U8 := 0x04
def keyboard_key_typematic : U8 := keyboard_key_make ||| keyboard_key_repeat
def keyboard_key_make_break : U8 := keyboard_key_make ||| keyboard_key_break
def keyboard_key_all : U8 := keyboard_key_make_break ||| keyboard_key_repeat

/-- The keys that repeat by default. -/
def typematic_keys : List ℕ :=
  [0x0e, 0x16, 0x1e, 0x26, 0x25, 0x2e, 0x36, 0x3d, 0x3e, 0x46, 0x45, 0x4e, 0x55, 0x66, 0x0d, 0x15,
    0x1d, 0x24, 0x2d, 0x2c, 0x35, 0x3c, 0x43, 0x44, 0x4d, 0x54, 0x5b, 0x5c, 0x1c, 0x1b, 0x23, 0x2b,
    0x34, 0x33, 0x3b, 0x42, 0x4b, 0x4c, 0x52, 0x5a, 0x1a, 0x22, 0x21, 0x2a, 0x32, 0x31, 0x3a, 0x41,
    0x49, 0x4a, 0x29, 0x64, 0x61, 0x63, 0x60, 0x6a, 0x7c]

/-- The keys that report their release by default. -/
def make_break_keys : List ℕ := [0x14, 0x12, 0x59, 0x11, 0x19]

/-- The other keys. -/
def make_keys : List ℕ :=
  [0x39, 0x58, 0x67, 0x6e, 0x65, 0x6f, 0x6d, 0x76, 0x6c, 0x6b, 0x69, 0x77, 0x75, 0x73, 0x72, 0x70,
    0x7e, 0x7d, 0x74, 0x7a, 0x71, 0x84, 0x79, 0x08, 0x07, 0x0f, 0x17, 0x1f, 0x27, 0x2f, 0x37, 0x3f,
    0x47, 0x4f, 0x56, 0x5e, 0x57, 0x5f, 0x62]

/-- `keyboard_default_key_types`. -/
def keyboard_default_key_types : Table 0x85 U8 := fun code =>
  if code.val ∈ typematic_keys then keyboard_key_typematic
  else if code.val ∈ make_break_keys then keyboard_key_make_break
  else if code.val ∈ make_keys then keyboard_key_make
  else 0

/-- `keyboard_apply_typematic`. -/
def keyboard_apply_typematic (keyboard : KeyboardEndpoint) : KeyboardEndpoint :=
  let delay := 1 + ((keyboard.typematic >>> 5) &&& 0x03).toNat
  let rate := (8 + (keyboard.typematic &&& 0x07).toNat) <<<
    ((keyboard.typematic >>> 3) &&& 0x03).toNat
  let initial_ticks := keyboard.nominal_initial_ticks.toNat * delay / 2 % 2 ^ 32
  let repeat_ticks := keyboard.nominal_repeat_ticks.toNat * rate / 24 % 2 ^ 32
  let keyboard := { keyboard with initial_ticks := initial_ticks, repeat_ticks := repeat_ticks }
  if initial_ticks = 0 ∨ repeat_ticks = 0 then
    { keyboard with repeat_bytes := [], remaining_ticks := 0 }
  else keyboard

/-- `keyboard_defaults`. -/
def keyboard_defaults (keyboard : KeyboardEndpoint) : KeyboardEndpoint :=
  { keyboard_apply_typematic
      { keyboard with
        key_types := keyboard_default_key_types, scan_set := 2, typematic := 0x2c } with
    remaining_ticks := 0
    repeat_bytes := []
    input_prefix := [] }

/-- `x86_keyboard_reset`. -/
def keyboard_reset (keyboard : KeyboardEndpoint) : KeyboardEndpoint :=
  { keyboard_defaults
      { pending := .none, scan_set := 0, leds := 0, typematic := 0, key_types := Table.fill 0
        repeat_bytes := [], input_prefix := []
        history :=
          { last_output := 0, previous_output := 0, has_output := false, bat_pending := false }
        scanning := false, startup_released := false
        nominal_initial_ticks := keyboard.nominal_initial_ticks
        nominal_repeat_ticks := keyboard.nominal_repeat_ticks
        initial_ticks := 0, repeat_ticks := 0, remaining_ticks := 0 } with
    scanning := true }

/-- `x86_keyboard_create`, where there is memory. -/
def keyboard_create : KeyboardEndpoint :=
  keyboard_reset
    { pending := .none, scan_set := 0, leds := 0, typematic := 0, key_types := Table.fill 0
      repeat_bytes := [], input_prefix := []
      history :=
        { last_output := 0, previous_output := 0, has_output := false, bat_pending := false }
      scanning := false, startup_released := false
      nominal_initial_ticks := 0, nominal_repeat_ticks := 0
      initial_ticks := 0, repeat_ticks := 0, remaining_ticks := 0 }

/-- `keyboard_scanning`. -/
def keyboard_scanning (keyboard : KeyboardEndpoint) : Bool :=
  keyboard.scanning && keyboard.pending = .none

/-! ## Commands -/

/-- `keyboard_reply`, and what the keyboard does after it. -/
def keyboard_reply (keyboard : KeyboardEndpoint) (byte : U8)
    (next : KeyboardEndpoint → EndpointWrite KeyboardEndpoint) :
    EndpointWrite KeyboardEndpoint :=
  .reply keyboard .keyboard [byte] next

/-- `keyboard_clear_stream`. -/
def keyboard_clear_stream (keyboard : KeyboardEndpoint) : KeyboardEndpoint :=
  { keyboard with remaining_ticks := 0, repeat_bytes := [], input_prefix := [] }

/-- The type that a command gives to a key. -/
def key_type_of (pending : KeyboardParameter) : U8 :=
  if pending = .key_typematic then keyboard_key_typematic
  else if pending = .key_make_break then keyboard_key_make_break
  else keyboard_key_make

/-- A key of the layout, in `keyboard_default_key_types`. -/
def is_key (code : U8) : Bool :=
  match keyboard_default_key_types.read code.toNat with
  | some type => type != 0
  | none => false

/-- A parameter of `x86_keyboard_write` that names a key. -/
def keyboard_key_parameter (keyboard : KeyboardEndpoint) (pending : KeyboardParameter)
    (value : U8) : EndpointWrite KeyboardEndpoint :=
  if !is_key value then
    keyboard_reply keyboard 0xfe fun keyboard => .done { keyboard with pending := pending }
  else
    keyboard_reply
      { keyboard with
        key_types := fun code =>
          if code.val = value.toNat then key_type_of pending else keyboard.key_types code }
      0xfa .done

/-- The type that F7 to FA give to every key. -/
def all_key_type (value : U8) : U8 :=
  if value = 0xf7 then keyboard_key_typematic
  else if value = 0xf8 then keyboard_key_make_break
  else if value = 0xf9 then keyboard_key_make
  else keyboard_key_all

/-- The byte that the keyboard sends again. -/
def resent_byte (history : KeyboardHistory) : U8 :=
  if history.last_output = 0xfe ∧ history.has_output then history.previous_output
  else history.last_output

/-- The commands of `x86_keyboard_write`. -/
def keyboard_command (keyboard : KeyboardEndpoint) (value : U8) :
    EndpointWrite KeyboardEndpoint :=
  if value = 0xff then
    keyboard_reply keyboard 0xfa fun keyboard =>
      .reset_stream (.done
        { keyboard_defaults
            { keyboard with
              startup_released := true
              history := { keyboard.history with bat_pending := true } } with
          leds := 0
          scanning := true })
  else if value = 0xed then
    keyboard_reply keyboard 0xfa fun keyboard => .done { keyboard with pending := .leds }
  else if value = 0xee then keyboard_reply keyboard 0xee .done
  else if value = 0xf0 then
    .reset_stream
      (keyboard_reply { keyboard_clear_stream keyboard with pending := .scan_set } 0xfa .done)
  else if value = 0xf3 then
    keyboard_reply keyboard 0xfa fun keyboard => .done { keyboard with pending := .typematic }
  else if value = 0xf4 then
    .reset_stream
      (keyboard_reply (keyboard_clear_stream { keyboard with scanning := true }) 0xfa .done)
  else if value = 0xf5 then
    .reset_stream
      (keyboard_reply { keyboard_defaults keyboard with scanning := false } 0xfa .done)
  else if value = 0xf6 then
    .reset_stream
      (keyboard_reply { keyboard_defaults keyboard with scanning := true } 0xfa .done)
  else if value = 0xf2 then .reply keyboard .keyboard [0xfa, 0xab, 0x83] .done
  else if value = 0xfe then keyboard_reply keyboard (resent_byte keyboard.history) .done
  else if value = 0xf7 ∨ value = 0xf8 ∨ value = 0xf9 ∨ value = 0xfa then
    .reset_stream
      (keyboard_reply
        (keyboard_clear_stream
          { keyboard with
            key_types := fun code =>
              if keyboard_default_key_types code ≠ 0 then all_key_type value
              else keyboard.key_types code })
        0xfa .done)
  else if value = 0xfb ∨ value = 0xfc ∨ value = 0xfd then
    .reset_stream
      (keyboard_reply
        { keyboard_clear_stream keyboard with
          scanning := false
          pending :=
            if value = 0xfb then .key_typematic
            else if value = 0xfc then .key_make_break
            else .key_make }
        0xfa .done)
  else keyboard_reply keyboard 0xfe .done

/-- `x86_keyboard_write`. -/
def keyboard_write (keyboard : KeyboardEndpoint) (value : U8) : EndpointWrite KeyboardEndpoint :=
  -- ED to FF are commands, not options of an incomplete transaction.
  let pending := if 0xed ≤ value.toNat then .none else keyboard.pending
  let keyboard := { keyboard with pending := .none }
  match pending with
  | .leds => keyboard_reply { keyboard with leds := value &&& 0x07 } 0xfa .done
  | .typematic =>
    keyboard_reply (keyboard_apply_typematic { keyboard with typematic := value }) 0xfa .done
  | .scan_set =>
    if value = 0 then .reply keyboard .keyboard [0xfa, keyboard.scan_set] .done
    else if value.toNat ≤ 3 then keyboard_reply { keyboard with scan_set := value } 0xfa .done
    else keyboard_reply keyboard 0xfe .done
  | .key_typematic => keyboard_key_parameter keyboard .key_typematic value
  | .key_make_break => keyboard_key_parameter keyboard .key_make_break value
  | .key_make => keyboard_key_parameter keyboard .key_make value
  | .none => keyboard_command keyboard value

/-- `x86_keyboard_cancel_parameter`. -/
def keyboard_cancel_parameter (keyboard : KeyboardEndpoint) : KeyboardEndpoint :=
  { keyboard with pending := .none }

/-- `x86_keyboard_start`. -/
def keyboard_start (keyboard : KeyboardEndpoint) : Bool × KeyboardEndpoint :=
  if keyboard.startup_released then (false, keyboard)
  else
    (true,
      { keyboard with
        startup_released := true
        history := { keyboard.history with bat_pending := true } })

/-- `x86_keyboard_take_bat`. -/
def keyboard_take_bat (history : KeyboardHistory) : Bool × KeyboardHistory :=
  if !history.bat_pending then (false, history)
  else (true, { history with bat_pending := false })

/-- `x86_keyboard_clear_bat`. -/
def keyboard_clear_bat (history : KeyboardHistory) : KeyboardHistory :=
  { history with bat_pending := false }

/-- `x86_keyboard_note_output`. -/
def keyboard_note_output (history : KeyboardHistory) (byte : U8) : KeyboardHistory :=
  { history with
    previous_output :=
      if history.has_output then history.last_output else history.previous_output
    last_output := byte
    has_output := true }

/-! ## Admission -/

/-- `keyboard_is_repeatable`. -/
def keyboard_is_repeatable (scan_code : U8) : Bool :=
  if [(0x1d : U8), 0x2a, 0x36, 0x38, 0x3a, 0x45, 0x46].contains scan_code then false
  else scan_code ≠ 0xe0 && scan_code ≠ 0xe1

/-- A key that is pressed repeats after the initial delay, where there is one. -/
def keyboard_arm (keyboard : KeyboardEndpoint) (make : List U8) (repeatable : Bool) :
    KeyboardEndpoint :=
  if keyboard.initial_ticks ≠ 0 ∧ keyboard.repeat_ticks ≠ 0 ∧ repeatable then
    { keyboard with repeat_bytes := make, remaining_ticks := keyboard.initial_ticks }
  else keyboard

/-- A key that is released repeats no more. -/
def keyboard_disarm (keyboard : KeyboardEndpoint) (make : List U8) : KeyboardEndpoint :=
  if keyboard.repeat_bytes = make then { keyboard with repeat_bytes := [], remaining_ticks := 0 }
  else keyboard

/-- The end of `keyboard_track_native_byte`, with a complete sequence. -/
def keyboard_track_key (keyboard : KeyboardEndpoint) (extended released : Bool) (byte : U8) :
    KeyboardEndpoint :=
  let code := if keyboard.scan_set = 1 then byte &&& 0x7f else byte
  let make := if extended then [0xe0, code] else [code]
  let known :=
    if keyboard.scan_set = 1 then if code ≠ 0 then some code else none
    else keyboard_set2_to_set1 byte
  match known with
  | none => keyboard
  | some set1 =>
    if released then keyboard_disarm keyboard make
    else keyboard_arm keyboard make (keyboard_is_repeatable set1 && !(extended && set1 = 0x37))

/-- `keyboard_track_native_byte`. -/
def keyboard_track_native_byte (keyboard : KeyboardEndpoint) (byte : U8) :
    Except Status KeyboardEndpoint :=
  if 8 ≤ keyboard.input_prefix.length then .error .invalid_argument
  else if keyboard.input_prefix ≠ [] ∧ keyboard.input_prefix.head? ≠ some 0xe1 ∧
      (byte = 0xe0 ∨ byte = 0xe1 ∨
        (byte = 0xf0 ∧ keyboard.input_prefix.getLast? = some 0xf0)) then
    .error .invalid_argument
  else
    let sequence := keyboard.input_prefix ++ [byte]
    if sequence.head? = some 0xe1 then
      let pause := if keyboard.scan_set = 1 then pause_set1 else pause_set2
      if pause[sequence.length - 1]? ≠ some byte then .error .invalid_argument
      else if sequence.length = pause.length then .ok { keyboard with input_prefix := [] }
      else .ok { keyboard with input_prefix := sequence }
    else
      let extended := decide (sequence.head? = some 0xe0)
      if extended ∧ sequence.length = 1 then .ok { keyboard with input_prefix := sequence }
      else if keyboard.scan_set = 2 ∧ byte = 0xf0 then
        .ok { keyboard with input_prefix := sequence }
      else
        let released :=
          if keyboard.scan_set = 1 then byte &&& 0x80 != 0
          else sequence[if extended then 1 else 0]? = some 0xf0
        .ok (keyboard_track_key { keyboard with input_prefix := [] } extended released byte)

/-- The end of `keyboard_prepare_set3_byte`, with a key and its type. -/
def keyboard_prepare_set3_key (keyboard : KeyboardEndpoint) (byte type : U8)
    (output : List U8) (capacity : ℕ) : Except Status (KeyboardEndpoint × List U8) :=
  let released := keyboard.input_prefix ≠ []
  let needed := if released then if is_set type keyboard_key_break then 2 else 0 else 1
  if capacity - output.length < needed then .error .no_memory
  else
    let keyboard := { keyboard with input_prefix := [] }
    if released then
      .ok (keyboard_disarm keyboard [byte],
        if is_set type keyboard_key_break then output ++ [0xf0, byte] else output)
    else
      .ok (keyboard_arm keyboard [byte] (is_set type keyboard_key_repeat), output ++ [byte])

/-- `keyboard_prepare_set3_byte`. -/
def keyboard_prepare_set3_byte (keyboard : KeyboardEndpoint) (byte : U8) (output : List U8)
    (capacity : ℕ) : Except Status (KeyboardEndpoint × List U8) :=
  if byte = 0xf0 then
    if keyboard.input_prefix ≠ [] then .error .invalid_argument
    else .ok ({ keyboard with input_prefix := [byte] }, output)
  else
    match keyboard.key_types.read byte.toNat with
    | none => .error .invalid_argument
    | some type =>
      if type = 0 then .error .invalid_argument
      else keyboard_prepare_set3_key keyboard byte type output capacity

/-- A byte of the loop of `x86_keyboard_admit`: the candidate and the output prepared. -/
def keyboard_admit_byte (capacity : ℕ) (prepared : KeyboardEndpoint × List U8) (byte : U8) :
    Except Status (KeyboardEndpoint × List U8) :=
  if prepared.1.scan_set = 3 then
    keyboard_prepare_set3_byte prepared.1 byte prepared.2 capacity
  else (keyboard_track_native_byte prepared.1 byte).map fun candidate => (candidate, prepared.2)

/-- `x86_keyboard_admit`: the status, the output and what is left of the keyboard. -/
def keyboard_admit (keyboard : KeyboardEndpoint) (bytes : List U8) (capacity : ℕ) :
    Status × List U8 × KeyboardEndpoint :=
  if !keyboard_scanning keyboard then (.invalid_state, [], keyboard)
  else if keyboard.scan_set ≠ 3 ∧ capacity < bytes.length then (.no_memory, [], keyboard)
  else
    match bytes.foldlM (keyboard_admit_byte capacity) (keyboard, []) with
    | .error status => (status, [], keyboard)
    | .ok (candidate, output) =>
      (.ok, if candidate.scan_set = 3 then output else bytes, candidate)

/-! ## Time -/

/-- `x86_keyboard_set_typematic_timing`. -/
def keyboard_set_typematic_timing (keyboard : KeyboardEndpoint)
    (initial_ticks repeat_ticks : U32) : KeyboardEndpoint :=
  keyboard_apply_typematic
    { keyboard with
      nominal_initial_ticks := initial_ticks, nominal_repeat_ticks := repeat_ticks }

/-- A sink of repeats: its answer, its context and what it has delivered. -/
abbrev RepeatSink (γ : Type) := γ → KeyboardHistory → List U8 → Status × γ × KeyboardHistory

variable {γ : Type}

/-- The loop of `x86_keyboard_advance`, for at most so many rounds: whether a sequence was
accepted, the sink's context and the keyboard. -/
def keyboard_advance_loop (sink : RepeatSink γ) :
    ℕ → ℕ → Bool → γ → KeyboardEndpoint → Option (Bool × γ × KeyboardEndpoint)
  | 0, _, _, _, _ => none
  | rounds + 1, elapsed_ticks, accepted, context, keyboard =>
    if keyboard.remaining_ticks ≤ elapsed_ticks then
      let (status, context, history) := sink context keyboard.history keyboard.repeat_bytes
      let keyboard := { keyboard with history := history }
      if status ≠ .ok then some (accepted, context, { keyboard with remaining_ticks := 0 })
      else
        keyboard_advance_loop sink rounds (elapsed_ticks - keyboard.remaining_ticks) true context
          { keyboard with remaining_ticks := keyboard.repeat_ticks }
    else
      some (accepted, context,
        { keyboard with remaining_ticks := keyboard.remaining_ticks - elapsed_ticks })

/-- `x86_keyboard_advance`. -/
def keyboard_advance (sink : RepeatSink γ) (rounds elapsed_ticks : ℕ) (context : γ)
    (keyboard : KeyboardEndpoint) : Option (Bool × γ × KeyboardEndpoint) :=
  if keyboard.repeat_bytes = [] ∨ keyboard_scanning keyboard = false then
    some (false, context, keyboard)
  else keyboard_advance_loop sink rounds elapsed_ticks false context keyboard

end Nxvm.Chips
