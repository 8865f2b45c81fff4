/-
The keyboard controller (`controller.h`, `controller.c` of `kbc8042`).

The output FIFO and the backlog of the keyboard are lists, oldest first, where the source
has rings, and the reply waiting for its publication is an `Option`, where the source has
its count. The endpoints behind the link are a context that only the link reads; what an
endpoint may call back while it is written to is an interaction.

A journal notes what goes into the FIFO and out of it and which replies are handed over.
It is no part of the controller: nothing here reads it.
-/
import Nxvm.Chips.Words
import Nxvm.Lib.Register
import Nxvm.Machine.Status

set_option autoImplicit false

namespace Nxvm.Chips

open Nxvm.Lib Nxvm.Lib.Register Nxvm.Machine

/-! ## The controller -/

/-- `x86_kbc8042_origin`. -/
inductive KbcOrigin where
  | controller
  | keyboard
  | aux
  deriving DecidableEq, Repr

/-- `kbc_pending_write`. -/
inductive KbcPendingWrite where
  | none
  | command_byte
  | output_port
  | aux_device
  | aux_discard
  deriving DecidableEq, Repr

/-- `x86_kbc8042_keyboard_inputs`. -/
structure KeyboardInputs where
  scan_set : U8
  scanning : Bool
  bat_ready : Bool
  repeat_pending : Bool
  repeat_ticks : ℕ
  repeat_bytes : ℕ
  deriving DecidableEq, Repr

def kbc_fifo_capacity : ℕ := 64
def kbc_keyboard_serial_capacity : ℕ := 64
def kbc_response_capacity : ℕ := 4

def kbc_command_irq1 : U8 := 0x01
def kbc_command_irq12 : U8 := 0x02
def kbc_command_system : U8 := 0x04
def kbc_command_inhibit_override : U8 := 0x08
def kbc_command_disable_keyboard : U8 := 0x10
def kbc_command_disable_aux : U8 := 0x20
def kbc_command_pc_mode : U8 := 0x20
def kbc_command_translation : U8 := 0x40
def kbc_bat_ok : U8 := 0xaa

/-- An entry of the output FIFO. -/
abbrev KbcEntry := U8 × KbcOrigin

/-- A reply that the controller accepts: one to `KBC_RESPONSE_CAPACITY` bytes. -/
structure KbcReply where
  bytes : List U8
  origin : KbcOrigin
  length_pos : 0 < bytes.length
  length_le : bytes.length ≤ kbc_response_capacity
  deriving DecidableEq

/-- What a reply becomes in the FIFO. -/
def KbcReply.entries (reply : KbcReply) : List KbcEntry :=
  reply.bytes.map fun byte => (byte, reply.origin)

/-- `x86_kbc8042` without its link. -/
structure Kbc where
  command_byte : U8
  output_port : U8
  input_port : U8
  test_inputs : U8
  fifo : List KbcEntry
  special_read_data : U8
  special_read_pending : Bool
  keyboard_serial : List U8
  pending_write : KbcPendingWrite
  input_buffer_full : Bool
  last_write_command : Bool
  output_inhibit_released : Bool
  irq1_asserted : Bool
  irq12_asserted : Bool
  aux_enabled : Bool
  set2_break_pending : Bool
  set2_pause_bytes : List U8
  delayed_response : Option KbcReply
  response_status_polls_remaining : ℕ
  response_remaining_ticks : ℕ
  serial_delivery_remaining_ticks : ℕ
  command_response_ticks : ℕ
  serial_delivery_ticks : ℕ
  output_pulse_ticks : ℕ
  output_pulse_remaining_ticks : ℕ
  output_pulse_mask : U8
  command_response_status_polls : ℕ
  aux_present : Bool
  reset_output_port : U8
  reset_system_flag : Bool
  reset_command_byte : Option U8
  deriving DecidableEq

/-- What the journal notes. -/
inductive KbcEvent where
  /-- A reply handed to `x86_kbc8042_schedule_response`. -/
  | handed (reply : KbcReply)
  /-- The waiting reply put into the FIFO. -/
  | published (reply : KbcReply)
  /-- Any other byte put into the FIFO. -/
  | queued (entry : KbcEntry)
  /-- The oldest byte taken from the FIFO. -/
  | taken (entry : KbcEntry)
  /-- The FIFO and the waiting reply discarded. -/
  | cleared
  deriving DecidableEq

/-! ## The link -/

/-- What an endpoint does while it is written to: it may hand over replies and reset the
keyboard stream, and its own state is the context. -/
inductive EndpointWrite (σ : Type) where
  | done (context : σ)
  | reply (context : σ) (origin : KbcOrigin) (bytes : List U8) (next : σ → EndpointWrite σ)
  | reset_stream (next : EndpointWrite σ)

/-- What the keyboard does while it is advanced: it may emit sequences, and it answers
whether it has. -/
inductive KeyboardAdvance (σ : Type) where
  | done (answer : Bool) (context : σ)
  | emit (bytes : List U8) (next : Status → KeyboardAdvance σ)

/-- `x86_kbc8042_command_extension_result`, with the byte of a special read. -/
inductive CommandExtensionResult where
  | unhandled
  | handled
  | special_read (data : U8)
  deriving DecidableEq, Repr

/-- `x86_kbc8042_link`. -/
structure KbcLink (σ : Type) where
  keyboard_inputs : σ → KeyboardInputs
  keyboard_start : σ → Bool × σ
  keyboard_take_bat : σ → Bool × σ
  keyboard_clear_bat : σ → σ
  keyboard_cancel_parameter : σ → σ
  keyboard_write : σ → U8 → EndpointWrite σ
  aux_write : σ → U8 → EndpointWrite σ
  keyboard_accepted : σ → U8 → σ
  keyboard_admit : σ → List U8 → ℕ → Status × List U8 × σ
  keyboard_advance : σ → ℕ → KeyboardAdvance σ
  irq : σ → Bool → Bool → σ
  output_port : σ → U8 → σ
  command_extension : Option (σ → U8 → U8 → U8 → CommandExtensionResult × σ)

/-- The controller, the endpoints' context and the journal. -/
structure KbcState (σ : Type) where
  chip : Kbc
  context : σ
  journal : List KbcEvent

/-- The state with an event noted. -/
def KbcState.note {σ : Type} (s : KbcState σ) (event : KbcEvent) : KbcState σ :=
  { s with journal := s.journal ++ [event] }

/-! ## Interrupts -/

/-- `x86_kbc8042_translation_enabled`. -/
def kbc_translation_enabled (chip : Kbc) : Bool :=
  is_set chip.command_byte kbc_command_translation &&
    (chip.aux_present || !is_set chip.command_byte kbc_command_pc_mode)

/-- The origin of the byte at the head of the FIFO. -/
def kbc_head_origin (chip : Kbc) : Option KbcOrigin := chip.fifo.head?.map Prod.snd

/-- Bytes of this origin are IRQ1's. -/
def is_irq1_origin (chip : Kbc) (origin : KbcOrigin) : Bool :=
  decide (origin = .keyboard) || (!chip.aux_present && decide (origin = .controller))

section Link

variable {σ : Type} (link : KbcLink σ)

def kbc_deassert_irq1 (s : KbcState σ) : KbcState σ :=
  if !s.chip.irq1_asserted then s
  else
    { s with
      context := link.irq s.context false false
      chip := { s.chip with irq1_asserted := false } }

def kbc_deassert_irq12 (s : KbcState σ) : KbcState σ :=
  if !s.chip.irq12_asserted then s
  else
    { s with
      context := link.irq s.context true false
      chip := { s.chip with irq12_asserted := false } }

def kbc_assert_irq1 (s : KbcState σ) : KbcState σ :=
  { s with
    context := link.irq s.context false true
    chip := { s.chip with irq1_asserted := true } }

def kbc_assert_irq12 (s : KbcState σ) : KbcState σ :=
  { s with
    context := link.irq s.context true true
    chip := { s.chip with irq12_asserted := true } }

/-- The interrupt of the auxiliary device is enabled. -/
def irq12_enabled (chip : Kbc) : Bool :=
  chip.aux_present && chip.aux_enabled && is_set chip.command_byte kbc_command_irq12 &&
    !is_set chip.command_byte kbc_command_disable_aux

/-- `x86_kbc8042_refresh_current_irq`. -/
def kbc_refresh_current_irq (s : KbcState σ) : KbcState σ :=
  match kbc_head_origin s.chip with
  | none => kbc_deassert_irq12 link (kbc_deassert_irq1 link s)
  | some origin =>
    if is_irq1_origin s.chip origin then
      let s := kbc_deassert_irq12 link s
      if !s.chip.irq1_asserted && is_set s.chip.command_byte kbc_command_irq1 then
        kbc_assert_irq1 link s
      else s
    else if origin = .aux then
      let s := kbc_deassert_irq1 link s
      if !s.chip.irq12_asserted && irq12_enabled s.chip then kbc_assert_irq12 link s else s
    else kbc_deassert_irq12 link (kbc_deassert_irq1 link s)

/-! ## The output FIFO -/

/-- `x86_kbc8042_enqueue`. -/
def kbc_enqueue (s : KbcState σ) (value : U8) (origin : KbcOrigin) : Status × KbcState σ :=
  if kbc_fifo_capacity ≤ s.chip.fifo.length then (.invalid_state, s)
  else
    let chip := { s.chip with
      fifo := s.chip.fifo ++ [(value, origin)]
      output_inhibit_released :=
        if s.chip.fifo.isEmpty then is_set s.chip.input_port 0x80
        else s.chip.output_inhibit_released }
    let context :=
      if origin = .keyboard then link.keyboard_accepted s.context value else s.context
    (.ok, kbc_refresh_current_irq link { s with chip, context })

/-- `x86_kbc8042_enqueue` of a byte that is not of the waiting reply, with its note. -/
def kbc_queue_byte (s : KbcState σ) (value : U8) (origin : KbcOrigin) : Status × KbcState σ :=
  let answer := kbc_enqueue link s value origin
  if answer.1 = .ok then (.ok, answer.2.note (.queued (value, origin))) else answer

/-- A byte after the other, of one origin. -/
def kbc_queue_bytes (s : KbcState σ) (bytes : List U8) (origin : KbcOrigin) : KbcState σ :=
  bytes.foldl (fun s byte => (kbc_queue_byte link s byte origin).2) s

/-- `x86_kbc8042_reset_keyboard_stream`. -/
def kbc_reset_keyboard_stream (s : KbcState σ) : KbcState σ :=
  { s with chip := { s.chip with
      keyboard_serial := []
      serial_delivery_remaining_ticks := 0
      set2_break_pending := false
      set2_pause_bytes := [] } }

/-- The FIFO and the waiting reply, discarded. -/
def kbc_discard_output (s : KbcState σ) : KbcState σ :=
  { s with chip := { s.chip with
    fifo := []
    special_read_pending := false
    delayed_response := none
    response_remaining_ticks := 0
    response_status_polls_remaining := 0 } }.note .cleared

/-- `x86_kbc8042_flush_output`. -/
def kbc_flush_output (s : KbcState σ) : KbcState σ :=
  let s := kbc_discard_output (kbc_reset_keyboard_stream s)
  let s := { s with context := link.keyboard_clear_bat s.context }
  kbc_deassert_irq12 link (kbc_deassert_irq1 link s)

/-! ## The keyboard's stream -/

/-- `x86_kbc8042_queue_native_bytes`. -/
def kbc_queue_native_bytes (s : KbcState σ) (bytes : List U8) : Status × KbcState σ :=
  if kbc_keyboard_serial_capacity - s.chip.keyboard_serial.length < bytes.length then
    (.no_memory, s)
  else
    (.ok, { s with chip := { s.chip with
      keyboard_serial := s.chip.keyboard_serial ++ bytes
      serial_delivery_remaining_ticks :=
        if bytes.length ≠ 0 ∧ s.chip.serial_delivery_ticks ≠ 0 ∧
            s.chip.serial_delivery_remaining_ticks = 0 then s.chip.serial_delivery_ticks
        else s.chip.serial_delivery_remaining_ticks } })

/-- `x86_kbc8042_keyboard_scan_delivery_enabled`, with the controller's command byte. -/
def kbc_keyboard_scan_delivery_enabled (chip : Kbc) : Bool :=
  !is_set chip.command_byte kbc_command_disable_keyboard &&
    (is_set chip.command_byte kbc_command_inhibit_override || is_set chip.input_port 0x80)

/-- `x86_kbc8042_keyboard_serial_delivery_pending`. -/
def kbc_keyboard_serial_delivery_pending (s : KbcState σ) : Bool :=
  !s.chip.keyboard_serial.isEmpty && (link.keyboard_inputs s.context).scanning &&
    kbc_keyboard_scan_delivery_enabled s.chip

/-- The table of `x86_keyboard_set2_to_set1`. -/
def set2_to_set1_map : List (U8 × U8) :=
  [(0x01, 0x43), (0x03, 0x3f), (0x04, 0x3d), (0x05, 0x3b), (0x06, 0x3c), (0x07, 0x58),
    (0x09, 0x44), (0x0a, 0x42), (0x0b, 0x40), (0x0c, 0x3e), (0x0d, 0x0f), (0x0e, 0x29),
    (0x11, 0x38), (0x12, 0x2a), (0x14, 0x1d), (0x15, 0x10), (0x16, 0x02), (0x1a, 0x2c),
    (0x1b, 0x1f), (0x1c, 0x1e), (0x1d, 0x11), (0x1e, 0x03), (0x21, 0x2e), (0x22, 0x2d),
    (0x23, 0x20), (0x24, 0x12), (0x25, 0x05), (0x26, 0x04), (0x29, 0x39), (0x2a, 0x2f),
    (0x2b, 0x21), (0x2c, 0x14), (0x2d, 0x13), (0x2e, 0x06), (0x31, 0x31), (0x32, 0x30),
    (0x33, 0x23), (0x34, 0x22), (0x35, 0x15), (0x36, 0x07), (0x3a, 0x32), (0x3b, 0x24),
    (0x3c, 0x16), (0x3d, 0x08), (0x3e, 0x09), (0x41, 0x33), (0x42, 0x25), (0x43, 0x17),
    (0x44, 0x18), (0x45, 0x0b), (0x46, 0x0a), (0x49, 0x34), (0x4a, 0x35), (0x4b, 0x26),
    (0x4c, 0x27), (0x4d, 0x19), (0x4e, 0x0c), (0x52, 0x28), (0x54, 0x1a), (0x55, 0x0d),
    (0x58, 0x3a), (0x59, 0x36), (0x5a, 0x1c), (0x5b, 0x1b), (0x5d, 0x2b), (0x66, 0x0e),
    (0x69, 0x4f), (0x6b, 0x4b), (0x6c, 0x47), (0x70, 0x52), (0x71, 0x53), (0x72, 0x50),
    (0x73, 0x4c), (0x74, 0x4d), (0x75, 0x48), (0x76, 0x01), (0x77, 0x45), (0x78, 0x57),
    (0x79, 0x4e), (0x7a, 0x51), (0x7b, 0x4a), (0x7c, 0x37), (0x7d, 0x49), (0x7e, 0x46),
    (0x83, 0x41)]

/-- `x86_keyboard_set2_to_set1`, where the code is known. -/
def keyboard_set2_to_set1 (set2 : U8) : Option U8 := set2_to_set1_map.lookup set2

/-- The native sequence of Pause and what it becomes. -/
def pause_set2 : List U8 := [0xe1, 0x14, 0x77, 0xe1, 0xf0, 0x14, 0xf0, 0x77]

def pause_set1 : List U8 := [0xe1, 0x1d, 0x45, 0xe1, 0x9d, 0xc5]

/-- `x86_kbc8042_enqueue_set1_pause`. -/
def kbc_enqueue_set1_pause (s : KbcState σ) : Status × KbcState σ :=
  if kbc_fifo_capacity - s.chip.fifo.length < pause_set1.length then (.invalid_state, s)
  else (.ok, kbc_queue_bytes link s pause_set1 .keyboard)

def kbc_set_pause_bytes (s : KbcState σ) (set2_pause_bytes : List U8) : KbcState σ :=
  { s with chip := { s.chip with set2_pause_bytes } }

def kbc_set_break_pending (s : KbcState σ) (set2_break_pending : Bool) : KbcState σ :=
  { s with chip := { s.chip with set2_break_pending } }

/-- A byte of Pause in `x86_kbc8042_translate_set2_byte`. -/
def kbc_translate_pause_byte (s : KbcState σ) (native_byte : U8) : Status × KbcState σ :=
  let bytes := s.chip.set2_pause_bytes ++ [native_byte]
  if pause_set2.length ≤ s.chip.set2_pause_bytes.length then (.invalid_state, s)
  else if bytes.length < pause_set2.length then (.ok, kbc_set_pause_bytes s bytes)
  else if bytes ≠ pause_set2 then (.unsupported, kbc_set_pause_bytes s [])
  else kbc_enqueue_set1_pause link (kbc_set_pause_bytes s [])

/-- `x86_kbc8042_translate_set2_byte`. -/
def kbc_translate_set2_byte (s : KbcState σ) (native_byte : U8) : Status × KbcState σ :=
  if s.chip.set2_pause_bytes ≠ [] ∨ native_byte = 0xe1 then
    kbc_translate_pause_byte link s native_byte
  else if native_byte = 0xe0 then kbc_queue_byte link s native_byte .keyboard
  else if native_byte = 0xf0 then (.ok, kbc_set_break_pending s true)
  else
    match keyboard_set2_to_set1 native_byte with
    | none => (.unsupported, s)
    | some translated =>
      kbc_queue_byte link (kbc_set_break_pending s false)
        (if s.chip.set2_break_pending then translated ||| 0x80 else translated) .keyboard

/-- `x86_kbc8042_publish_native_byte`. -/
def kbc_publish_native_byte (s : KbcState σ) (native_byte : U8) : Status × KbcState σ :=
  if (link.keyboard_inputs s.context).scan_set = 2 ∧ kbc_translation_enabled s.chip then
    kbc_translate_set2_byte link s native_byte
  else kbc_queue_byte link s native_byte .keyboard

/-- `x86_kbc8042_drain_keyboard_serial`: one scan byte into an empty FIFO. -/
def kbc_drain_keyboard_serial (s : KbcState σ) : KbcState σ :=
  if s.chip.serial_delivery_remaining_ticks ≠ 0 ∨
      kbc_keyboard_serial_delivery_pending link s = false then s
  else
    match s.chip.fifo, s.chip.keyboard_serial with
    | [], native_byte :: _ =>
      let answer := kbc_publish_native_byte link s native_byte
      let s := answer.2
      if answer.1 ≠ .ok ∧ answer.1 ≠ .unsupported then s
      else
        { s with chip := { s.chip with
          keyboard_serial := s.chip.keyboard_serial.tail
          serial_delivery_remaining_ticks :=
            if s.chip.serial_delivery_ticks ≠ 0 then s.chip.serial_delivery_ticks
            else s.chip.serial_delivery_remaining_ticks } }
    | _, _ => s

/-! ## Time -/

/-- `x86_kbc8042_apply_output_port`. -/
def kbc_apply_output_port (s : KbcState σ) (value : U8) : KbcState σ :=
  { s with
    chip := { s.chip with output_port := value }
    context := link.output_port s.context (value &&& ~~~s.chip.output_pulse_mask) }

/-- The output pulses in `x86_kbc8042_advance`. -/
def kbc_advance_pulses (s : KbcState σ) (elapsed_ticks : ℕ) : KbcState σ :=
  if s.chip.output_pulse_mask = 0 then s
  else if elapsed_ticks < s.chip.output_pulse_remaining_ticks then
    { s with chip := { s.chip with
      output_pulse_remaining_ticks := s.chip.output_pulse_remaining_ticks - elapsed_ticks } }
  else
    let s := { s with chip := { s.chip with
      output_pulse_remaining_ticks := 0, output_pulse_mask := 0 } }
    kbc_apply_output_port link s s.chip.output_port

/-- The serial cadence in `x86_kbc8042_advance`; natural subtraction stops at zero. -/
def kbc_advance_serial (s : KbcState σ) (elapsed_ticks : ℕ) : KbcState σ :=
  { s with chip := { s.chip with
    serial_delivery_remaining_ticks :=
      s.chip.serial_delivery_remaining_ticks - elapsed_ticks } }

/-- The keyboard's BAT in `x86_kbc8042_advance`. -/
def kbc_advance_bat (s : KbcState σ) : KbcState σ :=
  if s.chip.fifo.isEmpty && s.chip.delayed_response.isNone then
    let answer := link.keyboard_take_bat s.context
    let s := { s with context := answer.2 }
    if answer.1 then (kbc_queue_byte link s kbc_bat_ok .keyboard).2 else s
  else s

/-- `x86_kbc8042_response_can_publish`, for a waiting reply. -/
def kbc_response_can_publish (s : KbcState σ) (reply : KbcReply) : Bool :=
  decide (s.chip.response_status_polls_remaining = 0) &&
    !kbc_keyboard_serial_delivery_pending link s &&
    decide (reply.bytes.length ≤ kbc_fifo_capacity - s.chip.fifo.length)

/-- The publication of the waiting reply. -/
def kbc_publish_response (s : KbcState σ) (reply : KbcReply) : KbcState σ :=
  let s := reply.bytes.foldl (fun s byte => (kbc_enqueue link s byte reply.origin).2) s
  { s with chip := { s.chip with delayed_response := none } }.note (.published reply)

/-- The waiting reply in `x86_kbc8042_advance`. -/
def kbc_advance_response (s : KbcState σ) (elapsed_ticks : ℕ) : KbcState σ :=
  match s.chip.delayed_response with
  | none => s
  | some reply =>
    if elapsed_ticks < s.chip.response_remaining_ticks then
      { s with chip := { s.chip with
        response_remaining_ticks := s.chip.response_remaining_ticks - elapsed_ticks } }
    else
      let s := { s with chip := { s.chip with response_remaining_ticks := 0 } }
      if kbc_response_can_publish link s reply then kbc_publish_response link s reply else s

/-- `x86_kbc8042_repeat_can_publish`. -/
def kbc_repeat_can_publish (s : KbcState σ) : Bool :=
  let keyboard := link.keyboard_inputs s.context
  keyboard.repeat_pending && decide (keyboard.repeat_bytes ≠ 0) && keyboard.scanning &&
    kbc_keyboard_scan_delivery_enabled s.chip &&
    decide (keyboard.repeat_bytes ≤ kbc_keyboard_serial_capacity - s.chip.keyboard_serial.length)

/-- The keyboard's part of an advance, with `x86_kbc8042_repeat` as the sink. -/
def kbc_run_keyboard_advance (s : KbcState σ) : KeyboardAdvance σ → Bool × KbcState σ
  | .done answer context => (answer, { s with context })
  | .emit bytes next =>
    let answer := kbc_queue_native_bytes s bytes
    kbc_run_keyboard_advance answer.2 (next answer.1)

/-- The repeats in `x86_kbc8042_advance`. -/
def kbc_advance_repeat (s : KbcState σ) (elapsed_ticks : ℕ) : KbcState σ :=
  if kbc_repeat_can_publish link s then
    let answer := kbc_run_keyboard_advance s (link.keyboard_advance s.context elapsed_ticks)
    if answer.1 then kbc_drain_keyboard_serial link answer.2 else answer.2
  else s

/-- `x86_kbc8042_advance`. -/
def kbc_advance (s : KbcState σ) (elapsed_ticks : ℕ) : KbcState σ :=
  let s := kbc_advance_pulses link s elapsed_ticks
  let s := kbc_advance_serial s elapsed_ticks
  let s := kbc_drain_keyboard_serial link s
  let s := kbc_advance_bat link s
  let s := kbc_advance_response link s elapsed_ticks
  kbc_advance_repeat link s elapsed_ticks

/-! ## Replies -/

/-- `x86_kbc8042_schedule_response`, past the check of the count. -/
def kbc_schedule_reply (s : KbcState σ) (reply : KbcReply) : KbcState σ :=
  let s := s.note (.handed reply)
  if s.chip.delayed_response.isSome then s
  else
    let s := { s with chip := { s.chip with
      delayed_response := some reply
      response_remaining_ticks := s.chip.command_response_ticks
      response_status_polls_remaining := s.chip.command_response_status_polls } }
    if s.chip.command_response_ticks = 0 ∧ s.chip.response_status_polls_remaining = 0 then
      kbc_advance link s 0
    else s

/-- `x86_kbc8042_schedule_response`. -/
def kbc_schedule_response (s : KbcState σ) (bytes : List U8) (origin : KbcOrigin) : KbcState σ :=
  if h : 0 < bytes.length ∧ bytes.length ≤ kbc_response_capacity then
    kbc_schedule_reply link s ⟨bytes, origin, h.1, h.2⟩
  else s

/-- `x86_kbc8042_schedule_response_byte`. -/
def kbc_schedule_response_byte (s : KbcState σ) (value : U8) (origin : KbcOrigin) : KbcState σ :=
  kbc_schedule_response link s [value] origin

/-- `x86_kbc8042_receive_reply`: the identity of the keyboard is translated here. -/
def kbc_receive_reply (s : KbcState σ) (origin : KbcOrigin) (bytes : List U8) : KbcState σ :=
  if origin = .keyboard ∧ bytes = [0xfa, 0xab, 0x83] ∧ kbc_translation_enabled s.chip then
    kbc_schedule_response link s [0xfa, 0xab, 0x41] origin
  else kbc_schedule_response link s bytes origin

/-- An endpoint that is written to. -/
def kbc_run_endpoint (s : KbcState σ) : EndpointWrite σ → KbcState σ
  | .done context => { s with context }
  | .reply context origin bytes next =>
    let s := kbc_receive_reply link { s with context } origin bytes
    kbc_run_endpoint s (next s.context)
  | .reset_stream next => kbc_run_endpoint (kbc_reset_keyboard_stream s) next

/-! ## Reads -/

/-- The pop of `x86_kbc8042_dequeue`. -/
def kbc_pop (s : KbcState σ) (entry : KbcEntry) (rest : List KbcEntry) : KbcState σ :=
  { s with chip := { s.chip with
    fifo := rest
    output_inhibit_released :=
      if rest.isEmpty then s.chip.output_inhibit_released
      else is_set s.chip.input_port 0x80 } }.note (.taken entry)

/-- The acknowledgement of exactly the origin of the byte that is read. -/
def kbc_acknowledge (s : KbcState σ) (origin : KbcOrigin) : KbcState σ :=
  if is_irq1_origin s.chip origin then kbc_deassert_irq1 link s
  else if origin = .aux then kbc_deassert_irq12 link s
  else s

/-- `x86_kbc8042_dequeue`, until the queued successor has its edge. -/
def kbc_take (s : KbcState σ) (entry : KbcEntry) (rest : List KbcEntry) : KbcState σ :=
  kbc_refresh_current_irq link (kbc_acknowledge link (kbc_pop s entry rest) entry.2)

/-- `x86_kbc8042_dequeue`. -/
def kbc_dequeue (s : KbcState σ) : U8 × KbcState σ :=
  match s.chip.fifo with
  | [] => (0, s)
  | entry :: rest =>
    (entry.1, kbc_drain_keyboard_serial link (kbc_advance link (kbc_take link s entry rest) 0))

/-- `x86_kbc8042_read_data`. -/
def kbc_read_data (s : KbcState σ) : U8 × KbcState σ :=
  if s.chip.special_read_pending then
    (s.chip.special_read_data, { s with chip := { s.chip with special_read_pending := false } })
  else kbc_dequeue link s

/-- `x86_kbc8042_status`. -/
def kbc_status (chip : Kbc) : U8 :=
  (if chip.fifo.isEmpty then 0 else 0x01) |||
    (if chip.input_buffer_full then 0x02 else 0) |||
    (if is_set chip.command_byte kbc_command_system then 0x04 else 0) |||
    (if chip.last_write_command then 0x08 else 0) |||
    (if chip.output_inhibit_released then 0x10 else 0) |||
    (if kbc_head_origin chip = some .aux then 0x20 else 0)

/-- A status poll of a waiting reply. -/
def kbc_poll (s : KbcState σ) : KbcState σ :=
  { s with chip := { s.chip with
    response_status_polls_remaining := s.chip.response_status_polls_remaining - 1 } }

/-- `x86_kbc8042_read_status`. -/
def kbc_read_status (s : KbcState σ) : U8 × KbcState σ :=
  let status := kbc_status s.chip
  if s.chip.delayed_response.isSome ∧ s.chip.response_remaining_ticks = 0 ∧
      s.chip.response_status_polls_remaining ≠ 0 then
    let s := kbc_poll s
    (status, if s.chip.response_status_polls_remaining = 0 then kbc_advance link s 0 else s)
  else (status, s)

/-! ## Writes -/

/-- The command byte that a write leaves. -/
def kbc_masked_command_byte (chip : Kbc) (value : U8) : U8 :=
  (value &&& 0x7d) ||| (if chip.aux_present then value &&& kbc_command_irq12 else 0)

/-- The command byte of `x86_kbc8042_set_command_byte`, before the keyboard is started. -/
def kbc_store_command_byte (s : KbcState σ) (value : U8) : KbcState σ :=
  let command_byte := kbc_masked_command_byte s.chip value
  { s with chip := { s.chip with
    command_byte
    aux_enabled := s.chip.aux_present && !is_set command_byte kbc_command_disable_aux } }

/-- The condition of `x86_kbc8042_set_command_byte` for a start of the keyboard. -/
def kbc_starts_keyboard (chip : Kbc) (previous_command_byte : U8) : Bool :=
  !is_set chip.command_byte kbc_command_disable_keyboard &&
    ((!is_set previous_command_byte kbc_command_inhibit_override &&
        is_set chip.command_byte kbc_command_inhibit_override) ||
      (is_set previous_command_byte kbc_command_disable_keyboard && is_set chip.input_port 0x80))

/-- `x86_kbc8042_set_command_byte`. -/
def kbc_set_command_byte (s : KbcState σ) (value : U8) : KbcState σ :=
  let previous_command_byte := s.chip.command_byte
  let s := kbc_store_command_byte s value
  let s :=
    if kbc_starts_keyboard s.chip previous_command_byte then
      let answer := link.keyboard_start s.context
      let s := { s with context := answer.2 }
      if answer.1 then kbc_advance link s 0 else s
    else s
  kbc_refresh_current_irq link s

/-- The start of a write to either port. -/
def kbc_write_begin (s : KbcState σ) (command : Bool) : KbcState σ :=
  { s with chip := { s.chip with input_buffer_full := true, last_write_command := command } }

/-- The end of a write to either port. -/
def kbc_write_end (s : KbcState σ) : KbcState σ :=
  { s with chip := { s.chip with input_buffer_full := false } }

def kbc_set_pending_write (s : KbcState σ) (pending_write : KbcPendingWrite) : KbcState σ :=
  { s with chip := { s.chip with pending_write } }

/-- The switch of `x86_kbc8042_write_data`. -/
def kbc_write_data_body (s : KbcState σ) (value : U8) : KbcState σ :=
  match s.chip.pending_write with
  | .command_byte => kbc_set_command_byte link (kbc_set_pending_write s .none) value
  | .output_port => kbc_set_pending_write (kbc_apply_output_port link s value) .none
  | .aux_device =>
    let s := kbc_set_pending_write s .none
    kbc_run_endpoint link s (link.aux_write s.context value)
  | .aux_discard => kbc_set_pending_write s .none
  | .none => kbc_run_endpoint link s (link.keyboard_write s.context value)

/-- `x86_kbc8042_write_data`. -/
def kbc_write_data (s : KbcState σ) (value : U8) : KbcState σ :=
  kbc_write_end (kbc_write_data_body link (kbc_write_begin s false) value)

/-- A command that waits for the next data write. -/
def kbc_await_data (s : KbcState σ) (pending_write : KbcPendingWrite) : KbcState σ :=
  kbc_set_pending_write { s with context := link.keyboard_cancel_parameter s.context }
    pending_write

/-- The commands F0h to FEh. -/
def kbc_pulse_output (s : KbcState σ) (command : U8) : KbcState σ :=
  let s := { s with chip := { s.chip with
    output_pulse_mask := s.chip.output_pulse_mask ||| (~~~command &&& 0x0f)
    output_pulse_remaining_ticks := s.chip.output_pulse_ticks } }
  let s := kbc_apply_output_port link s s.chip.output_port
  if s.chip.output_pulse_remaining_ticks = 0 then
    let s := { s with chip := { s.chip with output_pulse_mask := 0 } }
    kbc_apply_output_port link s s.chip.output_port
  else s

/-- A command that no extension has handled. -/
def kbc_write_plain_command (s : KbcState σ) (command : U8) : KbcState σ :=
  if 0xf0 ≤ command.toNat ∧ command ≠ 0xff then kbc_pulse_output link s command else s

/-- What a command extension's result does. -/
def kbc_write_extended_command (s : KbcState σ) (command : U8) :
    CommandExtensionResult → KbcState σ
  | .special_read data =>
    { s with chip := { s.chip with special_read_data := data, special_read_pending := true } }
  | .handled => s
  | .unhandled => kbc_write_plain_command link s command

/-- The default case of `x86_kbc8042_write_command`. -/
def kbc_write_other_command (s : KbcState σ) (command : U8) : KbcState σ :=
  match link.command_extension with
  | none => kbc_write_plain_command link s command
  | some extension =>
    let answer := extension s.context command s.chip.input_port s.chip.command_byte
    kbc_write_extended_command link { s with context := answer.2 } command answer.1

/-- `KBC_COMMAND_SYSTEM` in the command byte. -/
def kbc_store_system (s : KbcState σ) (system : Bool) : KbcState σ :=
  { s with chip := { s.chip with
    command_byte :=
      if system then s.chip.command_byte ||| kbc_command_system
      else s.chip.command_byte &&& ~~~kbc_command_system } }

/-- The self test, AAh. -/
def kbc_self_test (s : KbcState σ) : KbcState σ :=
  let s := kbc_set_pending_write (kbc_flush_output link s) .none
  let s := kbc_set_command_byte link s (s.chip.command_byte ||| kbc_command_disable_keyboard)
  kbc_schedule_response_byte link (kbc_store_system s true) 0x55 .controller

/-- The auxiliary device as the commands A7h and A8h leave it. -/
def kbc_store_aux_enabled (s : KbcState σ) (aux_enabled : Bool) : KbcState σ :=
  { s with chip := { s.chip with
    aux_enabled
    command_byte :=
      if aux_enabled then s.chip.command_byte &&& ~~~kbc_command_disable_aux
      else s.chip.command_byte ||| kbc_command_disable_aux } }

/-- The commands A7h and A8h. -/
def kbc_set_aux_enabled (s : KbcState σ) (aux_enabled : Bool) : KbcState σ :=
  if !s.chip.aux_present then s
  else kbc_refresh_current_irq link (kbc_store_aux_enabled s aux_enabled)

/-- The switch of `x86_kbc8042_write_command`. -/
def kbc_write_command_body (s : KbcState σ) (command : U8) : KbcState σ :=
  if command = 0x20 then kbc_schedule_response_byte link s s.chip.command_byte .controller
  else if command = 0x60 then kbc_await_data link s .command_byte
  else if command = 0xaa then kbc_self_test link s
  else if command = 0xab then kbc_schedule_response_byte link s 0x00 .controller
  else if command = 0xad then
    kbc_set_command_byte link s (s.chip.command_byte ||| kbc_command_disable_keyboard)
  else if command = 0xae then
    kbc_set_command_byte link s (s.chip.command_byte &&& ~~~kbc_command_disable_keyboard)
  else if command = 0xa7 then kbc_set_aux_enabled link s false
  else if command = 0xa8 then kbc_set_aux_enabled link s true
  else if command = 0xa9 then
    kbc_schedule_response_byte link s (if s.chip.aux_present then 0x00 else 0x01) .controller
  else if command = 0xc0 then kbc_schedule_response_byte link s s.chip.input_port .controller
  else if command = 0xd0 then kbc_schedule_response_byte link s s.chip.output_port .controller
  else if command = 0xd1 then kbc_await_data link s .output_port
  else if command = 0xd4 then
    kbc_await_data link s (if s.chip.aux_present then .aux_device else .aux_discard)
  else if command = 0xe0 then kbc_schedule_response_byte link s s.chip.test_inputs .controller
  else kbc_write_other_command link s command

/-- `x86_kbc8042_write_command`. -/
def kbc_write_command (s : KbcState σ) (command : U8) : KbcState σ :=
  kbc_write_end (kbc_write_command_body link (kbc_write_begin s true) command)

/-! ## Deliveries -/

/-- `x86_kbc8042_receive_keyboard_bytes`. -/
def kbc_receive_keyboard_bytes (s : KbcState σ) (native_bytes : List U8) : Status × KbcState σ :=
  if !((link.keyboard_inputs s.context).scanning && kbc_keyboard_scan_delivery_enabled s.chip) then
    (.invalid_state, s)
  else
    let admitted := link.keyboard_admit s.context native_bytes
      (kbc_keyboard_serial_capacity - s.chip.keyboard_serial.length)
    let s := { s with context := admitted.2.2 }
    if admitted.1 ≠ .ok then (admitted.1, s)
    else
      let queued := kbc_queue_native_bytes s admitted.2.1
      if queued.1 ≠ .ok then (queued.1, queued.2)
      else (.ok, kbc_drain_keyboard_serial link queued.2)

/-- `x86_kbc8042_receive_aux_packet`. -/
def kbc_receive_aux_packet (s : KbcState σ) (b0 b1 b2 : U8) : Status × KbcState σ :=
  if !s.chip.aux_present || !s.chip.aux_enabled || s.chip.delayed_response.isSome ||
      decide (kbc_fifo_capacity - s.chip.fifo.length < 3) then
    (.invalid_state, s)
  else (.ok, kbc_queue_bytes link s [b0, b1, b2] .aux)

/-- The auxiliary device as `x86_kbc8042_set_aux_present` leaves it. -/
def kbc_store_aux_present (s : KbcState σ) (present : Bool) : KbcState σ :=
  { s with chip := { s.chip with
    aux_present := present
    aux_enabled := present && s.chip.aux_enabled
    command_byte :=
      if present then s.chip.command_byte
      else s.chip.command_byte &&& ~~~kbc_command_irq12 } }

/-- `x86_kbc8042_set_aux_present`. -/
def kbc_set_aux_present (s : KbcState σ) (present : Bool) : KbcState σ :=
  let s := kbc_store_aux_present s present
  kbc_refresh_current_irq link (if present then s else kbc_deassert_irq12 link s)

/-! ## Reset -/

/-- The controller data that `x86_kbc8042_reset` leaves. -/
def kbc_reset_chip (chip : Kbc) : Kbc :=
  let command_byte := chip.reset_command_byte.getD
    (kbc_command_irq1 ||| (if chip.aux_present then kbc_command_irq12 else 0) |||
      kbc_command_translation ||| (if chip.reset_system_flag then kbc_command_system else 0))
  { command_byte
    output_port := chip.reset_output_port
    input_port := 0x80
    test_inputs := 0
    fifo := []
    special_read_data := 0
    special_read_pending := false
    keyboard_serial := []
    pending_write := .none
    input_buffer_full := false
    last_write_command := false
    output_inhibit_released := true
    irq1_asserted := false
    irq12_asserted := false
    aux_enabled := chip.aux_present && !is_set command_byte kbc_command_disable_aux
    set2_break_pending := false
    set2_pause_bytes := []
    delayed_response := none
    response_status_polls_remaining := 0
    response_remaining_ticks := 0
    serial_delivery_remaining_ticks := 0
    command_response_ticks := chip.command_response_ticks
    serial_delivery_ticks := chip.serial_delivery_ticks
    output_pulse_ticks := chip.output_pulse_ticks
    output_pulse_remaining_ticks := 0
    output_pulse_mask := 0
    command_response_status_polls := chip.command_response_status_polls
    aux_present := chip.aux_present
    reset_output_port := chip.reset_output_port
    reset_system_flag := chip.reset_system_flag
    reset_command_byte := chip.reset_command_byte }

/-- `x86_kbc8042_reset`. -/
def kbc_reset (s : KbcState σ) : KbcState σ :=
  let context := link.irq (link.irq s.context false false) true false
  let s := { s with chip := kbc_reset_chip s.chip, context }
  (kbc_apply_output_port link s s.chip.output_port).note .cleared

/-- The zeroed controller of `x86_kbc8042_create`, with its two defaults. -/
def kbc_allocated : Kbc :=
  { command_byte := 0
    output_port := 0
    input_port := 0
    test_inputs := 0
    fifo := []
    special_read_data := 0
    special_read_pending := false
    keyboard_serial := []
    pending_write := .none
    input_buffer_full := false
    last_write_command := false
    output_inhibit_released := false
    irq1_asserted := false
    irq12_asserted := false
    aux_enabled := false
    set2_break_pending := false
    set2_pause_bytes := []
    delayed_response := none
    response_status_polls_remaining := 0
    response_remaining_ticks := 0
    serial_delivery_remaining_ticks := 0
    command_response_ticks := 0
    serial_delivery_ticks := 0
    output_pulse_ticks := 0
    output_pulse_remaining_ticks := 0
    output_pulse_mask := 0
    command_response_status_polls := 0
    aux_present := true
    reset_output_port := 1
    reset_system_flag := false
    reset_command_byte := none }

/-- `x86_kbc8042_create`, where there is memory and the link is complete. -/
def kbc_create (context : σ) : KbcState σ :=
  kbc_reset link { chip := kbc_allocated, context, journal := [] }

/-! ## Operations -/

/-- The calls of the controller's interface, and a change of the endpoints from elsewhere. -/
inductive KbcOp (σ : Type) where
  | read_data
  | read_status
  | write_data (value : U8)
  | write_command (command : U8)
  | receive_keyboard_bytes (native_bytes : List U8)
  | receive_reply (origin : KbcOrigin) (bytes : List U8)
  | receive_aux_packet (b0 b1 b2 : U8)
  | reset_keyboard_stream
  | advance (elapsed_ticks : ℕ)
  | reset
  | set_aux_present (present : Bool)
  | set_input_port (value : U8)
  | set_test_inputs (value : U8)
  | set_reset_output_port (value : U8)
  | set_reset_system_flag (enabled : Bool)
  | set_reset_command_byte (value : U8)
  | set_command_response_timing (ticks : ℕ)
  | set_command_response_status_polls (polls : ℕ)
  | set_serial_delivery_timing (ticks : ℕ)
  | set_output_pulse_timing (ticks : ℕ)
  | endpoints (context : σ)

/-- The state afterwards. -/
def kbc_apply (s : KbcState σ) : KbcOp σ → KbcState σ
  | .read_data => (kbc_read_data link s).2
  | .read_status => (kbc_read_status link s).2
  | .write_data value => kbc_write_data link s value
  | .write_command command => kbc_write_command link s command
  | .receive_keyboard_bytes native_bytes => (kbc_receive_keyboard_bytes link s native_bytes).2
  | .receive_reply origin bytes => kbc_receive_reply link s origin bytes
  | .receive_aux_packet b0 b1 b2 => (kbc_receive_aux_packet link s b0 b1 b2).2
  | .reset_keyboard_stream => kbc_reset_keyboard_stream s
  | .advance elapsed_ticks => kbc_advance link s elapsed_ticks
  | .reset => kbc_reset link s
  | .set_aux_present present => kbc_set_aux_present link s present
  | .set_input_port value => { s with chip := { s.chip with input_port := value } }
  | .set_test_inputs value => { s with chip := { s.chip with test_inputs := value &&& 0x03 } }
  | .set_reset_output_port value =>
    kbc_apply_output_port link { s with chip := { s.chip with reset_output_port := value } } value
  | .set_reset_system_flag enabled =>
    kbc_store_system { s with chip := { s.chip with reset_system_flag := enabled } } enabled
  | .set_reset_command_byte value =>
    { s with chip := { s.chip with reset_command_byte := some value } }
  | .set_command_response_timing ticks =>
    { s with chip := { s.chip with command_response_ticks := ticks } }
  | .set_command_response_status_polls polls =>
    { s with chip := { s.chip with command_response_status_polls := polls } }
  | .set_serial_delivery_timing ticks =>
    kbc_drain_keyboard_serial link { s with chip := { s.chip with
      serial_delivery_ticks := ticks, serial_delivery_remaining_ticks := 0 } }
  | .set_output_pulse_timing ticks => { s with chip := { s.chip with output_pulse_ticks := ticks } }
  | .endpoints context => { s with context }

end Link

/-- A link without endpoints: no keyboard scans and no write is answered. -/
def kbc_unplugged : KbcLink Unit where
  keyboard_inputs _ := { scan_set := 2, scanning := false, bat_ready := false
                         repeat_pending := false, repeat_ticks := 0, repeat_bytes := 0 }
  keyboard_start _ := (false, ())
  keyboard_take_bat _ := (false, ())
  keyboard_clear_bat _ := ()
  keyboard_cancel_parameter _ := ()
  keyboard_write _ _ := .done ()
  aux_write _ _ := .done ()
  keyboard_accepted _ _ := ()
  keyboard_admit _ bytes _ := (.ok, bytes, ())
  keyboard_advance _ _ := .done false ()
  irq _ _ _ := ()
  output_port _ _ := ()
  command_extension := none

end Nxvm.Chips
