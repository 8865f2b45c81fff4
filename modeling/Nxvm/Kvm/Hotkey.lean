/-
The hotkey matcher (`lib/kvm-base/hotkey.c`).

Every key that is held has one disposition. Its make is withheld while the key may become part
of a chord; it is delivered with the first thing that shows it is not, and it is consumed by
the hotkey that fires. A repeat or a break follows the make's disposition, and it carries the
make's key code, since the layout may have changed in between.

What the sink is handed is kept as a log, in front of which the sink decides what it accepts.
-/
import Mathlib.Data.BitVec
import Mathlib.Data.List.Basic
import Mathlib.Tactic.Common

set_option autoImplicit false

namespace Nxvm.Kvm

/-! ## Events -/

/-- `base_key`. -/
abbrev BaseKey := BitVec 32

abbrev base_key_shift : BaseKey := 0x00030003
abbrev base_key_control : BaseKey := 0x00030004
abbrev base_key_alt : BaseKey := 0x00030005

abbrev base_key_flag_extended : BitVec 32 := 0x01

abbrev base_key_modifier_control : BitVec 8 := 0x01
abbrev base_key_modifier_alt : BitVec 8 := 0x02
abbrev base_key_modifier_shift : BitVec 8 := 0x04

/-- Where an event comes from: the component and the number of its instance. -/
structure EventSource where
  source : ℕ
  source_identity : BitVec 64
  deriving DecidableEq, Repr

/-- A `KVM_EVENT_KEY`. -/
structure KeyEvent where
  origin : EventSource
  scan_code : BitVec 16
  key : BaseKey
  flags : BitVec 32
  modifiers : BitVec 8
  pressed : Bool
  deriving DecidableEq, Repr

/-- The data of a `KVM_EVENT_MOUSE`. -/
structure MouseData where
  delta_x : BitVec 32
  delta_y : BitVec 32
  absolute_x : BitVec 32
  absolute_y : BitVec 32
  wheel_x : BitVec 32
  wheel_y : BitVec 32
  buttons : BitVec 32
  relative : Bool
  deriving DecidableEq, Repr

/-- `kvm_input_event`. -/
inductive InputEvent where
  | key (event : KeyEvent)
  | text (origin : EventSource) (scalar : BitVec 32)
  | mouse (origin : EventSource) (data : MouseData)
  | hotkey (origin : EventSource) (identifier : String)
  | window_close (origin : EventSource)
  | input_reset (origin : EventSource)
  | source_retired (origin : EventSource)
  deriving DecidableEq, Repr

/-! ## Registries -/

/-- `kvm_hotkey_registration`. -/
structure HotkeyRegistration where
  key : BaseKey
  modifiers : BitVec 8
  identifier : String
  deriving DecidableEq, Repr

/-- `kvm_hotkey_registry`: its entries in use. -/
abbrev HotkeyRegistry := List HotkeyRegistration

def modifier_bit (key : BaseKey) : BitVec 8 :=
  if key = base_key_control then base_key_modifier_control
  else if key = base_key_alt then base_key_modifier_alt
  else if key = base_key_shift then base_key_modifier_shift
  else 0

def registry_match (registry : HotkeyRegistry) (key : BaseKey) (modifiers : BitVec 8) :
    Option HotkeyRegistration :=
  registry.find? fun entry => decide (entry.key = key) && decide (entry.modifiers = modifiers)

def registry_has_modifier (registry : HotkeyRegistry) (modifier : BitVec 8) : Bool :=
  decide (modifier ≠ 0) && registry.any fun entry => decide (entry.modifiers &&& modifier ≠ 0)

/-! ## Matchers -/

/-- `kvm_hotkey_key_state`. -/
inductive HotkeyKeyState where
  | pending
  | delivered
  | consumed
  deriving DecidableEq, Repr

/-- `kvm_hotkey_held_key`. -/
structure HeldKey where
  make : KeyEvent
  state : HotkeyKeyState
  allow_replay : Bool
  deriving DecidableEq, Repr

/-- `kvm_hotkey_matcher`. The held keys are in make order. -/
structure HotkeyMatcher where
  registry : HotkeyRegistry
  held : List HeldKey
  held_capacity : ℕ
  failed : Bool
  deriving DecidableEq, Repr

/-- `kvm_hotkey_matcher_initialize`. -/
def matcher_initialize (registry : HotkeyRegistry) : HotkeyMatcher :=
  { registry, held := [], held_capacity := 0, failed := false }

/-- Whether the sink accepts an event, after what it was handed before. -/
abbrev InputSink := List InputEvent → InputEvent → Bool

/-- What a function returns, the matcher and the log of the sink. -/
structure Submission where
  delivered : Bool
  matcher : HotkeyMatcher
  log : List InputEvent

def same_key (a b : KeyEvent) : Bool :=
  if a.flags &&& base_key_flag_extended ≠ b.flags &&& base_key_flag_extended then false
  else if a.scan_code ≠ 0 ∨ b.scan_code ≠ 0 then decide (a.scan_code = b.scan_code)
  else decide (a.key = b.key)

section Matcher

variable (sink : InputSink) (reallocates : ℕ → Bool)

/-- The loop of `kvm_hotkey_flush_pending`: whether all makes were delivered, the keys and
the log. -/
def flush_keys : List HeldKey → List InputEvent → Bool × List HeldKey × List InputEvent
  | [], log => (true, [], log)
  | key :: keys, log =>
    if key.state ≠ .pending then
      let rest := flush_keys keys log
      (rest.1, key :: rest.2.1, rest.2.2)
    else if key.allow_replay then
      if !sink log (.key key.make) then (false, key :: keys, log ++ [.key key.make])
      else
        let rest := flush_keys keys (log ++ [.key key.make])
        (rest.1, { key with state := .delivered } :: rest.2.1, rest.2.2)
    else
      let rest := flush_keys keys log
      (rest.1, { key with state := .delivered } :: rest.2.1, rest.2.2)

def flush_pending (matcher : HotkeyMatcher) (log : List InputEvent) : Submission :=
  let flushed := flush_keys sink matcher.held log
  { delivered := flushed.1
    matcher := { matcher with held := flushed.2.1 }
    log := flushed.2.2 }

/-- `sink(context, event)`. -/
def send (matcher : HotkeyMatcher) (log : List InputEvent) (event : InputEvent) : Submission :=
  { delivered := sink log event, matcher, log := log ++ [event] }

/-- `flush_pending(..) && sink(..)`. -/
def flush_and_send (matcher : HotkeyMatcher) (log : List InputEvent) (event : InputEvent) :
    Submission :=
  let flushed := flush_pending sink matcher log
  if flushed.delivered then send sink flushed.matcher flushed.log event else flushed

/-- A break of the key at `index`: the key is held no longer, if its break is delivered or not
to be delivered. -/
def release_key (matcher : HotkeyMatcher) (log : List InputEvent) (index : ℕ)
    (state : HotkeyKeyState) (event : KeyEvent) : Submission :=
  if state ≠ .consumed then
    let sent := flush_and_send sink matcher log (.key event)
    if sent.delivered then
      { sent with matcher := { sent.matcher with held := sent.matcher.held.eraseIdx index } }
    else sent
  else
    { delivered := true
      matcher := { matcher with held := matcher.held.eraseIdx index }
      log }

/-- The table of the held keys, grown by one; `none` when it cannot grow. -/
def hold_key (matcher : HotkeyMatcher) (event : KeyEvent) (allow_replay : Bool) :
    Option HotkeyMatcher :=
  let held := matcher.held ++ [{ make := event, state := .pending, allow_replay }]
  if matcher.held.length = matcher.held_capacity then
    let capacity := if matcher.held_capacity ≠ 0 then matcher.held_capacity * 2 else 8
    if reallocates capacity then some { matcher with held, held_capacity := capacity } else none
  else some { matcher with held }

/-- No delivered key is among the modifiers of the event. -/
def eligible (matcher : HotkeyMatcher) (event : KeyEvent) : Bool :=
  !matcher.held.any fun key =>
    decide (key.state = .delivered) && decide (modifier_bit key.make.key &&& event.modifiers ≠ 0)

/-- Every pending key becomes part of the chord. -/
def consume_pending (matcher : HotkeyMatcher) : HotkeyMatcher :=
  { matcher with
    held := matcher.held.map fun key =>
      if key.state = .pending then { key with state := .consumed } else key }

/-- A make or a repeat of the key at `index`, which is held. -/
def press_key (matcher : HotkeyMatcher) (log : List InputEvent) (state : HotkeyKeyState)
    (event : KeyEvent) : Submission :=
  if state = .delivered then flush_and_send sink matcher log (.key event)
  else
    let matched :=
      if eligible matcher event then
        registry_match matcher.registry event.key event.modifiers
      else none
    match matched with
    | some entry =>
      send sink (consume_pending matcher) log (.hotkey event.origin entry.identifier)
    | none =>
      if state = .consumed then { delivered := true, matcher, log }
      else if modifier_bit event.key ≠ 0 ∧
          registry_has_modifier matcher.registry (modifier_bit event.key) then
        { delivered := true, matcher, log }
      else flush_pending sink matcher log

/-- `kvm_hotkey_transition`. -/
def hotkey_transition (matcher : HotkeyMatcher) (log : List InputEvent) (event : KeyEvent)
    (allow_replay : Bool) : Submission :=
  let index := matcher.held.findIdx fun key => same_key key.make event
  match matcher.held[index]? with
  | some key =>
    -- a layout that changed does not change the lifetime of a held key
    let event := { event with key := key.make.key }
    if !event.pressed then release_key sink matcher log index key.state event
    else press_key sink matcher log key.state event
  | none =>
    if !event.pressed then { delivered := true, matcher, log }
    else
      match hold_key reallocates matcher event allow_replay with
      | none => { delivered := false, matcher, log }
      | some matcher => press_key sink matcher log .pending event

/-- `kvm_hotkey_matcher_submit`. -/
def matcher_submit (matcher : HotkeyMatcher) (log : List InputEvent) (event : InputEvent)
    (allow_replay : Bool) : Submission :=
  if matcher.failed then { delivered := false, matcher, log }
  else
    let submission :=
      match event with
      | .key event => hotkey_transition sink reallocates matcher log event allow_replay
      | .text _ _ => flush_and_send sink matcher log event
      | _ => send sink matcher log event
    if submission.delivered then submission
    else { submission with matcher := { submission.matcher with failed := true } }

end Matcher

end Nxvm.Kvm
