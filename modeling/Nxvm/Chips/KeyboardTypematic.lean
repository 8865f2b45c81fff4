/-
The keyboard behind the controller, as far as time goes.

A key that is held down repeats: the countdown starts over with every sequence the controller
takes, so that one advance may emit several, and stays at zero once a sequence is refused.
BAT is reported until it is taken or cleared. The commands, the scan sets and the admission
of bytes are not here; none of them is called in an advance.
-/
import Nxvm.Chips.Kbc

set_option autoImplicit false

namespace Nxvm.Chips

open Nxvm.Lib.Register Nxvm.Machine

/-- The fields of `x86_keyboard` that an advance reads. What repeats has a period, and the
countdown is 32 bits wide. -/
structure Keyboard where
  scan_set : U8
  scanning : Bool
  startup_released : Bool
  bat_pending : Bool
  repeat_bytes : List U8
  repeat_ticks : ℕ
  remaining_ticks : ℕ
  period_pos : repeat_bytes ≠ [] → 0 < repeat_ticks
  repeat_lt : repeat_ticks < 2 ^ 32
  remaining_lt : remaining_ticks < 2 ^ 32

namespace Keyboard

/-- A key is repeating. -/
def repeating (keyboard : Keyboard) : Bool :=
  !keyboard.repeat_bytes.isEmpty && keyboard.scanning

/-- `x86_keyboard_get_signals` and `x86_keyboard_ticks_until_repeat`. -/
def inputs (keyboard : Keyboard) : KeyboardInputs :=
  { scan_set := keyboard.scan_set
    scanning := keyboard.scanning
    bat_ready := keyboard.bat_pending
    repeat_pending := keyboard.repeating
    repeat_ticks := if keyboard.repeating then keyboard.remaining_ticks else 0
    repeat_bytes := if keyboard.scanning then keyboard.repeat_bytes.length else 0 }

/-- `x86_keyboard_start`. -/
def start (keyboard : Keyboard) : Bool × Keyboard :=
  if keyboard.startup_released then (false, keyboard)
  else (true, { keyboard with startup_released := true, bat_pending := true })

/-- `x86_keyboard_take_bat`. -/
def take_bat (keyboard : Keyboard) : Bool × Keyboard :=
  if !keyboard.bat_pending then (false, keyboard)
  else (true, { keyboard with bat_pending := false })

/-- `x86_keyboard_clear_bat`. -/
def clear_bat (keyboard : Keyboard) : Keyboard := { keyboard with bat_pending := false }

/-- The countdown started over. -/
def restart (keyboard : Keyboard) : Keyboard :=
  { keyboard with
    remaining_ticks := keyboard.repeat_ticks
    remaining_lt := keyboard.repeat_lt }

/-- The countdown, some ticks later. -/
def counted (keyboard : Keyboard) (ticks : ℕ) : Keyboard :=
  { keyboard with
    remaining_ticks := keyboard.remaining_ticks - ticks
    remaining_lt := (Nat.sub_le _ _).trans_lt keyboard.remaining_lt }

/-- The loop of `x86_keyboard_advance`. -/
def repeats (keyboard : Keyboard) (h : keyboard.repeat_bytes ≠ []) (elapsed_ticks : ℕ)
    (accepted : Bool) : KeyboardAdvance Keyboard :=
  if elapsed_ticks < keyboard.remaining_ticks then
    .done accepted (keyboard.counted elapsed_ticks)
  else
    .emit keyboard.repeat_bytes fun status =>
      if status = .ok then
        repeats keyboard.restart h (elapsed_ticks - keyboard.remaining_ticks) true
      else .done accepted (keyboard.counted keyboard.remaining_ticks)
termination_by 2 * elapsed_ticks + (if keyboard.remaining_ticks = 0 then 1 else 0)
decreasing_by
  -- only the first countdown may be at zero
  have hperiod : keyboard.restart.remaining_ticks ≠ 0 := (keyboard.period_pos h).ne'
  rw [if_neg hperiod]
  split_ifs <;> omega

/-- `x86_keyboard_advance`. -/
def advance (keyboard : Keyboard) (elapsed_ticks : ℕ) : KeyboardAdvance Keyboard :=
  if h : keyboard.repeat_bytes = [] then .done false keyboard
  else if !keyboard.scanning then .done false keyboard
  else keyboard.repeats h elapsed_ticks false

/-! ## What the controller counts on -/

theorem take_bat_idle (keyboard : Keyboard) (h : keyboard.inputs.bat_ready = false) :
    keyboard.take_bat = (false, keyboard) := by
  unfold take_bat
  rw [if_pos (by simpa [inputs] using h)]

theorem take_bat_ready (keyboard : Keyboard) (h : keyboard.inputs.bat_ready = true) :
    keyboard.take_bat.1 = true := by
  unfold take_bat
  rw [if_neg (by simpa [inputs] using h)]

theorem repeating_iff (keyboard : Keyboard) :
    keyboard.repeating = true ↔ keyboard.repeat_bytes ≠ [] ∧ keyboard.scanning = true := by
  simp [repeating]

/-- A key that repeats is in the loop. -/
theorem advance_repeating (keyboard : Keyboard) (elapsed_ticks : ℕ)
    (h : keyboard.inputs.repeat_pending = true) :
    keyboard.advance elapsed_ticks =
      keyboard.repeats ((repeating_iff keyboard).mp h).1 elapsed_ticks false := by
  obtain ⟨hbytes, hscanning⟩ := (repeating_iff keyboard).mp h
  unfold advance
  rw [dif_neg hbytes, if_neg (by simp [hscanning])]

theorem inputs_repeat_ticks (keyboard : Keyboard) (h : keyboard.inputs.repeat_pending = true) :
    keyboard.inputs.repeat_ticks = keyboard.remaining_ticks :=
  if_pos h

theorem advance_early (keyboard : Keyboard) (ticks : ℕ)
    (h : keyboard.inputs.repeat_pending = true) (hticks : ticks < keyboard.inputs.repeat_ticks) :
    ∃ keyboard', keyboard.advance ticks = .done false keyboard' ∧
      keyboard'.inputs =
        { keyboard.inputs with repeat_ticks := keyboard.inputs.repeat_ticks - ticks } := by
  rw [inputs_repeat_ticks keyboard h] at hticks ⊢
  refine ⟨keyboard.counted ticks, ?_, ?_⟩
  · rw [advance_repeating keyboard ticks h, repeats, if_pos hticks]
  · have hrepeating : (keyboard.counted ticks).repeating = true := h
    simp only [inputs, hrepeating, if_pos]
    rw [show keyboard.repeating = true from h]
    rfl

theorem advance_due (keyboard : Keyboard) (ticks : ℕ)
    (h : keyboard.inputs.repeat_pending = true)
    (hticks : keyboard.inputs.repeat_ticks ≤ ticks) :
    ∃ bytes next, keyboard.advance ticks = .emit bytes next ∧
      bytes.length = keyboard.inputs.repeat_bytes := by
  rw [inputs_repeat_ticks keyboard h] at hticks
  rw [advance_repeating keyboard ticks h, repeats, if_neg (Nat.not_lt.mpr hticks)]
  refine ⟨_, _, rfl, ?_⟩
  exact (if_pos ((repeating_iff keyboard).mp h).2).symm

end Keyboard

end Nxvm.Chips
