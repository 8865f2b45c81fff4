/-
The order in which a sink sees the events, and all that it sees.

What was handed out, with what is withheld behind it, is part of what was submitted: a flush
comes before everything that is handed out later, and nothing is withheld for longer than it
takes the next key or text to be handed out.
-/
import Nxvm.Kvm.HotkeyRun

set_option autoImplicit false

namespace Nxvm.Kvm

section Run

variable {registry : HotkeyRegistry} {reallocates : ℕ → Bool}

/-! ## Order -/

/-- The event is a key or text. -/
def keyed (event : InputEvent) : Bool := !event.unkeyed

/-- The makes of the keys that are down, and the events with the key codes of these makes. -/
def settle_step (state : List KeyEvent × List InputEvent) :
    InputEvent → List KeyEvent × List InputEvent
  | .key event =>
    match state.1.find? fun make => decide (physical make = physical event) with
    | some make =>
      (if event.pressed then state.1
        else state.1.eraseP fun make => decide (physical make = physical event),
        state.2 ++ [.key (event.under make)])
    | none => (if event.pressed then state.1 ++ [event] else state.1, state.2 ++ [.key event])
  | event => (state.1, state.2 ++ [event])

/-- The events as they were submitted, but with the key code of a hold in all of its events. -/
def settled_events (events : List InputEvent) : List InputEvent :=
  (events.foldl settle_step ([], [])).2

/-- Where no key is pending, no make is withheld. -/
theorem pending_makes_map {f : HeldKey → HeldKey} (hf : ∀ key, (f key).state ≠ .pending)
    (held : List HeldKey) : pending_makes (held.map f) = [] := by
  have hnone : (held.map f).filter (fun key => key.state = .pending) = [] := by
    refine List.filter_eq_nil_iff.mpr fun key hkey => ?_
    obtain ⟨before, -, rfl⟩ := List.mem_map.mp hkey
    simpa using hf before
  unfold pending_makes
  rw [hnone]
  rfl

theorem settled_state (key : HeldKey) : key.settled.state ≠ .pending := by
  unfold HeldKey.settled
  split_ifs with hstate
  · simp
  · exact hstate

theorem chorded_state (key : HeldKey) : key.chorded.state ≠ .pending := by
  unfold HeldKey.chorded
  split_ifs with hstate
  · simp
  · exact hstate

theorem pending_makes_forget (event : KeyEvent) (held : List HeldKey) :
    (pending_makes (forget event held)).Sublist (pending_makes held) :=
  ((List.eraseP_sublist.filter _).map _)

theorem keyed_pending_makes (held : List HeldKey) :
    (pending_makes held).filter keyed = pending_makes held := by
  refine List.filter_eq_self.mpr fun event hmem => ?_
  obtain ⟨key, -, rfl⟩ := List.mem_map.mp hmem
  rfl

theorem Registered.pending_makes {held grown : List HeldKey} {event : KeyEvent} {key : HeldKey}
    (h : Registered held event key grown) :
    (Kvm.pending_makes grown).Sublist
      (Kvm.pending_makes held ++ [.key (event.under key.make)]) := by
  cases h with
  | there hmem hsame => exact List.sublist_append_left _ _
  | new habsent =>
    unfold Kvm.pending_makes
    rw [List.filter_append, List.map_append]
    exact List.Sublist.refl _

/-- The makes of the held keys are those of the keys that are down. -/
theorem find_make (held : List HeldKey) (event : KeyEvent) :
    (held.map HeldKey.make).find? (fun make => decide (physical make = physical event)) =
      (held_key (physical event) held).map HeldKey.make := List.find?_map ..

theorem map_make_forget (event : KeyEvent) (held : List HeldKey) :
    (forget event held).map HeldKey.make =
      (held.map HeldKey.make).eraseP fun make => decide (physical make = physical event) := by
  rw [List.eraseP_map]
  rfl

theorem settle_break {held : List HeldKey} {event : KeyEvent} {key : HeldKey}
    (hdistinct : Distinct held) (hbreak : event.pressed = false) (hmem : key ∈ held)
    (hsame : physical key.make = physical event) (out : List InputEvent) :
    settle_step (held.map HeldKey.make, out) (.key event) =
      ((forget event held).map HeldKey.make, out ++ [.key (event.under key.make)]) := by
  have hkey := held_key_of_mem hdistinct hmem
  rw [hsame] at hkey
  unfold settle_step
  dsimp only
  rw [find_make, hkey, hbreak, map_make_forget]
  rfl

theorem settle_make {held grown : List HeldKey} {event : KeyEvent} {key : HeldKey}
    (hdistinct : Distinct held) (hmake : event.pressed = true)
    (hkey : Registered held event key grown) (out : List InputEvent) :
    settle_step (held.map HeldKey.make, out) (.key event) =
      (grown.map HeldKey.make, out ++ [.key (event.under key.make)]) := by
  unfold settle_step
  dsimp only
  rw [find_make, hmake]
  cases hkey with
  | there hmem hsame =>
    have hentry := held_key_of_mem hdistinct hmem
    rw [hsame] at hentry
    rw [hentry]
    rfl
  | new habsent =>
    rw [held_key_none.mpr habsent, List.map_append]
    rfl

theorem map_make_settled (held : List HeldKey) :
    (held.map HeldKey.settled).map HeldKey.make = held.map HeldKey.make := by
  rw [List.map_map]
  exact List.map_congr_left fun key _ => settled_make key

theorem map_make_chorded (held : List HeldKey) :
    (held.map HeldKey.chorded).map HeldKey.make = held.map HeldKey.make := by
  rw [List.map_map]
  exact List.map_congr_left fun key _ => chorded_make key

/-- What is handed out and what is withheld after an event was withheld before it, or is the
event. -/
theorem MatcherStep.order {held held' : List HeldKey} {event : InputEvent} {fired : Bool}
    {out : List InputEvent} (h : MatcherStep held event fired out held')
    (hdistinct : Distinct held) (before : List InputEvent) :
    ∃ new, settle_step (held.map HeldKey.make, before) event =
        (held'.map HeldKey.make, before ++ [new]) ∧
      (out.filter keyed ++ Kvm.pending_makes held').Sublist
        (Kvm.pending_makes held ++ [new].filter keyed) := by
  cases h with
  | passed hunkeyed =>
    have hnot : keyed event = false := by simp [keyed, hunkeyed]
    refine ⟨event, ?_, ?_⟩
    · cases event <;> first | rfl | exact Bool.noConfusion hunkeyed
    · simp [hnot]
  | text origin scalar =>
    refine ⟨.text origin scalar, ?_, ?_⟩
    · rw [map_make_settled]
      rfl
    · rw [pending_makes_map settled_state, List.filter_append, keyed_pending_makes, List.append_nil]
  | @stray event hbreak habsent =>
    refine ⟨.key event, ?_, List.sublist_append_left _ _⟩
    unfold settle_step
    dsimp only
    rw [find_make, held_key_none.mpr habsent, hbreak]
    rfl
  | @freed event key hbreak hmem hsame hstate =>
    exact ⟨_, settle_break hdistinct hbreak hmem hsame before,
      (pending_makes_forget event held).trans (List.sublist_append_left _ _)⟩
  | @released event key hbreak hmem hsame hstate =>
    refine ⟨.key (event.under key.make), ?_, ?_⟩
    · rw [settle_break hdistinct hbreak hmem hsame before, map_make_forget, map_make_forget,
        map_make_settled]
    · have hnone := pending_makes_forget event (held.map HeldKey.settled)
      rw [pending_makes_map settled_state, List.sublist_nil] at hnone
      rw [hnone, List.filter_append, keyed_pending_makes, List.append_nil]
  | @repeated event key grown hmake hkey hstate =>
    refine ⟨.key (event.under key.make), ?_, ?_⟩
    · rw [settle_make hdistinct hmake hkey, map_make_settled]
    · rw [pending_makes_map settled_state, List.filter_append, keyed_pending_makes, List.append_nil]
      cases hkey with
      | there hmem hsame => exact List.Sublist.refl _
      | new habsent => exact absurd hstate (by simp [HeldKey.first])
  | @fired event key grown identifier hmake hkey hstate =>
    refine ⟨.key (event.under key.make), ?_, ?_⟩
    · rw [settle_make hdistinct hmake hkey, map_make_chorded]
    · rw [pending_makes_map chorded_state]
      exact List.nil_sublist _
  | withheld hmake hkey hstate =>
    exact ⟨_, settle_make hdistinct hmake hkey before, hkey.pending_makes⟩
  | @ordinary event key grown hmake hkey hstate =>
    refine ⟨.key (event.under key.make), ?_, ?_⟩
    · rw [settle_make hdistinct hmake hkey, map_make_settled]
    · rw [pending_makes_map settled_state, keyed_pending_makes, List.append_nil]
      exact hkey.pending_makes

theorem settle_step_grows (state : List KeyEvent × List InputEvent) (event : InputEvent) :
    ∃ new, (settle_step state event).2 = state.2 ++ [new] := by
  cases event with
  | key event =>
    unfold settle_step
    dsimp only
    cases state.1.find? fun make => decide (physical make = physical event) with
    | some make => exact ⟨_, rfl⟩
    | none => exact ⟨_, rfl⟩
  | _ => exact ⟨_, rfl⟩

/-- What was handed out and what is withheld comes in the order of the submissions. -/
theorem hotkey_run_order (events : List InputEvent) :
    ((hotkey_run registry reallocates events).2.filter keyed).Sublist
        ((settled_events events).filter keyed) ∧
      ((hotkey_run registry reallocates events).1.failed = false →
        (events.foldl settle_step ([], [])).1 =
          (hotkey_run registry reallocates events).1.held.map HeldKey.make ∧
        ((hotkey_run registry reallocates events).2.filter keyed ++
          pending_makes (hotkey_run registry reallocates events).1.held).Sublist
          ((settled_events events).filter keyed)) := by
  induction events using List.reverseRecOn with
  | nil => exact ⟨List.Sublist.refl _, fun _ => ⟨rfl, List.Sublist.refl _⟩⟩
  | append_singleton events event ih =>
    have hready : Ready (hotkey_run registry reallocates events) := hotkey_run_ready events
    have hsettle : (events ++ [event]).foldl settle_step ([], []) =
        settle_step (events.foldl settle_step ([], [])) event := by
      rw [List.foldl_append]
      rfl
    rw [hotkey_run_concat]
    rcases hotkey_step_cases hready event with
      ⟨fired, out, -, hbefore, hlog, hstep⟩ | ⟨hfailed, hlog, -⟩
    · obtain ⟨hdown, horder⟩ := ih.2 hbefore
      obtain ⟨new, hnew, hout⟩ := hstep.order hready.distinct (settled_events events)
      have hstate : events.foldl settle_step ([], []) =
          ((hotkey_run registry reallocates events).1.held.map HeldKey.make,
            settled_events events) := Prod.ext hdown rfl
      rw [hstate, hnew] at hsettle
      have hafter : ((hotkey_step reallocates (hotkey_run registry reallocates events)
          event).2.filter keyed ++ pending_makes (hotkey_step reallocates
            (hotkey_run registry reallocates events) event).1.held).Sublist
          ((settled_events (events ++ [event])).filter keyed) := by
        rw [settled_events, hsettle, hlog, List.filter_append, List.filter_append,
          List.append_assoc]
        refine ((List.Sublist.refl _).append hout).trans ?_
        rw [← List.append_assoc]
        exact horder.append (List.Sublist.refl _)
      refine ⟨(List.sublist_append_left _ _).trans hafter, fun _ => ⟨?_, hafter⟩⟩
      rw [hsettle]
    · refine ⟨?_, fun hnot => absurd (hfailed.symm.trans hnot) (by decide)⟩
      rw [hlog]
      refine ih.1.trans (List.Sublist.filter _ ?_)
      obtain ⟨new, hnew⟩ := settle_step_grows (events.foldl settle_step ([], [])) event
      unfold settled_events
      rw [hsettle, hnew]
      exact List.sublist_append_left _ _

/-! ## The ledger -/

/-- A key of a keyboard, without modifiers. -/
def plain_key (scan_code : BitVec 16) (key : BaseKey) (pressed : Bool) : KeyEvent :=
  { origin := ⟨1, 1⟩, scan_code, key, flags := 0, modifiers := 0, pressed }

/-- The layout changes while a key is held. -/
def layout_change : List InputEvent :=
  [.key (plain_key 30 97 true), .key (plain_key 30 113 false)]

/-- Nine keys are made, and the first is broken. -/
def nine_keys : List InputEvent :=
  (List.range 9).map (fun i => .key (plain_key (BitVec.ofNat 16 (i + 2)) 0 true)) ++
    [.key (plain_key 2 0 false)]

end Run

end Nxvm.Kvm
