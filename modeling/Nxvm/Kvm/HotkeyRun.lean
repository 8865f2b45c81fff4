/-
What a sink sees of a run of the matcher.

The events come in the order they were submitted in, and some are left out. What is left out
of a key is told by its holds: a hold of which the key became part of a chord is left out as
a whole, and of any other hold the sink gets the make before anything else of it and the
break at its end.
-/
import Nxvm.Kvm.HotkeyLedger

set_option autoImplicit false

namespace Nxvm.Kvm

section Run

variable (registry : HotkeyRegistry) (reallocates : ℕ → Bool)

/-! ## Runs -/

/-- A submission with `allow_replay`, to a sink that accepts. -/
def hotkey_step (state : HotkeyMatcher × List InputEvent) (event : InputEvent) :
    HotkeyMatcher × List InputEvent :=
  let submission := matcher_submit accepting reallocates state.1 state.2 event true
  (submission.matcher, submission.log)

/-- The matcher and the log of the sink after these events. -/
def hotkey_run (events : List InputEvent) : HotkeyMatcher × List InputEvent :=
  events.foldl (hotkey_step reallocates) ( matcher_initialize registry, [])

/-- What the sink is handed for `events`, when `before` came before them. -/
def delivered_for (before events : List InputEvent) : List InputEvent :=
  (hotkey_run registry reallocates (before ++ events)).2.drop
    (hotkey_run registry reallocates before).2.length

/-- A hotkey fires by this event. -/
def Fires (before : List InputEvent) (event : InputEvent) : Prop :=
  (∃ key, event = .key key) ∧
    ∃ origin identifier, .hotkey origin identifier ∈ delivered_for registry reallocates before [event]

/-- The key is held, and not decided about. -/
def Pending (events : List InputEvent) (id : PhysicalKey) : Prop :=
  ∃ key ∈ (hotkey_run registry reallocates events).1.held,
    physical key.make = id ∧ key.state = .pending

/-- A hotkey fires in the hold while the key is pending. The make itself is the first event of
the hold. -/
def InChord (id : PhysicalKey) (before hold : List InputEvent) : Prop :=
  ∃ earlier event later, hold = earlier ++ event :: later ∧
    Fires registry reallocates (before ++ earlier) event ∧
    (earlier = [] ∨ Pending registry reallocates (before ++ earlier) id)

/-- The key is down after these events. -/
def key_down (id : PhysicalKey) (events : List InputEvent) : Bool :=
  events.foldl (fun down event =>
    if presses id event then true else if releases id event then false else down) false

/-- `hold` is a hold of the key, from its make on: the key was not down before, and is not
released. -/
structure Hold (id : PhysicalKey) (before : List InputEvent) (make : KeyEvent)
    (hold : List InputEvent) : Prop where
  fresh : key_down id before = false
  first : make.pressed = true ∧ physical make = id
  starts : ∃ rest, hold = .key make :: rest
  held : ∀ event ∈ hold, releases id event = false

/-- Repeats of a key, with the key code of its make. -/
def RepeatsOf (make : KeyEvent) (events : List InputEvent) : Prop :=
  ∀ event ∈ events, ∃ again : KeyEvent, event = .key (again.under make) ∧
    again.pressed = true ∧ physical again = physical make

variable {registry reallocates}

/-! ## One step -/

/-- The matcher is what a submission needs. -/
structure Ready (state : HotkeyMatcher × List InputEvent) : Prop where
  distinct : Distinct state.1.held
  replayable : Replayable state.1.held
  makes : ∀ key ∈ state.1.held, key.make.pressed = true

theorem hotkey_step_failed {state : HotkeyMatcher × List InputEvent}
    (h : state.1.failed = true) (event : InputEvent) :
    hotkey_step reallocates state event = state := by
  unfold hotkey_step matcher_submit
  rw [if_pos h]

/-- A step of the matcher, or a refusal that leaves the keys and the log. -/
theorem hotkey_step_cases {state : HotkeyMatcher × List InputEvent} (h : Ready state)
    (event : InputEvent) :
    (∃ fired out, (hotkey_step reallocates state event).1.failed = false ∧
      state.1.failed = false ∧ (hotkey_step reallocates state event).2 = state.2 ++ out ∧
      MatcherStep state.1.held event fired out (hotkey_step reallocates state event).1.held) ∨
    ((hotkey_step reallocates state event).1.failed = true ∧
      (hotkey_step reallocates state event).2 = state.2 ∧
      (hotkey_step reallocates state event).1.held = state.1.held) := by
  cases hfailed : state.1.failed with
  | true =>
    rw [hotkey_step_failed hfailed]
    exact Or.inr ⟨hfailed, rfl, rfl⟩
  | false =>
    rcases matcher_submit_did h.replayable hfailed reallocates state.2 event with hdid | hrefused
    · obtain ⟨fired, out, hlog, hstep⟩ := hdid.step
      exact Or.inl ⟨fired, out, hdid.failed.trans hfailed, rfl, hlog, hstep⟩
    · exact Or.inr ⟨congrArg HotkeyMatcher.failed hrefused.matcher, hrefused.log,
        by rw [show (hotkey_step reallocates state event).1 = _ from hrefused.matcher]⟩

theorem Ready.step {state : HotkeyMatcher × List InputEvent} (h : Ready state)
    (event : InputEvent) : Ready (hotkey_step reallocates state event) := by
  rcases hotkey_step_cases h event with
    ⟨fired, out, -, -, -, hstep⟩ | ⟨-, -, hheld⟩
  · exact ⟨hstep.distinct h.distinct,
      hstep.all (P := fun key => key.allow_replay = true) (fun _ _ h => h) (fun _ _ => rfl)
        h.replayable,
      hstep.all (P := fun key => key.make.pressed = true) (fun _ _ h => h) (fun _ h => h)
        h.makes⟩
  · exact ⟨by rw [hheld]; exact h.distinct, by rw [hheld]; exact h.replayable,
      by rw [hheld]; exact h.makes⟩

theorem hotkey_run_concat (events : List InputEvent) (event : InputEvent) :
    hotkey_run registry reallocates (events ++ [event]) =
      hotkey_step reallocates (hotkey_run registry reallocates events) event := by
  unfold hotkey_run
  rw [List.foldl_append]
  rfl

theorem hotkey_run_ready (events : List InputEvent) :
    Ready (hotkey_run registry reallocates events) := by
  induction events using List.reverseRecOn with
  | nil =>
    exact ⟨List.nodup_nil, fun key hkey => absurd hkey List.not_mem_nil,
      fun key hkey => absurd hkey List.not_mem_nil⟩
  | append_singleton events event ih =>
    rw [hotkey_run_concat]
    exact ih.step event

/-- A matcher that has not failed had not failed before. -/
theorem hotkey_run_not_failed {events : List InputEvent} {event : InputEvent}
    (h : (hotkey_run registry reallocates (events ++ [event])).1.failed = false) :
    (hotkey_run registry reallocates events).1.failed = false ∧
    ∃ fired out, (hotkey_run registry reallocates (events ++ [event])).2 =
        (hotkey_run registry reallocates events).2 ++ out ∧
      MatcherStep (hotkey_run registry reallocates events).1.held event fired out
        (hotkey_run registry reallocates (events ++ [event])).1.held := by
  rw [hotkey_run_concat] at h ⊢
  rcases hotkey_step_cases (hotkey_run_ready events) event with
    ⟨fired, out, -, hbefore, hlog, hstep⟩ | ⟨hfailed, -, -⟩
  · exact ⟨hbefore, fired, out, hlog, hstep⟩
  · rw [hfailed] at h
    exact absurd h (by decide)

theorem key_down_concat (id : PhysicalKey) (events : List InputEvent) (event : InputEvent) :
    key_down id (events ++ [event]) =
      if presses id event then true
      else if releases id event then false else key_down id events := by
  unfold key_down
  rw [List.foldl_append]
  rfl

/-- The keys that have an entry are the keys that are down. -/
theorem held_key_isSome {events : List InputEvent}
    (hfailed : (hotkey_run registry reallocates events).1.failed = false) (id : PhysicalKey) :
    (held_key id (hotkey_run registry reallocates events).1.held).isSome = key_down id events := by
  induction events using List.reverseRecOn with
  | nil => rfl
  | append_singleton events event ih =>
    obtain ⟨hbefore, fired, out, -, hstep⟩ := hotkey_run_not_failed hfailed
    rw [(hstep.key_step (hotkey_run_ready events).distinct id).entry, ih hbefore,
      key_down_concat]

/-! ## What the sink is handed -/

/-- The log only grows. -/
theorem hotkey_run_append (before events : List InputEvent) :
    (hotkey_run registry reallocates (before ++ events)).2 =
      (hotkey_run registry reallocates before).2 ++
        delivered_for registry reallocates before events := by
  unfold delivered_for
  induction events using List.reverseRecOn with
  | nil => rw [List.append_nil, List.drop_length, List.append_nil]
  | append_singleton events event ih =>
    rw [← List.append_assoc, hotkey_run_concat]
    rcases hotkey_step_cases
      (hotkey_run_ready (before ++ events)) event with
      ⟨fired, out, -, -, hlog, -⟩ | ⟨-, hlog, -⟩
    · rw [hlog, ih, List.append_assoc, List.drop_left]
    · rw [hlog]
      exact ih

/-- What an event adds to the log is handed out for it. -/
theorem delivered_for_concat {before events : List InputEvent} {event : InputEvent}
    {out : List InputEvent}
    (h : (hotkey_run registry reallocates (before ++ (events ++ [event]))).2 =
      (hotkey_run registry reallocates (before ++ events)).2 ++ out) :
    delivered_for registry reallocates before (events ++ [event]) =
      delivered_for registry reallocates before events ++ out := by
  rw [hotkey_run_append, hotkey_run_append, List.append_assoc] at h
  exact List.append_cancel_left h

theorem delivered_for_one {before : List InputEvent} {event : InputEvent}
    {out : List InputEvent}
    (h : (hotkey_run registry reallocates (before ++ [event])).2 =
      (hotkey_run registry reallocates before).2 ++ out) :
    delivered_for registry reallocates before [event] = out := by
  rw [hotkey_run_append] at h
  exact List.append_cancel_left h

/-- A hotkey is handed out for a key exactly by the step that says so. -/
theorem MatcherStep.fires {held held' : List HeldKey} {event : KeyEvent} {fired : Bool}
    {out : List InputEvent} (h : MatcherStep held (.key event) fired out held') :
    fired = true ↔ ∃ origin identifier, .hotkey origin identifier ∈ out := by
  have hmakes (held : List HeldKey) (origin : EventSource) (identifier : String) :
      .hotkey origin identifier ∉ pending_makes held := by
    simp [pending_makes]
  cases h with
  | passed hunkeyed => exact Bool.noConfusion hunkeyed
  | stray hbreak habsent => simp
  | freed hbreak hmem hsame hstate => simp
  | released hbreak hmem hsame hstate => simp [hmakes]
  | repeated hmake hkey hstate => simp [hmakes]
  | fired identifier hmake hkey hstate => simp
  | withheld hmake hkey hstate => simp
  | ordinary hmake hkey hstate => simp [hmakes]

theorem MatcherStep.fired_key {held held' : List HeldKey} {event : InputEvent}
    {out : List InputEvent} (h : MatcherStep held event true out held') :
    ∃ key, event = .key key := by
  cases h with
  | fired identifier hmake hkey hstate => exact ⟨_, rfl⟩

/-- Whether a hotkey fires, by the step. -/
theorem fires_iff {before : List InputEvent} {event : InputEvent} {fired : Bool}
    {out : List InputEvent} {held' : List HeldKey}
    (hlog : (hotkey_run registry reallocates (before ++ [event])).2 =
      (hotkey_run registry reallocates before).2 ++ out)
    (hstep : MatcherStep (hotkey_run registry reallocates before).1.held event fired out held') :
    Fires registry reallocates before event ↔ fired = true := by
  unfold Fires
  rw [delivered_for_one hlog]
  constructor
  · rintro ⟨⟨key, rfl⟩, hhotkey⟩
    exact hstep.fires.mpr hhotkey
  · rintro rfl
    obtain ⟨key, rfl⟩ := hstep.fired_key
    exact ⟨⟨key, rfl⟩, hstep.fires.mp rfl⟩

theorem pending_iff (events : List InputEvent) (id : PhysicalKey) :
    Pending registry reallocates events id ↔
      ∃ key, held_key id (hotkey_run registry reallocates events).1.held = some key ∧
        key.state = .pending := by
  constructor
  · rintro ⟨key, hmem, rfl, hstate⟩
    exact ⟨key, held_key_of_mem (hotkey_run_ready events).distinct hmem, hstate⟩
  · rintro ⟨key, hkey, hstate⟩
    exact ⟨key, held_key_mem hkey, held_key_id hkey, hstate⟩

/-! ## Holds -/

/-- The entry of a key in a hold, and what the sink was handed of it since its make. -/
inductive Disposed (make : KeyEvent) (chord : Prop) : HeldKey → List InputEvent → Prop
  | pending (key : HeldKey) (hmake : key.make = make) (h : key.state = .pending)
      (hchord : ¬ chord) : Disposed make chord key []
  | delivered (key : HeldKey) (hmake : key.make = make) (h : key.state = .delivered)
      (hchord : ¬ chord) {repeats : List InputEvent} (hrepeats : RepeatsOf make repeats) :
      Disposed make chord key (.key make :: repeats)
  | consumed (key : HeldKey) (hmake : key.make = make) (h : key.state = .consumed)
      (hchord : chord) : Disposed make chord key []

theorem repeats_nil (make : KeyEvent) : RepeatsOf make [] :=
  fun _ hmem => absurd hmem List.not_mem_nil

/-- A key that was not decided about is disposed of by what follows. -/
theorem Disposed.of_pending {event : InputEvent} {fired : Bool} {key key' : HeldKey}
    {out : List InputEvent} (hstate : key.state = .pending)
    (hstep : KeyFollows event fired key out key') {chord : Prop} (hchord : chord ↔ fired = true) :
    Disposed key.make chord key' out := by
  cases hstep with
  | withheld h => exact .pending key rfl h (by simp [hchord])
  | replayed h =>
    exact .delivered { key with state := .delivered } rfl rfl (by simp [hchord])
      (repeats_nil key.make)
  | chorded h => exact .consumed { key with state := .consumed } rfl rfl (hchord.mpr rfl)
  | kept h => exact absurd hstate h
  | repeated h hevent hmake hsame => exact absurd (hstate.symm.trans h) (by decide)

/-- What follows in a hold. -/
theorem Disposed.follows {event : InputEvent} {fired : Bool} {make : KeyEvent}
    {key key' : HeldKey} {out new : List InputEvent} {chord chord' : Prop}
    (h : Disposed make chord key out) (hstep : KeyFollows event fired key new key')
    (hchord : chord' ↔ chord ∨ fired = true ∧ key.state = .pending) :
    Disposed make chord' key' (out ++ new) := by
  cases h with
  | pending hmake hstate hnot =>
    rw [← hmake, List.nil_append]
    exact .of_pending hstate hstep (by simp [hchord, hnot, hstate])
  | @delivered hmake hstate hnot repeats hrepeats =>
    have hchord' : ¬ chord' := by simp [hchord, hnot, hstate]
    cases hstep with
    | withheld h => exact absurd (h.symm.trans hstate) (by decide)
    | replayed h => exact absurd (h.symm.trans hstate) (by decide)
    | chorded h => exact absurd (h.symm.trans hstate) (by decide)
    | kept h =>
      rw [List.append_nil]
      exact .delivered key hmake hstate hchord' hrepeats
    | @repeated _ again hdelivered hevent hagain hsame =>
      refine .delivered key hmake hstate hchord' fun event hmem => ?_
      rcases List.mem_append.mp hmem with hmem | hmem
      · exact hrepeats event hmem
      · rw [List.mem_singleton.mp hmem, ← hmake]
        exact ⟨again, rfl, hagain, hsame.symm⟩
  | consumed hmake hstate hin =>
    cases hstep with
    | withheld h => exact absurd (h.symm.trans hstate) (by decide)
    | replayed h => exact absurd (h.symm.trans hstate) (by decide)
    | chorded h => exact absurd (h.symm.trans hstate) (by decide)
    | kept h => exact .consumed key hmake hstate (hchord.mpr (Or.inl hin))
    | repeated hdelivered hevent hagain hsame =>
      exact absurd (hdelivered.symm.trans hstate) (by decide)

theorem in_chord_one (id : PhysicalKey) (before : List InputEvent) (event : InputEvent) :
    InChord registry reallocates id before [event] ↔
      Fires registry reallocates before event := by
  constructor
  · rintro ⟨earlier, other, later, hhold, hfires, -⟩
    obtain ⟨rfl, hrest⟩ | ⟨rest, rfl, hrest⟩ := List.cons_eq_append_iff.mp hhold
    · obtain rfl : other = event := (List.cons.inj hrest).1
      rwa [List.append_nil] at hfires
    · simp at hrest
  · intro hfires
    exact ⟨[], event, [], rfl, by rwa [List.append_nil], Or.inl rfl⟩

theorem in_chord_concat {id : PhysicalKey} {before hold : List InputEvent} (hhold : hold ≠ [])
    (event : InputEvent) :
    InChord registry reallocates id before (hold ++ [event]) ↔
      InChord registry reallocates id before hold ∨
        Fires registry reallocates (before ++ hold) event ∧
          Pending registry reallocates (before ++ hold) id := by
  constructor
  · rintro ⟨earlier, other, later, hsplit, hfires, hpending⟩
    obtain ⟨later, last, rfl⟩ | rfl := (List.eq_nil_or_concat' later).symm
    · rw [← List.cons_append, ← List.append_assoc] at hsplit
      exact Or.inl ⟨earlier, other, later, (List.append_inj' hsplit rfl).1, hfires, hpending⟩
    · obtain ⟨rfl, hlast⟩ := List.append_inj' hsplit rfl
      obtain rfl : event = other := (List.cons.inj hlast).1
      exact Or.inr ⟨hfires, hpending.resolve_left hhold⟩
  · rintro (⟨earlier, other, later, rfl, hfires, hpending⟩ | ⟨hfires, hpending⟩)
    · exact ⟨earlier, other, later ++ [event], by simp, hfires, hpending⟩
    · exact ⟨hold, event, [], rfl, hfires, Or.inr hpending⟩

/-- In a hold the key has an entry with its make, and the sink has got of it what the entry
says. -/
theorem Hold.disposed {id : PhysicalKey} {before hold : List InputEvent} {make : KeyEvent}
    (h : Hold id before make hold)
    (hfailed : (hotkey_run registry reallocates (before ++ hold)).1.failed = false) :
    ∃ key, held_key id (hotkey_run registry reallocates (before ++ hold)).1.held = some key ∧
      Disposed make (InChord registry reallocates id before hold) key
        ((delivered_for registry reallocates before hold).filter (of_key id)) := by
  obtain ⟨rest, rfl⟩ := h.starts
  induction rest using List.reverseRecOn with
  | nil =>
    obtain ⟨hbefore, fired, out, hlog, hstep⟩ := hotkey_run_not_failed hfailed
    have hkey := hstep.key_step (hotkey_run_ready before).distinct id
    have hnone := (held_key_isSome hbefore id).trans h.fresh
    rw [Option.isSome_eq_false_iff, Option.isNone_iff_eq_none] at hnone
    rw [hnone] at hkey
    rw [delivered_for_one hlog]
    have hchord := (in_chord_one id before (.key make)).trans (fires_iff hlog hstep)
    generalize held_key id (hotkey_run registry reallocates (before ++ [.key make])).1.held =
      entry at hkey ⊢
    generalize out.filter (of_key id) = new at hkey ⊢
    cases hkey with
    | absent hpress => exact absurd hpress (by simp [presses, h.first])
    | first hevent hmake hid hfollows =>
      obtain rfl := InputEvent.key.inj hevent
      exact ⟨_, rfl, .of_pending rfl hfollows hchord⟩
  | append_singleton rest event ih =>
    rw [show before ++ .key make :: (rest ++ [event]) = (before ++ .key make :: rest) ++ [event] by
      simp] at hfailed ⊢
    obtain ⟨hbefore, fired, out, hlog, hstep⟩ := hotkey_run_not_failed hfailed
    obtain ⟨key, hentry, hdisposed⟩ := ih
      ⟨h.fresh, h.first, ⟨rest, rfl⟩, fun other hmem => h.held other (by
        rw [← List.cons_append]
        exact List.mem_append_left _ hmem)⟩ hbefore
    have hkey := hstep.key_step (hotkey_run_ready _).distinct id
    rw [hentry] at hkey
    have hdelivered := delivered_for_concat (by
      rw [← List.append_assoc]
      exact hlog)
    rw [← List.cons_append, hdelivered, List.filter_append]
    have hrelease : releases id event = false := h.held event (by simp)
    have hchord : InChord registry reallocates id before (.key make :: rest ++ [event]) ↔ _ :=
      in_chord_concat (List.cons_ne_nil (.key make) rest) event
    rw [fires_iff hlog hstep, pending_iff] at hchord
    generalize held_key id (hotkey_run registry reallocates
      ((before ++ .key make :: rest) ++ [event])).1.held = entry at hkey ⊢
    generalize out.filter (of_key id) = new at hkey ⊢
    cases hkey with
    | held hnot hfollows =>
      refine ⟨_, rfl, hdisposed.follows hfollows (hchord.trans ?_)⟩
      rw [hentry]
      simp
    | released hevent hbreak hid hstate =>
      rw [hevent] at hrelease
      exact absurd hrelease (by simp [releases, hbreak, hid])
    | freed hfreed hstate =>
      rw [hfreed] at hrelease
      exact absurd hrelease (by decide)

/-- At the end of a hold the sink gets the break, and the make if it has not got it before. -/
theorem Hold.released {id : PhysicalKey} {before hold : List InputEvent} {make : KeyEvent}
    (h : Hold id before make hold) {release : KeyEvent}
    (hbreak : release.pressed = false) (hid : physical release = id)
    (hfailed : (hotkey_run registry reallocates
      (before ++ (hold ++ [.key release]))).1.failed = false) :
    (InChord registry reallocates id before hold →
      (delivered_for registry reallocates before (hold ++ [.key release])).filter (of_key id) =
        []) ∧
    (¬ InChord registry reallocates id before hold → ∃ repeats, RepeatsOf make repeats ∧
      (delivered_for registry reallocates before (hold ++ [.key release])).filter (of_key id) =
        .key make :: repeats ++ [.key (release.under make)]) := by
  rw [← List.append_assoc] at hfailed
  obtain ⟨hbefore, fired, out, hlog, hstep⟩ := hotkey_run_not_failed hfailed
  obtain ⟨key, hentry, hdisposed⟩ := h.disposed hbefore
  have hkey := hstep.key_step (hotkey_run_ready _).distinct id
  rw [hentry] at hkey
  rw [delivered_for_concat (by rw [← List.append_assoc]; exact hlog), List.filter_append]
  have hreleases : releases id (.key release) = true := by simp [releases, hbreak, hid]
  generalize held_key id (hotkey_run registry reallocates
    ((before ++ hold) ++ [.key release])).1.held = entry at hkey
  generalize out.filter (of_key id) = new at hkey ⊢
  generalize (delivered_for registry reallocates before hold).filter (of_key id) = old
    at hdisposed ⊢
  cases hkey with
  | held hnot hfollows => exact absurd (hnot.symm.trans hreleases) (by decide)
  | released hevent hnot hsame hstate =>
    obtain rfl := InputEvent.key.inj hevent
    cases hdisposed with
    | pending hmake hpending hchord =>
      refine ⟨fun hin => absurd hin hchord, fun _ => ⟨[], repeats_nil make, ?_⟩⟩
      rw [if_pos hpending, hmake]
      rfl
    | @delivered hmake hdelivered hchord repeats hrepeats =>
      refine ⟨fun hin => absurd hin hchord, fun _ => ⟨repeats, hrepeats, ?_⟩⟩
      rw [if_neg (by rw [hdelivered]; decide), hmake]
      rfl
    | consumed hmake hconsumed hchord => exact absurd hconsumed hstate
  | freed hfreed hstate =>
    cases hdisposed with
    | pending hmake hpending hchord => exact absurd (hpending.symm.trans hstate) (by decide)
    | delivered hmake hdelivered hchord hrepeats =>
      exact absurd (hdelivered.symm.trans hstate) (by decide)
    | consumed hmake hconsumed hchord => exact ⟨fun _ => rfl, fun hnot => absurd hchord hnot⟩

/-- Outside a chord, what the sink was handed of a key that is still held. -/
theorem Hold.withheld {id : PhysicalKey} {before hold : List InputEvent} {make : KeyEvent}
    (h : Hold id before make hold)
    (hfailed : (hotkey_run registry reallocates (before ++ hold)).1.failed = false) :
    let out := (delivered_for registry reallocates before hold).filter (of_key id)
    (InChord registry reallocates id before hold → out = []) ∧
      (out = [] ∨ ∃ repeats, RepeatsOf make repeats ∧ out = .key make :: repeats) := by
  intro out
  obtain ⟨key, -, hdisposed⟩ := h.disposed hfailed
  change Disposed make _ key out at hdisposed
  generalize out = out at hdisposed
  cases hdisposed with
  | pending hmake hstate hchord => exact ⟨fun _ => rfl, Or.inl rfl⟩
  | delivered hmake hstate hchord hrepeats =>
    exact ⟨fun hin => absurd hin hchord, Or.inr ⟨_, hrepeats, rfl⟩⟩
  | consumed hmake hstate hchord => exact ⟨fun _ => rfl, Or.inl rfl⟩

/-! ## Brackets -/

/-- No key is broken at the sink that is not down there, and a key is down there only while
its disposition is that it was delivered. -/
theorem hotkey_run_receive (events : List InputEvent) (id : PhysicalKey) :
    receive id false (hotkey_run registry reallocates events).2 =
      some (at_receiver (held_key id (hotkey_run registry reallocates events).1.held)) := by
  induction events using List.reverseRecOn with
  | nil => rfl
  | append_singleton events event ih =>
    have hready : Ready (hotkey_run registry reallocates events) := hotkey_run_ready events
    rw [hotkey_run_concat]
    rcases hotkey_step_cases hready event with
      ⟨fired, out, -, -, hlog, hstep⟩ | ⟨-, hlog, hheld⟩
    · rw [hlog, receive_append, ih, Option.bind_some, ← receive_filter]
      exact (hstep.key_step hready.distinct id).receive fun key hkey =>
        ⟨held_key_id hkey, hready.makes key (held_key_mem hkey)⟩
    · rw [hlog, hheld]
      exact ih

end Run

end Nxvm.Kvm
