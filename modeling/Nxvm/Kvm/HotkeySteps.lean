/-
What a submission does to the held keys.

Where the sink accepts and makes may be replayed, a submission does one of nine things: it
passes an event on, it ignores a stray break, it ends the hold of a key, or it adds to a hold
by a repeat, a chord that fires, a make that is withheld or a make that is not. Everything
that is said of the matcher later is said of these.
-/
import Nxvm.Kvm.Hotkey

set_option autoImplicit false

namespace Nxvm.Kvm

/-! ## Physical keys -/

/-- What tells a key from another: its scan code, or its code where it has none. -/
structure PhysicalKey where
  extended : BitVec 32
  scan_code : BitVec 16
  key : BaseKey
  deriving DecidableEq, Repr

def physical (event : KeyEvent) : PhysicalKey where
  extended := event.flags &&& base_key_flag_extended
  scan_code := event.scan_code
  key := if event.scan_code = 0 then event.key else 0

theorem same_key_iff (a b : KeyEvent) : same_key a b = true ↔ physical a = physical b := by
  unfold same_key physical
  rw [PhysicalKey.mk.injEq]
  generalize a.flags &&& base_key_flag_extended = extended
  generalize b.flags &&& base_key_flag_extended = extended'
  by_cases hscan : a.scan_code = b.scan_code
  · rw [hscan]
    generalize b.scan_code = code
    by_cases hzero : code = 0#16 <;> by_cases hflags : extended = extended' <;>
      simp [hflags, hzero]
  · have hcode : a.scan_code ≠ 0 ∨ b.scan_code ≠ 0 := by
      by_contra hnone
      rw [not_or, not_not, not_not] at hnone
      exact hscan (hnone.1.trans hnone.2.symm)
    rw [if_pos hcode]
    simp only [hscan, decide_false, ite_self, Bool.false_eq_true, false_and, and_false]

/-- The event with the key code of the make it belongs to. -/
def KeyEvent.under (event make : KeyEvent) : KeyEvent := { event with key := make.key }

/-- Another key code does not make it another key. -/
theorem physical_under {event make : KeyEvent} (h : physical make = physical event) :
    physical (event.under make) = physical event := by
  unfold KeyEvent.under physical at *
  simp only [PhysicalKey.mk.injEq, true_and] at h ⊢
  by_cases hzero : event.scan_code = 0
  · rw [h.2.1] at h
    rw [if_pos hzero, if_pos hzero]
    simpa [hzero] using h.2.2
  · rw [if_neg hzero, if_neg hzero]

/-! ## Steps -/

/-- A key that was not held before. -/
def HeldKey.first (make : KeyEvent) : HeldKey := { make, state := .pending, allow_replay := true }

/-- The makes that are withheld, in order. -/
def pending_makes (held : List HeldKey) : List InputEvent :=
  (held.filter fun key => key.state = .pending).map fun key => .key key.make

/-- The key after a flush. -/
def HeldKey.settled (key : HeldKey) : HeldKey :=
  if key.state = .pending then { key with state := .delivered } else key

/-- The key after a chord fired. -/
def HeldKey.chorded (key : HeldKey) : HeldKey :=
  if key.state = .pending then { key with state := .consumed } else key

/-- `key` is held under the physical key of `event` in `grown`, which is `held` with the key
added if it was not there. -/
inductive Registered (held : List HeldKey) (event : KeyEvent) : HeldKey → List HeldKey → Prop
  | there {key : HeldKey} (hmem : key ∈ held) (hsame : physical key.make = physical event) :
      Registered held event key held
  | new (habsent : ∀ key ∈ held, physical key.make ≠ physical event) :
      Registered held event (.first event) (held ++ [.first event])

/-- The hold of the key of an event ends. -/
def forget (event : KeyEvent) (held : List HeldKey) : List HeldKey :=
  held.eraseP fun key => decide (physical key.make = physical event)

/-- The event is neither a key nor text. -/
def InputEvent.unkeyed : InputEvent → Bool
  | .key _ => false
  | .text _ _ => false
  | _ => true

/-- A submission: the event, whether a hotkey fires, what the sink is handed, and the held
keys afterwards. -/
inductive MatcherStep (held : List HeldKey) :
    InputEvent → Bool → List InputEvent → List HeldKey → Prop
  | passed {event : InputEvent} (h : event.unkeyed = true) :
      MatcherStep held event false [event] held
  | text (origin : EventSource) (scalar : BitVec 32) :
      MatcherStep held (.text origin scalar) false
        (pending_makes held ++ [.text origin scalar]) (held.map HeldKey.settled)
  | stray {event : KeyEvent} (hbreak : event.pressed = false)
      (habsent : ∀ key ∈ held, physical key.make ≠ physical event) :
      MatcherStep held (.key event) false [] held
  | freed {event : KeyEvent} {key : HeldKey} (hbreak : event.pressed = false) (hmem : key ∈ held)
      (hsame : physical key.make = physical event) (hstate : key.state = .consumed) :
      MatcherStep held (.key event) false [] (forget event held)
  | released {event : KeyEvent} {key : HeldKey} (hbreak : event.pressed = false)
      (hmem : key ∈ held) (hsame : physical key.make = physical event)
      (hstate : key.state ≠ .consumed) :
      MatcherStep held (.key event) false (pending_makes held ++ [.key (event.under key.make)])
        (forget event (held.map HeldKey.settled))
  | repeated {event : KeyEvent} {key : HeldKey} {grown : List HeldKey}
      (hmake : event.pressed = true) (hkey : Registered held event key grown)
      (hstate : key.state = .delivered) :
      MatcherStep held (.key event) false (pending_makes grown ++ [.key (event.under key.make)])
        (grown.map HeldKey.settled)
  | fired {event : KeyEvent} {key : HeldKey} {grown : List HeldKey} (identifier : String)
      (hmake : event.pressed = true) (hkey : Registered held event key grown)
      (hstate : key.state ≠ .delivered) :
      MatcherStep held (.key event) true [.hotkey event.origin identifier]
        (grown.map HeldKey.chorded)
  | withheld {event : KeyEvent} {key : HeldKey} {grown : List HeldKey}
      (hmake : event.pressed = true) (hkey : Registered held event key grown)
      (hstate : key.state ≠ .delivered) : MatcherStep held (.key event) false [] grown
  | ordinary {event : KeyEvent} {key : HeldKey} {grown : List HeldKey}
      (hmake : event.pressed = true) (hkey : Registered held event key grown)
      (hstate : key.state = .pending) :
      MatcherStep held (.key event) false (pending_makes grown) (grown.map HeldKey.settled)

/-! ## An accepting sink -/

/-- A sink that always accepts. -/
def accepting : InputSink := fun _ _ => true

/-- Every make may be replayed. -/
def Replayable (held : List HeldKey) : Prop := ∀ key ∈ held, key.allow_replay = true

theorem flush_keys_accepting {held : List HeldKey} (h : Replayable held)
    (log : List InputEvent) :
    flush_keys accepting held log =
      (true, held.map HeldKey.settled, log ++ pending_makes held) := by
  induction held generalizing log with
  | nil => simp [flush_keys, pending_makes]
  | cons key keys ih =>
    have hrest : Replayable keys := fun key hkey => h key (List.mem_cons_of_mem _ hkey)
    have hreplay := h key (List.mem_cons_self ..)
    unfold flush_keys
    by_cases hstate : key.state = .pending
    · rw [if_neg (not_not.mpr hstate), if_pos hreplay, if_neg (by simp [accepting]), ih hrest]
      simp [pending_makes, HeldKey.settled, hstate]
    · rw [if_pos hstate, ih hrest]
      simp [pending_makes, HeldKey.settled, hstate]

theorem flush_pending_accepting {matcher : HotkeyMatcher} (h : Replayable matcher.held)
    (log : List InputEvent) :
    flush_pending accepting matcher log =
      { delivered := true
        matcher := { matcher with held := matcher.held.map HeldKey.settled }
        log := log ++ pending_makes matcher.held } := by
  unfold flush_pending
  rw [flush_keys_accepting h]

theorem flush_and_send_accepting {matcher : HotkeyMatcher} (h : Replayable matcher.held)
    (log : List InputEvent) (event : InputEvent) :
    flush_and_send accepting matcher log event =
      { delivered := true
        matcher := { matcher with held := matcher.held.map HeldKey.settled }
        log := log ++ (pending_makes matcher.held ++ [event]) } := by
  unfold flush_and_send
  rw [flush_pending_accepting h]
  simp [send, accepting]

/-- The index the loop finds is that of the held key. -/
theorem eraseIdx_findIdx (held : List HeldKey) (event : KeyEvent) :
    held.eraseIdx (held.findIdx fun key => same_key key.make event) = forget event held := by
  unfold forget
  induction held with
  | nil => rfl
  | cons key keys ih =>
    by_cases hsame : same_key key.make event = true
    · rw [List.findIdx_cons, hsame]
      rw [List.eraseP_cons_of_pos (by simpa using (same_key_iff _ _).mp hsame)]
      rfl
    · have hother : ¬ physical key.make = physical event :=
        fun hphysical => hsame ((same_key_iff _ _).mpr hphysical)
      rw [List.findIdx_cons, Bool.eq_false_iff.mpr hsame,
        List.eraseP_cons_of_neg (by simpa using hother), ← ih]
      rfl

/-! ## Submissions -/

/-- A submission that did this. -/
structure Did (matcher : HotkeyMatcher) (log : List InputEvent) (event : InputEvent)
    (submission : Submission) : Prop where
  delivered : submission.delivered = true
  registry : submission.matcher.registry = matcher.registry
  failed : submission.matcher.failed = matcher.failed
  step : ∃ fired out, submission.log = log ++ out ∧
    MatcherStep matcher.held event fired out submission.matcher.held

theorem release_key_did {matcher : HotkeyMatcher} (h : Replayable matcher.held)
    (log : List InputEvent) {event : KeyEvent} {key : HeldKey} (hbreak : event.pressed = false)
    (hmem : key ∈ matcher.held) (hsame : physical key.make = physical event) :
    Did matcher log (.key event) (release_key accepting matcher log
      (matcher.held.findIdx fun key => same_key key.make event) key.state
      (event.under key.make)) := by
  unfold release_key
  by_cases hstate : key.state = .consumed
  · rw [if_neg (not_not.mpr hstate), eraseIdx_findIdx]
    exact ⟨rfl, rfl, rfl, false, [], (List.append_nil log).symm, .freed hbreak hmem hsame hstate⟩
  · rw [if_pos hstate, flush_and_send_accepting h]
    have herase : (matcher.held.map HeldKey.settled).eraseIdx
        (matcher.held.findIdx fun key => same_key key.make event) =
        forget event (matcher.held.map HeldKey.settled) := by
      rw [← eraseIdx_findIdx, List.findIdx_map]
      congr 2
      funext key
      unfold Function.comp HeldKey.settled
      split_ifs <;> rfl
    refine ⟨rfl, rfl, rfl, false, _, rfl, ?_⟩
    rw [if_pos rfl]
    dsimp only
    rw [herase]
    exact .released hbreak hmem hsame hstate

theorem press_key_did {matcher : HotkeyMatcher} {event : KeyEvent} {key : HeldKey}
    {grown : List HeldKey} (hgrown : Replayable grown) (log : List InputEvent)
    (hmake : event.pressed = true) (hkey : Registered matcher.held event key grown)
    (capacity : ℕ) :
    Did matcher log (.key event) (press_key accepting
      { matcher with held := grown, held_capacity := capacity } log key.state
      (event.under key.make)) := by
  unfold press_key
  by_cases hdelivered : key.state = .delivered
  · rw [if_pos hdelivered, flush_and_send_accepting hgrown]
    exact ⟨rfl, rfl, rfl, false, _, rfl, .repeated hmake hkey hdelivered⟩
  rw [if_neg hdelivered]
  dsimp only
  generalize (if eligible _ _ = true then _ else none : Option HotkeyRegistration) = matched
  cases matched with
  | some entry =>
    refine ⟨rfl, rfl, rfl, true, _, rfl, ?_⟩
    exact .fired entry.identifier hmake hkey hdelivered
  | none =>
    dsimp only
    split_ifs with hconsumed hmodifier
    · exact ⟨rfl, rfl, rfl, false, [], (List.append_nil log).symm,
        .withheld hmake hkey hdelivered⟩
    · exact ⟨rfl, rfl, rfl, false, [], (List.append_nil log).symm,
        .withheld hmake hkey hdelivered⟩
    · rw [flush_pending_accepting hgrown]
      refine ⟨rfl, rfl, rfl, false, _, rfl, .ordinary hmake hkey ?_⟩
      cases hstate : key.state with
      | pending => rfl
      | delivered => exact absurd hstate hdelivered
      | consumed => exact absurd hstate hconsumed

/-- The table has the key as its last one, unless it could not grow. -/
theorem hold_key_cases (reallocates : ℕ → Bool) (matcher : HotkeyMatcher) (event : KeyEvent) :
    hold_key reallocates matcher event true = none ∨
      ∃ capacity, hold_key reallocates matcher event true =
        some { matcher with
          held := matcher.held ++ [HeldKey.first event], held_capacity := capacity } := by
  unfold hold_key
  by_cases hfull : matcher.held.length = matcher.held_capacity
  · dsimp only
    rw [if_pos hfull]
    generalize (if matcher.held_capacity ≠ 0 then _ else _ : ℕ) = capacity
    by_cases hgrows : reallocates capacity = true
    · exact Or.inr ⟨capacity, if_pos hgrows⟩
    · exact Or.inl (if_neg hgrows)
  · exact Or.inr ⟨matcher.held_capacity, if_neg hfull⟩

/-- A submission that is refused changes nothing but that the matcher has failed. -/
structure Refused (matcher : HotkeyMatcher) (log : List InputEvent) (submission : Submission) :
    Prop where
  delivered : submission.delivered = false
  matcher : submission.matcher = { matcher with failed := true }
  log : submission.log = log

theorem hotkey_transition_did {matcher : HotkeyMatcher} (h : Replayable matcher.held)
    (reallocates : ℕ → Bool) (log : List InputEvent) (event : KeyEvent) :
    Did matcher log (.key event)
        (hotkey_transition accepting reallocates matcher log event true) ∨
      hotkey_transition accepting reallocates matcher log event true =
        { delivered := false, matcher, log } := by
  unfold hotkey_transition
  dsimp only
  cases hfound : matcher.held[matcher.held.findIdx fun key => same_key key.make event]? with
  | some key =>
    have hmem := List.mem_of_getElem? hfound
    have hsame := (same_key_iff key.make event).mp
      (List.findIdx_of_getElem?_eq_some (p := fun key : HeldKey => same_key key.make event) hfound)
    refine Or.inl ?_
    change Did matcher log (.key event)
      (if (!event.pressed) = true then
        release_key accepting matcher log _ key.state (event.under key.make)
      else press_key accepting matcher log key.state (event.under key.make))
    by_cases hpressed : event.pressed = true
    · rw [if_neg (by rw [hpressed]; decide)]
      exact press_key_did h log hpressed (.there hmem hsame) matcher.held_capacity
    · rw [Bool.not_eq_true] at hpressed
      rw [if_pos (by rw [hpressed]; rfl)]
      exact release_key_did h log hpressed hmem hsame
  | none =>
    have habsent : ∀ key ∈ matcher.held, physical key.make ≠ physical event := by
      intro key hmem hsame
      have hlt := List.findIdx_lt_length_of_exists (p := fun key => same_key key.make event)
        ⟨key, hmem, (same_key_iff _ _).mpr hsame⟩
      rw [List.getElem?_eq_none_iff] at hfound
      omega
    dsimp only
    cases hpressed : event.pressed with
    | false =>
      exact Or.inl ⟨rfl, rfl, rfl, false, [], (List.append_nil log).symm,
        .stray hpressed habsent⟩
    | true =>
      have hgrown : Replayable (matcher.held ++ [HeldKey.first event]) := by
        intro key hmem
        rcases List.mem_append.mp hmem with hmem | hmem
        · exact h key hmem
        · rw [List.mem_singleton.mp hmem]
          rfl
      rw [if_neg (by decide)]
      rcases hold_key_cases reallocates matcher event with hnone | ⟨capacity, hsome⟩
      · rw [hnone]
        exact Or.inr rfl
      · rw [hsome]
        exact Or.inl (press_key_did hgrown log hpressed (.new habsent) capacity)

/-- What a submission does, unless the table of the held keys could not grow. -/
theorem matcher_submit_did {matcher : HotkeyMatcher} (h : Replayable matcher.held)
    (hfailed : matcher.failed = false) (reallocates : ℕ → Bool) (log : List InputEvent)
    (event : InputEvent) :
    Did matcher log event (matcher_submit accepting reallocates matcher log event true) ∨
      Refused matcher log (matcher_submit accepting reallocates matcher log event true) := by
  have hsend (hunkeyed : event.unkeyed = true) :
      Did matcher log event (send accepting matcher log event) :=
    ⟨rfl, rfl, rfl, false, _, rfl, .passed hunkeyed⟩
  unfold matcher_submit
  rw [if_neg (by rw [hfailed]; decide)]
  cases event with
  | key event =>
    dsimp only
    rcases hotkey_transition_did h reallocates log event with hdid | hrefused
    · rw [if_pos hdid.delivered]
      exact Or.inl hdid
    · rw [hrefused]
      exact Or.inr ⟨rfl, rfl, rfl⟩
  | text origin scalar =>
    dsimp only
    rw [flush_and_send_accepting h]
    exact Or.inl ⟨rfl, rfl, rfl, false, _, rfl, .text origin scalar⟩
  | mouse origin data => exact Or.inl (hsend rfl)
  | hotkey origin identifier => exact Or.inl (hsend rfl)
  | window_close origin => exact Or.inl (hsend rfl)
  | input_reset origin => exact Or.inl (hsend rfl)
  | source_retired origin => exact Or.inl (hsend rfl)

end Nxvm.Kvm
