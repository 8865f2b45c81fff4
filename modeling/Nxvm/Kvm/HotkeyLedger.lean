/-
The ledger of one key.

Seen from one physical key, the matcher is a machine of four states: not held, and held with
one of three dispositions. What the sink is handed of that key depends on nothing else. The
machine is connected to the matcher by `MatcherStep.key_step`, for every key at once; what a
hold of a key looks like to the sink is then an induction over the machine.
-/
import Nxvm.Kvm.HotkeySteps

set_option autoImplicit false

namespace Nxvm.Kvm

/-! ## The machine -/

/-- The event is of this key. -/
def of_key (id : PhysicalKey) : InputEvent → Bool
  | .key event => decide (physical event = id)
  | _ => false

/-- The event makes or repeats this key. -/
def presses (id : PhysicalKey) : InputEvent → Bool
  | .key event => event.pressed && decide (physical event = id)
  | _ => false

/-- The event breaks this key. -/
def releases (id : PhysicalKey) : InputEvent → Bool
  | .key event => !event.pressed && decide (physical event = id)
  | _ => false

/-- What an event that does not release a held key does to it. -/
inductive KeyFollows (event : InputEvent) : Bool → HeldKey → List InputEvent → HeldKey → Prop
  | withheld {key : HeldKey} (h : key.state = .pending) : KeyFollows event false key [] key
  | replayed {key : HeldKey} (h : key.state = .pending) :
      KeyFollows event false key [.key key.make] { key with state := .delivered }
  | chorded {key : HeldKey} (h : key.state = .pending) :
      KeyFollows event true key [] { key with state := .consumed }
  | kept {fired : Bool} {key : HeldKey} (h : key.state ≠ .pending) :
      KeyFollows event fired key [] key
  | repeated {key : HeldKey} {again : KeyEvent} (h : key.state = .delivered)
      (hevent : event = .key again) (hmake : again.pressed = true)
      (hsame : physical key.make = physical again) :
      KeyFollows event false key [.key (again.under key.make)] key

/-- What an event does to a key: the entry of the key, and what the sink is handed of it. -/
inductive KeyStep (id : PhysicalKey) (event : InputEvent) :
    Bool → Option HeldKey → List InputEvent → Option HeldKey → Prop
  | absent {fired : Bool} (h : presses id event = false) : KeyStep id event fired none [] none
  | first {fired : Bool} {make : KeyEvent} {out : List InputEvent} {key : HeldKey}
      (hevent : event = .key make) (hmake : make.pressed = true) (hid : physical make = id)
      (hstep : KeyFollows event fired (.first make) out key) :
      KeyStep id event fired none out (some key)
  | held {fired : Bool} {key key' : HeldKey} {out : List InputEvent}
      (h : releases id event = false) (hstep : KeyFollows event fired key out key') :
      KeyStep id event fired (some key) out (some key')
  | released {key : HeldKey} {release : KeyEvent} (hevent : event = .key release)
      (hbreak : release.pressed = false) (hid : physical release = id)
      (hstate : key.state ≠ .consumed) :
      KeyStep id event false (some key)
        ((if key.state = .pending then [.key key.make] else []) ++
          [.key (release.under key.make)]) none
  | freed {key : HeldKey} (h : releases id event = true) (hstate : key.state = .consumed) :
      KeyStep id event false (some key) [] none

/-! ## Entries -/

/-- The entry of a key. -/
def held_key (id : PhysicalKey) (held : List HeldKey) : Option HeldKey :=
  held.find? fun key => decide (physical key.make = id)

/-- Every key has one entry at most. -/
def Distinct (held : List HeldKey) : Prop := (held.map fun key => physical key.make).Nodup

theorem held_key_id {id : PhysicalKey} {held : List HeldKey} {key : HeldKey}
    (h : held_key id held = some key) : physical key.make = id := by
  simpa using List.find?_some h

theorem held_key_mem {id : PhysicalKey} {held : List HeldKey} {key : HeldKey}
    (h : held_key id held = some key) : key ∈ held := List.mem_of_find?_eq_some h

theorem held_key_none {id : PhysicalKey} {held : List HeldKey} :
    held_key id held = none ↔ ∀ key ∈ held, physical key.make ≠ id := by
  simp [held_key]

theorem held_key_of_mem {held : List HeldKey} (hdistinct : Distinct held) {key : HeldKey}
    (hmem : key ∈ held) : held_key (physical key.make) held = some key := by
  cases hfound : held_key (physical key.make) held with
  | none => exact absurd rfl (held_key_none.mp hfound key hmem)
  | some other =>
    have hsame := List.inj_on_of_nodup_map hdistinct (held_key_mem hfound) hmem
      (held_key_id hfound)
    rw [hsame]

/-- A change of dispositions. -/
theorem held_key_map (id : PhysicalKey) (held : List HeldKey) {f : HeldKey → HeldKey}
    (hmake : ∀ key, (f key).make = key.make) :
    held_key id (held.map f) = (held_key id held).map f := by
  unfold held_key
  rw [List.find?_map]
  congr 2
  funext key
  simp only [Function.comp_apply, hmake]

theorem Distinct.map {held : List HeldKey} (h : Distinct held) {f : HeldKey → HeldKey}
    (hmake : ∀ key, (f key).make = key.make) : Distinct (held.map f) := by
  unfold Distinct at h ⊢
  rw [List.map_map]
  simpa only [Function.comp_def, hmake] using h

theorem settled_make (key : HeldKey) : key.settled.make = key.make := by
  unfold HeldKey.settled
  split_ifs <;> rfl

theorem chorded_make (key : HeldKey) : key.chorded.make = key.make := by
  unfold HeldKey.chorded
  split_ifs <;> rfl

theorem Distinct.forget {held : List HeldKey} (h : Distinct held) (event : KeyEvent) :
    Distinct (forget event held) :=
  (List.eraseP_sublist.map _).nodup h

/-- The key that was released has no entry any more, and the others keep theirs. -/
theorem held_key_forget {held : List HeldKey} (h : Distinct held) (id : PhysicalKey)
    (event : KeyEvent) :
    held_key id (forget event held) =
      if physical event = id then none else held_key id held := by
  induction held with
  | nil => simp [held_key, forget]
  | cons key keys ih =>
    obtain ⟨hnew, hkeys⟩ := List.nodup_cons.mp (show (_ :: _).Nodup from h)
    by_cases hsame : physical key.make = physical event
    · unfold forget
      rw [List.eraseP_cons_of_pos (by simpa using hsame)]
      split_ifs with hid
      · refine held_key_none.mpr fun other hother hother_id => hnew ?_
        exact List.mem_map.mpr ⟨other, hother, hother_id.trans (hid.symm.trans hsame.symm)⟩
      · unfold held_key
        rw [List.find?_cons_of_neg (by simpa [hsame] using hid)]
    · have hrest := ih hkeys
      unfold forget at hrest ⊢
      rw [List.eraseP_cons_of_neg (by simpa using hsame)]
      unfold held_key at hrest ⊢
      by_cases hid : physical key.make = id
      · rw [List.find?_cons_of_pos (by simpa using hid),
          List.find?_cons_of_pos (by simpa using hid),
          if_neg fun hevent => hsame (hid.trans hevent.symm)]
      · rw [List.find?_cons_of_neg (by simpa using hid),
          List.find?_cons_of_neg (by simpa using hid), hrest]

theorem Registered.distinct {held grown : List HeldKey} {event : KeyEvent} {key : HeldKey}
    (h : Registered held event key grown) (hdistinct : Distinct held) : Distinct grown := by
  cases h with
  | there hmem hsame => exact hdistinct
  | new habsent =>
    unfold Distinct
    rw [List.map_append]
    refine List.Nodup.append hdistinct (List.nodup_singleton _) ?_
    intro id hid hnew
    obtain ⟨key, hmem, rfl⟩ := List.mem_map.mp hid
    exact habsent key hmem (by simpa [HeldKey.first] using hnew)

/-- The entry of the key of the event, and of the other keys. -/
theorem Registered.held_key {held grown : List HeldKey} {event : KeyEvent} {key : HeldKey}
    (h : Registered held event key grown) (hdistinct : Distinct held) (id : PhysicalKey) :
    Kvm.held_key id grown =
      if physical event = id then some key else Kvm.held_key id held := by
  cases h with
  | there hmem hsame =>
    split_ifs with hid
    · rw [← hid, ← hsame]
      exact held_key_of_mem hdistinct hmem
    · rfl
  | new habsent =>
    unfold Kvm.held_key
    rw [List.find?_append]
    split_ifs with hid
    · rw [List.find?_eq_none.mpr fun key hmem => by
        simpa [← hid] using habsent key hmem]
      simp [HeldKey.first, hid]
    · have hlast : [HeldKey.first event].find? (fun key => decide (physical key.make = id)) =
          none := by simp [HeldKey.first, hid]
      rw [hlast, Option.or_none]

/-- What is replayed of a key. -/
theorem pending_makes_of_key {held : List HeldKey} (h : Distinct held) (id : PhysicalKey) :
    (pending_makes held).filter (of_key id) =
      match Kvm.held_key id held with
      | none => []
      | some key => if key.state = .pending then [.key key.make] else [] := by
  induction held with
  | nil => rfl
  | cons key keys ih =>
    obtain ⟨hnew, hkeys⟩ := List.nodup_cons.mp (show (_ :: _).Nodup from h)
    have hrest := ih hkeys
    unfold pending_makes at hrest ⊢
    by_cases hid : physical key.make = id
    · have hnone : Kvm.held_key id keys = none := by
        refine held_key_none.mpr fun other hother hother_id => hnew ?_
        exact List.mem_map.mpr ⟨other, hother, hother_id.trans hid.symm⟩
      have hfirst : Kvm.held_key id (key :: keys) = some key :=
        List.find?_cons_of_pos (by simpa using hid)
      rw [hnone] at hrest
      rw [hfirst]
      by_cases hstate : key.state = .pending
      · simpa [hstate, of_key, hid] using hrest
      · simpa [hstate] using hrest
    · have hskip : Kvm.held_key id (key :: keys) = Kvm.held_key id keys :=
        List.find?_cons_of_neg (by simpa using hid)
      rw [hskip, ← hrest]
      by_cases hstate : key.state = .pending <;> simp [hstate, of_key, hid]

/-! ## The matcher is the machine of every key -/

/-- A flush, seen from a key. -/
theorem follows_settled (event : InputEvent) (key : HeldKey) :
    KeyFollows event false key (if key.state = .pending then [.key key.make] else [])
      key.settled := by
  unfold HeldKey.settled
  split_ifs with hstate
  · exact .replayed hstate
  · exact .kept hstate

/-- A chord that fires, seen from a key. -/
theorem follows_chorded (event : InputEvent) (key : HeldKey) :
    KeyFollows event true key [] key.chorded := by
  unfold HeldKey.chorded
  split_ifs with hstate
  · exact .chorded hstate
  · exact .kept hstate

/-- Nothing, seen from a key. -/
theorem follows_same (event : InputEvent) (key : HeldKey) :
    KeyFollows event false key [] key := by
  by_cases hstate : key.state = .pending
  · exact .withheld hstate
  · exact .kept hstate

/-- An event that neither presses nor releases a key. -/
theorem KeyStep.other {id : PhysicalKey} {event : InputEvent} {fired : Bool}
    {before after : Option HeldKey} {out : List InputEvent} (hpress : presses id event = false)
    (hrelease : releases id event = false) (hnone : before = none → out = [] ∧ after = none)
    (hsome : ∀ key, before = some key → ∃ key', KeyFollows event fired key out key' ∧
      after = some key') : KeyStep id event fired before out after := by
  cases before with
  | none =>
    obtain ⟨rfl, rfl⟩ := hnone rfl
    exact .absent hpress
  | some key =>
    obtain ⟨key', hstep, rfl⟩ := hsome key rfl
    exact .held hrelease hstep

/-- A make or a repeat, whose key is held when it is looked at. -/
theorem KeyStep.pressed {held grown : List HeldKey} {event : KeyEvent} {key : HeldKey}
    (hkey : Registered held event key grown) (hdistinct : Distinct held)
    (hmake : event.pressed = true) (id : PhysicalKey) {fired : Bool} {after : Option HeldKey}
    {out : List InputEvent} (hnone : held_key id grown = none → out = [] ∧ after = none)
    (hsome : ∀ key, held_key id grown = some key →
      ∃ key', KeyFollows (.key event) fired key out key' ∧ after = some key') :
    KeyStep id (.key event) fired (held_key id held) out after := by
  have hentry := hkey.held_key hdistinct id
  by_cases hid : physical event = id
  · rw [if_pos hid] at hentry
    obtain ⟨key', hstep, rfl⟩ := hsome key hentry
    cases hkey with
    | there hmem hsame =>
      rw [hentry]
      exact .held (by simp [releases, hmake]) hstep
    | new habsent =>
      rw [held_key_none.mpr (hid ▸ habsent)]
      exact .first rfl hmake hid hstep
  · rw [if_neg hid] at hentry
    rw [← hentry]
    exact .other (by simp [presses, hid]) (by simp [releases, hid]) hnone hsome

/-- Every submission is a step of the machine of every key. -/
theorem MatcherStep.key_step {held held' : List HeldKey} {event : InputEvent} {fired : Bool}
    {out : List InputEvent} (h : MatcherStep held event fired out held')
    (hdistinct : Distinct held) (id : PhysicalKey) :
    KeyStep id event fired (held_key id held) (out.filter (of_key id)) (held_key id held') := by
  cases h with
  | passed hunkeyed =>
    have hother : of_key id event = false := by
      cases event <;> first | rfl | exact Bool.noConfusion hunkeyed
    rw [List.filter_singleton, hother]
    refine .other ?_ ?_ (fun hnone => ⟨rfl, hnone⟩) fun key hkey =>
      ⟨key, follows_same event key, hkey⟩
    · cases event <;> first | rfl | exact Bool.noConfusion hunkeyed
    · cases event <;> first | rfl | exact Bool.noConfusion hunkeyed
  | text origin scalar =>
    rw [List.filter_append, pending_makes_of_key hdistinct, held_key_map id held settled_make]
    refine .other rfl rfl (fun hnone => ?_) fun key hkey =>
      ⟨key.settled, ?_, by rw [hkey]; rfl⟩
    · rw [hnone]
      exact ⟨rfl, rfl⟩
    · rw [hkey]
      simpa [of_key] using follows_settled (.text origin scalar) key
  | @stray event hbreak habsent =>
    by_cases hid : physical event = id
    · rw [held_key_none.mpr (hid ▸ habsent)]
      exact .absent (by simp [presses, hbreak])
    · exact .other (by simp [presses, hid]) (by simp [releases, hid])
        (fun hnone => ⟨rfl, hnone⟩) fun key hkey => ⟨key, follows_same _ key, hkey⟩
  | @freed event key hbreak hmem hsame hstate =>
    rw [held_key_forget hdistinct]
    by_cases hid : physical event = id
    · have hkey := held_key_of_mem hdistinct hmem
      rw [hsame, hid] at hkey
      rw [hkey, if_pos hid]
      exact .freed (by simp [releases, hbreak, hid]) hstate
    · rw [if_neg hid]
      exact .other (by simp [presses, hid]) (by simp [releases, hid])
        (fun hnone => ⟨rfl, hnone⟩) fun key hkey => ⟨key, follows_same _ key, hkey⟩
  | @released event key hbreak hmem hsame hstate =>
    rw [held_key_forget (hdistinct.map settled_make), held_key_map id held settled_make,
      List.filter_append, pending_makes_of_key hdistinct]
    by_cases hid : physical event = id
    · have hkey := held_key_of_mem hdistinct hmem
      rw [hsame, hid] at hkey
      have hbreak_id : of_key id (.key (event.under key.make)) = true := by
        simpa [of_key, physical_under hsame] using hid
      rw [hkey, if_pos hid, List.filter_singleton, hbreak_id]
      exact .released rfl hbreak hid hstate
    · have hbreak_id : of_key id (.key (event.under key.make)) = false := by
        simpa [of_key, physical_under hsame] using hid
      rw [if_neg hid, List.filter_singleton, hbreak_id]
      refine .other (by simp [presses, hid]) (by simp [releases, hid]) (fun hnone => ?_)
        fun key' hkey' => ⟨key'.settled, ?_, by rw [hkey']; rfl⟩
      · rw [hnone]
        exact ⟨rfl, rfl⟩
      · rw [hkey']
        simpa using follows_settled (.key event) key'
  | @repeated event key grown hmake hkey hstate =>
    rw [List.filter_append, pending_makes_of_key (hkey.distinct hdistinct),
      held_key_map id grown settled_make]
    have hsame : physical key.make = physical event := by
      cases hkey with
      | there hmem hsame => exact hsame
      | new habsent => exact absurd hstate (by simp [HeldKey.first])
    refine .pressed hkey hdistinct hmake id (fun hnone => ?_) fun key' hkey' =>
      ⟨key'.settled, ?_, by rw [hkey']; rfl⟩
    · have hid : ¬ physical event = id := fun hid => by
        rw [hkey.held_key hdistinct, if_pos hid] at hnone
        exact Option.some_ne_none key hnone
      rw [hnone]
      simp [of_key, physical_under hsame, hid]
    · rw [hkey']
      have hentry := hkey.held_key hdistinct id
      by_cases hid : physical event = id
      · rw [if_pos hid, hkey', Option.some.injEq] at hentry
        have hsettled : key.settled = key := by simp [HeldKey.settled, hstate]
        rw [hentry, hsettled]
        simpa [of_key, physical_under hsame, hid, hstate] using
          KeyFollows.repeated hstate rfl hmake hsame
      · have hrepeat : of_key id (.key (event.under key.make)) = false := by
          simpa [of_key, physical_under hsame] using hid
        rw [List.filter_singleton, hrepeat]
        simpa using follows_settled (.key event) key'
  | @fired event key grown identifier hmake hkey hstate =>
    rw [held_key_map id grown chorded_make]
    exact .pressed hkey hdistinct hmake id (fun hnone => ⟨rfl, by rw [hnone]; rfl⟩)
      fun key' hkey' => ⟨key'.chorded, follows_chorded _ key', by rw [hkey']; rfl⟩
  | @withheld event key grown hmake hkey hstate =>
    exact .pressed hkey hdistinct hmake id (fun hnone => ⟨rfl, hnone⟩)
      fun key' hkey' => ⟨key', follows_same _ key', hkey'⟩
  | @ordinary event key grown hmake hkey hstate =>
    rw [pending_makes_of_key (hkey.distinct hdistinct), held_key_map id grown settled_make]
    refine .pressed hkey hdistinct hmake id (fun hnone => ?_) fun key' hkey' =>
      ⟨key'.settled, ?_, by rw [hkey']; rfl⟩
    · rw [hnone]
      exact ⟨rfl, rfl⟩
    · rw [hkey']
      exact follows_settled (.key event) key'

/-- A submission leaves one entry for each key. -/
theorem MatcherStep.distinct {held held' : List HeldKey} {event : InputEvent} {fired : Bool}
    {out : List InputEvent} (h : MatcherStep held event fired out held')
    (hdistinct : Distinct held) : Distinct held' := by
  cases h with
  | passed hunkeyed => exact hdistinct
  | text origin scalar => exact hdistinct.map settled_make
  | stray hbreak habsent => exact hdistinct
  | freed hbreak hmem hsame hstate => exact hdistinct.forget _
  | released hbreak hmem hsame hstate => exact (hdistinct.map settled_make).forget _
  | repeated hmake hkey hstate => exact (hkey.distinct hdistinct).map settled_make
  | fired identifier hmake hkey hstate => exact (hkey.distinct hdistinct).map chorded_make
  | withheld hmake hkey hstate => exact hkey.distinct hdistinct
  | ordinary hmake hkey hstate => exact (hkey.distinct hdistinct).map settled_make

/-- What holds of every key that is made holds of every key that is held, if it does not
depend on the disposition. -/
theorem MatcherStep.all {P : HeldKey → Prop} (hstate : ∀ key state, P key → P { key with state })
    (hfirst : ∀ make : KeyEvent, make.pressed = true → P (.first make))
    {held held' : List HeldKey} {event : InputEvent} {fired : Bool} {out : List InputEvent}
    (h : MatcherStep held event fired out held') (hall : ∀ key ∈ held, P key) :
    ∀ key ∈ held', P key := by
  have hsettled {held : List HeldKey} (hall : ∀ key ∈ held, P key) :
      ∀ key ∈ held.map HeldKey.settled, P key := by
    intro key hkey
    obtain ⟨before, hbefore, rfl⟩ := List.mem_map.mp hkey
    unfold HeldKey.settled
    split_ifs
    · exact hstate before .delivered (hall before hbefore)
    · exact hall before hbefore
  have hgrown {event : KeyEvent} {key : HeldKey} {grown : List HeldKey}
      (hmake : event.pressed = true) (hkey : Registered held event key grown) :
      ∀ key ∈ grown, P key := by
    cases hkey with
    | there hmem hsame => exact hall
    | new habsent =>
      intro key hmem
      rcases List.mem_append.mp hmem with hmem | hmem
      · exact hall key hmem
      · rw [List.mem_singleton.mp hmem]
        exact hfirst _ hmake
  cases h with
  | passed hunkeyed => exact hall
  | text origin scalar => exact hsettled hall
  | stray hbreak habsent => exact hall
  | freed hbreak hmem hsame hstate => exact fun key hkey => hall key (List.mem_of_mem_eraseP hkey)
  | released hbreak hmem hsame hstate =>
    exact fun key hkey => hsettled hall key (List.mem_of_mem_eraseP hkey)
  | repeated hmake hkey hstate => exact hsettled (hgrown hmake hkey)
  | fired identifier hmake hkey hdelivered =>
    intro key hmem
    obtain ⟨before, hbefore, rfl⟩ := List.mem_map.mp hmem
    unfold HeldKey.chorded
    split_ifs
    · exact hstate before .consumed (hgrown hmake hkey before hbefore)
    · exact hgrown hmake hkey before hbefore
  | withheld hmake hkey hstate => exact hgrown hmake hkey
  | ordinary hmake hkey hstate => exact hsettled (hgrown hmake hkey)

/-! ## The other end -/

/-- Whether the receiver of these events has the key down at the end; `none` when a key is
broken that is not down. -/
def receive (id : PhysicalKey) : Bool → List InputEvent → Option Bool
  | down, [] => some down
  | down, event :: events =>
    if presses id event then receive id true events
    else if releases id event then if down then receive id false events else none
    else receive id down events

theorem receive_append (id : PhysicalKey) (down : Bool) (events events' : List InputEvent) :
    receive id down (events ++ events') =
      (receive id down events).bind fun down => receive id down events' := by
  induction events generalizing down with
  | nil => rfl
  | cons event events ih =>
    simp only [List.cons_append, receive]
    split_ifs
    · exact ih true
    · exact ih false
    · rfl
    · exact ih down

/-- Only the events of the key count. -/
theorem receive_filter (id : PhysicalKey) (down : Bool) (events : List InputEvent) :
    receive id down (events.filter (of_key id)) = receive id down events := by
  induction events generalizing down with
  | nil => rfl
  | cons event events ih =>
    by_cases hid : of_key id event = true
    · rw [List.filter_cons_of_pos hid]
      simp only [receive]
      split_ifs
      · exact ih true
      · exact ih false
      · rfl
      · exact ih down
    · rw [List.filter_cons_of_neg hid, ih]
      have hpress : presses id event = false := by
        cases event <;> simp_all [of_key, presses]
      have hrelease : releases id event = false := by
        cases event <;> simp_all [of_key, releases]
      simp [receive, hpress, hrelease]

/-- The receiver has the key down. -/
def at_receiver (entry : Option HeldKey) : Bool :=
  entry.any fun key => decide (key.state = .delivered)

/-- A make that is handed out puts the key down. -/
theorem receive_make {id : PhysicalKey} {event : KeyEvent} (hmake : event.pressed = true)
    (hid : physical event = id) (down : Bool) (events : List InputEvent) :
    receive id down (.key event :: events) = receive id true events := by
  rw [receive, if_pos (by simp [presses, hmake, hid])]

/-- A break that is handed out takes the key up. -/
theorem receive_break {id : PhysicalKey} {event : KeyEvent} (hbreak : event.pressed = false)
    (hid : physical event = id) (events : List InputEvent) :
    receive id true (.key event :: events) = receive id false events := by
  rw [receive, if_neg (by simp [presses, hbreak]), if_pos (by simp [releases, hbreak, hid]),
    if_pos rfl]

theorem KeyFollows.receive {id : PhysicalKey} {event : InputEvent} {fired : Bool}
    {key key' : HeldKey} {out : List InputEvent} (h : KeyFollows event fired key out key')
    (hid : physical key.make = id) (hmake : key.make.pressed = true) :
    Kvm.receive id (at_receiver (some key)) out = some (at_receiver (some key')) := by
  cases h with
  | withheld h => rfl
  | replayed h =>
    rw [receive_make hmake hid]
    rfl
  | chorded h => simp [Kvm.receive, at_receiver, h]
  | kept h => rfl
  | repeated h hevent hagain hsame =>
    rw [receive_make (by exact hagain) ((physical_under hsame).trans (hsame.symm.trans hid))]
    simp [Kvm.receive, at_receiver, h]

/-- The receiver has a key down exactly while its disposition is that it was delivered. -/
theorem KeyStep.receive {id : PhysicalKey} {event : InputEvent} {fired : Bool}
    {before after : Option HeldKey} {out : List InputEvent}
    (h : KeyStep id event fired before out after)
    (hentry : ∀ key, before = some key → physical key.make = id ∧ key.make.pressed = true) :
    Kvm.receive id (at_receiver before) out = some (at_receiver after) := by
  cases h with
  | absent h => rfl
  | first hevent hmake hid hstep => exact hstep.receive hid hmake
  | held h hstep => exact hstep.receive (hentry _ rfl).1 (hentry _ rfl).2
  | @released key release hevent hbreak hid hstate =>
    obtain ⟨hkey, hmake⟩ := hentry key rfl
    have hunder : physical (release.under key.make) = id :=
      (physical_under (hkey.trans hid.symm)).trans hid
    cases hpending : key.state with
    | pending =>
      rw [if_pos rfl]
      change Kvm.receive id _ [.key key.make, .key (release.under key.make)] = _
      rw [receive_make hmake hkey, receive_break (by exact hbreak) hunder]
      rfl
    | delivered =>
      rw [if_neg (by decide)]
      have hdown : at_receiver (some key) = true := by simp [at_receiver, hpending]
      rw [hdown, List.nil_append, receive_break (by exact hbreak) hunder]
      rfl
    | consumed => exact absurd hpending hstate
  | freed h hstate => simp [Kvm.receive, at_receiver, hstate]

/-- A key has an entry from its make to its break. -/
theorem KeyStep.entry {id : PhysicalKey} {event : InputEvent} {fired : Bool}
    {before after : Option HeldKey} {out : List InputEvent}
    (h : KeyStep id event fired before out after) :
    after.isSome =
      if presses id event then true else if releases id event then false else before.isSome := by
  have hboth (hpress : presses id event = true) : releases id event = false := by
    cases event <;> simp_all [presses, releases]
  cases h with
  | absent h => simp [h]
  | first hevent hmake hid hstep => simp [hevent, presses, hmake, hid]
  | held h hstep => simp [h]
  | released hevent hbreak hid hstate => simp [hevent, presses, releases, hbreak, hid]
  | freed h hstate =>
    have hpress : presses id event = false := by
      by_contra hne
      rw [Bool.not_eq_false] at hne
      rw [hboth hne] at h
      exact Bool.noConfusion h
    simp [h, hpress]

end Nxvm.Kvm
