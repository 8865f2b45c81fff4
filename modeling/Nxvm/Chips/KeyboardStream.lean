/-
The keyboard across calls (`keyboard.c`).

A sequence of bytes may be admitted in parts: what a part leaves of a sequence waits in the
keyboard. A key repeats at times of its own: an advance may be taken in parts. Both are facts
about one byte and one repeat, carried over a list and over a time. What every command and
every setter has to keep is only that a key that repeats has a period.
-/
import Nxvm.Chips.KeyboardEndpoint

set_option autoImplicit false

namespace Nxvm.Chips

open Nxvm.Lib Nxvm.Lib.Register Nxvm.Machine

/-! ## The keyboards that there are -/

/-- What repeats has a period. -/
def KeyboardEndpoint.Sound (keyboard : KeyboardEndpoint) : Prop :=
  keyboard.repeat_bytes ≠ [] → 0 < keyboard.repeat_ticks

/-- A command leaves a keyboard, whatever its deliveries record. -/
inductive WriteLeaves : EndpointWrite KeyboardEndpoint → KeyboardEndpoint → Prop
  | done (keyboard : KeyboardEndpoint) : WriteLeaves (.done keyboard) keyboard
  | reply {keyboard last : KeyboardEndpoint} {origin : KbcOrigin} {bytes : List U8}
      {next : KeyboardEndpoint → EndpointWrite KeyboardEndpoint} (history : KeyboardHistory)
      (rest : WriteLeaves (next { keyboard with history := history }) last) :
      WriteLeaves (.reply keyboard origin bytes next) last
  | reset_stream {last : KeyboardEndpoint} {next : EndpointWrite KeyboardEndpoint}
      (rest : WriteLeaves next last) : WriteLeaves (.reset_stream next) last

/-- What runs of calls leave of a keyboard. -/
inductive KeyboardReachable : KeyboardEndpoint → Prop
  | create : KeyboardReachable keyboard_create
  | reset {keyboard : KeyboardEndpoint} (h : KeyboardReachable keyboard) :
      KeyboardReachable (keyboard_reset keyboard)
  | write {keyboard last : KeyboardEndpoint} (h : KeyboardReachable keyboard) (value : U8)
      (leaves : WriteLeaves (keyboard_write keyboard value) last) : KeyboardReachable last
  | cancel_parameter {keyboard : KeyboardEndpoint} (h : KeyboardReachable keyboard) :
      KeyboardReachable (keyboard_cancel_parameter keyboard)
  | start {keyboard : KeyboardEndpoint} (h : KeyboardReachable keyboard) :
      KeyboardReachable (keyboard_start keyboard).2
  | take_bat {keyboard : KeyboardEndpoint} (h : KeyboardReachable keyboard) :
      KeyboardReachable { keyboard with history := (keyboard_take_bat keyboard.history).2 }
  | clear_bat {keyboard : KeyboardEndpoint} (h : KeyboardReachable keyboard) :
      KeyboardReachable { keyboard with history := keyboard_clear_bat keyboard.history }
  | note_output {keyboard : KeyboardEndpoint} (h : KeyboardReachable keyboard) (byte : U8) :
      KeyboardReachable { keyboard with history := keyboard_note_output keyboard.history byte }
  | admitted {keyboard : KeyboardEndpoint} (h : KeyboardReachable keyboard) (bytes : List U8)
      (capacity : ℕ) : KeyboardReachable ( keyboard_admit keyboard bytes capacity).2.2
  | set_typematic_timing {keyboard : KeyboardEndpoint} (h : KeyboardReachable keyboard)
      (initial_ticks repeat_ticks : U32) :
      KeyboardReachable (keyboard_set_typematic_timing keyboard initial_ticks repeat_ticks)
  | advance {γ : Type} {keyboard last : KeyboardEndpoint} (h : KeyboardReachable keyboard)
      (sink : RepeatSink γ) (rounds elapsed_ticks : ℕ) (context context' : γ) (accepted : Bool)
      (advanced : keyboard_advance sink rounds elapsed_ticks context keyboard =
        some (accepted, context', last)) : KeyboardReachable last

/-! ## What repeats has a period -/

theorem keyboard_apply_typematic_sound (keyboard : KeyboardEndpoint) :
    (keyboard_apply_typematic keyboard).Sound := by
  intro hrepeat
  rw [keyboard_apply_typematic] at hrepeat ⊢
  split
  · rename_i hzero
    rw [if_pos hzero] at hrepeat
    exact absurd rfl hrepeat
  · rename_i hzero
    rw [not_or] at hzero
    exact Nat.pos_of_ne_zero hzero.2

theorem sound_of_idle {keyboard : KeyboardEndpoint} (h : keyboard.repeat_bytes = []) :
    keyboard.Sound :=
  fun hrepeat => absurd h hrepeat

theorem keyboard_pending_sound {keyboard : KeyboardEndpoint} (h : keyboard.Sound)
    (pending : KeyboardParameter) : KeyboardEndpoint.Sound { keyboard with pending := pending } :=
  h

/-- What a command writes to at its end, whatever its deliveries record. -/
def Writes (p : KeyboardEndpoint → Prop) : EndpointWrite KeyboardEndpoint → Prop
  | .done keyboard => p keyboard
  | .reply keyboard _ _ next => ∀ history, Writes p (next { keyboard with history := history })
  | .reset_stream next => Writes p next

theorem Writes.leaves {p : KeyboardEndpoint → Prop} {write : EndpointWrite KeyboardEndpoint}
    {last : KeyboardEndpoint} (h : Writes p write) (leaves : WriteLeaves write last) :
    p last := by
  induction leaves with
  | done keyboard => exact h
  | reply history rest ih => exact ih (h history)
  | reset_stream rest ih => exact ih h

theorem Writes.of_ite {p : KeyboardEndpoint → Prop} {c : Prop} [Decidable c]
    {write write' : EndpointWrite KeyboardEndpoint} (h : Writes p write) (h' : Writes p write') :
    Writes p (if c then write else write') := by
  split
  · exact h
  · exact h'

theorem keyboard_key_parameter_sound {keyboard : KeyboardEndpoint} (h : keyboard.Sound)
    (pending : KeyboardParameter) (value : U8) :
    Writes KeyboardEndpoint.Sound (keyboard_key_parameter keyboard pending value) := by
  rw [keyboard_key_parameter]
  exact .of_ite (fun _ => h) fun _ => h

theorem keyboard_command_sound {keyboard : KeyboardEndpoint} (h : keyboard.Sound) (value : U8) :
    Writes KeyboardEndpoint.Sound (keyboard_command keyboard value) := by
  have hidle (keyboard : KeyboardEndpoint) (hnone : keyboard.repeat_bytes = []) :
      Writes KeyboardEndpoint.Sound (.reset_stream (keyboard_reply keyboard 0xfa .done)) :=
    fun _ => sound_of_idle hnone
  rw [keyboard_command]
  refine .of_ite (fun _ => sound_of_idle rfl) ?_
  refine .of_ite (fun _ => h) ?_
  refine .of_ite (fun _ => h) ?_
  refine .of_ite (hidle _ rfl) ?_
  refine .of_ite (fun _ => h) ?_
  refine .of_ite (hidle _ rfl) ?_
  refine .of_ite (hidle _ rfl) ?_
  refine .of_ite (hidle _ rfl) ?_
  refine .of_ite (fun _ => h) ?_
  refine .of_ite (fun _ => h) ?_
  refine .of_ite (hidle _ rfl) ?_
  exact .of_ite (hidle _ rfl) fun _ => h

theorem keyboard_write_sound {keyboard : KeyboardEndpoint} (h : keyboard.Sound) (value : U8) :
    Writes KeyboardEndpoint.Sound (keyboard_write keyboard value) := by
  rw [keyboard_write]
  dsimp only
  split
  · exact fun _ => h
  · exact fun _ => keyboard_apply_typematic_sound _
  · refine .of_ite (fun _ => h) ?_
    exact .of_ite (fun _ => h) fun _ => h
  · exact keyboard_key_parameter_sound (keyboard_pending_sound h _) _ value
  · exact keyboard_key_parameter_sound (keyboard_pending_sound h _) _ value
  · exact keyboard_key_parameter_sound (keyboard_pending_sound h _) _ value
  · exact keyboard_command_sound (keyboard_pending_sound h _) value

theorem keyboard_arm_sound {keyboard : KeyboardEndpoint} (h : keyboard.Sound) (make : List U8)
    (repeatable : Bool) : (keyboard_arm keyboard make repeatable).Sound := by
  rw [keyboard_arm]
  split
  · rename_i harm
    intro _
    exact Nat.pos_of_ne_zero harm.2.1
  · exact h

theorem keyboard_disarm_sound {keyboard : KeyboardEndpoint} (h : keyboard.Sound)
    (make : List U8) : (keyboard_disarm keyboard make).Sound := by
  rw [keyboard_disarm]
  split
  · exact sound_of_idle rfl
  · exact h

/-! ## Admission in parts -/

/-- What a byte does not change, and that what repeats after it has a period. -/
structure Keeps (keyboard last : KeyboardEndpoint) : Prop where
  scan_set : last.scan_set = keyboard.scan_set
  sound : keyboard.Sound → last.Sound

theorem Keeps.trans {keyboard middle last : KeyboardEndpoint} (h : Keeps keyboard middle)
    (h' : Keeps middle last) : Keeps keyboard last :=
  ⟨h'.scan_set.trans h.scan_set, fun hsound => h'.sound (h.sound hsound)⟩

theorem keyboard_sequence_keeps (keyboard : KeyboardEndpoint) (sequence : List U8) :
    Keeps keyboard { keyboard with input_prefix := sequence } :=
  ⟨rfl, fun h => h⟩

theorem keyboard_arm_keeps (keyboard : KeyboardEndpoint) (make : List U8) (repeatable : Bool) :
    Keeps keyboard (keyboard_arm keyboard make repeatable) := by
  refine ⟨?_, fun h => keyboard_arm_sound h make repeatable⟩
  rw [keyboard_arm]
  split
  · rfl
  · rfl

theorem keyboard_disarm_keeps (keyboard : KeyboardEndpoint) (make : List U8) :
    Keeps keyboard (keyboard_disarm keyboard make) := by
  refine ⟨?_, fun h => keyboard_disarm_sound h make⟩
  rw [keyboard_disarm]
  split
  · rfl
  · rfl

theorem keyboard_track_key_keeps (keyboard : KeyboardEndpoint) (extended released : Bool)
    (byte : U8) : Keeps keyboard (keyboard_track_key keyboard extended released byte) := by
  simp only [keyboard_track_key]
  split
  · exact ⟨rfl, fun h => h⟩
  · split
    · exact keyboard_disarm_keeps _ _
    · exact keyboard_arm_keeps _ _ _

/-- Taken as `p` says, or refused with an error. -/
def Taken {α : Type} (p : α → Prop) : Except Status α → Prop
  | .ok a => p a
  | .error status => status ≠ .ok

theorem keyboard_track_native_byte_taken (keyboard : KeyboardEndpoint) (byte : U8) :
    Taken (Keeps keyboard) (keyboard_track_native_byte keyboard byte) := by
  simp only [keyboard_track_native_byte]
  generalize (if keyboard.scan_set = 1 then pause_set1 else pause_set2) = pause
  split
  · exact Status.noConfusion
  split
  · exact Status.noConfusion
  split
  · split
    · exact Status.noConfusion
    split
    · exact keyboard_sequence_keeps keyboard _
    · exact keyboard_sequence_keeps keyboard _
  split
  · exact keyboard_sequence_keeps keyboard _
  split
  · exact keyboard_sequence_keeps keyboard _
  · exact (keyboard_sequence_keeps keyboard []).trans (keyboard_track_key_keeps _ _ _ _)

theorem keyboard_prepare_set3_byte_taken (keyboard : KeyboardEndpoint) (byte : U8)
    (output : List U8) (capacity : ℕ) :
    Taken (fun _ => True) (keyboard_prepare_set3_byte keyboard byte output capacity) := by
  rw [keyboard_prepare_set3_byte]
  split
  · split
    · exact Status.noConfusion
    · exact trivial
  split
  · exact Status.noConfusion
  split
  · exact Status.noConfusion
  rw [keyboard_prepare_set3_key]
  dsimp only
  generalize (if keyboard.input_prefix ≠ [] then _ else _ : ℕ) = needed
  split
  · exact Status.noConfusion
  split
  · exact trivial
  · exact trivial

/-- A byte of set 3 writes what it writes whatever was written before it. -/
theorem keyboard_prepare_set3_byte_writes {keyboard last : KeyboardEndpoint} {byte : U8}
    {output output' : List U8} {capacity : ℕ}
    (h : keyboard_prepare_set3_byte keyboard byte output capacity = .ok (last, output')) :
    Keeps keyboard last ∧ ∃ new, output' = output ++ new ∧
      ∀ (before : List U8) (room : ℕ), before.length + new.length ≤ room →
        keyboard_prepare_set3_byte keyboard byte before room = .ok (last, before ++ new) := by
  rw [keyboard_prepare_set3_byte] at h
  simp only [keyboard_prepare_set3_byte]
  by_cases hrelease : byte = 0xf0
  · rw [if_pos hrelease] at h
    simp only [if_pos hrelease]
    by_cases hempty : keyboard.input_prefix ≠ []
    · rw [if_pos hempty] at h
      cases h
    · rw [if_neg hempty] at h
      cases h
      refine ⟨keyboard_sequence_keeps keyboard _, [], (List.append_nil _).symm, ?_⟩
      intro before room _
      rw [if_neg hempty, List.append_nil]
  rw [if_neg hrelease] at h
  simp only [if_neg hrelease]
  cases hkey : keyboard.key_types.read byte.toNat with
  | none =>
    rw [hkey] at h
    cases h
  | some type =>
    rw [hkey] at h
    dsimp only at h ⊢
    by_cases hzero : type = 0
    · rw [if_pos hzero] at h
      cases h
    rw [if_neg hzero] at h
    simp only [if_neg hzero, keyboard_prepare_set3_key] at h ⊢
    -- the room that is asked for is what the key writes
    by_cases hreleased : keyboard.input_prefix ≠ []
    · by_cases hbreak : is_set type keyboard_key_break = true
      · simp only [if_pos hreleased, if_pos hbreak] at h ⊢
        split at h
        · cases h
        cases h
        refine ⟨(keyboard_sequence_keeps keyboard []).trans (keyboard_disarm_keeps _ _),
          [0xf0, byte], rfl, ?_⟩
        intro before room hroom
        rw [if_neg (by simp only [List.length_cons, List.length_nil] at hroom; omega)]
      · simp only [if_pos hreleased, if_neg hbreak] at h ⊢
        split at h
        · cases h
        cases h
        refine ⟨(keyboard_sequence_keeps keyboard []).trans (keyboard_disarm_keeps _ _),
          [], (List.append_nil _).symm, ?_⟩
        intro before room hroom
        rw [if_neg (Nat.not_lt_zero _), List.append_nil]
    · simp only [if_neg hreleased] at h ⊢
      split at h
      · cases h
      cases h
      refine ⟨(keyboard_sequence_keeps keyboard []).trans (keyboard_arm_keeps _ _ _),
        [byte], rfl, ?_⟩
      intro before room hroom
      rw [if_neg (by simp only [List.length_cons, List.length_nil] at hroom; omega)]

/-- The keyboard takes the bytes, and writes `new` wherever there is room for it. -/
structure Admits (keyboard : KeyboardEndpoint) (bytes : List U8) (last : KeyboardEndpoint)
    (new : List U8) : Prop where
  keeps : Keeps keyboard last
  native : keyboard.scan_set ≠ 3 → new = []
  writes : ∀ (before : List U8) (room : ℕ), before.length + new.length ≤ room →
    bytes.foldlM (keyboard_admit_byte room) (keyboard, before) = .ok (last, before ++ new)

theorem Admits.none (keyboard : KeyboardEndpoint) : Admits keyboard [] keyboard [] :=
  ⟨⟨rfl, fun h => h⟩, fun _ => rfl, fun before _ _ => by rw [List.append_nil]; rfl⟩

/-- **What is taken in two parts is taken in one.** -/
theorem Admits.append {keyboard middle last : KeyboardEndpoint} {s t new new' : List U8}
    (h : Admits keyboard s middle new) (h' : Admits middle t last new') :
    Admits keyboard (s ++ t) last (new ++ new') := by
  refine ⟨h.keeps.trans h'.keeps, ?_, ?_⟩
  · intro hnative
    have hmiddle : middle.scan_set ≠ 3 := by
      rw [h.keeps.scan_set]
      exact hnative
    rw [h.native hnative, h'.native hmiddle, List.append_nil]
  · intro before room hroom
    rw [List.length_append] at hroom
    have hfirst := h.writes before room (by omega)
    have hlast := h'.writes (before ++ new) room (by rw [List.length_append]; omega)
    rw [List.foldlM_append, hfirst, ← List.append_assoc]
    exact hlast

theorem keyboard_admit_byte_admits {keyboard last : KeyboardEndpoint} {byte : U8}
    {output output' : List U8} {capacity : ℕ}
    (h : keyboard_admit_byte capacity (keyboard, output) byte = .ok (last, output')) :
    ∃ new, output' = output ++ new ∧ Admits keyboard [byte] last new := by
  have hone (room : ℕ) (before : List U8) :
      [byte].foldlM (keyboard_admit_byte room) (keyboard, before) =
        keyboard_admit_byte room (keyboard, before) byte := by
    rw [List.foldlM_cons]
    exact bind_pure _
  rw [keyboard_admit_byte] at h
  by_cases hset3 : keyboard.scan_set = 3
  · rw [if_pos hset3] at h
    obtain ⟨hkeeps, new, hnew, hwrites⟩ := keyboard_prepare_set3_byte_writes h
    refine ⟨new, hnew, hkeeps, fun hnative => absurd hset3 hnative, ?_⟩
    intro before room hroom
    rw [hone, keyboard_admit_byte, if_pos hset3]
    exact hwrites before room hroom
  · rw [if_neg hset3] at h
    cases htrack : keyboard_track_native_byte keyboard byte with
    | error status =>
      rw [htrack] at h
      cases h
    | ok candidate =>
      rw [htrack] at h
      cases h
      have hkeeps := keyboard_track_native_byte_taken keyboard byte
      rw [htrack] at hkeeps
      refine ⟨[], (List.append_nil _).symm, hkeeps, fun _ => rfl, ?_⟩
      intro before room _
      rw [hone, keyboard_admit_byte, if_neg hset3, htrack, List.append_nil]
      rfl

/-- Of bytes that were taken, what was written comes after what was there. -/
theorem admits_of_fold {capacity : ℕ} (bytes : List U8) {keyboard last : KeyboardEndpoint}
    {output output' : List U8}
    (h : bytes.foldlM (keyboard_admit_byte capacity) (keyboard, output) = .ok (last, output')) :
    ∃ new, output' = output ++ new ∧ Admits keyboard bytes last new := by
  induction bytes generalizing keyboard output with
  | nil =>
    cases h
    exact ⟨[], (List.append_nil _).symm, .none _⟩
  | cons byte bytes ih =>
    rw [List.foldlM_cons] at h
    cases hbyte : keyboard_admit_byte capacity (keyboard, output) byte with
    | error status =>
      rw [hbyte] at h
      cases h
    | ok prepared =>
      obtain ⟨middle, written⟩ := prepared
      rw [hbyte] at h
      obtain ⟨new, rfl, hone⟩ := keyboard_admit_byte_admits hbyte
      obtain ⟨new', rfl, hrest⟩ := ih h
      exact ⟨new ++ new', List.append_assoc _ _ _, hone.append hrest⟩

theorem keyboard_admit_byte_taken (capacity : ℕ) (prepared : KeyboardEndpoint × List U8)
    (byte : U8) : Taken (fun _ => True) (keyboard_admit_byte capacity prepared byte) := by
  rw [keyboard_admit_byte]
  split
  · exact keyboard_prepare_set3_byte_taken _ _ _ _
  · have htaken := keyboard_track_native_byte_taken prepared.1 byte
    cases htrack : keyboard_track_native_byte prepared.1 byte with
    | error status =>
      rw [htrack] at htaken
      exact htaken
    | ok candidate => exact trivial

theorem fold_taken (capacity : ℕ) (bytes : List U8) (prepared : KeyboardEndpoint × List U8) :
    Taken (fun _ => True) (bytes.foldlM (keyboard_admit_byte capacity) prepared) := by
  induction bytes generalizing prepared with
  | nil => exact trivial
  | cons byte bytes ih =>
    rw [List.foldlM_cons]
    have htaken := keyboard_admit_byte_taken capacity prepared byte
    cases hbyte : keyboard_admit_byte capacity prepared byte with
    | error status =>
      rw [hbyte] at htaken
      exact htaken
    | ok prepared' => exact ih prepared'

/-- What an accepted admission is. -/
theorem keyboard_admit_ok {keyboard last : KeyboardEndpoint} {bytes output : List U8}
    {capacity : ℕ} (h : keyboard_admit keyboard bytes capacity = (.ok, output, last)) :
    keyboard_scanning keyboard = true ∧ ∃ new, Admits keyboard bytes last new ∧
      output = if keyboard.scan_set = 3 then new else bytes := by
  rw [ keyboard_admit] at h
  split at h
  · cases h
  rename_i hscanning
  split at h
  · cases h
  refine ⟨by simpa using hscanning, ?_⟩
  have htaken := fold_taken capacity bytes (keyboard, [])
  cases hfold : bytes.foldlM (keyboard_admit_byte capacity) (keyboard, []) with
  | error status =>
    rw [hfold] at h htaken
    exact absurd (congrArg Prod.fst h) htaken
  | ok prepared =>
    obtain ⟨candidate, written⟩ := prepared
    rw [hfold] at h
    obtain ⟨new, hwritten, hadmits⟩ := admits_of_fold bytes hfold
    cases h
    exact ⟨new, hadmits, by rw [hadmits.keeps.scan_set, hwritten, List.nil_append]⟩

/-- What is refused leaves the keyboard and writes nothing. -/
theorem keyboard_admit_refused {keyboard last : KeyboardEndpoint} {bytes output : List U8}
    {capacity : ℕ} {status : Status}
    (h : keyboard_admit keyboard bytes capacity = (status, output, last)) (hne : status ≠ .ok) :
    last = keyboard ∧ output = [] := by
  rw [ keyboard_admit] at h
  split at h
  · cases h
    exact ⟨rfl, rfl⟩
  split at h
  · cases h
    exact ⟨rfl, rfl⟩
  split at h
  · cases h
    exact ⟨rfl, rfl⟩
  · cases h
    exact absurd rfl hne

/-- **Two admissions are one**, given room for what they write. -/
theorem keyboard_admit_append {keyboard middle last : KeyboardEndpoint}
    {s t output output' : List U8} {capacity capacity' room : ℕ}
    (h : keyboard_admit keyboard s capacity = (.ok, output, middle))
    (h' : keyboard_admit middle t capacity' = (.ok, output', last))
    (hroom : output.length + output'.length ≤ room) :
    keyboard_admit keyboard (s ++ t) room = (.ok, output ++ output', last) := by
  obtain ⟨hscanning, new, hadmits, rfl⟩ := keyboard_admit_ok h
  obtain ⟨-, new', hadmits', rfl⟩ := keyboard_admit_ok h'
  have hboth := hadmits.append hadmits'
  have hlast := hboth.keeps.scan_set
  rw [hadmits.keeps.scan_set] at hroom ⊢
  rw [ keyboard_admit, if_neg (by rw [hscanning]; decide)]
  by_cases hset3 : keyboard.scan_set = 3
  · rw [if_pos hset3, if_pos hset3] at hroom ⊢
    have hfold := hboth.writes [] room (by rw [List.length_append]; simpa using hroom)
    rw [if_neg (fun hsmall => hsmall.1 hset3), hfold]
    dsimp only
    rw [if_pos (hlast.trans hset3), List.nil_append]
  · rw [if_neg hset3, if_neg hset3] at hroom ⊢
    have hnone := hboth.native hset3
    have hfold := hboth.writes [] room (by rw [hnone]; exact Nat.zero_le _)
    rw [if_neg (fun hsmall => by rw [List.length_append] at hsmall; omega), hfold]
    dsimp only
    rw [if_neg (fun hset => hset3 (hlast.symm.trans hset))]

/-! ## Time in parts -/

section Advance

variable {γ : Type} {sink : RepeatSink γ}

/-- A round of the loop in which a sequence is accepted. -/
theorem keyboard_advance_loop_accepts {rounds elapsed : ℕ} {accepted : Bool}
    {context context' : γ} {keyboard : KeyboardEndpoint} {history : KeyboardHistory}
    (hdue : keyboard.remaining_ticks ≤ elapsed)
    (hsink : sink context keyboard.history keyboard.repeat_bytes = (.ok, context', history)) :
    keyboard_advance_loop sink (rounds + 1) elapsed accepted context keyboard =
      keyboard_advance_loop sink rounds (elapsed - keyboard.remaining_ticks) true context'
        { keyboard with history := history, remaining_ticks := keyboard.repeat_ticks } := by
  rw [keyboard_advance_loop, if_pos hdue, hsink]
  rfl

/-- A round in which a sequence is refused. -/
theorem keyboard_advance_loop_refuses {rounds elapsed : ℕ} {accepted : Bool}
    {context context' : γ} {keyboard : KeyboardEndpoint} {history : KeyboardHistory}
    {status : Status} (hdue : keyboard.remaining_ticks ≤ elapsed)
    (hsink : sink context keyboard.history keyboard.repeat_bytes = (status, context', history))
    (hrefused : status ≠ .ok) :
    keyboard_advance_loop sink (rounds + 1) elapsed accepted context keyboard =
      some (accepted, context', { keyboard with history := history, remaining_ticks := 0 }) := by
  rw [keyboard_advance_loop, if_pos hdue, hsink]
  dsimp only
  rw [if_pos hrefused]

/-- The last round, with no sequence. -/
theorem keyboard_advance_loop_waits {rounds elapsed : ℕ} {accepted : Bool} {context : γ}
    {keyboard : KeyboardEndpoint} (hwait : ¬keyboard.remaining_ticks ≤ elapsed) :
    keyboard_advance_loop sink (rounds + 1) elapsed accepted context keyboard =
      some (accepted, context,
        { keyboard with remaining_ticks := keyboard.remaining_ticks - elapsed }) := by
  rw [keyboard_advance_loop, if_neg hwait]

/-- What the loop does not change. -/
theorem keyboard_advance_loop_keeps {rounds elapsed : ℕ} {accepted accepted' : Bool}
    {context context' : γ} {keyboard last : KeyboardEndpoint}
    (h : keyboard_advance_loop sink rounds elapsed accepted context keyboard =
      some (accepted', context', last)) :
    ∃ history remaining, last =
      { keyboard with history := history, remaining_ticks := remaining } := by
  induction rounds generalizing elapsed accepted context keyboard with
  | zero => cases h
  | succ rounds ih =>
    by_cases hdue : keyboard.remaining_ticks ≤ elapsed
    · rcases hsink : sink context keyboard.history keyboard.repeat_bytes with
        ⟨status, context₁, history⟩
      by_cases hok : status = .ok
      · subst hok
        rw [keyboard_advance_loop_accepts hdue hsink] at h
        obtain ⟨history', remaining, rfl⟩ := ih h
        exact ⟨history', remaining, rfl⟩
      · rw [keyboard_advance_loop_refuses hdue hsink hok] at h
        cases h
        exact ⟨history, 0, rfl⟩
    · rw [keyboard_advance_loop_waits hdue] at h
      cases h
      exact ⟨_, _, rfl⟩

/-- With a period the loop ends: each round but the first takes a tick at least. -/
theorem keyboard_advance_loop_ends {rounds elapsed : ℕ} (accepted : Bool) (context : γ)
    {keyboard : KeyboardEndpoint} (hperiod : 0 < keyboard.repeat_ticks)
    (hrounds : elapsed + (if keyboard.remaining_ticks = 0 then 1 else 0) < rounds) :
    (keyboard_advance_loop sink rounds elapsed accepted context keyboard).isSome := by
  induction rounds generalizing elapsed accepted context keyboard with
  | zero => exact absurd hrounds (Nat.not_lt_zero _)
  | succ rounds ih =>
    by_cases hdue : keyboard.remaining_ticks ≤ elapsed
    · rcases hsink : sink context keyboard.history keyboard.repeat_bytes with
        ⟨status, context₁, history⟩
      by_cases hok : status = .ok
      · subst hok
        rw [keyboard_advance_loop_accepts hdue hsink]
        apply ih
        · exact hperiod
        · rw [if_neg (Nat.ne_of_gt hperiod)]
          split at hrounds
          · omega
          · omega
      · rw [keyboard_advance_loop_refuses hdue hsink hok]
        rfl
    · rw [keyboard_advance_loop_waits hdue]
      rfl

/-- Whether something was accepted before the loop is only handed on. -/
theorem keyboard_advance_loop_accepted {rounds elapsed : ℕ} {accepted accepted' : Bool}
    {context context' : γ} {keyboard last : KeyboardEndpoint} (before : Bool)
    (h : keyboard_advance_loop sink rounds elapsed accepted context keyboard =
      some (accepted', context', last)) :
    keyboard_advance_loop sink rounds elapsed (before || accepted) context keyboard =
      some (before || accepted', context', last) := by
  induction rounds generalizing elapsed accepted context keyboard with
  | zero => cases h
  | succ rounds ih =>
    by_cases hdue : keyboard.remaining_ticks ≤ elapsed
    · rcases hsink : sink context keyboard.history keyboard.repeat_bytes with
        ⟨status, context₁, history⟩
      by_cases hok : status = .ok
      · subst hok
        rw [keyboard_advance_loop_accepts hdue hsink] at h ⊢
        have hrest := ih h
        rw [Bool.or_true] at hrest
        exact hrest
      · rw [keyboard_advance_loop_refuses hdue hsink hok] at h ⊢
        cases h
        rfl
    · rw [keyboard_advance_loop_waits hdue] at h ⊢
      cases h
      rfl

/-- More rounds than the loop takes change nothing. -/
theorem keyboard_advance_loop_more {rounds rounds' elapsed : ℕ} {accepted : Bool} {context : γ}
    {keyboard : KeyboardEndpoint} {last : Bool × γ × KeyboardEndpoint}
    (h : keyboard_advance_loop sink rounds elapsed accepted context keyboard = some last)
    (hle : rounds ≤ rounds') :
    keyboard_advance_loop sink rounds' elapsed accepted context keyboard = some last := by
  induction rounds generalizing rounds' elapsed accepted context keyboard with
  | zero => cases h
  | succ rounds ih =>
    obtain ⟨more, rfl⟩ : ∃ more, rounds' = more + 1 := ⟨rounds' - 1, by omega⟩
    by_cases hdue : keyboard.remaining_ticks ≤ elapsed
    · rcases hsink : sink context keyboard.history keyboard.repeat_bytes with
        ⟨status, context₁, history⟩
      by_cases hok : status = .ok
      · subst hok
        rw [keyboard_advance_loop_accepts hdue hsink] at h ⊢
        exact ih h (by omega)
      · rw [keyboard_advance_loop_refuses hdue hsink hok] at h ⊢
        exact h
    · rw [keyboard_advance_loop_waits hdue] at h ⊢
      exact h

/-- Where nothing is due within the first part, the second goes on from what it has left. -/
theorem keyboard_advance_loop_waited (rounds b : ℕ) (accepted : Bool) (context : γ)
    {a : ℕ} {keyboard : KeyboardEndpoint} (hwait : ¬keyboard.remaining_ticks ≤ a) :
    keyboard_advance_loop sink rounds (a + b) accepted context keyboard =
      keyboard_advance_loop sink rounds b accepted context
        { keyboard with remaining_ticks := keyboard.remaining_ticks - a } := by
  cases rounds with
  | zero => rfl
  | succ rounds =>
    rw [keyboard_advance_loop, keyboard_advance_loop]
    dsimp only
    have hdue : keyboard.remaining_ticks ≤ a + b ↔ keyboard.remaining_ticks - a ≤ b := by omega
    have hleft : a + b - keyboard.remaining_ticks = b - (keyboard.remaining_ticks - a) := by omega
    simp only [hdue, hleft, Nat.sub_add_eq]

/-- **With a sink that accepts all, two advances are one.** -/
theorem keyboard_advance_loop_add
    (haccepts : ∀ context history bytes, (sink context history bytes).1 = .ok)
    {rounds rounds' a b : ℕ} {accepted before accepted' : Bool} {context context' context'' : γ}
    {keyboard middle last : KeyboardEndpoint}
    (h : keyboard_advance_loop sink rounds a accepted context keyboard =
      some (before, context', middle))
    (h' : keyboard_advance_loop sink rounds' b false context' middle =
      some (accepted', context'', last)) :
    keyboard_advance_loop sink (rounds + rounds') (a + b) accepted context keyboard =
      some (before || accepted', context'', last) := by
  induction rounds generalizing a accepted context keyboard with
  | zero => cases h
  | succ rounds ih =>
    rw [Nat.add_right_comm]
    by_cases hdue : keyboard.remaining_ticks ≤ a
    · rcases hsink : sink context keyboard.history keyboard.repeat_bytes with
        ⟨status, context₁, history⟩
      obtain rfl : status = .ok := by
        have hok := haccepts context keyboard.history keyboard.repeat_bytes
        rw [hsink] at hok
        exact hok
      rw [keyboard_advance_loop_accepts hdue hsink] at h
      rw [keyboard_advance_loop_accepts (by omega) hsink, Nat.sub_add_comm hdue]
      exact ih h
    · rw [keyboard_advance_loop_waits hdue] at h
      cases h
      have hpart := keyboard_advance_loop_accepted before h'
      rw [Bool.or_false] at hpart
      have hrounds : rounds' ≤ rounds + rounds' + 1 := by omega
      refine keyboard_advance_loop_more ?_ hrounds
      rw [keyboard_advance_loop_waited rounds' b before context' hdue]
      exact hpart

end Advance

/-! ## Every reachable keyboard -/

/-- **Whatever was called, what repeats has a period.** -/
theorem KeyboardReachable.sound {keyboard : KeyboardEndpoint} (h : KeyboardReachable keyboard) :
    keyboard.Sound := by
  induction h with
  | create => exact sound_of_idle rfl
  | reset h ih => exact sound_of_idle rfl
  | write h value leaves ih => exact (keyboard_write_sound ih value).leaves leaves
  | cancel_parameter h ih => exact keyboard_pending_sound ih _
  | start h ih =>
    rw [keyboard_start]
    split
    · exact ih
    · exact ih
  | take_bat h ih => exact ih
  | clear_bat h ih => exact ih
  | note_output h byte ih => exact ih
  | @admitted keyboard h bytes capacity ih =>
    rcases hadmit : keyboard_admit keyboard bytes capacity with ⟨status, output, last⟩
    by_cases hok : status = .ok
    · subst hok
      obtain ⟨-, new, hadmits, -⟩ := keyboard_admit_ok hadmit
      exact hadmits.keeps.sound ih
    · obtain ⟨rfl, -⟩ := keyboard_admit_refused hadmit hok
      exact ih
  | set_typematic_timing h initial_ticks repeat_ticks ih =>
    exact keyboard_apply_typematic_sound _
  | advance h sink rounds elapsed_ticks context context' accepted advanced ih =>
    rw [keyboard_advance] at advanced
    split at advanced
    · cases advanced
      exact ih
    · obtain ⟨history, remaining, rfl⟩ := keyboard_advance_loop_keeps advanced
      exact ih

theorem keyboard_advance_ends {γ : Type} {keyboard : KeyboardEndpoint} (h : keyboard.Sound)
    (sink : RepeatSink γ) (context : γ) (elapsed : ℕ) :
    ∃ last, ∀ rounds, elapsed + 2 ≤ rounds →
      keyboard_advance sink rounds elapsed context keyboard = some last := by
  simp only [keyboard_advance]
  by_cases hidle : keyboard.repeat_bytes = [] ∨ keyboard_scanning keyboard = false
  · exact ⟨_, fun rounds _ => if_pos hidle⟩
  · have hperiod := h fun hnone => hidle (.inl hnone)
    have hrounds : elapsed + (if keyboard.remaining_ticks = 0 then 1 else 0) < elapsed + 2 := by
      split
      · omega
      · omega
    have hends : (keyboard_advance_loop sink (elapsed + 2) elapsed false context keyboard).isSome :=
      keyboard_advance_loop_ends false context hperiod hrounds
    obtain ⟨last, hlast⟩ := Option.isSome_iff_exists.mp hends
    refine ⟨last, fun rounds hle => ?_⟩
    rw [if_neg hidle]
    exact keyboard_advance_loop_more hlast hle

theorem keyboard_advance_add {γ : Type} {sink : RepeatSink γ}
    (haccepts : ∀ context history bytes, (sink context history bytes).1 = .ok)
    {keyboard middle last : KeyboardEndpoint} {rounds rounds' a b : ℕ}
    {accepted accepted' : Bool} {context context' context'' : γ}
    (h : keyboard_advance sink rounds a context keyboard = some (accepted, context', middle))
    (h' : keyboard_advance sink rounds' b context' middle = some (accepted', context'', last))
    {total : ℕ} (htotal : rounds + rounds' ≤ total) :
    keyboard_advance sink total (a + b) context keyboard =
      some (accepted || accepted', context'', last) := by
  rw [keyboard_advance] at h h' ⊢
  by_cases hidle : keyboard.repeat_bytes = [] ∨ keyboard_scanning keyboard = false
  · rw [if_pos hidle] at h ⊢
    cases h
    rw [if_pos hidle] at h'
    cases h'
    rfl
  · rw [if_neg hidle] at h ⊢
    obtain ⟨history, remaining, rfl⟩ := keyboard_advance_loop_keeps h
    have hlast := (if_neg hidle).symm.trans h'
    exact keyboard_advance_loop_more (keyboard_advance_loop_add haccepts h hlast) htotal

/-- What holds of the calls of a keyboard, whoever calls. -/
structure KeyboardCalls (keyboard : KeyboardEndpoint) : Prop where
  /-- bytes may be admitted in two parts -/
  admit_append : ∀ (s t output output' : List U8) (capacity capacity' room : ℕ)
    (middle last : KeyboardEndpoint),
    keyboard_admit keyboard s capacity = (.ok, output, middle) →
    keyboard_admit middle t capacity' = (.ok, output', last) →
    output.length + output'.length ≤ room →
    keyboard_admit keyboard (s ++ t) room = (.ok, output ++ output', last)
  /-- what is refused changes nothing and reports no output -/
  admit_refused : ∀ (bytes : List U8) (capacity : ℕ),
    ( keyboard_admit keyboard bytes capacity).1 ≠ .ok →
    ( keyboard_admit keyboard bytes capacity).2 = ([], keyboard)
  period : keyboard.repeat_bytes ≠ [] → keyboard.repeat_ticks ≠ 0
  /-- every advance ends, whatever the sink answers -/
  advance_ends : ∀ {γ : Type} (sink : RepeatSink γ) (context : γ) (elapsed : ℕ), ∃ last,
    ∀ rounds, elapsed + 2 ≤ rounds →
      keyboard_advance sink rounds elapsed context keyboard = some last
  /-- a time may be advanced in two parts, where the sink accepts all -/
  advance_add : ∀ {γ : Type} (sink : RepeatSink γ),
    (∀ context history bytes, (sink context history bytes).1 = .ok) →
    ∀ (a b rounds rounds' total : ℕ) (context context' context'' : γ)
      (accepted accepted' : Bool) (middle last : KeyboardEndpoint),
      keyboard_advance sink rounds a context keyboard = some (accepted, context', middle) →
      keyboard_advance sink rounds' b context' middle = some (accepted', context'', last) →
      rounds + rounds' ≤ total →
      keyboard_advance sink total (a + b) context keyboard =
        some (accepted || accepted', context'', last)

/-- **Every reachable keyboard** takes its bytes and its time in parts, refuses without a trace
and ends its advances. -/
theorem keyboard_calls_in_parts {keyboard : KeyboardEndpoint} (h : KeyboardReachable keyboard) :
    KeyboardCalls keyboard where
  admit_append := by
    intro s t output output' capacity capacity' room middle last hs ht hroom
    exact keyboard_admit_append hs ht hroom
  admit_refused := by
    intro bytes capacity hrefused
    obtain ⟨hlast, houtput⟩ := keyboard_admit_refused rfl hrefused
    exact Prod.ext houtput hlast
  period := fun hrepeat => Nat.ne_of_gt (h.sound hrepeat)
  advance_ends := keyboard_advance_ends h.sound
  advance_add := by
    intro γ sink haccepts a b rounds rounds' total context context' context'' accepted accepted'
      middle last hfirst hlast htotal
    exact keyboard_advance_add haccepts hfirst hlast htotal

/-- A keyboard on which a key is held. -/
def bench_keyboard : KeyboardEndpoint :=
  ( keyboard_admit (keyboard_set_typematic_timing keyboard_create 500 92) [0x1c] 1).2.2

theorem keyboard_calls_in_parts_bench :
    KeyboardCalls bench_keyboard ∧ bench_keyboard.repeat_bytes = [0x1c] :=
  ⟨keyboard_calls_in_parts (.admitted (.set_typematic_timing .create 500 92) [0x1c] 1),
    by decide +kernel⟩

end Nxvm.Chips
