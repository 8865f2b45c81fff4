/-
The translation of scan code set 2 into set 1 (`x86_kbc8042_translate_set2_byte`), over streams.

A stream of the keyboard is a list of key sequences, each of one to eight bytes. Between two
bytes the controller remembers whether a break is pending and what of Pause has come in; an `E0`
is sent on at once. A sequence is translated well when it gives its bytes of set 1 and leaves
nothing of that behind.
-/
import Nxvm.Chips.KbcMoves

set_option autoImplicit false

namespace Nxvm.Chips

open Nxvm.Lib Nxvm.Lib.Register Nxvm.Machine

/-! ## Key sequences -/

/-- A key sequence of set 2: a code behind the prefixes it has, or eight bytes from `E1` on. A
code is any byte that does not read as a prefix where it stands. -/
inductive KeySequence where
  | key (extended released : Bool) (code : U8)
      (code_ne : released = false → code ≠ 0xf0 ∧ (extended = false → code ≠ 0xe0 ∧ code ≠ 0xe1))
  | pause (rest : List U8) (length_eq : rest.length = 7)

namespace KeySequence

/-- The bytes of the keyboard. -/
def native : KeySequence → List U8
  | key extended released code _ =>
    (if extended then [0xe0] else []) ++ (if released then [0xf0] else []) ++ [code]
  | pause rest _ => 0xe1 :: rest

/-- The bytes of set 1: nothing for a code or an eight-byte sequence that is not known. -/
def set1 : KeySequence → List U8
  | key extended released code _ =>
    match keyboard_set2_to_set1 code with
    | none => []
    | some translated =>
      (if extended then [0xe0] else []) ++ [if released then translated ||| 0x80 else translated]
  | pause rest _ => if 0xe1 :: rest = pause_set2 then pause_set1 else []

/-- A code that is not known stands alone. -/
def Translatable : KeySequence → Prop
  | key extended released code _ =>
    keyboard_set2_to_set1 code = none → extended = false ∧ released = false
  | pause _ _ => True

instance : DecidablePred Translatable
  | key extended released code _ =>
    inferInstanceAs (Decidable (keyboard_set2_to_set1 code = none →
      extended = false ∧ released = false))
  | pause _ _ => inferInstanceAs (Decidable True)

/-- The sequence that these bytes are. -/
def of_bytes : List U8 → Option KeySequence
  | [code] =>
    if h : code ≠ 0xf0 ∧ code ≠ 0xe0 ∧ code ≠ 0xe1 then
      some (.key false false code fun _ => ⟨h.1, fun _ => h.2⟩)
    else none
  | [b0, code] =>
    if b0 = 0xe0 then
      if h : code ≠ 0xf0 then some (.key true false code fun _ => ⟨h, nofun⟩) else none
    else if b0 = 0xf0 then some (.key false true code nofun)
    else none
  | [b0, b1, code] =>
    if b0 = 0xe0 ∧ b1 = 0xf0 then some (.key true true code nofun) else none
  | [b0, b1, b2, b3, b4, b5, b6, b7] =>
    if b0 = 0xe1 then some (.pause [b1, b2, b3, b4, b5, b6, b7] rfl) else none
  | _ => none

theorem native_of_bytes {bytes : List U8} {k : KeySequence} (h : of_bytes bytes = some k) :
    k.native = bytes := by
  unfold of_bytes at h
  split at h
  · split_ifs at h
    cases h
    rfl
  · split_ifs at h with h0 h1 h2
    · cases h
      rw [h0]
      rfl
    · cases h
      rw [h2]
      rfl
  · split_ifs at h with h0
    cases h
    rw [h0.1, h0.2]
    rfl
  · split_ifs at h with h0
    cases h
    rw [h0]
    rfl
  · cases h

end KeySequence

/-- The complete sequences of a stream, where some bytes of one have come in. -/
def key_sequences_from (begun : List U8) : List U8 → List KeySequence
  | [] => []
  | byte :: bytes =>
    match KeySequence.of_bytes (begun ++ [byte]) with
    | some k => k :: key_sequences_from [] bytes
    | none => key_sequences_from (begun ++ [byte]) bytes

/-- The complete key sequences of a stream, in order. -/
def key_sequences (bytes : List U8) : List KeySequence := key_sequences_from [] bytes

/-- Of any stream the sequences leave a rest in which none is complete. -/
theorem key_sequences_native (bytes : List U8) :
    ∃ rest, bytes = (key_sequences bytes).flatMap KeySequence.native ++ rest ∧
      ∀ begun, begun <+: rest → KeySequence.of_bytes begun = none := by
  have hfrom : ∀ (bytes begun : List U8),
      (∀ part, part <+: begun → KeySequence.of_bytes part = none) →
      ∃ rest, begun ++ bytes = (key_sequences_from begun bytes).flatMap KeySequence.native ++ rest ∧
        ∀ part, part <+: rest → KeySequence.of_bytes part = none := by
    intro bytes
    induction bytes with
    | nil =>
      intro begun hbegun
      exact ⟨begun, by rw [List.append_nil]; rfl, hbegun⟩
    | cons byte bytes ih =>
      intro begun hbegun
      rw [key_sequences_from]
      split
      next k hk =>
        obtain ⟨rest, hrest, hpart⟩ := ih [] (by
          intro part hpart
          rw [List.prefix_nil.mp hpart]
          rfl)
        refine ⟨rest, ?_, hpart⟩
        rw [List.flatMap_cons, KeySequence.native_of_bytes hk, List.append_assoc, ← hrest]
        simp
      next hnone =>
        obtain ⟨rest, hrest, hpart⟩ := ih (begun ++ [byte]) (by
          intro part hpart
          rw [List.prefix_concat_iff] at hpart
          rcases hpart with rfl | hpart
          · exact hnone
          · exact hbegun part hpart)
        refine ⟨rest, ?_, hpart⟩
        rw [← hrest]
        simp
  exact hfrom bytes [] (by
    intro part hpart
    rw [List.prefix_nil.mp hpart]
    rfl)

/-! ## What the controller remembers -/

/-- What is kept from one byte to the next. -/
structure Set2State where
  break_pending : Bool
  pause_bytes : List U8
  deriving DecidableEq

def Set2State.clear : Set2State := ⟨false, []⟩

def kbc_set2_state (chip : Kbc) : Set2State := ⟨chip.set2_break_pending, chip.set2_pause_bytes⟩

/-- What a byte gives and leaves, without the controller around it. -/
def translate_step (p : Set2State) (byte : U8) : List U8 × Set2State :=
  if p.pause_bytes ≠ [] ∨ byte = 0xe1 then
    let bytes := p.pause_bytes ++ [byte]
    if bytes.length < pause_set2.length then ([], ⟨p.break_pending, bytes⟩)
    else if bytes ≠ pause_set2 then ([], ⟨p.break_pending, []⟩)
    else (pause_set1, ⟨p.break_pending, []⟩)
  else if byte = 0xe0 then ([byte], p)
  else if byte = 0xf0 then ([], ⟨true, p.pause_bytes⟩)
  else
    match keyboard_set2_to_set1 byte with
    | none => ([], p)
    | some translated =>
      ([if p.break_pending then translated ||| 0x80 else translated], ⟨false, p.pause_bytes⟩)

def translate_run (p : Set2State) : List U8 → List U8 × Set2State
  | [] => ([], p)
  | byte :: bytes =>
    let now := translate_step p byte
    let later := translate_run now.2 bytes
    (now.1 ++ later.1, later.2)

theorem translate_run_append (p : Set2State) (bytes bytes' : List U8) :
    translate_run p (bytes ++ bytes') =
      ((translate_run p bytes).1 ++ (translate_run (translate_run p bytes).2 bytes').1,
        (translate_run (translate_run p bytes).2 bytes').2) := by
  induction bytes generalizing p with
  | nil => rfl
  | cons byte bytes ih =>
    rw [List.cons_append, translate_run, translate_run]
    dsimp only
    rw [ih, List.append_assoc]

/-- A byte that is no prefix, outside Pause. -/
theorem translate_step_code {code : U8} (hcode : code ≠ 0xe1 ∧ code ≠ 0xe0 ∧ code ≠ 0xf0)
    (break_pending : Bool) :
    translate_step ⟨break_pending, []⟩ code =
      match keyboard_set2_to_set1 code with
      | none => ([], ⟨break_pending, []⟩)
      | some translated =>
        ([if break_pending then translated ||| 0x80 else translated], .clear) := by
  unfold translate_step
  rw [if_neg (by rw [not_or]; exact ⟨fun h => h rfl, hcode.1⟩), if_neg hcode.2.1, if_neg hcode.2.2]
  rfl

/-- What has come in of Pause stays short of it. -/
theorem translate_step_pause_length {p : Set2State} (byte : U8)
    (hp : p.pause_bytes.length < pause_set2.length) :
    (translate_step p byte).2.pause_bytes.length < pause_set2.length := by
  unfold translate_step
  by_cases hin : p.pause_bytes ≠ [] ∨ byte = 0xe1
  · rw [if_pos hin]
    dsimp only
    by_cases hshort : (p.pause_bytes ++ [byte]).length < pause_set2.length
    · rw [if_pos hshort]
      exact hshort
    · rw [if_neg hshort]
      split_ifs
      · exact Nat.zero_lt_of_lt hp
      · exact Nat.zero_lt_of_lt hp
  · rw [if_neg hin]
    split_ifs
    · exact hp
    · exact hp
    all_goals
      cases keyboard_set2_to_set1 byte with
      | none => exact hp
      | some translated => exact hp

/-- A byte while Pause comes in. -/
theorem translate_step_pause {p : Set2State} {byte : U8} (h : p.pause_bytes ≠ [] ∨ byte = 0xe1)
    (hshort : p.pause_bytes.length + 1 < 8) :
    translate_step p byte = ([], ⟨p.break_pending, p.pause_bytes ++ [byte]⟩) := by
  unfold translate_step
  rw [if_pos h]
  dsimp only
  rw [if_pos (by rw [List.length_append]; exact hshort)]

/-- The prefixes of a code, from the clear state on. -/
theorem translate_run_prefixes (extended released : Bool) :
    translate_run .clear
        ((if extended then [0xe0] else []) ++ if released then [0xf0] else []) =
      (if extended then [0xe0] else [], ⟨released, []⟩) := by
  cases extended <;> cases released <;> rfl

/-! ## A sequence -/

theorem code_ne_of_known {code : U8} (hknown : keyboard_set2_to_set1 code ≠ none) :
    code ≠ 0xe1 ∧ code ≠ 0xe0 ∧ code ≠ 0xf0 := by
  refine ⟨?_, ?_, ?_⟩
  · rintro rfl
    exact hknown (by decide)
  · rintro rfl
    exact hknown (by decide)
  · rintro rfl
    exact hknown (by decide)

theorem translate_run_singleton (p : Set2State) (byte : U8) :
    translate_run p [byte] = translate_step p byte := by
  rw [translate_run, translate_run]
  dsimp only
  rw [List.append_nil]

/-- What comes in of Pause waits until there are eight bytes. -/
theorem translate_run_waits (bytes : List U8) :
    ∀ p : Set2State, p.pause_bytes ≠ [] → p.pause_bytes.length + bytes.length < 8 →
      translate_run p bytes = ([], ⟨p.break_pending, p.pause_bytes ++ bytes⟩) := by
  induction bytes with
  | nil =>
    intro p _ _
    rw [List.append_nil]
    rfl
  | cons byte bytes ih =>
    intro p hp hlength
    rw [List.length_cons] at hlength
    have hnow := translate_step_pause (Or.inl hp : p.pause_bytes ≠ [] ∨ byte = 0xe1) (by omega)
    have hlater := ih ⟨p.break_pending, p.pause_bytes ++ [byte]⟩ (by simp) (by
      rw [List.length_append, List.length_singleton]
      omega)
    rw [translate_run, hnow]
    dsimp only
    rw [hlater, List.append_assoc]
    rfl

/-- The eighth byte decides. -/
theorem translate_step_eighth {bytes : List U8} (hbytes : bytes.length = 7) (byte : U8) :
    translate_step ⟨false, bytes⟩ byte =
      (if bytes ++ [byte] = pause_set2 then pause_set1 else [], .clear) := by
  have hne : bytes ≠ [] := List.ne_nil_of_length_eq_add_one hbytes
  have hfull : ¬ (bytes ++ [byte]).length < pause_set2.length := by
    rw [List.length_append, List.length_singleton, hbytes]
    decide
  unfold translate_step
  rw [if_pos (Or.inl hne)]
  dsimp only
  rw [if_neg hfull]
  by_cases h : bytes ++ [byte] = pause_set2
  · rw [if_neg (not_not_intro h), if_pos h]
    rfl
  · rw [if_pos h, if_neg h]
    rfl

/-- Eight bytes from `E1` on are Pause or nothing. -/
theorem translate_run_pause {rest : List U8} (hlength : rest.length = 7) :
    translate_run .clear (0xe1 :: rest) =
      (if 0xe1 :: rest = pause_set2 then pause_set1 else [], .clear) := by
  obtain ⟨front, last, rfl⟩ : ∃ front last, rest = front ++ [last] :=
    ⟨_, _, (List.dropLast_append_getLast (List.ne_nil_of_length_eq_add_one hlength)).symm⟩
  rw [List.length_append, List.length_singleton] at hlength
  have hbegin : translate_run .clear [0xe1] = ([], ⟨false, [0xe1]⟩) := rfl
  have hwaits := translate_run_waits front ⟨false, [0xe1]⟩ (by simp) (by
    rw [List.length_singleton]
    omega)
  have hseven : ([0xe1] ++ front).length = 7 := by
    rw [List.length_append, List.length_singleton]
    omega
  have hlast := translate_step_eighth hseven last
  have hsplit : 0xe1 :: (front ++ [last]) = ([0xe1] ++ front) ++ [last] := rfl
  rw [hsplit, translate_run_append, translate_run_append, hbegin, hwaits, translate_run_singleton,
    hlast]
  rfl

@[simp] theorem set1_known {extended released : Bool} {code translated : U8} {code_ne}
    (hknown : keyboard_set2_to_set1 code = some translated) :
    (KeySequence.key extended released code code_ne).set1 =
      (if extended then [0xe0] else []) ++
        [if released then translated ||| 0x80 else translated] := by
  rw [KeySequence.set1, hknown]

@[simp] theorem set1_unknown {extended released : Bool} {code : U8} {code_ne}
    (hunknown : keyboard_set2_to_set1 code = none) :
    (KeySequence.key extended released code code_ne).set1 = [] := by
  rw [KeySequence.set1, hunknown]

/-- The prefixes, then the code. -/
theorem translate_run_key (extended released : Bool) (code : U8) {code_ne} :
    translate_run .clear (KeySequence.key extended released code code_ne).native =
      ((if extended then [0xe0] else []) ++ (translate_step ⟨released, []⟩ code).1,
        (translate_step ⟨released, []⟩ code).2) := by
  rw [KeySequence.native, translate_run_append, translate_run_prefixes, translate_run_singleton]

theorem translate_run_of_translatable {k : KeySequence} (h : k.Translatable) :
    translate_run .clear k.native = (k.set1, .clear) := by
  cases k with
  | key extended released code code_ne =>
    rw [translate_run_key]
    by_cases hknown : keyboard_set2_to_set1 code = none
    · obtain ⟨rfl, rfl⟩ := h hknown
      obtain ⟨hf0, he⟩ := code_ne rfl
      rw [translate_step_code ⟨(he rfl).2, (he rfl).1, hf0⟩, hknown, set1_unknown hknown]
      rfl
    · rw [translate_step_code (code_ne_of_known hknown)]
      obtain ⟨translated, htranslated⟩ := Option.ne_none_iff_exists'.mp hknown
      rw [htranslated, set1_known htranslated]
  | pause rest length_eq => exact translate_run_pause length_eq

/-- A code that is not known leaves a pending break pending. -/
theorem translate_step_unknown {byte : U8} (hunknown : keyboard_set2_to_set1 byte = none) :
    (translate_step ⟨true, []⟩ byte).2.break_pending = true := by
  unfold translate_step
  rw [hunknown]
  dsimp only
  split_ifs
  all_goals rfl

/-- An `E0` is not taken back, and a break stays pending. -/
theorem translate_run_of_not_translatable {k : KeySequence} (h : ¬ k.Translatable) :
    translate_run .clear k.native ≠ (k.set1, .clear) := by
  cases k with
  | key extended released code code_ne =>
    obtain ⟨hunknown, hbehind⟩ := Classical.not_imp.mp h
    rw [translate_run_key, set1_unknown hunknown]
    intro heq
    have hgives := List.append_eq_nil_iff.mp (congrArg Prod.fst heq)
    have hleaves : (translate_step ⟨released, []⟩ code).2.break_pending = false :=
      congrArg (fun r => r.2.break_pending) heq
    apply hbehind
    constructor
    · by_contra hextended
      rw [if_pos (Bool.not_eq_false _ ▸ hextended)] at hgives
      exact List.cons_ne_nil _ _ hgives.1
    · by_contra hreleased
      rw [Bool.not_eq_false] at hreleased
      rw [hreleased, translate_step_unknown hunknown] at hleaves
      cases hleaves
  | pause rest length_eq => exact absurd trivial h

/-- A stream of well translated sequences, from the clear state to the clear state. -/
theorem translate_run_flatMap {ks : List KeySequence} (h : ∀ k ∈ ks, k.Translatable) :
    translate_run .clear (ks.flatMap KeySequence.native) =
      (ks.flatMap KeySequence.set1, .clear) := by
  induction ks with
  | nil => rfl
  | cons k ks ih =>
    rw [List.flatMap_cons, List.flatMap_cons, translate_run_append,
      translate_run_of_translatable (h k List.mem_cons_self),
      ih fun k' hk' => h k' (List.mem_cons_of_mem k hk')]

/-! ## The controller -/

variable {σ : Type} (link : KbcLink σ)

/-- The controller translates, and its output is drained. -/
structure Translates (s : KbcState σ) : Prop where
  fifo : s.chip.fifo = []
  scan_set : (link.keyboard_inputs s.context).scan_set = 2
  enabled : kbc_translation_enabled s.chip = true

/-- The bytes in the output, in the order the host reads them. -/
def kbc_output (s : KbcState σ) : List U8 := s.chip.fifo.map Prod.fst

/-- What the host and the clock do between two bytes: the output is read away, and nothing resets
the stream. -/
structure ReadAway (s s' : KbcState σ) : Prop where
  fifo : s'.chip.fifo = []
  set2_state : kbc_set2_state s'.chip = kbc_set2_state s.chip

/-- A stream delivered byte by byte, each byte to a controller that translates, and what the host
reads of it. -/
inductive Delivered : KbcState σ → List U8 → List U8 → KbcState σ → Prop where
  | nil (s : KbcState σ) : Delivered s [] [] s
  | cons {s s' s'' : KbcState σ} {byte : U8} {bytes out : List U8}
      (translates : Translates link s)
      (read : ReadAway (kbc_publish_native_byte link s byte).2 s')
      (rest : Delivered s' bytes out s'') :
      Delivered s (byte :: bytes)
        (kbc_output (kbc_publish_native_byte link s byte).2 ++ out) s''

theorem kbc_queue_byte_output {s : KbcState σ} (value : U8) (origin : KbcOrigin)
    (hroom : s.chip.fifo.length < kbc_fifo_capacity) :
    kbc_output (kbc_queue_byte link s value origin).2 = kbc_output s ++ [value] ∧
      kbc_set2_state (kbc_queue_byte link s value origin).2.chip = kbc_set2_state s.chip := by
  unfold kbc_queue_byte kbc_enqueue kbc_output kbc_set2_state
  rw [if_neg (Nat.not_le.mpr hroom)]
  dsimp only
  rw [if_pos rfl]
  show (_ : List U8) = _ ∧ _
  unfold KbcState.note
  dsimp only
  rw [(kbc_refresh_current_irq_chip link _).1]
  refine ⟨?_, rfl⟩
  show List.map Prod.fst (s.chip.fifo ++ [(value, origin)]) = _
  rw [List.map_append]
  rfl

theorem kbc_queue_bytes_output (origin : KbcOrigin) (bytes : List U8) {s : KbcState σ}
    (hroom : s.chip.fifo.length + bytes.length ≤ kbc_fifo_capacity) :
    kbc_output (kbc_queue_bytes link s bytes origin) = kbc_output s ++ bytes ∧
      kbc_set2_state (kbc_queue_bytes link s bytes origin).chip = kbc_set2_state s.chip := by
  unfold kbc_queue_bytes
  induction bytes generalizing s with
  | nil => exact ⟨(List.append_nil _).symm, rfl⟩
  | cons byte bytes ih =>
    rw [List.length_cons] at hroom
    obtain ⟨hout, hstate⟩ := kbc_queue_byte_output link byte origin (s := s) (by omega)
    have hlength : (kbc_queue_byte link s byte origin).2.chip.fifo.length =
        s.chip.fifo.length + 1 := by
      have h := congrArg List.length hout
      rw [List.length_append] at h
      unfold kbc_output at h
      rw [List.length_map, List.length_map] at h
      exact h
    obtain ⟨hrest, hstate'⟩ := ih (s := (kbc_queue_byte link s byte origin).2) (by omega)
    rw [List.foldl_cons]
    refine ⟨?_, hstate'.trans hstate⟩
    rw [hrest, hout, List.append_assoc]
    rfl

theorem kbc_enqueue_set1_pause_output {s : KbcState σ} (hfifo : s.chip.fifo = []) :
    kbc_output (kbc_enqueue_set1_pause link s).2 = pause_set1 ∧
      kbc_set2_state (kbc_enqueue_set1_pause link s).2.chip = kbc_set2_state s.chip := by
  have hfits : s.chip.fifo.length + pause_set1.length ≤ kbc_fifo_capacity := by
    rw [hfifo]
    decide
  have hroom : ¬ kbc_fifo_capacity - s.chip.fifo.length < pause_set1.length := by
    rw [hfifo]
    decide
  have hempty : kbc_output s = [] := by
    rw [kbc_output, hfifo]
    rfl
  obtain ⟨hout, hstate⟩ := kbc_queue_bytes_output link .keyboard pause_set1 hfits
  rw [hempty, List.nil_append] at hout
  rw [kbc_enqueue_set1_pause, if_neg hroom]
  dsimp only
  rw [hout, hstate]
  exact ⟨rfl, rfl⟩

/-- A byte into an empty FIFO does what the step says. -/
theorem kbc_publish_native_byte_step {s : KbcState σ} (h : Translates link s)
    (hpause : s.chip.set2_pause_bytes.length < pause_set2.length) (byte : U8) :
    kbc_output (kbc_publish_native_byte link s byte).2 =
        (translate_step (kbc_set2_state s.chip) byte).1 ∧
      kbc_set2_state (kbc_publish_native_byte link s byte).2.chip =
        (translate_step (kbc_set2_state s.chip) byte).2 := by
  have hempty : kbc_output s = [] := by
    rw [kbc_output, h.fifo]
    rfl
  have hroom : s.chip.fifo.length < kbc_fifo_capacity := by
    rw [h.fifo]
    decide
  unfold kbc_publish_native_byte
  rw [if_pos ⟨h.scan_set, h.enabled⟩]
  rw [show kbc_set2_state s.chip = ⟨s.chip.set2_break_pending, s.chip.set2_pause_bytes⟩ from rfl]
  unfold kbc_translate_set2_byte translate_step
  dsimp only
  by_cases hin : s.chip.set2_pause_bytes ≠ [] ∨ byte = 0xe1
  · rw [if_pos hin, if_pos hin]
    unfold kbc_translate_pause_byte
    dsimp only
    rw [if_neg (Nat.not_le.mpr hpause)]
    by_cases hshort : (s.chip.set2_pause_bytes ++ [byte]).length < pause_set2.length
    · rw [if_pos hshort, if_pos hshort]
      exact ⟨hempty, rfl⟩
    · rw [if_neg hshort, if_neg hshort]
      by_cases hne : s.chip.set2_pause_bytes ++ [byte] ≠ pause_set2
      · rw [if_pos hne, if_pos hne]
        exact ⟨hempty, rfl⟩
      · rw [if_neg hne, if_neg hne]
        exact kbc_enqueue_set1_pause_output link (s := kbc_set_pause_bytes s []) h.fifo
  · rw [if_neg hin, if_neg hin]
    by_cases he0 : byte = 0xe0
    · rw [if_pos he0, if_pos he0]
      obtain ⟨hout, hstate⟩ := kbc_queue_byte_output link byte .keyboard hroom
      exact ⟨hout.trans (by rw [hempty]; rfl), hstate⟩
    · rw [if_neg he0, if_neg he0]
      by_cases hf0 : byte = 0xf0
      · rw [if_pos hf0, if_pos hf0]
        exact ⟨hempty, rfl⟩
      · rw [if_neg hf0, if_neg hf0]
        cases keyboard_set2_to_set1 byte with
        | none => exact ⟨hempty, rfl⟩
        | some translated =>
          obtain ⟨hout, hstate⟩ := kbc_queue_byte_output link (s := kbc_set_break_pending s false)
            (if s.chip.set2_break_pending then translated ||| 0x80 else translated) .keyboard hroom
          exact ⟨hout.trans (by
              rw [show kbc_output (kbc_set_break_pending s false) = [] from hempty]
              rfl),
            hstate⟩

/-! ## Streams -/

variable {link}

/-- Whatever happens between the bytes, the stream runs as the steps say. -/
theorem Delivered.run {s s' : KbcState σ} {bytes out : List U8}
    (h : Delivered link s bytes out s')
    (hpause : s.chip.set2_pause_bytes.length < pause_set2.length) :
    translate_run (kbc_set2_state s.chip) bytes = (out, kbc_set2_state s'.chip) := by
  induction h with
  | nil s => rfl
  | @cons s s' s'' byte bytes out translates read rest ih =>
    obtain ⟨hout, hstate⟩ := kbc_publish_native_byte_step link translates hpause byte
    have hnext : kbc_set2_state s'.chip = (translate_step (kbc_set2_state s.chip) byte).2 :=
      read.set2_state.trans hstate
    have hlength : s'.chip.set2_pause_bytes.length < pause_set2.length := by
      have := translate_step_pause_length (p := kbc_set2_state s.chip) byte hpause
      rw [← hnext] at this
      exact this
    have hrest := ih hlength
    rw [hnext] at hrest
    rw [translate_run, hrest, hout]

/-- Every stream can be delivered. -/
theorem exists_delivered (bytes : List U8) :
    ∀ {s : KbcState σ}, Translates link s → ∃ out s', Delivered link s bytes out s' := by
  induction bytes with
  | nil =>
    intro s _
    exact ⟨[], s, .nil s⟩
  | cons byte bytes ih =>
    intro s hs
    -- a host that reads the bytes and changes nothing else
    have hread (next : Kbc) : ∃ s' : KbcState σ, Translates link s' ∧
        kbc_set2_state s'.chip = kbc_set2_state next :=
      ⟨{ s with chip := { s.chip with
          set2_break_pending := next.set2_break_pending
          set2_pause_bytes := next.set2_pause_bytes } },
        ⟨hs.fifo, hs.scan_set, hs.enabled⟩, rfl⟩
    obtain ⟨s', hs', hstate⟩ := hread (kbc_publish_native_byte link s byte).2.chip
    obtain ⟨out, s'', hrest⟩ := ih hs'
    exact ⟨_, s'', .cons hs ⟨hs'.fifo, hstate⟩ hrest⟩

variable (link)

/-- After each complete sequence of the stream the host has read the bytes of set 1 of all of
them, and nothing of them is left behind. -/
def TranslatesEach (s : KbcState σ) (bytes : List U8) : Prop :=
  ∀ (n : ℕ) (out : List U8) (s' : KbcState σ),
    Delivered link s (((key_sequences bytes).take n).flatMap KeySequence.native) out s' →
      out = ((key_sequences bytes).take n).flatMap KeySequence.set1 ∧
        kbc_set2_state s'.chip = .clear

/-- Every stream is translated as its sequences say if and only if each code that is not known
stands without `E0` and `F0`. -/
theorem set2_translation_iff {s : KbcState σ} (hs : Translates link s)
    (hclear : kbc_set2_state s.chip = .clear) (bytes : List U8) :
    TranslatesEach link s bytes ↔ ∀ k ∈ key_sequences bytes, k.Translatable := by
  have hpause : s.chip.set2_pause_bytes.length < pause_set2.length := by
    have h : s.chip.set2_pause_bytes = [] := congrArg Set2State.pause_bytes hclear
    rw [h]
    decide
  constructor
  · intro h k hk
    by_contra hnot
    obtain ⟨n, hn, rfl⟩ := List.getElem_of_mem hk
    -- up to the sequence and through it, both well translated
    have hrun (m : ℕ) : translate_run .clear
        (((key_sequences bytes).take m).flatMap KeySequence.native) =
          (((key_sequences bytes).take m).flatMap KeySequence.set1, .clear) := by
      obtain ⟨out, s', hd⟩ := exists_delivered
        (((key_sequences bytes).take m).flatMap KeySequence.native) hs
      obtain ⟨hout, hstate⟩ := h m out s' hd
      rw [← hclear, hd.run hpause, hout, hstate, hclear]
    have hlong := hrun (n + 1)
    rw [List.take_add_one, List.getElem?_eq_getElem hn, List.flatMap_append, List.flatMap_append,
      translate_run_append, hrun n, Option.toList_some, List.flatMap_singleton,
      List.flatMap_singleton] at hlong
    rw [Prod.mk.injEq] at hlong
    refine translate_run_of_not_translatable hnot (Prod.ext ?_ hlong.2)
    exact List.append_cancel_left hlong.1
  · intro h n out s' hd
    have hrun := hd.run hpause
    rw [hclear, translate_run_flatMap fun k hk => h k (List.mem_of_mem_take hk)] at hrun
    rw [Prod.mk.injEq] at hrun
    exact ⟨hrun.1.symm, hrun.2.symm⟩

/-- A controller that has been told to translate, before any key. -/
def kbc_translating : KbcState Unit :=
  [KbcOp.write_command 0x60, .write_data 0x45].foldl (kbc_apply kbc_unplugged)
    (kbc_create kbc_unplugged ())

theorem kbc_translating_translates : Translates kbc_unplugged kbc_translating :=
  ⟨by decide +kernel, rfl, by decide +kernel⟩

/-- Up and down, to the right, Pause and a code that is not known. -/
theorem set2_translation_iff_keys :
    TranslatesEach kbc_unplugged kbc_translating
      ([0x1c, 0xf0, 0x1c, 0xe0, 0x74, 0xe0, 0xf0, 0x74] ++ pause_set2 ++ [0x02, 0x1c]) :=
  (set2_translation_iff kbc_unplugged kbc_translating_translates (by decide +kernel) _).mpr
    (by decide +kernel)

/-- After the break of a code that is not known the make of `A` is read as its break. -/
theorem unknown_break_pending :
    ¬ TranslatesEach kbc_unplugged kbc_translating [0xf0, 0x02, 0x1c] := by
  intro h
  obtain ⟨out, s', hd⟩ := exists_delivered [0xf0, 0x02, 0x1c] kbc_translating_translates
  have hrun := hd.run (by decide +kernel)
  have hgives : translate_run (kbc_set2_state kbc_translating.chip) [0xf0, 0x02, 0x1c] =
      ([0x9e], .clear) := by decide +kernel
  obtain ⟨hout, -⟩ := h 2 out s' hd
  rw [hgives, hout] at hrun
  have hmake : [0x9e] ≠ ((key_sequences [0xf0, 0x02, 0x1c]).take 2).flatMap KeySequence.set1 := by
    decide +kernel
  exact hmake (congrArg Prod.fst hrun)

end Nxvm.Chips
