/-
Inspecting physical memory (`memory.h`, `memory.c`).

An inspection takes the route of an operational read of the CPU and makes the same calls, with
the read callbacks told to observe only. What the two have in common is how an access is made:
as a whole, or byte by byte.
-/
import Nxvm.Ram.Read

set_option autoImplicit false

namespace Nxvm.Ram

open Nxvm.Chips (U8 U32)
open Nxvm.Machine (Status)

/-! ## The two reads -/

def operational : ReadMode := ⟨false, false, true⟩

def inspecting : ReadMode := ⟨true, false, true⟩

section Inspect

variable {σ : Type} (ram : RamConfig σ)

def memory_read_physical (state : σ) (physical : U32) (byte : ℕ) (cpu_access : Bool) :
    ReadResult ram.device_provider_count σ :=
  memory_read_routed ram ⟨false, false, cpu_access⟩ state physical byte

/-- `x86_core_machine_memory_inspect_physical` without `reset_fetch`. -/
def memory_inspect_physical (state : σ) (physical : U32) (byte : ℕ) :
    ReadResult ram.device_provider_count σ :=
  memory_read_routed ram inspecting state physical byte

/-- What a read callback owes an inspection: the same answer, and a device left as it was. -/
structure Inspectable (read : DeviceRead σ) : Prop where
  status : ∀ state physical byte,
    (read state physical byte true).1 = (read state physical byte false).1
  bytes : ∀ state physical byte,
    (read state physical byte true).2.1 = (read state physical byte false).2.1
  unchanged : ∀ state physical byte, (read state physical byte true).2.2 = state

/-! ## How an access is made -/

/-- A read that goes one way as a whole. -/
def read_route (mode : ReadMode) (state : σ) (physical : U32) (byte : ℕ) :
    Route ram.device_provider_count → ReadResult ram.device_provider_count σ
  | .failed status provider => ⟨status, [], state, note_route_failure ram byte status provider⟩
  | .provider index provider_physical =>
    read_provider ram mode state physical index provider_physical byte
  | .ram _ offset => read_backing ram mode state physical offset byte

/-- A read of the CPU goes one way as a whole, is made byte by byte, or stops at a byte that
has no route. -/
def access_split (state : σ) (physical : U32) (byte : ℕ) : Split ram.device_provider_count :=
  match route_resolve ram state physical byte .read true with
  | .failed status provider =>
    if status = .internal_error ∧ provider = none ∧ crosses_decode ram physical byte then .apart
    else .together
  | .provider index _ =>
    if !(ram.device_providers index).raw_decode ∧ crosses_decode ram physical byte then .apart
    else if byte > 1 ∧ has_partial_claim ram ∧ !is_plain_span ram physical byte then
      match split ram inspecting state physical byte fun _ => split_provider ram index with
      | .apart => .apart
      | _ => .together
    else .together
  | .ram _ offset =>
    if crosses_decode ram physical byte then .apart
    else if byte > 1 ∧ !is_plain_span ram physical byte then
      split ram inspecting state physical byte (split_backing ram offset)
    else .together

/-- The read that is made so. -/
def read_split (mode : ReadMode) (state : σ) (physical : U32) (byte : ℕ) :
    Split ram.device_provider_count → ReadResult ram.device_provider_count σ
  | .together =>
    read_route ram mode state physical byte (route_resolve ram state physical byte .read true)
  | .apart => read_bytes ram mode state physical byte
  | .stop status provider => read_route ram mode state physical 1 (.failed status provider)

variable {ram} {mode : ReadMode} {state : σ} {physical : U32} {byte : ℕ}

theorem read_byte_eq (hcpu : mode.cpu_access = true) :
    read_byte ram mode state physical =
      read_route ram mode state physical 1 (route_resolve ram state physical 1 .read true) := by
  rw [read_byte, hcpu]
  cases route_resolve ram state physical 1 .read true with
  | failed status provider => rfl
  | provider index provider_physical => rfl
  | ram address offset => rfl

/-- How a read of the CPU is made does not depend on what it is for. -/
theorem memory_read_routed_eq (hcpu : mode.cpu_access = true) :
    memory_read_routed ram mode state physical byte =
      read_split ram mode state physical byte (access_split ram state physical byte) := by
  have hsplit (decide_byte : ℕ → Route ram.device_provider_count →
      Option (Split ram.device_provider_count)) :
      split ram mode state physical byte decide_byte =
        split ram inspecting state physical byte decide_byte := by
    rw [split, split, hcpu]
    rfl
  by_cases hbyte : byte = 0
  · have hroute : route_resolve ram state physical byte .read true =
        .failed .invalid_argument none := by rw [route_resolve, if_pos hbyte]
    rw [memory_read_routed, if_pos hbyte, access_split, hroute]
    dsimp only
    rw [if_neg (by simp), read_split, hroute]
    rfl
  rw [memory_read_routed, if_neg hbyte, hcpu, access_split]
  cases hroute : route_resolve ram state physical byte .read true with
  | failed status provider =>
    dsimp only
    split_ifs with hcross
    · rfl
    · rw [read_split, hroute]
      rfl
  | provider index provider_physical =>
    dsimp only
    rw [read_provider_routed, hsplit]
    split_ifs with hcross hpartial
    · rfl
    · cases split ram inspecting state physical byte fun _ => split_provider ram index with
      | together =>
        rw [read_split, hroute]
        rfl
      | apart => rfl
      | stop status provider =>
        rw [read_split, hroute]
        rfl
    · rw [read_split, hroute]
      rfl
  | ram address offset =>
    dsimp only
    rw [read_backing_routed, hsplit]
    split_ifs with hcross hplain
    · rfl
    · cases split ram inspecting state physical byte (split_backing ram offset) with
      | together =>
        rw [read_split, hroute]
        rfl
      | apart => rfl
      | stop status provider => rfl
    · rw [read_split, hroute]
      rfl

/-! ## One owner -/

variable (ram) in
/-- An error that the failure observer of a provider is told of. -/
def Noted (index : Fin ram.device_provider_count) (status : Status) : Prop :=
  (ram.device_providers index).failure = true ∧ status ≠ .ok ∧ status ≠ .unsupported

variable (ram) in
/-- The provider of a route answers the query or the read with such an error. -/
def Refused (state : σ) (byte : ℕ) : Route ram.device_provider_count → Prop
  | .failed status (some asked) => Noted ram asked.1 status
  | .failed _ none => False
  | .provider index provider_physical =>
    Noted ram index ((ram.device_providers index).read state provider_physical byte true).1
  | .ram _ _ => False

theorem note_provider_failure_eq_nil {index : Fin ram.device_provider_count} {access : MemoryAccess}
    {status : Status} :
    note_provider_failure ram index physical byte access status = [] ↔
      ¬ Noted ram index status := by
  rw [note_provider_failure, Noted]
  split_ifs with hquiet
  · simp only [true_iff]
    rintro ⟨hfailure, hok, hunsupported⟩
    rw [hfailure] at hquiet
    simp [hok, hunsupported] at hquiet
  · simp only [false_iff, not_not]
    simpa using hquiet

/-- A data read makes the ordinary callback only. -/
theorem provider_read_data {provider : DeviceProvider σ} (hdata : mode.instruction_fetch = false) :
    provider_read provider mode state physical byte =
      provider.read state physical byte mode.observe_only := by
  rw [provider_read]
  cases provider.read_instruction with
  | none => rfl
  | some read_instruction => simp [hdata]

variable (hread : ∀ index, Inspectable (ram.device_providers index).read)

include hread in
theorem read_route_agrees (route : Route ram.device_provider_count) :
    (read_route ram inspecting state physical byte route).status =
        (read_route ram operational state physical byte route).status ∧
      (read_route ram inspecting state physical byte route).bytes =
        (read_route ram operational state physical byte route).bytes := by
  cases route with
  | failed status provider => exact ⟨rfl, rfl⟩
  | ram address offset =>
    rw [read_route, read_route, read_backing, read_backing]
    cases ram.backing with
    | none => exact ⟨rfl, rfl⟩
    | some backing => exact ⟨rfl, rfl⟩
  | provider index provider_physical =>
    have hstatus := (hread index).status state provider_physical byte
    have hbytes := (hread index).bytes state provider_physical byte
    rw [read_route, read_route, read_provider, read_provider, provider_read_data rfl,
      provider_read_data rfl]
    by_cases hdeclined :
      ((ram.device_providers index).read state provider_physical byte true).1 = .unsupported
    · -- declined by the read after all, and left to the backing
      simp only [inspecting, operational, hdeclined, hstatus.symm.trans hdeclined, ne_eq,
        not_true_eq_false, if_false]
      cases memory_offset ram physical (decode_address ram physical) byte with
      | error status => exact ⟨rfl, hbytes⟩
      | ok offset =>
        dsimp only
        rw [read_backing, read_backing]
        cases ram.backing with
        | none => exact ⟨rfl, rfl⟩
        | some backing => exact ⟨rfl, rfl⟩
    · have hanswered :
          ¬ ((ram.device_providers index).read state provider_physical byte false).1 =
            .unsupported := fun hunsupported => hdeclined (hstatus.trans hunsupported)
      simp only [inspecting, operational, ne_eq, hdeclined, hanswered, not_false_iff, if_true]
      exact ⟨hstatus, hbytes⟩

include hread in
theorem read_route_unchanged (route : Route ram.device_provider_count) :
    (read_route ram inspecting state physical byte route).state = state := by
  have hbacking (offset : ℕ) :
      (read_backing ram inspecting state physical offset byte).state = state := by
    rw [read_backing]
    cases ram.backing with
    | none => rfl
    | some backing => rfl
  cases route with
  | failed status provider => rfl
  | ram address offset => exact hbacking offset
  | provider index provider_physical =>
    rw [read_route, read_provider, provider_read_data rfl]
    simp only [inspecting, (hread index).unchanged]
    split_ifs with hanswered
    · rfl
    · cases memory_offset ram physical (decode_address ram physical) byte with
      | error status => rfl
      | ok offset => exact hbacking offset

/-- An inspection finds no parity fault. -/
theorem parity_reports_inspecting (offset : ℕ) (bytes : List U8) :
    parity_reports ram inspecting physical offset bytes = [] := by
  rw [parity_reports]
  cases ram.parity with
  | none => rfl
  | some parity => rfl

theorem read_backing_inspecting (offset : ℕ) :
    (read_backing ram inspecting state physical offset byte).reports = [] := by
  rw [read_backing]
  cases ram.backing with
  | none => rfl
  | some backing => exact parity_reports_inspecting _ _

theorem read_route_reports (route : Route ram.device_provider_count) :
    (read_route ram inspecting state physical byte route).reports = [] ↔
      ¬ Refused ram state byte route := by
  cases route with
  | ram address offset =>
    rw [read_route, read_backing_inspecting]
    simp [Refused]
  | failed status provider =>
    cases provider with
    | none => simp [read_route, note_route_failure, Refused]
    | some asked => exact note_provider_failure_eq_nil
  | provider index provider_physical =>
    rw [read_route, read_provider, provider_read_data rfl, Refused]
    by_cases hdeclined :
      ((ram.device_providers index).read state provider_physical byte true).1 = .unsupported
    · have hnot : ¬ Noted ram index
          ((ram.device_providers index).read state provider_physical byte true).1 :=
        fun hnoted => hnoted.2.2 hdeclined
      simp only [inspecting, hdeclined, ne_eq, not_true_eq_false, if_false]
      rw [hdeclined] at hnot
      cases memory_offset ram physical (decode_address ram physical) byte with
      | error status => simp [hnot]
      | ok offset =>
        simp only [hnot, not_false_iff, iff_true]
        exact read_backing_inspecting offset
    · simp only [inspecting, ne_eq, hdeclined, not_false_iff, if_true]
      exact note_provider_failure_eq_nil

/-! ## Byte by byte -/

variable (ram) in
/-- The bytes one by one, every one of them read by the CPU from the same state. -/
def read_bytes_at (state : σ) : U32 → ℕ → Status × List U8
  | _, 0 => (.ok, [])
  | physical, byte + 1 =>
    let first := read_byte ram operational state physical
    if first.status ≠ .ok then (first.status, first.bytes)
    else
      let rest := read_bytes_at state (physical + 1) byte
      (rest.1, first.bytes ++ rest.2)

variable (ram) in
/-- The bytes before this one are answered. -/
def Reached (state : σ) (physical : U32) (index : ℕ) : Prop :=
  ∀ before < index,
    (read_byte ram operational state (physical + BitVec.ofNat 32 before)).status = .ok

theorem add_ofNat_succ (index : ℕ) :
    physical + BitVec.ofNat 32 (index + 1) = physical + 1 + BitVec.ofNat 32 index := by
  rw [Nat.add_comm, BitVec.ofNat_add, ← BitVec.add_assoc]
  rfl

theorem reached_succ {index : ℕ} :
    Reached ram state physical (index + 1) ↔
      (read_byte ram operational state physical).status = .ok ∧
        Reached ram state (physical + 1) index := by
  constructor
  · intro hreached
    refine ⟨?_, fun before hbefore => ?_⟩
    · have hfirst := hreached 0 (Nat.succ_pos _)
      rwa [BitVec.add_zero] at hfirst
    · have hnext := hreached (before + 1) (Nat.succ_lt_succ hbefore)
      rwa [add_ofNat_succ] at hnext
  · rintro ⟨hfirst, hrest⟩ before hbefore
    cases before with
    | zero => rwa [BitVec.add_zero]
    | succ before =>
      rw [add_ofNat_succ]
      exact hrest before (Nat.lt_of_succ_lt_succ hbefore)

include hread in
theorem read_bytes_unchanged :
    (read_bytes ram inspecting state physical byte).state = state := by
  induction byte generalizing physical with
  | zero => rfl
  | succ byte ih =>
    have hfirst : (read_byte ram inspecting state physical).state = state := by
      rw [read_byte_eq rfl]
      exact read_route_unchanged hread _
    rw [read_bytes]
    dsimp only
    split_ifs with hok
    · exact hfirst
    · rw [hfirst]
      exact ih

include hread in
/-- An inspection reads every byte from the state it began with. -/
theorem read_bytes_inspecting :
    ((read_bytes ram inspecting state physical byte).status,
      (read_bytes ram inspecting state physical byte).bytes) =
      read_bytes_at ram state physical byte := by
  induction byte generalizing physical with
  | zero => rfl
  | succ byte ih =>
    have hunchanged : (read_byte ram inspecting state physical).state = state := by
      rw [read_byte_eq rfl]
      exact read_route_unchanged hread _
    obtain ⟨hstatus, hbytes⟩ :
        (read_byte ram inspecting state physical).status =
            (read_byte ram operational state physical).status ∧
          (read_byte ram inspecting state physical).bytes =
            (read_byte ram operational state physical).bytes := by
      rw [read_byte_eq rfl, read_byte_eq rfl]
      exact read_route_agrees hread _
    rw [read_bytes, read_bytes_at, ← ih]
    dsimp only
    by_cases hok : (read_byte ram operational state physical).status = .ok
    · rw [if_neg (by rw [hstatus]; exact not_not.mpr hok), if_neg (not_not.mpr hok), hunchanged,
        hbytes]
    · rw [if_pos (by rw [hstatus]; exact hok), if_pos hok, hstatus, hbytes]

include hread in
/-- The observers hear of an inspection from the first byte that is refused, or not at all. -/
theorem read_bytes_reports :
    (read_bytes ram inspecting state physical byte).reports = [] ↔
      ¬ ∃ index < byte, Reached ram state physical index ∧
        Refused ram state 1
          (route_resolve ram state (physical + BitVec.ofNat 32 index) 1 .read true) := by
  induction byte generalizing physical with
  | zero => simp [read_bytes]
  | succ byte ih =>
    have hunchanged : (read_byte ram inspecting state physical).state = state := by
      rw [read_byte_eq rfl]
      exact read_route_unchanged hread _
    have hstatus : (read_byte ram inspecting state physical).status =
        (read_byte ram operational state physical).status := by
      rw [read_byte_eq rfl, read_byte_eq rfl]
      exact (read_route_agrees hread _).1
    have hreports : (read_byte ram inspecting state physical).reports = [] ↔
        ¬ Refused ram state 1 (route_resolve ram state physical 1 .read true) := by
      rw [read_byte_eq rfl]
      exact read_route_reports _
    -- the refusal is of the first byte, or of a later one behind an answered first
    have hsplit : (∃ index < byte + 1, Reached ram state physical index ∧
        Refused ram state 1
          (route_resolve ram state (physical + BitVec.ofNat 32 index) 1 .read true)) ↔
        Refused ram state 1 (route_resolve ram state physical 1 .read true) ∨
          (read_byte ram operational state physical).status = .ok ∧
            ∃ index < byte, Reached ram state (physical + 1) index ∧
              Refused ram state 1
                (route_resolve ram state (physical + 1 + BitVec.ofNat 32 index) 1 .read true) := by
      constructor
      · rintro ⟨index, hindex, hreached, hrefused⟩
        cases index with
        | zero =>
          rw [BitVec.add_zero] at hrefused
          exact .inl hrefused
        | succ index =>
          rw [reached_succ] at hreached
          rw [add_ofNat_succ] at hrefused
          exact .inr ⟨hreached.1, index, Nat.lt_of_succ_lt_succ hindex, hreached.2, hrefused⟩
      · rintro (hrefused | ⟨hok, index, hindex, hreached, hrefused⟩)
        · refine ⟨0, Nat.succ_pos _, fun before hbefore => absurd hbefore (Nat.not_lt_zero _), ?_⟩
          rwa [BitVec.add_zero]
        · refine ⟨index + 1, Nat.succ_lt_succ hindex, reached_succ.mpr ⟨hok, hreached⟩, ?_⟩
          rwa [add_ofNat_succ]
    rw [hsplit, not_or, ← hreports, read_bytes]
    dsimp only
    by_cases hok : (read_byte ram operational state physical).status = .ok
    · rw [if_neg (by rw [hstatus]; exact not_not.mpr hok), hunchanged, List.append_eq_nil_iff, ih]
      simp [hok]
    · rw [if_pos (by rw [hstatus]; exact hok)]
      simp [hok]

/-! ## Inspections -/

variable (ram) in
/-- Along the access an inspection makes, a provider with a failure observer answers with an
error: of the access as a whole, of the first byte that is not answered, or of the byte that
has no route. -/
def InspectionRefused (state : σ) (physical : U32) (byte : ℕ) : Prop :=
  match access_split ram state physical byte with
  | .together => Refused ram state byte (route_resolve ram state physical byte .read true)
  | .apart => ∃ index < byte, Reached ram state physical index ∧
      Refused ram state 1
        (route_resolve ram state (physical + BitVec.ofNat 32 index) 1 .read true)
  | .stop status provider => Refused ram state 1 (.failed status provider)

variable (ram) in
/-- Where the CPU reads byte by byte, what the reads of the earlier bytes do to the devices
does not show in the later ones. -/
def Undisturbed (state : σ) (physical : U32) (byte : ℕ) : Prop :=
  access_split ram state physical byte = .apart →
    ((read_bytes ram operational state physical byte).status,
      (read_bytes ram operational state physical byte).bytes) =
      read_bytes_at ram state physical byte

theorem read_byte_unchanged
    (hquiet : ∀ index state physical byte,
      ((ram.device_providers index).read state physical byte false).2.2 = state) :
    (read_byte ram operational state physical).state = state := by
  have hbacking (offset : ℕ) :
      (read_backing ram operational state physical offset 1).state = state := by
    rw [read_backing]
    cases ram.backing with
    | none => rfl
    | some backing => rfl
  rw [read_byte_eq rfl]
  cases route_resolve ram state physical 1 .read true with
  | failed status provider => rfl
  | ram address offset => exact hbacking offset
  | provider index provider_physical =>
    rw [read_route, read_provider, provider_read_data rfl]
    simp only [operational, hquiet]
    split_ifs with hanswered
    · rfl
    · cases memory_offset ram physical (decode_address ram physical) 1 with
      | error status => rfl
      | ok offset => exact hbacking offset

/-- Operational reads that leave their devices as they were disturb nothing. -/
theorem undisturbed_of_unchanged
    (hquiet : ∀ index state physical byte,
      ((ram.device_providers index).read state physical byte false).2.2 = state) :
    Undisturbed ram state physical byte := by
  rintro -
  induction byte generalizing physical with
  | zero => rfl
  | succ byte ih =>
    rw [read_bytes, read_bytes_at, ← ih]
    dsimp only
    rw [read_byte_unchanged hquiet]
    split_ifs with hok
    · rfl
    · rfl

theorem inspect_reports (hread : ∀ index, Inspectable (ram.device_providers index).read) :
    (memory_inspect_physical ram state physical byte).reports = [] ↔
      ¬ InspectionRefused ram state physical byte := by
  rw [memory_inspect_physical, memory_read_routed_eq rfl, InspectionRefused]
  cases access_split ram state physical byte with
  | together => exact read_route_reports _
  | apart => exact read_bytes_reports hread
  | stop status provider => exact read_route_reports _

theorem inspect_unchanged (hread : ∀ index, Inspectable (ram.device_providers index).read) :
    (memory_inspect_physical ram state physical byte).state = state := by
  rw [memory_inspect_physical, memory_read_routed_eq rfl]
  cases access_split ram state physical byte with
  | together => exact read_route_unchanged hread _
  | apart => exact read_bytes_unchanged hread
  | stop status provider => exact read_route_unchanged hread _

theorem inspect_agrees_iff (hread : ∀ index, Inspectable (ram.device_providers index).read) :
    ((memory_inspect_physical ram state physical byte).status =
          (memory_read_physical ram state physical byte true).status ∧
        (memory_inspect_physical ram state physical byte).bytes =
          (memory_read_physical ram state physical byte true).bytes) ↔
      Undisturbed ram state physical byte := by
  rw [memory_inspect_physical, memory_read_physical, memory_read_routed_eq rfl,
    memory_read_routed_eq rfl, Undisturbed]
  cases hsplit : access_split ram state physical byte with
  | together =>
    simp only [reduceCtorEq, false_implies, iff_true]
    exact read_route_agrees hread _
  | stop status provider =>
    simp only [reduceCtorEq, false_implies, iff_true]
    exact read_route_agrees hread _
  | apart =>
    rw [← read_bytes_inspecting hread, Prod.mk.injEq]
    simp only [forall_const, read_split]
    exact and_congr eq_comm eq_comm

end Inspect

/-- A board with one window of four bytes at `0x45a`, whose provider has a failure observer. -/
def cop_window {σ : Type} (read : DeviceRead σ) : RamConfig σ where
  address_clear_mask := 0
  address_decode_first := 0
  address_decode_last := 0xffffffff
  backing := some fun _ => 0
  parity := none
  parity_bytes := 0
  installed_bytes := 0x100000
  mappings := []
  device_provider_count := 1
  device_providers _ :=
    { physical_start := 0x45a
      bytes := 4
      read := read
      read_instruction := none
      cache_probe := none
      query := fun _ _ _ _ => .ok
      failure := true
      raw_decode := false
      cpu_only := false
      replacement := true
      partial_claim := false
      fallback := false
      probe_reads := no_probe_reads }

/-- A register that reads as its value. -/
def read_register : DeviceRead U8 := fun state _ byte _ => (.ok, List.replicate byte state, state)

/-- A register that is not modelled. -/
def read_unmodelled : DeviceRead Unit := fun _ _ _ _ => (.invalid_state, [], ())

end Nxvm.Ram
