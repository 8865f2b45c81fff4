/-
A read, write or verify command of several sectors.

The ledger shows which records the media were asked for. While a command is in progress it
holds the sectors from the first one on, each once and in their order, and the address in the
task file is that of the sector behind them or of the last one of them (`Stage`). A command
ends when it has them all, at the first sector that is not on the drive, or with a record
that the medium does not give (`Ended`).
-/
import Nxvm.Chips.HdcHost

set_option autoImplicit false

namespace Nxvm.Chips

open Nxvm.Lib Nxvm.Lib.Register Nxvm.Machine

/-! ## Commands -/

/-- Whether a command writes, where it is one that sectors are transferred or verified by. -/
def hdc_command_transfers (config : HdcConfig) (command : U8) : Option Bool :=
  if hdc_command_is_read config command then some false
  else if hdc_command_is_write config command then some true
  else if command &&& 0xfe = 0x40 then some false
  else none

/-- Block numbers are asked for only where the drive has them. -/
def hdc_addresses (config : HdcConfig) (data : HdcData) : Bool :=
  hdc_is_wd config || !is_set data.drive_head 0x40 || config.lba28_supported

/-- A command, what it was given, and the ledger before it. -/
structure HdcTransfer where
  info : HdcMedium
  unit : Fin 2
  view : HdcView
  command : U8
  write : Bool
  start : ℕ
  count : ℕ
  before : List HdcAccess

namespace HdcTransfer

/-- The accesses to the first sectors of the command. -/
def accesses (t : HdcTransfer) (k : ℕ) : List HdcAccess :=
  (List.range k).map fun i => ⟨t.write, t.unit, t.start + i, .ok⟩

/-- The ledger when the command has had its first sectors. -/
def ledger (t : HdcTransfer) (k : ℕ) : List HdcAccess := t.before ++ t.accesses k

theorem ledger_succ (t : HdcTransfer) (k : ℕ) :
    t.ledger (k + 1) = t.ledger k ++ [⟨t.write, t.unit, t.start + k, .ok⟩] := by
  rw [ledger, ledger, accesses, accesses, List.range_succ, List.map_append, List.append_assoc]
  rfl

theorem ledger_zero (t : HdcTransfer) : t.ledger 0 = t.before := List.append_nil _

end HdcTransfer

section Setup

variable {σ : Type} (setup : HdcSetup σ) (t : HdcTransfer)

/-- What a command can count on: a drive that stays what it is, and no edge between two of
its sectors. -/
structure HdcTransfer.Served : Prop where
  protocol : hdc_is_ata_pio setup.config = true ∨ hdc_is_wd setup.config = true
  query : ∀ context, setup.query context t.unit = (.ok, t.info)
  transfers : hdc_command_transfers setup.config t.command = some t.write
  writable : t.write = true → t.info.read_only = false
  edges : ∀ i, i + 1 < t.count → t.view.Inside (t.start + i) → ¬ t.view.Edge (t.start + i)

/-- The address in the task file is that of a sector of the drive, or behind it. -/
structure StandsAt (s : HdcState σ) (sector : ℕ) : Prop where
  drive : Drive setup s t.info
  aims : Aims setup s.data t.info sector
  unit : hdc_selected_unit s.data = t.unit
  view : hdc_view setup.config s.data t.info = t.view

/-- How far a command is. -/
inductive Stage (s : HdcState σ) : Prop where
  | waiting (phase : s.data.phase = .pending_command) (command : s.data.pending_command = t.command)
      (addressing : hdc_addresses setup.config (hdc_restored s.data) = true)
      (count : hdc_sectors_asked (hdc_restored s.data) = t.count)
      (at_start : StandsAt setup t { s with data := hdc_restored s.data } t.start)
      (touched : s.touched = t.ledger 0)
  | reading (i : ℕ) (phase : s.data.phase = .data_read ∨ s.data.phase = .pending_read_sector)
      (not_write : t.write = false) (below : i < t.count)
      (remaining : s.data.sectors_remaining = t.count - i)
      (at_sector : StandsAt setup t s (t.start + i))
      (resolves : t.start + i < hdc_sector_capacity t.info)
      (inside : ∀ j < i, t.view.Inside (t.start + j)) (touched : s.touched = t.ledger (i + 1))
  | writing (i : ℕ) (phase : s.data.phase = .data_write ∨ s.data.phase = .pending_write_sector)
      (writes : t.write = true) (last : s.data.last_command = t.command) (below : i < t.count)
      (remaining : s.data.sectors_remaining = t.count - i)
      (at_sector : StandsAt setup t s (t.start + i))
      (inside : ∀ j < i, t.view.Inside (t.start + j)) (touched : s.touched = t.ledger i)

/-- A command in progress. -/
structure Underway (s : HdcState σ) : Prop where
  busy : HdcBusy s.data
  stage : Stage setup t s

/-- What a command has come to. -/
inductive Outcome (s : HdcState σ) : Prop where
  | all (touched : s.touched = t.ledger t.count) (status : is_set s.data.status status_err = false)
  | outside (k : ℕ) (below : k < t.count) (touched : s.touched = t.ledger k)
      (inside : ∀ i < k, t.view.Inside (t.start + i)) (out : ¬ t.view.Inside (t.start + k))
      (error : s.data.error = error_id_not_found)
  | refused (k : ℕ) (result : HdcRecordResult) (below : k < t.count)
      (touched : s.touched = t.ledger k ++ [⟨t.write, t.unit, t.start + k, result⟩])
      (not_ok : result ≠ .ok) (error : s.data.error = hdc_record_error result)
  | flawed (k : ℕ) (below : k < t.count) (not_write : t.write = false)
      (touched : s.touched = t.ledger (k + 1)) (error : s.data.error = error_uncorrectable)

/-- How a command ends. -/
structure Ended (s : HdcState σ) : Prop where
  idle : s.data.phase = .idle
  outcome : Outcome t s

variable {setup t}

/-! ## Addresses -/

theorem denotes_inside {s : HdcState σ} {info : HdcMedium} {sector : ℕ}
    (h : Denotes setup.config s.data info sector) (hcapacity : sector < hdc_sector_capacity info) :
    (hdc_view setup.config s.data info).Inside sector := by
  refine ⟨hcapacity, fun hchs => ?_⟩
  obtain ⟨hcylinder, hhead, hpos, hnumber, haddress⟩ := h.chs hchs
  rw [← haddress]
  refine lt_of_lt_of_le ?_ (chs_address_inside hcylinder hhead hnumber)
  exact Nat.add_lt_add_left (Nat.sub_lt hpos Nat.one_pos) _

theorem hdc_view_eq {config : HdcConfig} {data data' : HdcData} (h : SameAddress data data')
    (info : HdcMedium) : hdc_view config data' info = hdc_view config data info ∧
      hdc_selected_unit data' = hdc_selected_unit data :=
  hdc_view_same config data info data' (by rw [h.head]) h.control h.heads h.sectors

theorem denotes_same {config : HdcConfig} {data data' : HdcData} {info : HdcMedium} {sector : ℕ}
    (h : SameAddress data data') (hdenotes : Denotes config data info sector) :
    Denotes config data' info sector := by
  unfold Denotes hdc_lba hdc_cylinder hdc_current_head at hdenotes ⊢
  rw [(hdc_view_eq h info).1, h.number, h.low, h.high, h.head, h.control]
  exact hdenotes

variable {s : HdcState σ} {sector : ℕ}

theorem StandsAt.same (served : t.Served setup) (h : StandsAt setup t s sector) {s' : HdcState σ}
    (same : SameAddress s.data s'.data) : StandsAt setup t s' sector := by
  obtain ⟨hview, hunit⟩ := hdc_view_eq same t.info
  obtain ⟨denoted, hdenotes, hdenoted⟩ := h.aims
  have hdrive := h.drive.same s'.data hview hunit same.heads same.sectors
  refine ⟨⟨hdrive.protocol, ?_, hdrive.present, hdrive.bytes, hdrive.translated, hdrive.heads⟩,
    ⟨denoted, denotes_same same hdenotes, hdenoted⟩, hunit.trans h.unit, hview.trans h.view⟩
  unfold hdc_media_info
  rw [hunit, h.unit, served.query]
  rfl

theorem StandsAt.inside (h : StandsAt setup t s sector)
    (hcapacity : sector < hdc_sector_capacity t.info) : t.view.Inside sector :=
  h.view ▸ denotes_inside (h.aims.denotes hcapacity) hcapacity

/-- The sector resolves, or the drive does not go that far. -/
theorem StandsAt.resolve (served : t.Served setup) (h : StandsAt setup t s sector) :
    hdc_resolve_sector setup s t.write =
      if sector < hdc_sector_capacity t.info then (some sector, s)
      else (none, hdc_fail setup s error_id_not_found) :=
  h.aims.resolve h.drive t.write served.writable

theorem not_inside_of_capacity (h : StandsAt setup t s sector)
    (hcapacity : ¬ sector < hdc_sector_capacity t.info) : ¬ t.view.Inside sector := by
  rw [← h.view]
  exact fun hinside => hcapacity hinside.1

/-- An advance between two sectors of the command. -/
theorem StandsAt.advance (served : t.Served setup) {i : ℕ}
    (h : StandsAt setup t s (t.start + i))
    (hcapacity : t.start + i < hdc_sector_capacity t.info) (hmore : i + 1 < t.count) :
    (∃ data', hdc_advance_sector setup s = (true, { s with data := data' }) ∧
        (∃ number low high head, data' = { s.data with
          sector_number := number, cylinder_low := low, cylinder_high := high
          drive_head := head }) ∧
        StandsAt setup t { s with data := data' } (t.start + (i + 1))) ∨
      (hdc_advance_sector setup s = (false, hdc_fail setup s error_id_not_found) ∧
        ¬ t.view.Inside (t.start + (i + 1))) := by
  have hedge : ¬ (hdc_view setup.config s.data t.info).Edge (t.start + i) := by
    rw [h.view]
    exact served.edges i hmore (h.inside hcapacity)
  rcases hdc_advance_sector_steps h.drive (h.aims.denotes hcapacity) hedge with
    ⟨data', hadvance, honly, haims⟩ | ⟨hadvance, hout⟩
  · obtain ⟨number, low, high, head, hdata⟩ := honly.rest
    refine Or.inl ⟨data', hadvance, ⟨number, low, high, head, hdata⟩, ?_⟩
    have hdrive := h.drive.same data' honly.view honly.unit (by rw [hdata]) (by rw [hdata])
    exact ⟨hdrive, haims, honly.unit.trans h.unit, honly.view.trans h.view⟩
  · exact Or.inr ⟨hadvance, h.view ▸ hout⟩

/-! ## Reading -/

/-- What a load leaves besides the record, the error and the status. -/
structure Loaded (s s' : HdcState σ) : Prop where
  address : SameAddress s.data s'.data
  remaining : s'.data.sectors_remaining = s.data.sectors_remaining
  count : s'.data.sector_count = s.data.sector_count
  last : s'.data.last_command = s.data.last_command
  touched : s'.touched = s.touched

theorem hdc_load_record_cases (s : HdcState σ) (record : HdcRecord) :
    ((hdc_load_record setup s record).1 = true ∧ Loaded s (hdc_load_record setup s record).2) ∨
      ((hdc_load_record setup s record).1 = false ∧
        (hdc_load_record setup s record).2 = hdc_fail setup s error_uncorrectable) := by
  unfold hdc_load_record
  dsimp only
  by_cases hata : setup.config.protocol = .ata_pio
  · rw [if_pos hata]
    exact Or.inl ⟨rfl, ⟨rfl, rfl, rfl, rfl, rfl, rfl, rfl⟩, rfl, rfl, rfl, rfl⟩
  rw [if_neg hata]
  by_cases hlong : hdc_command_is_long setup.config s.data.last_command = true
  · rw [if_pos hlong]
    exact Or.inl ⟨rfl, ⟨rfl, rfl, rfl, rfl, rfl, rfl, rfl⟩, rfl, rfl, rfl, rfl⟩
  rw [if_neg hlong]
  cases hdc_ecc_check record (hdc_ecc_polynomial setup.config)
      (hdc_ecc_limit setup.config s.data) with
  | none =>
    dsimp only
    split_ifs
    · exact Or.inr ⟨rfl, rfl⟩
    · exact Or.inl ⟨rfl, ⟨rfl, rfl, rfl, rfl, rfl, rfl, rfl⟩, rfl, rfl, rfl, rfl⟩
  | some corrected =>
    exact Or.inl ⟨rfl, ⟨rfl, rfl, rfl, rfl, rfl, rfl, rfl⟩, rfl, rfl, rfl, rfl⟩

/-- A load adds its sector to the ledger, or ends the command. -/
theorem load_cases (served : t.Served setup) {i : ℕ} (hwrite : t.write = false)
    (hbelow : i < t.count) (h : StandsAt setup t s (t.start + i)) (htouched : s.touched = t.ledger i)
    (hinside : ∀ j < i, t.view.Inside (t.start + j)) :
    (∃ s', hdc_load_sector setup s = (true, s') ∧ SameAddress s.data s'.data ∧
        s'.data.sectors_remaining = s.data.sectors_remaining ∧
        s'.data.sector_count = s.data.sector_count ∧
        s'.data.last_command = s.data.last_command ∧
        t.start + i < hdc_sector_capacity t.info ∧ s'.touched = t.ledger (i + 1)) ∨
      ((hdc_load_sector setup s).1 = false ∧ Ended t (hdc_load_sector setup s).2) := by
  have hresolve := h.resolve served
  rw [hwrite] at hresolve
  unfold hdc_load_sector
  rw [hresolve]
  by_cases hcapacity : t.start + i < hdc_sector_capacity t.info
  · rw [if_pos hcapacity]
    dsimp only
    rw [h.unit]
    generalize setup.read s.context t.unit (t.start + i) = answer
    obtain ⟨result, record, context⟩ := answer
    dsimp only
    by_cases hok : result ≠ .ok
    · rw [if_pos hok]
      refine Or.inr ⟨rfl, rfl, .refused i result hbelow ?_ hok rfl⟩
      change s.touched ++ _ = _
      rw [htouched, hwrite]
    · rw [if_neg hok]
      rw [not_not] at hok
      have hafter : (s.touch false t.unit (t.start + i) result context).touched =
          t.ledger (i + 1) := by
        change s.touched ++ _ = _
        rw [t.ledger_succ, htouched, hok, hwrite]
      rcases hdc_load_record_cases
        (s.touch false t.unit (t.start + i) result context) record with
        ⟨hloaded, hkept⟩ | ⟨hfailed, hstate⟩
      · refine Or.inl ⟨_, Prod.ext hloaded rfl, hkept.address, hkept.remaining, hkept.count,
          hkept.last, hcapacity, hkept.touched.trans hafter⟩
      · refine Or.inr ⟨hfailed, ?_⟩
        rw [hstate]
        exact ⟨rfl, .flawed i hbelow hwrite hafter rfl⟩
  · rw [if_neg hcapacity]
    refine Or.inr ⟨rfl, rfl, ?_⟩
    exact .outside i hbelow htouched hinside (not_inside_of_capacity h hcapacity) rfl

theorem all_inside {i : ℕ} (h : t.view.Inside (t.start + i))
    (hinside : ∀ j < i, t.view.Inside (t.start + j)) :
    ∀ j < i + 1, t.view.Inside (t.start + j) := by
  intro j hj
  rcases Nat.lt_succ_iff_lt_or_eq.mp hj with hlt | rfl
  · exact hinside j hlt
  · exact h

/-- The sectors left are as many as the command still has to transfer. -/
theorem hdc_complete_data_sector_eq {i : ℕ} (hbelow : i < t.count)
    (hremaining : s.data.sectors_remaining = t.count - i) :
    hdc_complete_data_sector s = { s with data := { s.data with
      sectors_remaining := t.count - (i + 1), sector_count := s.data.sector_count - 1 } } := by
  unfold hdc_complete_data_sector
  rw [if_neg (by omega), hremaining, Nat.sub_sub]

theorem complete_status (s : HdcState σ) (interrupt : Bool) :
    (hdc_complete setup s interrupt).data.phase = .idle ∧
      (hdc_complete setup s interrupt).touched = s.touched ∧
      is_set (hdc_complete setup s interrupt).data.status status_err = false := by
  have hstatus : is_set (status_drdy ||| status_dsc ||| (s.data.status &&& status_corrected))
      status_err = false := by
    generalize s.data.status = status
    revert status
    decide
  cases interrupt with
  | false => exact ⟨rfl, rfl, hstatus⟩
  | true => exact ⟨rfl, rfl, hstatus⟩

/-- A command that is complete when it has had all its sectors. -/
theorem ended_complete (interrupt : Bool) (htouched : s.touched = t.ledger t.count) :
    Ended t (hdc_complete setup s interrupt) := by
  obtain ⟨hidle, htouched', hstatus⟩ := complete_status s interrupt
  exact ⟨hidle, .all (htouched'.trans htouched) hstatus⟩

/-- A command that stops behind the drive. -/
theorem ended_outside {k : ℕ} (hbelow : k < t.count) (htouched : s.touched = t.ledger k)
    (hinside : ∀ i < k, t.view.Inside (t.start + i)) (hout : ¬ t.view.Inside (t.start + k)) :
    Ended t (hdc_fail setup s error_id_not_found) :=
  ⟨rfl, .outside k hbelow htouched hinside hout rfl⟩

theorem read_status_busy {data : HdcData} (status : U8) (h : data.status = hdc_read_status status) :
    HdcBusy data := by
  unfold HdcBusy hdc_task_file_is_writable
  rw [h]
  clear h
  revert status
  decide

/-- A sector loaded for the host is a stage of the command. -/
theorem underway_read (served : t.Served setup) {i : ℕ} (hwrite : t.write = false)
    (hbelow : i < t.count) {s' : HdcState σ} (h : StandsAt setup t s (t.start + i))
    (hsame : SameAddress s.data s'.data) (hcapacity : t.start + i < hdc_sector_capacity t.info)
    (hinside : ∀ j < i, t.view.Inside (t.start + j)) (htouched : s'.touched = t.ledger (i + 1))
    (remaining index : ℕ) (hremaining : remaining = t.count - i) :
    Underway setup t (hdc_raise_irq setup { s' with data := { s'.data with
      phase := .data_read, sectors_remaining := remaining, data_index := index
      status := hdc_read_status s'.data.status } }) := by
  refine ⟨read_status_busy s'.data.status rfl, .reading i (Or.inl rfl) hwrite hbelow hremaining ?_
    hcapacity hinside htouched⟩
  exact h.same served (hsame.trans ⟨rfl, rfl, rfl, rfl, rfl, rfl, rfl⟩)

theorem begin_read_cases (served : t.Served setup) (hwrite : t.write = false)
    (hcount : hdc_sectors_asked s.data = t.count) (hpos : 0 < t.count)
    (h : StandsAt setup t s t.start) (htouched : s.touched = t.ledger 0) :
    Underway setup t (hdc_begin_read setup s) ∨ Ended t (hdc_begin_read setup s) := by
  have hload := load_cases served hwrite hpos (i := 0) h htouched nofun
  unfold hdc_begin_read
  dsimp only
  rcases hload with ⟨s', hload, hsame, hremaining, hsector_count, -, hcapacity, htouched'⟩ |
    ⟨hfailed, hended⟩
  · rw [hload]
    refine Or.inl (underway_read served hwrite hpos (i := 0) h hsame hcapacity nofun htouched' _ 0 ?_)
    dsimp only
    unfold hdc_sectors_asked at hcount ⊢
    rw [hsector_count]
    exact hcount
  · rw [hfailed]
    exact Or.inr hended

theorem next_read_sector_cases (served : t.Served setup) {i : ℕ} (hwrite : t.write = false)
    (hbelow : i < t.count) (hremaining : s.data.sectors_remaining = t.count - i)
    (h : StandsAt setup t s (t.start + i)) (hcapacity : t.start + i < hdc_sector_capacity t.info)
    (hinside : ∀ j < i, t.view.Inside (t.start + j)) (htouched : s.touched = t.ledger (i + 1)) :
    Underway setup t (hdc_next_read_sector setup s) ∨
      Ended t (hdc_next_read_sector setup s) := by
  have hinside' := all_inside (h.inside hcapacity) hinside
  unfold hdc_next_read_sector
  dsimp only
  by_cases hflawed : s.data.error = error_uncorrectable
  · rw [if_pos hflawed]
    exact Or.inr ⟨rfl, .flawed i hbelow hwrite htouched hflawed⟩
  rw [if_neg hflawed, hdc_complete_data_sector_eq hbelow hremaining]
  dsimp only
  by_cases hlast : t.count - (i + 1) = 0
  · rw [if_pos hlast]
    have hall : i + 1 = t.count := by omega
    exact Or.inr (ended_complete false (hall ▸ htouched))
  rw [if_neg hlast]
  have hmore : i + 1 < t.count := by omega
  have hcounted : StandsAt setup t { s with data := { s.data with
      sectors_remaining := t.count - (i + 1), sector_count := s.data.sector_count - 1 } }
      (t.start + i) := h.same served ⟨rfl, rfl, rfl, rfl, rfl, rfl, rfl⟩
  rcases hcounted.advance served hcapacity hmore with
    ⟨data', hadvance, ⟨number, low, high, head, hdata⟩, hnext⟩ | ⟨hadvance, hout⟩
  · rw [hadvance]
    dsimp only
    have hload := load_cases served hwrite hmore hnext (by exact htouched) hinside'
    rw [if_neg (by simp)]
    rcases hload with ⟨s', hload, hsame, hremaining', -, -, hcapacity', htouched'⟩ |
      ⟨hfailed, hended⟩
    · rw [hload]
      refine Or.inl ?_
      have hleft : s'.data.sectors_remaining = t.count - (i + 1) := by
        rw [hremaining', hdata]
      exact underway_read served hwrite hmore hnext hsame hcapacity' hinside' htouched'
        s'.data.sectors_remaining 0 hleft
    · rw [hfailed]
      exact Or.inr hended
  · rw [hadvance]
    exact Or.inr (ended_outside hmore (by exact htouched) hinside' hout)

/-- The loop of a verify command ends it. -/
theorem verify_loop_ended (served : t.Served setup) (hwrite : t.write = false) (left : ℕ) :
    ∀ {s : HdcState σ} {i : ℕ}, i + left = t.count → 0 < left →
      s.data.sectors_remaining = left → StandsAt setup t s (t.start + i) →
      (∀ j < i, t.view.Inside (t.start + j)) → s.touched = t.ledger i →
      Ended t (hdc_verify_loop setup left s) := by
  induction left with
  | zero => exact fun _ hpos => absurd hpos (Nat.lt_irrefl 0)
  | succ left ih =>
    intro s i hleft _ hremaining h hinside htouched
    have hbelow : i < t.count := by omega
    unfold hdc_verify_loop
    dsimp only
    rcases load_cases served hwrite hbelow h htouched hinside with
      ⟨s', hload, hsame, hremaining', -, -, hcapacity, htouched'⟩ | ⟨hfailed, hended⟩
    · have hinside' := all_inside (h.inside hcapacity) hinside
      rw [hload]
      dsimp only
      rw [if_neg (by simp), hdc_complete_data_sector_eq hbelow (by omega)]
      dsimp only
      by_cases hlast : t.count - (i + 1) = 0
      · rw [if_pos hlast]
        have hzero : left = 0 := by omega
        have hall : i + 1 = t.count := by omega
        rw [hzero]
        exact ended_complete true (by exact hall ▸ htouched')
      · rw [if_neg hlast]
        have hcounted : StandsAt setup t { s' with data := { s'.data with
            sectors_remaining := t.count - (i + 1), sector_count := s'.data.sector_count - 1 } }
            (t.start + i) := h.same served (hsame.trans ⟨rfl, rfl, rfl, rfl, rfl, rfl, rfl⟩)
        rcases hcounted.advance served hcapacity (by omega) with
          ⟨data', hadvance, ⟨number, low, high, head, hdata⟩, hnext⟩ | ⟨hadvance, hout⟩
        · rw [hadvance]
          dsimp only
          rw [if_neg (by simp)]
          refine ih (i := i + 1) (by omega) (by omega) ?_ hnext hinside' htouched'
          rw [hdata]
          dsimp only
          omega
        · rw [hadvance]
          exact ended_outside (by omega) (by exact htouched') hinside' hout
    · rw [hfailed]
      exact hended

/-! ## Writing -/

theorem write_status_busy {data : HdcData}
    (h : data.status = status_drdy ||| status_dsc ||| status_drq_request) : HdcBusy data := by
  unfold HdcBusy hdc_task_file_is_writable
  rw [h]
  rfl

theorem begin_write_cases (served : t.Served setup) (hwrite : t.write = true)
    (hcount : hdc_sectors_asked s.data = t.count) (hpos : 0 < t.count)
    (hlast : s.data.last_command = t.command) (h : StandsAt setup t s t.start)
    (htouched : s.touched = t.ledger 0) :
    Underway setup t (hdc_begin_write setup s) ∨ Ended t (hdc_begin_write setup s) := by
  have hresolve := h.resolve served
  rw [hwrite] at hresolve
  unfold hdc_begin_write
  rw [hresolve]
  by_cases hcapacity : t.start < hdc_sector_capacity t.info
  · rw [if_pos hcapacity]
    refine Or.inl ⟨write_status_busy rfl, .writing 0 (Or.inl rfl) hwrite hlast hpos hcount ?_ nofun
      htouched⟩
    exact h.same served ⟨rfl, rfl, rfl, rfl, rfl, rfl, rfl⟩
  · rw [if_neg hcapacity]
    exact Or.inr (ended_outside hpos htouched nofun (not_inside_of_capacity h hcapacity))

/-- A store adds its sector to the ledger, or ends the command. -/
theorem store_cases (served : t.Served setup) {i : ℕ} (hwrite : t.write = true)
    (hbelow : i < t.count) (h : StandsAt setup t s (t.start + i)) (htouched : s.touched = t.ledger i)
    (hinside : ∀ j < i, t.view.Inside (t.start + j)) :
    (∃ s', hdc_store_sector setup s = (true, s') ∧ s'.data = s.data ∧
        t.start + i < hdc_sector_capacity t.info ∧ s'.touched = t.ledger (i + 1)) ∨
      ((hdc_store_sector setup s).1 = false ∧ Ended t (hdc_store_sector setup s).2) := by
  have hresolve := h.resolve served
  rw [hwrite] at hresolve
  unfold hdc_store_sector
  rw [hresolve]
  by_cases hcapacity : t.start + i < hdc_sector_capacity t.info
  · rw [if_pos hcapacity]
    dsimp only
    rw [h.unit]
    generalize setup.write s.context t.unit (t.start + i) (hdc_stored_record setup s.data) =
      answer
    obtain ⟨result, context⟩ := answer
    dsimp only
    by_cases hok : result ≠ .ok
    · rw [if_pos hok]
      refine Or.inr ⟨rfl, rfl, .refused i result hbelow ?_ hok rfl⟩
      change s.touched ++ _ = _
      rw [htouched, hwrite]
    · rw [if_neg hok]
      rw [not_not] at hok
      subst hok
      refine Or.inl ⟨_, rfl, rfl, hcapacity, ?_⟩
      change s.touched ++ _ = _
      rw [t.ledger_succ, htouched, hwrite]
  · rw [if_neg hcapacity]
    exact Or.inr ⟨rfl, ended_outside hbelow htouched hinside (not_inside_of_capacity h hcapacity)⟩

theorem next_write_sector_cases (served : t.Served setup) {i : ℕ} (hwrite : t.write = true)
    (hlast : s.data.last_command = t.command) (hbelow : i < t.count)
    (hremaining : s.data.sectors_remaining = t.count - i)
    (h : StandsAt setup t s (t.start + i)) (hinside : ∀ j < i, t.view.Inside (t.start + j))
    (htouched : s.touched = t.ledger i) :
    Underway setup t (hdc_next_write_sector setup s) ∨
      Ended t (hdc_next_write_sector setup s) := by
  unfold hdc_next_write_sector
  dsimp only
  rcases store_cases served hwrite hbelow h htouched hinside with
    ⟨s', hstore, hdata, hcapacity, htouched'⟩ | ⟨hfailed, hended⟩
  · have hinside' := all_inside (h.inside hcapacity) hinside
    rw [hstore]
    dsimp only
    rw [if_neg (by simp), hdc_complete_data_sector_eq hbelow (by rw [hdata]; exact hremaining)]
    dsimp only
    by_cases hfinal : t.count - (i + 1) = 0
    · rw [if_pos hfinal]
      have hall : i + 1 = t.count := by omega
      exact Or.inr (ended_complete true (by exact hall ▸ htouched'))
    rw [if_neg hfinal]
    have hmore : i + 1 < t.count := by omega
    have hsame : SameAddress s.data s'.data := hdata ▸ .refl s.data
    have hcounted : StandsAt setup t { s' with data := { s'.data with
        sectors_remaining := t.count - (i + 1), sector_count := s'.data.sector_count - 1 } }
        (t.start + i) := h.same served (hsame.trans ⟨rfl, rfl, rfl, rfl, rfl, rfl, rfl⟩)
    rcases hcounted.advance served hcapacity hmore with
      ⟨data', hadvance, ⟨number, low, high, head, hdata'⟩, hnext⟩ | ⟨hadvance, hout⟩
    · refine Or.inl ?_
      rw [hadvance]
      dsimp only
      rw [if_neg (by simp)]
      refine ⟨write_status_busy rfl, .writing (i + 1) (Or.inl rfl) hwrite ?_ hmore ?_ ?_ hinside'
        htouched'⟩
      · change data'.last_command = t.command
        rw [hdata', ← hlast, ← hdata]
      · change data'.sectors_remaining = _
        rw [hdata']
      · exact hnext.same served ⟨rfl, rfl, rfl, rfl, rfl, rfl, rfl⟩
    · refine Or.inr ?_
      rw [hadvance]
      exact ended_outside hmore (by exact htouched') hinside' hout
  · rw [hfailed]
    exact Or.inr hended

/-! ## Runs -/

theorem hdc_sectors_asked_pos (data : HdcData) : 0 < hdc_sectors_asked data := by
  unfold hdc_sectors_asked
  split_ifs with h
  · decide
  · exact Nat.pos_of_ne_zero fun hzero => h (BitVec.eq_of_toNat_eq hzero)

/-- A command that transfers is executed: it begins, or it ends at once. -/
theorem execute_cases (served : t.Served setup)
    (haddressing : hdc_addresses setup.config s.data = true)
    (hcount : hdc_sectors_asked s.data = t.count) (h : StandsAt setup t s t.start)
    (htouched : s.touched = t.ledger 0) :
    Underway setup t (hdc_execute_command setup s t.command) ∨
      Ended t (hdc_execute_command setup s t.command) := by
  have hpos : 0 < t.count := hcount ▸ hdc_sectors_asked_pos s.data
  have htransfers := served.transfers
  have haccepted : ((!hdc_is_ata_pio setup.config && !hdc_is_wd setup.config &&
      !hdc_selected_master s.data) || (!hdc_is_wd setup.config && is_set s.data.drive_head 0x40 &&
        !setup.config.lba28_supported)) = false := by
    unfold hdc_addresses at haddressing
    rcases served.protocol with hata | hwd
    · rw [hata]
      revert haddressing
      cases hdc_is_wd setup.config <;> cases is_set s.data.drive_head 0x40 <;>
        cases setup.config.lba28_supported <;> simp
    · simp [hwd]
  have hstart : StandsAt setup t { s with data := { s.data with
      last_command := t.command, command_count := s.data.command_count + 1 } } t.start :=
    h.same served ⟨rfl, rfl, rfl, rfl, rfl, rfl, rfl⟩
  unfold hdc_execute_command
  dsimp only
  rw [if_neg (by exact Bool.eq_false_iff.mp haccepted)]
  unfold hdc_command_transfers at htransfers
  by_cases hread : hdc_command_is_read setup.config t.command = true
  · rw [if_pos hread] at htransfers ⊢
    exact begin_read_cases served (Option.some.inj htransfers).symm hcount hpos hstart htouched
  rw [if_neg hread] at htransfers ⊢
  by_cases hwrite : hdc_command_is_write setup.config t.command = true
  · rw [if_pos hwrite] at htransfers ⊢
    exact begin_write_cases served (Option.some.inj htransfers).symm hcount hpos rfl hstart htouched
  rw [if_neg hwrite] at htransfers ⊢
  by_cases hverify : t.command &&& 0xfe = 0x40
  · rw [if_pos hverify] at htransfers ⊢
    refine Or.inr (verify_loop_ended served (Option.some.inj htransfers).symm _ (i := 0) ?_
      (hdc_sectors_asked_pos _) rfl ?_ nofun htouched)
    · rw [Nat.zero_add]
      exact hcount
    · exact hstart.same served ⟨rfl, rfl, rfl, rfl, rfl, rfl, rfl⟩
  · rw [if_neg hverify] at htransfers
    cases htransfers

theorem Stage.same (served : t.Served setup) (h : Stage setup t s) {s' : HdcState σ}
    (same : SameCommand s s') : Stage setup t s' := by
  cases h with
  | waiting phase command addressing count at_start touched =>
    refine .waiting (same.phase.trans phase) (same.pending.trans command) ?_ ?_ ?_
      (same.touched.trans touched)
    · unfold hdc_addresses at addressing ⊢
      rw [same.restored.head]
      exact addressing
    · rw [← count]
      unfold hdc_sectors_asked hdc_restored
      rw [same.pending_count]
    · exact at_start.same served same.restored
  | reading i phase not_write below remaining at_sector resolves inside touched =>
    exact .reading i (same.phase ▸ phase) not_write below (same.remaining.trans remaining)
      (at_sector.same served same.address) resolves inside (same.touched.trans touched)
  | writing i phase writes last below remaining at_sector inside touched =>
    exact .writing i (same.phase ▸ phase) writes (same.last.trans last) below
      (same.remaining.trans remaining) (at_sector.same served same.address) inside
      (same.touched.trans touched)

theorem not_format (served : t.Served setup) (hwrite : t.write = true) : t.command ≠ 0x50 := by
  intro hformat
  have htransfers := served.transfers
  rw [hwrite, hformat] at htransfers
  unfold hdc_command_transfers hdc_command_is_read hdc_command_is_write at htransfers
  generalize hdc_is_wd setup.config = wd at htransfers
  revert wd
  decide

theorem not_xebec {config : HdcConfig}
    (h : hdc_is_ata_pio config = true ∨ hdc_is_wd config = true) :
    hdc_is_xebec_xt config = false := by
  unfold hdc_is_ata_pio hdc_is_wd hdc_is_compaq_wd_40mb hdc_is_ibm_wd1003 at h
  unfold hdc_is_xebec_xt
  cases hprotocol : config.protocol with
  | xebec_xt => simp [hprotocol] at h
  | _ => rfl

/-- What is due moves the command on, or ends it. -/
theorem service_cases (served : t.Served setup) (h : Underway setup t s) :
    Underway setup t (hdc_service setup s) ∨ Ended t (hdc_service setup s) := by
  have hxt := not_xebec served.protocol
  unfold hdc_service
  rw [if_neg (by rw [hxt]; simp)]
  cases h.stage with
  | waiting phase command addressing count at_start touched =>
    rw [phase]
    dsimp only
    have hexecute : hdc_execute_pending setup s =
        hdc_execute_command setup { s with data := hdc_restored s.data } t.command := by
      rw [← command]
      rfl
    rw [hexecute]
    exact execute_cases served addressing count at_start touched
  | reading i phase not_write below remaining at_sector resolves inside touched =>
    rcases phase with phase | phase
    · rw [phase]
      exact Or.inl h
    · rw [phase]
      exact next_read_sector_cases served not_write below remaining at_sector resolves inside
        touched
  | writing i phase writes last below remaining at_sector inside touched =>
    rcases phase with phase | phase
    · rw [phase]
      exact Or.inl h
    · rw [phase]
      dsimp only
      rw [if_neg (last ▸ not_format served writes)]
      exact next_write_sector_cases served writes last below remaining at_sector inside touched

/-- A call of the host keeps the command underway, or ends it. -/
theorem Underway.step (served : t.Served setup) (h : Underway setup t s) {s' : HdcState σ}
    (step : HostStep setup s s') : Underway setup t s' ∨ Ended t s' := by
  have hbusy {s' : HdcState σ} (same : SameCommand s s') : HdcBusy s'.data := by
    have hbusy := h.busy
    unfold HdcBusy hdc_task_file_is_writable at hbusy ⊢
    rw [same.status]
    exact hbusy
  cases step with
  | quiet same => exact Or.inl ⟨hbusy same, h.stage.same served same⟩
  | due same => exact service_cases served ⟨hbusy same, h.stage.same served same⟩
  | drained before same after busy =>
    cases h.stage with
    | waiting phase =>
      rw [before] at phase
      cases phase
    | reading i phase not_write below remaining at_sector resolves inside touched =>
      exact Or.inl ⟨busy, .reading i (Or.inr after) not_write below (same.remaining.trans remaining)
        (at_sector.same served same.address) resolves inside (same.touched.trans touched)⟩
    | writing i phase =>
      rw [before] at phase
      rcases phase with phase | phase <;> cases phase
  | filled before same after busy =>
    cases h.stage with
    | waiting phase =>
      rw [before] at phase
      cases phase
    | reading i phase =>
      rw [before] at phase
      rcases phase with phase | phase <;> cases phase
    | writing i phase writes last below remaining at_sector inside touched =>
      exact Or.inl ⟨busy, .writing i (Or.inr after) writes (same.last.trans last) below
        (same.remaining.trans remaining) (at_sector.same served same.address) inside
        (same.touched.trans touched)⟩

/-- The ledger holds the first sectors of the command, each once and in their order. -/
def InOrder (t : HdcTransfer) (s : HdcState σ) : Prop := ∃ i ≤ t.count, s.touched = t.ledger i

theorem Underway.in_order (h : Underway setup t s) : InOrder t s := by
  cases h.stage with
  | waiting phase command addressing count at_start touched => exact ⟨0, Nat.zero_le _, touched⟩
  | reading i phase not_write below remaining at_sector resolves inside touched =>
    exact ⟨i + 1, below, touched⟩
  | writing i phase writes last below remaining at_sector inside touched =>
    exact ⟨i, below.le, touched⟩

/-- A run of host calls: in order to its end, or to the end of the command. -/
theorem run_transfer (served : t.Served setup) (hxt : hdc_is_xebec_xt setup.config = false)
    (ops : List HdcOp) (hops : ∀ op ∈ ops, op.Hosts) (h : Underway setup t s) :
    (∀ k ≤ ops.length, InOrder t ((ops.take k).foldl (hdc_apply setup) s)) ∨
      ∃ k ≤ ops.length, Ended t ((ops.take k).foldl (hdc_apply setup) s) ∧
        ∀ j < k, InOrder t ((ops.take j).foldl (hdc_apply setup) s) := by
  induction ops generalizing s with
  | nil =>
    refine Or.inl fun k _ => ?_
    rw [List.take_nil]
    exact h.in_order
  | cons op ops ih =>
    have hstep := hdc_apply_step hxt h.busy (hops op (List.mem_cons_self ..))
    rcases h.step served hstep with hunderway | hended
    · rcases ih (fun op hop => hops op (List.mem_cons_of_mem _ hop)) hunderway with
        hall | ⟨k, hk, hended, hbefore⟩
      · refine Or.inl fun k hk => ?_
        cases k with
        | zero => exact h.in_order
        | succ k => exact hall k (Nat.le_of_succ_le_succ hk)
      · refine Or.inr ⟨k + 1, Nat.succ_le_succ hk, hended, fun j hj => ?_⟩
        cases j with
        | zero => exact h.in_order
        | succ j => exact hbefore j (Nat.lt_of_succ_lt_succ hj)
    · refine Or.inr ⟨1, by simp, hended, fun j hj => ?_⟩
      obtain rfl : j = 0 := by omega
      exact h.in_order

/-- The command the host writes, with the address in the task file. -/
def hdc_transfer_of (config : HdcConfig) (s : HdcState σ) (info : HdcMedium) (command : U8)
    (write : Bool) (start : ℕ) : HdcTransfer :=
  { info
    unit := hdc_selected_unit s.data
    view := hdc_view config s.data info
    command
    write
    start
    count := hdc_sectors_asked s.data
    before := s.touched }

/-- A command that is taken is underway. -/
theorem capture_underway {info : HdcMedium} {command : U8} {write : Bool} {start : ℕ}
    (hready : hdc_task_file_is_writable s.data = true) (hreset : s.data.reset_asserted = false)
    (haddressing : hdc_addresses setup.config s.data = true)
    (served : (hdc_transfer_of setup.config s info command write start).Served setup)
    (hdrive : Drive setup s info) (hdenotes : Denotes setup.config s.data info start) :
    Underway setup (hdc_transfer_of setup.config s info command write start)
      (hdc_capture_command setup s command) := by
  unfold hdc_capture_command
  rw [if_neg (by rw [hreset, hready]; simp)]
  refine ⟨busy_of_status rfl, .waiting rfl rfl haddressing rfl ?_ ?_⟩
  · exact StandsAt.same (s := s) served ⟨hdrive, ⟨start, hdenotes, Or.inl rfl⟩, rfl, rfl⟩
      ⟨rfl, rfl, rfl, rfl, rfl, rfl, rfl⟩
  · rw [HdcTransfer.ledger_zero]
    rfl

end Setup

/-- A drive of 16 heads with 17 sectors a track, blank. -/
def hdc_medium_16_heads : HdcMedium :=
  { geometry :=
      { logical_sector_count := 272 * 1024, bytes_per_sector := 512, cylinders := 1024, heads := 16
        sectors_per_track := 17 }
    present := true, read_only := false, geometry_known := true }

/-- A controller with that drive as either unit. -/
def hdc_with_16_heads (protocol : HdcProtocol) : HdcSetup Unit where
  config :=
    { protocol, lba28_supported := false, command_ticks := 0, next_sector_ticks := 0
      step_ticks := Vector.replicate 16 0
      xebec_geometry := hdc_medium_16_heads.geometry }
  query _ _ := (.ok, hdc_medium_16_heads)
  read _ _ _ := (.ok, hdc_record_zero, ())
  write _ _ _ _ := (.ok, ())
  format_track _ _ _ := (.ok, ())

/-- Two sectors from the last one of head 7 on. -/
def hdc_behind_head_7 : List HdcOp :=
  [.write .sector_count 2, .write .sector_number 17, .write .drive_head 0xa7]

/-- The task file written, but no command yet. -/
def hdc_asked (protocol : HdcProtocol) : HdcState Unit :=
  hdc_behind_head_7.foldl (hdc_apply (hdc_with_16_heads protocol))
    (hdc_create (hdc_with_16_heads protocol) ())

end Nxvm.Chips
