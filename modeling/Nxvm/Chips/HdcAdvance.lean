/-
Advancing the sector address, carry by carry.

An address in cylinders, heads and sectors carries from the sector to the head behind the
last sector of a track, or behind sector 255, and from the head to the cylinder behind the
last head. What the registers read back as afterwards is the next sector of the drive unless
the address was at an edge, and at an edge it never is.
-/
import Nxvm.Chips.HdcAddress

set_option autoImplicit false

namespace Nxvm.Chips

open Nxvm.Lib Nxvm.Lib.Register Nxvm.Machine

/-! ## Cylinders, heads and sectors -/

/-- The parts of an address are those of its sector. -/
theorem chs_parts {cylinder head number heads sectors sector : ℕ} (hhead : head < heads)
    (hpos : 0 < number) (hnumber : number ≤ sectors)
    (haddress : (cylinder * heads + head) * sectors + (number - 1) = sector) :
    sector % sectors + 1 = number ∧ sector / sectors % heads = head ∧
      sector / sectors / heads = cylinder := by
  have hsectors : 0 < sectors := by omega
  have htrack : sector / sectors = cylinder * heads + head := by
    rw [← haddress, Nat.add_comm, Nat.add_mul_div_right _ _ hsectors,
      Nat.div_eq_of_lt (by omega), Nat.zero_add]
  have hwithin : sector % sectors = number - 1 := by
    rw [← haddress, Nat.add_comm, Nat.add_mul_mod_self_right, Nat.mod_eq_of_lt (by omega)]
  refine ⟨by omega, ?_, ?_⟩
  · rw [htrack, Nat.add_comm, Nat.add_mul_mod_self_right, Nat.mod_eq_of_lt hhead]
  · rw [htrack, Nat.add_comm, Nat.add_mul_div_right _ _ (by omega), Nat.div_eq_of_lt hhead,
      Nat.zero_add]

/-- Behind the last sector of a track begins the next one. -/
theorem next_track (track sectors : ℕ) (hpos : 0 < sectors) :
    track * sectors + (sectors - 1) + 1 = (track + 1) * sectors := by
  rw [Nat.add_mul, Nat.one_mul]
  omega

/-- An address within its bounds is within the drive. -/
theorem chs_address_inside {cylinder head number cylinders heads sectors : ℕ}
    (hcylinder : cylinder < cylinders) (hhead : head < heads) (hnumber : number ≤ sectors) :
    (cylinder * heads + head) * sectors + number ≤ cylinders * heads * sectors := by
  have htracks : cylinder * heads + head + 1 ≤ cylinders * heads := by
    have hle := Nat.mul_le_mul_right heads (Nat.succ_le_of_lt hcylinder)
    rw [Nat.succ_mul] at hle
    omega
  have hle := Nat.mul_le_mul_right sectors htracks
  rw [Nat.succ_mul] at hle
  omega

theorem U8.succ_eq_zero {x : U8} : x + 1 = 0 ↔ x.toNat = 255 := by
  rw [← BitVec.toNat_inj, BitVec.toNat_add]
  have hx := x.isLt
  change (x.toNat + 1) % 256 = 0 ↔ _
  omega

theorem U8.toNat_succ {x : U8} (h : x.toNat ≠ 255) : (x + 1).toNat = x.toNat + 1 := by
  rw [BitVec.toNat_add]
  have hx := x.isLt
  exact Nat.mod_eq_of_lt (by change x.toNat + 1 < 256; omega)

theorem U16.toNat_succ {x : U16} (h : x.toNat ≠ 65535) : (x + 1).toNat = x.toNat + 1 := by
  rw [BitVec.toNat_add]
  have hx := x.isLt
  exact Nat.mod_eq_of_lt (by change x.toNat + 1 < 65536; omega)

section Setup

variable {σ : Type} {setup : HdcSetup σ} {s : HdcState σ} {info : HdcMedium} {sector : ℕ}

/-- The address in the task file, where it is in cylinders, heads and sectors. -/
theorem Denotes.chs {config : HdcConfig} {data : HdcData}
    (h : Denotes config data info sector) (hchs : hdc_lba_mode config data = false) :
    (hdc_cylinder data).toNat < (hdc_view config data info).cylinders ∧
      (hdc_current_head config data).toNat < (hdc_view config data info).heads ∧
      0 < data.sector_number.toNat ∧
      data.sector_number.toNat ≤ (hdc_view config data info).sectors ∧
      ((hdc_cylinder data).toNat * (hdc_view config data info).heads +
        (hdc_current_head config data).toNat) * (hdc_view config data info).sectors +
          (data.sector_number.toNat - 1) = sector := by
  unfold Denotes at h
  dsimp only at h
  rw [show (hdc_view config data info).lba = false from hchs, if_neg Bool.false_ne_true] at h
  exact h

/-- The address moved denotes what its parts say. -/
theorem denotes_move (hchs : hdc_lba_mode setup.config s.data = false) (number : U8)
    (cylinder : U16) {head : U8} (hhead16 : head.toNat < 16)
    (hcylinder : cylinder.toNat < (hdc_view setup.config s.data info).cylinders)
    (hpos : 0 < number.toNat)
    (hnumber : number.toNat ≤ (hdc_view setup.config s.data info).sectors) {read : ℕ}
    (hread : (if (hdc_view setup.config s.data info).narrow then head &&& 0x07
      else head).toNat = read)
    (hheads : read < (hdc_view setup.config s.data info).heads) :
    Denotes setup.config (hdc_move s.data number cylinder head) info
      ((cylinder.toNat * (hdc_view setup.config s.data info).heads + read) *
        (hdc_view setup.config s.data info).sectors + (number.toNat - 1)) := by
  unfold Denotes
  dsimp only
  rw [(hdc_view_move setup.config s.data info hhead16 number cylinder).1,
    show (hdc_view setup.config s.data info).lba = false from hchs, if_neg Bool.false_ne_true,
    hdc_cylinder_move, hdc_current_head_move setup.config s.data info hhead16, hread]
  exact ⟨hcylinder, hheads, hpos, hnumber, rfl⟩

/-- The drive is the same for another address on it. -/
theorem Drive.same (h : Drive setup s info) (data : HdcData)
    (hview : hdc_view setup.config data info = hdc_view setup.config s.data info)
    (hunit : hdc_selected_unit data = hdc_selected_unit s.data)
    (hheads : data.drive_heads = s.data.drive_heads)
    (hsectors : data.drive_sectors_per_track = s.data.drive_sectors_per_track) :
    Drive setup { s with data } info := by
  have hlba : hdc_lba_mode setup.config data = hdc_lba_mode setup.config s.data :=
    congrArg HdcView.lba hview
  refine ⟨h.protocol, ?_, h.present, h.bytes, ?_, ?_⟩
  · rw [← h.medium]
    unfold hdc_media_info
    rw [hunit]
  · have htranslated := h.translated
    simp only [hlba, hunit, hheads, hsectors]
    exact htranslated
  · rw [hlba, hview]
    exact h.heads

/-! ## One step -/

theorem hdc_advance_in_track (h : Drive setup s info)
    (hdenotes : Denotes setup.config s.data info sector)
    (hchs : hdc_lba_mode setup.config s.data = false) (h255 : s.data.sector_number.toNat ≠ 255)
    (hlt : s.data.sector_number.toNat < (hdc_view setup.config s.data info).sectors) :
    hdc_advance_chs setup s = (true, { s with
      data := hdc_move s.data (s.data.sector_number + 1) (hdc_cylinder s.data)
        (hdc_current_head setup.config s.data) }) := by
  obtain ⟨hcylinder, -, -, -, -⟩ := hdenotes.chs hchs
  have hcarry : (decide (s.data.sector_number + 1 = 0) || decide
      ((hdc_view setup.config s.data info).sectors < (s.data.sector_number + 1).toNat)) =
        false := by
    rw [U8.toNat_succ h255]
    simp only [U8.succ_eq_zero, h255, decide_false, Bool.false_or, decide_eq_false_iff_not]
    omega
  unfold hdc_view at hcarry hcylinder
  dsimp only at hcarry hcylinder
  unfold hdc_advance_chs
  rw [h.medium]
  dsimp only
  rw [if_neg (by simp [h.present])]
  simp only [hcarry, Bool.false_and, Bool.false_eq_true, if_false]
  rw [if_neg (Nat.not_le.mpr hcylinder)]
  rfl

/-- The sector carries behind the last one of the track, and behind 255. -/
theorem carry_sector (hnumber : s.data.sector_number.toNat =
      (hdc_view setup.config s.data info).sectors ∨ s.data.sector_number.toNat = 255) :
    (decide (s.data.sector_number + 1 = 0) || decide
      ((hdc_view setup.config s.data info).sectors < (s.data.sector_number + 1).toNat)) =
        true := by
  by_cases h255 : s.data.sector_number.toNat = 255
  · rw [decide_eq_true (U8.succ_eq_zero.mpr h255), Bool.true_or]
  · rw [U8.toNat_succ h255, hnumber.resolve_right h255, decide_eq_true (Nat.lt_succ_self _),
      Bool.or_true]

theorem hdc_advance_next_head (h : Drive setup s info)
    (hdenotes : Denotes setup.config s.data info sector)
    (hchs : hdc_lba_mode setup.config s.data = false)
    (hnumber : s.data.sector_number.toNat = (hdc_view setup.config s.data info).sectors ∨
      s.data.sector_number.toNat = 255)
    (hhead : (hdc_current_head setup.config s.data).toNat + 1 <
      (hdc_view setup.config s.data info).heads) :
    hdc_advance_chs setup s = (true, { s with
      data := hdc_move s.data 1 (hdc_cylinder s.data)
        (hdc_current_head setup.config s.data + 1) }) := by
  obtain ⟨hcylinder, -, -, -, -⟩ := hdenotes.chs hchs
  have hhead255 : (hdc_current_head setup.config s.data).toNat ≠ 255 := by
    have hlt := (hdc_current_head_lt setup.config s.data info).1
    omega
  have hcarry := carry_sector hnumber
  unfold hdc_view at hcarry hcylinder hhead
  dsimp only at hcarry hcylinder hhead
  unfold hdc_advance_chs
  rw [h.medium]
  dsimp only
  rw [if_neg (by simp [h.present])]
  simp only [hcarry, Bool.true_and, U8.toNat_succ hhead255, decide_eq_true_eq,
    Nat.not_le.mpr hhead, if_true, if_false]
  rw [if_neg (Nat.not_le.mpr hcylinder)]
  rfl

theorem hdc_advance_next_cylinder (h : Drive setup s info)
    (hnumber : s.data.sector_number.toNat = (hdc_view setup.config s.data info).sectors ∨
      s.data.sector_number.toNat = 255)
    (hhead : (hdc_current_head setup.config s.data).toNat + 1 =
      (hdc_view setup.config s.data info).heads) :
    hdc_advance_chs setup s =
      if (hdc_view setup.config s.data info).cylinders ≤ (hdc_cylinder s.data + 1).toNat then
        (false, hdc_fail setup s error_id_not_found)
      else (true, { s with data := hdc_move s.data 1 (hdc_cylinder s.data + 1) 0 }) := by
  have hhead255 : (hdc_current_head setup.config s.data).toNat ≠ 255 := by
    have hlt := (hdc_current_head_lt setup.config s.data info).1
    omega
  have hcarry := carry_sector hnumber
  unfold hdc_view at hcarry hhead ⊢
  dsimp only at hcarry hhead ⊢
  unfold hdc_advance_chs
  rw [h.medium]
  dsimp only
  rw [if_neg (by simp [h.present])]
  simp only [hcarry, Bool.true_and, U8.toNat_succ hhead255, decide_eq_true_eq,
    hhead.ge, if_true]
  rfl

theorem hdc_advance_sector_chs (hchs : hdc_lba_mode setup.config s.data = false) :
    hdc_advance_sector setup s = hdc_advance_chs setup s := by
  rw [hdc_advance_sector, hchs, if_neg Bool.false_ne_true]

theorem hdc_advance_lba_eq (h : Drive setup s info)
    (hlba : hdc_lba_mode setup.config s.data = true) :
    hdc_advance_sector setup s =
      if hdc_sector_capacity info ≤ (hdc_lba s.data).toNat + 1 then
        (false, hdc_fail setup s error_id_not_found)
      else (true, { s with data := hdc_move_lba s.data (hdc_lba s.data + 1) }) := by
  have hlt := hdc_lba_lt s.data
  have hsucc : (hdc_lba s.data + 1).toNat = (hdc_lba s.data).toNat + 1 := by
    rw [BitVec.toNat_add]
    exact Nat.mod_eq_of_lt (by change _ + 1 < 2 ^ 32; omega)
  rw [hdc_advance_sector, if_pos hlba, hdc_advance_lba, h.medium]
  dsimp only
  rw [if_neg (by simp [h.present]), hsucc]
  rfl

/-! ## The next sector -/

/-- The address in the task file resolves to this sector, or to none where the drive does not
go that far. -/
def Aims (setup : HdcSetup σ) (data : HdcData) (info : HdcMedium) (sector : ℕ) : Prop :=
  ∃ denoted, Denotes setup.config data info denoted ∧
    (denoted = sector ∨ (hdc_sector_capacity info ≤ sector ∧ hdc_sector_capacity info ≤ denoted))

theorem Aims.resolve (h : Drive setup s info) (haims : Aims setup s.data info sector)
    (write_to_media : Bool) (hwrite : write_to_media = true → info.read_only = false) :
    hdc_resolve_sector setup s write_to_media =
      if sector < hdc_sector_capacity info then (some sector, s)
      else (none, hdc_fail setup s error_id_not_found) := by
  obtain ⟨denoted, hdenotes, rfl | ⟨hsector, hdenoted⟩⟩ := haims
  · exact hdc_resolve_sector_eq h hdenotes write_to_media hwrite
  · rw [hdc_resolve_sector_eq h hdenotes write_to_media hwrite, if_neg (Nat.not_lt.mpr hsector),
      if_neg (Nat.not_lt.mpr hdenoted)]

/-- Where the drive goes that far the address denotes the sector. -/
theorem Aims.denotes (haims : Aims setup s.data info sector)
    (hcapacity : sector < hdc_sector_capacity info) :
    Denotes setup.config s.data info sector := by
  obtain ⟨denoted, hdenotes, rfl | ⟨hsector, -⟩⟩ := haims
  · exact hdenotes
  · exact absurd hcapacity (Nat.not_lt.mpr hsector)

/-- Only the address is another one. -/
structure OnlyAddress (config : HdcConfig) (info : HdcMedium) (data data' : HdcData) : Prop where
  rest : ∃ number low high head, data' = { data with
    sector_number := number, cylinder_low := low, cylinder_high := high, drive_head := head }
  view : hdc_view config data' info = hdc_view config data info
  unit : hdc_selected_unit data' = hdc_selected_unit data

theorem only_address_move (config : HdcConfig) (data : HdcData) (info : HdcMedium) {head : U8}
    (h : head.toNat < 16) (number : U8) (cylinder : U16) :
    OnlyAddress config info data (hdc_move data number cylinder head) :=
  ⟨⟨_, _, _, _, rfl⟩, (hdc_view_move config data info h number cylinder).1,
    (hdc_view_move config data info h number cylinder).2⟩

/-- The edges of a drive with cylinders, in the registers. -/
theorem edge_chs (hdenotes : Denotes setup.config s.data info sector)
    (hchs : hdc_lba_mode setup.config s.data = false) :
    (hdc_view setup.config s.data info).Edge sector ↔
      (s.data.sector_number.toNat = 255 ∧ 255 < (hdc_view setup.config s.data info).sectors ∧
        sector + 1 < hdc_sector_capacity info) ∨
      ((s.data.sector_number.toNat = (hdc_view setup.config s.data info).sectors ∨
          s.data.sector_number.toNat = 255) ∧
        (((hdc_view setup.config s.data info).narrow = true ∧
            (hdc_current_head setup.config s.data).toNat = 7 ∧
            8 < (hdc_view setup.config s.data info).heads) ∨
          ((hdc_current_head setup.config s.data).toNat + 1 =
              (hdc_view setup.config s.data info).heads ∧
            (hdc_cylinder s.data).toNat = 65535 ∧
            65536 ≤ (hdc_view setup.config s.data info).cylinders))) := by
  obtain ⟨-, hhead, hpos, hnumber, haddress⟩ := hdenotes.chs hchs
  obtain ⟨hn, hh, hc⟩ := chs_parts hhead hpos hnumber haddress
  unfold HdcView.Edge
  dsimp only
  rw [if_neg (by rw [show (hdc_view setup.config s.data info).lba = false from hchs]; simp), hn, hh,
    hc]
  rfl

/-- What a step of the address comes to: the next sector, or the end of the drive. -/
def Steps (setup : HdcSetup σ) (s : HdcState σ) (info : HdcMedium) (sector : ℕ)
    (advanced : Bool × HdcState σ) : Prop :=
  (∃ data', advanced = (true, { s with data := data' }) ∧
      OnlyAddress setup.config info s.data data' ∧ Aims setup data' info (sector + 1)) ∨
    (advanced = (false, hdc_fail setup s error_id_not_found) ∧
      ¬ (hdc_view setup.config s.data info).Inside (sector + 1))

section Chs

variable (h : Drive setup s info) (hdenotes : Denotes setup.config s.data info sector)
  (hchs : hdc_lba_mode setup.config s.data = false)
  (hedge : ¬ (hdc_view setup.config s.data info).Edge sector)

include hdenotes hchs hedge

/-- The sector behind a carry is the next one, or one that is not on the drive either. -/
theorem carried (hlast : s.data.sector_number.toNat =
      (hdc_view setup.config s.data info).sectors ∨ s.data.sector_number.toNat = 255)
    {track : ℕ} (htrack : track = (hdc_cylinder s.data).toNat *
      (hdc_view setup.config s.data info).heads +
        (hdc_current_head setup.config s.data).toNat + 1) :
    track * (hdc_view setup.config s.data info).sectors = sector + 1 ∨
      (hdc_sector_capacity info ≤ sector + 1 ∧
        hdc_sector_capacity info ≤ track * (hdc_view setup.config s.data info).sectors) := by
  rw [edge_chs hdenotes hchs] at hedge
  obtain ⟨-, -, hpos, hnumber, haddress⟩ := hdenotes.chs hchs
  subst htrack
  generalize hdc_view setup.config s.data info = view at *
  have hnext := next_track ((hdc_cylinder s.data).toNat * view.heads +
    (hdc_current_head setup.config s.data).toNat) view.sectors (by omega)
  by_cases heq : s.data.sector_number.toNat = view.sectors
  · rw [heq] at haddress
    exact Or.inl (by omega)
  · have h255 := hlast.resolve_left heq
    have hcapacity : hdc_sector_capacity info ≤ sector + 1 := by
      by_contra hlt
      exact hedge (Or.inl ⟨h255, by omega, by omega⟩)
    exact Or.inr ⟨hcapacity, by omega⟩

include h

theorem steps_next_head (hlast : s.data.sector_number.toNat =
      (hdc_view setup.config s.data info).sectors ∨ s.data.sector_number.toNat = 255)
    (hnext : (hdc_current_head setup.config s.data).toNat + 1 <
      (hdc_view setup.config s.data info).heads) :
    Steps setup s info sector (hdc_advance_chs setup s) := by
  have hadvance := hdc_advance_next_head h hdenotes hchs hlast hnext
  have hcarried := carried hdenotes hchs hedge hlast rfl
  rw [edge_chs hdenotes hchs] at hedge
  obtain ⟨hcylinder, -, hpos, hnumber, -⟩ := hdenotes.chs hchs
  obtain ⟨-, hhead8⟩ := hdc_current_head_lt setup.config s.data info
  have hheads := h.heads hchs
  have hsucc : (hdc_current_head setup.config s.data + 1).toNat =
      (hdc_current_head setup.config s.data).toNat + 1 := U8.toNat_succ (by omega)
  have hsucc16 : (hdc_current_head setup.config s.data + 1).toNat < 16 := by omega
  have hread : (if (hdc_view setup.config s.data info).narrow then
      (hdc_current_head setup.config s.data + 1) &&& 0x07
    else hdc_current_head setup.config s.data + 1).toNat =
      (hdc_current_head setup.config s.data).toNat + 1 := by
    rw [← hsucc]
    split_ifs with hnarrow
    · -- head 8 would read back as head 0
      have h7 : (hdc_current_head setup.config s.data).toNat ≠ 7 := fun h7 =>
        hedge (Or.inr ⟨hlast, Or.inl ⟨hnarrow, h7, by omega⟩⟩)
      have hlt8 := hhead8 hnarrow
      rw [Bits.and_low_toNat _ 0x07 3 (by decide), Nat.mod_eq_of_lt (by omega)]
    · rfl
  refine Or.inl ⟨_, hadvance, only_address_move _ _ _ hsucc16 _ _, ?_⟩
  exact ⟨_, denotes_move hchs 1 _ hsucc16 hcylinder (by decide)
    (hpos.trans_le hnumber) hread hnext, hcarried⟩

theorem steps_next_cylinder (hlast : s.data.sector_number.toNat =
      (hdc_view setup.config s.data info).sectors ∨ s.data.sector_number.toNat = 255)
    (hhead : (hdc_current_head setup.config s.data).toNat + 1 =
      (hdc_view setup.config s.data info).heads) :
    Steps setup s info sector (hdc_advance_chs setup s) := by
  have hadvance := hdc_advance_next_cylinder h hlast hhead
  obtain ⟨hcylinder, -, hpos, hnumber, -⟩ := hdenotes.chs hchs
  have htracks : ((hdc_cylinder s.data).toNat + 1) * (hdc_view setup.config s.data info).heads =
      (hdc_cylinder s.data).toNat * (hdc_view setup.config s.data info).heads +
        (hdc_current_head setup.config s.data).toNat + 1 := by
    rw [Nat.add_mul, Nat.one_mul, ← hhead, Nat.add_assoc]
  have hcarried := carried hdenotes hchs hedge hlast htracks
  rw [edge_chs hdenotes hchs] at hedge
  have h65535 : (hdc_cylinder s.data).toNat ≠ 65535 := fun h65535 =>
    hedge (Or.inr ⟨hlast, Or.inr ⟨hhead, h65535, by omega⟩⟩)
  have hsucc := U16.toNat_succ h65535
  by_cases hend : (hdc_view setup.config s.data info).cylinders ≤
      (hdc_cylinder s.data).toNat + 1
  · rw [if_pos (hsucc ▸ hend)] at hadvance
    refine Or.inr ⟨hadvance, fun hinside => ?_⟩
    have hlt := hinside.2 hchs
    have hle := Nat.mul_le_mul_right (hdc_view setup.config s.data info).sectors
      (Nat.mul_le_mul_right (hdc_view setup.config s.data info).heads hend)
    rcases hcarried with heq | ⟨hout, -⟩
    · omega
    · exact absurd hinside.1 (Nat.not_lt.mpr hout)
  · rw [if_neg (hsucc ▸ hend)] at hadvance
    have hread : (if (hdc_view setup.config s.data info).narrow then (0 : U8) &&& 0x07
        else 0).toNat = 0 := by
      split_ifs <;> rfl
    refine Or.inl ⟨_, hadvance, only_address_move _ _ _ (by decide) _ _, ?_⟩
    have hmoved := denotes_move (s := s) hchs 1 (hdc_cylinder s.data + 1) (by decide) (by omega)
      (by decide) (hpos.trans_le hnumber) hread (by omega)
    rw [hsucc] at hmoved
    exact ⟨_, hmoved, hcarried⟩

omit hedge in
theorem steps_in_track (hlt : s.data.sector_number.toNat <
      (hdc_view setup.config s.data info).sectors) (h255 : s.data.sector_number.toNat ≠ 255) :
    Steps setup s info sector (hdc_advance_chs setup s) := by
  have hadvance := hdc_advance_in_track h hdenotes hchs h255 hlt
  obtain ⟨hcylinder, hhead, hpos, -, haddress⟩ := hdenotes.chs hchs
  obtain ⟨hhead16, hhead8⟩ := hdc_current_head_lt setup.config s.data info
  have hread : (if (hdc_view setup.config s.data info).narrow then
      hdc_current_head setup.config s.data &&& 0x07
    else hdc_current_head setup.config s.data).toNat =
      (hdc_current_head setup.config s.data).toNat := by
    split_ifs with hnarrow
    · rw [Bits.and_low_toNat _ 0x07 3 (by decide)]
      exact Nat.mod_eq_of_lt (hhead8 hnarrow)
    · rfl
  have hsucc := U8.toNat_succ h255
  refine Or.inl ⟨_, hadvance, only_address_move _ _ _ hhead16 _ _, ?_⟩
  refine ⟨_, denotes_move hchs _ _ hhead16 hcylinder
    (by omega) (by omega) hread hhead, Or.inl ?_⟩
  rw [hsucc]
  omega

theorem steps_chs : Steps setup s info sector (hdc_advance_chs setup s) := by
  obtain ⟨-, hhead, -, hnumber, -⟩ := hdenotes.chs hchs
  by_cases hlast : s.data.sector_number.toNat = (hdc_view setup.config s.data info).sectors ∨
      s.data.sector_number.toNat = 255
  · by_cases hnext : (hdc_current_head setup.config s.data).toNat + 1 <
        (hdc_view setup.config s.data info).heads
    · exact steps_next_head h hdenotes hchs hedge hlast hnext
    · exact steps_next_cylinder h hdenotes hchs hedge hlast (by omega)
  · rw [not_or] at hlast
    exact steps_in_track h hdenotes hchs (by omega) hlast.2

end Chs

theorem steps_lba (h : Drive setup s info) (hdenotes : Denotes setup.config s.data info sector)
    (hlba : hdc_lba_mode setup.config s.data = true)
    (hedge : ¬ (hdc_view setup.config s.data info).Edge sector) :
    Steps setup s info sector (hdc_advance_sector setup s) := by
  have hview : (hdc_view setup.config s.data info).lba = true := hlba
  unfold Denotes at hdenotes
  dsimp only at hdenotes
  rw [if_pos hview] at hdenotes
  unfold HdcView.Edge at hedge
  rw [if_pos hview] at hedge
  have hlt := hdc_lba_lt s.data
  rw [hdc_advance_lba_eq h hlba, hdenotes]
  by_cases hend : hdc_sector_capacity info ≤ sector + 1
  · rw [if_pos hend]
    exact Or.inr ⟨rfl, fun hinside => absurd hinside.1 (Nat.not_lt.mpr hend)⟩
  · rw [if_neg hend]
    have hfits : sector + 1 < 2 ^ 28 :=
      lt_of_le_of_ne (by omega) fun heq => hedge ⟨heq, Nat.not_le.mp hend⟩
    have hsucc : (hdc_lba s.data + 1).toNat = sector + 1 := by
      rw [BitVec.toNat_add, hdenotes]
      exact Nat.mod_eq_of_lt (hfits.trans (by decide))
    have hnibble : ((hdc_lba s.data + 1) >>> 24).toNat < 16 := by
      rw [BitVec.toNat_ushiftRight, hsucc, Nat.shiftRight_eq_div_pow]
      omega
    have hnibble8 : (((hdc_lba s.data + 1) >>> 24).setWidth 8 : U8).toNat < 16 := by
      rw [BitVec.toNat_setWidth]
      exact (Nat.mod_le _ _).trans_lt hnibble
    obtain ⟨hsame, hunit⟩ := hdc_view_same setup.config s.data info
      (hdc_move_lba s.data (hdc_lba s.data + 1))
      (Bits.and_replaced_outside _ _ _ (high_nibble_eq_zero hnibble8)) rfl rfl rfl
    refine Or.inl ⟨_, rfl, ⟨⟨_, _, _, _, rfl⟩, hsame, hunit⟩, sector + 1, ?_, Or.inl rfl⟩
    unfold Denotes
    dsimp only
    rw [hsame, if_pos hview, hdc_lba_move s.data (by omega), hsucc]

/-- Away from the edges a step leads to the next sector, or stops where the drive ends. -/
theorem hdc_advance_sector_steps (h : Drive setup s info)
    (hdenotes : Denotes setup.config s.data info sector)
    (hedge : ¬ (hdc_view setup.config s.data info).Edge sector) :
    Steps setup s info sector (hdc_advance_sector setup s) := by
  by_cases hlba : hdc_lba_mode setup.config s.data = true
  · exact steps_lba h hdenotes hlba hedge
  · rw [hdc_advance_sector_chs (Bool.eq_false_iff.mpr hlba)]
    exact steps_chs h hdenotes (Bool.eq_false_iff.mpr hlba) hedge

/-! ## At an edge -/

/-- The address advanced, and resolved again. -/
def hdc_next_sector (setup : HdcSetup σ) (s : HdcState σ) : Option ℕ × HdcState σ :=
  let advanced := hdc_advance_sector setup s
  if advanced.1 then hdc_resolve_sector setup advanced.2 false else (none, advanced.2)

/-- Advancing resolves to the next sector of the drive, and behind the last one to none. -/
def AdvancesInOrder (setup : HdcSetup σ) (s : HdcState σ) (info : HdcMedium) (sector : ℕ) :
    Prop :=
  ((hdc_view setup.config s.data info).Inside (sector + 1) →
      (hdc_next_sector setup s).1 = some (sector + 1)) ∧
    (¬ (hdc_view setup.config s.data info).Inside (sector + 1) →
      (hdc_next_sector setup s).1 = none ∧
        (hdc_next_sector setup s).2.data.error = error_id_not_found)

theorem Steps.in_order (h : Drive setup s info)
    (hsteps : Steps setup s info sector (hdc_advance_sector setup s)) :
    AdvancesInOrder setup s info sector := by
  unfold AdvancesInOrder hdc_next_sector
  dsimp only
  rcases hsteps with ⟨data', hadvance, honly, haims⟩ | ⟨hadvance, hout⟩
  · obtain ⟨number, low, high, head, hdata⟩ := honly.rest
    have hdrive : Drive setup { s with data := data' } info :=
      h.same data' honly.view honly.unit (by rw [hdata]) (by rw [hdata])
    have hresolve := Aims.resolve (s := { s with data := data' }) hdrive haims false nofun
    rw [hadvance, if_pos rfl, hresolve]
    refine ⟨fun hinside => ?_, fun hout => ?_⟩
    · have hcapacity : sector + 1 < hdc_sector_capacity info := hinside.1
      rw [if_pos hcapacity]
    by_cases hcapacity : sector + 1 < hdc_sector_capacity info
    · -- a sector that resolves is on the drive
      refine absurd ⟨hcapacity, fun hlba => ?_⟩ hout
      have hchs : hdc_lba_mode setup.config data' = false := by
        have hview := congrArg HdcView.lba honly.view
        exact hview.trans hlba
      obtain ⟨hcylinder, hhead, hpos, hnumber, haddress⟩ :=
        (Aims.denotes (s := { s with data := data' }) haims hcapacity).chs hchs
      rw [honly.view] at hcylinder hhead hnumber haddress
      rw [← haddress]
      refine lt_of_lt_of_le ?_ (chs_address_inside hcylinder hhead hnumber)
      exact Nat.add_lt_add_left (Nat.sub_lt hpos Nat.one_pos) _
    · rw [if_neg hcapacity]
      exact ⟨rfl, rfl⟩
  · rw [hadvance, if_neg Bool.false_ne_true]
    exact ⟨fun hinside => absurd hinside hout, fun _ => ⟨rfl, rfl⟩⟩

section Chs

variable (h : Drive setup s info) (hdenotes : Denotes setup.config s.data info sector)
  (hchs : hdc_lba_mode setup.config s.data = false)

include h hdenotes hchs

/-- The address of a track begun resolves to its first sector. -/
theorem next_sector_begun (read : ℕ) {cylinder : U16} {head : U8} (hhead16 : head.toNat < 16)
    (hadvance : hdc_advance_chs setup s =
      (true, { s with data := hdc_move s.data 1 cylinder head }))
    (hcylinder : cylinder.toNat < (hdc_view setup.config s.data info).cylinders)
    (hread : (if (hdc_view setup.config s.data info).narrow then head &&& 0x07
      else head).toNat = read)
    (hheads : read < (hdc_view setup.config s.data info).heads) :
    (hdc_next_sector setup s).1 =
      if (cylinder.toNat * (hdc_view setup.config s.data info).heads + read) *
        (hdc_view setup.config s.data info).sectors < hdc_sector_capacity info then
          some ((cylinder.toNat * (hdc_view setup.config s.data info).heads + read) *
            (hdc_view setup.config s.data info).sectors) else none := by
  obtain ⟨-, -, hpos, hnumber, -⟩ := hdenotes.chs hchs
  obtain ⟨hview, hunit⟩ := hdc_view_move setup.config s.data info hhead16 1 cylinder
  have hmoved := denotes_move hchs 1 cylinder hhead16 hcylinder (by decide)
    (hpos.trans_le hnumber) hread hheads
  rw [show (1 : U8).toNat - 1 = 0 from rfl, Nat.add_zero] at hmoved
  have hdrive : Drive setup { s with data := hdc_move s.data 1 cylinder head } info :=
    h.same _ hview hunit rfl rfl
  have hresolve := hdc_resolve_sector_eq hdrive hmoved false nofun
  unfold hdc_next_sector
  rw [hdc_advance_sector_chs hchs, hadvance]
  dsimp only
  rw [if_pos rfl, hresolve]
  split_ifs <;> rfl

theorem not_in_order_sector (h255 : s.data.sector_number.toNat = 255)
    (hsectors : 255 < (hdc_view setup.config s.data info).sectors)
    (hcapacity : sector + 1 < hdc_sector_capacity info) :
    ¬ AdvancesInOrder setup s info sector := by
  rintro ⟨hnext, -⟩
  obtain ⟨hcylinder, hhead, -, hnumber, haddress⟩ := hdenotes.chs hchs
  have hinside : (hdc_view setup.config s.data info).Inside (sector + 1) := by
    refine ⟨hcapacity, fun _ => ?_⟩
    have hle := chs_address_inside hcylinder hhead (Nat.succ_le_of_lt hsectors)
    rw [h255] at haddress
    omega
  have hnext := hnext hinside
  have hheads := h.heads hchs
  -- the next sector has a number above 255, and a track begins at number 1
  have htrack (track : ℕ) :
      track * (hdc_view setup.config s.data info).sectors ≠ sector + 1 := by
    intro heq
    have hmod := congrArg (· % (hdc_view setup.config s.data info).sectors) heq
    rw [h255] at haddress
    simp only [Nat.mul_mod_left, ← haddress, Nat.add_assoc] at hmod
    rw [Nat.add_comm, Nat.add_mul_mod_self_right, Nat.mod_eq_of_lt hsectors] at hmod
    cases hmod
  by_cases hlasthead : (hdc_current_head setup.config s.data).toNat + 1 <
      (hdc_view setup.config s.data info).heads
  · have hsucc : (hdc_current_head setup.config s.data + 1).toNat =
        (hdc_current_head setup.config s.data).toNat + 1 := U8.toNat_succ (by omega)
    have hread : (if (hdc_view setup.config s.data info).narrow then
        (hdc_current_head setup.config s.data + 1) &&& 0x07
      else hdc_current_head setup.config s.data + 1).toNat <
        (hdc_view setup.config s.data info).heads := by
      split_ifs
      · have hle : ((hdc_current_head setup.config s.data + 1) &&& 0x07).toNat ≤
            (hdc_current_head setup.config s.data + 1).toNat := by
          rw [BitVec.toNat_and]
          exact Nat.and_le_left
        omega
      · omega
    rw [next_sector_begun h hdenotes hchs _ (by omega)
      (hdc_advance_next_head h hdenotes hchs (Or.inr h255) hlasthead) hcylinder rfl hread]
      at hnext
    exact htrack _ (Option.some.inj (Option.ite_none_right_eq_some.mp hnext).2)
  · have hadvance := hdc_advance_next_cylinder h (Or.inr h255)
      (show _ = (hdc_view setup.config s.data info).heads by omega)
    by_cases hend : (hdc_view setup.config s.data info).cylinders ≤
        (hdc_cylinder s.data + 1).toNat
    · rw [if_pos hend] at hadvance
      unfold hdc_next_sector at hnext
      rw [hdc_advance_sector_chs hchs, hadvance] at hnext
      cases hnext
    · rw [if_neg hend] at hadvance
      rw [next_sector_begun h hdenotes hchs 0 (by decide) hadvance
        (Nat.not_le.mp hend) (by split_ifs <;> rfl) (by omega)] at hnext
      exact htrack _ (Option.some.inj (Option.ite_none_right_eq_some.mp hnext).2)

omit h hdenotes hchs in
/-- An address that leads back is not in order. -/
theorem not_in_order_back {back : ℕ} (hback : back ≤ sector)
    (hcapacity : sector < hdc_sector_capacity info)
    (hnext : (hdc_next_sector setup s).1 =
      if back < hdc_sector_capacity info then some back else none) :
    ¬ AdvancesInOrder setup s info sector := by
  rintro ⟨hinside, houtside⟩
  rw [if_pos (hback.trans_lt hcapacity)] at hnext
  by_cases h : (hdc_view setup.config s.data info).Inside (sector + 1)
  · have heq := Option.some.inj (hnext.symm.trans (hinside h))
    omega
  · rw [(houtside h).1] at hnext
    cases hnext

theorem not_in_order_chs (hcapacity : sector < hdc_sector_capacity info)
    (hedge : (hdc_view setup.config s.data info).Edge sector) :
    ¬ AdvancesInOrder setup s info sector := by
  rw [edge_chs hdenotes hchs] at hedge
  obtain ⟨hcylinder, hhead, hpos, hnumber, haddress⟩ := hdenotes.chs hchs
  rcases hedge with ⟨h255, hsectors, hnext⟩ | ⟨hlast, ⟨hnarrow, h7, h8⟩ | ⟨hlasthead, h65535, hc⟩⟩
  · exact not_in_order_sector h hdenotes hchs h255 hsectors hnext
  · -- head 8 reads back as head 0 of the same cylinder
    have h8' : hdc_current_head setup.config s.data + 1 = 8 := by
      rw [← BitVec.toNat_inj, U8.toNat_succ (by omega), h7]
      rfl
    have hnext := next_sector_begun h hdenotes hchs 0 (by rw [h8']; decide)
      (hdc_advance_next_head h hdenotes hchs hlast (by omega)) hcylinder
      (by rw [if_pos hnarrow, h8']; rfl) (by omega)
    refine not_in_order_back ?_ hcapacity hnext
    rw [← haddress, Nat.add_zero, Nat.add_mul]
    omega
  · -- cylinder 65535 is followed by cylinder 0
    have hzero : hdc_cylinder s.data + 1 = 0 := by
      rw [← BitVec.toNat_inj, BitVec.toNat_add, h65535]
      rfl
    have hadvance := hdc_advance_next_cylinder h hlast hlasthead
    rw [hzero, if_neg (by change ¬ _ ≤ 0; omega)] at hadvance
    have hnext := next_sector_begun h hdenotes hchs 0 (by decide) hadvance
      (by change 0 < _; omega) (by split_ifs <;> rfl) (by omega)
    refine not_in_order_back ?_ hcapacity hnext
    change (0 * _ + 0) * _ ≤ sector
    omega

end Chs

/-- Block `2^28` is not in the task file. -/
theorem not_in_order_lba (h : Drive setup s info)
    (hdenotes : Denotes setup.config s.data info sector)
    (hlba : hdc_lba_mode setup.config s.data = true)
    (hedge : (hdc_view setup.config s.data info).Edge sector) :
    ¬ AdvancesInOrder setup s info sector := by
  have hview : (hdc_view setup.config s.data info).lba = true := hlba
  unfold Denotes at hdenotes
  dsimp only at hdenotes
  rw [if_pos hview] at hdenotes
  unfold HdcView.Edge at hedge
  rw [if_pos hview] at hedge
  obtain ⟨hlast, hcapacity⟩ := hedge
  rintro ⟨hinside, -⟩
  have hnext := hinside ⟨hcapacity, fun hchs => by rw [hview] at hchs; cases hchs⟩
  have hmoved : hdc_lba_mode setup.config (hdc_move_lba s.data (hdc_lba s.data + 1)) = true := by
    have hflag (x : U8) : is_set (x &&& 0xf0 ||| 0x10) 0x40 = is_set x 0x40 := by
      revert x
      decide
    have hnibble : (((hdc_lba s.data + 1) >>> 24).setWidth 8 : U8) = 0x10 := by
      have hblock : hdc_lba s.data + 1 = 0x10000000 := by
        rw [← BitVec.toNat_inj, BitVec.toNat_add, hdenotes]
        change (sector + 1) % 2 ^ 32 = 2 ^ 28
        rw [hlast]
        rfl
      rw [hblock]
      rfl
    rw [← hlba]
    unfold hdc_lba_mode hdc_move_lba
    dsimp only
    rw [hnibble, hflag]
  unfold hdc_next_sector at hnext
  have hcap : ¬ hdc_sector_capacity info ≤ sector + 1 := Nat.not_le.mpr hcapacity
  rw [hdc_advance_lba_eq h hlba, hdenotes, if_neg hcap] at hnext
  dsimp only at hnext
  rw [if_pos rfl] at hnext
  unfold hdc_resolve_sector at hnext
  dsimp only at hnext
  have hlt := hdc_lba_lt (hdc_move_lba s.data (hdc_lba s.data + 1))
  split at hnext
  · cases hnext
  · split_ifs at hnext
    have heq := Option.some.inj hnext
    omega

/-- Advancing leads to the next sector, or stops at the end of the drive, exactly where the
address is at no edge. -/
theorem hdc_advances_in_order (h : Drive setup s info)
    (hdenotes : Denotes setup.config s.data info sector)
    (hcapacity : sector < hdc_sector_capacity info) :
    AdvancesInOrder setup s info sector ↔
      ¬ (hdc_view setup.config s.data info).Edge sector := by
  constructor
  · intro hin_order hedge
    by_cases hlba : hdc_lba_mode setup.config s.data = true
    · exact not_in_order_lba h hdenotes hlba hedge hin_order
    · exact not_in_order_chs h hdenotes (Bool.eq_false_iff.mpr hlba) hcapacity hedge hin_order
  · exact fun hedge => (hdc_advance_sector_steps h hdenotes hedge).in_order h

end Setup

end Nxvm.Chips
