/-
From one sector address in the task file to the next.

What a command sees of its drive (`HdcView`) does not depend on the address, and an address
that resolves denotes one sector of it (`Denotes`). Advancing leads to the next sector, or
stops behind the last one, except where the next address does not fit the task file
(`Edge`): behind block `2^28 - 1`, behind sector 255 of a longer track, behind cylinder
65535 of a larger drive, and behind head 7 where head 8 reads back as head 0.
-/
import Nxvm.Chips.HdcCommands
import Nxvm.Lib.Bits
import Mathlib.Tactic.IntervalCases

set_option autoImplicit false

namespace Nxvm.Chips

open Nxvm.Lib Nxvm.Lib.Register Nxvm.Machine

/-! ## Drives -/

/-- How a drive is addressed, and how large it is. A narrow head register has no bit 3. -/
structure HdcView where
  lba : Bool
  narrow : Bool
  capacity : ℕ
  cylinders : ℕ
  heads : ℕ
  sectors : ℕ
  deriving DecidableEq, Repr

namespace HdcView

/-- The sector is on the drive. -/
def Inside (view : HdcView) (sector : ℕ) : Prop :=
  sector < view.capacity ∧
    (view.lba = false → sector < view.cylinders * view.heads * view.sectors)

/-- The address behind this sector does not fit the task file. -/
def Edge (view : HdcView) (sector : ℕ) : Prop :=
  if view.lba then sector + 1 = 2 ^ 28 ∧ sector + 1 < view.capacity
  else
    let number := sector % view.sectors + 1
    let head := sector / view.sectors % view.heads
    let cylinder := sector / view.sectors / view.heads
    (number = 255 ∧ 255 < view.sectors ∧ sector + 1 < view.capacity) ∨
      ((number = view.sectors ∨ number = 255) ∧
        ((view.narrow = true ∧ head = 7 ∧ 8 < view.heads) ∨
          (head + 1 = view.heads ∧ cylinder = 65535 ∧ 65536 ≤ view.cylinders)))

end HdcView

/-- The drive the task file selects. -/
def hdc_view (config : HdcConfig) (data : HdcData) (info : HdcMedium) : HdcView :=
  let geometry := hdc_address_geometry config data info (hdc_selected_unit data)
  { lba := hdc_lba_mode config data
    narrow := hdc_is_wd config && !is_set data.device_control device_control_head_select
    capacity := hdc_sector_capacity info
    cylinders := geometry.cylinders.toNat
    heads := geometry.heads.toNat
    sectors := geometry.sectors_per_track.toNat }

/-- The address in the task file is one of the drive's, and this is its sector. -/
def Denotes (config : HdcConfig) (data : HdcData) (info : HdcMedium) (sector : ℕ) : Prop :=
  let view := hdc_view config data info
  if view.lba then (hdc_lba data).toNat = sector
  else
    let cylinder := (hdc_cylinder data).toNat
    let head := (hdc_current_head config data).toNat
    let number := data.sector_number.toNat
    cylinder < view.cylinders ∧ head < view.heads ∧ 0 < number ∧ number ≤ view.sectors ∧
      (cylinder * view.heads + head) * view.sectors + (number - 1) = sector

section Setup

variable {σ : Type} (setup : HdcSetup σ)

/-- A drive that sectors are asked of: there, with sectors of the buffer's size and no more
heads than the task file has. -/
structure Drive (s : HdcState σ) (info : HdcMedium) : Prop where
  protocol : hdc_is_ata_pio setup.config = true ∨ hdc_is_wd setup.config = true
  medium : hdc_media_info setup s = some info
  present : info.present = true
  bytes : info.geometry.bytes_per_sector.toNat = hdc_sector_bytes
  translated : hdc_lba_mode setup.config s.data = true →
    ¬ (s.data.drive_heads[hdc_selected_unit s.data] ≠ 0 ∧
      s.data.drive_sectors_per_track[hdc_selected_unit s.data] = 0)
  heads : hdc_lba_mode setup.config s.data = false →
    (hdc_view setup.config s.data info).heads ≤ 16

variable {setup}

/-- An address of a drive with no more than sixteen heads is far below `2^64`. -/
theorem chs_address_lt (config : HdcConfig) (data : HdcData) (info : HdcMedium)
    (hheads : (hdc_view config data info).heads ≤ 16)
    (hhead : (hdc_current_head config data).toNat < (hdc_view config data info).heads) :
    ((hdc_cylinder data).toNat * (hdc_view config data info).heads +
      (hdc_current_head config data).toNat) * (hdc_view config data info).sectors +
        (data.sector_number.toNat - 1) < 2 ^ 64 := by
  have hcylinder := (hdc_cylinder data).isLt
  have hsectors : (hdc_view config data info).sectors < 2 ^ 32 := BitVec.isLt _
  generalize (hdc_view config data info).heads = heads at *
  generalize (hdc_view config data info).sectors = sectors at *
  generalize (hdc_cylinder data).toNat = cylinder at *
  have htracks : cylinder * heads ≤ 2 ^ 16 * 16 := Nat.mul_le_mul hcylinder.le hheads
  have htrack : cylinder * heads + (hdc_current_head config data).toNat ≤ 2 ^ 21 := by omega
  have hall := Nat.mul_le_mul htrack hsectors.le
  omega

theorem Drive.master {s : HdcState σ} {info : HdcMedium} (h : Drive setup s info)
    (hlba : hdc_lba_mode setup.config s.data = true) : hdc_is_ata_pio setup.config = true := by
  refine h.protocol.resolve_right fun hwd => ?_
  rw [hdc_lba_mode, hwd] at hlba
  cases hlba

/-- An address of the drive resolves to its sector, if the drive goes that far. -/
theorem hdc_resolve_sector_eq {s : HdcState σ} {info : HdcMedium} (h : Drive setup s info)
    {sector : ℕ} (hdenotes : Denotes setup.config s.data info sector) (write_to_media : Bool)
    (hwrite : write_to_media = true → info.read_only = false) :
    hdc_resolve_sector setup s write_to_media =
      if sector < hdc_sector_capacity info then (some sector, s)
      else (none, hdc_fail setup s error_id_not_found) := by
  have hserves : ¬ (!info.present || (write_to_media && info.read_only)) = true := by
    rw [h.present]
    cases write_to_media with
    | false => simp
    | true => simp [hwrite rfl]
  unfold hdc_resolve_sector
  dsimp only
  rw [h.medium]
  dsimp only
  rw [if_neg hserves]
  unfold Denotes hdc_view at hdenotes
  dsimp only at hdenotes
  by_cases hlba : hdc_lba_mode setup.config s.data = true
  · rw [if_pos hlba] at hdenotes ⊢
    rw [if_neg (h.translated hlba), hdenotes, h.master hlba, h.bytes]
    simp only [Bool.not_true, Bool.and_false, Bool.false_eq_true, false_or, ne_eq,
      not_true_eq_false, or_false]
    by_cases hcapacity : sector < hdc_sector_capacity info
    · rw [if_neg (Nat.not_le.mpr hcapacity), if_pos hcapacity]
    · rw [if_pos (Nat.not_lt.mp hcapacity), if_neg hcapacity]
  · rw [if_neg hlba] at hdenotes ⊢
    obtain ⟨hcylinder, hhead, hpos, hnumber, haddress⟩ := hdenotes
    have hwidth : sector < 2 ^ 64 := haddress.symm.trans_lt
      (chs_address_lt setup.config s.data info (h.heads (Bool.eq_false_iff.mpr hlba)) hhead)
    have hmaster : (!hdc_is_ata_pio setup.config && !hdc_is_wd setup.config &&
        !hdc_selected_master s.data) = false := by
      rcases h.protocol with hata | hwd
      · simp [hata]
      · simp [hwd]
    rw [if_neg (by
      rw [hmaster, h.bytes]
      simp only [Bool.false_eq_true, false_or, ne_eq, not_true_eq_false, or_false]
      omega)]
    rw [haddress, Nat.mod_eq_of_lt hwidth]
    by_cases hcapacity : sector < hdc_sector_capacity info
    · rw [if_neg (Nat.not_le.mpr hcapacity), if_pos hcapacity]
    · rw [if_pos (Nat.not_lt.mp hcapacity), if_neg hcapacity]

/-- An address that resolves is one of a drive. -/
theorem denotes_of_resolve {s : HdcState σ} {write_to_media : Bool} {sector : ℕ}
    (hprotocol : hdc_is_ata_pio setup.config = true ∨ hdc_is_wd setup.config = true)
    (hheads : ∀ info, hdc_media_info setup s = some info →
      hdc_lba_mode setup.config s.data = false →
        (hdc_view setup.config s.data info).heads ≤ 16)
    (hresolve : (hdc_resolve_sector setup s write_to_media).1 = some sector) :
    ∃ info, Drive setup s info ∧ Denotes setup.config s.data info sector ∧
      sector < hdc_sector_capacity info ∧ (write_to_media = true → info.read_only = false) := by
  unfold hdc_resolve_sector at hresolve
  dsimp only at hresolve
  cases hmedium : hdc_media_info setup s with
  | none =>
    rw [hmedium] at hresolve
    cases hresolve
  | some info =>
    have hheads := hheads info hmedium
    rw [hmedium] at hresolve
    dsimp only at hresolve
    by_cases hserves : (!info.present || (write_to_media && info.read_only)) = true
    · rw [if_pos hserves] at hresolve
      cases hresolve
    rw [if_neg hserves] at hresolve
    have hpresent : info.present = true := by
      cases hpresent : info.present with
      | true => rfl
      | false => simp [hpresent] at hserves
    have hwrite : write_to_media = true → info.read_only = false := fun hw => by
      cases hread_only : info.read_only with
      | false => rfl
      | true => simp [hw, hread_only] at hserves
    refine ⟨info, ?_⟩
    unfold Denotes
    dsimp only
    by_cases hlba : hdc_lba_mode setup.config s.data = true
    · rw [if_pos hlba] at hresolve
      rw [show (hdc_view setup.config s.data info).lba = true from hlba, if_pos rfl]
      split_ifs at hresolve with htranslated hrange
      rw [not_or, not_or, not_not, Nat.not_le] at hrange
      have hsector := Option.some.inj hresolve
      refine ⟨⟨hprotocol, hmedium, hpresent, hrange.2.2, fun _ => htranslated, ?_⟩, hsector,
        hsector ▸ hrange.2.1, hwrite⟩
      intro hchs
      rw [hlba] at hchs
      cases hchs
    · have hchs : hdc_lba_mode setup.config s.data = false := Bool.eq_false_iff.mpr hlba
      rw [if_neg hlba] at hresolve
      rw [show (hdc_view setup.config s.data info).lba = false from hchs,
        if_neg Bool.false_ne_true]
      split_ifs at hresolve with hrange hcapacity
      simp only [not_or, not_not, Nat.not_le, Nat.not_lt] at hrange
      obtain ⟨-, hpos, hcylinder, hhead, hnumber, hbytes⟩ := hrange
      have hwidth := chs_address_lt setup.config s.data info (hheads hchs) hhead
      have haddress := (Nat.mod_eq_of_lt hwidth).symm.trans (Option.some.inj hresolve)
      have hcapacity := (Option.some.inj hresolve) ▸ hcapacity
      refine ⟨⟨hprotocol, hmedium, hpresent, hbytes, fun h => absurd h hlba, hheads⟩,
        ⟨hcylinder, hhead, Nat.pos_of_ne_zero hpos, hnumber, haddress⟩,
        Nat.not_le.mp hcapacity, hwrite⟩

end Setup

/-! ## The address moved -/

/-- Another address in the task file. -/
def hdc_move (data : HdcData) (number : U8) (cylinder : U16) (head : U8) : HdcData :=
  hdc_set_current_head { data with
    sector_number := number
    cylinder_low := cylinder.setWidth 8
    cylinder_high := (cylinder >>> 8).setWidth 8 } head

/-- Another block number in the task file. -/
def hdc_move_lba (data : HdcData) (lba : U32) : HdcData :=
  { data with
    sector_number := lba.setWidth 8
    cylinder_low := (lba >>> 8).setWidth 8
    cylinder_high := (lba >>> 16).setWidth 8
    drive_head := data.drive_head &&& (0xf0 : U8) ||| (lba >>> 24).setWidth 8 }

theorem high_nibble_eq_zero {nibble : U8} (h : nibble.toNat < 16) : nibble &&& 0xf0 = 0 := by
  revert h
  revert nibble
  decide

section Move

variable (config : HdcConfig) (data : HdcData) (info : HdcMedium)

/-- The bits above the head select the drive and the addressing. -/
theorem hdc_view_same (data' : HdcData)
    (hhigh : data'.drive_head &&& 0xf0 = data.drive_head &&& 0xf0)
    (hcontrol : data'.device_control = data.device_control)
    (hheads : data'.drive_heads = data.drive_heads)
    (hsectors : data'.drive_sectors_per_track = data.drive_sectors_per_track) :
    hdc_view config data' info = hdc_view config data info ∧
      hdc_selected_unit data' = hdc_selected_unit data := by
  have hflag (flag : U8) (h : flag &&& 0xf0 = flag) :
      is_set data'.drive_head flag = is_set data.drive_head flag := by
    rw [← is_set_masked data'.drive_head h, hhigh, is_set_masked data.drive_head h]
  have hunit : hdc_selected_unit data' = hdc_selected_unit data := by
    unfold hdc_selected_unit
    rw [hflag 0x10 (by decide)]
  refine ⟨?_, hunit⟩
  unfold hdc_view hdc_lba_mode hdc_address_geometry
  rw [hunit, hcontrol, hheads, hsectors, hflag 0x40 (by decide)]

theorem hdc_cylinder_move (number : U8) (cylinder : U16) (head : U8) :
    hdc_cylinder (hdc_move data number cylinder head) = cylinder := by
  refine BitVec.eq_of_getLsbD_eq fun i hi => ?_
  change ((cylinder.setWidth 8).setWidth 16 |||
    ((cylinder >>> 8).setWidth 8).setWidth 16 <<< 8 : U16).getLsbD i = _
  interval_cases i <;> simp

theorem hdc_lba_move {lba : U32} (h : lba.toNat < 2 ^ 28) :
    hdc_lba (hdc_move_lba data lba) = lba := by
  have hnibble : ((lba >>> 24).setWidth 8 : U8).toNat < 16 := by
    rw [BitVec.toNat_setWidth, BitVec.toNat_ushiftRight, Nat.shiftRight_eq_div_pow]
    omega
  have hhead : (hdc_move_lba data lba).drive_head &&& (0x0f : U8) = (lba >>> 24).setWidth 8 :=
    Bits.and_replaced_inside _ _ _ (high_nibble_eq_zero hnibble)
  unfold hdc_lba
  rw [hhead]
  unfold hdc_move_lba
  dsimp only
  refine BitVec.eq_of_getLsbD_eq fun i hi => ?_
  interval_cases i <;> simp

theorem hdc_view_move {head : U8} (h : head.toNat < 16) (number : U8) (cylinder : U16) :
    hdc_view config (hdc_move data number cylinder head) info = hdc_view config data info ∧
      hdc_selected_unit (hdc_move data number cylinder head) = hdc_selected_unit data :=
  hdc_view_same config data info _
    (Bits.and_replaced_outside _ _ _ (high_nibble_eq_zero h)) rfl rfl rfl

/-- A head reads back as what was written, or without its bit 3. -/
theorem hdc_current_head_move {head : U8} (h : head.toNat < 16) (number : U8)
    (cylinder : U16) :
    hdc_current_head config (hdc_move data number cylinder head) =
      if (hdc_view config data info).narrow then head &&& 0x07 else head := by
  have hinside : (data.drive_head &&& 0xf0 ||| head) &&& 0x0f = head :=
    Bits.and_replaced_inside _ _ _ (high_nibble_eq_zero h)
  have hnarrow : (data.drive_head &&& 0xf0 ||| head) &&& 0x07 = head &&& 0x07 := by
    rw [show (0x07 : U8) = 0x0f &&& 0x07 from by decide, ← BitVec.and_assoc, hinside]
    rw [show (0x0f : U8) &&& 0x07 = 0x07 from by decide]
  unfold hdc_current_head hdc_move hdc_set_current_head hdc_view
  dsimp only
  cases hdc_is_wd config with
  | false =>
    rw [if_neg Bool.false_ne_true, hinside]
    rfl
  | true =>
    cases is_set data.device_control device_control_head_select with
    | false => exact hnarrow
    | true => exact hinside

theorem hdc_current_head_lt :
    (hdc_current_head config data).toNat < 16 ∧
      ((hdc_view config data info).narrow = true → (hdc_current_head config data).toNat < 8) := by
  unfold hdc_current_head hdc_view
  dsimp only
  cases hdc_is_wd config with
  | false => exact ⟨Bits.and_toNat_lt _ _ 16 (by decide), nofun⟩
  | true =>
    cases is_set data.device_control device_control_head_select with
    | false =>
      have hlt : (data.drive_head &&& 0x07).toNat < 8 := Bits.and_toNat_lt _ _ 8 (by decide)
      exact ⟨hlt.trans (by decide), fun _ => hlt⟩
    | true => exact ⟨Bits.and_toNat_lt _ _ 16 (by decide), nofun⟩

theorem hdc_lba_lt : (hdc_lba data).toNat < 2 ^ 28 := by
  have h (x y : U32) (hx : x.toNat < 2 ^ 28) (hy : y.toNat < 2 ^ 28) :
      (x ||| y).toNat < 2 ^ 28 := by
    rw [BitVec.toNat_or]
    exact Nat.or_lt_two_pow hx hy
  have hbyte (byte : U8) (shift : ℕ) (hshift : byte.toNat * 2 ^ shift < 2 ^ 28) :
      (byte.setWidth 32 <<< shift : U32).toNat < 2 ^ 28 := by
    rw [BitVec.toNat_shiftLeft, BitVec.toNat_setWidth, Nat.shiftLeft_eq]
    refine (Nat.mod_le _ _).trans_lt (lt_of_le_of_lt ?_ hshift)
    exact Nat.mul_le_mul_right _ (Nat.mod_le _ _)
  have hnibble : (data.drive_head &&& 0x0f).toNat < 16 := Bits.and_toNat_lt _ _ 16 (by decide)
  have h0 := hbyte data.sector_number 0 (by omega)
  rw [BitVec.shiftLeft_zero] at h0
  exact h _ _ (h _ _ (h _ _ h0 (hbyte _ 8 (by omega))) (hbyte _ 16 (by omega)))
    (hbyte _ 24 (by omega))

end Move

end Nxvm.Chips
