/-
When an access is one run of decoded addresses (`x86_core_machine_memory_crosses_decode`).

The function compares the first and the last address and looks at the lowest line that is
suppressed. Where either end is in the window, that settles all addresses in between. Where the
window lies strictly inside, neither end is suppressed and the addresses of the window are.
-/
import Nxvm.Ram.Route
import Nxvm.Lib.LowestBit

set_option autoImplicit false

namespace Nxvm.Ram

open Nxvm.Chips (U32)
open Nxvm.Lib.LowestBit

variable {σ : Type} (ram : RamConfig σ)

/-- The address is one whose suppressed lines are cleared. -/
def RamConfig.decodes (address : U32) : Prop :=
  ram.address_decode_first ≤ address ∧ address ≤ ram.address_decode_last

/-- A window that is not empty lies strictly inside the access, the access has a suppressed line
set, and all its addresses differ below the lowest suppressed line only. -/
structure WindowInside (physical : U32) (bytes : ℕ) : Prop where
  begins : physical < ram.address_decode_first
  window : ram.address_decode_first ≤ ram.address_decode_last
  ends : ram.address_decode_last.toNat < physical.toNat + bytes - 1
  suppressed : physical &&& ram.address_clear_mask ≠ 0
  block : physical &&& ~~~(lowest_bit ram.address_clear_mask - 1) =
    BitVec.ofNat 32 (physical.toNat + bytes - 1) &&& ~~~(lowest_bit ram.address_clear_mask - 1)

theorem decode_address_outside {address : U32} (h : ¬ ram.decodes address) :
    decode_address ram address = address := by
  rw [decode_address, if_pos]
  unfold RamConfig.decodes at h
  rw [BitVec.le_def, BitVec.le_def] at h
  rw [BitVec.lt_def, gt_iff_lt, BitVec.lt_def]
  omega

/-- Inside the window the suppressed lines are taken away. -/
theorem decode_address_inside {address : U32} (h : ram.decodes address) :
    (decode_address ram address).toNat + (address &&& ram.address_clear_mask).toNat =
      address.toNat := by
  unfold RamConfig.decodes at h
  rw [BitVec.le_def, BitVec.le_def] at h
  by_cases hzero : ram.address_clear_mask = 0
  · rw [decode_address, if_pos (.inl hzero), hzero]
    simp
  · rw [decode_address, if_neg]
    · exact toNat_cleared address ram.address_clear_mask
    · rw [BitVec.lt_def, gt_iff_lt, BitVec.lt_def]
      rintro (hmask | hfirst | hlast)
      · exact hzero hmask
      · omega
      · omega

/-- Where no suppressed line is set, the window makes no difference. -/
theorem decode_address_clear {address : U32} (h : address &&& ram.address_clear_mask = 0) :
    decode_address ram address = address := by
  by_cases hin : ram.decodes address
  · have hsplit := decode_address_inside ram hin
    rw [h] at hsplit
    exact BitVec.eq_of_toNat_eq hsplit
  · exact decode_address_outside ram hin

/-- The test, once the access and the window meet. -/
theorem crosses_decode_meets {physical : U32} {bytes : ℕ} (hbytes : 1 < bytes)
    (hmask : ram.address_clear_mask ≠ 0) (hfit : physical.toNat + bytes - 1 ≤ 0xffffffff)
    (hfirst : ram.address_decode_first.toNat ≤ physical.toNat + bytes - 1)
    (hlast : physical ≤ ram.address_decode_last) :
    crosses_decode ram physical bytes = false ↔
      (decode_address ram physical).toNat + bytes - 1 =
          (decode_address ram (BitVec.ofNat 32 (physical.toNat + bytes - 1))).toNat ∧
        physical &&& ~~~(lowest_bit ram.address_clear_mask - 1) =
          BitVec.ofNat 32 (physical.toNat + bytes - 1) &&&
            ~~~(lowest_bit ram.address_clear_mask - 1) := by
  rw [BitVec.le_def] at hlast
  rw [crosses_decode]
  dsimp only
  rw [if_neg]
  · by_cases hends : (decode_address ram physical).toNat + bytes - 1 =
        (decode_address ram (BitVec.ofNat 32 (physical.toNat + bytes - 1))).toNat
    · rw [if_neg (not_not.mpr hends), decide_eq_false_iff_not, not_not]
      exact ⟨fun h => ⟨hends, h⟩, fun h => h.2⟩
    · rw [if_pos hends]
      exact ⟨fun h => absurd h (by decide), fun h => absurd h.1 hends⟩
  · rw [gt_iff_lt, gt_iff_lt, BitVec.lt_def]
    rintro (h | h | h | h | h)
    · omega
    · exact hmask h
    · omega
    · omega
    · omega

/-- The next byte but `i` of an access. -/
theorem toNat_byte {physical : U32} {bytes i : ℕ} (hfit : physical.toNat + bytes - 1 ≤ 0xffffffff)
    (hi : i < bytes) : (physical + BitVec.ofNat 32 i).toNat = physical.toNat + i := by
  rw [BitVec.toNat_add, BitVec.toNat_ofNat]
  omega

/-- An access that does not cross is one run of decoded addresses, but where a window lies strictly
inside it. -/
theorem crosses_decode_run_iff (physical : U32) (bytes : ℕ) (hbytes : 1 ≤ bytes)
    (hfit : physical.toNat + bytes - 1 ≤ 0xffffffff) :
    (crosses_decode ram physical bytes = false →
      ∀ i < bytes, (decode_address ram (physical + BitVec.ofNat 32 i)).toNat =
        (decode_address ram physical).toNat + i) ↔ ¬ WindowInside ram physical bytes := by
  have hbyte := fun i (hi : i < bytes) => toNat_byte hfit hi
  have hend : (BitVec.ofNat 32 (physical.toNat + bytes - 1)).toNat =
      physical.toNat + bytes - 1 := by
    rw [BitVec.toNat_ofNat, Nat.mod_eq_of_lt (by omega)]
  constructor
  · intro hrun hinside
    have hbegins := hinside.begins
    have hwindow := hinside.window
    have hends := hinside.ends
    rw [BitVec.lt_def] at hbegins
    rw [BitVec.le_def] at hwindow
    have hmask : ram.address_clear_mask ≠ 0 := by
      intro hzero
      apply hinside.suppressed
      rw [hzero]
      simp
    obtain ⟨k, hlowest⟩ := exists_lowest hmask
    have hout : ¬ ram.decodes physical := by
      rintro ⟨h, -⟩
      rw [BitVec.le_def] at h
      omega
    have hout' : ¬ ram.decodes (BitVec.ofNat 32 (physical.toNat + bytes - 1)) := by
      rintro ⟨-, h⟩
      rw [BitVec.le_def, hend] at h
      omega
    have hcross : crosses_decode ram physical bytes = false := by
      rw [crosses_decode_meets ram (by omega) hmask hfit (by omega)
        (by rw [BitVec.le_def]; omega), decode_address_outside ram hout,
        decode_address_outside ram hout', hend]
      exact ⟨rfl, hinside.block⟩
    -- The first address of the window is the one that decodes elsewhere.
    have hi : ram.address_decode_first.toNat - physical.toNat < bytes := by omega
    have hfirst := hrun hcross _ hi
    have haddress := hbyte _ hi
    generalize physical + BitVec.ofNat 32 (ram.address_decode_first.toNat - physical.toNat) =
      address at hfirst haddress
    have hin : ram.decodes address := by
      refine ⟨?_, ?_⟩
      · rw [BitVec.le_def]
        omega
      · rw [BitVec.le_def]
        omega
    have hsplit := decode_address_inside ram hin
    have hblock := hinside.block
    rw [hlowest.eq, above_eq_iff hlowest.lt, hend] at hblock
    have hsame : address &&& ram.address_clear_mask = physical &&& ram.address_clear_mask := by
      apply hlowest.masked
      have hle := Nat.div_le_div_right (c := 2 ^ k)
        (by omega : physical.toNat ≤ address.toNat)
      have hle' := Nat.div_le_div_right (c := 2 ^ k)
        (by omega : address.toNat ≤ physical.toNat + bytes - 1)
      omega
    rw [decode_address_outside ram hout] at hfirst
    rw [hsame] at hsplit
    have hzero : (physical &&& ram.address_clear_mask).toNat ≠ 0 := by
      intro h
      exact hinside.suppressed (BitVec.eq_of_toNat_eq h)
    omega
  · intro hnot hcross i hi
    have haddress := hbyte i hi
    generalize physical + BitVec.ofNat 32 i = address at haddress ⊢
    by_cases hmask : ram.address_clear_mask = 0
    · rw [decode_address, if_pos (.inl hmask), decode_address, if_pos (.inl hmask), haddress]
    by_cases hmeets : ram.address_decode_first.toNat ≤ physical.toNat + bytes - 1 ∧
        physical ≤ ram.address_decode_last
    · by_cases hone : bytes = 1
      · have hsame : address = physical := by
          apply BitVec.eq_of_toNat_eq
          omega
        rw [hsame]
        omega
      obtain ⟨heq, hblock⟩ :=
        (crosses_decode_meets ram (by omega) hmask hfit hmeets.1 hmeets.2).mp hcross
      obtain ⟨k, hlowest⟩ := exists_lowest hmask
      have hquotient := hblock
      rw [hlowest.eq, above_eq_iff hlowest.lt, hend] at hquotient
      -- All addresses of the access lose the same under the mask.
      have hlast : BitVec.ofNat 32 (physical.toNat + bytes - 1) &&& ram.address_clear_mask =
          physical &&& ram.address_clear_mask := by
        apply hlowest.masked
        rw [hend, hquotient]
      have hmiddle : address &&& ram.address_clear_mask =
          physical &&& ram.address_clear_mask := by
        apply hlowest.masked
        have hle := Nat.div_le_div_right (c := 2 ^ k)
          (by omega : physical.toNat ≤ address.toNat)
        have hle' := Nat.div_le_div_right (c := 2 ^ k)
          (by omega : address.toNat ≤ physical.toNat + bytes - 1)
        omega
      by_cases hclear : physical &&& ram.address_clear_mask = 0
      · rw [decode_address_clear ram hclear, decode_address_clear ram (hmiddle.trans hclear),
          haddress]
      have hsome : (physical &&& ram.address_clear_mask).toNat ≠ 0 :=
        fun h => hclear (BitVec.eq_of_toNat_eq h)
      by_cases hin : ram.decodes physical
      · have hsplit := decode_address_inside ram hin
        -- The last address loses as much, so it is in the window, and so are all before it.
        have hin' : ram.decodes (BitVec.ofNat 32 (physical.toNat + bytes - 1)) := by
          by_contra hout
          rw [decode_address_outside ram hout, hend] at heq
          omega
        have hmid : ram.decodes address := by
          obtain ⟨hle, -⟩ := hin
          obtain ⟨-, hle'⟩ := hin'
          rw [BitVec.le_def] at hle hle'
          refine ⟨?_, ?_⟩
          · rw [BitVec.le_def]
            omega
          · rw [BitVec.le_def]
            omega
        have hsplit' := decode_address_inside ram hmid
        rw [hmiddle] at hsplit'
        omega
      · rw [decode_address_outside ram hin] at heq ⊢
        have hout : ¬ ram.decodes (BitVec.ofNat 32 (physical.toNat + bytes - 1)) := by
          intro hin'
          have hsplit := decode_address_inside ram hin'
          rw [hlast, hend] at hsplit
          omega
        have hmid : ¬ ram.decodes address := by
          rintro ⟨hle, hle'⟩
          apply hnot
          unfold RamConfig.decodes at hin hout
          rw [BitVec.le_def, BitVec.le_def, hend] at hout
          rw [BitVec.le_def, BitVec.le_def] at hin
          rw [BitVec.le_def] at hle hle'
          refine ⟨?_, ?_, by omega, hclear, hblock⟩
          · rw [BitVec.lt_def]
            omega
          · rw [BitVec.le_def]
            omega
        rw [decode_address_outside ram hmid, haddress]
    · -- The window and the access do not meet.
      have hout : ∀ a : U32, physical.toNat ≤ a.toNat → a.toNat ≤ physical.toNat + bytes - 1 →
          ¬ ram.decodes a := by
        rintro a hle hle' ⟨hfirst, hlast⟩
        rw [BitVec.le_def] at hfirst hlast hmeets
        omega
      rw [decode_address_outside ram (hout physical (by omega) (by omega)),
        decode_address_outside ram (hout address (by omega) (by omega)), haddress]

/-- Four addresses of the second megabyte decode without line 20. -/
def narrow_window : RamConfig Unit where
  address_clear_mask := 0x00100000
  address_decode_first := 0x00100010
  address_decode_last := 0x00100013
  backing := some fun _ => 0
  parity := none
  parity_bytes := 0
  installed_bytes := 0x00200000
  mappings := []
  device_provider_count := 0
  device_providers := nofun

/-- An access that ends in the window is one run up to where it is said not to be. -/
theorem crosses_decode_run_narrow :
    ¬ WindowInside narrow_window 0x00100000 0x12 ∧
      (crosses_decode narrow_window 0x00100000 0x12 = false →
        ∀ i < 0x12, (decode_address narrow_window (0x00100000 + BitVec.ofNat 32 i)).toNat =
          (decode_address narrow_window 0x00100000).toNat + i) := by
  have hnot : ¬ WindowInside narrow_window 0x00100000 0x12 := by
    intro h
    have hends := h.ends
    exact absurd hends (by decide)
  exact ⟨hnot, (crosses_decode_run_iff narrow_window 0x00100000 0x12 (by decide)
    (by decide)).mpr hnot⟩

/-- 32 bytes around the window are taken for one run, and the first byte of the window is not the
next one. -/
theorem crosses_decode_narrow :
    crosses_decode narrow_window 0x00100000 0x20 = false ∧
      (decode_address narrow_window (0x00100000 + 0x10)).toNat ≠
        (decode_address narrow_window 0x00100000).toNat + 0x10 := by
  decide +kernel

end Nxvm.Ram
