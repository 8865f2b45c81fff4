/-
The battery memory of a console on disk (`app-mynes/machine/media.c`).

A save is a header that names the cartridge, and the bytes of its memory. What one console saves
is taken by those whose cartridge has the same identity, and by no others.
-/
import Nxvm.Nes.Reachable

set_option autoImplicit false

namespace Nxvm.Nes

open Nxvm.Lib
open Nxvm.Machine (Status)

/-! ## Saving and loading -/

/-- `core_battery_write_u32`. -/
def core_battery_write_u32 (value : U32) : Bytes := Memory.bytes_of 4 value

/-- `core_battery_read_u32`, `offset` bytes on. -/
def core_battery_read_u32 (bytes : Bytes) (offset : ℕ) : U32 :=
  Memory.word_of 32 ((bytes.drop offset).take 4)

/-- `core_battery_write_u64`. -/
def core_battery_write_u64 (value : U64) : Bytes := Memory.bytes_of 8 value

/-- `core_battery_read_u64`. -/
def core_battery_read_u64 (bytes : Bytes) (offset : ℕ) : U64 :=
  Memory.word_of 64 ((bytes.drop offset).take 8)

/-- `core_machine_battery_capture`: the battery and whether it is dirty, unless bytes are copied
that are not there. -/
def core_machine_battery_capture (m : Console) : Option (Battery × Bool) :=
  let byte_count := core_cartridge_battery_ram_byte_count m.cartridge
  let bytes : Option (Table 8192 U8) :=
    if byte_count = 0 then some (Table.fill 0)
    else m.cartridge.prg_ram.bind fun prg_ram => Table.build fun i => prg_ram[i.val]?
  bytes.map fun bytes =>
    ({ mapper := m.cartridge.mapper
       identity := core_cartridge_battery_identity m.cartridge
       byte_count := byte_count
       bytes := bytes }, m.cartridge.prg_ram_dirty)

/-- The header that `machine_driver_save_battery_ram` writes. -/
def battery_save_header (battery : Battery) : Bytes :=
  [0x4d, 0x4e, 0x53, 0x52, 1, battery.mapper, 0, 0] ++ core_battery_write_u64 battery.identity ++
    core_battery_write_u32 (BitVec.ofNat 32 battery.byte_count) ++ [0, 0, 0, 0]

/-- The whole file that it writes. -/
def battery_save_bytes (battery : Battery) : Bytes :=
  battery_save_header battery ++ (List.ofFn battery.bytes).take battery.byte_count

/-- `machine_driver_save_battery_ram`; `store` is what opening, writing and closing the file
come to. -/
def machine_driver_save_battery_ram (store : Bytes → Status) (m : Console) :
    Option (Status × Console) :=
  (core_machine_battery_capture m).map fun captured =>
    if captured.1.byte_count = 0 ∨ captured.2 = false then (.ok, m)
    else
      let status := store (battery_save_bytes captured.1)
      (status, if status = .ok then core_machine_battery_mark_clean m else m)

/-- `machine_driver_load_battery_ram`; `read` is what reading the file comes to, of at most so
many bytes. -/
def machine_driver_load_battery_ram (read : ℕ → Except Status Bytes) (m : Console) :
    Option (Except Status Console) :=
  (core_machine_battery_capture m).bind fun captured =>
    let battery := captured.1
    if battery.byte_count = 0 then some (.error .invalid_state)
    else
      match read (24 + battery.byte_count) with
      | .error status => some (.error status)
      | .ok bytes =>
        if bytes.length ≠ 24 + battery.byte_count ∨
            bytes.take 6 ≠ [0x4d, 0x4e, 0x53, 0x52, 1, battery.mapper] ∨
            core_battery_read_u64 bytes 8 ≠ battery.identity ∨
            (core_battery_read_u32 bytes 16).toNat ≠ battery.byte_count then
          some (.error .invalid_argument)
        else
          (Table.build fun i => bytes[24 + i.val]?).map fun bytes =>
            core_machine_battery_restore m { battery with bytes := bytes }

/-! ## The file -/

section Save

variable {battery : Battery}

theorem header_length : (battery_save_header battery).length = 24 := rfl

theorem save_length (h : battery.byte_count = 8192) :
    (battery_save_bytes battery).length = 24 + battery.byte_count := by
  rw [battery_save_bytes, List.length_append, header_length, List.length_take, List.length_ofFn, h,
    Nat.min_self]

theorem save_identity : core_battery_read_u64 (battery_save_bytes battery) 8 = battery.identity := by
  have hword : core_battery_read_u64 (battery_save_bytes battery) 8 =
      Memory.word_of 64 (Memory.bytes_of 8 battery.identity) := rfl
  rw [hword, Memory.word_of_bytes_of _ (by decide)]

theorem save_byte_count (h : battery.byte_count = 8192) :
    (core_battery_read_u32 (battery_save_bytes battery) 16).toNat = battery.byte_count := by
  have hword : core_battery_read_u32 (battery_save_bytes battery) 16 =
      Memory.word_of 32 (Memory.bytes_of 4 (BitVec.ofNat 32 battery.byte_count)) := rfl
  rw [hword, Memory.word_of_bytes_of _ (by decide), h]
  rfl

theorem save_data (h : battery.byte_count = 8192) (i : Fin 8192) :
    (battery_save_bytes battery)[24 + i.val]? = some (battery.bytes i) := by
  rw [battery_save_bytes, h, List.take_of_length_le (le_of_eq List.length_ofFn),
    List.getElem?_append_right (by rw [header_length]; omega), header_length,
    Nat.add_sub_cancel_left, List.getElem?_ofFn, dif_pos i.isLt]

end Save

/-! ## Consoles with a battery -/

/-- The battery of a reachable console is captured, with the memory it has. -/
theorem Reachable.captured {image : Bytes} {m : Console} (h : Reachable image m)
    (hbacked : m.cartridge.battery_backed = true) :
    ∃ bytes : Table 8192 U8, m.cartridge.prg_ram = some (List.ofFn bytes) ∧
      m.cartridge.mapper = 4 ∧ core_machine_battery_capture m =
        some (⟨4, m.cartridge.content_identity, 8192, bytes⟩, m.cartridge.prg_ram_dirty) := by
  obtain ⟨origin, -, hvalid⟩ := h.valid
  have hmapper := hvalid.cartridge.battery hbacked
  obtain ⟨prg_ram, hram, hlength⟩ := hvalid.cartridge.prg_ram hmapper
  obtain ⟨bytes, hbytes, hread⟩ := Table.exists_of_length hlength
  have hcount : core_cartridge_battery_ram_byte_count m.cartridge = 8192 := if_pos hbacked
  refine ⟨bytes, by rw [hram, hbytes], hmapper, ?_⟩
  rw [core_machine_battery_capture, core_cartridge_battery_identity, hcount, hmapper, hram,
    if_neg (by decide), if_neg (by decide), Option.bind_some, Table.build_of_forall hread]
  rfl

/-- A save is loaded by the consoles whose cartridge has the identity of the saved one, and they
get its memory and nothing else; the others refuse it. -/
theorem battery_save_loads {image image' : Bytes} {m m' : Console} (h : Reachable image m)
    (h' : Reachable image' m') (hbacked : m.cartridge.battery_backed = true)
    (hbacked' : m'.cartridge.battery_backed = true) :
    ∃ file : Bytes,
      (∀ store, machine_driver_save_battery_ram store m = some
        (if m.cartridge.prg_ram_dirty then
          (store file, if store file = .ok then core_machine_battery_mark_clean m else m)
        else (.ok, m))) ∧
      (∀ read, read file.length = .ok file → machine_driver_load_battery_ram read m' = some
        (if m.cartridge.content_identity = m'.cartridge.content_identity then
          .ok { m' with cartridge := { m'.cartridge with
            prg_ram := m.cartridge.prg_ram
            prg_ram_dirty := false } }
        else .error .invalid_argument)) ∧
      (image = image' → m.cartridge.content_identity = m'.cartridge.content_identity) := by
  obtain ⟨bytes, hram, -, hcaptured⟩ := h.captured hbacked
  obtain ⟨bytes', -, hmapper', hcaptured'⟩ := h'.captured hbacked'
  let battery : Battery := ⟨4, m.cartridge.content_identity, 8192, bytes⟩
  have hlength : (battery_save_bytes battery).length = 24 + 8192 := save_length rfl
  refine ⟨battery_save_bytes battery, ?_, ?_, ?_⟩
  · intro store
    rw [machine_driver_save_battery_ram, hcaptured]
    cases m.cartridge.prg_ram_dirty <;> rfl
  · intro read hread
    rw [hlength] at hread
    rw [machine_driver_load_battery_ram, hcaptured', Option.bind_some]
    dsimp only
    rw [if_neg (by decide), hread]
    dsimp only
    have hmagic : (battery_save_bytes battery).take 6 = [0x4d, 0x4e, 0x53, 0x52, 1, 4] := rfl
    have hcount : (core_battery_read_u32 (battery_save_bytes battery) 16).toNat = 8192 :=
      save_byte_count rfl
    have htable : Table.build (fun i : Fin 8192 => (battery_save_bytes battery)[24 + i.val]?) =
        some bytes := Table.build_of_forall (save_data rfl)
    rw [hlength, hmagic, save_identity, hcount, htable, hram]
    by_cases hidentity : m.cartridge.content_identity = m'.cartridge.content_identity
    · have hcount' : core_cartridge_battery_ram_byte_count m'.cartridge = 8192 :=
        if_pos hbacked'
      rw [if_pos hidentity, if_neg (by simp [battery, hidentity])]
      exact congrArg some (if_neg (by
        simp [core_cartridge_battery_identity, hcount', hmapper']))
    · rw [if_neg hidentity, if_pos (by simp [battery, hidentity])]
  · intro himage
    obtain ⟨origin, hcreate, hvalid⟩ := h.valid
    obtain ⟨origin', hcreate', hvalid'⟩ := h'.valid
    rw [himage, hcreate'] at hcreate
    cases hcreate
    rw [hvalid.cartridge.same.content_identity, hvalid'.cartridge.same.content_identity]

/-- An image with battery memory, and nothing in it. -/
def battery_image : Bytes :=
  [0x4e, 0x45, 0x53, 0x1a, 2, 0, 0x42, 0, 1, 0, 0, 0, 0, 0, 0, 0] ++ List.replicate 32768 0

theorem battery_save_loads_itself :
    ∃ m file, core_machine_create battery_image 0 = .ok m ∧
      machine_driver_load_battery_ram (fun _ => .ok file) m = some (.ok { m with
        cartridge := { m.cartridge with prg_ram_dirty := false } }) := by
  have hcreated : (core_machine_create battery_image 0).toOption.any
      (fun m => m.cartridge.battery_backed) = true := by
    decide +kernel
  cases hcreate : core_machine_create battery_image 0 with
  | error e =>
    rw [hcreate] at hcreated
    cases hcreated
  | ok m =>
    rw [hcreate] at hcreated
    obtain ⟨file, -, hload, -⟩ :=
      battery_save_loads (.create hcreate) (.create hcreate) hcreated hcreated
    have hloaded := hload (fun _ => .ok file) rfl
    rw [if_pos rfl] at hloaded
    exact ⟨m, file, rfl, hloaded⟩

end Nxvm.Nes
