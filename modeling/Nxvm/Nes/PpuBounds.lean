/-
No access of the picture unit leaves its array.

The counters of the unit that end up in an index are kept in range by every dot
and every register access. What the counters are is what the reader of a stored
unit checks, so the same statement serves a unit that was reset and one that was
read back.
-/
import Nxvm.Nes.Boards
import Nxvm.Nes.Ppu

set_option autoImplicit false

namespace Nxvm.Nes

open Nxvm.Lib Nxvm.Lib.Exec Nxvm.Lib.Bits

/-! ## The invariant -/

/-- The ranges of the counters a unit computes its indices from. -/
structure PpuCounters (dot scanline : U16)
    (selected secondary next next_secondary byte fine_x : U8) : Prop where
  dot_le : dot.toNat ≤ 340
  scanline_le : scanline.toNat ≤ 261
  selected_le : selected.toNat ≤ 8
  next_le : next.toNat ≤ 8
  selected_eq : selected = secondary
  next_eq : next = next_secondary
  byte_le : byte.toNat ≤ 3
  fine_x_le : fine_x.toNat ≤ 7

/-- What the readers of a stored unit accept. -/
def Ppu.InRange (p : Ppu) : Prop :=
  PpuCounters p.dot p.scanline p.selected_sprite_count p.secondary_oam_count
    p.next_sprite_count p.next_secondary_oam_count p.sprite_evaluation_byte p.fine_x

/-- The unit's counters are in range and its cartridge is the one created as `origin`. -/
structure Video.Valid (origin : Cartridge Bytes) (v : Video) : Prop where
  ppu : v.ppu.InRange
  cartridge : v.cartridge.Valid origin

/-- From every valid state, `x` ends without a fault in a valid state. -/
def PpuSafe (origin : Cartridge Bytes) {α : Type} (x : PpuM α) : Prop :=
  Triple (Video.Valid origin) x (fun _ => Video.Valid origin) (fun _ _ => False)

theorem zero_in_range : Ppu.zero.InRange :=
  ⟨by decide, by decide, by decide, by decide, rfl, rfl, by decide, by decide⟩

namespace PpuSafe

variable {origin : Cartridge Bytes} {α β : Type}

theorem of_pure (a : α) : PpuSafe origin (pure a : PpuM α) := fun _ hv => hv

theorem bind {x : PpuM α} {f : α → PpuM β} (hx : PpuSafe origin x)
    (hf : ∀ a, PpuSafe origin (f a)) : PpuSafe origin (x >>= f) := Triple.bind hx hf

theorem ite {c : Prop} [Decidable c] {x y : PpuM α} (hx : c → PpuSafe origin x)
    (hy : ¬ c → PpuSafe origin y) : PpuSafe origin (if c then x else y) := Triple.ite hx hy

theorem of_perform_if {c : Prop} [Decidable c] {x : PpuM Unit} (hx : c → PpuSafe origin x) :
    PpuSafe origin (perform_if c x) := Triple.of_perform_if hx fun _ _ hv => hv

/-- The registers read are in range. -/
theorem bind_ppu {f : Ppu → PpuM β} (hf : ∀ p, p.InRange → PpuSafe origin (f p)) :
    PpuSafe origin (get_ppu >>= f) := fun v hv => hf v.ppu hv.ppu v hv

/-- The state read is valid. -/
theorem bind_get {f : Video → PpuM β} (hf : ∀ v, v.Valid origin → PpuSafe origin (f v)) :
    PpuSafe origin (get >>= f) := fun v hv => hf v hv v hv

/-- A checked access that has an answer. -/
theorem bind_access {o : Option α} {f : α → PpuM β} (ho : o.isSome)
    (hf : ∀ a, o = some a → PpuSafe origin (f a)) : PpuSafe origin (access o >>= f) := by
  obtain ⟨a, rfl⟩ := Option.isSome_iff_exists.mp ho
  exact hf a rfl

theorem of_access {o : Option α} (ho : o.isSome) : PpuSafe origin (access o) := by
  obtain ⟨a, rfl⟩ := Option.isSome_iff_exists.mp ho
  exact of_pure a

theorem of_set_ppu {f : Ppu → Ppu} (hf : ∀ p, p.InRange → (f p).InRange) :
    PpuSafe origin (set_ppu f) := fun v hv => ⟨hf v.ppu hv.ppu, hv.cartridge⟩

theorem of_a12_tick (high : Bool) : PpuSafe origin (a12_tick high) :=
  fun _ hv => ⟨hv.ppu, ppu_a12_tick_valid hv.cartridge high⟩

end PpuSafe

/-! ## Memory -/

section Bounds

variable {origin : Cartridge Bytes}

theorem nametable_address_range {address : U16} (hlo : 0x2000 ≤ address.toNat)
    (hhi : address.toNat < 0x3f00) :
    0x2000 ≤ (nametable_address address).toNat ∧ (nametable_address address).toNat < 0x3000 := by
  unfold nametable_address
  split
  · bv_omega
  · omega

theorem palette_address_lt (address : U16) : (core_ppu_palette_address address).toNat < 32 := by
  have hle : (address &&& 0x001f).toNat ≤ 0x001f := and_toNat_le address 0x001f
  unfold core_ppu_palette_address
  dsimp only
  generalize address &&& 0x001f = low at hle
  split
  · bv_omega
  · omega

theorem memory_read_safe (address : U16) : PpuSafe origin (core_ppu_memory_read address) := by
  unfold core_ppu_memory_read
  dsimp only
  refine .ite (fun _ => ?_) fun hge => .ite (fun hlt => ?_) fun _ => ?_
  · refine .bind (.of_a12_tick _) fun _ => .bind_get fun v hv => ?_
    exact .of_access (ppu_read_in_bounds hv.cartridge _)
  · refine .bind_get fun v _ => .of_access ?_
    obtain ⟨hlo, hhi⟩ := nametable_address_range (not_lt.mp hge) hlt
    exact (Table.isSome_read _).mpr (ciram_address_lt v.cartridge hlo hhi)
  · refine .bind_get fun v _ => .of_access ?_
    exact (Table.isSome_read _).mpr (palette_address_lt _)

theorem memory_write_safe (address : U16) (value : U8) :
    PpuSafe origin (core_ppu_memory_write address value) := by
  unfold core_ppu_memory_write
  dsimp only
  refine .ite (fun _ => ?_) fun hge => .ite (fun hlt => ?_) fun _ => ?_
  · refine .bind (.of_a12_tick _) fun _ => .bind_get fun v hv => ?_
    obtain ⟨c, hc, hvalid⟩ := ppu_write_valid hv.cartridge (address &&& 0x3fff) value
    refine .bind_access (by rw [hc]; rfl) fun c' hc' => ?_
    obtain rfl : c = c' := Option.some.inj (hc.symm.trans hc')
    exact fun v' hv' => ⟨hv'.ppu, hvalid⟩
  · refine .bind_get fun v _ => .bind_access ?_ fun _ _ => .of_set_ppu fun _ h => h
    obtain ⟨hlo, hhi⟩ := nametable_address_range (not_lt.mp hge) hlt
    exact (Table.isSome_write _ _).mpr (ciram_address_lt v.cartridge hlo hhi)
  · refine .bind_get fun v _ => .bind_access ?_ fun _ _ => .of_set_ppu fun _ h => h
    exact (Table.isSome_write _ _).mpr (palette_address_lt _)

/-! ## Changes that keep the counters -/

theorem increment_coarse_x_in_range {p : Ppu} (h : p.InRange) :
    (core_ppu_increment_coarse_x p).InRange := by
  unfold core_ppu_increment_coarse_x
  split <;> exact h

theorem increment_y_in_range {p : Ppu} (h : p.InRange) : (core_ppu_increment_y p).InRange := by
  unfold core_ppu_increment_y
  dsimp only [Ppu.InRange] at h ⊢
  split <;> exact h

theorem shift_background_in_range {p : Ppu} (h : p.InRange) :
    (core_ppu_shift_background p).InRange := by
  unfold core_ppu_shift_background
  split <;> exact h

theorem load_background_in_range {p : Ppu} (h : p.InRange) :
    (core_ppu_load_background p).InRange := by
  unfold core_ppu_load_background
  split <;> exact h

theorem begin_sprite_evaluation_in_range {p : Ppu} (h : p.InRange) :
    (core_ppu_begin_sprite_evaluation p).InRange :=
  ⟨h.dot_le, h.scanline_le, h.selected_le, Nat.zero_le _, h.selected_eq, rfl, Nat.zero_le _, h.fine_x_le⟩

theorem select_sprites_in_range {p : Ppu} (h : p.InRange) : (select_sprites p).InRange :=
  ⟨h.dot_le, h.scanline_le, h.next_le, h.next_le, h.next_eq, h.next_eq, h.byte_le, h.fine_x_le⟩

theorem store_prefetch_in_range {p : Ppu} (h : p.InRange) : (store_prefetch p).InRange :=
  increment_coarse_x_in_range h

theorem tick_scroll_in_range {p : Ppu} (h : p.InRange) : (tick_scroll p).InRange := by
  unfold tick_scroll
  dsimp only
  have h1 := shift_background_in_range h
  generalize core_ppu_shift_background p = p1 at h1
  have h2 : (if p1.dot.toNat < 256 ∧ p1.dot &&& 7 = 7 then core_ppu_increment_coarse_x p1
      else p1).InRange := by
    split
    · exact increment_coarse_x_in_range h1
    · exact h1
  generalize (if p1.dot.toNat < 256 ∧ p1.dot &&& 7 = 7 then core_ppu_increment_coarse_x p1
      else p1) = p2 at h2
  have h3 : (if p2.dot = 255 then core_ppu_increment_y p2 else p2).InRange := by
    split
    · exact increment_y_in_range h2
    · exact h2
  generalize (if p2.dot = 255 then core_ppu_increment_y p2 else p2) = p3 at h3
  split
  · exact select_sprites_in_range h3
  · exact h3

theorem tick_vblank_counters (p : Ppu) :
    (tick_vblank p).dot = p.dot ∧ (tick_vblank p).scanline = p.scanline ∧
      (tick_vblank p).selected_sprite_count = p.selected_sprite_count ∧
      (tick_vblank p).secondary_oam_count = p.secondary_oam_count ∧
      (tick_vblank p).next_sprite_count = p.next_sprite_count ∧
      (tick_vblank p).next_secondary_oam_count = p.next_secondary_oam_count ∧
      (tick_vblank p).sprite_evaluation_byte = p.sprite_evaluation_byte ∧
      (tick_vblank p).fine_x = p.fine_x := by
  unfold tick_vblank
  dsimp only
  split_ifs <;> exact ⟨rfl, rfl, rfl, rfl, rfl, rfl, rfl, rfl⟩

theorem tick_advance_in_range (rendering_enabled : Bool) {p : Ppu} (h : p.InRange) :
    (tick_advance rendering_enabled p).InRange := by
  have hd := h.dot_le
  have hs := h.scanline_le
  unfold tick_advance
  dsimp only
  generalize hdot : (if p.scanline = 261 ∧ p.dot = 339 ∧ p.odd_frame = true ∧
    rendering_enabled = true then (340 : U16) else p.dot) + 1 = dot
  have hle : dot.toNat ≤ 341 := by
    subst hdot
    split <;> bv_omega
  obtain ⟨v1, v2, v3, v4, v5, v6, v7, v8⟩ := tick_vblank_counters { p with dot := dot }
  generalize tick_vblank { p with dot := dot } = q at v1 v2 v3 v4 v5 v6 v7 v8
  dsimp only at v1 v2 v3 v4 v5 v6 v7 v8
  have hcounters : ∀ dot' scanline' : U16, dot'.toNat ≤ 340 → scanline'.toNat ≤ 261 →
      PpuCounters dot' scanline' q.selected_sprite_count q.secondary_oam_count
        q.next_sprite_count q.next_secondary_oam_count q.sprite_evaluation_byte q.fine_x := by
    intro dot' scanline' hd' hs'
    rw [v3, v4, v5, v6, v7, v8]
    exact ⟨hd', hs', h.selected_le, h.next_le, h.selected_eq, h.next_eq, h.byte_le, h.fine_x_le⟩
  split
  · rename_i hlt
    exact hcounters q.dot q.scanline (by omega) (by rw [v2]; exact hs)
  split
  · rename_i hlt
    exact hcounters 0 (q.scanline + 1) (by decide) (by omega)
  · exact hcounters 0 0 (by decide) (by decide)

/-! ## The background -/

theorem fetch_background_safe : PpuSafe origin core_ppu_fetch_background := by
  unfold core_ppu_fetch_background
  refine .bind_ppu fun p _ => .ite (fun _ => .of_pure ()) fun _ => ?_
  refine .ite (fun _ => ?_) fun _ => .ite (fun _ => ?_) fun _ => .ite (fun _ => ?_) fun _ =>
    .ite (fun _ => ?_) fun _ => .of_pure ()
  all_goals exact .bind (memory_read_safe _) fun _ => .of_set_ppu fun _ h => h

theorem tick_background_safe (rendering_enabled : Bool) :
    PpuSafe origin (tick_background rendering_enabled) := by
  unfold tick_background
  refine .bind_ppu fun p _ => .bind (.of_perform_if fun _ => ?_) fun _ => ?_
  · refine .bind (.of_set_ppu fun p h => ?_) fun _ => .bind (.of_set_ppu fun p h => ?_) fun _ =>
      .bind fetch_background_safe fun _ => .of_set_ppu fun p h => load_background_in_range h
    · split <;> exact h
    · split <;> exact h
  · refine .of_set_ppu fun p h => ?_
    split <;> exact h

theorem tick_commit_safe : PpuSafe origin tick_commit := by
  unfold tick_commit
  refine .bind_ppu fun p _ => .ite (fun hc => ?_) fun _ => .of_pure ()
  obtain ⟨hline, hlo, hhi⟩ := hc
  refine .bind_access ((Table.isSome_read _).mpr (and_toNat_lt _ _ _ (by decide))) fun _ _ => ?_
  exact .bind_access ((Table.isSome_write _ _).mpr (by omega)) fun _ _ =>
    .of_set_ppu fun _ h => h

/-! ## Sprites -/

/-- The count of sprites found and the count of their copies move together, up to eight. -/
theorem next_count_in_range {p q : Ppu} (hp : p.InRange) (hne : p.next_sprite_count ≠ 8)
    (hq : q.InRange) (sprites : Table 8 U8) (secondary : Table 32 U8) :
    Ppu.InRange { q with
      next_sprites := sprites
      next_sprite_count := p.next_sprite_count + 1
      next_secondary_oam := secondary
      next_secondary_oam_count := p.next_secondary_oam_count + 1 } := by
  have hle := hp.next_le
  have heq := hp.next_eq
  refine ⟨hq.dot_le, hq.scanline_le, hq.selected_le, ?_, hq.selected_eq, ?_, hq.byte_le, hq.fine_x_le⟩
  · dsimp only
    bv_omega
  · dsimp only
    rw [heq]

theorem evaluate_sprite_safe (target_scanline : U16) :
    PpuSafe origin (core_ppu_evaluate_sprite target_scanline) := by
  unfold core_ppu_evaluate_sprite
  refine .bind_ppu fun p hp => ?_
  dsimp only
  have hbyte := hp.byte_le
  have hnext := hp.next_le
  have heq := hp.next_eq
  refine .bind (.of_set_ppu fun _ h => h) fun _ => .ite (fun _ => .of_pure ()) fun hindex =>
    .ite (fun _ => ?_) fun hne => ?_
  · refine .bind_access ((Table.isSome_read _).mpr (by omega)) fun _ _ => ?_
    refine .of_set_ppu fun q hq => ?_
    exact ⟨hq.dot_le, hq.scanline_le, hq.selected_le, hq.next_le, hq.selected_eq, hq.next_eq,
      and_toNat_le _ 3, hq.fine_x_le⟩
  · have hlt : p.next_sprite_count.toNat < 8 := by
      rcases Nat.lt_or_eq_of_le hnext with h | h
      · exact h
      · exact absurd (BitVec.eq_of_toNat_eq h) hne
    refine .bind_access ((Table.isSome_read _).mpr (by omega)) fun _ _ => ?_
    refine .ite (fun _ => .of_pure ()) fun _ => ?_
    refine .bind_access ((Table.isSome_write _ _).mpr hlt) fun sprites _ => ?_
    have hcount : p.next_secondary_oam_count.toNat < 8 := by
      rw [← heq]
      exact hlt
    obtain ⟨t, ht⟩ := Table.copy_of_le p.next_secondary_oam
      (i := p.next_secondary_oam_count.toNat * 4) p.oam
      (j := p.sprite_evaluation_index.toNat * 4) (k := 4) (by omega) (by omega)
    refine .bind_access (by rw [ht]; rfl) fun secondary _ => .of_set_ppu fun q hq => ?_
    exact next_count_in_range hp hne hq sprites secondary

theorem store_sprite_pattern_safe {slot : U8} (hslot : slot.toNat < 8) (high : Bool)
    (value : U8) : PpuSafe origin (store_sprite_pattern slot high value) := by
  unfold store_sprite_pattern
  refine .bind_ppu fun p _ => .ite (fun _ => ?_) fun _ => ?_
  all_goals exact .bind_access ((Table.isSome_write _ _).mpr hslot) fun _ _ =>
    .of_set_ppu fun _ h => h

theorem fetch_sprite_pattern_safe {slot : U8} (hslot : slot.toNat < 8) (high : Bool) :
    PpuSafe origin (core_ppu_fetch_sprite_pattern slot high) := by
  unfold core_ppu_fetch_sprite_pattern
  refine .bind_ppu fun p _ => ?_
  refine .bind_access ((Table.isSome_read _).mpr (by omega)) fun _ _ => ?_
  refine .bind_access ((Table.isSome_read _).mpr (by omega)) fun _ _ => ?_
  refine .bind_access ((Table.isSome_read _).mpr (by omega)) fun _ _ => ?_
  dsimp only
  refine .ite (fun _ => ?_) fun _ => ?_
  all_goals exact .bind (memory_read_safe _) fun _ => store_sprite_pattern_safe hslot _ _

/-- By induction on the sprites still to look at: every slot is below the count. -/
theorem sprite_sample_from_safe (x y : U16) (background_color : U8) (n i : ℕ)
    (h : i + n ≤ 8) : PpuSafe origin (sprite_sample_from x y background_color n i) := by
  induction n generalizing i with
  | zero => exact .of_pure _
  | succ n ih =>
    have hnext := ih (i + 1) (by omega)
    rw [sprite_sample_from]
    refine .bind_ppu fun p _ => ?_
    dsimp only
    refine .bind_access ((Table.isSome_read _).mpr (by omega)) fun _ _ => ?_
    refine .bind_access ((Table.isSome_read _).mpr (by omega)) fun _ _ => ?_
    refine .bind_access ((Table.isSome_read _).mpr (by omega)) fun _ _ => ?_
    refine .bind_access ((Table.isSome_read _).mpr (by omega)) fun _ _ => ?_
    refine .ite (fun _ => hnext) fun _ => .ite (fun _ => hnext) fun _ => ?_
    refine .bind_access ((Table.isSome_read _).mpr (by omega)) fun _ _ => ?_
    refine .bind_access ((Table.isSome_read _).mpr (by omega)) fun _ _ => ?_
    refine .ite (fun _ => hnext) fun _ => ?_
    refine .bind (.of_perform_if fun _ => .of_set_ppu fun _ h => h) fun _ => ?_
    exact .ite (fun _ => .of_pure _) fun _ => .bind (memory_read_safe _) fun _ => .of_pure _

theorem sprite_sample_safe (x y : U16) (background_color : U8) :
    PpuSafe origin (core_ppu_sprite_sample x y background_color) := by
  refine .bind_ppu fun p hp => sprite_sample_from_safe _ _ _ _ _ ?_
  have hle := hp.selected_le
  omega

/-! ## One dot -/

theorem tick_pixel_safe : PpuSafe origin tick_pixel := by
  unfold tick_pixel
  refine .bind_ppu fun p _ => .ite (fun _ => ?_) fun _ => .of_pure ()
  dsimp only
  refine .bind (memory_read_safe _) fun _ => .bind (.ite (fun _ => sprite_sample_safe _ _ _)
    fun _ => .of_pure _) fun _ => .bind_ppu fun p _ => ?_
  exact .bind_access ((Table.isSome_write _ _).mpr (and_toNat_lt _ _ _ (by decide)))
    fun _ _ => .of_set_ppu fun _ h => h

theorem tick_clear_safe : PpuSafe origin tick_clear := by
  unfold tick_clear
  refine .bind_ppu fun p _ => .ite (fun hc => ?_) fun _ => .of_pure ()
  exact .bind_access ((Table.isSome_write _ _).mpr (by omega)) fun _ _ =>
    .of_set_ppu fun _ h => h

theorem tick_sprite_fetch_safe : PpuSafe origin tick_sprite_fetch := by
  unfold tick_sprite_fetch
  refine .bind_ppu fun p _ => .ite (fun hc => ?_) fun _ => .of_pure ()
  have hslot : (((p.dot - 257) >>> 3).truncate 8 : U8).toNat < 8 := by
    rw [BitVec.truncate_eq_setWidth, BitVec.toNat_setWidth, BitVec.toNat_ushiftRight,
      Nat.shiftRight_eq_div_pow]
    bv_omega
  dsimp only
  refine .ite (fun _ => fetch_sprite_pattern_safe hslot _) fun _ => ?_
  exact .ite (fun _ => fetch_sprite_pattern_safe hslot _) fun _ => .of_pure ()

theorem tick_sprites_safe (rendering_enabled : Bool) :
    PpuSafe origin (tick_sprites rendering_enabled) := by
  unfold tick_sprites
  refine .bind_ppu fun p _ => .ite (fun _ => ?_) fun _ => .of_pure ()
  refine .bind tick_clear_safe fun _ => .bind (.of_set_ppu fun p h => ?_) fun _ =>
    .bind (.of_perform_if fun _ => evaluate_sprite_safe _) fun _ =>
    .bind (.of_set_ppu fun p h => tick_scroll_in_range h) fun _ =>
    .bind tick_sprite_fetch_safe fun _ => .of_set_ppu fun p h => ?_
  · split
    · exact begin_sprite_evaluation_in_range h
    · exact h
  · split
    · exact store_prefetch_in_range h
    · exact h

/-- **One dot.** Every index of the dot is inside its array, and the counters stay in range. -/
theorem ppu_tick_safe : PpuSafe origin core_ppu_tick := by
  unfold core_ppu_tick
  refine .bind_ppu fun p _ => ?_
  dsimp only
  exact .bind (.of_a12_tick _) fun _ => .bind (tick_background_safe _) fun _ =>
    .bind tick_commit_safe fun _ => .bind tick_pixel_safe fun _ =>
    .bind (tick_sprites_safe _) fun _ => .of_set_ppu fun p h => tick_advance_in_range _ h

/-! ## Registers -/

theorem ppu_reset_in_range {p : Ppu} (h : p.InRange) (kind : ResetKind) :
    (core_ppu_reset p kind).InRange := by
  cases kind with
  | power => exact zero_in_range
  | warm => exact h

theorem register_read_safe (register_index : U8) :
    PpuSafe origin (register_read register_index) := by
  unfold register_read
  refine .bind_ppu fun p _ => .ite (fun _ => ?_) fun _ => .ite (fun _ => ?_) fun _ =>
    .ite (fun _ => ?_) fun _ => .of_pure _
  · exact .bind (.of_set_ppu fun _ h => h) fun _ => .of_pure _
  · refine .bind (memory_read_safe _) fun _ => .bind (.ite (fun _ => memory_read_safe _)
      fun _ => .of_pure _) fun _ => .bind (.of_set_ppu fun _ h => h) fun _ => .of_pure _
  · exact .of_access ((Table.isSome_read _).mpr p.oam_address.isLt)

theorem ppu_cpu_read_safe (register_index : U8) :
    PpuSafe origin (core_ppu_cpu_read register_index) :=
  .bind (register_read_safe _) fun _ => .bind (.of_set_ppu fun _ h => h) fun _ => .of_pure _

theorem scroll_write_in_range {p : Ppu} (h : p.InRange) (value : U8) :
    (scroll_write value p).InRange := by
  unfold scroll_write
  split
  · exact ⟨h.dot_le, h.scanline_le, h.selected_le, h.next_le, h.selected_eq, h.next_eq, h.byte_le,
      and_toNat_le value 7⟩
  · exact h

theorem address_write_safe (value : U8) : PpuSafe origin (address_write value) := by
  unfold address_write
  refine .bind_ppu fun p _ => .ite (fun _ => .of_set_ppu fun _ h => h) fun _ => ?_
  exact .bind (.of_set_ppu fun _ h => h) fun _ => .of_a12_tick _

/-- **Every register write** keeps the counters in range. -/
theorem ppu_cpu_write_safe (register_index value : U8) :
    PpuSafe origin (core_ppu_cpu_write register_index value) := by
  unfold core_ppu_cpu_write
  refine .bind (.of_set_ppu fun _ h => h) fun _ => ?_
  refine .ite (fun _ => .of_set_ppu fun _ h => h) fun _ =>
    .ite (fun _ => .of_set_ppu fun _ h => h) fun _ =>
    .ite (fun _ => .of_set_ppu fun _ h => h) fun _ =>
    .ite (fun _ => ?_) fun _ =>
    .ite (fun _ => .of_set_ppu fun _ h => scroll_write_in_range h value) fun _ =>
    .ite (fun _ => address_write_safe value) fun _ =>
    .ite (fun _ => ?_) fun _ => .of_pure ()
  · refine .bind_ppu fun p _ => .bind_access ?_ fun _ _ => .of_set_ppu fun _ h => h
    exact (Table.isSome_write _ _).mpr p.oam_address.isLt
  · exact .bind_ppu fun p _ => .bind (memory_write_safe _ _) fun _ => .of_set_ppu fun _ h => h

end Bounds

end Nxvm.Nes
