/-
An overlay is a flat array.

The array is initialised from the base and changed by the writes. A request that fails may
have been carried out up to some byte; a request that succeeds was carried out, and what it
reads is what the array has. Nothing of this depends on where a request meets the borders of
pages, or on which call into the environment fails.
-/
import Nxvm.Storage.Medium

set_option autoImplicit false

namespace Nxvm.Storage

open Nxvm.Lib.Exec Nxvm.Lib.Span
open Nxvm.Machine (Status)

/-! ## Flat arrays -/

/-- A request to a medium. -/
inductive MediumCall where
  | read_at (offset byte_count : ℕ)
  | write_at (offset : ℕ) (bytes : List Byte)
  | fill_at (offset byte_count : ℕ) (value : Byte)
  deriving DecidableEq, Repr

/-- The answer: the bytes of a read, nothing of a write, or an error. -/
abbrev MediumAnswer := Except Status (List Byte)

/-- The bytes that a request writes, and where. -/
def MediumCall.written : MediumCall → ℕ × List Byte
  | .read_at offset _ => (offset, [])
  | .write_at offset bytes => (offset, bytes)
  | .fill_at offset byte_count value => (offset, List.replicate byte_count value)

/-- The bytes that a request reads from an array. -/
def MediumCall.reads (flat : ℕ → Byte) : MediumCall → List Byte
  | .read_at offset byte_count => slice flat offset byte_count
  | _ => []

/-- The request lies in an array of this size. -/
def MediumCall.Inside (byte_count : ℕ) : MediumCall → Prop
  | .read_at offset count => offset + count ≤ byte_count
  | .write_at offset bytes => offset + bytes.length ≤ byte_count
  | .fill_at offset count _ => offset + count ≤ byte_count

/-- A request to an array: one that succeeds is carried out, and one that fails was carried
out up to some byte. -/
inductive FlatStep (byte_count : ℕ) (flat : ℕ → Byte) (call : MediumCall) :
    MediumAnswer → (ℕ → Byte) → Prop
  | done (h : call.Inside byte_count) : FlatStep byte_count flat call (.ok (call.reads flat))
      (overwrite flat call.written.1 call.written.2)
  | failed (status : Status) (landed : ℕ) (h : landed ≤ call.written.2.length) :
      FlatStep byte_count flat call (.error status)
        (overwrite flat call.written.1 (call.written.2.take landed))

/-- Requests one after the other. -/
inductive FlatRun (byte_count : ℕ) :
    (ℕ → Byte) → List (MediumCall × MediumAnswer) → (ℕ → Byte) → Prop
  | nil (flat : ℕ → Byte) : FlatRun byte_count flat [] flat
  | cons {flat mid last : ℕ → Byte} {call : MediumCall} {answer : MediumAnswer}
      {rest : List (MediumCall × MediumAnswer)} (hstep : FlatStep byte_count flat call answer mid)
      (hrest : FlatRun byte_count mid rest last) :
      FlatRun byte_count flat ((call, answer) :: rest) last

/-! ## Bases -/

/-- What an overlay is over: nothing but a size, or a file, whose size is a positive `lib_i64`. -/
inductive OverlayBase where
  | zero (byte_count : ℕ)
  | file (bytes : List Byte) (h : bytes.length < 2 ^ 63)

def OverlayBase.byte_count : OverlayBase → ℕ
  | .zero byte_count => byte_count
  | .file bytes _ => bytes.length

/-- The bytes of the base. -/
def OverlayBase.flat : OverlayBase → ℕ → Byte
  | .zero _ => fun _ => 0
  | .file bytes _ => fun i => bytes.getD i 0

/-- The file of these bytes, with its stream anywhere. -/
def base_file (bytes : List Byte) (position : ℕ) : StorageFile :=
  { bytes := fun i => bytes.getD i 0, byte_count := bytes.length, position }

/-- The file of the base, with its stream anywhere. -/
def OverlayBase.Has : OverlayBase → Option StorageFile → Prop
  | .zero _, opened => opened = none
  | .file bytes _, opened => ∃ position, opened = some (base_file bytes position)

/-- `lib_storage_medium_create_zero_overlay`, and `lib_storage_medium_open` of the file. -/
def overlay_open (base : OverlayBase) : Medium where
  file :=
    match base with
    | .zero _ => none
    | .file bytes _ => some (base_file bytes 0)
  pages _ := none
  byte_count := base.byte_count
  mode := .overlay

/-- The byte of a medium at an offset: its page's, or the base's. -/
def medium_view (base : OverlayBase) (pages : ℕ → Option Page) (i : ℕ) : Byte :=
  match pages (i / page_bytes) with
  | some page => page (i % page_bytes)
  | none => base.flat i

/-- An overlay on `base` with these pages. -/
structure Holds (base : OverlayBase) (pages : ℕ → Option Page) (lease : Lease) : Prop where
  mode : lease.medium.mode = .overlay
  byte_count : lease.medium.byte_count = base.byte_count
  file : base.Has lease.medium.file
  pages : lease.medium.pages = pages

/-- An overlay on `base` that reads as `flat`. -/
def Shows (base : OverlayBase) (flat : ℕ → Byte) (lease : Lease) : Prop :=
  ∃ pages, Holds base pages lease ∧ medium_view base pages = flat

theorem overlay_open_shows (base : OverlayBase) (turn : ℕ) :
    Shows base base.flat { medium := overlay_open base, turn } := by
  refine ⟨fun _ => none, ⟨rfl, rfl, ?_, rfl⟩, rfl⟩
  cases base with
  | zero byte_count => rfl
  | file bytes h => exact ⟨0, rfl⟩

/-- Behind the end of the base there is nothing. -/
theorem OverlayBase.flat_beyond (base : OverlayBase) {i : ℕ} (h : base.byte_count ≤ i) :
    base.flat i = 0 := by
  cases base with
  | zero byte_count => rfl
  | file bytes _ => exact List.getD_eq_default _ _ h

section Overlay

variable {env : Environment} {base : OverlayBase} {pages : ℕ → Option Page}

/-! ## Calls into the environment -/

/-- The turn does not matter. -/
theorem Holds.turned {lease : Lease} (h : Holds base pages lease) (turn : ℕ) :
    Holds base pages { lease with turn } := ⟨h.mode, h.byte_count, h.file, h.pages⟩

theorem next_turn_spec : Triple (Holds base pages) next_turn (fun _ => Holds base pages)
    (fun _ => Holds base pages) := by
  unfold next_turn
  refine Triple.bind (M := fun _ => Holds base pages) (Triple.of_query fun s h => h) fun turn => ?_
  refine Triple.bind (M := fun _ => Holds base pages)
    (Triple.of_update fun s h => h.turned (turn + 1)) fun _ => ?_
  exact Triple.of_pure fun s h => h

theorem allocate_spec : Triple (Holds base pages) (allocate env) (fun _ => Holds base pages)
    (fun _ => Holds base pages) := by
  unfold allocate
  refine Triple.bind next_turn_spec fun turn => ?_
  exact Triple.of_raise_if (fun _ s h => h) fun _ s h => h

section File

variable {bytes : List Byte} {hbytes : bytes.length < 2 ^ 63}

/-- The stream may move. -/
theorem set_file_spec (position : ℕ) :
    Triple (Holds (.file bytes hbytes) pages) (set_file (base_file bytes position))
      (fun _ => Holds (.file bytes hbytes) pages) (fun _ => Holds (.file bytes hbytes) pages) :=
  Triple.of_update fun _ h => ⟨h.mode, h.byte_count, ⟨position, rfl⟩, h.pages⟩

theorem file_seek_absolute_spec (position offset : ℕ) :
    Triple (Holds (.file bytes hbytes) pages)
      (file_seek_absolute env (base_file bytes position) offset)
      (fun file s => Holds (.file bytes hbytes) pages s ∧ file = base_file bytes offset)
      (fun _ => Holds (.file bytes hbytes) pages) := by
  unfold file_seek_absolute
  refine Triple.bind (M := fun _ => Holds (.file bytes hbytes) pages)
    (Triple.of_raise_if (fun _ s h => h) fun _ s h => h) fun _ => ?_
  refine Triple.bind next_turn_spec fun turn => ?_
  refine Triple.bind (set_file_spec _) fun _ => ?_
  cases hseeks : env.seeks turn with
  | false => exact Triple.of_throw fun s h => h
  | true => exact Triple.of_pure fun s h => ⟨h, rfl⟩

theorem file_read_exact_spec (offset byte_count : ℕ) :
    Triple (Holds (.file bytes hbytes) pages)
      (file_read_exact env (base_file bytes offset) byte_count)
      (fun read s => Holds (.file bytes hbytes) pages s ∧
        read = slice (OverlayBase.flat (.file bytes hbytes)) offset byte_count)
      (fun _ => Holds (.file bytes hbytes) pages) := by
  unfold file_read_exact
  refine Triple.bind next_turn_spec fun turn => ?_
  dsimp only
  refine Triple.bind (set_file_spec _) fun _ => ?_
  generalize transferred env turn _ = read
  refine Triple.bind (M := fun _ s => Holds (.file bytes hbytes) pages s ∧ read = byte_count)
    (Triple.of_raise_if (fun _ s h => h) fun hread s h => ⟨h, ?_⟩) fun _ => ?_
  · simp only [Bool.or_eq_false_iff, decide_eq_false_iff_not, not_not] at hread
    exact hread.1
  · exact Triple.of_pure fun s h => ⟨h.1, by rw [h.2]; rfl⟩

end File

/-- A read of the base has its bytes. -/
theorem medium_read_base_spec (offset byte_count : ℕ) :
    Triple (Holds base pages) (medium_read_base env offset byte_count)
      (fun read s => Holds base pages s ∧ read = slice base.flat offset byte_count)
      (fun _ => Holds base pages) := by
  unfold medium_read_base
  split_ifs with hzero
  · rw [hzero]
    exact Triple.of_pure fun s h => ⟨h, rfl⟩
  refine Triple.bind_get fun s h => ?_
  cases base with
  | zero size =>
    rw [show s.medium.file = none from h.file]
    refine Triple.of_pure fun s' hs => ⟨hs ▸ h, ?_⟩
    exact (slice_const 0 offset byte_count).symm
  | file bytes hbytes =>
    obtain ⟨position, hfile⟩ := h.file
    rw [hfile]
    refine Triple.conseq (P := Holds (.file bytes hbytes) pages) ?_ (fun s' hs => hs ▸ h)
      (fun _ _ h => h) (fun _ _ h => h)
    refine Triple.bind (file_seek_absolute_spec position offset) fun file => ?_
    refine Triple.assume fun hfile => ?_
    rw [hfile]
    exact file_read_exact_spec offset byte_count

/-! ## Pages -/

/-- Where the bytes of one page are. -/
theorem page_index {offset j : ℕ} (h : j < page_bytes - offset % page_bytes) :
    (offset + j) / page_bytes = offset / page_bytes ∧
      (offset + j) % page_bytes = offset % page_bytes + j := by
  unfold page_bytes at h ⊢
  omega

/-- A new page shows what the base has there. -/
theorem medium_view_new_page {index : ℕ} (hnone : pages index = none) {size : ℕ}
    (hsize : size = min (base.byte_count - index * page_bytes) page_bytes) :
    medium_view base (Function.update pages index
      (some fun i => (slice base.flat (index * page_bytes) size).getD i 0)) =
      medium_view base pages := by
  funext i
  unfold medium_view
  by_cases hi : i / page_bytes = index
  · rw [hi, Function.update_self, hnone]
    dsimp only
    have hsplit : index * page_bytes + i % page_bytes = i := by
      rw [← hi]
      exact Nat.div_add_mod' i page_bytes
    have hlt : i % page_bytes < page_bytes := Nat.mod_lt i (by decide)
    by_cases hin : i % page_bytes < size
    · rw [List.getD_eq_getElem _ _ (by rw [slice_length]; exact hin), slice_getElem, hsplit]
    · rw [List.getD_eq_default _ _ (by rw [slice_length]; omega), base.flat_beyond (by omega)]
  · rw [Function.update_of_ne hi]

/-- There is a page to write to, and it changed nothing that is read. -/
theorem medium_page_for_write_spec (index : ℕ) :
    Triple (Holds base pages) (medium_page_for_write env index)
      (fun page s => ∃ pages', Holds base pages' s ∧ pages' index = some page ∧
        medium_view base pages' = medium_view base pages)
      (fun _ => Holds base pages) := by
  unfold medium_page_for_write
  refine Triple.bind_get fun s h => ?_
  dsimp only
  cases hpage : s.medium.pages index with
  | some page =>
    dsimp only
    refine Triple.of_pure fun s' hs => ⟨pages, hs ▸ h, ?_, rfl⟩
    rw [← h.pages]
    exact hpage
  | none =>
    refine Triple.conseq (P := Holds base pages) ?_ (fun s' hs => hs ▸ h) (fun _ _ h => h)
      (fun _ _ h => h)
    refine Triple.bind allocate_spec fun _ => ?_
    refine Triple.bind (medium_read_base_spec _ _) fun read => ?_
    refine Triple.assume fun hread => ?_
    rw [h.byte_count] at hread
    rw [hread]
    refine Triple.bind (M := fun _ => Holds base (Function.update pages index
      (some fun i => (slice base.flat (index * page_bytes)
        (min (base.byte_count - index * page_bytes) page_bytes)).getD i 0)))
      (Triple.of_update fun s' hs => ⟨hs.mode, hs.byte_count, hs.file, by rw [← hs.pages]⟩)
      fun _ => ?_
    refine Triple.of_pure fun s' hs => ⟨_, hs, Function.update_self _ _ _, ?_⟩
    exact medium_view_new_page (by rw [← h.pages]; exact hpage) rfl

/-- A part of a page that is written is a part of the array that is written. -/
theorem medium_view_write {page : Page} {offset : ℕ} {bytes : List Byte}
    (hpage : pages (offset / page_bytes) = some page)
    (hbytes : bytes.length ≤ page_bytes - offset % page_bytes) :
    medium_view base (Function.update pages (offset / page_bytes)
      (some (overwrite page (offset % page_bytes) bytes))) =
      overwrite (medium_view base pages) offset bytes := by
  funext i
  have hbelow : offset / page_bytes * page_bytes + offset % page_bytes = offset :=
    Nat.div_add_mod' offset page_bytes
  have hsplit : i / page_bytes * page_bytes + i % page_bytes = i := Nat.div_add_mod' i page_bytes
  by_cases hi : i / page_bytes = offset / page_bytes
  · have hview : medium_view base pages i = page (i % page_bytes) := by
      unfold medium_view
      rw [hi, hpage]
    have hoffset : offset ≤ i ↔ offset % page_bytes ≤ i % page_bytes := by
      rw [hi] at hsplit
      omega
    have hat : i % page_bytes - offset % page_bytes = i - offset := by
      rw [hi] at hsplit
      omega
    unfold overwrite
    rw [hview]
    unfold medium_view
    rw [hi, Function.update_self]
    simp only [hoffset, hat]
  · rw [overwrite_outside]
    · unfold medium_view
      rw [Function.update_of_ne hi]
    · by_contra hin
      rw [not_or, not_lt, not_le] at hin
      obtain ⟨j, rfl⟩ := Nat.exists_eq_add_of_le hin.1
      exact hi (page_index (by omega)).1

theorem write_page_spec {offset : ℕ} {bytes : List Byte}
    (hbytes : bytes.length ≤ page_bytes - offset % page_bytes) (flat : ℕ → Byte) :
    Triple (Shows base flat) (write_page env offset bytes)
      (fun _ => Shows base (overwrite flat offset bytes)) (fun _ => Shows base flat) := by
  refine Triple.of_exists fun pages => Triple.assume fun hflat => ?_
  unfold write_page
  refine Triple.bind (M := fun page s => ∃ pages', Holds base pages' s ∧
    pages' (offset / page_bytes) = some page ∧ medium_view base pages' = medium_view base pages)
    ((medium_page_for_write_spec _).weaken (fun _ _ h => h) fun _ s h => ⟨pages, h, hflat⟩)
    fun page => ?_
  refine Triple.of_update fun s h => ?_
  obtain ⟨pages', hs, hpage, hview⟩ := h
  refine ⟨_, ⟨hs.mode, hs.byte_count, hs.file, rfl⟩, ?_⟩
  rw [hs.pages, medium_view_write hpage hbytes, hview, hflat]

theorem read_page_spec {offset count : ℕ} (hcount : count ≤ page_bytes - offset % page_bytes)
    (flat : ℕ → Byte) :
    Triple (Shows base flat) (read_page env offset count)
      (fun read s => Shows base flat s ∧ read = slice flat offset count)
      (fun _ => Shows base flat) := by
  refine Triple.of_exists fun pages => Triple.assume fun hflat => ?_
  unfold read_page
  refine Triple.bind_get fun s h => ?_
  rw [h.pages]
  have hindex (j : ℕ) (hj : j < count) : flat (offset + j) =
      match pages (offset / page_bytes) with
      | some page => page (offset % page_bytes + j)
      | none => base.flat (offset + j) := by
    have hpart : j < page_bytes - offset % page_bytes := by omega
    obtain ⟨hdiv, hmod⟩ := page_index hpart
    rw [← hflat, medium_view, hdiv, hmod]
  cases hpage : pages (offset / page_bytes) with
  | some page =>
    simp only [hpage] at hindex
    refine Triple.of_pure fun s' hs => ⟨⟨pages, hs ▸ h, hflat⟩, ?_⟩
    exact slice_congr fun j hj => (hindex j hj).symm
  | none =>
    simp only [hpage] at hindex
    refine Triple.conseq (medium_read_base_spec _ _)
      (fun s' hs => hs ▸ h) (fun read s' hs => ⟨⟨pages, hs.1, hflat⟩, ?_⟩)
      (fun _ s' hs => ⟨pages, hs, hflat⟩)
    exact hs.2.trans (slice_congr fun j hj => (hindex j hj).symm)

/-! ## Requests -/

/-- The first bytes of a write have landed. -/
def Landed (base : OverlayBase) (flat : ℕ → Byte) (offset : ℕ) (bytes : List Byte)
    (lease : Lease) : Prop :=
  ∃ landed ≤ bytes.length, Shows base (overwrite flat offset (bytes.take landed)) lease

theorem Landed.nothing {flat : ℕ → Byte} {lease : Lease} (h : Shows base flat lease)
    (offset : ℕ) (bytes : List Byte) : Landed base flat offset bytes lease :=
  ⟨0, Nat.zero_le _, by rwa [List.take_zero, overwrite_nil]⟩

/-- What landed of the second part of a write has landed of the write. -/
theorem Landed.rest {flat : ℕ → Byte} {lease : Lease} {offset count : ℕ} {bytes : List Byte}
    (hcount : count ≤ bytes.length)
    (h : Landed base (overwrite flat offset (bytes.take count)) (offset + count)
      (bytes.drop count) lease) : Landed base flat offset bytes lease := by
  obtain ⟨landed, hlanded, hshows⟩ := h
  rw [List.length_drop] at hlanded
  rw [overwrite_take_drop flat offset bytes count landed hcount] at hshows
  exact ⟨count + landed, by omega, hshows⟩

/-- The first part of a write, and the rest. -/
theorem overwrite_parts (flat : ℕ → Byte) (offset : ℕ) {count : ℕ} {bytes : List Byte}
    (hcount : count ≤ bytes.length) :
    overwrite (overwrite flat offset (bytes.take count)) (offset + count) (bytes.drop count) =
      overwrite flat offset bytes := by
  have hrest : (bytes.drop count).take (bytes.length - count) = bytes.drop count :=
    List.take_of_length_le (by rw [List.length_drop])
  have hparts := overwrite_take_drop flat offset bytes count (bytes.length - count) hcount
  rwa [hrest, Nat.add_sub_cancel' hcount, List.take_length] at hparts

theorem read_pages_spec (offset byte_count : ℕ) (flat : ℕ → Byte) :
    Triple (Shows base flat) (read_pages env offset byte_count)
      (fun read s => Shows base flat s ∧ read = slice flat offset byte_count)
      (fun _ => Shows base flat) := by
  induction byte_count using Nat.strongRecOn generalizing offset with
  | ind byte_count ih =>
    rw [read_pages]
    split_ifs with hzero
    · rw [hzero]
      exact Triple.of_pure fun s h => ⟨h, rfl⟩
    dsimp only
    have hpart : 0 < page_part offset byte_count ∧ page_part offset byte_count ≤ byte_count := by
      have := Nat.mod_lt offset (show 0 < page_bytes by decide)
      unfold page_part
      omega
    have hpage : page_part offset byte_count ≤ page_bytes - offset % page_bytes :=
      Nat.min_le_left _ _
    refine Triple.bind (read_page_spec hpage flat) fun read => ?_
    refine Triple.assume fun hread => ?_
    refine Triple.bind (ih _ (by omega) (offset + page_part offset byte_count)) fun rest => ?_
    refine Triple.assume fun hrest => ?_
    refine Triple.of_pure fun s h => ⟨h, ?_⟩
    rw [hread, hrest, slice_append, Nat.add_sub_cancel' hpart.2]

theorem write_pages_spec (offset : ℕ) (bytes : List Byte) (flat : ℕ → Byte) :
    Triple (Shows base flat) (write_pages env offset bytes)
      (fun _ => Shows base (overwrite flat offset bytes))
      (fun _ => Landed base flat offset bytes) := by
  induction hlength : bytes.length using Nat.strongRecOn generalizing offset bytes flat with
  | ind length ih =>
    rw [write_pages]
    split_ifs with hzero
    · rw [List.length_eq_zero_iff.mp hzero]
      exact Triple.of_pure fun s h => by rwa [overwrite_nil]
    dsimp only
    have hpart : 0 < page_part offset bytes.length ∧
        page_part offset bytes.length ≤ bytes.length := by
      have := Nat.mod_lt offset (show 0 < page_bytes by decide)
      unfold page_part
      omega
    have htake : (bytes.take (page_part offset bytes.length)).length ≤
        page_bytes - offset % page_bytes := by
      rw [List.length_take]
      exact (Nat.min_le_left _ _).trans (Nat.min_le_left _ _)
    refine Triple.bind ((write_page_spec htake flat).weaken (fun _ _ h => h)
      fun _ s h => Landed.nothing h offset bytes) fun _ => ?_
    refine (ih _ ?_ _ _ _ rfl).weaken (fun _ s h => ?_) fun _ s h => Landed.rest hpart.2 h
    · rw [List.length_drop]
      omega
    · rwa [overwrite_parts flat offset hpart.2] at h

/-- The range check of a request. -/
theorem medium_range_iff {flat : ℕ → Byte} {lease : Lease} (h : Shows base flat lease)
    (offset byte_count : ℕ) :
    medium_range lease.medium offset byte_count = true ↔
      offset + byte_count ≤ base.byte_count := by
  obtain ⟨pages, h, -⟩ := h
  unfold medium_range
  rw [h.byte_count, Bool.and_eq_true, decide_eq_true_eq, decide_eq_true_eq]
  omega

theorem Shows.overlay {flat : ℕ → Byte} {lease : Lease} (h : Shows base flat lease) :
    lease.medium.mode = .overlay := by
  obtain ⟨pages, h, -⟩ := h
  exact h.mode

theorem medium_read_at_spec (offset byte_count : ℕ) (flat : ℕ → Byte) :
    Triple (Shows base flat) (medium_read_at env offset byte_count)
      (fun read s => (Shows base flat s ∧ read = slice flat offset byte_count) ∧
        offset + byte_count ≤ base.byte_count)
      (fun _ => Shows base flat) := by
  unfold medium_read_at
  refine Triple.bind_get fun s h => ?_
  dsimp only
  refine Triple.bind (M := fun _ s' => Shows base flat s' ∧ offset + byte_count ≤ base.byte_count)
    (Triple.of_raise_if (fun _ s' hs => hs ▸ h) fun hrange s' hs =>
      ⟨hs ▸ h, (medium_range_iff h _ _).mp (by simpa using hrange)⟩) fun _ => ?_
  refine Triple.assume fun hinside => ?_
  rw [if_neg (not_not.mpr h.overlay)]
  exact (read_pages_spec offset byte_count flat).weaken (fun _ _ h => ⟨h, hinside⟩) fun _ _ h => h

theorem medium_write_spec (offset : ℕ) (bytes : List Byte) (flat : ℕ → Byte) :
    Triple (Shows base flat) (medium_write env offset bytes)
      (fun _ s => Shows base (overwrite flat offset bytes) s ∧
        offset + bytes.length ≤ base.byte_count)
      (fun _ => Landed base flat offset bytes) := by
  unfold medium_write
  refine Triple.bind_get fun s h => ?_
  dsimp only
  refine Triple.bind (M := fun _ s' => Shows base flat s' ∧
      offset + bytes.length ≤ base.byte_count)
    (Triple.of_raise_if (fun _ s' hs => Landed.nothing (hs ▸ h) offset bytes)
      fun hrange s' hs => ⟨hs ▸ h, (medium_range_iff h _ _).mp (by simpa using hrange)⟩)
    fun _ => ?_
  refine Triple.assume fun hinside => ?_
  rw [h.overlay]
  exact (write_pages_spec offset bytes flat).weaken (fun _ _ h => ⟨h, hinside⟩) fun _ _ h => h

theorem medium_write_at_spec (offset : ℕ) (bytes : List Byte) (flat : ℕ → Byte) :
    Triple (Shows base flat) (medium_write_at env offset bytes)
      (fun _ s => Shows base (overwrite flat offset bytes) s ∧
        offset + bytes.length ≤ base.byte_count)
      (fun _ => Landed base flat offset bytes) := by
  unfold medium_write_at
  refine Triple.bind (medium_write_spec offset bytes flat) fun _ => ?_
  refine Triple.bind_get fun s h => ?_
  unfold perform_if
  rw [if_neg (by rw [h.1.overlay]; decide)]
  exact Triple.of_pure fun s' hs => hs ▸ h

theorem fill_chunks_spec (offset byte_count : ℕ) (value : Byte) (flat : ℕ → Byte) :
    Triple (Shows base flat) (fill_chunks env offset byte_count value)
      (fun _ => Shows base (overwrite flat offset (List.replicate byte_count value)))
      (fun _ => Landed base flat offset (List.replicate byte_count value)) := by
  induction byte_count using Nat.strongRecOn generalizing offset flat with
  | ind byte_count ih =>
    rw [fill_chunks]
    split_ifs with hzero
    · rw [hzero, List.replicate_zero]
      exact Triple.of_pure fun s h => by rwa [overwrite_nil]
    dsimp only
    have hcount : min byte_count 512 ≤ (List.replicate byte_count value).length := by
      rw [List.length_replicate]
      exact Nat.min_le_left _ _
    have htake : List.replicate (min byte_count 512) value =
        (List.replicate byte_count value).take (min byte_count 512) := by
      rw [List.take_replicate, Nat.min_eq_left (Nat.min_le_left _ _)]
    have hdrop : List.replicate (byte_count - min byte_count 512) value =
        (List.replicate byte_count value).drop (min byte_count 512) := by
      rw [List.drop_replicate]
    rw [htake]
    refine Triple.bind (M := fun _ => Shows base (overwrite flat offset
      ((List.replicate byte_count value).take (min byte_count 512))))
      ((medium_write_spec offset _ flat).weaken (fun _ _ h => h.1) fun _ s h => ?_) fun _ => ?_
    · obtain ⟨landed, hlanded, hshows⟩ := h
      rw [List.length_take] at hlanded
      rw [List.take_take, Nat.min_eq_left (by omega)] at hshows
      exact ⟨landed, by omega, hshows⟩
    · refine (ih _ (by omega) _ _).weaken (fun _ s h => ?_) fun _ s h => Landed.rest hcount ?_
      · rwa [hdrop, overwrite_parts flat offset hcount] at h
      · rwa [← hdrop]

theorem medium_fill_at_spec (offset byte_count : ℕ) (value : Byte) (flat : ℕ → Byte) :
    Triple (Shows base flat) (medium_fill_at env offset byte_count value)
      (fun _ s => Shows base (overwrite flat offset (List.replicate byte_count value)) s ∧
        offset + byte_count ≤ base.byte_count)
      (fun _ => Landed base flat offset (List.replicate byte_count value)) := by
  unfold medium_fill_at
  refine Triple.bind_get fun s h => ?_
  dsimp only
  refine Triple.bind (M := fun _ s' => Shows base flat s' ∧ offset + byte_count ≤ base.byte_count)
    (Triple.of_raise_if (fun _ s' hs => Landed.nothing (hs ▸ h) _ _)
      fun hrange s' hs => ⟨hs ▸ h, (medium_range_iff h _ _).mp (by simpa using hrange)⟩)
    fun _ => ?_
  refine Triple.assume fun hinside => ?_
  split_ifs with hzero hdirect
  · rw [hzero, List.replicate_zero, overwrite_nil]
    exact Triple.of_pure fun s h => ⟨h, hzero ▸ hinside⟩
  · rw [h.overlay] at hdirect
    exact absurd hdirect (by decide)
  · refine Triple.bind (Triple.attempt (fill_chunks_spec offset byte_count value flat))
      fun filled => ?_
    cases filled with
    | ok _ => exact Triple.of_pure fun s h => ⟨h, hinside⟩
    | error status => exact Triple.of_throw fun s h => h

/-! ## Runs -/

/-- A request to a medium; what a write answers is no bytes. -/
def medium_call (env : Environment) : MediumCall → Service (List Byte)
  | .read_at offset byte_count => medium_read_at env offset byte_count
  | .write_at offset bytes => do
    medium_write_at env offset bytes
    pure []
  | .fill_at offset byte_count value => do
    medium_fill_at env offset byte_count value
    pure []

/-- What a request answers, and what it leaves. -/
def medium_answer (env : Environment) (lease : Lease) (call : MediumCall) :
    MediumAnswer × Lease :=
  match medium_call env call lease with
  | .ok bytes lease => (.ok bytes, lease)
  | .error status lease => (.error status, lease)

/-- Requests one after the other, with their answers. -/
def medium_run (env : Environment) (lease : Lease) :
    List MediumCall → List (MediumCall × MediumAnswer) × Lease
  | [] => ([], lease)
  | call :: calls =>
    let answer := medium_answer env lease call
    let rest := medium_run env answer.2 calls
    ((call, answer.1) :: rest.1, rest.2)

theorem medium_call_spec (env : Environment) (call : MediumCall) (flat : ℕ → Byte) :
    Triple (Shows base flat) (medium_call env call)
      (fun read s => (Shows base (overwrite flat call.written.1 call.written.2) s ∧
        read = call.reads flat) ∧ call.Inside base.byte_count)
      (fun _ => Landed base flat call.written.1 call.written.2) := by
  cases call with
  | read_at offset byte_count =>
    refine (medium_read_at_spec offset byte_count flat).weaken (fun read s h => ?_)
      fun _ s h => Landed.nothing h _ _
    refine ⟨⟨?_, h.1.2⟩, h.2⟩
    rw [show (MediumCall.read_at offset byte_count).written.2 = [] from rfl, overwrite_nil]
    exact h.1.1
  | write_at offset bytes =>
    exact Triple.bind (medium_write_at_spec offset bytes flat) fun _ =>
      Triple.of_pure fun s h => ⟨⟨h.1, rfl⟩, h.2⟩
  | fill_at offset byte_count value =>
    exact Triple.bind (medium_fill_at_spec offset byte_count value flat) fun _ =>
      Triple.of_pure fun s h => ⟨⟨h.1, rfl⟩, h.2⟩

/-- A request to an overlay is a request to the array it shows. -/
theorem medium_answer_flat {flat : ℕ → Byte} {lease : Lease} (h : Shows base flat lease)
    (call : MediumCall) :
    ∃ flat', FlatStep base.byte_count flat call (medium_answer env lease call).1 flat' ∧
      Shows base flat' (medium_answer env lease call).2 := by
  have hspec := medium_call_spec env call flat lease h
  unfold medium_answer
  cases hcall : medium_call env call lease with
  | ok read after =>
    rw [hcall] at hspec
    obtain ⟨⟨hshows, rfl⟩, hinside⟩ := hspec
    exact ⟨_, FlatStep.done hinside, hshows⟩
  | error status after =>
    rw [hcall] at hspec
    obtain ⟨landed, hlanded, hshows⟩ := hspec
    exact ⟨_, FlatStep.failed status landed hlanded, hshows⟩

theorem medium_run_flat {flat : ℕ → Byte} {lease : Lease} (h : Shows base flat lease)
    (calls : List MediumCall) :
    ∃ flat', FlatRun base.byte_count flat (medium_run env lease calls).1 flat' ∧
      Shows base flat' (medium_run env lease calls).2 := by
  induction calls generalizing flat lease with
  | nil => exact ⟨flat, FlatRun.nil flat, h⟩
  | cons call calls ih =>
    obtain ⟨mid, hstep, hmid⟩ := medium_answer_flat h call
    obtain ⟨last, hrest, hlast⟩ := ih hmid
    exact ⟨last, FlatRun.cons hstep hrest, hlast⟩

/-- Whatever is asked of an overlay and whatever fails, it answers as an array that starts as
its base, and the base stays as it was. -/
theorem overlay_run_is_flat (env : Environment) (base : OverlayBase) (turn : ℕ)
    (calls : List MediumCall) :
    ∃ flat, FlatRun base.byte_count base.flat
        (medium_run env { medium := overlay_open base, turn } calls).1 flat ∧
      base.Has (medium_run env { medium := overlay_open base, turn } calls).2.medium.file := by
  obtain ⟨flat, hrun, pages, hholds, -⟩ :=
    medium_run_flat (overlay_open_shows base turn) calls
  exact ⟨flat, hrun, hholds.file⟩

end Overlay

end Nxvm.Storage
