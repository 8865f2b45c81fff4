/-
Storage media (`lib/storage/medium.c`, over `lib/storage/file.c`).

A medium is a lease on a file, or on nothing. In the overlay mode its writes go to pages of
its own, which are made when they are first written, from what the base has there; a read
takes each page from where it is. The file behind it, the allocator and their failures are
an environment: every call into it takes a turn, and the environment says for every turn
what happens.
-/
import Mathlib.Algebra.Group.Nat.Defs
import Nxvm.Lib.Exec
import Nxvm.Lib.Span
import Nxvm.Machine.Status

set_option autoImplicit false

namespace Nxvm.Storage

open Nxvm.Lib.Exec Nxvm.Lib.Span
open Nxvm.Machine (Status)

abbrev Byte := BitVec 8

/-! ## The environment -/

/-- What happens in a turn: whether an allocation, a seek and a flush succeed, where a failed
seek leaves the stream, how many bytes a transfer loses at its end, and whether the stream then
has an error. -/
structure Environment where
  allocates : ℕ → Bool
  seeks : ℕ → Bool
  astray : ℕ → ℕ
  loses : ℕ → ℕ
  ferror : ℕ → Bool
  flushes : ℕ → Bool

/-- An open `lib_storage_file`: its bytes, and where the stream is. -/
structure StorageFile where
  bytes : ℕ → Byte
  byte_count : ℕ
  position : ℕ

/-- `lib_storage_medium_mode`. -/
inductive MediumMode where
  | direct
  | readonly
  | overlay
  deriving DecidableEq, Repr

/-- `LIB_STORAGE_MEDIUM_PAGE_BYTES`. -/
abbrev page_bytes : ℕ := 4096

/-- `lib_storage_medium_page`. -/
abbrev Page := ℕ → Byte

/-- `lib_storage_medium`; `file` is `none` where it has no stream. -/
structure Medium where
  file : Option StorageFile
  pages : ℕ → Option Page
  byte_count : ℕ
  mode : MediumMode

/-- The lease on a medium, and the turn of the environment. -/
structure Lease where
  medium : Medium
  turn : ℕ

/-- A service of the medium. -/
abbrev Service (α : Type) := EStateM Status Lease α

section Services

variable (env : Environment)

/-- The turn of a call into the environment. -/
def next_turn : Service ℕ := do
  let turn ← query Lease.turn
  update fun s => { s with turn := turn + 1 }
  pure turn

/-- `lib_allocate`. -/
def allocate : Service Unit := do
  let turn ← next_turn
  raise_if (!env.allocates turn) .no_memory

/-! ## Files -/

def set_file (file : StorageFile) : Service Unit :=
  update fun s => { s with medium := { s.medium with file := some file } }

/-- `lib_storage_file_seek_absolute`, of an offset that was converted to 64 signed bits. -/
def file_seek_absolute (file : StorageFile) (offset : ℕ) : Service StorageFile := do
  raise_if (decide (2 ^ 63 ≤ offset)) .invalid_argument
  let turn ← next_turn
  let position := if env.seeks turn then offset else env.astray turn
  set_file { file with position }
  raise_if (!env.seeks turn) .io_error
  pure { file with position }

/-- How many of `count` bytes a transfer moves. -/
def transferred (turn count : ℕ) : ℕ := count - env.loses turn

/-- `lib_storage_file_read_exact`. -/
def file_read_exact (file : StorageFile) (byte_count : ℕ) : Service (List Byte) := do
  let turn ← next_turn
  let read := transferred env turn (min byte_count (file.byte_count - file.position))
  set_file { file with position := file.position + read }
  raise_if (decide (read ≠ byte_count) || env.ferror turn) .io_error
  pure (slice file.bytes file.position read)

/-- `lib_storage_file_write_exact`. -/
def file_write_exact (file : StorageFile) (bytes : List Byte) : Service Unit := do
  let turn ← next_turn
  let written := transferred env turn bytes.length
  set_file { file with
    bytes := overwrite file.bytes file.position (bytes.take written)
    byte_count := max file.byte_count (file.position + written)
    position := file.position + written }
  raise_if (decide (written ≠ bytes.length) || env.ferror turn) .io_error

/-- `lib_storage_file_flush`. -/
def file_flush : Service Unit := do
  let turn ← next_turn
  raise_if (!env.flushes turn) .io_error

/-! ## Media -/

/-- `lib_storage_medium_range`. -/
def medium_range (medium : Medium) (offset byte_count : ℕ) : Bool :=
  decide (offset ≤ medium.byte_count) && decide (byte_count ≤ medium.byte_count - offset)

def medium_read_base (offset byte_count : ℕ) : Service (List Byte) := do
  if byte_count = 0 then pure []
  else
    match (← get).medium.file with
    | none => pure (List.replicate byte_count 0)
    | some file =>
      let file ← file_seek_absolute env file offset
      file_read_exact env file byte_count

/-- The page to write to: the one there is, or a new one with the bytes of the base. -/
def medium_page_for_write (index : ℕ) : Service Page := do
  let medium := (← get).medium
  match medium.pages index with
  | some page => pure page
  | none =>
    allocate env
    let offset := index * page_bytes
    let bytes ← medium_read_base env offset (min (medium.byte_count - offset) page_bytes)
    let page : Page := fun i => bytes.getD i 0
    update fun s => { s with
      medium := { s.medium with pages := Function.update s.medium.pages index (some page) } }
    pure page

/-- How much of a request lies in the page of its first byte. -/
def page_part (offset byte_count : ℕ) : ℕ := min (page_bytes - offset % page_bytes) byte_count

/-- The part of a read that lies in one page. -/
def read_page (offset count : ℕ) : Service (List Byte) := do
  match (← get).medium.pages (offset / page_bytes) with
  | some page => pure (slice page (offset % page_bytes) count)
  | none => medium_read_base env offset count

/-- The loop of `lib_storage_medium_read_at`. -/
def read_pages (offset byte_count : ℕ) : Service (List Byte) :=
  if byte_count = 0 then pure []
  else do
    let count := page_part offset byte_count
    let bytes ← read_page env offset count
    let rest ← read_pages (offset + count) (byte_count - count)
    pure (bytes ++ rest)
termination_by byte_count
decreasing_by
  have := Nat.mod_lt offset (show 0 < page_bytes by decide)
  unfold page_part
  omega

def medium_read_at (offset byte_count : ℕ) : Service (List Byte) := do
  let medium := (← get).medium
  raise_if (!medium_range medium offset byte_count) .invalid_argument
  if medium.mode ≠ .overlay then medium_read_base env offset byte_count
  else read_pages env offset byte_count

/-- The part of a write that lies in one page. -/
def write_page (offset : ℕ) (bytes : List Byte) : Service Unit := do
  let page ← medium_page_for_write env (offset / page_bytes)
  update fun s => { s with
    medium := { s.medium with
      pages := Function.update s.medium.pages (offset / page_bytes)
        (some (overwrite page (offset % page_bytes) bytes)) } }

/-- The loop of `lib_storage_medium_write`. -/
def write_pages (offset : ℕ) (bytes : List Byte) : Service Unit :=
  if bytes.length = 0 then pure ()
  else do
    let count := page_part offset bytes.length
    write_page env offset (bytes.take count)
    write_pages (offset + count) (bytes.drop count)
termination_by bytes.length
decreasing_by
  have := Nat.mod_lt offset (show 0 < page_bytes by decide)
  rw [List.length_drop]
  unfold page_part
  omega

/-- A write to the file itself. -/
def write_direct (offset : ℕ) (bytes : List Byte) : Service Unit := do
  match (← get).medium.file with
  | none => throw .invalid_argument
  | some file =>
    let file ← file_seek_absolute env file offset
    file_write_exact env file bytes

def medium_write (offset : ℕ) (bytes : List Byte) : Service Unit := do
  let medium := (← get).medium
  raise_if (!medium_range medium offset bytes.length) .invalid_argument
  match medium.mode with
  | .readonly => throw .invalid_state
  | .direct => write_direct env offset bytes
  | .overlay => write_pages env offset bytes

def medium_write_at (offset : ℕ) (bytes : List Byte) : Service Unit := do
  medium_write env offset bytes
  perform_if ((← get).medium.mode = .direct) (file_flush env)

/-- The loop of `lib_storage_medium_fill_at`, which writes a buffer of 512 bytes. -/
def fill_chunks (offset byte_count : ℕ) (value : Byte) : Service Unit :=
  if byte_count = 0 then pure ()
  else do
    let count := min byte_count 512
    medium_write env offset (List.replicate count value)
    fill_chunks (offset + count) (byte_count - count) value
termination_by byte_count

/-- The first error of a fill takes precedence over that of its flush. -/
def medium_fill_at (offset byte_count : ℕ) (value : Byte) : Service Unit := do
  let medium := (← get).medium
  raise_if (!medium_range medium offset byte_count) .invalid_argument
  if byte_count = 0 then pure ()
  else
    let filled ← attempt (fill_chunks env offset byte_count value)
    if medium.mode = .direct then
      let flushed ← attempt (file_flush env)
      of_except filled
      of_except flushed
    else of_except filled

end Services

end Nxvm.Storage
