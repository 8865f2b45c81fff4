/-
The bus transaction of the machine (`transaction.h`, `transaction.c`).

One cycle is on the bus at a time, and one owner may hold the bus against the others. Every
change is given to the trace callback the machine binds; the model keeps what that callback
was given, newest first, with two marks of its own between: where the attachment was told
that a refresh cycle is complete, and where the state was reset.
-/
import Mathlib.Data.Nat.ModEq
import Nxvm.Machine.Scheduler

set_option autoImplicit false

namespace Nxvm.Bus

open Nxvm.Machine (Status TransactionOwner)

/-! ## The state -/

/-- `x86_core_machine_transaction_kind`. -/
inductive TransactionKind where
  | cpu_memory_read
  | cpu_memory_write
  | cpu_port_read
  | cpu_port_write
  | dma_memory_read
  | dma_memory_write
  | dma_memory_copy
  | refresh_memory_cycle
  | cpu_fpu_command
  | cpu_interrupt_acknowledge
  | cpu_cache_operation
  | cpu_memory_lock
  | cpu_special_cycle
  deriving DecidableEq, Repr

/-- `x86_core_machine_transaction_phase`. -/
inductive TransactionPhase where
  | begin
  | commit
  | cancel
  | hold_request
  | hold_acknowledge
  | hold_release
  deriving DecidableEq, Repr

/-- What the trace callback is given. -/
structure TransactionRecord where
  owner : TransactionOwner
  kind : Option TransactionKind
  phase : TransactionPhase
  address : ℕ
  value : ℕ
  detail : ℕ
  deriving DecidableEq, Repr

/-- An entry of the trace. -/
inductive BusEvent where
  | transaction (r : TransactionRecord)
  | refresh_complete
  | reset
  deriving DecidableEq, Repr

/-- `x86_core_machine_transaction_state`. `kind` is `none` for the zero it is initialized
with. -/
structure TransactionState where
  owner : TransactionOwner
  kind : Option TransactionKind
  address : ℕ
  value : ℕ
  detail : ℕ
  committed_count : ℕ
  cancelled_count : ℕ
  hold_owner : TransactionOwner
  hold_detail : ℕ
  hold_acknowledged : Bool
  trace : List BusEvent
  deriving DecidableEq, Repr

/-! ## The operations -/

/-- `transaction_record`: the phases of a hold are of its owner. -/
def transaction_record (state : TransactionState) (phase : TransactionPhase) :
    TransactionState :=
  let held := phase = .hold_request ∨ phase = .hold_acknowledge ∨ phase = .hold_release
  { state with
    trace := .transaction
      { owner := if held then state.hold_owner else state.owner
        kind := state.kind
        phase := phase
        address := state.address
        value := state.value
        detail := if held then state.hold_detail else state.detail } :: state.trace }

def transaction_initialize : TransactionState where
  owner := .none
  kind := none
  address := 0
  value := 0
  detail := 0
  committed_count := 0
  cancelled_count := 0
  hold_owner := .none
  hold_detail := 0
  hold_acknowledged := false
  trace := []

/-- Why a begin is refused. -/
def transaction_denies (state : TransactionState) (owner : TransactionOwner) : Prop :=
  owner = .none ∨ state.owner ≠ .none ∨
    (state.hold_owner ≠ .none ∧ (state.hold_owner ≠ owner ∨ !state.hold_acknowledged))

instance (state : TransactionState) (owner : TransactionOwner) :
    Decidable (transaction_denies state owner) :=
  inferInstanceAs (Decidable (_ ∨ _ ∨ (_ ∧ (_ ∨ _))))

/-- A cycle goes onto the bus. -/
def transaction_begun (state : TransactionState) (owner : TransactionOwner)
    (kind : TransactionKind) (address value detail : ℕ) : TransactionState :=
  transaction_record
    { state with owner := owner, kind := some kind, address := address, value := value,
                 detail := detail } .begin

def transaction_begin (state : TransactionState) (owner : TransactionOwner)
    (kind : TransactionKind) (address value detail : ℕ) : Status × TransactionState :=
  if transaction_denies state owner then (.invalid_argument, state)
  else (.ok, transaction_begun state owner kind address value detail)

def transaction_set_value (state : TransactionState) (value : ℕ) : TransactionState :=
  if state.owner ≠ .none then { state with value := value } else state

/-- A 64-bit counter goes on. -/
def counted (count : ℕ) : ℕ := (count + 1) % 2 ^ 64

def transaction_commit (state : TransactionState) : TransactionState :=
  if state.owner = .none then state
  else
    let state := transaction_record state .commit
    { state with committed_count := counted state.committed_count, owner := .none }

def transaction_cancel (state : TransactionState) : TransactionState :=
  if state.owner = .none then state
  else
    let state := transaction_record state .cancel
    { state with cancelled_count := counted state.cancelled_count, owner := .none }

def transaction_hold_request (state : TransactionState) (owner : TransactionOwner)
    (detail : ℕ) : Status × TransactionState :=
  if owner = .none ∨ state.owner ≠ .none ∨ state.hold_owner ≠ .none then
    (.invalid_argument, state)
  else
    (.ok, transaction_record
      { state with hold_owner := owner, hold_detail := detail, hold_acknowledged := false }
      .hold_request)

def transaction_hold_acknowledge (state : TransactionState) (owner : TransactionOwner) :
    Status × TransactionState :=
  if owner = .none ∨ state.owner ≠ .none ∨ state.hold_owner ≠ owner ∨ state.hold_acknowledged
  then (.invalid_argument, state)
  else (.ok, transaction_record { state with hold_acknowledged := true } .hold_acknowledge)

def transaction_hold_release (state : TransactionState) (owner : TransactionOwner) :
    TransactionState :=
  if owner = .none ∨ state.hold_owner ≠ owner ∨ state.owner ≠ .none then state
  else
    { transaction_record state .hold_release with
      hold_owner := .none, hold_detail := 0, hold_acknowledged := false }

/-- The reset keeps the trace. -/
def transaction_reset (state : TransactionState) : TransactionState :=
  let state := transaction_cancel state
  let state := transaction_hold_release state state.hold_owner
  { transaction_initialize with trace := .reset :: state.trace }

/-- The attachment is told that the refresh cycle is complete. -/
def mark_refresh_complete (state : TransactionState) : TransactionState :=
  { state with trace := .refresh_complete :: state.trace }

/-! ## The scheduler's view

`Nxvm.Machine` knows of the transaction who owns and who holds the bus. -/

end Nxvm.Bus
