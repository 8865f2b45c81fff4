/-
The status codes shared by the machine's services (`lib/types/types_interface.h`).
-/
set_option autoImplicit false

namespace Nxvm.Machine

/-- `lib_status`. -/
inductive Status where
  | ok
  | invalid_argument
  | invalid_state
  | unsupported
  | no_memory
  | io_error
  | internal_error
  | limit_exceeded
  deriving DecidableEq, Repr

end Nxvm.Machine
