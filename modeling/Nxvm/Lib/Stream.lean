/-
Reading a table from a stream.

A reader asks for so many bytes at a time and does not say what is on the other side: a
table is read cell after cell.
-/
import Mathlib.Data.Fin.Tuple.Basic
import Nxvm.Lib.Memory
import Nxvm.Lib.Table

set_option autoImplicit false

namespace Nxvm.Lib.Stream

variable {ε α β : Type}

/-- Cell after cell. -/
def read_each (r : EStateM ε β α) : (n : ℕ) → EStateM ε β (Table n α)
  | 0 => pure Fin.elim0
  | n + 1 => do
    let a ← r
    let t ← read_each r n
    pure (Fin.cons a t)

end Nxvm.Lib.Stream
