/-
The words of the chips' registers.
-/
import Mathlib.Data.BitVec

set_option autoImplicit false

namespace Nxvm.Chips

abbrev U8 := BitVec 8
abbrev U16 := BitVec 16
abbrev U32 := BitVec 32
abbrev U64 := BitVec 64

end Nxvm.Chips
