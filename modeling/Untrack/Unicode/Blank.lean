/-
  Untrack.Unicode.Blank — white space (Unicode 14.0): the tab to the carriage return, the four information
  separators, the space, and the space characters beyond ASCII. The byte order mark and the zero-width space
  are not white space.
-/

import Untrack.Unicode.Ranges

namespace Untrack.Unicode

/-- Boundaries of the white space from U+0080 on. -/
def blankBounds : List Nat := [
  133, 134, 160, 161, 5760, 5761, 8192, 8203, 8232, 8234, 8239, 8240, 8287, 8288, 12288, 12289]

def isBlank (c : Char) : Bool :=
  let n := c.toNat
  if n < 128 then (9 ≤ n && n ≤ 13) || (28 ≤ n && n ≤ 32) else covers blankBounds n

end Untrack.Unicode
