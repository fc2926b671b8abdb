/-
  Untrack.Text.Strip — the text without the white space at its two ends.
-/

import Untrack.Text.Basic
import Untrack.Unicode.Blank

namespace Untrack.Text

def strip (t : Text) : Text := trimmed Unicode.isBlank t

end Untrack.Text
