/-
  Untrack.Store.Clean — cleaning with the rules of a store, and refreshing its cache from outside. For a message
  the store is asked once, and only if the message has a link.
-/

import Untrack.Message
import Untrack.Refresh
import Untrack.Store.Basic

namespace Untrack.Store

def cleaned (r : Except CleanFault α) : Act α := .ofExcept (r.mapError .clean)

def cleanUrl (st : Store) (s : Sanitizer) (url : Text) : Job Sanitizer.Result := do
  let e ← st.get
  cleaned (s.sanitize url e.rules)

def cleanMessage (st : Store) (s : Sanitizer) (message : Text) : Job (List LinkResult) := do
  cleaned (← Message.clean (Edition.rules <$> st.get) s message)

/-- The loop that keeps the store's cache fresh; it does not touch what the store remembers. -/
def refresher (st : Store) : Refresh := ⟨st.source, st.location⟩

end Untrack.Store
