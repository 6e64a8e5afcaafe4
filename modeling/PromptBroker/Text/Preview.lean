/-!
# Previews

The start of a long text, for messages. A cut is marked by three dots, so a text
that fits is shown exactly as it is.
-/

namespace PromptBroker.Text

/-- The first `limit` characters, followed by three dots when some were cut off. -/
def preview (limit : Nat) (s : String) : String :=
  let cs := s.toList
  if cs.length ≤ limit then s else String.ofList (cs.take limit) ++ "..."

end PromptBroker.Text
