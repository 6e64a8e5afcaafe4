import PromptBroker.Http.Transport

/-!
# The text of an answer

An answer says by its content type in which encoding its body is. One that says
nothing, or names an encoding that is not known, is in UTF-8.
-/

namespace PromptBroker.Http

/-- The encoding that an answer announces for its body. -/
def Answer.encoding (charsets : Text.Charsets) (a : Answer) : Text.Encoding :=
  let label := do MediaType.parameter? "charset" (← visibleText? (← a.headers.get? "content-type"))
  (label.bind (Text.Encoding.ofLabel? charsets)).getD .utf8

/-- The body of an answer as text, if it has arrived whole. -/
def Answer.text? (charsets : Text.Charsets) (a : Answer) : Option String :=
  a.body.map (a.encoding charsets).decode

end PromptBroker.Http
