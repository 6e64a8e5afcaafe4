import PromptBroker.Keyed

/-!
# Header fields

Names of header fields are kept in lower case, one value for each. A value may
hold any character that is not a control character; the tab is allowed.
-/

namespace PromptBroker.Http

/-- Header fields under their lower-case names. -/
abbrev Headers := Keyed String

namespace Headers

/-- Whether a character may stand in a value. -/
def allows (c : Char) : Bool :=
  c == '\t' || (0x20 ≤ c.toNat && c.toNat != 0x7F)

/-- Whether a text may be sent as a value. -/
def isValue (s : String) : Bool := s.all allows

/-- What a message says about a text that may not be sent as a value. -/
def valueFault : String := "failed to parse header value"

/-- The media type of a JSON body. -/
def json : Headers := [("content-type", "application/json")]

/-- Sets the authorization to a bearer token. -/
def authorize (token : String) (h : Headers) : Headers :=
  h.insert "authorization" ("Bearer " ++ token)

/-- The fields of `base`, replaced or extended by those of `h`. -/
def overlay (base h : Headers) : Headers :=
  h.foldl (fun acc e => acc.insert e.1 e.2) base

end Headers

end PromptBroker.Http
