import PromptBroker.Failure
import PromptBroker.Json.Record
import PromptBroker.Usage

/-!
# Responses

Two results have to be kept apart. A `Delivery` says whether a call to a provider
got an answer with a success status; a `Response` says whether the content was
usable, and only it reaches the caller.
-/

namespace PromptBroker

/-- What the caller gets. -/
inductive Response where
  | success (model : String) (usage : Usage) (content : String)
  /-- The message is for end users, the details are for administrators. -/
  | failure (code : UInt16) (message details : String) (kind : Failure.Kind)
  deriving DecidableEq

namespace Response

/-- The response that reports a cause of failure. -/
def ofFailure (f : Failure) : Response :=
  .failure f.code f.userMessage f.message f.kind

def isSuccess : Response → Bool
  | .success .. => true
  | .failure .. => false

def content? : Response → Option String
  | .success _ _ content => some content
  | .failure .. => none

def usage? : Response → Option Usage
  | .success _ usage _ => some usage
  | .failure .. => none

def model? : Response → Option String
  | .success model _ _ => some model
  | .failure .. => none

def kind? : Response → Option Failure.Kind
  | .success .. => none
  | .failure _ _ _ kind => some kind

def code? : Response → Option UInt16
  | .success .. => none
  | .failure code _ _ _ => some code

/-- Changes the content of a success and leaves failures alone. -/
def mapContent (f : String → String) : Response → Response
  | .success model usage content => .success model usage (f content)
  | r => r

@[simp] theorem isSuccess_mapContent (f : String → String) (r : Response) :
    (r.mapContent f).isSuccess = r.isSuccess := by
  cases r <;> rfl

end Response

/-! ### Stored responses -/

/-- Reads a usage record as it is written, without putting it right. -/
def Usage.ofJson? (v : Json) : Option Usage := do
  match ← Json.recordFields? ["total", "prompt", "completion"] v with
  | [some total, some prompt, some completion] =>
    some ⟨← total.asFloat?, ← prompt.asFloat?, ← completion.asFloat?⟩
  | _ => none

namespace Response

/-- Reads the fields of a success. -/
def successOfJson? (v : Json) : Option Response := do
  match ← Json.recordFields? ["model", "usage", "content"] v with
  | [some model, some usage, some content] =>
    some (.success (← model.asString?) (← Usage.ofJson? usage) (← content.asString?))
  | _ => none

/-- The name of a kind of failure. Inside a response an empty object under the name counts like the
null that stands there elsewhere. -/
def kindName? : Json → Option String
  | .object [(key, .object [])] => some key
  | v => v.asName?

/-- Reads the fields of a failure. -/
def failureOfJson? (v : Json) : Option Response := do
  match ← Json.recordFields? ["code", "message", "debuginfo", "kind"] v with
  | [some code, some message, some details, some kind] =>
    some (.failure (← code.asUInt16?) (← message.asString?) (← details.asString?)
      (← Failure.Kind.ofName? (← kindName? kind)))
  | _ => none

/-- Reads a response. Its status says which fields it has; in an array the status comes first. -/
def ofJson? (v : Json) : Option Response := do
  let (status, rest) ←
    match v with
    | .object members => some (← v.get? "status", Json.object members)
    | .array (status :: rest) => some (status, Json.array rest)
    | _ => none
  match status with
  | .string "success" => successOfJson? rest
  | .string "error" => failureOfJson? rest
  | _ => none

end Response

/-- What came of sending a request. -/
inductive Delivery where
  /-- An answer with a success status. -/
  | success (status : UInt16) (body : ByteArray)
  /-- No usable answer. The code is the status of the answer, or zero when there was none; the
  body is the answer's text. -/
  | failure (code : UInt16) (message details : String) (body : Option String)

namespace Delivery

def isSuccess : Delivery → Bool
  | .success .. => true
  | .failure .. => false

/-- The status, zero when there was no answer. -/
def code : Delivery → UInt16
  | .success status _ => status
  | .failure code _ _ _ => code

/-- The text of an error answer. -/
def errorBody? : Delivery → Option String
  | .success .. => none
  | .failure _ _ _ body => body

end Delivery

end PromptBroker
