import PromptBroker.Http.MediaType
import PromptBroker.Response
import PromptBroker.World

/-!
# Submitting a payload

`submit` makes one call and turns whatever comes of it into a `Delivery`: an
answer with a success status, or a failure that says what happened. It never
fails by itself. Nothing is retried here.
-/

namespace PromptBroker

namespace Http

/-- Headers with a bearer token. -/
def bearerHeaders (key : String) : Outcome Headers :=
  if Headers.isValue key then .ok (Headers.json.authorize key)
  else .error (.configurationError s!"Invalid API key format: {Headers.valueFault}")

/-- Headers with the key in a field of its own. -/
def apiKeyHeaders (key : String) : Outcome Headers :=
  if Headers.isValue key then .ok (Headers.json.insert "api-key" key)
  else .error (.configurationError s!"Invalid API key format: {Headers.valueFault}")

/-- A header value as text, if it is visible ASCII. -/
def visibleText? (value : ByteArray) : Option String :=
  if value.toList.all fun b => b == 9 || (32 ≤ b && b < 127) then Text.Utf8.decode? value else none

end Http

namespace Delivery

open Http

/-- A call that got no answer. -/
def ofCallError (e : CallError) : Delivery :=
  let message :=
    if e.isTimeout then "Request to the AI tool timed out" else "Could not connect to the AI tool"
  .failure 0 message s!"Request failed: {e.message}" none

/-- An answer with an error status. -/
def ofErrorAnswer (status : UInt16) (headers : Keyed ByteArray) (body : ByteArray) :
    Delivery :=
  let text := Text.Utf8.decodeLossy body
  let wait :=
    match (headers.get? "retry-after").bind visibleText? with
    | some seconds => s!" (retry after {seconds}s)"
    | none => ""
  .failure status ((Status.reason? status).getD "Provider error")
    (s!"API error {Status.text status}: {text}" ++ wait) (some text)

/-- What an answer amounts to. -/
def ofAnswer (a : Answer) : Delivery :=
  match a.body with
  | none =>
    .failure 0 "Reading the response of the AI tool failed" s!"Failed to read response: {bodyFault}"
      none
  | some body =>
    if Status.isSuccess a.status then .success a.status body
    else ofErrorAnswer a.status a.headers body

/-- What a call amounts to. -/
def ofCall : Except CallError Answer → Delivery
  | .error e => ofCallError e
  | .ok a => ofAnswer a

end Delivery

namespace Http

/-- The header fields to be sent with a body: a file comes with a content type of its own. -/
def Body.sentHeaders (body : Body) (headers : Headers) : Headers :=
  match body with
  | .upload _ => headers.erase "content-type"
  | _ => headers

/-- What makes a body impossible to send. -/
def Body.defect? : Body → Option Delivery
  | .upload u =>
    if MediaType.isMediaType u.mediaType then none
    else
      some (.failure 0 "Invalid upload"
        s!"Building multipart form failed: {(CallError.badAddress none).message}" none)
  | _ => none

/-- Submits a payload once. -/
def submit (p : Payload) (headers : Headers) : Run Delivery :=
  match p.body.defect? with
  | some d => pure d
  | none => Delivery.ofCall <$> Run.call p.method p.url (p.body.sentHeaders headers) p.body

end Http

end PromptBroker
