import PromptBroker.Base64
import PromptBroker.Http.Header
import PromptBroker.Http.Status
import PromptBroker.Http.Url
import PromptBroker.Json.Basic

/-!
# Requests and replies

What goes over the wire in both directions. A `Payload` is a request as a
connector wants it, its address still text; a `Request` is one that can be sent.
-/

namespace PromptBroker.Http

/-- The method of a request. -/
inductive Method where
  | get
  | head
  | post
  | put
  | other (name : String)
  deriving DecidableEq, Repr

/-- The name of a method. -/
def Method.name : Method → String
  | .get => "GET"
  | .head => "HEAD"
  | .post => "POST"
  | .put => "PUT"
  | .other name => name

/-- The method of a name. -/
def Method.ofName (name : String) : Method :=
  ([.get, .head, .post, .put].find? fun m : Method => m.name == name).getD (.other name)

/-- A file together with text fields. -/
structure Upload where
  fileField : String
  filename : String
  mediaType : String
  bytes : ByteArray
  /-- Fields in the order of sending; a name may occur more than once. -/
  fields : List (String × String)

/-- The first field of a name. -/
def Upload.field? (name : String) (u : Upload) : Option String :=
  u.fields.lookup name

/-- The body of a request. -/
inductive Body where
  | empty
  | json (value : Json)
  | upload (file : Upload)
  | form (fields : List (String × String))

/-- The header fields that a body brings along. -/
def Body.headers : Body → Headers
  | .empty => []
  | .json _ => Headers.json
  | .upload _ => [("content-type", "multipart/form-data")]
  | .form _ => [("content-type", "application/x-www-form-urlencoded")]

/-- A request as a connector asks for it. -/
structure Payload where
  method : Method
  url : String
  body : Body

/-- A JSON value to be posted. -/
def Payload.postJson (url : String) (value : Json) : Payload :=
  ⟨.post, url, .json value⟩

/-- The JSON value of the body. -/
def Payload.json? (p : Payload) : Option Json :=
  match p.body with
  | .json v => some v
  | _ => none

/-- A request that can be sent. -/
structure Request where
  method : Method
  url : Url
  headers : Headers
  body : Body

/-- The authorization that user information in an address stands for. A password that is no text
counts as none. -/
def loginHeaders (url : Url) : Headers :=
  if (url.user = [] && url.password = []) || !url.hasPlainLogin then []
  else
    let bytes (cs : List Char) : List UInt8 := (Escape.decodeText? cs).getD "" |>.toUTF8.toList
    [("authorization",
      "Basic " ++ Base64.encodeStandard (bytes url.user ++ 58 :: bytes url.password))]

/-- The request to an address. Given header fields replace those that the address and the body
bring along. -/
def Request.make (method : Method) (url : Url) (headers : Headers) (body : Body) : Request :=
  let own := Headers.overlay (loginHeaders url) body.headers
  ⟨method, url.detached, own.overlay headers, body⟩

/-- What a peer answers. -/
structure Reply where
  status : UInt16 := 200
  headers : Keyed ByteArray := []
  body : ByteArray := .empty

end PromptBroker.Http
