import PromptBroker.Base64
import PromptBroker.Connector.Catalog
import PromptBroker.Connector.Content
import PromptBroker.Http.Message

/-!
# Pictures

Two providers draw pictures from a prompt. Both answer with the file as base64
text, each in a place of its own.
-/

namespace PromptBroker.Picture

/-- Reads the encoded file. -/
def readFile (encoded : String) : Outcome Content :=
  match Base64.decode encoded with
  | .ok bytes => .ok (.file bytes)
  | .error e => .error (.malformedResponse s!"image payload is not valid base64: {e.message}")

/-- A member of an error body, if the body is JSON and the member is text. -/
def errorField? (body : Option String) (path : List Json.Step) : Option String :=
  match body.map Json.read with
  | some (.ok v) => (v.at? path).bind Json.asString?
  | _ => none

/-! ### OpenAI -/

/-- Whether the model always answers with the file and refuses to be asked for it. -/
def answersWithFile (i : Instance) : Bool :=
  i.model == Catalog.gptImage || i.model == AzureOptions.modelAlias Catalog.gptImage

/-- The size unless the caller asks for one. -/
def defaultSize (i : Instance) : String :=
  if i.model = "dall-e-2" then "256x256" else "1024x1024"

/-- The request to OpenAI. A deployment at Azure has its model fixed. -/
def openaiPayload (i : Instance) (prompt : String) (o : Options) : Http.Payload :=
  .postJson (i.target "images/generations") (Json.ofMembers
    ([("prompt", .string prompt),
        ("size", .string ((o.firstText? "sizes").getD (defaultSize i)))] ++
      (if answersWithFile i then [] else [("response_format", .string "b64_json")]) ++
      (if i.activeAzure?.isSome then [] else [("model", .string i.model)])))

/-- The file in an answer of OpenAI. -/
def openaiDecode (body : ByteArray) : Outcome Content := do
  let v ← Content.readJson body
  match (v.at? [.key "data", .item 0, .key "b64_json"]).bind Json.asString? with
  | none => .error (.malformedResponse "image response has no data[0].b64_json")
  | some encoded => readFile encoded

/-- What is said about a prompt that OpenAI refuses. -/
def openaiRefusal : String :=
  "The image could not be generated because the prompt violates the content policy of the AI tool."

/-- Whether an error of OpenAI means that the prompt was refused. -/
def isOpenaiRefusal (status : UInt16) (body : Option String) : Bool :=
  status == 400 &&
    errorField? body [.key "error", .key "code"] == some "content_policy_violation"

/-! ### Imagen -/

/-- The request to Imagen. Only certain shapes are possible. -/
def imagenPayload (i : Instance) (prompt : String) (o : Options) : Outcome Http.Payload :=
  let ratio := (o.firstText? "sizes").getD "1:1"
  if Catalog.aspectRatios.any fun e => e.1 == ratio then
    .ok (.postJson i.endpoint (Json.ofMembers
      [("instances", .array [.object [("prompt", .string prompt)]]),
        ("parameters", Json.ofMembers
          [("sampleCount", Json.ofInt 1), ("safetySetting", .string "block_few"),
            ("language", .string "en"), ("aspectRatio", .string ratio)])]))
  else .error (.invalidParameter "sizes" s!"unsupported aspect ratio '{ratio}'")

/-- The file in an answer of Imagen. An answer without one means that a filter dropped it. -/
def imagenDecode (body : ByteArray) : Outcome Content := do
  let v ← Content.readJson body
  match (v.at? [.key "predictions", .item 0, .key "bytesBase64Encoded"]).bind Json.asString? with
  | none => .error (.providerError 400 "response contains no image prediction")
  | some encoded => readFile encoded

/-- What is said about a prompt that Imagen refuses. -/
def imagenRefusal : String :=
  "The image could not be generated because the prompt was rejected by the AI tool's safety filter."

/-- Whether an error of Imagen means that the prompt was refused. -/
def isImagenRefusal (status : UInt16) (body : Option String) : Bool :=
  status == 400 && errorField? body [.key "error", .key "status"] == some "INVALID_ARGUMENT"

end PromptBroker.Picture
