import PromptBroker.Connector.Catalog
import PromptBroker.Connector.Content
import PromptBroker.Http.Message
import PromptBroker.Text.Quoted

/-!
# Chat with Ollama

A conversation is sent as a list of messages that ends with the prompt. An image
can be sent along with the prompt of a conversation that has no earlier entries.
The answer carries token counts; a count that is missing is zero.
-/

namespace PromptBroker.Chat

/-- The temperature if neither the request nor the instance sets one. -/
def defaultTemperature : Float := 0.7

/-- How long the provider is to keep the model loaded. -/
def keepAlive : String := "60m"

/-- One message. -/
def message (role content : String) : Json :=
  Json.ofMembers [("role", .string role), ("content", .string content)]

/-- The role under which the provider knows a sender. -/
def role? : String → Option String
  | "user" => some "user"
  | "ai" => some "assistant"
  | "system" => some "system"
  | _ => none

/-- How a missing or unknown sender is shown. -/
def shownSender : Option String → String
  | some s => "Some(" ++ Text.quoted s ++ ")"
  | none => "None"

/-- An earlier entry of the conversation as a message. -/
def earlierMessage (entry : Json) : Outcome Json :=
  let sender := (entry.get? "sender").bind Json.asString?
  match sender.bind role? with
  | some role =>
    .ok (message role (((entry.get? "message").bind Json.asString?).getD ""))
  | none =>
    .error (.invalidParameter "conversationcontext" s!"unknown sender {shownSender sender}")

/-- The encoded bytes of an image that the provider takes. -/
def imageData (image : Json) : Outcome String :=
  match image.asString?.bind Text.DataUrl.parse? with
  | none => .error (.invalidParameter "image" "expected a base64 data URL")
  | some (mediaType, data) =>
    if Catalog.imageTypes.contains mediaType then .ok data
    else .error (.invalidParameter "image" s!"unsupported image type '{mediaType}'")

/-- The messages of a request: the conversation so far, then the prompt. -/
def messages (prompt : String) (o : Options) : Outcome (List Json) :=
  match o.items? "conversationcontext" with
  | some entries => (entries.mapM earlierMessage).map (· ++ [message "user" prompt])
  | none =>
    match o.get? "image" with
    | some image =>
      (imageData image).map fun data =>
        [Json.ofMembers [("role", .string "user"), ("content", .string prompt),
          ("images", Json.ofStrings [data])]]
    | none => .ok [message "user" prompt]

/-- The temperature of a request. -/
def temperature (i : Instance) (o : Options) : Float :=
  ((o.float? "temperature").or i.temperature).getD defaultTemperature

/-- The request. -/
def payload (i : Instance) (prompt : String) (o : Options) : Outcome Http.Payload :=
  (messages prompt o).map fun ms =>
    .postJson i.endpoint (Json.ofMembers
      [("model", .string i.model), ("messages", .array ms), ("stream", .bool false),
        ("keep_alive", .string keepAlive),
        ("options", .object [("temperature", Json.ofFloat (temperature i o))])])

/-- The text and the token counts of an answer. -/
def decode (i : Instance) (body : ByteArray) : Outcome Content := do
  let v ← Content.readJson body
  match (v.at? [.key "message", .key "content"]).bind Json.asString? with
  | none => .error (.malformedResponse "Ollama response has no message content")
  | some text =>
    let count (key : String) : Float := ((v.get? key).bind Json.asFloat?).getD 0
    let model := ((v.get? "model").bind Json.asString?).getD i.model
    pure (.text model (Usage.tokens (count "prompt_eval_count") (count "eval_count")) text)

end PromptBroker.Chat
