import PromptBroker.Connector.Catalog
import PromptBroker.Connector.Content
import PromptBroker.Http.Message

/-!
# Speech

Text is spoken by one of a fixed set of voices. The answer is the audio file
itself.
-/

namespace PromptBroker.Speech

/-- The voice unless the caller asks for one. -/
def defaultVoice : String := "alloy"

/-- Azure asks for a model and ignores which. -/
def ignoredModel : String := "ineffective_parameter_value"

/-- The request. -/
def payload (i : Instance) (prompt : String) (o : Options) : Outcome Http.Payload :=
  let voice := (o.firstText? "voices").getD defaultVoice
  if Catalog.voices.contains voice then
    let instructions :=
      match o.text? "instructions" with
      | some text => if i.takesInstructions then [("instructions", Json.string text)] else []
      | none => []
    let model := if i.activeAzure?.isSome then ignoredModel else i.model
    .ok (.postJson (i.target "audio/speech") (Json.ofMembers
      ([("input", .string prompt), ("voice", .string voice)] ++ instructions ++
        [("model", .string model)])))
  else .error (.invalidParameter "voices" s!"unknown voice '{voice}'")

/-- The audio file of an answer. -/
def decode (body : ByteArray) : Outcome Content :=
  if body.isEmpty then .error (.malformedResponse "speech response contained no audio")
  else .ok (.file body)

end PromptBroker.Speech
