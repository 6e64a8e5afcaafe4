import PromptBroker.Base64
import PromptBroker.Connector.Catalog
import PromptBroker.Connector.Content
import PromptBroker.Http.Message

/-!
# Transcription

A recording comes as base64 text, in a data address or bare, and is uploaded as a
file. Its media type is the one the data address names, or else follows from the
ending of the file name. The transcript comes back as text, or inside JSON for
the two formats that are JSON.
-/

namespace PromptBroker.Transcription

/-- The bytes of a recording, and the media type if a data address names it. -/
def decodeRecording (raw : String) : Outcome (ByteArray × Option String) :=
  let (mediaType, encoded) :=
    match Text.DataUrl.parse? raw with
    | some (mediaType, payload) => (some mediaType, payload)
    | none => (none, raw)
  match Base64.decode (Text.trim encoded) with
  | .ok bytes => .ok (bytes, mediaType)
  | .error e => .error (.invalidParameter "audiofile" s!"audio is not valid base64: {e.message}")

/-- The ending of a file name in lower case: what follows the last dot. -/
def ending (filename : String) : String :=
  let tail := filename.toList.reverse.takeWhile (· != '.')
  if tail.length = filename.length then "" else Text.lower (String.ofList tail.reverse)

/-- The media type that a file name suggests. -/
def suggestedType (filename : String) : String :=
  match ending filename with
  | "m4a" => "audio/x-m4a"
  | "mp4" => "audio/mp4"
  | "wav" => "audio/wav"
  | "webm" => "audio/webm"
  | "mpeg" => "video/mpeg"
  | "mpga" => "audio/mpga"
  | _ => "audio/mpeg"

/-- The text fields of the upload. -/
def fields (i : Instance) (o : Options) : List (String × String) :=
  let given := ["language", "prompt", "response_format"].filterMap fun key =>
    (o.text? key).map (key, ·)
  let temperature := (o.float? "temperature").toList.map fun t => ("temperature", Decimal.plain t)
  let granularities :=
    (o.texts "timestamp_granularities").map fun g => ("timestamp_granularities[]", g)
  ("model", i.model) :: given ++ temperature ++ granularities

/-- The file name unless the caller gives one. -/
def defaultFilename : String := "audio.mp3"

/-- The request. -/
def payload (i : Instance) (o : Options) : Outcome Http.Payload := do
  match o.text? "audiofile" with
  | none => .error (.invalidParameter "audiofile" "an audio file is required")
  | some raw =>
    let (bytes, declared) ← decodeRecording raw
    if Catalog.recordingLimit < bytes.size then
      .error (.payloadTooLarge Catalog.recordingLimit bytes.size)
    else
      let filename := (o.text? "filename").getD defaultFilename
      let mediaType := declared.getD (suggestedType filename)
      if Catalog.audioTypes.contains mediaType then
        pure ⟨.post, i.target "audio/transcriptions",
          .upload ⟨"file", filename, mediaType, bytes, fields i o⟩⟩
      else .error (.invalidParameter "audiofile" s!"unsupported audio type '{mediaType}'")

/-- Whether a transcript format is JSON with the text inside. -/
def isJsonFormat (format : String) : Bool := format == "json" || format == "verbose_json"

/-- The transcript of an answer. -/
def decode (i : Instance) (body : ByteArray) (o : Options) : Outcome Content := do
  let text ←
    if isJsonFormat ((o.text? "response_format").getD "text") then do
      let v ← Content.readJson body
      pure (((v.get? "text").bind Json.asString?).getD "")
    else pure (Text.Utf8.decodeLossy body)
  pure (.text i.modelName Usage.single text)

end PromptBroker.Transcription
