import PromptBroker.Decimal.Layout
import PromptBroker.Instance
import PromptBroker.Purpose.RetrievalAction
import PromptBroker.Purpose.Schema
import PromptBroker.Text.DataUrl
import PromptBroker.Uuid

/-!
# Sanitizing options

Before anything else happens to a request its options are checked against the
schema of its purpose, and what the purpose needs is filled in: file names, a
transcript format, the number of hits. Defaults only fill gaps. Where a file name
is missing, one is made from the fresh name given.
-/

namespace PromptBroker

namespace Purpose

/-- The transcript formats. -/
def transcriptFormats : List String := ["text", "json", "verbose_json", "srt", "vtt"]

/-- Refuses a temperature that is not between zero and one. -/
def checkTemperature (o : Options) : Outcome Unit :=
  match o.float? "temperature" with
  | some t =>
    if Instance.temperatureInRange t then .ok ()
    else
      let shown := Decimal.plain t
      .error (.invalidParameter "temperature" s!"must be between 0 and 1, got {shown}")
  | none => .ok ()

/-- The file name for an output: a stem, a fresh name and an extension. -/
def freshFilename (stem extension : String) (fresh : Uuid) : String :=
  stem ++ "_" ++ fresh.simple ++ "." ++ extension

/-- Fills in where an output is stored. -/
def withFileTarget (stem extension : String) (fresh : Uuid) (o : Options) : Options :=
  let o := if (o.int? "itemid").isNone then o.insert "itemid" (Json.ofInt 0) else o
  if (o.text? "filename").isNone then
    o.insert "filename" (.string (freshFilename stem extension fresh))
  else o

/-- Requires a known transcript format, and fills in format and temperature. -/
def completeTranscription (o : Options) : Outcome Options := do
  let o ←
    match o.text? "response_format" with
    | none => pure (o.insert "response_format" (.string "text"))
    | some format =>
      if transcriptFormats.contains format then pure o
      else
        let known := ", ".intercalate transcriptFormats
        .error (.invalidParameter "response_format" s!"must be one of {known}")
  if (o.float? "temperature").isNone then pure (o.insert "temperature" (Json.ofFloat 0))
  else pure o

/-- Requires an image in a data address. -/
def completeImageDescription (o : Options) : Outcome Options :=
  match o.get? "image" with
  | none => .error (.invalidParameter "image" "an image is required")
  | some image =>
    match image.asString?.bind Text.DataUrl.parse? with
    | some _ => .ok o
    | none => .error (.invalidParameter "image" "expected a base64 data URL")

/-- Whether the metadata names the text to be stored. -/
def hasStoreId (o : Options) : Bool :=
  match (o.get? "metadata").bind (Json.get? "id") with
  | some .null => false
  | some (.string s) => s != ""
  | some _ => true
  | none => false

/-- Settles the action and the number of hits; storing requires an id. -/
def completeRetrieval (o : Options) : Outcome Options := do
  let action ← RetrievalAction.ofOptions o
  let o := o.insert "action" (.string action.name)
  let o ←
    match o.int? "topk" with
    | none => pure (o.insert "topk" (Json.ofInt 1))
    | some k =>
      if k < 1 then .error (.invalidParameter "topk" "must be at least 1") else pure o
  if action = .store && !hasStoreId o then
    .error (.invalidParameter "metadata" "storing content requires metadata.id")
  else pure o

/-- Fills in what the purpose needs, and checks what the schema cannot. -/
def complete (p : Purpose) (fresh : Uuid) (o : Options) : Outcome Options :=
  match p with
  | .transcription => completeTranscription o
  | .speech => .ok (withFileTarget "tts" "mp3" fresh o)
  | .imageGeneration => .ok (withFileTarget "image" "png" fresh o)
  | .imageDescription => completeImageDescription o
  | .retrieval => completeRetrieval o
  | .chat | .singlePrompt | .feedback | .translate | .questionGeneration | .agent
  | .embedding => .ok o

/-- The options sent to the connector, from those that the caller sent. -/
def sanitize (p : Purpose) (fresh : Uuid) (raw : Options) : Outcome Options := do
  let o ← p.schema.validate raw
  if p.schema.contains "temperature" then checkTemperature o
  p.complete fresh o

end Purpose

end PromptBroker
