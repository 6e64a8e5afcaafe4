import PromptBroker.Instance
import PromptBroker.Json.Basic
import PromptBroker.Purpose.Sanitize

/-!
# What providers offer

For each provider: the models it serves each purpose with, the media types it
takes, and the choices a caller has. A provider serves a purpose exactly if it
has a model for it.
-/

namespace PromptBroker

namespace Catalog

/-! ### Models -/

/-- The image model that always answers with the encoded file. -/
def gptImage : String := "gpt-image-1"

/-- The speech model that takes instructions on how to speak. -/
def instructableSpeech : String := "gpt-4o-mini-tts"

/-- Ollama models for text. -/
def textModels : List String :=
  ["gemma", "gemma3", "llama3", "llama3.1", "llama3.2-vision", "llama3.3", "llama4", "phi4",
    "mistral", "mistral-small3.1", "codellama", "qwen", "mixtral", "dolphin-mixtral", "tinyllama"]

/-- Ollama models that can look at images. -/
def visionModels : List String :=
  ["llava-llama3", "llava-phi3", "granite-3.2-vision", "bakllava", "moondream", "llama3.2-vision",
    "llama4", "gemma3", "qwen2.5vl", "mistral-small3.1"]

/-- The models with which a provider serves a purpose. -/
def models : Provider → Purpose → List String
  | .ollama, .chat | .ollama, .feedback | .ollama, .singlePrompt | .ollama, .translate
  | .ollama, .questionGeneration | .ollama, .agent => textModels
  | .ollama, .imageDescription => visionModels
  | .dalle, .imageGeneration => ["dall-e-3", gptImage]
  | .whisper, .transcription => ["whisper-1"]
  | .voice, .speech => ["tts-1", instructableSpeech]
  | .imagen, .imageGeneration =>
    ["imagen-3.0-generate-002", "imagen-4.0-generate-001", "imagen-4.0-ultra-generate-001",
      "imagen-4.0-fast-generate-001"]
  | .embeddings, .embedding =>
    ["text-embedding-3-small", "text-embedding-3-large", "text-embedding-ada-002"]
  | .qdrant, .retrieval => ["text-embedding-small3"]
  | _, _ => []

/-- Whether a provider serves a purpose. -/
def serves (p : Provider) (purpose : Purpose) : Bool := !(models p purpose).isEmpty

/-- The unit in which a provider reports usage. -/
def unit : Provider → UsageUnit
  | .ollama | .embeddings => .token
  | .dalle | .whisper | .voice | .imagen | .qdrant => .count

/-! ### Media types -/

/-- Images that Ollama takes. -/
def imageTypes : List String := ["image/png", "image/jpg", "image/jpeg"]

/-- Recordings that can be transcribed. -/
def audioTypes : List String :=
  ["audio/mpeg", "audio/mp4", "audio/x-m4a", "audio/wav", "audio/webm", "video/mp4", "video/mpeg",
    "audio/mpga"]

/-- The media types that a provider takes. -/
def mediaTypes : Provider → List String
  | .ollama => imageTypes
  | .whisper => audioTypes
  | .dalle | .voice | .imagen | .embeddings | .qdrant => []

/-! ### Choices -/

/-- The voices for speech. -/
def voices : List String :=
  ["alloy", "ash", "ballad", "coral", "echo", "fable", "onyx", "nova", "sage", "shimmer", "verse"]

/-- The shapes of Imagen's pictures. -/
def aspectRatios : List (String × String) :=
  [("1:1", "1:1 (1024 x 1024)"), ("3:4", "3:4 (896 x 1280)"), ("4:3", "4:3 (1280 x 896)"),
    ("9:16", "9:16 (768 x 1408)"), ("16:9", "16:9 (1408 x 768)")]

/-- The largest recording that can be transcribed, in bytes. -/
def recordingLimit : Nat := 26214400

/-- The languages of transcripts. -/
def languages : List (String × String) :=
  [("af", "Afrikaans"), ("ar", "Arabic"), ("hy", "Armenian"), ("az", "Azerbaijani"),
    ("be", "Belarusian"), ("bs", "Bosnian"), ("bg", "Bulgarian"), ("ca", "Catalan"),
    ("zh", "Chinese"), ("hr", "Croatian"), ("cs", "Czech"), ("da", "Danish"), ("nl", "Dutch"),
    ("en", "English"), ("et", "Estonian"), ("fi", "Finnish"), ("fr", "French"), ("gl", "Galician"),
    ("de", "German"), ("el", "Greek"), ("he", "Hebrew"), ("hi", "Hindi"), ("hu", "Hungarian"),
    ("is", "Icelandic"), ("id", "Indonesian"), ("it", "Italian"), ("ja", "Japanese"),
    ("kn", "Kannada"), ("kk", "Kazakh"), ("ko", "Korean"), ("lv", "Latvian"), ("lt", "Lithuanian"),
    ("mk", "Macedonian"), ("ms", "Malay"), ("mr", "Marathi"), ("mi", "Maori"), ("ne", "Nepali"),
    ("no", "Norwegian"), ("fa", "Persian"), ("pl", "Polish"), ("pt", "Portuguese"),
    ("ro", "Romanian"), ("ru", "Russian"), ("sr", "Serbian"), ("sk", "Slovak"),
    ("sl", "Slovenian"), ("es", "Spanish"), ("sw", "Swahili"), ("sv", "Swedish"),
    ("tl", "Tagalog"), ("ta", "Tamil"), ("th", "Thai"), ("tr", "Turkish"), ("uk", "Ukrainian"),
    ("ur", "Urdu"), ("vi", "Vietnamese"), ("cy", "Welsh")]

/-- The sizes of pictures of an OpenAI model. -/
def sizes (model : String) : List (String × String) :=
  if model = "dall-e-3" then
    [("1024x1024", "Squared (1024px x 1024px)"), ("1792x1024", "Landscape (1792px x 1024px)"),
      ("1024x1792", "Portrait (1024px x 1792px)")]
  else if model = gptImage then
    [("1024x1024", "Squared (1024px x 1024px)"), ("1536x1024", "Landscape (1536px x 1024px)"),
      ("1024x1536", "Portrait (1024px x 1536px)")]
  else []

/-- A list of choices, each a key with the name that is displayed. -/
def choices (entries : List (String × String)) : Json :=
  .array (entries.map fun (key, name) =>
    Json.ofMembers [("key", .string key), ("displayname", .string name)])

end Catalog

namespace Instance

open Catalog

/-- A model under the name that the instance reports it by. -/
def reported (i : Instance) (model : String) : String :=
  match i.activeAzure? with
  | some _ => AzureOptions.modelAlias model
  | none => model

/-- The models by purpose, for the purposes that have any. -/
def models (i : Instance) : List (Purpose × List String) :=
  Purpose.all.filterMap fun p =>
    match Catalog.models i.provider p with
    | [] => none
    | ms => some (p, ms.map i.reported)

/-- The model without the ending of its alias. -/
def baseModel (i : Instance) : String :=
  match i.model.dropSuffix? "-azure" with
  | some base => base.copy
  | none => i.model

/-- Whether the speech model takes instructions. -/
def takesInstructions (i : Instance) : Bool := i.baseModel == instructableSpeech

/-- The choices that the instance offers to callers. -/
def availableOptions (i : Instance) : Json :=
  match i.provider with
  | .dalle => Json.ofMembers [("sizes", choices (sizes i.baseModel))]
  | .imagen => Json.ofMembers [("sizes", choices aspectRatios)]
  | .voice =>
    Json.ofMembers (("voices", choices (voices.map fun v => (v, v.capitalize))) ::
      (if i.takesInstructions then [("instructions", .string "text")] else []))
  | .whisper =>
    Json.ofMembers
      [("languages", choices languages),
        ("response_formats", Json.ofStrings Purpose.transcriptFormats),
        ("max_file_size", Json.ofInt recordingLimit),
        ("timestamp_granularities", Json.ofStrings ["segment", "word"])]
  | .ollama | .embeddings | .qdrant => .object []

end Instance

end PromptBroker
