import PromptBroker.Failure
import PromptBroker.Text.Blank

/-!
# Providers

The services the broker can talk to, each with a wire protocol of its own.
-/

namespace PromptBroker

/-- A kind of service. -/
inductive Provider where
  | ollama
  /-- OpenAI image generation. -/
  | dalle
  /-- OpenAI speech to text. -/
  | whisper
  /-- OpenAI text to speech. -/
  | voice
  /-- Google image generation. -/
  | imagen
  /-- OpenAI embeddings. -/
  | embeddings
  /-- A vector store. -/
  | qdrant
  deriving DecidableEq, Repr

namespace Provider

/-- All providers in order. -/
def all : List Provider :=
  [.ollama, .dalle, .whisper, .voice, .imagen, .embeddings, .qdrant]

/-- The name used in configurations. -/
def name : Provider → String
  | .ollama => "ollama"
  | .dalle => "dalle"
  | .whisper => "openaistt"
  | .voice => "openaitts"
  | .imagen => "imagen"
  | .embeddings => "openaiembedding"
  | .qdrant => "qdrant"

/-- The provider of a name, spelled exactly. -/
def ofName? (name : String) : Option Provider :=
  all.find? fun p => p.name == name

/-- The provider of a name, whatever its case and surrounding blanks. -/
def parse (text : String) : Outcome Provider :=
  match ofName? (Text.canonicalName text) with
  | some p => .ok p
  | none => .error (.configurationError s!"Unknown connector '{text}'")

/-- Whether an instance has to carry an API key. Imagen signs in with a service account. -/
def requiresApiKey : Provider → Bool
  | .dalle | .whisper | .voice | .embeddings => true
  | .ollama | .imagen | .qdrant => false

/-- A vector store asks the broker for embeddings and must never have to provide them. -/
def isVectorStore : Provider → Bool
  | .qdrant => true
  | _ => false

@[simp] theorem ofName?_name (p : Provider) : ofName? p.name = some p := by
  cases p <;> decide

end Provider

end PromptBroker
