import PromptBroker.Failure
import PromptBroker.Text.Blank
import PromptBroker.Usage

/-!
# Purposes

A purpose is a category of use: chat, transcription, image generation and so on.
Callers name a purpose and never a provider. The list is closed, and its order is
the order in which purposes are listed to callers.
-/

namespace PromptBroker

/-- What a request is for. -/
inductive Purpose where
  | chat
  | singlePrompt
  /-- Speech to text. -/
  | transcription
  /-- Text to speech. -/
  | speech
  | imageGeneration
  /-- Image to text. -/
  | imageDescription
  /-- Filling in the elements of a form. -/
  | agent
  /-- Storing texts in a vector store and finding them again. -/
  | retrieval
  | feedback
  | translate
  | questionGeneration
  /-- Turning text into a vector; requested by vector stores only. -/
  | embedding
  deriving DecidableEq, Repr

namespace Purpose

/-- All purposes in order. -/
def all : List Purpose :=
  [.chat, .singlePrompt, .transcription, .speech, .imageGeneration, .imageDescription, .agent,
    .retrieval, .feedback, .translate, .questionGeneration, .embedding]

/-- The name that callers and configurations use. -/
def name : Purpose → String
  | .chat => "chat"
  | .singlePrompt => "singleprompt"
  | .transcription => "stt"
  | .speech => "tts"
  | .imageGeneration => "imggen"
  | .imageDescription => "itt"
  | .agent => "agent"
  | .retrieval => "rag"
  | .feedback => "feedback"
  | .translate => "translate"
  | .questionGeneration => "questiongeneration"
  | .embedding => "embedding"

/-- The purpose of a name, spelled exactly. -/
def ofName? (name : String) : Option Purpose :=
  all.find? fun p => p.name == name

/-- The purpose of a name, whatever its case and surrounding blanks. -/
def parse (text : String) : Outcome Purpose :=
  match ofName? (Text.canonicalName text) with
  | some p => .ok p
  | none => .error (.invalidParameter "purpose" s!"unknown purpose '{text}'")

/-- The unit that a caller's quota is counted in. -/
def unit : Purpose → UsageUnit
  | .chat | .singlePrompt | .feedback | .translate | .questionGeneration | .agent | .embedding =>
    .token
  | .transcription | .speech | .imageGeneration | .imageDescription | .retrieval => .count

@[simp] theorem ofName?_name (p : Purpose) : ofName? p.name = some p := by
  cases p <;> decide

end Purpose

end PromptBroker
