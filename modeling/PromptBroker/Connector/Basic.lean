import PromptBroker.Connector.Chat
import PromptBroker.Connector.Embedding
import PromptBroker.Connector.Picture
import PromptBroker.Connector.Speech
import PromptBroker.Connector.Transcription
import PromptBroker.Connector.VectorStore
import PromptBroker.Token.Source

/-!
# Connectors

A connector speaks the protocol of one provider on behalf of one instance. A
request goes through it in four steps: it plans a payload, makes headers, submits,
and decodes the answer. Two providers need to keep something between requests: an
access token, or what is known about a backend. A vector store needs the vector
of the prompt to finish its payload; since vectors come from the broker, its plan
says how to go on once the vector is there.
-/

namespace PromptBroker

/-- How a connector is bound to its provider, with what it keeps between requests. -/
inductive Binding where
  | ollama
  | dalle
  | whisper
  | voice
  /-- Signs in with a service account; the detector recognizes an expired token. -/
  | imagen (tokens : Token.Source) (detector : ExpiryDetector)
  | embeddings
  | qdrant (state : BackendState)

/-- The provider of a binding. -/
def Binding.provider : Binding → Provider
  | .ollama => .ollama
  | .dalle => .dalle
  | .whisper => .whisper
  | .voice => .voice
  | .imagen _ _ => .imagen
  | .embeddings => .embeddings
  | .qdrant _ => .qdrant

/-- An instance together with its binding. -/
structure Connector where
  config : Instance
  binding : Binding

/-- How the payload of a request comes about. -/
inductive Plan where
  | ready (p : Http.Payload)
  /-- The vector of the prompt is needed first. -/
  | awaiting (finish : List Float32 → Outcome Http.Payload)

/-! ### Creation -/

/-- The custom field that holds the key file of a service account. -/
def accountField : String := "serviceaccountjson"

/-- Binds an Imagen instance: its service account has to be complete. -/
def Binding.ofAccount (i : Instance) : Outcome Binding :=
  match i.customField? accountField with
  | none =>
    .error (.configurationError
      s!"Imagen instance '{i.name}' requires a service account JSON in '{accountField}'")
  | some text => do
    let service ← Token.ServiceAccount.read text
    let account ← Token.Account.of service ((i.customField? "scope").getD Token.defaultScope)
    pure (.imagen ⟨account, none⟩ (i.expiry.getD {}))

/-- Binds an instance to its provider. -/
def Binding.ofInstance (i : Instance) : Outcome Binding :=
  match i.provider with
  | .ollama => .ok .ollama
  | .dalle => .ok .dalle
  | .whisper => .ok .whisper
  | .voice => .ok .voice
  | .imagen => Binding.ofAccount i
  | .embeddings => .ok .embeddings
  | .qdrant => .ok (.qdrant .uninitialized)

namespace Connector

/-- A connector for a valid instance. -/
def ofInstance (i : Instance) : Outcome Connector := do
  i.validate
  let binding ← Binding.ofInstance i
  pure ⟨i, binding⟩

/-- A connector of a given provider, to which the instance has to belong. -/
def create (p : Provider) (i : Instance) : Outcome Connector :=
  if i.provider = p then ofInstance i
  else
    .error (.configurationError
      s!"Instance '{i.name}' is configured for connector '{i.provider.name}', not '{p.name}'")

/-- The provider. -/
def provider (c : Connector) : Provider := c.binding.provider

/-- Whether the connector serves a purpose. -/
def serves (c : Connector) (p : Purpose) : Bool := Catalog.serves c.provider p

/-! ### Payloads -/

/-- Plans the payload. The status given is that of the backend's setup flag; besides the plan
there are the connector and the status afterwards. -/
def plan (c : Connector) (flag : SetupStatus) (prompt : String) (o : Options) :
    Run (Outcome Plan × Connector × SetupStatus) :=
  let direct (p : Outcome Http.Payload) : Run (Outcome Plan × Connector × SetupStatus) :=
    pure (p.map .ready, c, flag)
  match c.binding with
  | .ollama => direct (Chat.payload c.config prompt o)
  | .dalle => direct (.ok (Picture.openaiPayload c.config prompt o))
  | .whisper => direct (Transcription.payload c.config o)
  | .voice => direct (Speech.payload c.config prompt o)
  | .imagen _ _ => direct (Picture.imagenPayload c.config prompt o)
  | .embeddings => direct (Embedding.payload c.config prompt)
  | .qdrant state => do
    let (outcome, state, flag) ← VectorStore.ensure c.config state flag
    let plan := do
      outcome
      let action ← RetrievalAction.ofOptions o
      pure (Plan.awaiting (VectorStore.payload c.config action prompt o))
    pure (plan, { c with binding := .qdrant state }, flag)

/-! ### Headers -/

/-- The key in the form OpenAI and Azure want it. -/
def openaiHeaders (i : Instance) : Outcome Http.Headers :=
  let key := i.apiKey.getD ""
  if i.activeAzure?.isSome then Http.apiKeyHeaders key else Http.bearerHeaders key

/-- The key, if there is one. -/
def ollamaHeaders (i : Instance) : Outcome Http.Headers :=
  match i.key? with
  | some key => Http.bearerHeaders key
  | none => .ok Http.Headers.json

/-- Makes the headers of a request. -/
def headers (c : Connector) : Run (Outcome Http.Headers × Connector) :=
  match c.binding with
  | .ollama => pure (ollamaHeaders c.config, c)
  | .dalle | .whisper | .voice | .embeddings => pure (openaiHeaders c.config, c)
  | .qdrant _ => pure (VectorStore.headers c.config, c)
  | .imagen tokens detector => do
    let (token, tokens) ← tokens.access
    pure (token.bind (Token.bearer · Http.Headers.json),
      { c with binding := .imagen tokens detector })

/-! ### Submission -/

/-- Submits a payload. -/
def send (c : Connector) (p : Http.Payload) (h : Http.Headers) : Run (Delivery × Connector) :=
  match c.binding with
  | .imagen tokens detector => do
    let (delivery, tokens) ← Token.submitWithRefresh tokens detector p h
    pure (delivery, { c with binding := .imagen tokens detector })
  | _ => do
    let delivery ← Http.submit p h
    pure (delivery, c)

/-! ### Answers -/

/-- Decodes an answer with a success status. -/
def decode (c : Connector) (body : ByteArray) (o : Options) : Outcome Content :=
  match c.binding with
  | .ollama => Chat.decode c.config body
  | .dalle => Picture.openaiDecode body
  | .whisper => Transcription.decode c.config body o
  | .voice => Speech.decode body
  | .imagen _ _ => Picture.imagenDecode body
  | .embeddings => Embedding.decode c.config body
  | .qdrant _ => VectorStore.decode c.config body o

/-- Decodes an answer and stores what is a file. -/
def respond (c : Connector) (body : ByteArray) (o : Options) (user context : Int) (files : Files) :
    Response × Files :=
  Content.deliver c.config.modelName (Placement.ofOptions user context o) files (c.decode body o)

/-- What is said to end users about an error that the provider is known for; empty otherwise. -/
def knownError (c : Connector) (status : UInt16) (body : Option String) : String :=
  match c.binding with
  | .dalle => if Picture.isOpenaiRefusal status body then Picture.openaiRefusal else ""
  | .imagen _ _ => if Picture.isImagenRefusal status body then Picture.imagenRefusal else ""
  | _ => ""

end Connector

end PromptBroker
