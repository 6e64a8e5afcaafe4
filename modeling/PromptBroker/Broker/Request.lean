import PromptBroker.Broker.Basic
import PromptBroker.Purpose.Prompt

/-!
# Requests

A request passes the gate, has its options sanitized and its prompt formatted, is
submitted by the connector, and comes back decoded and formatted; a success is
put on the caller's account. Whatever goes wrong becomes a response that says so.

A vector store asks for the vector of the prompt on the way. Vectors come from an
embedding request of the same caller, which is a request like any other, except
that no vector store may serve it; so it never asks for a vector itself, and
requests are nested at most once.
-/

namespace PromptBroker

/-- An action of the broker. -/
abbrev Action (α : Type) := StateT Broker Run α

/-- Turns text into a vector for a caller. -/
abbrev Embedder := Caller → String → Action (Outcome (List Float32))

namespace Broker

/-! ### One request -/

/-- The response to a failed delivery. End users are told what is known about the provider's error,
and administrators all details. -/
def failureResponse (c : Connector) (code : UInt16) (message details : String)
    (body : Option String) : Response :=
  let f : Failure := if code = 0 then .transportError message else .providerError code message
  let known := c.knownError code body
  .failure f.code (if known = "" then f.userMessage else known) details f.kind

/-- Sets the flag of the vector store if its status has changed. -/
def updateFlag (before after : SetupStatus) (b : Broker) : Broker :=
  if after = before then b else { b with flags := b.flags.setStatus VectorStore.flagKey after }

/-- The payload of a request, with the connector as it is afterwards. -/
def preparePayload (embed : Embedder) (caller : Caller) (route : Route) (prompt : String)
    (o : Options) : Action (Outcome Http.Payload × Route) := do
  let flag := (← get).flags.status VectorStore.flagKey
  let (plan, connector, flag') ← route.connector.plan flag prompt o
  let route := { route with connector := connector }
  modify fun b => (b.updateFlag flag flag').keep route.name connector
  match plan with
  | .error f => return (.error f, route)
  | .ok (.ready p) => return (.ok p, route)
  | .ok (.awaiting finish) =>
    let vector ← embed caller prompt
    return (vector.bind finish, route)

/-- What came of submitting a payload, with the connector as it is afterwards. -/
def submit (route : Route) (p : Http.Payload) : Action (Outcome Delivery × Route) := do
  let (headers, connector) ← route.connector.headers
  modify (·.keep route.name connector)
  match headers with
  | .error f => return (.error f, { route with connector := connector })
  | .ok h =>
    let (delivery, connector) ← connector.send p h
    modify (·.keep route.name connector)
    return (.ok delivery, { route with connector := connector })

/-- The response to an answer: decoded, formatted, and put on the caller's account. -/
def respond (c : Connector) (caller : Caller) (p : Purpose) (context : Int) (o : Options)
    (body : ByteArray) : Action Response := do
  let b ← get
  let (response, files) := c.respond body o caller.user context b.files
  let response := response.mapContent (p.formatOutput o)
  let ledger :=
    match response.usage? with
    | some usage => b.ledger.record caller.user p usage
    | none => b.ledger
  set { b with files := files, ledger := ledger }
  return response

/-- The part of a request that comes after the gate and the check of its options. -/
def carryOut (embed : Embedder) (caller : Caller) (p : Purpose) (route : Route) (prompt : String)
    (context : Int) (o : Options) : Action Response := do
  let text ← p.formatPrompt prompt o
  match ← preparePayload embed caller route text o with
  | (.error f, _) => return .ofFailure f
  | (.ok payload, route) =>
    match ← submit route payload with
    | (.error f, _) => return .ofFailure f
    | (.ok (.failure code message details body), route) =>
      return failureResponse route.connector code message details body
    | (.ok (.success _ body), route) => respond route.connector caller p context o body

/-- Makes a request; vectors come from `embed`. -/
def requestWith (embed : Embedder) (caller : Caller) (p : Purpose) (prompt : String)
    (context : Int) (raw : Options) : Action Response := do
  match ← modifyGet (gate p caller) with
  | .error f => return .ofFailure f
  | .ok route =>
    match p.sanitize (← Run.freshName) raw with
    | .error f => return .ofFailure f
    | .ok o => carryOut embed caller p route prompt context o

/-! ### Embedding -/

/-- The embedder of embedding requests, which is never asked. -/
def noVector : Embedder := fun _ _ =>
  pure (.error (.configurationError "embedding requests cannot be nested"))

/-- How a failed embedding request is reported by the request that needed the vector. -/
def embeddingFailure (c : Configuration) (r : Role) (kind : Failure.Kind) (code : UInt16)
    (details : String) : Failure :=
  let purpose := Purpose.embedding
  match kind with
  | .notConfigured => .notConfigured purpose.name r.name
  | .disabled => .configurationError s!"embedding instance unavailable: {details}"
  | .quotaExceeded => .quotaExceeded purpose.name (c.limit purpose r).toNat
  | .transportError => .transportError details
  | .malformedResponse => .malformedResponse details
  | .invalidParameter => .invalidParameter "prompt" details
  | .providerError => .providerError code details
  | .internal => .configurationError details

/-- The vector that a response carries. -/
def vectorOf (c : Configuration) (r : Role) : Response → Outcome (List Float32)
  | .success _ _ content => Embedding.readVector content
  | .failure code _ details kind => .error (embeddingFailure c r kind code details)

/-- Turns text into a vector by an embedding request. -/
def embedAnew : Embedder := fun caller text => do
  let response ← requestWith noVector caller .embedding text 0 []
  return vectorOf (← get).config caller.role response

/-- Turns text into a vector; if the settings say so, known vectors are used again. -/
def embed : Embedder := fun caller text => do
  let b ← get
  if b.settings.usesEmbeddingCache then
    match b.vectors.get? text with
    | some vector => return .ok vector
    | none =>
      match ← embedAnew caller text with
      | .error f => return .error f
      | .ok vector =>
        modify fun b => { b with vectors := b.vectors.insert text vector }
        return .ok vector
  else embedAnew caller text

/-- Makes a request. -/
def request : Caller → Purpose → String → Int → Options → Action Response :=
  requestWith embed

end Broker

end PromptBroker
