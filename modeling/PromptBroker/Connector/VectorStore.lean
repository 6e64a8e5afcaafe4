import PromptBroker.Connector.Catalog
import PromptBroker.Connector.Content
import PromptBroker.Decimal.Single
import PromptBroker.Http.Transport
import PromptBroker.Purpose.RetrievalAction
import PromptBroker.Store.Flags

/-!
# Vector store

Texts are stored as points of a collection, each with its vector, and found again
by nearness. Before the first request the collection is created if it is missing.
A backend that cannot be asked, or whose list of collections cannot be read, is
asked again by the next request; when creating the collection fails, the failure
is kept in the setup flag, and requests fail at once until the flag is cleared.
-/

namespace PromptBroker

/-- What the process knows about the backend. -/
inductive BackendState where
  | uninitialized
  | initializing
  | ready
  | failed (reason : String)
  deriving DecidableEq, Repr

namespace VectorStore

/-- The key of the setup flag. -/
def flagKey : String := Provider.name .qdrant

/-- The collection. -/
def collection (i : Instance) : String := (i.customField? "collection").getD "moodle"

/-- The name of the vector of a point. -/
def vectorName (i : Instance) : String := (i.customField? "vector_name").getD "contentvector"

/-- The length of the vectors of a new collection. -/
def vectorSize : Nat := 1536

/-- The headers: a key is sent in a field of its own. -/
def headers (i : Instance) : Outcome Http.Headers :=
  match i.key? with
  | some key => Http.apiKeyHeaders key
  | none => .ok Http.Headers.json

/-! ### Setup -/

/-- Why the setup was not completed. -/
inductive SetupFault where
  /-- The backend could not be asked. -/
  | unavailable (f : Failure)
  /-- The collection could not be created. -/
  | rejected (f : Failure)
  deriving DecidableEq

/-- The request for the list of collections. -/
def listing (i : Instance) : Http.Payload :=
  ⟨.get, i.baseEndpoint ++ "collections", .empty⟩

/-- The request to create the collection. -/
def creation (i : Instance) : Http.Payload :=
  ⟨.put, i.baseEndpoint ++ "collections/" ++ collection i,
    .json (.object [("vectors", .object [(vectorName i,
      Json.ofMembers [("size", Json.ofInt vectorSize), ("distance", .string "Cosine")])])])⟩

/-- Whether a list of collections names a collection. -/
def lists (name : String) (v : Json) : Bool :=
  match (v.at? [.key "result", .key "collections"]).bind Json.asArray? with
  | some items => items.any fun c => (c.get? "name").bind Json.asString? == some name
  | none => false

/-- Reads the list of collections from what came of asking for it. -/
def readListing (d : Delivery) : Outcome Json :=
  match d with
  | .failure _ _ details _ => .error (.transportError s!"Listing collections failed: {details}")
  | .success _ body =>
    match Json.readBytes body with
    | .ok v => .ok v
    | .error e => .error (.malformedResponse s!"collection listing is not valid JSON: {e.message}")

/-- What came of the attempt to create the collection. -/
def created (i : Instance) (d : Delivery) : Except SetupFault Unit :=
  match d with
  | .success .. => .ok ()
  | .failure _ _ details _ =>
    let name := collection i
    .error (.rejected (.transportError s!"Creating collection '{name}' failed: {details}"))

/-- Creates the collection unless it exists. -/
def createIfMissing (i : Instance) : Run (Except SetupFault Unit) :=
  match headers i with
  | .error f => pure (.error (.unavailable f))
  | .ok h => do
    match readListing (← Http.submit (listing i) h) with
    | .error f => pure (.error (.unavailable f))
    | .ok v =>
      if lists (collection i) v then pure (.ok ())
      else pure (created i (← Http.submit (creation i) h))

/-- The flag after the creation of the collection has failed. -/
def creationFailed : SetupStatus := .failed 1

/-- Why nothing is tried while the flag is set. -/
def latchedReason (code : UInt32) : String :=
  s!"backend setup previously failed with code {code.toNat}"

/-- The outcome of a setup with the new state and flag. -/
def settle (flag : SetupStatus) :
    Except SetupFault Unit → Outcome Unit × BackendState × SetupStatus
  | .ok () => (.ok (), .ready, flag)
  | .error (.unavailable f) => (.error f, .uninitialized, flag)
  | .error (.rejected f) =>
    (.error (.initializationFailed flagKey f.message), .failed f.message, creationFailed)

/-- Sees to it that the backend is set up. Besides the outcome it gives the new state and flag. -/
def ensure (i : Instance) (state : BackendState) (flag : SetupStatus) :
    Run (Outcome Unit × BackendState × SetupStatus) :=
  match flag with
  | .failed code =>
    let reason := latchedReason code
    pure (.error (.initializationFailed flagKey reason), .failed reason, flag)
  | .ok =>
    if state = .ready then pure (.ok (), .ready, flag)
    else settle flag <$> createIfMissing i

/-! ### Points -/

/-- The id of a point: the same for the same id in the metadata. -/
def pointId (id : Json) : Uuid :=
  Uuid.ofName .oidNamespace
    (match id with
    | .string s => s
    | v => v.render)

/-- A vector as JSON. -/
def vectorJson (vector : List Float32) : Json :=
  .array (vector.map fun x => Json.ofFloat (Decimal.widen x))

/-- The metadata of the text to be stored. -/
def metadata (o : Options) : Json := (o.get? "metadata").getD (.object [])

/-- The body of a request that stores a text. -/
def point (i : Instance) (id : Uuid) (vector : List Float32) (prompt : String) (metadata : Json) :
    Json :=
  .object [("points", .array [Json.ofMembers
    [("id", .string id.hyphenated), ("vector", .object [(vectorName i, vectorJson vector)]),
      ("payload", Json.ofMembers [("content", .string prompt), ("metadata", metadata)])]])]

/-- The body of a request that looks for the nearest texts. -/
def query (i : Instance) (vector : List Float32) (o : Options) : Json :=
  Json.ofMembers
    [("using", .string (vectorName i)), ("query", vectorJson vector),
      ("top", Json.ofInt ((o.int? "topk").getD 1)), ("with_payload", .bool true),
      ("with_vector", .bool false)]

/-- The request, once the vector of the prompt is known. -/
def payload (i : Instance) (action : RetrievalAction) (prompt : String) (o : Options)
    (vector : List Float32) : Outcome Http.Payload :=
  let points := i.baseEndpoint ++ "collections/" ++ collection i ++ "/points"
  match action with
  | .store =>
    match (metadata o).get? "id" with
    | none => .error (.invalidParameter "metadata" "storing content requires metadata.id")
    | some id =>
      .ok ⟨.put, points ++ "?wait=true", .json (point i (pointId id) vector prompt (metadata o))⟩
  | .retrieve => .ok (.postJson (points ++ "/query") (query i vector o))

/-! ### Answers -/

/-- A stored text that was found. -/
def hit (p : Json) : Json :=
  Json.ofMembers
    [("id", Json.ofOption (p.get? "id")), ("score", Json.ofOption (p.get? "score")),
      ("content", Json.ofOption (p.at? [.key "payload", .key "content"])),
      ("metadata", (p.at? [.key "payload", .key "metadata"]).getD (.object []))]

/-- The stored texts that were found, in the order of the answer. -/
def hits (v : Json) : List Json :=
  let points := (v.at? [.key "result", .key "points"]).or (v.get? "result")
  ((points.bind Json.asArray?).getD []).map hit

/-- What is reported after storing a text. -/
def stored (v : Json) (o : Options) : Json :=
  let id := ((o.get? "metadata").bind (Json.get? "id")).map fun id =>
    Json.string (pointId id).hyphenated
  let status := ((v.at? [.key "result", .key "status"]).bind Json.asString?).getD "completed"
  Json.ofMembers [("id", Json.ofOption id), ("status", .string status)]

/-- The report on an answer. -/
def decode (i : Instance) (body : ByteArray) (o : Options) : Outcome Content := do
  let v ← Content.readJson body
  let report :=
    match ← RetrievalAction.ofOptions o with
    | .store => stored v o
    | .retrieve => .array (hits v)
  pure (.text i.modelName Usage.single report.render)

end VectorStore

end PromptBroker
