import PromptBroker.Connector.Catalog
import PromptBroker.Connector.Content
import PromptBroker.Http.Message

/-!
# Embeddings

Text is turned into a vector. A response carries text, so the vector is written
as decimal numbers with commas between, and read back from there.
-/

namespace PromptBroker.Embedding

/-- A vector as text. -/
def join (vector : List Float) : String :=
  ",".intercalate (vector.map Decimal.plain)

/-- The texts between the commas. -/
def parts (cs : List Char) : List (List Char) := cs.splitOn ','

/-- Reads one entry of a vector. -/
def readEntry (part : List Char) : Outcome Float32 :=
  let text := Text.trimChars part
  match Decimal.readFloat32 text with
  | .ok x => .ok x
  | .error e =>
    let shown := String.ofList text
    .error (.malformedResponse s!"embedding entry '{shown}' is not a number: {e.message}")

/-- Reads a vector from text. -/
def readVector (text : String) : Outcome (List Float32) :=
  if Text.isAllBlank text then .error (.malformedResponse "embedding is empty")
  else (parts text.toList).mapM readEntry

/-- The request. Blank text cannot be embedded. -/
def payload (i : Instance) (prompt : String) : Outcome Http.Payload :=
  if Text.isAllBlank prompt then .error (.invalidParameter "prompt" "cannot embed empty text")
  else
    .ok (.postJson (i.target "embeddings")
      (Json.ofMembers [("input", .string prompt), ("model", .string i.model)]))

/-- The vector and the token counts of an answer. -/
def decode (i : Instance) (body : ByteArray) : Outcome Content := do
  let v ← Content.readJson body
  match (v.at? [.key "data", .item 0, .key "embedding"]).bind Json.asArray? with
  | none => .error (.malformedResponse "embedding response has no data[0].embedding")
  | some entries =>
    match entries.mapM Json.asFloat? with
    | none => .error (.malformedResponse "embedding contains non-numeric entries")
    | some vector =>
      let count (key : String) : Option Float := (v.at? [.key "usage", .key key]).bind Json.asFloat?
      let prompt := (count "prompt_tokens").getD 0
      let total := (count "total_tokens").getD prompt
      pure (.text i.modelName (Usage.of total prompt 0) (join vector))

end PromptBroker.Embedding
