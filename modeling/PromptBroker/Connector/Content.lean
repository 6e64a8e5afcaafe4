import PromptBroker.Json.Reader
import PromptBroker.Options.Basic
import PromptBroker.Response
import PromptBroker.Store.Files

/-!
# What an answer holds

A provider's answer is decoded into text, which goes to the caller as it is, or
into a file, which is stored for the caller and replaced by its address.
-/

namespace PromptBroker

/-- The usable part of an answer. -/
inductive Content where
  | text (model : String) (usage : Usage) (text : String)
  | file (bytes : ByteArray)

/-- Where the caller wants an output stored. -/
structure Placement where
  owner : Owner
  filename : String
  deriving DecidableEq, Repr

/-- The placement that options ask for. -/
def Placement.ofOptions (user context : Int) (o : Options) : Placement :=
  ⟨⟨user, context, (o.int? "itemid").getD 0⟩, (o.text? "filename").getD "output.bin"⟩

namespace Content

/-- Reads an answer as JSON. -/
def readJson (body : ByteArray) : Outcome Json :=
  match Json.readBytes body with
  | .ok v => .ok v
  | .error e => .error (.malformedResponse s!"response body is not valid JSON: {e.message}")

/-- Turns what was decoded into a response; files are stored. `model` is the model reported for
files. -/
def deliver (model : String) (placement : Placement) (files : Files) :
    Outcome Content → Response × Files
  | .error f => (.ofFailure f, files)
  | .ok (.text model usage t) => (.success model usage t, files)
  | .ok (.file bytes) =>
    match files.put placement.owner placement.filename bytes with
    | .ok (address, files) => (.success model Usage.single address, files)
    | .error f => (.ofFailure f, files)

end Content

end PromptBroker
