import PromptBroker.Failure
import PromptBroker.Options.Basic
import PromptBroker.Text.Blank

/-!
# Storing and retrieving

A retrieval request either stores its prompt in the vector store or looks for the
stored texts nearest to it.
-/

namespace PromptBroker

/-- What a retrieval request does with its prompt. -/
inductive RetrievalAction where
  | store
  | retrieve
  deriving DecidableEq, Repr

namespace RetrievalAction

/-- The name of an action. -/
def name : RetrievalAction → String
  | .store => "store"
  | .retrieve => "retrieve"

/-- The action of a name, spelled exactly. -/
def ofName? (name : String) : Option RetrievalAction :=
  [.store, .retrieve].find? fun a : RetrievalAction => a.name == name

/-- The action of a name, whatever its case and surrounding blanks. -/
def parse (text : String) : Outcome RetrievalAction :=
  let name := Text.canonicalName text
  match ofName? name with
  | some a => .ok a
  | none => .error (.invalidParameter "action" s!"must be 'store' or 'retrieve', got '{name}'")

/-- The action that options name; retrieval if they name none. -/
def ofOptions (o : Options) : Outcome RetrievalAction :=
  match o.text? "action" with
  | some text => parse text
  | none => .ok .retrieve

theorem ofName?_name (a : RetrievalAction) : ofName? a.name = some a := by
  cases a <;> decide

end RetrievalAction

end PromptBroker
