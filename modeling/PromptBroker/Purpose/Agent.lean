import PromptBroker.Json.Recovery
import PromptBroker.Json.Printer
import PromptBroker.Options.Basic
import PromptBroker.Text.Template

/-!
# Filling in forms

The agent is shown the elements of a form and asks a model for values. What the
model says is brought into one shape: the elements it fills in, of which only
those count that the request offered, and a chat part of exactly two entries, an
introduction and a closing remark. Model output without a JSON object in it is
answered with a fixed apology in the same shape, so formatting never fails.
-/

namespace PromptBroker.Agent

/-! ### Offered elements -/

/-- The id of a form element: text that is not empty, or a number as its text. -/
def elementId? (element : Json) : Option String :=
  match element.get? "id" with
  | some (.string s) => if s == "" then none else some s
  | some (.number n) => some (String.ofList n.chars)
  | _ => none

/-- The ids of the elements that a request offers. -/
def offeredIds (o : Options) : List String :=
  ((o.items? "formelements").getD []).filterMap elementId?

/-- Whether an element is one of those offered. -/
def isOffered (offered : List String) (element : Json) : Bool :=
  match elementId? element with
  | some id => offered.contains id
  | none => false

/-- The elements of an answer that were offered, unchanged and in order. -/
def keepOffered (offered : List String) (elements : Option Json) : List Json :=
  ((elements.bind Json.asArray?).getD []).filter (isOffered offered)

/-! ### The chat part -/

/-- One entry of the chat part. -/
def chatEntry (type text : String) : Json :=
  Json.ofMembers [("type", .string type), ("text", .string text)]

/-- The text of the first entry of a type, or empty text. -/
def chatText (chat : Option Json) (type : String) : String :=
  let entries := (chat.bind Json.asArray?).getD []
  let entry := entries.find? fun e => (e.get? "type").bind Json.asString? == some type
  ((entry.bind (Json.get? "text")).bind Json.asString?).getD ""

/-- The chat part in its final shape. -/
def normalizeChat (chat : Option Json) : Json :=
  .array [chatEntry "intro" (chatText chat "intro"), chatEntry "outro" (chatText chat "outro")]

/-! ### Answers -/

/-- What is said when the model's answer cannot be used. -/
def apology : String :=
  "Sorry, I could not understand the answer of the AI tool. Please try again."

/-- The answer given in place of one that cannot be used. -/
def fallbackAnswer : Json :=
  Json.ofMembers
    [("formelements", .array []),
      ("chatoutput", .array [chatEntry "intro" apology, chatEntry "outro" ""])]

/-- The model's answer in its final shape. -/
def answer (offered : List String) (output : String) : Json :=
  match Json.recover output with
  | .ok (.object members) =>
    let elements := keepOffered offered (Keyed.get? "formelements" members)
    let chat := normalizeChat (Keyed.get? "chatoutput" members)
    .object ((Keyed.insert "formelements" (.array elements) members).insert "chatoutput" chat)
  | _ => fallbackAnswer

/-- The model's answer as text. -/
def formatOutput (offered : List String) (output : String) : String :=
  (answer offered output).render

/-! ### Prompts -/

/-- What the model is told; slots stand for what changes from request to request. -/
def instructions : String :=
  "You are an assistant that helps users fill in a web form.\n" ++
  "\n" ++
  "The user wrote:\n" ++
  "\x7b\x7buserprompt\x7d\x7d\n" ++
  "\n" ++
  "These are the form elements currently offered, as JSON. Only refer to " ++
  "elements by the ids listed here:\n" ++
  "\x7b\x7bformelements\x7d\x7d\n" ++
  "\n" ++
  "Answer in the language with the code \"\x7b\x7blang\x7d\x7d\".\n" ++
  "\n" ++
  "Reference documentation:\n" ++
  "\x7b\x7bdocumentation\x7d\x7d\n" ++
  "\n" ++
  "Respond with a single JSON object and nothing else, using exactly this " ++
  "shape:\n" ++
  "\x7b\"formelements\": [\x7b\"id\": \"<element id>\", \"value\": \"<suggested " ++
  "value>\"\x7d], \"chatoutput\": [\x7b\"type\": \"intro\", \"text\": \"<short " ++
  "introduction>\"\x7d, \x7b\"type\": \"outro\", \"text\": \"<short closing " ++
  "remark>\"\x7d]\x7d\n"

/-- The instructions with their slots found. -/
def template : Text.Template := Text.Template.parse instructions

/-- The documentation part of the prompt: a block for each page, with an empty line between. -/
def documentation (pages : List (String × String)) : String :=
  "\n\n".intercalate (pages.map fun (url, text) => "Source: " ++ url ++ "\n" ++ text)

/-- The values of the slots. -/
def slotValue? (prompt : String) (o : Options) (documentation : String) (slot : String) :
    Option String :=
  match slot with
  | "userprompt" => some prompt
  | "formelements" => some ((o.get? "formelements").getD (.array [])).render
  | "lang" => some ((o.text? "lang").getD "en")
  | "documentation" => some documentation
  | _ => none

/-- The prompt sent to the model. -/
def prompt (userPrompt : String) (o : Options) (pages : List (String × String)) : String :=
  template.fill (slotValue? userPrompt o (documentation pages))

end PromptBroker.Agent
