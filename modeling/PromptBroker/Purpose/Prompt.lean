import PromptBroker.Http.Charset
import PromptBroker.Purpose.Agent
import PromptBroker.Purpose.Basic
import PromptBroker.Purpose.Page

/-!
# Prompts and outputs

What a purpose makes of the caller's prompt on the way to the provider, and of
the provider's output on the way back. Only the agent needs the network for it:
it fetches the documentation pages that the request names, one after the other. A
page that cannot be had is left out.
-/

namespace PromptBroker

namespace Page

/-- What a fetched page contributes; nothing if it cannot be had or holds no text. -/
def text? (charsets : Text.Charsets) (answer : Except Http.CallError Http.Answer) :
    Option String :=
  match answer with
  | .error _ => none
  | .ok a =>
    if Http.Status.isSuccess a.status then ((a.text? charsets).map clean).filter (· != "")
    else none

/-- Fetches pages in order and keeps those that contribute, each with its address. -/
def fetchAll : List String → Run (List (String × String))
  | [] => pure []
  | url :: rest => do
    let answer ← Run.call .get url [] .empty
    let text := text? (← Run.charsets) answer
    let others ← fetchAll rest
    match text with
    | some text => pure ((url, text) :: others)
    | none => pure others

end Page

namespace Purpose

/-- The prompt that asks for a text in another language. -/
def translationPrompt (language prompt : String) : String :=
  "Translate the following text into " ++ language ++ ". Return only the translation.\n\n" ++ prompt

/-- The text sent to the provider. -/
def formatPrompt (p : Purpose) (prompt : String) (o : Options) : Run String :=
  match p with
  | .agent => do
    let pages ← Page.fetchAll (o.texts "documentationurls")
    pure (Agent.prompt prompt o pages)
  | .translate =>
    match o.text? "targetlanguage" with
    | some language => pure (translationPrompt language prompt)
    | none => pure prompt
  | _ => pure prompt

/-- The text that reaches the caller. -/
def formatOutput (p : Purpose) (o : Options) (output : String) : String :=
  match p with
  | .agent => Agent.formatOutput (Agent.offeredIds o) output
  | .transcription => Text.stripTags output
  | _ => output

end Purpose

end PromptBroker
