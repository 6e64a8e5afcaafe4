import PromptBroker.Text.WordTable

/-!
# Templates

A template is text with named slots, each written as a name between double
braces. `parse` finds the slots, `fill` puts values into them. Values are put in
after all slots have been found, so nothing inside a value, and nothing that
forms where a value meets the text, is ever taken for a slot. A slot without a
value stays as it is written.
-/

namespace PromptBroker.Text

/-- A part of a template. -/
inductive Piece where
  /-- A character of the text. -/
  | char (c : Char)
  /-- A slot with its name. -/
  | slot (name : List Char)
  deriving DecidableEq, Repr

/-- A template, in order. -/
abbrev Template := List Piece

/-- The name of a slot, when the text behind two opening braces is one: word characters and two
closing braces. -/
def slotName? (cs : List Char) : Option (List Char) :=
  let name := cs.takeWhile isWordChar
  match cs.dropWhile isWordChar with
  | '}' :: '}' :: _ => if name = [] then none else some name
  | _ => none

/-- The pieces of a written template. `skip` characters belong to the slot before them. -/
def Template.parseFrom : Nat → List Char → Template
  | _, [] => []
  | skip + 1, _ :: rest => parseFrom skip rest
  | 0, '{' :: '{' :: rest =>
    match slotName? rest with
    | some name => .slot name :: parseFrom (name.length + 3) ('{' :: rest)
    | none => .char '{' :: parseFrom 0 ('{' :: rest)
  | 0, c :: rest => .char c :: parseFrom 0 rest

/-- The pieces of a written template. -/
def Template.parse (text : String) : Template :=
  parseFrom 0 text.toList

/-- What a piece becomes. -/
def Piece.fill (value : String → Option String) : Piece → List Char
  | .char c => [c]
  | .slot name =>
    match value (String.ofList name) with
    | some v => v.toList
    | none => '{' :: '{' :: (name ++ ['}', '}'])

/-- The template with values in its slots. -/
def Template.fill (value : String → Option String) (t : Template) : String :=
  String.ofList (t.flatMap (Piece.fill value))

end PromptBroker.Text
