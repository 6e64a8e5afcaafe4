import PromptBroker.Failure
import PromptBroker.Json.Reader
import PromptBroker.Text.Blank
import PromptBroker.Text.Preview

/-!
# Objects in the output of a model

A model that is asked for a JSON object often wraps it in remarks or in a code
fence. `recover` tries three readings in turn: the text as it is, the text
without fences and control characters, and the first balanced object found in
that cleaned text.

`balanced?` is the scanner behind the third reading. It is not a JSON reader: it
counts braces outside string literals, where a literal runs from a quote to the
next quote that no backslash escapes.
-/

namespace PromptBroker.Json

/-! ### The first balanced object -/

/-- Where the scanner stands: outside a string literal, inside one, or behind a backslash in one. -/
inductive ScanMode where
  | outside
  | inside
  | escaped
  deriving DecidableEq, Repr

/-- The text up to the brace that brings `depth` back to zero, that brace included. A closing
brace at depth zero, and the end of the text, leave no balanced object. -/
def balanced? : ScanMode → Nat → List Char → Option (List Char)
  | _, _, [] => none
  | .escaped, depth, c :: rest => (balanced? .inside depth rest).map (c :: ·)
  | .inside, depth, c :: rest =>
    let mode := if c = '\\' then .escaped else if c = '"' then .outside else .inside
    (balanced? mode depth rest).map (c :: ·)
  | .outside, depth, c :: rest =>
    if c = '"' then (balanced? .inside depth rest).map (c :: ·)
    else if c = '{' then (balanced? .outside (depth + 1) rest).map (c :: ·)
    else if c = '}' then
      match depth with
      | 0 => none
      | 1 => some [c]
      | depth + 2 => (balanced? .outside (depth + 1) rest).map (c :: ·)
    else (balanced? .outside depth rest).map (c :: ·)

/-- The first balanced object of the text, as it is written. -/
def extractChars? (cs : List Char) : Option (List Char) :=
  balanced? .outside 0 (cs.dropWhile (· != '{'))

/-- The first balanced object of the text, as it is written. -/
def extractObject? (text : String) : Option String :=
  (extractChars? text.toList).map String.ofList

/-! ### Cleaning -/

/-- Removes each occurrence of a word, leftmost first. `skip` characters belong to the occurrence
before them. -/
def removeWord (word : List Char) : Nat → List Char → List Char
  | _, [] => []
  | skip + 1, _ :: rest => removeWord word skip rest
  | 0, c :: rest =>
    if word.isPrefixOf (c :: rest) then removeWord word (word.length - 1) rest
    else c :: removeWord word 0 rest

/-- Without code fences, and without control characters other than blank ones. -/
def cleanChars (cs : List Char) : List Char :=
  let fence := ['\x60', '\x60', '\x60']
  let cs := removeWord (fence ++ ['j', 's', 'o', 'n']) 0 cs
  let cs := removeWord (fence ++ ['J', 'S', 'O', 'N']) 0 cs
  let cs := removeWord fence 0 cs
  (Text.trimChars cs).filter fun c => !Text.isControl c || Text.isBlank c

/-! ### The three readings -/

/-- The object that the whole text is, apart from blanks at its ends. -/
def readObject? (cs : List Char) : Option Json :=
  match readWithin maxDepth (Text.trimChars cs) with
  | .ok v => if v.isObject then some v else none
  | .error _ => none

/-- The object in the output of a model, by the first reading that gives one. -/
def recoverChars? (cs : List Char) : Option Json :=
  let cleaned := cleanChars cs
  (readObject? cs).or ((readObject? cleaned).or ((extractChars? cleaned).bind readObject?))

/-- The object in the output of a model. -/
def recover (text : String) : Outcome Json :=
  match recoverChars? text.toList with
  | some v => .ok v
  | none =>
    .error (.malformedResponse s!"could not find a JSON object in: {Text.preview 200 text}")

end PromptBroker.Json
