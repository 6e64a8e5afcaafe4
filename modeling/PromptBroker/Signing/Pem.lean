import PromptBroker.Base64
import PromptBroker.Text.Blank

/-!
# Key files in text form

A key file wraps base64 text between a line that names its content and a closing
line that repeats the name; what stands around it does not count. Lines of the
form `name: value` may come first, set off by an empty line. Blanks of all kinds
may stand in the base64 text.
-/

namespace PromptBroker.Signing

/-- A decoded key file. -/
structure Pem where
  label : String
  contents : ByteArray

namespace Pem

/-- The text in front of a mark and the text behind it. The search goes through the text once: where
a character breaks off what looked like the mark, it starts afresh behind that character. -/
def cut? (mark : List Char) (cs : List Char) : Option (List Char × List Char) :=
  search mark [] cs
where
  /-- `wanted` is what is left of the mark, `seen` is the text so far, latest first. -/
  search (wanted seen : List Char) : List Char → Option (List Char × List Char)
    | [] => none
    | c :: rest =>
      match if wanted.head? = some c then wanted.drop 1 else mark with
      | [] => some (((c :: seen).drop mark.length).reverse, rest)
      | wanted => search wanted (c :: seen) rest

/-- Blanks that may follow a line of dashes. -/
def isGap (c : Char) : Bool := c == ' ' || c == '\t' || c == '\n' || c == '\r'

/-- The lines of a text; the break behind the last one begins no line. -/
def lines (cs : List Char) : List (List Char) :=
  match (cs.splitOn '\n').reverse with
  | [] :: rest => rest.reverse
  | all => all.reverse

/-- The part without header lines, if those are well-formed. -/
def withoutHeaders? (cs : List Char) : Option (List Char) :=
  match (cut? ['\n', '\n'] cs).or (cut? ['\r', '\n', '\r', '\n'] cs) with
  | none => some cs
  | some (headers, data) => if (lines headers).all (·.contains ':') then some data else none

/-- Reads a key file. -/
def read? (text : String) : Option Pem := do
  let dashes := "-----".toList
  let (_, rest) ← cut? "-----BEGIN ".toList text.toList
  let (label, rest) ← cut? dashes rest
  let (body, rest) ← cut? "-----END ".toList (rest.dropWhile isGap)
  let (closing, _) ← cut? dashes rest
  if label = [] || label ≠ closing then none
  else
    let encoded := (← withoutHeaders? body).filter fun c => !Text.isBlank c
    let contents ← (Base64.decode (String.ofList encoded)).toOption
    some ⟨String.ofList label, contents⟩

end Pem

end PromptBroker.Signing
