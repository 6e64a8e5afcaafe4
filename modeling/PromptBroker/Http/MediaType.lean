import PromptBroker.Text.Blank

/-!
# Media types

A media type is a type and a subtype, both tokens, with parameters behind
semicolons: `audio/mpeg`, `text/plain; charset="utf-8"`. Texts of this form are
recognized by a finite automaton that reads one character at a time. What it has
just read says which characters belong to the names and values of parameters.
-/

namespace PromptBroker.Http.MediaType

/-- What has just been read. -/
inductive Progress where
  | nothing
  | type
  | slash
  | subtype
  | semicolon
  | name
  | equals
  | value
  | openQuote
  | quoted
  | closeQuote
  deriving DecidableEq, Repr

/-- Characters of tokens. -/
def isToken (c : Char) : Bool :=
  c.isAlphanum || "!#$%&\x27*+-.^_\x60|~".toList.contains c

/-- Characters between quotes. A quoted value is not empty: a quote right behind the opening one is
the first character of the value, any later quote ends it. -/
def isQuotable (c : Char) : Bool :=
  0x20 ≤ c.toNat && c.toNat != 0x7F

/-- Reads one more character. -/
def advance (p : Progress) (c : Char) : Option Progress :=
  match p with
  | .nothing => if isToken c then some .type else none
  | .type => if isToken c then some .type else if c == '/' then some .slash else none
  | .slash => if isToken c then some .subtype else none
  | .subtype => if isToken c then some .subtype else if c == ';' then some .semicolon else none
  | .semicolon => if c == ' ' then some .semicolon else if isToken c then some .name else none
  | .name => if isToken c then some .name else if c == '=' then some .equals else none
  | .equals => if c == '"' then some .openQuote else if isToken c then some .value else none
  | .value => if isToken c then some .value else if c == ';' then some .semicolon else none
  | .openQuote => if isQuotable c then some .quoted else none
  | .quoted =>
    if c == '"' then some .closeQuote else if isQuotable c then some .quoted else none
  | .closeQuote =>
    if c == ' ' then some .closeQuote else if c == ';' then some .semicolon else none

/-- Whether the text may end here. -/
def mayEnd : Progress → Bool
  | .slash | .subtype | .semicolon | .equals | .value | .closeQuote => true
  | .nothing | .type | .name | .openQuote | .quoted => false

/-- Whether a text is a media type. -/
def isMediaType (text : String) : Bool :=
  match text.toList.foldlM advance .nothing with
  | some p => mayEnd p
  | none => false

/-! ### Parameters -/

/-- The names and values of parameters, the last one first, each of them as it is read:
backwards. -/
abbrev Gathered := List (List Char × List Char)

/-- Puts a character where it belongs. `before` and `after` are what had been read in front of it
and what it was read as. -/
def gather (before after : Progress) (c : Char) (params : Gathered) : Gathered :=
  match after, params with
  | .name, (name, value) :: rest =>
    if before = .semicolon then ([c], []) :: params else (c :: name, value) :: rest
  | .name, [] => [([c], [])]
  | .value, (name, value) :: rest | .quoted, (name, value) :: rest => (name, c :: value) :: rest
  | _, _ => params

/-- The parameters of a media type, in order. -/
def parameters? (text : String) : Option (List (String × String)) := do
  let (p, params) ← text.toList.foldlM (fun (p, params) c => do
    let after ← advance p c
    return (after, gather p after c params)) (Progress.nothing, ([] : Gathered))
  if mayEnd p then
    some (params.reverse.map fun (name, value) =>
      (String.ofList name.reverse, String.ofList value.reverse))
  else none

/-- The first parameter of some name, which is written in lower case here. -/
def parameter? (name text : String) : Option String := do
  let param ← (← parameters? text).find? fun param => Text.lower param.1 == name
  return param.2

example : parameter? "charset" "text/html; level=1; Charset=\"UTF-16 \"" = some "UTF-16 " := by
  decide +kernel

end PromptBroker.Http.MediaType
