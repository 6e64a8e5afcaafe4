import PromptBroker.Http.DomainTable
import PromptBroker.Http.Punycode
import PromptBroker.Text.Composed
import PromptBroker.Text.DirectionTable
import PromptBroker.Text.JoiningTable

/-!
# Domains

A domain is written as labels with dots between. `Domain.ascii?` brings a domain
of any script into its ASCII form (IDNA, by the rules of UTS #46): characters that
stand for others are replaced, the text is composed, and a label that still has
characters outside ASCII is written in Punycode behind the mark `xn--`. A label
that comes with the mark has to be in the form that this would give.
-/

namespace PromptBroker.Http

/-- Splits at every character that satisfies the test. -/
def splitAtChars (p : Char → Bool) : List Char → List (List Char)
  | [] => [[]]
  | c :: rest =>
    match splitAtChars p rest with
    | part :: parts => if p c then [] :: part :: parts else (c :: part) :: parts
    | [] => [[c]]

/-- Parts with a separator between them. -/
def joinChars (separator : Char) : List (List Char) → List Char
  | [] => []
  | [part] => part
  | part :: parts => part ++ separator :: joinChars separator parts

namespace Domain

/-- Whether a text is all ASCII. -/
def isAscii (cs : List Char) : Bool := cs.all fun c => c.toNat < 0x80

/-! ### Characters -/

/-- What a character stands for, or nothing if it is refused. -/
def replacement? (c : Char) : Option (List Char) :=
  if c.toNat < 0x80 then some [c.toLower]
  else if refusedRanges.contains c then none
  else
    match substitutions.find? fun s => s.appliesTo c with
    | some s => some (s.replacement c)
    | none => some [c]

/-- Whether a character stands for itself. -/
def isPlain (c : Char) : Bool := replacement? c == some [c]

/-- ASCII characters that no domain may contain. -/
def isForbidden (c : Char) : Bool :=
  c.toNat ≤ 0x20 || c.toNat == 0x7F ||
    ['%', '#', '/', ':', '<', '>', '?', '@', '[', '\\', ']', '^', '|'].contains c

/-! ### Labels -/

/-- The mark of a label in Punycode. -/
def mark : List Char := ['x', 'n', '-', '-']

/-- The longest label that is written in Punycode, in characters. -/
def maxWritten : Nat := 1000

/-- The longest label that is read from Punycode, in characters behind the mark. -/
def maxRead : Nat := 2000

/-- The character that joins its neighbours. -/
def joiner : Char := '\u200d'

/-- The character that keeps its neighbours apart. -/
def nonJoiner : Char := '\u200c'

/-- Whether joiners stand where they make a difference: behind a sign that takes away a vowel
(class nine), or, to keep letters apart, between letters that would be joined. `before` is the label
up to here, latest first. -/
def joinersFit (before : List Char) : List Char → Bool
  | [] => true
  | c :: rest =>
    let behindSign := (before.head?.map Text.combiningClass) == some 9
    let between :=
      ((before.dropWhile Text.joinsThrough).head?.map Text.joinsBehind).getD false &&
        ((rest.dropWhile Text.joinsThrough).head?.map Text.joinsInFront).getD false
    let fits :=
      if c = joiner then behindSign
      else if c = nonJoiner then behindSign || between
      else true
    fits && joinersFit (c :: before) rest

/-- Whether a label may stand in a domain. -/
def isLabel (label : List Char) : Bool :=
  !label.any isForbidden && !(label.head?.map Text.isMark).getD false && joinersFit [] label

/-- A label read from Punycode. It has to be one that is written in Punycode, in composed form and
without characters that stand for others. -/
def decoded? (text : List Char) : Option (List Char) :=
  if text.length ≤ maxRead && isAscii text then
    (Punycode.decode? text).filter fun label =>
      !isAscii label && label.all isPlain && Text.composed label == label &&
        !mark.isPrefixOf label
  else none

/-- A label as it is meant, from one as it is written. -/
def label? (written : List Char) : Option (List Char) :=
  let label :=
    if mark.isPrefixOf written then decoded? (written.drop mark.length)
    else if isAscii written || written.length ≤ maxWritten then some written
    else none
  label.filter fun l => isLabel l && !written.any isForbidden

/-- The ASCII form of a label. -/
def asciiLabel (label : List Char) : List Char :=
  if isAscii label then label else mark ++ Punycode.encode label

/-! ### Directions -/

/-- Whether a character is written from right to left. -/
def isRightToLeft (c : Char) : Bool :=
  Text.direction c = .rightToLeft || Text.direction c = .arabicDigit

/-- What a label that begins from left to right may contain, and what may be its last character,
marks apart. -/
def runsLeftToRight (directions : List Text.Direction) : Bool :=
  directions.all (fun d => d ∈ [.leftToRight, .digit, .neutral, .mark]) &&
    match directions.reverse.dropWhile (· = .mark) with
    | last :: _ => last ∈ [.leftToRight, .digit]
    | [] => false

/-- What a label that begins from right to left may contain, and what may be its last character,
marks apart. It has digits of one kind only. -/
def runsRightToLeft (directions : List Text.Direction) : Bool :=
  directions.all (fun d => d ∈ [.rightToLeft, .digit, .arabicDigit, .neutral, .mark]) &&
    !(directions.contains .digit && directions.contains .arabicDigit) &&
    match directions.reverse.dropWhile (· = .mark) with
    | last :: _ => last ∈ [.rightToLeft, .digit, .arabicDigit]
    | [] => false

/-- Whether the direction of a label is clear in every surrounding. -/
def hasClearDirection (label : List Char) : Bool :=
  let directions := label.map Text.direction
  match directions with
  | [] => true
  | .leftToRight :: _ => runsLeftToRight directions
  | .rightToLeft :: _ => runsRightToLeft directions
  | _ => false

/-! ### Whole domains -/

/-- The ASCII form of a domain. Directions have to be clear if anything in it is written from right
to left. -/
def ascii? (domain : List Char) : Option (List Char) := do
  let replaced := (← domain.mapM replacement?).flatten
  let labels ← (splitAtChars (· == '.') (Text.composed replaced)).mapM label?
  if labels.any (·.any isRightToLeft) && !labels.all hasClearDirection then none
  else some (joinChars '.' (labels.map asciiLabel))

end Domain

end PromptBroker.Http
