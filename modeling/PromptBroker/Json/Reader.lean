import PromptBroker.Json.Basic
import PromptBroker.Text.Hex
import PromptBroker.Text.Utf8

/-!
# Reading JSON text

A reader for the grammar of RFC 8259 over a list of characters. Beyond the
grammar it sets two limits: containers may nest 127 deep, and a number must be
within the range of a float. Of two members with one key the later counts.

A number without fraction and exponent that fits a 64-bit word is a whole
number; `-0` and every other number is a float. The digits of a float are
gathered into a 64-bit word, digits that no longer fit only move the exponent,
and the word is scaled by one power of ten in float arithmetic (`scale`). For
texts of up to fifteen digits and moderate exponents this is the nearest float.

The recursive functions count down a step budget. `stepsFor` sets it to twice the
length of the text, which no reading uses up: of any two steps in a row at least
one takes a character.
-/

namespace PromptBroker.Json

/-- Why a text is no JSON value. -/
inductive ReadError where
  /-- The text ends inside a value. -/
  | unexpectedEnd
  /-- A character that cannot stand where it does. -/
  | unexpected (c : Char)
  /-- Containers nest too deep. -/
  | tooDeep
  /-- A number beyond the range of a float. -/
  | outOfRange
  /-- Half of a surrogate pair. -/
  | loneSurrogate
  /-- The bytes are not UTF-8. -/
  | notUtf8
  deriving DecidableEq, Repr

/-- A description for messages. -/
def ReadError.message : ReadError → String
  | .unexpectedEnd => "unexpected end of input"
  | .unexpected c => s!"unexpected character {String.ofList [c]}"
  | .tooDeep => "recursion limit exceeded"
  | .outOfRange => "number out of range"
  | .loneSurrogate => "lone surrogate in a string"
  | .notUtf8 => "invalid UTF-8"

/-- Containers may be nested this deep. -/
def maxDepth : Nat := 127

/-- The outcome of reading at the front of a text: a result and the rest of the text. -/
abbrev Reading (α : Type) := Except ReadError (α × List Char)

/-- Blanks of the grammar; other Unicode blanks are not allowed between tokens. -/
def isGap (c : Char) : Bool := c == ' ' || c == '\n' || c == '\r' || c == '\t'

/-- The text without its leading blanks. -/
def skipGap (cs : List Char) : List Char := cs.dropWhile isGap

/-! ### Numbers -/

/-- The largest unsigned 64-bit word. -/
def wordMax : Nat := 0xFFFFFFFFFFFFFFFF

/-- The power of ten as a float, exact or nearest. -/
def tenPow (n : Nat) : Float := Float.ofScientific 1 false n

/-- Scales the gathered digits by a power of ten: one multiplication or division by a power up
to 308. A smaller power is reached by dividing by `10 ^ 308` first, in at most two rounds. -/
def scale (significand : Nat) (exponent : Int) : Except ReadError Float :=
  let x := Float.ofNat significand
  if 0 ≤ exponent then
    if x == 0 then .ok x
    else if 308 < exponent then .error .outOfRange
    else
      let y := x * tenPow exponent.toNat
      if y.isInf then .error .outOfRange else .ok y
  else if -308 ≤ exponent then .ok (x / tenPow exponent.natAbs)
  else if -616 ≤ exponent then .ok (x / tenPow 308 / tenPow (exponent + 308).natAbs)
  else .ok 0

/-- The digits of a number as far as they fit a word, and the power of ten of the last one. -/
structure Digits where
  significand : Nat
  exponent : Int
  /-- A digit did not fit any more. -/
  full : Bool
  deriving DecidableEq, Repr

/-- One more digit in front of the point. -/
def Digits.whole (d : Digits) (digit : Nat) : Digits :=
  if d.full || wordMax < 10 * d.significand + digit then ⟨d.significand, d.exponent + 1, true⟩
  else ⟨10 * d.significand + digit, d.exponent, false⟩

/-- One more digit behind the point. -/
def Digits.fraction (d : Digits) (digit : Nat) : Digits :=
  if d.full || wordMax < 10 * d.significand + digit then ⟨d.significand, d.exponent, true⟩
  else ⟨10 * d.significand + digit, d.exponent - 1, false⟩

/-- The value of a digit character. -/
def digitValue (c : Char) : Nat := c.toNat - 48

/-- The exponent part, which `scale` accounts for: its value, bounded where it is absurdly large,
and the rest of the text. -/
def readExponent (cs : List Char) : Reading Int :=
  let (negative, ds) :=
    match cs with
    | '-' :: rest => (true, rest)
    | '+' :: rest => (false, rest)
    | rest => (false, rest)
  match ds.takeWhile Char.isDigit, ds.dropWhile Char.isDigit with
  | [], [] => .error .unexpectedEnd
  | [], c :: _ => .error (.unexpected c)
  | digits, rest =>
    let n := digits.foldl (fun n c => min (10 * n + digitValue c) 0x80000000) 0
    .ok (if negative then -(n : Int) else n, rest)

/-- A float from its sign, its gathered digits and an exponent. -/
def floatNumber (negative : Bool) (d : Digits) (exponent : Int) : Except ReadError Number :=
  match scale d.significand (d.exponent + exponent) with
  | .error e => .error e
  | .ok x =>
    let y := if negative then -x else x
    if h : y.isFinite = true then .ok (.real y h) else .error .outOfRange

/-- A float from its sign and gathered digits, with the exponent that may follow. -/
def finishFloat (negative : Bool) (d : Digits) (cs : List Char) : Reading Number :=
  match cs with
  | [] => (floatNumber negative d 0).map (·, [])
  | c :: rest =>
    if c = 'e' ∨ c = 'E' then
      match readExponent rest with
      | .error e => .error e
      | .ok (exponent, rest) => (floatNumber negative d exponent).map (·, rest)
    else (floatNumber negative d 0).map (·, c :: rest)

/-- A whole number, or the float it becomes when it does not fit a word: `-0`, and what lies
beyond the 64-bit range. -/
def wholeNumber (negative : Bool) (d : Digits) : Except ReadError Number :=
  let n : Int := if negative then -(d.significand : Int) else d.significand
  let asWhole := if d.full || (negative && n = 0) then none else Whole.ofInt? n
  match asWhole with
  | some w => .ok (.whole w)
  | none => floatNumber negative d 0

/-- The number behind its integer part. -/
def readTail (negative : Bool) (d : Digits) (cs : List Char) : Reading Number :=
  match cs with
  | '.' :: rest =>
    match rest.takeWhile Char.isDigit, rest.dropWhile Char.isDigit with
    | [], [] => .error .unexpectedEnd
    | [], c :: _ => .error (.unexpected c)
    | digits, after =>
      finishFloat negative
        (digits.foldl (fun d c => d.fraction (digitValue c)) ⟨d.significand, d.exponent, false⟩)
        after
  | 'e' :: _ => finishFloat negative d cs
  | 'E' :: _ => finishFloat negative d cs
  | _ => (wholeNumber negative d).map (·, cs)

/-- A number without its sign. A leading zero stands alone. -/
def readUnsigned (negative : Bool) (cs : List Char) : Reading Number :=
  match cs with
  | [] => .error .unexpectedEnd
  | '0' :: rest =>
    match rest with
    | c :: _ => if c.isDigit then .error (.unexpected c) else readTail negative ⟨0, 0, false⟩ rest
    | [] => readTail negative ⟨0, 0, false⟩ []
  | c :: _ =>
    if c.isDigit then
      readTail negative
        ((cs.takeWhile Char.isDigit).foldl (fun d c => d.whole (digitValue c)) ⟨0, 0, false⟩)
        (cs.dropWhile Char.isDigit)
    else .error (.unexpected c)

/-- A number. -/
def readNumber (cs : List Char) : Reading Number :=
  match cs with
  | '-' :: rest => readUnsigned true rest
  | _ => readUnsigned false cs

/-! ### Strings -/

/-- Four hexadecimal digits. -/
def readHex (cs : List Char) : Reading Nat :=
  match cs with
  | a :: b :: c :: d :: rest =>
    match Text.hexNumber? [a, b, c, d] with
    | some n => .ok (n, rest)
    | none => .error (.unexpected a)
  | _ => .error .unexpectedEnd

/-- The second half of a surrogate pair, as an escape of its own. -/
def readLowSurrogate (high : Nat) (cs : List Char) : Reading Char :=
  match cs with
  | '\\' :: 'u' :: more =>
    match readHex more with
    | .error e => .error e
    | .ok (low, rest) =>
      if 0xDC00 ≤ low ∧ low < 0xE000 then
        .ok (Char.ofNat (0x10000 + (high - 0xD800) * 0x400 + (low - 0xDC00)), rest)
      else .error .loneSurrogate
  | _ => .error .loneSurrogate

/-- The character of an escape by number. A high surrogate needs a low one right behind it. -/
def readUnicode (cs : List Char) : Reading Char :=
  match readHex cs with
  | .error e => .error e
  | .ok (n, rest) =>
    if 0xD800 ≤ n ∧ n < 0xDC00 then readLowSurrogate n rest
    else if 0xDC00 ≤ n ∧ n < 0xE000 then .error .loneSurrogate
    else .ok (Char.ofNat n, rest)

/-- The character of an escape, behind its backslash. -/
def readEscape (cs : List Char) : Reading Char :=
  match cs with
  | [] => .error .unexpectedEnd
  | '"' :: rest => .ok ('"', rest)
  | '\\' :: rest => .ok ('\\', rest)
  | '/' :: rest => .ok ('/', rest)
  | 'b' :: rest => .ok (Char.ofNat 8, rest)
  | 'f' :: rest => .ok (Char.ofNat 12, rest)
  | 'n' :: rest => .ok ('\n', rest)
  | 'r' :: rest => .ok ('\r', rest)
  | 't' :: rest => .ok ('\t', rest)
  | 'u' :: rest => readUnicode rest
  | c :: _ => .error (.unexpected c)

/-- The characters of a string up to its closing quote, in reverse order in front of `acc`. -/
def readChars : Nat → List Char → List Char → Reading (List Char)
  | 0, _, _ => .error .unexpectedEnd
  | _ + 1, _, [] => .error .unexpectedEnd
  | steps + 1, acc, c :: rest =>
    if c = '"' then .ok (acc, rest)
    else if c = '\\' then
      match readEscape rest with
      | .ok (e, rest) => readChars steps (e :: acc) rest
      | .error e => .error e
    else if c.toNat < 0x20 then .error (.unexpected c)
    else readChars steps (c :: acc) rest

/-- A string behind its opening quote. -/
def readString (cs : List Char) : Reading String :=
  (readChars (cs.length + 1) [] cs).map fun (acc, rest) => (String.ofList acc.reverse, rest)

/-! ### Values -/

/-- A fixed word, of which the first letter has been seen. -/
def readWord (word : List Char) (value : Json) : List Char → Reading Json
  | cs => go word cs
where
  /-- Compares letter by letter. -/
  go : List Char → List Char → Reading Json
    | [], cs => .ok (value, cs)
    | _ :: _, [] => .error .unexpectedEnd
    | w :: word, c :: cs => if w = c then go word cs else .error (.unexpected c)

mutual

/-- A value, with blanks in front of it. `depth` is how many containers may still be opened. -/
def readValue : Nat → Nat → List Char → Reading Json
  | 0, _, _ => .error .unexpectedEnd
  | steps + 1, depth, cs =>
    match skipGap cs with
    | [] => .error .unexpectedEnd
    | 'n' :: rest => readWord ['u', 'l', 'l'] .null rest
    | 't' :: rest => readWord ['r', 'u', 'e'] (.bool true) rest
    | 'f' :: rest => readWord ['a', 'l', 's', 'e'] (.bool false) rest
    | '"' :: rest => (readString rest).map fun (s, rest) => (.string s, rest)
    | '[' :: rest =>
      match depth with
      | 0 => .error .tooDeep
      | depth + 1 =>
        match skipGap rest with
        | ']' :: rest => .ok (.array [], rest)
        | rest => (readItems steps depth rest).map fun (items, rest) => (.array items, rest)
    | '{' :: rest =>
      match depth with
      | 0 => .error .tooDeep
      | depth + 1 =>
        match skipGap rest with
        | '}' :: rest => .ok (.object [], rest)
        | rest => (readMembers steps depth rest).map fun (ms, rest) => (ofMembers ms, rest)
    | c :: rest =>
      if c = '-' ∨ c.isDigit then (readNumber (c :: rest)).map fun (n, rest) => (.number n, rest)
      else .error (.unexpected c)

/-- The items of an array up to its closing bracket; at least one. -/
def readItems : Nat → Nat → List Char → Reading (List Json)
  | 0, _, _ => .error .unexpectedEnd
  | steps + 1, depth, cs =>
    match readValue steps depth cs with
    | .error e => .error e
    | .ok (v, rest) =>
      match skipGap rest with
      | [] => .error .unexpectedEnd
      | ']' :: rest => .ok ([v], rest)
      | ',' :: rest => (readItems steps depth rest).map fun (vs, rest) => (v :: vs, rest)
      | c :: _ => .error (.unexpected c)

/-- The members of an object up to its closing brace, as they are written; at least one. -/
def readMembers : Nat → Nat → List Char → Reading (List (String × Json))
  | 0, _, _ => .error .unexpectedEnd
  | steps + 1, depth, cs =>
    match skipGap cs with
    | [] => .error .unexpectedEnd
    | '"' :: rest =>
      match readString rest with
      | .error e => .error e
      | .ok (key, rest) =>
        match skipGap rest with
        | [] => .error .unexpectedEnd
        | ':' :: rest =>
          match readValue steps depth rest with
          | .error e => .error e
          | .ok (v, rest) =>
            match skipGap rest with
            | [] => .error .unexpectedEnd
            | '}' :: rest => .ok ([(key, v)], rest)
            | ',' :: rest =>
              (readMembers steps depth rest).map fun (ms, rest) => ((key, v) :: ms, rest)
            | c :: _ => .error (.unexpected c)
        | c :: _ => .error (.unexpected c)
    | c :: _ => .error (.unexpected c)

end

/-- A result that stands for the whole text: nothing but blanks may follow it. -/
def complete {α : Type} (r : Reading α) : Except ReadError α :=
  match r with
  | .error e => .error e
  | .ok (v, rest) =>
    match skipGap rest with
    | [] => .ok v
    | c :: _ => .error (.unexpected c)

/-- Steps that suffice for every text of this length. -/
def stepsFor (cs : List Char) : Nat := 2 * cs.length + 2

/-- Reads characters as one value with at most `depth` containers inside each other. -/
def readWithin (depth : Nat) (cs : List Char) : Except ReadError Json :=
  complete (readValue (stepsFor cs) depth cs)

/-- Reads a whole text as one value. -/
def read (text : String) : Except ReadError Json :=
  readWithin maxDepth text.toList

/-- Reads bytes as one value. -/
def readBytes (bytes : ByteArray) : Except ReadError Json :=
  match Text.Utf8.decode? bytes with
  | some text => read text
  | none => .error .notUtf8

end PromptBroker.Json
