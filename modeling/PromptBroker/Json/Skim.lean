import PromptBroker.Json.Reader

/-!
# Skimming JSON text

A record is read for the sake of some of its members. The others are *skimmed*:
their text has to follow the grammar, but it stands for nothing, so that the
limits of values do not apply. A number may be of any size, an escape may be half
of a surrogate pair, and containers may nest to any depth.

`skim` keeps the containers that are still open in a list, and `Place` says what
may stand next. A comma leads to a value or a key, never to a closing bracket.
-/

namespace PromptBroker.Json

/-! ### Numbers and strings -/

/-- Skips at least one digit. -/
def skimDigits (cs : List Char) : Except ReadError (List Char) :=
  match cs with
  | [] => .error .unexpectedEnd
  | c :: rest => if c.isDigit then .ok (rest.dropWhile Char.isDigit) else .error (.unexpected c)

/-- Skips the exponent of a number, if there is one. -/
def skimExponent (cs : List Char) : Except ReadError (List Char) :=
  let digits (cs : List Char) : Except ReadError (List Char) :=
    match cs with
    | '-' :: rest => skimDigits rest
    | '+' :: rest => skimDigits rest
    | _ => skimDigits cs
  match cs with
  | 'e' :: rest => digits rest
  | 'E' :: rest => digits rest
  | _ => .ok cs

/-- Skips what follows the integer part of a number. -/
def skimFraction (cs : List Char) : Except ReadError (List Char) :=
  match cs with
  | '.' :: rest => (skimDigits rest).bind skimExponent
  | _ => skimExponent cs

/-- Skips a number without its sign. A leading zero stands alone. -/
def skimUnsigned (cs : List Char) : Except ReadError (List Char) :=
  match cs with
  | '0' :: c :: rest => if c.isDigit then .error (.unexpected c) else skimFraction (c :: rest)
  | _ => (skimDigits cs).bind skimFraction

/-- Skips a number. -/
def skimNumber (cs : List Char) : Except ReadError (List Char) :=
  match cs with
  | '-' :: rest => skimUnsigned rest
  | _ => skimUnsigned cs

/-- Skips a string behind its opening quote. An escape by number may be half of a pair. -/
def skimString : List Char → Except ReadError (List Char)
  | [] => .error .unexpectedEnd
  | '"' :: rest => .ok rest
  | '\\' :: 'u' :: a :: b :: c :: d :: rest =>
    if (Text.hexNumber? [a, b, c, d]).isSome then skimString rest else .error (.unexpected a)
  | '\\' :: c :: rest =>
    if ['"', '\\', '/', 'b', 'f', 'n', 'r', 't'].contains c then skimString rest
    else .error (.unexpected c)
  | c :: rest =>
    if c = '\\' then .error .unexpectedEnd
    else if c.toNat < 0x20 then .error (.unexpected c)
    else skimString rest

/-! ### Values -/

/-- A kind of container. -/
inductive Container where
  | array
  | object
  deriving DecidableEq, Repr

/-- What may stand next while a value is skimmed. -/
inductive Place where
  /-- A value. -/
  | value
  /-- A key with its colon. -/
  | key
  /-- What follows a value: a comma, or the end of the innermost container. -/
  | afterValue
  deriving DecidableEq, Repr

/-- Where to go on behind a comma. -/
def Container.next : Container → Place
  | .array => .value
  | .object => .key

/-- The bracket that ends a container. -/
def Container.closing : Container → Char
  | .array => ']'
  | .object => '}'

/-- Goes on with a container that has just been opened: one that is empty ends at once. -/
def enter (c : Container) (outer : List Container) (cs : List Char) :
    Place × List Container × List Char :=
  match skipGap cs with
  | [] => (c.next, c :: outer, [])
  | x :: rest =>
    if x = c.closing then (.afterValue, outer, rest) else (c.next, c :: outer, x :: rest)

/-- Skips one token at the front of a value, a key or what follows a value. -/
def skimToken (place : Place) (outer : List Container) (cs : List Char) :
    Except ReadError (Place × List Container × List Char) :=
  let ends (r : Except ReadError (List Char)) :
      Except ReadError (Place × List Container × List Char) :=
    r.map fun rest => (.afterValue, outer, rest)
  match place, skipGap cs with
  | _, [] => .error .unexpectedEnd
  | .value, c :: rest =>
    match c with
    | 'n' => ends ((readWord ['u', 'l', 'l'] .null rest).map (·.2))
    | 't' => ends ((readWord ['r', 'u', 'e'] .null rest).map (·.2))
    | 'f' => ends ((readWord ['a', 'l', 's', 'e'] .null rest).map (·.2))
    | '"' => ends (skimString rest)
    | '[' => .ok (enter .array outer rest)
    | '{' => .ok (enter .object outer rest)
    | _ => if c = '-' ∨ c.isDigit then ends (skimNumber (c :: rest)) else .error (.unexpected c)
  | .key, c :: rest =>
    if c = '"' then
      match (skimString rest).map skipGap with
      | .error e => .error e
      | .ok [] => .error .unexpectedEnd
      | .ok (':' :: rest) => .ok (.value, outer, rest)
      | .ok (c :: _) => .error (.unexpected c)
    else .error (.unexpected c)
  | .afterValue, c :: rest =>
    match outer with
    | [] => .error (.unexpected c)
    | inner :: outer =>
      if c = ',' then .ok (inner.next, inner :: outer, rest)
      else if c = inner.closing then .ok (.afterValue, outer, rest)
      else .error (.unexpected c)

/-- Skips the rest of a value of which the containers `outer` are still open. -/
def skim : Nat → Place → List Container → List Char → Except ReadError (List Char)
  | _, .afterValue, [], cs => .ok cs
  | 0, _, _, _ => .error .unexpectedEnd
  | steps + 1, place, outer, cs =>
    match skimToken place outer cs with
    | .error e => .error e
    | .ok (place, outer, rest) => skim steps place outer rest

/-- Skips a value, with blanks in front of it. Every step takes a character, so that the length of
the text bounds the steps. -/
def skimValue (cs : List Char) : Except ReadError (List Char) :=
  skim cs.length .value [] cs

/-! ### Records -/

/-- Reads a part of a text. Nothing in it may be a fault: `faults` are the places of the text where
it has no character, each by how much of the text is left there. What is only skimmed may have
faults in its strings. -/
def readSound {α : Type} (faults : List Nat) (read : List Char → Reading α) (cs : List Char) :
    Reading α :=
  match read cs with
  | .error e => .error e
  | .ok (v, rest) =>
    if faults.any fun left => rest.length < left && left ≤ cs.length then .error .notUtf8
    else .ok (v, rest)

/-- The value of a member if its key is among `names`. Any other value is skimmed. -/
def readWanted (names : List String) (faults : List Nat) (key : String) (cs : List Char) :
    Reading (List (String × Json)) :=
  if names.contains key then
    (readSound faults (readValue (stepsFor cs) (maxDepth - 1)) cs).map fun (v, rest) =>
      ([(key, v)], rest)
  else (skimValue cs).map fun rest => ([], rest)

/-- The members of an object up to its closing brace of which the keys are among `names`, as they
are written; there is at least one member. -/
def readMembersOf (names : List String) (faults : List Nat) :
    Nat → List Char → Reading (List (String × Json))
  | 0, _ => .error .unexpectedEnd
  | steps + 1, cs =>
    match skipGap cs with
    | [] => .error .unexpectedEnd
    | '"' :: rest =>
      match readSound faults readString rest with
      | .error e => .error e
      | .ok (key, rest) =>
        match skipGap rest with
        | [] => .error .unexpectedEnd
        | ':' :: rest =>
          match readWanted names faults key rest with
          | .error e => .error e
          | .ok (member, rest) =>
            match skipGap rest with
            | [] => .error .unexpectedEnd
            | '}' :: rest => .ok (member, rest)
            | ',' :: rest =>
              (readMembersOf names faults steps rest).map fun (ms, rest) => (member ++ ms, rest)
            | c :: _ => .error (.unexpected c)
        | c :: _ => .error (.unexpected c)
    | c :: _ => .error (.unexpected c)

/-- The members of an object of which the keys are among `names`, as they are written, repeated
keys included. Any other value is read in full. -/
def readRecord (names : List String) (faults : List Nat) (cs : List Char) :
    Except ReadError (List (String × Json) ⊕ Json) :=
  match skipGap cs with
  | '{' :: rest =>
    match skipGap rest with
    | '}' :: rest => (complete (.ok ([], rest))).map .inl
    | rest => (complete (readMembersOf names faults cs.length rest)).map .inl
  | _ => (complete (readSound faults (readValue (stepsFor cs) maxDepth) cs)).map .inr

end PromptBroker.Json
