import PromptBroker.Digest.Block

/-!
# Tagged values

Keys are stored as nested values, each with a tag, a length and a body. Before a
key is looked for, the whole file is read as such values, and each kind that has
rules of its own is checked: dates have to be dates, texts have to be text. What
is kept are the values that lead to a key.
-/

namespace PromptBroker.Signing

/-- A value. -/
inductive Block where
  | sequence (items : List Block)
  /-- The name of something, as a path of numbers. -/
  | identifier (path : List Nat)
  | bits (bytes : List UInt8)
  | octets (bytes : List UInt8)
  /-- A value that leads to no key. -/
  | other

namespace Block

/-! ### Tags and lengths -/

/-- A number in digits of seven bits; the top bit of a byte says that more follow. -/
def base128? (n : Nat) : List UInt8 → Option (Nat × List UInt8)
  | [] => none
  | b :: rest =>
    let n := 128 * n + b.toNat % 128
    if b < 0x80 then some (n, rest) else base128? n rest

/-- Numbers in digits of seven bits, up to the end. Each takes at least one byte, so that the number
of bytes bounds the steps. -/
def base128All? : Nat → List UInt8 → Option (List Nat)
  | _, [] => some []
  | 0, _ :: _ => none
  | steps + 1, bytes => do
    let (n, rest) ← base128? 0 bytes
    some (n :: (← base128All? steps rest))

/-- What a tag says. -/
structure Tag where
  /-- The class; the kinds that all formats share are in class zero. -/
  family : Nat
  number : Nat

/-- Reads a tag; a number from 31 on has bytes of its own. -/
def tag? : List UInt8 → Option (Tag × List UInt8)
  | [] => none
  | b :: rest =>
    let family := b.toNat / 64
    if b.toNat % 32 = 31 then (base128? 0 rest).map fun (n, rest) => (⟨family, n⟩, rest)
    else some (⟨family, b.toNat % 32⟩, rest)

/-- Reads a length: one byte, or a count of up to eight bytes and then the bytes. -/
def length? : List UInt8 → Option (Nat × List UInt8)
  | [] => none
  | b :: rest =>
    if b < 0x80 then some (b.toNat, rest)
    else
      let count := b.toNat - 0x80
      if 8 < count || rest.length < count then none
      else some (Digest.ofBigEndian (rest.take count), rest.drop count)

/-! ### Dates -/

/-- How many days a month has. -/
def daysIn (year month : Nat) : Nat :=
  if month = 2 then
    if year % 4 = 0 && (year % 100 ≠ 0 || year % 400 = 0) then 29 else 28
  else if month ∈ [4, 6, 9, 11] then 30
  else 31

/-- The number of decimal digits. -/
def decimal? (cs : List Char) : Option Nat :=
  cs.foldlM (fun n c => if c.isDigit then some (10 * n + (c.toNat - 48)) else none) 0

/-- Whether fourteen digits are a date and a time of day. -/
def isMoment (cs : List Char) : Bool :=
  let number (first count : Nat) : Option Nat := decimal? ((cs.drop first).take count)
  match number 0 4, number 4 2, number 6 2, number 8 2, number 10 2, number 12 2 with
  | some year, some month, some day, some hour, some minute, some second =>
    cs.length = 14 && 1 ≤ month && month ≤ 12 && 1 ≤ day && day ≤ daysIn year month &&
      hour ≤ 23 && minute ≤ 59 && second ≤ 59
  | _, _, _, _, _, _ => false

/-- The characters of bytes that are ASCII. -/
def asciiChars? (bytes : List UInt8) : Option (List Char) :=
  if bytes.all (· < 0x80) then some (bytes.map fun b => Char.ofNat b.toNat) else none

/-- Whether bytes are a date whose year has two digits, of the years from 1950 to 2049. -/
def isShortDate (bytes : List UInt8) : Bool :=
  match asciiChars? bytes with
  | none => false
  | some cs =>
    let century := if ['5', '6', '7', '8', '9'].contains (cs.headD '0') then "19" else "20"
    cs.length = 13 && cs.drop 12 = ['Z'] && isMoment (century.toList ++ cs.take 12)

/-- A long date with its fraction of a second, which may be missing, filled up with zeros. -/
def filledDate (cs : List Char) : List Char :=
  let cs := if cs.contains '.' then cs else cs.take 14 ++ '.' :: '0' :: cs.drop 14
  cs.dropLast ++ List.replicate (25 - cs.length) '0' ++ cs.drop (cs.length - 1)

/-- Whether bytes are a date whose year has four digits, with a fraction of a second. -/
def isLongDate (bytes : List UInt8) : Bool :=
  match asciiChars? bytes with
  | none => false
  | some cs =>
    if cs.length < 15 then false
    else
      let cs := filledDate cs
      let cs := if ['+', '-'].contains (cs.headD '0') then cs.drop 1 else cs
      match cs.drop 14 with
      | '.' :: digit :: tail =>
        isMoment (cs.take 14) && digit.isDigit && tail.dropWhile Char.isDigit = ['Z']
      | _ => false

/-! ### Bodies -/

/-- Whether bytes are text in UTF-8. -/
def isText (bytes : List UInt8) : Bool := ByteArray.validateUTF8 ⟨bytes.toArray⟩

/-- Whether bytes are letters, digits, and the signs of plain print. -/
def isPrint (bytes : List UInt8) : Bool :=
  bytes.all fun b =>
    let c := Char.ofNat b.toNat
    c.isAlphanum || " '()+,-./:=?".toList.contains c

/-- A bit string: a count of unused bits, then the bytes. An empty body is an empty string. -/
def bits? (body : List UInt8) : Option Block :=
  match body with
  | [] => some (bits [])
  | unused :: bytes => if 8 * bytes.length < unused.toNat then none else some (bits bytes)

/-- A name: its first byte stands for two numbers. -/
def identifier? (body : List UInt8) : Option Block :=
  match body with
  | [] => none
  | b :: rest =>
    let first := min (b.toNat / 40) 2
    (base128All? rest.length rest).map fun path =>
      identifier (first :: (b.toNat - 40 * first) :: path)

/-- A value without values inside, from the number of its tag. -/
def plain? (number : Nat) (body : List UInt8) : Option Block :=
  let checked (holds : Bool) : Option Block := if holds then some other else none
  match number with
  | 1 => checked (body.length = 1)
  | 3 => bits? body
  | 4 => some (octets body)
  | 6 => identifier? body
  | 12 | 20 | 28 | 30 => checked (isText body)
  | 19 => checked (isPrint body)
  | 23 => checked (isShortDate body)
  | 24 => checked (isLongDate body)
  | _ => some other

/-! ### Reading -/

/-- Reads the values that follow each other; at least one has to be there. Each level and each value
takes at least one byte, so that the number of bytes bounds the steps. -/
def readAll : Nat → List UInt8 → Option (List Block)
  | 0, _ => none
  | steps + 1, bytes => do
    let (tag, rest) ← tag? bytes
    let (length, rest) ← length? rest
    if rest.length < length then none
    else
      let body := rest.take length
      let value ←
        if tag.family ≠ 0 then some other
        else if tag.number = 16 then (readAll steps body).map sequence
        else if tag.number = 17 then (readAll steps body).map fun _ => other
        else plain? tag.number body
      match rest.drop length with
      | [] => some [value]
      | rest => (readAll steps rest).map (value :: ·)

/-- Reads the values that follow each other. -/
def read? (bytes : List UInt8) : Option (List Block) :=
  readAll (bytes.length + 1) bytes

/-! ### Searching -/

mutual

/-- The first value of a kind, inside sequences too. -/
def first? {α : Type} (pick : Block → Option α) : List Block → Option α
  | [] => none
  | v :: rest => (firstIn? pick v).or (first? pick rest)

/-- The first value of a kind within one value. -/
def firstIn? {α : Type} (pick : Block → Option α) : Block → Option α
  | sequence items => first? pick items
  | v => pick v

end

/-- The bytes of a bit or octet string. -/
def payload? : Block → Option (List UInt8)
  | bits bytes => some bytes
  | octets bytes => some bytes
  | _ => none

end Block

end PromptBroker.Signing
