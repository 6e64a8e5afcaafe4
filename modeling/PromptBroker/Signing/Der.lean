import PromptBroker.Digest.Block
import PromptBroker.Text.Hex

/-!
# Private keys in distinguished encoding

A private key is a sequence of numbers in the distinguished encoding rules (DER),
where every value has one written form only. The reader says what is wrong with a
key and, for some faults, where: a place inside the sequence counts from its first
byte, and the place that a fault brings along is added to the place that the
reader has come to.
-/

namespace PromptBroker.Signing

namespace Der

/-! ### Tags -/

/-- A tag of one byte. -/
structure Tag where
  byte : UInt8
  deriving DecidableEq, Repr

/-- The tag of a number. -/
def Tag.integer : Tag := ⟨0x02⟩

/-- The tag of a sequence. -/
def Tag.sequence : Tag := ⟨0x30⟩

/-- The names of the kinds that all formats share. -/
def Tag.names : List (UInt8 × String) :=
  [(0x01, "BOOLEAN"), (0x02, "INTEGER"), (0x03, "BIT STRING"), (0x04, "OCTET STRING"),
    (0x05, "NULL"), (0x06, "OBJECT IDENTIFIER"), (0x09, "REAL"), (0x0A, "ENUMERATED"),
    (0x0C, "UTF8String"), (0x12, "NumericString"), (0x13, "PrintableString"),
    (0x14, "TeletexString"), (0x15, "VideotexString"), (0x16, "IA5String"), (0x17, "UTCTime"),
    (0x18, "GeneralizedTime"), (0x1A, "VisibleString"), (0x1E, "BMPString"), (0x30, "SEQUENCE"),
    (0x31, "SET")]

/-- The name of the class of a tag outside the shared ones. -/
def Tag.familyName (t : Tag) : String :=
  if t.byte < 0x80 then "APPLICATION" else if t.byte < 0xC0 then "CONTEXT-SPECIFIC" else "PRIVATE"

/-- The name of a tag: that of its kind, or class, number, and whether values may be inside. -/
def Tag.name (t : Tag) : String :=
  match Tag.names.lookup t.byte with
  | some name => name
  | none =>
    let form := if t.byte &&& 0x20 = 0 then "primitive" else "constructed"
    s!"{t.familyName} [{(t.byte &&& 0x1F).toNat}] ({form})"

/-! ### Faults -/

/-- What is wrong with a key. -/
inductive Cause where
  /-- It ends too early. -/
  | incomplete (expected actual : Nat)
  /-- A length that is not written in the shortest way or does not fit the value. -/
  | length (tag : Tag)
  /-- A length with its end left open. -/
  | indefiniteLength
  /-- A length too large to be handled. -/
  | overflow
  /-- A value that is not written in the one way allowed. -/
  | notCanonical (tag : Tag)
  /-- A value out of range. -/
  | badValue (tag : Tag)
  /-- A value of another kind than expected. -/
  | unexpectedTag (expected actual : Tag)
  /-- A tag of no known kind. -/
  | unknownTag (byte : UInt8)
  /-- A tag whose number has bytes of its own. -/
  | longTag
  /-- Something follows the end. -/
  | trailing (decoded remaining : Nat)
  deriving DecidableEq, Repr

/-- The wording of a cause. -/
def Cause.message : Cause → String
  | .incomplete expected actual =>
    s!"ASN.1 DER message is incomplete: expected {expected}, actual {actual}"
  | .length tag => s!"incorrect length for {tag.name}"
  | .indefiniteLength => "indefinite length disallowed"
  | .overflow => "integer overflow"
  | .notCanonical tag => s!"ASN.1 {tag.name} not canonically encoded as DER"
  | .badValue tag => s!"malformed ASN.1 DER value for {tag.name}"
  | .unexpectedTag expected actual =>
    s!"unexpected ASN.1 DER tag: expected {expected.name}, got {actual.name}"
  | .unknownTag byte =>
    "unknown/unsupported ASN.1 DER tag: 0x" ++ String.ofList (Text.hexDigits 2 byte.toNat)
  | .longTag => "invalid tag number"
  | .trailing decoded remaining =>
    s!"trailing data at end of DER message: decoded {decoded} bytes, {remaining} bytes remaining"

/-- A fault of a key. -/
structure Fault where
  cause : Cause
  /-- Where it is, if that is said. -/
  place : Option Nat
  /-- How many bytes had been read. -/
  reached : Nat
  deriving DecidableEq, Repr

/-- The wording of a fault. -/
def Fault.message (f : Fault) : String :=
  match f.place with
  | some place => s!"{f.cause.message} at DER byte {place}"
  | none => f.cause.message

/-! ### Reading bytes -/

/-- What is left to be read, and how many bytes have been. -/
structure Cursor where
  rest : List UInt8
  reached : Nat

/-- A part of the key, from its first byte up to the byte behind its last one. -/
structure Extent where
  first : Nat
  stop : Nat

/-- Reading within a part. -/
abbrev Reading (α : Type) := StateT Cursor (Except Fault) α

/-- Fails without a place. -/
def fail {α : Type} (cause : Cause) : Reading α := fun c => .error ⟨cause, none, c.reached⟩

/-- Fails at a place. -/
def failAt {α : Type} (cause : Cause) (place : Nat) : Reading α :=
  fun c => .error ⟨cause, some place, c.reached⟩

/-- How many bytes have been read. -/
def reached : Reading Nat := fun c => .ok (c.reached, c)

/-- No length may be larger. -/
def maxLength : Nat := 0xFFFFFFF

/-- Makes sure that a part has `n` more bytes. -/
def need (e : Extent) (n : Nat) : Reading Unit := do
  let here ← reached
  if here + n ≤ e.stop then pure ()
  else if maxLength < here + n then fail .overflow
  else failAt (.incomplete (here + n) e.stop) here

/-- The next `n` bytes of a part. -/
def take (e : Extent) (n : Nat) : Reading (List UInt8) := do
  need e n
  fun c => .ok (c.rest.take n, ⟨c.rest.drop n, c.reached + n⟩)

/-- The next byte of a part. -/
def byte (e : Extent) : Reading UInt8 := do return (← take e 1).headD 0

/-- Reads a field of a part that begins at `first`: a fault in it is located from there. -/
def field {α : Type} (e : Extent) (read : Reading α) : Reading α := fun c =>
  match read c with
  | .ok r => .ok r
  | .error f => .error { f with place := some (f.reached - e.first + f.place.getD 0) }

/-! ### Tags and lengths -/

/-- The tag that a byte stands for. -/
def tagOf (b : UInt8) : Reading Tag :=
  if b &&& 0x1F = 0x1F then fail .longTag
  else if 0x40 ≤ b || (Tag.names.lookup b).isSome then pure ⟨b⟩
  else fail (.unknownTag b)

/-- Reads the length of a value with a tag, in the shortest way: one byte, or a count of up to four
bytes and then the bytes. -/
def length (e : Extent) (tag : Tag) : Reading Nat := do
  let b ← byte e
  if b < 0x80 then return b.toNat
  else if b = 0x80 then fail .indefiniteLength
  else if 0x84 < b then fail (.length tag)
  else
    let count := b.toNat - 0x80
    let n ← digits count 0
    if maxLength < n then fail .overflow
    else if n < (if count = 1 then 0x80 else Nat.pow 256 (count - 1)) then fail (.length tag)
    else return n
where
  /-- The number of the next bytes. -/
  digits : Nat → Nat → Reading Nat
    | 0, n => pure n
    | count + 1, n => do digits count (256 * n + (← byte e).toNat)

/-- Reads tag and length of a value of a kind. -/
def header (e : Extent) (expected : Tag) : Reading Nat := do
  let tag ← tagOf (← byte e)
  let n ← length e tag
  if tag = expected then return n else fail (.unexpectedTag expected tag)

/-- Reads a value with values inside; they have to fill it. -/
def nested {α : Type} (e : Extent) (n : Nat) (read : Extent → Reading α) : Reading α := do
  need e n
  let first ← reached
  let inner : Extent := ⟨first, first + n⟩
  let a ← read inner
  let here ← reached
  if here < inner.stop then
    failAt (.trailing (here - first) (inner.stop - here)) (here - first)
  else return a

/-! ### Numbers -/

/-- A number that is not negative, from its bytes. -/
def natural (bytes : List UInt8) : Reading Nat :=
  match bytes with
  | [] => fail (.notCanonical .integer)
  | [b] => if b < 0x80 then pure b.toNat else fail (.badValue .integer)
  | a :: b :: _ =>
    if a = 0 && b < 0x80 then fail (.notCanonical .integer)
    else if 0x80 ≤ a then fail (.badValue .integer)
    else pure (Digest.ofBigEndian bytes)

/-- Reads a number that is not negative. -/
def integer (e : Extent) : Reading Nat := do
  let n ← header e .integer
  natural (← take e n)

/-- Reads the version of a key: whether there are more than two primes. -/
def version (e : Extent) : Reading Bool := do
  let n ← header e .integer
  if 2 < n then fail (.notCanonical .integer)
  else
    let value ← natural (← take e n)
    if 0xFF < value then fail (.length .integer)
    else if value = 0 then return false
    else if value = 1 then return true
    else fail (.badValue .integer)

end Der

/-! ### Keys -/

/-- The numbers of a private key. -/
structure KeyNumbers where
  modulus : Nat
  publicExponent : Nat
  privateExponent : Nat
  firstPrime : Nat
  secondPrime : Nat
  /-- The modulus has more prime factors. -/
  hasMorePrimes : Bool
  deriving DecidableEq, Repr

namespace KeyNumbers

open Der

/-- Reads a prime factor with its two numbers. -/
def otherPrime (e : Extent) : Reading Unit := do
  let n ← header e .sequence
  nested e n fun inner => do
    let _ ← field inner (integer inner)
    let _ ← field inner (integer inner)
    let _ ← field inner (integer inner)

/-- Reads prime factors up to the end of a part. Each takes at least two bytes, so that the length
of the part bounds the steps. -/
def otherPrimes (e : Extent) : Nat → Reading Unit
  | 0 => pure ()
  | steps + 1 => do
    if (← reached) < e.stop then
      otherPrime e
      otherPrimes e steps

/-- Reads further prime factors, if a sequence follows. -/
def morePrimes (e : Extent) : Reading Bool := do
  if (← reached) = e.stop then return false
  else
    let next := (← get).rest.headD 0
    if (← tagOf next) = .sequence then
      let n ← header e .sequence
      nested e n fun inner => otherPrimes inner n
      return true
    else return false

/-- Reads the fields of a key: version, modulus, public and private exponent, two primes, three
numbers that only speed things up, and further primes if the version says so. -/
def fields (e : Extent) : Reading KeyNumbers := do
  let several ← version e
  let number := field e (integer e)
  let n ← number
  let public_ ← number
  let private_ ← number
  let p ← number
  let q ← number
  let _ ← number
  let _ ← number
  let _ ← number
  let more ← field e (morePrimes e)
  if several ≠ more then failAt (.badValue .integer) (← reached)
  else return ⟨n, public_, private_, p, q, more⟩

/-- Reads a whole key. -/
def read (bytes : List UInt8) : Except Fault KeyNumbers :=
  let whole : Extent := ⟨0, bytes.length⟩
  let reading : Reading KeyNumbers := do
    let n ← header whole .sequence
    let key ← nested whole n fields
    let here ← reached
    if here < whole.stop then failAt (.trailing here (whole.stop - here)) here
    else return key
  (reading ⟨bytes, 0⟩).map (·.1)

end KeyNumbers

end PromptBroker.Signing
