/-!
# Base64

Bytes as text with the standard alphabet of RFC 4648, section 4, and, for signed
assertions, with the alphabet that is safe in addresses and without padding.

Decoding is strict: the padding has to be there, in its canonical length, and
the bits of the last symbol that carry nothing have to be zero. An error names
the first offence. One check goes first: when a single symbol is left over, and
it is no symbol at all (a stray newline, say), that is what is reported.
-/

namespace PromptBroker.Base64

/-! ### Symbols -/

/-- Which characters stand for 62 and 63. -/
inductive Alphabet where
  /-- `+` and `/`. -/
  | standard
  /-- `-` and `_`. -/
  | urlSafe
  deriving DecidableEq, Repr

/-- The symbol of a number below 64. -/
def Alphabet.symbol (alphabet : Alphabet) (n : Nat) : Char :=
  if n < 26 then Char.ofNat (65 + n)
  else if n < 52 then Char.ofNat (71 + n)
  else if n < 62 then Char.ofNat (n - 4)
  else
    match alphabet with
    | .standard => if n = 62 then '+' else '/'
    | .urlSafe => if n = 62 then '-' else '_'

/-- The padding byte `=`. -/
def padByte : UInt8 := 61

/-- The number a byte stands for in the standard alphabet. -/
def value? (b : UInt8) : Option UInt8 :=
  if 65 ≤ b && b ≤ 90 then some (b - 65)
  else if 97 ≤ b && b ≤ 122 then some (b - 71)
  else if 48 ≤ b && b ≤ 57 then some (b + 4)
  else if b == 43 then some 62
  else if b == 47 then some 63
  else none

/-! ### Encoding -/

/-- The text of some bytes, three at a time. -/
def encode (alphabet : Alphabet) (padded : Bool) : List UInt8 → List Char
  | [] => []
  | [a] =>
    [alphabet.symbol (a.toNat / 4), alphabet.symbol (a.toNat % 4 * 16)] ++
      (if padded then ['=', '='] else [])
  | [a, b] =>
    [alphabet.symbol (a.toNat / 4), alphabet.symbol (a.toNat % 4 * 16 + b.toNat / 16),
      alphabet.symbol (b.toNat % 16 * 4)] ++ (if padded then ['='] else [])
  | a :: b :: c :: rest =>
    alphabet.symbol (a.toNat / 4) :: alphabet.symbol (a.toNat % 4 * 16 + b.toNat / 16) ::
      alphabet.symbol (b.toNat % 16 * 4 + c.toNat / 64) :: alphabet.symbol (c.toNat % 64) ::
      encode alphabet padded rest

/-- Standard text with padding. -/
def encodeStandard (bytes : List UInt8) : String :=
  String.ofList (encode .standard true bytes)

/-- Text for addresses, without padding. -/
def encodeUrl (bytes : List UInt8) : String :=
  String.ofList (encode .urlSafe false bytes)

/-! ### Decoding -/

/-- Why a text is not standard base64. -/
inductive DecodeError where
  /-- A byte outside the alphabet, or padding where none may stand. -/
  | invalidSymbol (byte : UInt8) (offset : Nat)
  /-- A single symbol is left over. -/
  | invalidLength (length : Nat)
  /-- The last symbol has bits that belong to no byte. -/
  | invalidLastSymbol (byte : UInt8) (offset : Nat)
  /-- Padding is missing. -/
  | invalidPadding
  deriving DecidableEq, Repr

/-- The wording of the error. -/
def DecodeError.message : DecodeError → String
  | .invalidSymbol byte offset => s!"Invalid symbol {byte.toNat}, offset {offset}."
  | .invalidLength length => s!"Invalid input length: {length}"
  | .invalidLastSymbol byte offset => s!"Invalid last symbol {byte.toNat}, offset {offset}."
  | .invalidPadding => "Invalid padding"

/-- The three bytes of four numbers below 64. -/
def join (w x y z : UInt8) : UInt8 × UInt8 × UInt8 :=
  (w <<< 2 ||| x >>> 4, x <<< 4 ||| y >>> 2, y <<< 6 ||| z)

/-- The symbols in front of the padding, with what has been seen of the padding. -/
structure Tail where
  /-- The symbols with their numbers, the latest first. -/
  symbols : List (UInt8 × UInt8)
  /-- How many padding bytes there were, and where the first one stands. -/
  pads : Nat
  firstPad : Nat
  deriving Repr

/-- Takes in one byte of the last group. Padding needs two symbols in front of it and nothing but
padding behind it. -/
def Tail.push (t : Tail) (offset index : Nat) (byte : UInt8) : Except DecodeError Tail :=
  if byte = padByte then
    if index < 2 then .error (.invalidSymbol byte (offset + index))
    else .ok { t with pads := t.pads + 1, firstPad := if t.pads = 0 then index else t.firstPad }
  else if t.pads ≠ 0 then .error (.invalidSymbol padByte (offset + t.firstPad))
  else
    match value? byte with
    | some v => .ok { t with symbols := (byte, v) :: t.symbols }
    | none => .error (.invalidSymbol byte (offset + index))

/-- Reads the last group, of at most four bytes. -/
def Tail.read (offset : Nat) : Nat → Tail → List UInt8 → Except DecodeError Tail
  | _, t, [] => .ok t
  | index, t, byte :: rest =>
    match t.push offset index byte with
    | .ok t => Tail.read offset (index + 1) t rest
    | .error e => .error e

/-- The bytes of the last group. -/
def Tail.bytes (offset : Nat) (t : Tail) : Except DecodeError (List UInt8) :=
  let canonical := (t.symbols.length + t.pads) % 4 = 0
  match t.symbols with
  | [] => .error (.invalidLength offset)
  | [_] => .error (.invalidLength (offset + 1))
  | [(b, x), (_, w)] =>
    if ¬ canonical then .error .invalidPadding
    else if x &&& 0x0F ≠ 0 then .error (.invalidLastSymbol b (offset + 1))
    else .ok [(join w x 0 0).1]
  | [(b, y), (_, x), (_, w)] =>
    if ¬ canonical then .error .invalidPadding
    else if y &&& 0x03 ≠ 0 then .error (.invalidLastSymbol b (offset + 2))
    else .ok [(join w x y 0).1, (join w x y 0).2.1]
  | (_, z) :: (_, y) :: (_, x) :: (_, w) :: _ =>
    if ¬ canonical then .error .invalidPadding
    else .ok [(join w x y z).1, (join w x y z).2.1, (join w x y z).2.2]

/-- The first of four bytes that is no symbol. -/
def firstInvalid (offset : Nat) : List UInt8 → DecodeError
  | [] => .invalidPadding
  | b :: rest =>
    match value? b with
    | some _ => firstInvalid (offset + 1) rest
    | none => .invalidSymbol b offset

/-- Decodes from a position on: whole groups as long as more follows, then the last group. -/
def decodeFrom (input : ByteArray) (i : Nat) (out : ByteArray) : Except DecodeError ByteArray :=
  if h : i + 4 < input.size then
    match value? input[i], value? input[i + 1], value? input[i + 2], value? input[i + 3] with
    | some w, some x, some y, some z =>
      let (a, b, c) := join w x y z
      decodeFrom input (i + 4) (((out.push a).push b).push c)
    | _, _, _, _ =>
      .error (firstInvalid i [input[i], input[i + 1], input[i + 2], input[i + 3]])
  else
    match Tail.read i 0 ⟨[], 0, 0⟩ (input.extract i input.size).toList with
    | .error e => .error e
    | .ok t => (t.bytes i).map fun bytes => bytes.foldl ByteArray.push out
termination_by input.size - i

/-- The byte that is reported before all others: a last one, left over alone, that is neither a
symbol nor padding. -/
def strayLast (input : ByteArray) : Option DecodeError :=
  if h : input.size % 4 = 1 then
    let last := input.get (input.size - 1) (by omega)
    if last ≠ padByte ∧ (value? last).isNone then some (.invalidSymbol last (input.size - 1))
    else none
  else none

/-- Decodes standard base64. -/
def decodeBytes (input : ByteArray) : Except DecodeError ByteArray :=
  if input.size = 0 then .ok .empty
  else
    match strayLast input with
    | some e => .error e
    | none => decodeFrom input 0 .empty

/-- Decodes standard base64 text. -/
def decode (text : String) : Except DecodeError ByteArray :=
  decodeBytes text.toUTF8

end PromptBroker.Base64
