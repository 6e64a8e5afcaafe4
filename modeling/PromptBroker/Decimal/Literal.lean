/-!
# Numbers read from text

Two small grammars for numbers that callers and providers send as text.

A *whole literal* is a run of digits after an optional sign. A *float literal*
is a run of digits with at most one point in, before or behind it and an
optional exponent, or one of the words `inf`, `infinity` and `nan` in any case;
a sign may stand in front of both. The digits of a float literal are read as an
exact decimal, which is rounded once, to the width that is asked for.
-/

namespace PromptBroker.Decimal

/-- An optional sign, and what follows it. The flag says whether the sign is a minus. -/
def splitSign : List Char → Bool × List Char
  | '-' :: rest => (true, rest)
  | '+' :: rest => (false, rest)
  | cs => (false, cs)

/-- The value of a run of decimal digits, continuing from `start`. -/
def digitsValue (start : Nat) (ds : List Char) : Nat :=
  ds.foldl (fun n c => 10 * n + (c.toNat - 48)) start

/-- The number written by a non-empty run of digits. -/
def readNat? (cs : List Char) : Option Nat :=
  if cs ≠ [] ∧ cs.all Char.isDigit then some (digitsValue 0 cs) else none

/-- The number written by a whole literal. -/
def readInt? (cs : List Char) : Option Int :=
  match splitSign cs with
  | (negative, rest) => (readNat? rest).map fun n => if negative then -(n : Int) else n

/-- Whole numbers that fit a signed 64-bit word. -/
def fitsInt64 (n : Int) : Bool := -0x8000000000000000 ≤ n && n ≤ 0x7FFFFFFFFFFFFFFF

/-- Whole numbers that fit an unsigned 64-bit word. -/
def fitsUInt64 (n : Int) : Bool := 0 ≤ n && n ≤ 0xFFFFFFFFFFFFFFFF

/-- A whole literal within the signed 64-bit range. -/
def readInt64? (cs : List Char) : Option Int :=
  (readInt? cs).filter fitsInt64

/-- A whole literal without a minus sign, within the unsigned 64-bit range. -/
def readUInt64? (cs : List Char) : Option Nat :=
  match splitSign cs with
  | (true, _) => none
  | (false, rest) => (readNat? rest).filter fun n => fitsUInt64 n

/-- What a float literal denotes, apart from its sign. -/
inductive Magnitude where
  | nan
  | infinite
  /-- The decimal `digits * 10 ^ exponent`. -/
  | finite (digits : Nat) (exponent : Int)
  deriving DecidableEq, Repr

/-- Why a text is no float literal. -/
inductive FloatSyntaxError where
  | empty
  | malformed
  deriving DecidableEq, Repr

/-- The wording of the error. -/
def FloatSyntaxError.message : FloatSyntaxError → String
  | .empty => "cannot parse float from empty string"
  | .malformed => "invalid float literal"

/-- The exponent at the end of a float literal; nothing stands for zero. -/
def readExponent? : List Char → Option Int
  | [] => some 0
  | c :: rest =>
    if c = 'e' ∨ c = 'E' then
      match splitSign rest with
      | (negative, ds) => (readNat? ds).map fun n => if negative then -(n : Int) else n
    else none

/-- The decimal of a float literal without its sign. At least one digit is needed, on either
side of the point. -/
def readDecimal? (cs : List Char) : Option Magnitude :=
  let whole := cs.takeWhile Char.isDigit
  match cs.dropWhile Char.isDigit with
  | '.' :: rest =>
    let fraction := rest.takeWhile Char.isDigit
    if whole = [] ∧ fraction = [] then none
    else (readExponent? (rest.dropWhile Char.isDigit)).map fun e =>
      .finite (digitsValue 0 (whole ++ fraction)) (e - fraction.length)
  | rest =>
    if whole = [] then none
    else (readExponent? rest).map fun e => .finite (digitsValue 0 whole) e

/-- The magnitude of a float literal without its sign. -/
def readMagnitude? (cs : List Char) : Option Magnitude :=
  match String.ofList (cs.map Char.toLower) with
  | "nan" => some .nan
  | "inf" => some .infinite
  | "infinity" => some .infinite
  | _ => readDecimal? cs

/-- Reads a float literal: whether it is negative, and its magnitude. -/
def readFloat (cs : List Char) : Except FloatSyntaxError (Bool × Magnitude) :=
  if cs = [] then .error .empty
  else
    match splitSign cs with
    | (negative, rest) =>
      match readMagnitude? rest with
      | some m => .ok (negative, m)
      | none => .error .malformed

/-- Where the magnitude of a decimal is far outside every float, so that it need not be
computed: `some true` far above, `some false` far below. -/
def farOutside (digits : Nat) (exponent : Int) : Option Bool :=
  let top := (digitsLength digits : Int) + exponent
  if top > 400 then some true else if top < -400 then some false else none
where
  /-- The number of decimal digits. -/
  digitsLength (n : Nat) : Nat := (Nat.toDigits 10 n).length

/-- The decimal `digits * 10 ^ exponent`, rounded to a double; beyond its range, infinity. -/
def toFloat (digits : Nat) (exponent : Int) : Float :=
  if digits = 0 then 0
  else
    match farOutside digits exponent with
    | some true => 1 / 0
    | some false => 0
    | none => Float.ofScientific digits (exponent < 0) exponent.natAbs

/-- The decimal `digits * 10 ^ exponent`, rounded to single precision in one step. -/
def toFloat32 (digits : Nat) (exponent : Int) : Float32 :=
  if digits = 0 then 0
  else
    match farOutside digits exponent with
    | some true => 1 / 0
    | some false => 0
    | none => Float32.ofScientific digits (exponent < 0) exponent.natAbs

/-- The double a float literal denotes. -/
def Magnitude.toFloat (negative : Bool) (m : Magnitude) : Float :=
  let x : Float :=
    match m with
    | .nan => 0 / 0
    | .infinite => 1 / 0
    | .finite d e => Decimal.toFloat d e
  if negative then -x else x

/-- The single-precision number a float literal denotes. -/
def Magnitude.toFloat32 (negative : Bool) (m : Magnitude) : Float32 :=
  let x : Float32 :=
    match m with
    | .nan => 0 / 0
    | .infinite => 1 / 0
    | .finite d e => Decimal.toFloat32 d e
  if negative then -x else x

/-- Reads a float literal as a double. -/
def readFloat64 (cs : List Char) : Except FloatSyntaxError Float :=
  (readFloat cs).map fun (negative, m) => m.toFloat negative

/-- Reads a float literal as a single-precision number. -/
def readFloat32 (cs : List Char) : Except FloatSyntaxError Float32 :=
  (readFloat cs).map fun (negative, m) => m.toFloat32 negative

end PromptBroker.Decimal
