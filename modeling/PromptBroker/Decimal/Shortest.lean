/-!
# The shortest decimal of a binary number

A binary64 number is written with the fewest decimal digits that read back to
it, and among those with the digits nearest to it. The selection is exact: the
number is a natural number times a power of two, the decimals that round to it
form an interval whose ends are midpoints between neighbouring numbers, and all
comparisons are made between natural numbers.

`Binary.covers` is the specification, `Binary.shortest` the search: it walks from
coarse decimal grids to fine ones and stops at the first grid that has a point
in the interval.
-/

namespace PromptBroker.Decimal

/-- A finite non-negative number `mantissa * 2 ^ exponent`. Below a power of two the gap to the
lower neighbour is half as wide as the gap to the upper one; `narrow` marks that case. -/
structure Binary where
  mantissa : Nat
  exponent : Int
  narrow : Bool
  deriving DecidableEq, Repr

/-- A decimal number `digits * 10 ^ exponent`. -/
structure Scientific where
  digits : Nat
  exponent : Int
  deriving DecidableEq, Repr

/-- The magnitude of a finite float. -/
def Binary.ofFloat (x : Float) : Binary :=
  let bits := x.toBits
  let field := ((bits >>> 52) &&& 0x7FF).toNat
  let fraction := (bits &&& 0xFFFFFFFFFFFFF).toNat
  if field = 0 then ⟨fraction, -1074, false⟩
  else ⟨0x10000000000000 + fraction, (field : Int) - 1075, fraction == 0 && field > 1⟩

/-- The number as a natural number, when it has no fraction. -/
def Binary.toNat? (x : Binary) : Option Nat :=
  if 0 ≤ x.exponent then some (x.mantissa * Nat.pow 2 x.exponent.toNat)
  else if x.mantissa % Nat.pow 2 x.exponent.natAbs = 0 then
    some (x.mantissa / Nat.pow 2 x.exponent.natAbs)
  else none

/-- A finite float as a whole number, when it has no fraction. -/
def wholeValue? (x : Float) : Option Int :=
  if x.isFinite then
    (Binary.ofFloat x).toNat?.map fun n => if x.toBits >>> 63 = 1 then -(n : Int) else n
  else none

/-- Which of two equally near decimals is chosen. -/
inductive Tie where
  /-- The one with the even last digit. -/
  | even
  /-- The larger one. -/
  | up
  deriving DecidableEq, Repr

/-- Compares `a * 10 ^ i` with `b * 2 ^ j`, without rounding. -/
def compareScaled (a : Nat) (i : Int) (b : Nat) (j : Int) : Ordering :=
  compare (a * Nat.pow 10 i.toNat * Nat.pow 2 (-j).toNat)
    (b * Nat.pow 2 j.toNat * Nat.pow 10 (-i).toNat)

/-- The decimal rounds to the number: it lies between the two midpoints, where the midpoints
themselves count when the mantissa is even. -/
def Binary.covers (x : Binary) (d : Scientific) : Bool :=
  let low := 4 * x.mantissa - (if x.narrow then 1 else 2)
  let high := 4 * x.mantissa + 2
  let fromLow := compareScaled d.digits d.exponent low (x.exponent - 2)
  let toHigh := compareScaled d.digits d.exponent high (x.exponent - 2)
  if x.mantissa % 2 = 0 then fromLow != .lt && toHigh != .gt
  else fromLow == .gt && toHigh == .lt

/-- The number of grid steps `10 ^ e` in the number, rounded down. -/
def Binary.stepsBelow (x : Binary) (e : Int) : Nat :=
  (x.mantissa * Nat.pow 2 x.exponent.toNat * Nat.pow 10 (-e).toNat) /
    (Nat.pow 10 e.toNat * Nat.pow 2 (-x.exponent).toNat)

/-- The better of two neighbouring grid points that both round to the number. -/
def Binary.nearer (x : Binary) (tie : Tie) (d : Nat) (e : Int) : Nat :=
  match compareScaled (2 * d + 1) e (2 * x.mantissa) x.exponent with
  | .gt => d
  | .lt => d + 1
  | .eq =>
    match tie with
    | .even => if d % 2 = 0 then d else d + 1
    | .up => d + 1

/-- The point of the grid `10 ^ e` that is written for the number, if one rounds to it. -/
def Binary.onGrid (x : Binary) (tie : Tie) (e : Int) : Option Scientific :=
  let d := x.stepsBelow e
  match x.covers ⟨d, e⟩ && d != 0, x.covers ⟨d + 1, e⟩ with
  | true, true => some ⟨x.nearer tie d e, e⟩
  | true, false => some ⟨d, e⟩
  | false, true => some ⟨d + 1, e⟩
  | false, false => none

/-- An exponent whose power of ten exceeds the number, by at most a factor of a hundred or so. -/
def Binary.coarsest (x : Binary) : Int :=
  (((Nat.log2 x.mantissa : Int) + 1 + x.exponent) * 30103) / 100000 + 1

/-- Tries `tries` grids, each ten times as fine as the one before. Twenty-four grids from
`coarsest` on always hold a hit; the number itself, written out in full, stands behind them. -/
def Binary.search (x : Binary) (tie : Tie) (e : Int) : Nat → Scientific
  | 0 => ⟨x.mantissa * Nat.pow 2 x.exponent.toNat * Nat.pow 5 (-x.exponent).toNat, min x.exponent 0⟩
  | tries + 1 =>
    match x.onGrid tie e with
    | some d => d
    | none => x.search tie (e - 1) tries

/-- The shortest decimal that rounds to the number. -/
def Binary.shortest (x : Binary) (tie : Tie) : Scientific :=
  if x.mantissa = 0 then ⟨0, 0⟩ else x.search tie x.coarsest 24

end PromptBroker.Decimal
