import PromptBroker.Decimal.Shortest

/-!
# How a number is laid out

The digits of a number are chosen in `Decimal.Shortest`; here they are put on
paper. A `Style` holds every decision a format makes: which exponents are
written positionally, whether a whole number keeps a fraction, and which of two
equally near decimals is taken. In scientific notation the exponent always has a
sign and no leading zeros.
-/

namespace PromptBroker.Decimal

/-- The layout decisions of a number format. -/
structure Style where
  /-- Decimal exponents of the leading digit that are written positionally. -/
  positional : Int → Bool
  /-- A whole number written positionally keeps `.0`. -/
  keepsFraction : Bool
  tie : Tie

/-- Plain notation: always positional, and whole numbers without a fraction. -/
def Style.plain : Style := ⟨fun _ => true, false, .up⟩

/-- The digits of a natural number in base ten. -/
def digitChars (n : Nat) : List Char :=
  Nat.toDigits 10 n

/-- The text of a whole number. -/
def intChars (n : Int) : List Char :=
  if n < 0 then '-' :: digitChars n.natAbs else digitChars n.natAbs

/-- Digits with the point after the first `whole` of them; a point left of the digits, or right
of them, is reached by zeros. -/
def placePoint (ds : List Char) (whole : Int) (keepsFraction : Bool) : List Char :=
  if whole ≤ 0 then '0' :: '.' :: (List.replicate (-whole).toNat '0' ++ ds)
  else
    let n := whole.toNat
    if ds.length ≤ n then
      ds ++ List.replicate (n - ds.length) '0' ++ (if keepsFraction then ['.', '0'] else [])
    else ds.take n ++ '.' :: ds.drop n

/-- One digit, the others behind a point, and the exponent with its sign. -/
def scientificChars (ds : List Char) (exponent : Int) : List Char :=
  let body :=
    match ds with
    | d :: e :: rest => d :: '.' :: e :: rest
    | short => short
  body ++ 'e' :: (if exponent < 0 then '-' else '+') :: digitChars exponent.natAbs

/-- The text of a non-negative decimal number. -/
def Style.layout (style : Style) (d : Scientific) : List Char :=
  if d.digits = 0 then '0' :: (if style.keepsFraction then ['.', '0'] else [])
  else
    let ds := digitChars d.digits
    let whole := (ds.length : Int) + d.exponent
    if style.positional (whole - 1) then placePoint ds whole style.keepsFraction
    else scientificChars ds (whole - 1)

/-- The text of a finite float, with a minus sign for negative zero too. -/
def Style.finite (style : Style) (x : Float) : List Char :=
  let text := style.layout ((Binary.ofFloat x).shortest style.tie)
  if x.toBits >>> 63 = 1 then '-' :: text else text

/-- The text of any float in plain notation, as it stands in messages and form fields. -/
def plain (x : Float) : String :=
  if x.isNaN then "NaN"
  else if x.isInf then (if x < 0 then "-inf" else "inf")
  else String.ofList (Style.plain.finite x)

end PromptBroker.Decimal
