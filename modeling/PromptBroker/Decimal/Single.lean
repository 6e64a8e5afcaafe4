/-!
# Single precision

Every number of single precision is one of double precision as well. Its mantissa is
moved until the leading bit is where doubles have it, so that even the numbers with the
smallest exponent become normal doubles. Nothing is rounded.
-/

namespace PromptBroker.Decimal

open Float.Model

/-- Moves the leading bit of a mantissa to the place that it has in a normal double. -/
def align : UnpackedFloat → UnpackedFloat
  | .finite sign mantissa exponent positive =>
    let places := 52 - mantissa.log2
    .finite sign (mantissa * Nat.pow 2 places) (exponent - places)
      (Nat.mul_pos positive (Nat.two_pow_pos places))
  | x => x

/-- A number of single precision in double precision. -/
def widen (x : Float32) : Float :=
  .ofBits ⟨UnpackedFloat.pack .binary64 (align (.unpack .binary32 x.toBits.toBitVec))⟩

end PromptBroker.Decimal
