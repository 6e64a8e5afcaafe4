import PromptBroker.Text.Utf8

/-!
# Reading bytes as UTF-16

Two bytes make a unit, in one order or the other. A unit is a character by itself
unless it is a surrogate: a high one makes a character together with a low one
right behind it. What has no partner is a bad part, and so is a byte that is left
over at the end; each becomes one U+FFFD.
-/

namespace PromptBroker.Text.Utf16

/-- Which byte of a unit comes first. -/
inductive Order where
  | bigEndian
  | littleEndian
  deriving DecidableEq, Repr

/-- The unit that two bytes make. -/
def Order.unit (order : Order) (first second : UInt8) : Nat :=
  match order with
  | .bigEndian => first.toNat * 256 + second.toNat
  | .littleEndian => second.toNat * 256 + first.toNat

/-- The first half of a surrogate pair. -/
def isHigh (unit : Nat) : Bool := 0xD800 ≤ unit && unit < 0xDC00

/-- The second half of a surrogate pair. -/
def isLow (unit : Nat) : Bool := 0xDC00 ≤ unit && unit < 0xE000

/-- The character of a surrogate pair. -/
def paired (high low : Nat) : Char :=
  Char.ofNat (0x10000 + (high - 0xD800) * 0x400 + (low - 0xDC00))

/-- The characters of the input, with `none` for each bad part. `high` is a surrogate that waits for
the second half. -/
def scan (order : Order) : (high : Option Nat) → List UInt8 → List (Option Char)
  | none, [] => []
  | some _, [] => [none]
  -- A byte that is left over behind a surrogate belongs to the same bad part.
  | _, [_] => [none]
  | high, a :: b :: rest =>
    let unit := order.unit a b
    if isLow unit then high.map (paired · unit) :: scan order none rest
    else
      let unpaired := high.toList.map fun _ => none
      if isHigh unit then unpaired ++ scan order (some unit) rest
      else unpaired ++ some (Char.ofNat unit) :: scan order none rest

/-- Every bad part becomes one replacement character. -/
def decodeLossy (order : Order) (bytes : ByteArray) : String :=
  String.ofList (Utf8.replaceFaults (scan order none bytes.toList))

end PromptBroker.Text.Utf16
