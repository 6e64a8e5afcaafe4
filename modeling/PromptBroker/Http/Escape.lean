import PromptBroker.Text.Hex

/-!
# Percent-encoding

A character that may not stand in a part of an address is written as the bytes of
its UTF-8 form, each as a percent sign and two hexadecimal digits.
-/

namespace PromptBroker.Http

namespace Escape

/-- Controls and everything outside ASCII. -/
def controlSet (c : Char) : Bool := c.toNat ≤ 0x1F || 0x7E < c.toNat

/-- What is encoded in a fragment. -/
def fragmentSet (c : Char) : Bool := controlSet c || [' ', '"', '<', '>', '\x60'].contains c

/-- What is encoded in a query. -/
def querySet (c : Char) : Bool := controlSet c || [' ', '"', '#', '<', '>'].contains c

/-- What is encoded in a query of a web address. -/
def webQuerySet (c : Char) : Bool := querySet c || c == '\x27'

/-- What is encoded in a path. -/
def pathSet (c : Char) : Bool := fragmentSet c || ['#', '?', '{', '}'].contains c

/-- What is encoded in a user name or password. -/
def userSet (c : Char) : Bool :=
  pathSet c || ['/', ':', ';', '=', '@', '[', '\\', ']', '^', '|'].contains c

/-- The percent escape of a byte. -/
def byte (b : UInt8) : List Char :=
  '%' :: (Text.hexDigits 2 b.toNat).map Char.toUpper

/-- The text with the characters of a set encoded. -/
def encode (set : Char → Bool) (cs : List Char) : List Char :=
  cs.flatMap fun c => if set c then (String.utf8EncodeChar c).flatMap byte else [c]

/-- The bytes of a text in which percent escapes stand for bytes. -/
def decode : List Char → List UInt8
  | '%' :: a :: b :: rest =>
    match Text.hexValue? a, Text.hexValue? b with
    | some x, some y => UInt8.ofNat (16 * x + y) :: decode rest
    | _, _ => 37 :: decode (a :: b :: rest)
  | c :: rest => String.utf8EncodeChar c ++ decode rest
  | [] => []

/-- The text that the decoded bytes stand for, if they are UTF-8. -/
def decodeText? (cs : List Char) : Option String := String.fromUTF8? ⟨(decode cs).toArray⟩

end Escape

end PromptBroker.Http
