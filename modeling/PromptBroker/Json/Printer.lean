import PromptBroker.Json.Basic
import PromptBroker.Decimal.Layout
import PromptBroker.Text.Hex

/-!
# Compact JSON text

The text of a value without any blanks. Strings escape only what has to be
escaped: the quote, the backslash and the control characters below U+0020, those
with a short form by it and the others by four hexadecimal digits. Floats keep a
fraction or an exponent, so that reading the text gives a float again.
-/

namespace PromptBroker.Json

/-- Floats are positional for decimal exponents from -5 to 15 and keep `.0`. -/
def floatStyle : Decimal.Style :=
  ⟨fun e => -5 ≤ e && e ≤ 15, true, .even⟩

/-- A character inside a string. -/
def escape (c : Char) : List Char :=
  if c = '"' then ['\\', '"']
  else if c = '\\' then ['\\', '\\']
  else if c.toNat = 8 then ['\\', 'b']
  else if c.toNat = 12 then ['\\', 'f']
  else if c = '\n' then ['\\', 'n']
  else if c = '\r' then ['\\', 'r']
  else if c = '\t' then ['\\', 't']
  else if c.toNat < 0x20 then '\\' :: 'u' :: Text.hexDigits 4 c.toNat
  else [c]

/-- A string with its quotes. -/
def quote (s : String) : List Char :=
  '"' :: (s.toList.flatMap escape ++ ['"'])

/-- The text of a number. -/
def Number.chars : Number → List Char
  | .whole n => Decimal.intChars n.value
  | .real x _ => floatStyle.finite x

mutual

/-- The text of a value. -/
def chars : Json → List Char
  | .null => ['n', 'u', 'l', 'l']
  | .bool true => ['t', 'r', 'u', 'e']
  | .bool false => ['f', 'a', 'l', 's', 'e']
  | .number n => n.chars
  | .string s => quote s
  | .array items => '[' :: (itemsChars items ++ [']'])
  | .object members => '{' :: (membersChars members ++ ['}'])

/-- The items of an array, separated by commas. -/
def itemsChars : List Json → List Char
  | [] => []
  | v :: rest => chars v ++ moreItems rest

/-- Further items, each behind a comma. -/
def moreItems : List Json → List Char
  | [] => []
  | v :: rest => ',' :: (chars v ++ moreItems rest)

/-- The members of an object, separated by commas. -/
def membersChars : List (String × Json) → List Char
  | [] => []
  | (key, v) :: rest => quote key ++ ':' :: (chars v ++ moreMembers rest)

/-- Further members, each behind a comma. -/
def moreMembers : List (String × Json) → List Char
  | [] => []
  | (key, v) :: rest => ',' :: (quote key ++ ':' :: (chars v ++ moreMembers rest))

end

/-- The compact text of a value. -/
def render (v : Json) : String :=
  String.ofList v.chars

end PromptBroker.Json
