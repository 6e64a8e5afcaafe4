import PromptBroker.Text.Hex
import PromptBroker.Text.VisibleTable

/-!
# Quoted text

Text of unknown content is shown in messages between quotes. Quotes, backslashes
and characters that do not show by themselves are escaped, so that the text can
be told from what surrounds it.
-/

namespace PromptBroker.Text

/-- How a character is written between quotes. -/
def quotedChar (c : Char) : List Char :=
  if c = '\x00' then ['\\', '0']
  else if c = '\t' then ['\\', 't']
  else if c = '\r' then ['\\', 'r']
  else if c = '\n' then ['\\', 'n']
  else if c = '\\' || c = '"' then ['\\', c]
  else if isVisible c then [c]
  else '\\' :: 'u' :: '\x7b' :: (shortestHex c.toNat ++ ['\x7d'])

/-- The text between quotes. -/
def quoted (s : String) : String :=
  String.ofList ('"' :: s.toList.flatMap quotedChar ++ ['"'])

end PromptBroker.Text
