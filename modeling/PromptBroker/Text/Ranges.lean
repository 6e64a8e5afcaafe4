import PromptBroker.Text.Hex

/-!
# Tables of characters

Classes of characters are tables of ranges. A table is written as lines of words
with blanks between. A word is one code point in hexadecimal, or the first and
the last one of a range with a dash between them.
-/

namespace PromptBroker.Text

/-- The words of a table. -/
def tableWords (lines : List String) : List (List Char) :=
  lines.flatMap fun line => line.toList.splitOn ' '

/-- The range that a word stands for. -/
def range? (word : List Char) : Option (Nat × Nat) :=
  match word.splitOn '-' with
  | [only] => (hexNumber? only).map fun n => (n, n)
  | [first, last] => do some (← hexNumber? first, ← hexNumber? last)
  | _ => none

/-- The character with a code point in hexadecimal. -/
def charOf? (digits : List Char) : Option Char := (hexNumber? digits).map Char.ofNat

/-- Ranges of code points, both ends included. -/
structure Ranges where
  pairs : List (Nat × Nat)

namespace Ranges

/-- Reads the ranges of a table. -/
def ofLines (lines : List String) : Ranges := ⟨(tableWords lines).filterMap range?⟩

/-- Whether a character lies in one of the ranges. -/
def contains (r : Ranges) (c : Char) : Bool :=
  r.pairs.any fun (first, last) => first ≤ c.toNat && c.toNat ≤ last

end Ranges

end PromptBroker.Text
