import PromptBroker.Text.CompositionTable
import PromptBroker.Text.MarkTable

/-!
# Composed form

A letter with a mark can be written as one character or as two, and marks of
different combining classes can come in any order. The composed form (Unicode
normalization form C) is the same for all these spellings: characters are taken
apart, marks are sorted by class, and what has a character of its own is put
together again. A mark reaches its letter past other marks only if these are of
lower classes.
-/

namespace PromptBroker.Text

/-! ### Hangul -/

/-- Whether a code point is a Hangul syllable. -/
def isHangul (n : Nat) : Bool := 0xAC00 ≤ n && n < 0xD7A4

/-- The letters of a Hangul syllable: two, or three if there is a final consonant. -/
def hangulLetters (n : Nat) : List Nat :=
  let i := n - 0xAC00
  let front := [0x1100 + i / 588, 0x1161 + i % 588 / 28]
  if i % 28 = 0 then front else front ++ [0x11A7 + i % 28]

/-- The syllable that two letters, or a syllable without final consonant and a letter, make. -/
def hangulSyllable? (a b : Nat) : Option Nat :=
  if 0x1100 ≤ a && a < 0x1113 && 0x1161 ≤ b && b < 0x1176 then
    some (0xAC00 + (a - 0x1100) * 588 + (b - 0x1161) * 28)
  else if isHangul a && (a - 0xAC00) % 28 == 0 && 0x11A7 < b && b < 0x11C3 then
    some (a + (b - 0x11A7))
  else none

/-! ### Taking apart -/

/-- The two characters that a character stands for. -/
def halves? (c : Char) : Option (Char × Char) :=
  (compositions.find? fun k => k.whole == c).map fun k => (k.first, k.second)

/-- A character taken apart. Only the first half can have halves of its own, and only once. -/
def decomposed (c : Char) : List Char :=
  if isHangul c.toNat then (hangulLetters c.toNat).map Char.ofNat
  else
    match halves? c with
    | none => [c]
    | some (a, b) =>
      match halves? a with
      | none => [a, b]
      | some (x, y) => [x, y, b]

/-! ### Sorting marks -/

/-- Puts a character in front of sorted ones: a mark moves behind marks of lower classes. -/
def placeMark (c : Char) : List Char → List Char
  | [] => [c]
  | d :: rest =>
    if 0 < combiningClass d ∧ combiningClass d < combiningClass c then d :: placeMark c rest
    else c :: d :: rest

/-- The characters with the marks between two letters sorted by class. -/
def sortedMarks (cs : List Char) : List Char := cs.foldr placeMark []

/-! ### Putting together -/

/-- The character that stands for two. -/
def whole? (a b : Char) : Option Char :=
  match hangulSyllable? a.toNat b.toNat with
  | some n => some (Char.ofNat n)
  | none => (compositions.find? fun k => k.first == a && k.second == b).map (·.whole)

/-- A text that is being put together. -/
structure Composing where
  /-- What is finished, latest first. -/
  done : List Char := []
  /-- The letter that can still take up marks. -/
  letter : Option Char := none
  /-- The marks behind the letter that it has not taken up, latest first. -/
  marks : List Char := []

namespace Composing

/-- Whether a character can reach the letter past the marks that wait behind it. -/
def admits (s : Composing) (c : Char) : Bool :=
  match s.marks with
  | [] => true
  | m :: _ => combiningClass m < combiningClass c

/-- One more character. -/
def add (s : Composing) (c : Char) : Composing :=
  match s.letter with
  | none =>
    if combiningClass c = 0 then { s with letter := some c } else { s with done := c :: s.done }
  | some l =>
    match if s.admits c then whole? l c else none with
    | some w => { s with letter := some w }
    | none =>
      if combiningClass c = 0 then ⟨s.marks ++ l :: s.done, some c, []⟩
      else { s with marks := c :: s.marks }

/-- The text so far. -/
def chars (s : Composing) : List Char := (s.marks ++ s.letter.toList ++ s.done).reverse

end Composing

/-- The composed form of a text. -/
def composed (cs : List Char) : List Char :=
  ((sortedMarks (cs.flatMap decomposed)).foldl Composing.add {}).chars

end PromptBroker.Text
