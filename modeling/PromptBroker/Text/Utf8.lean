/-!
# Reading bytes as text

Bytes from the network are read as UTF-8 in two ways: strictly, where one bad
sequence spoils the whole text, and with replacement, where each maximal part
that cannot belong to a well-formed sequence becomes one U+FFFD.

Both rest on `Utf8.next`, which takes one character or one bad part off the
front. The table of second bytes in `Utf8.lead` is the one of the standard: it
excludes overlong forms, surrogates and values beyond U+10FFFF by itself, so
that the assembled number never has to be checked again.
-/

namespace PromptBroker.Text.Utf8

/-- The shape a lead byte asks for: the bits it contributes, how many bytes follow, and the
range of the first of them. Bytes that lead nothing have no shape. -/
def lead (b : UInt8) : Option (Nat × Nat × UInt8 × UInt8) :=
  if b < 0x80 then some (b.toNat, 0, 0x80, 0xBF)
  else if b < 0xC2 then none
  else if b < 0xE0 then some (b.toNat - 0xC0, 1, 0x80, 0xBF)
  else if b < 0xF0 then
    some (b.toNat - 0xE0, 2, if b = 0xE0 then 0xA0 else 0x80, if b = 0xED then 0x9F else 0xBF)
  else if b < 0xF5 then
    some (b.toNat - 0xF0, 3, if b = 0xF0 then 0x90 else 0x80, if b = 0xF4 then 0x8F else 0xBF)
  else none

/-- Reads `count` further bytes, the first within `lo` and `hi`, the others plain continuation
bytes. `none` marks a sequence that breaks off; the rest then starts at the offending byte. -/
def follow (value count : Nat) (lo hi : UInt8) : List UInt8 → Option Nat × List UInt8
  | [] => (if count = 0 then some value else none, [])
  | b :: rest =>
    match count with
    | 0 => (some value, b :: rest)
    | n + 1 =>
      if lo ≤ b ∧ b ≤ hi then follow (value * 64 + (b.toNat - 0x80)) n 0x80 0xBF rest
      else (none, b :: rest)

theorem length_follow_le (value count : Nat) (lo hi : UInt8) (bs : List UInt8) :
    (follow value count lo hi bs).2.length ≤ bs.length := by
  induction bs generalizing value count lo hi with
  | nil => simp [follow]
  | cons b rest ih =>
    cases count with
    | zero => simp [follow]
    | succ n =>
      simp only [follow]
      split
      · exact Nat.le_succ_of_le (ih _ _ _ _)
      · exact Nat.le_refl _

/-- One character, or one bad part (`none`), taken off the front of a non-empty input. -/
def next (b : UInt8) (rest : List UInt8) : Option Char × List UInt8 :=
  match lead b with
  | none => (none, rest)
  | some (value, count, lo, hi) =>
    let r := follow value count lo hi rest
    (r.1.map Char.ofNat, r.2)

theorem length_next_le (b : UInt8) (rest : List UInt8) :
    (next b rest).2.length ≤ rest.length := by
  unfold next
  split
  · exact Nat.le_refl _
  · exact length_follow_le _ _ _ _ _

/-- The characters of the input, with `none` for each bad part. -/
def scan : List UInt8 → List (Option Char)
  | [] => []
  | b :: rest => (next b rest).1 :: scan (next b rest).2
termination_by bs => bs.length
decreasing_by exact Nat.lt_succ_of_le (length_next_le b rest)

/-- The places of the bad parts in what has been scanned, each by how much is left there. -/
def faults : List (Option Char) → List Nat
  | [] => []
  | none :: rest => (rest.length + 1) :: faults rest
  | some _ :: rest => faults rest

/-- Every bad part becomes one replacement character. -/
def replaceFaults (parts : List (Option Char)) : List Char := parts.map (·.getD '\uFFFD')

/-- Every bad part becomes one replacement character. -/
def decodeLossyChars (bs : List UInt8) : List Char :=
  replaceFaults (scan bs)

/-- Every bad part becomes one replacement character. Well-formed bytes are taken as they are. -/
def decodeLossy (bytes : ByteArray) : String :=
  match String.fromUTF8? bytes with
  | some s => s
  | none => String.ofList (decodeLossyChars bytes.toList)

/-- The text, unless some part is not well formed. -/
def decode? (bytes : ByteArray) : Option String :=
  String.fromUTF8? bytes

end PromptBroker.Text.Utf8
