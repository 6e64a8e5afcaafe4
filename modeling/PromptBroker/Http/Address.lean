import PromptBroker.Decimal.Layout
import PromptBroker.Decimal.Literal
import PromptBroker.Http.Domain
import PromptBroker.Http.Escape

/-!
# Hosts in addresses

The host part of an address in its one written form: a domain in ASCII, an IPv4
address as four decimal numbers, an IPv6 address in brackets with the longest run
of zeros left out. Percent escapes in a domain are decoded first. Outside the web
a host need not be a domain: it is taken as it is.
-/

namespace PromptBroker.Http

/-! ### IPv4 -/

/-- A part of an IPv4 address: decimal, octal after a zero, hexadecimal after `0x`. -/
def ipv4Part? (cs : List Char) : Option Nat :=
  match cs with
  | [] => none
  | ['0'] => some 0
  | '0' :: c :: rest =>
    if c = 'x' ∨ c = 'X' then Text.hexNumber? rest
    else
      (c :: rest).foldlM
        (fun n c => if '0' ≤ c ∧ c ≤ '7' then some (8 * n + (c.toNat - 48)) else none) 0
  | _ => Decimal.readNat? cs

/-- The parts of a domain, without the empty one behind a final dot. -/
def labels (domain : List Char) : List (List Char) :=
  match (splitAtChars (· == '.') domain).reverse with
  | [] :: rest => (if rest = [] then [[]] else rest).reverse
  | parts => parts.reverse

/-- Whether a domain has to be an IPv4 address, judging by its last part. -/
def endsInNumber (domain : List Char) : Bool :=
  match (labels domain).getLast? with
  | some last => (last ≠ [] ∧ last.all Char.isDigit) || (ipv4Part? last).isSome
  | none => false

/-- The number of an IPv4 address; the last part fills what the parts before it leave. -/
def ipv4? (domain : List Char) : Option Nat := do
  let parts ← (labels domain).mapM ipv4Part?
  let n := parts.length
  let last ← parts.getLast?
  let front := parts.dropLast
  if n ≤ 4 && front.all (· < 256) && last < Nat.pow 256 (5 - n) then
    some (front.zipIdx.foldl (fun n (v, i) => n + v * Nat.pow 256 (3 - i)) last)
  else none

/-- Four decimal numbers. -/
def ipv4Chars (n : Nat) : List Char :=
  joinChars '.' (([n / 0x1000000, n / 0x10000, n / 0x100, n].map (· % 256)).map Decimal.digitChars)

/-! ### IPv6 -/

/-- A sixteen-bit piece: one to four hexadecimal digits. -/
def ipv6Piece? (cs : List Char) : Option Nat :=
  if cs ≠ [] ∧ cs.length ≤ 4 then Text.hexNumber? cs else none

/-- A byte of an IPv4 address within an IPv6 address: decimal without leading zeros. -/
def embeddedByte? (cs : List Char) : Option Nat :=
  if cs.head? = some '0' ∧ 1 < cs.length then none else (Decimal.readNat? cs).filter (· < 256)

/-- The two pieces that an embedded IPv4 address stands for. -/
def embeddedIpv4? (cs : List Char) : Option (List Nat) :=
  match (splitAtChars (· == '.') cs).mapM embeddedByte? with
  | some [a, b, c, d] => some [256 * a + b, 256 * c + d]
  | _ => none

/-- The pieces written between colons. -/
def ipv6Pieces? (cs : List Char) : Option (List Nat) :=
  if cs = [] then some [] else (splitAtChars (· == ':') cs).mapM ipv6Piece?

/-- The pieces at the end of an address; an IPv4 address may stand for the last two. -/
def ipv6Ending? (cs : List Char) : Option (List Nat) :=
  if !cs.contains '.' then ipv6Pieces? cs
  else
    let parts := splitAtChars (· == ':') cs
    do some ((← parts.dropLast.mapM ipv6Piece?) ++ (← parts.getLast?.bind embeddedIpv4?))

/-- Splits at the first double colon. -/
def splitDoubleColon : List Char → List Char × Option (List Char)
  | ':' :: ':' :: rest => ([], some rest)
  | c :: rest => let (a, b) := splitDoubleColon rest; (c :: a, b)
  | [] => ([], none)

/-- The eight pieces of an IPv6 address. -/
def ipv6? (cs : List Char) : Option (List Nat) :=
  match splitDoubleColon cs with
  | (all, none) => (ipv6Ending? all).filter (·.length = 8)
  | (front, some back) => do
    let a ← ipv6Pieces? front
    let b ← ipv6Ending? back
    if a.length + b.length ≤ 7 then
      some (a ++ List.replicate (8 - a.length - b.length) 0 ++ b)
    else none

/-- Start and length of the first longest run of zeros, counting runs of two and more. -/
def zeroRun (pieces : List Nat) : Nat × Nat :=
  let lengths := pieces.zipIdx.map fun (_, i) => (i, ((pieces.drop i).takeWhile (· == 0)).length)
  lengths.foldl (fun best r => if 2 ≤ r.2 && best.2 < r.2 then r else best) (0, 0)

/-- The written form of an IPv6 address. -/
def ipv6Chars (pieces : List Nat) : List Char :=
  let (start, length) := zeroRun pieces
  let text := fun ps => joinChars ':' (ps.map Text.shortestHex)
  if length = 0 then text pieces
  else text (pieces.take start) ++ [':', ':'] ++ text (pieces.drop (start + length))

/-- The written form of an IPv6 address in brackets. -/
def bracketed? (cs : List Char) : Option (List Char) :=
  match cs.reverse with
  | ']' :: inner => (ipv6? inner.reverse).map fun ps => '[' :: (ipv6Chars ps ++ [']'])
  | _ => none

/-! ### Hosts -/

/-- The written form of a host of a web address. -/
def host? (cs : List Char) : Option (List Char) :=
  match cs with
  | '[' :: rest => bracketed? rest
  | _ => do
    let domain ← Domain.ascii? (← Escape.decodeText? cs).toList
    if domain = [] then none
    else if endsInNumber domain then (ipv4? domain).map ipv4Chars
    else some domain

/-- Characters that no host may contain outside the web; others are encoded if need be. -/
def forbiddenInPlainHost (c : Char) : Bool :=
  c == '\x00' || c == '\t' || c == '\n' || c == '\r' ||
    [' ', '#', '/', ':', '<', '>', '?', '@', '[', '\\', ']', '^', '|'].contains c

/-- The written form of a host outside the web. It may be empty. -/
def plainHost? (cs : List Char) : Option (List Char) :=
  match cs with
  | '[' :: rest => bracketed? rest
  | _ => if cs.any forbiddenInPlainHost then none else some (Escape.encode Escape.controlSet cs)

end PromptBroker.Http
