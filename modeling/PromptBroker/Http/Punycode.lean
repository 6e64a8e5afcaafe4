/-!
# Punycode

A label with characters outside ASCII is written in ASCII: first its ASCII
characters, then, after a dash, where the others have to be put in. The others
come in the order of their code points, each as the difference to the one before
in a number system whose digits adapt to the size of the differences.
-/

namespace PromptBroker.Http.Punycode

/-! ### Digits -/

/-- The digit of a number below 36. -/
def digit (n : Nat) : Char :=
  if n < 26 then Char.ofNat (97 + n) else Char.ofNat (22 + n)

/-- The number of a digit in lower case. -/
def digitValue? (c : Char) : Option Nat :=
  if 'a' ≤ c ∧ c ≤ 'z' then some (c.toNat - 97)
  else if '0' ≤ c ∧ c ≤ '9' then some (c.toNat - 22)
  else none

/-- How far a digit position carries before the next one is needed. -/
def threshold (position bias : Nat) : Nat :=
  if position ≤ bias then 1 else if bias + 26 ≤ position then 26 else position - bias

/-- The new bias after a difference has been written. -/
def adapt (delta handled : Nat) (first : Bool) : Nat :=
  let delta := if first then delta / 700 else delta / 2
  shrink 16 (delta + delta / handled) 0
where
  /-- Divides by 35 while the difference is large; sixteen rounds suffice for all differences. -/
  shrink : Nat → Nat → Nat → Nat
    | budget + 1, delta, k =>
      if 455 < delta then shrink budget (delta / 35) (k + 36) else k + 36 * delta / (delta + 38)
    | 0, delta, k => k + 36 * delta / (delta + 38)

/-! ### Writing -/

/-- The digits of a difference. Each digit reduces it by a factor of ten at least, so that
sixty-four positions suffice. -/
def digits (bias : Nat) : Nat → Nat → Nat → List Char
  | 0, _, _ => []
  | budget + 1, position, q =>
    let t := threshold position bias
    if q < t then [digit q]
    else digit (t + (q - t) % (36 - t)) :: digits bias budget (position + 36) ((q - t) / (36 - t))

/-- Where the writer stands. -/
structure State where
  delta : Nat
  bias : Nat
  handled : Nat
  first : Bool
  out : List Char

/-- Writes all occurrences of one code point. -/
def emit (n : Nat) (s : State) (c : Char) : State :=
  if c.toNat < n then { s with delta := s.delta + 1 }
  else if c.toNat = n then
    { delta := 0
      bias := adapt s.delta (s.handled + 1) s.first
      handled := s.handled + 1
      first := false
      out := s.out ++ digits s.bias 64 36 s.delta }
  else s

/-- A label in Punycode. -/
def encode (label : List Char) : List Char :=
  let basic := label.filter fun c => c.toNat < 0x80
  let points := (label.map Char.toNat).filter fun n => 0x80 ≤ n
  let start : State :=
    ⟨0, 72, basic.length, true, basic ++ (if basic = [] then [] else ['-'])⟩
  let step := fun (acc : State × Nat) (n : Nat) =>
    let s := { acc.1 with delta := acc.1.delta + (n - acc.2) * (acc.1.handled + 1) }
    let s := label.foldl (emit n) s
    ({ s with delta := s.delta + 1 }, n + 1)
  (((points.mergeSort (· ≤ ·)).eraseReps.foldl step (start, 0x80)).1).out

/-! ### Reading -/

/-- Differences and weights fit a 32-bit word. -/
def wordMax : Nat := 0xFFFFFFFF

/-- Reads a difference and adds it to `sum`; the rest of the text follows. -/
def readDigits (bias : Nat) (position weight sum : Nat) : List Char → Option (Nat × List Char)
  | [] => none
  | c :: rest => do
    let d ← digitValue? c
    let t := threshold position bias
    let sum := sum + d * weight
    if wordMax < sum then none
    else if d < t then some (sum, rest)
    else if wordMax < weight * (36 - t) then none
    else readDigits bias (position + 36) (weight * (36 - t)) sum rest

/-- Puts the characters behind the dash into the label. Each takes at least one digit, so that the
length of the text bounds the steps. -/
def insertAll : Nat → (bias n i : Nat) → List Char → List Char → Option (List Char)
  | _, _, _, _, label, [] => some label
  | 0, _, _, _, _, _ :: _ => none
  | steps + 1, bias, n, i, label, text => do
    let (sum, rest) ← readDigits bias 36 1 i text
    let length := label.length + 1
    let n := n + sum / length
    let at_ := sum % length
    if n.isValidChar then
      insertAll steps (adapt (sum - i) length (i == 0)) n (at_ + 1)
        (label.insertIdx at_ (Char.ofNat n)) rest
    else none

/-- Reads a label. The last dash ends the ASCII characters; a dash at the front ends none. -/
def decode? (text : List Char) : Option (List Char) :=
  let tail := (text.reverse.takeWhile (· != '-')).reverse
  let basic := text.take (text.length - tail.length - 1)
  if basic = [] then insertAll text.length 72 0x80 0 [] text
  else insertAll text.length 72 0x80 0 basic tail

end PromptBroker.Http.Punycode
