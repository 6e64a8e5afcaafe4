import PromptBroker.Digest.Block

/-!
# SHA-1

The digest that name-based identifiers of version 5 are cut from.
-/

namespace PromptBroker.Digest.Sha1

/-- The chaining value. -/
structure State where
  a : UInt32
  b : UInt32
  c : UInt32
  d : UInt32
  e : UInt32

/-- The value before the first block. -/
def State.initial : State :=
  ⟨0x67452301, 0xEFCDAB89, 0x98BADCFE, 0x10325476, 0xC3D2E1F0⟩

/-- The next `count` words of the schedule, from the last sixteen, latest first. -/
def extend : Nat → List UInt32 → List UInt32
  | 0, recent => recent
  | n + 1, recent =>
    let w := (recent.getD 2 0) ^^^ (recent.getD 7 0) ^^^ (recent.getD 13 0) ^^^ (recent.getD 15 0)
    extend n (rotateLeft w 1 :: recent)

/-- The eighty words of a block. -/
def schedule (block : List UInt32) : List UInt32 :=
  (extend 64 block.reverse).reverse

/-- The mixing function and the constant of a round. -/
def roundPart (t : Nat) (b c d : UInt32) : UInt32 × UInt32 :=
  if t < 20 then ((b &&& c) ||| (~~~b &&& d), 0x5A827999)
  else if t < 40 then (b ^^^ c ^^^ d, 0x6ED9EBA1)
  else if t < 60 then ((b &&& c) ||| (b &&& d) ||| (c &&& d), 0x8F1BBCDC)
  else (b ^^^ c ^^^ d, 0xCA62C1D6)

/-- One round with its word. -/
def round (s : State) (t : Nat) (w : UInt32) : State :=
  let (f, k) := roundPart t s.b s.c s.d
  ⟨rotateLeft s.a 5 + f + s.e + k + w, s.a, rotateLeft s.b 30, s.c, s.d⟩

/-- One block. -/
def compress (s : State) (block : List UInt32) : State :=
  let r := (schedule block).zipIdx.foldl (fun s (w, t) => round s t w) s
  ⟨s.a + r.a, s.b + r.b, s.c + r.c, s.d + r.d, s.e + r.e⟩

/-- The twenty bytes of the digest. -/
def hash (message : List UInt8) : List UInt8 :=
  let s := (messageBlocks message).foldl compress .initial
  [s.a, s.b, s.c, s.d, s.e].flatMap wordBytes

end PromptBroker.Digest.Sha1
