import PromptBroker.Digest.Sha256
import PromptBroker.Signing.Block
import PromptBroker.Signing.Der
import PromptBroker.Signing.Pem

/-!
# RSA signatures

A signing key is read from a key file and signs texts by RSA with SHA-256 and the
padding of PKCS #1, version 1.5. What the bytes of the key hold shows only when
something is to be signed: a public key is accepted until then.
-/

namespace PromptBroker.Signing

/-- The bytes of a key that the key file holds. -/
structure SigningKey where
  der : List UInt8
  deriving DecidableEq

/-! ### Key files -/

/-- Kinds of keys that a key file may name. -/
inductive Algorithm where
  | rsa
  | ellipticCurve
  | edwards
  deriving DecidableEq, Repr

/-- The algorithm of an identifier. -/
def Algorithm.ofPath? (path : List Nat) : Option Algorithm :=
  if path = [1, 2, 840, 113549, 1, 1, 1] then some .rsa
  else if path = [1, 2, 840, 10045, 2, 1] then some .ellipticCurve
  else if path = [1, 3, 101, 112] then some .edwards
  else none

/-- The algorithm that values name first. -/
def Algorithm.named? (values : List Block) : Option Algorithm :=
  Block.first?
    (fun v =>
      match v with
      | .identifier path => ofPath? path
      | _ => none)
    values

/-- Why a key file is refused. -/
inductive KeyFileError where
  /-- It is no file of an RSA key. -/
  | badFormat
  /-- It names RSA, but holds no bytes of a key. -/
  | noKey
  deriving DecidableEq, Repr

/-- The wording of the error. -/
def KeyFileError.message : KeyFileError → String
  | .badFormat => "InvalidKeyFormat"
  | .noKey => "InvalidEcdsaKey"

namespace SigningKey

/-- The key in a file of the general format, which names the algorithm. -/
def ofValues (values : List Block) : Except KeyFileError SigningKey :=
  match Algorithm.named? values with
  | some .rsa =>
    match Block.first? Block.payload? values with
    | some bytes => .ok ⟨bytes⟩
    | none => .error .noKey
  | _ => .error .badFormat

/-- Reads a key file that holds an RSA key, bare or in the general format. -/
def read (text : String) : Except KeyFileError SigningKey :=
  match Pem.read? text with
  | none => .error .badFormat
  | some pem =>
    let bytes := pem.contents.toList
    match Block.read? bytes with
    | none => .error .badFormat
    | some values =>
      if pem.label ∈ ["RSA PRIVATE KEY", "RSA PUBLIC KEY"] then .ok ⟨bytes⟩
      else if pem.label ∈ ["PRIVATE KEY", "PUBLIC KEY", "CERTIFICATE"] then ofValues values
      else .error .badFormat

end SigningKey

/-! ### Keys -/

/-- The part of a private key that signing needs. -/
structure RsaKey where
  modulus : Nat
  /-- Checks signatures. -/
  publicExponent : Nat
  /-- Makes them. -/
  privateExponent : Nat
  deriving DecidableEq

/-- Why nothing is signed. -/
inductive SigningError where
  /-- The bytes are no private key. -/
  | unreadable (fault : Der.Fault)
  /-- The numbers of the key do not belong together. -/
  | badKey
  /-- The modulus has no room for the padded digest. -/
  | keyTooShort
  /-- The signature does not stand the check: the factors of the modulus are no primes. -/
  | failedCheck
  deriving DecidableEq, Repr

/-- The wording of the error. -/
def SigningError.message : SigningError → String
  | .unreadable fault => s!"PKCS#8 ASN.1 error: {fault.message}"
  | .badKey => "PKCS#8 cryptographic key data malformed"
  | .keyTooShort => "message too long"
  | .failedCheck => "internal error"

/-- The most bits that a modulus may have. -/
def maxModulusBits : Nat := 4096

/-- The largest public exponent. -/
def maxPublicExponent : Nat := 0x1FFFFFFFF

/-- Whether the numbers belong together: the modulus is the product of the primes, and the exponents
undo each other for each of them. -/
def KeyNumbers.isConsistent (k : KeyNumbers) : Bool :=
  let product := k.publicExponent * k.privateExponent
  let fits (p : Nat) : Bool := 1 < p && product % (p - 1) == 1
  !k.hasMorePrimes &&
    k.modulus.log2 < maxModulusBits && k.modulus % 2 == 1 &&
    k.publicExponent < k.modulus && k.publicExponent % 2 == 1 &&
    1 < k.publicExponent && k.publicExponent ≤ maxPublicExponent &&
    k.firstPrime * k.secondPrime == k.modulus && fits k.firstPrime && fits k.secondPrime

/-- The private key that the bytes hold. -/
def SigningKey.rsa (k : SigningKey) : Except SigningError RsaKey :=
  match KeyNumbers.read k.der with
  | .error fault => .error (.unreadable fault)
  | .ok numbers =>
    if numbers.isConsistent then
      .ok ⟨numbers.modulus, numbers.publicExponent, numbers.privateExponent⟩
    else .error .badKey

/-! ### Signatures -/

/-- The power of a number, reduced. -/
def powMod (modulus base exponent : Nat) : Nat :=
  if exponent = 0 then 1 % modulus
  else
    let half := powMod modulus (base * base % modulus) (exponent / 2)
    if exponent % 2 = 1 then half * base % modulus else half
termination_by exponent
decreasing_by omega

/-- How many bytes a number takes. -/
def byteLength (n : Nat) : Nat := if n = 0 then 0 else n.log2 / 8 + 1

/-- What stands in front of a SHA-256 digest to say what it is. -/
def sha256Mark : List UInt8 :=
  [0x30, 0x31, 0x30, 0x0D, 0x06, 0x09, 0x60, 0x86, 0x48, 0x01, 0x65, 0x03, 0x04, 0x02, 0x01, 0x05,
    0x00, 0x04, 0x20]

/-- The digest of a text, padded to a length. At least eight bytes are padding, and three more set
it off. -/
def padded? (length : Nat) (text : List UInt8) : Option (List UInt8) :=
  let digest := sha256Mark ++ Digest.Sha256.hash text
  if length < digest.length + 11 then none
  else
    some
      (0x00 :: 0x01 :: List.replicate (length - digest.length - 3) 0xFF ++ 0x00 :: digest)

/-- The signature of a text, as long as the modulus. -/
def RsaKey.sign (k : RsaKey) (text : List UInt8) : Except SigningError (List UInt8) :=
  let length := byteLength k.modulus
  match padded? length text with
  | none => .error .keyTooShort
  | some message =>
    let message := Digest.ofBigEndian message
    let signature := powMod k.modulus message k.privateExponent
    if powMod k.modulus signature k.publicExponent = message then
      .ok (Digest.bigEndian length signature)
    else .error .failedCheck

/-- Signs a text with the key that a file holds. -/
def SigningKey.sign (k : SigningKey) (text : List UInt8) : Except SigningError (List UInt8) :=
  match k.rsa with
  | .error e => .error e
  | .ok key => key.sign text

end PromptBroker.Signing
