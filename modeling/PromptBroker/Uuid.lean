import PromptBroker.Digest.Sha1
import PromptBroker.Text.Hex

/-!
# Identifiers derived from names

A name-based identifier of version 5: the same name in the same namespace always
gives the same identifier, so that storing an entry again replaces it.
-/

namespace PromptBroker

/-- An identifier of 128 bits. -/
structure Uuid where
  value : Nat
  bound : value < 0x100000000000000000000000000000000
  deriving DecidableEq

namespace Uuid

/-- The identifier with these sixteen bytes. Surplus bytes are not looked at. -/
def ofBytes (bytes : List UInt8) : Uuid :=
  ⟨Digest.ofBigEndian (bytes.take 16) % 0x100000000000000000000000000000000,
    Nat.mod_lt _ (by decide)⟩

/-- The sixteen bytes, most significant first. -/
def toBytes (u : Uuid) : List UInt8 :=
  Digest.bigEndian 16 u.value

/-- Sixteen bytes with the version and variant bits put in. -/
def mark (version : UInt8) (bytes : List UInt8) : List UInt8 :=
  bytes.mapIdx fun i (b : UInt8) =>
    if i = 6 then (b &&& (0x0F : UInt8)) ||| (version <<< (4 : UInt8))
    else if i = 8 then (b &&& (0x3F : UInt8)) ||| (0x80 : UInt8)
    else b

/-- The namespace of object identifiers, 6ba7b812-9dad-11d1-80b4-00c04fd430c8. -/
def oidNamespace : Uuid :=
  ⟨0x6ba7b8129dad11d180b400c04fd430c8, by decide⟩

/-- The identifier of a name in a namespace. -/
def ofName (space : Uuid) (name : String) : Uuid :=
  ofBytes (mark 5 ((Digest.Sha1.hash (space.toBytes ++ name.toUTF8.toList)).take 16))

/-- Thirty-two digits without hyphens. -/
def simple (u : Uuid) : String :=
  String.ofList (Text.hexBytes u.toBytes)

/-- The usual form, with hyphens after 8, 12, 16 and 20 digits. -/
def hyphenated (u : Uuid) : String :=
  let cs := Text.hexBytes u.toBytes
  String.ofList (cs.take 8 ++ '-' :: (cs.drop 8).take 4 ++ '-' :: (cs.drop 12).take 4 ++
    '-' :: (cs.drop 16).take 4 ++ '-' :: cs.drop 20)

end Uuid

end PromptBroker
