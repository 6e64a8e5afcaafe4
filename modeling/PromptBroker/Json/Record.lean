import PromptBroker.Json.Skim

/-!
# Records in JSON

Configuration and stored responses are records: an object with a member for each
field, where unknown members are ignored, or an array with the fields in order.
In an array every field has to be present; in an object a field may be left out
if it has a default. A whole number is never read from a float such as `1.0`,
while a float field takes any number.
-/

namespace PromptBroker.Json

/-- The fields of a record as far as they are given, in the order of `names`. -/
def recordFields? (names : List String) : Json → Option (List (Option Json))
  | .object members => some (names.map fun n => Keyed.get? n members)
  | .array items =>
    if items.length ≤ names.length then
      some (items.map some ++ List.replicate (names.length - items.length) none)
    else none
  | _ => none

/-- Reads characters as a record. Unlike in a value that has been read already, a field that is
written twice is refused, and members that are no fields are only skimmed: between their quotes the
text may have `faults`. -/
def readCharFields (names : List String) (faults : List Nat) (cs : List Char) :
    Except ReadError (Option (List (Option Json))) :=
  match readRecord names faults cs with
  | .error e => .error e
  | .ok (.inl members) =>
    if names.all fun n => (members.filter fun m => m.1 == n).length ≤ 1 then
      .ok (some (names.map fun n => members.lookup n))
    else .ok none
  | .ok (.inr v) => .ok (recordFields? names v)

/-- Reads a text as a record. -/
def readFields (names : List String) (text : String) :
    Except ReadError (Option (List (Option Json))) :=
  readCharFields names [] text.toList

/-- Reads bytes as a record. They need not be UTF-8 in strings that are skimmed. -/
def readByteFields (names : List String) (bytes : ByteArray) :
    Except ReadError (Option (List (Option Json))) :=
  match Text.Utf8.decode? bytes with
  | some text => readFields names text
  | none =>
    let parts := Text.Utf8.scan bytes.toList
    readCharFields names (Text.Utf8.faults parts) (Text.Utf8.replaceFaults parts)

/-- A truth value. -/
def asBool? : Json → Option Bool
  | .bool b => some b
  | _ => none

/-- A whole number below `2 ^ 16`. -/
def asUInt16? : Json → Option UInt16
  | .number (.whole n) =>
    if 0 ≤ n.value ∧ n.value ≤ 0xFFFF then some (UInt16.ofNat n.value.toNat) else none
  | _ => none

/-- The name of an alternative without data: its text, or an object with it as the only key and
null under it. -/
def asName? : Json → Option String
  | .string s => some s
  | .object [(key, .null)] => some key
  | _ => none

/-- A field that may be null. -/
def nullable? {α : Type} (read : Json → Option α) : Json → Option (Option α)
  | .null => some none
  | v => (read v).map some

/-- A map whose values are all texts. -/
def asTexts? : Json → Option (Keyed String)
  | .object members => members.mapM fun e => (asString? e.2).map (e.1, ·)
  | _ => none

end PromptBroker.Json
