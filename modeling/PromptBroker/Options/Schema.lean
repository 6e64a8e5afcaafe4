import PromptBroker.Decimal.Literal
import PromptBroker.Decimal.Shortest
import PromptBroker.Failure
import PromptBroker.Json.Printer
import PromptBroker.Options.Basic
import PromptBroker.Text.Blank
import PromptBroker.Text.Markup

/-!
# Schemas

A purpose declares which options it accepts and the type of each. Validation
goes through the raw options in key order: an undeclared key is refused even when
its value is null, a null value counts as absent, and every other value is
brought to the declared type or refused. The first offence is reported.
-/

namespace PromptBroker

/-- The type of a declared option. -/
inductive ParamType where
  | int
  | float
  /-- Plain text; tags are removed. -/
  | text
  /-- Passed through untouched, for files and data addresses. -/
  | raw
  /-- A list or a keyed structure. -/
  | array
  deriving DecidableEq, Repr

/-- The types in order. -/
def ParamType.all : List ParamType := [.int, .float, .text, .raw, .array]

/-- The name of a type. -/
def ParamType.name : ParamType → String
  | .int => "int"
  | .float => "float"
  | .text => "text"
  | .raw => "raw"
  | .array => "array"

/-- The type of a name. -/
def ParamType.ofName? (name : String) : Option ParamType :=
  ParamType.all.find? fun t => t.name == name

/-- What a message calls a value of the type. -/
def ParamType.description : ParamType → String
  | .int => "an integer"
  | .float => "a number"
  | .text => "text"
  | .raw => "a value"
  | .array => "an array"

/-- Accepted keys with their types, in key order. -/
abbrev Schema := Keyed ParamType

namespace Schema

/-! ### Coercion -/

/-- The nearest whole number within the signed 64-bit range. -/
def clampInt64 (n : Int) : Int :=
  max (-0x8000000000000000) (min n 0x7FFFFFFFFFFFFFFF)

/-- A float without fraction becomes a whole number; beyond the signed 64-bit range, the nearest
end of that range. -/
def wholeOfFloat? (x : Float) : Option Json :=
  (Decimal.wholeValue? x).map fun n => Json.ofInt (clampInt64 n)

/-- A whole number, from a number without fraction or from its text. -/
def toInt? : Json → Option Json
  | .number (.whole n) => some (.number (.whole n))
  | .number (.real x _) => wholeOfFloat? x
  | .string s => (Decimal.readInt64? (Text.trim s).toList).map Json.ofInt
  | _ => none

/-- A finite float, from a number or from its text. -/
def toFloat? (v : Json) : Option Json :=
  let x :=
    match v with
    | .number n => some n.toFloat
    | .string s => (Decimal.readFloat64 (Text.trim s).toList).toOption
    | _ => none
  match x with
  | some x => if h : x.isFinite = true then some (.number (.real x h)) else none
  | none => none

/-- Text without tags, from text, a number or a truth value. -/
def toText? : Json → Option Json
  | .string s => some (.string (Text.stripTags s))
  | .number n => some (.string (String.ofList n.chars))
  | .bool b => some (.string (if b then "true" else "false"))
  | _ => none

/-- Lists and objects stay as they are. -/
def toArray? : Json → Option Json
  | .array items => some (.array items)
  | .object members => some (.object members)
  | _ => none

/-- The value brought to a type. -/
def coerce? (type : ParamType) (v : Json) : Option Json :=
  match type with
  | .int => toInt? v
  | .float => toFloat? v
  | .text => toText? v
  | .raw => some v
  | .array => toArray? v

/-- The value brought to a type, or the refusal that names the option. -/
def coerce (key : String) (type : ParamType) (v : Json) : Outcome Json :=
  match coerce? type v with
  | some w => .ok w
  | none => .error (.invalidParameter key s!"expected {type.description}, got {v.render}")

/-! ### Validation -/

/-- Checks raw options and brings them to their types. -/
def validate (schema : Schema) : Options → Outcome Options
  | [] => .ok []
  | (key, v) :: rest =>
    match Keyed.get? key schema with
    | none => .error (.invalidParameter key "option is not accepted by this purpose")
    | some type =>
      if v.isNull then validate schema rest
      else
        match coerce key type v with
        | .error e => .error e
        | .ok w => (validate schema rest).map ((key, w) :: ·)

end Schema

end PromptBroker
