import PromptBroker.Json.Basic

/-!
# Options of a request

What a caller may say besides the prompt: named JSON values. *Raw* options come
from the caller as they are; sanitized options have passed the schema of a
purpose. Both are kept in key order.
-/

namespace PromptBroker

/-- Named values in key order. -/
abbrev Options := Keyed Json

namespace Options

/-- The value of an option. -/
def get? (key : String) (o : Options) : Option Json :=
  Keyed.get? key o

/-- The text of an option; empty text counts as absent. -/
def text? (key : String) (o : Options) : Option String :=
  ((get? key o).bind Json.asString?).filter fun s => s != ""

/-- The number of an option. -/
def float? (key : String) (o : Options) : Option Float :=
  (get? key o).bind Json.asFloat?

/-- The whole number of an option, within the signed 64-bit range. -/
def int? (key : String) (o : Options) : Option Int :=
  (get? key o).bind Json.asInt64?

/-- The items of an option that is a list. -/
def items? (key : String) (o : Options) : Option (List Json) :=
  (get? key o).bind Json.asArray?

/-- The texts in a list option, in order; other items are passed over. -/
def texts (key : String) (o : Options) : List String :=
  ((items? key o).getD []).filterMap Json.asString?

/-- The first item of a list option, if it is text and not empty. -/
def firstText? (key : String) (o : Options) : Option String :=
  (((items? key o).bind List.head?).bind Json.asString?).filter fun s => s != ""

/-- Sets an option. -/
def insert (key : String) (value : Json) (o : Options) : Options :=
  Keyed.insert key value o

/-- The options as one object. -/
def toJson (o : Options) : Json :=
  .object o

theorem text?_eq_some {key text : String} {o : Options} :
    o.text? key = some text ↔ o.get? key = some (.string text) ∧ text ≠ "" := by
  rw [text?, Option.filter_eq_some_iff, Json.bind_asString?_eq_some, bne_iff_ne]

end Options

end PromptBroker
