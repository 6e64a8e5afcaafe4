import PromptBroker.Keyed

/-!
# JSON values

The value type for everything that is dynamic by nature: options of callers,
bodies of providers, answers of models. A number is either a whole number that
fits a 64-bit word, signed or unsigned, or a finite float; `1` and `1.0` are
different values. The members of an object are kept in key order.
-/

namespace PromptBroker

namespace Json

/-- A whole number that fits a signed or an unsigned 64-bit word. -/
structure Whole where
  value : Int
  lower : -0x8000000000000000 ≤ value
  upper : value ≤ 0xFFFFFFFFFFFFFFFF
  deriving DecidableEq

/-- A number of a JSON text. -/
inductive Number where
  | whole (n : Whole)
  | real (x : Float) (finite : x.isFinite = true)
  deriving DecidableEq

/-- The whole number, if it fits. -/
def Whole.ofInt? (n : Int) : Option Whole :=
  if h : -0x8000000000000000 ≤ n ∧ n ≤ 0xFFFFFFFFFFFFFFFF then some ⟨n, h.1, h.2⟩ else none

/-- The number as a float, rounded if need be. -/
def Number.toFloat : Number → Float
  | .whole n => Float.ofInt n.value
  | .real x _ => x

/-- The number as a signed 64-bit word, if it is whole and fits. -/
def Number.toInt64? : Number → Option Int
  | .whole n => if n.value ≤ 0x7FFFFFFFFFFFFFFF then some n.value else none
  | .real _ _ => none

end Json

/-- A JSON value. -/
inductive Json where
  | null
  | bool (b : Bool)
  | number (n : Json.Number)
  | string (s : String)
  | array (items : List Json)
  | object (members : List (String × Json))

namespace Json

instance : Inhabited Json := ⟨.null⟩

/-- A float; NaN and the infinities have no JSON form and become `null`. -/
def ofFloat (x : Float) : Json :=
  if h : x.isFinite = true then .number (.real x h) else .null

/-- A whole number; one outside the 64-bit range becomes the nearest float. -/
def ofInt (n : Int) : Json :=
  match Whole.ofInt? n with
  | some w => .number (.whole w)
  | none => ofFloat (Float.ofInt n)

/-- An object from members in any order; the last under each key counts. -/
def ofMembers (members : List (String × Json)) : Json :=
  .object (Keyed.ofList members)

/-- An array of texts. -/
def ofStrings (texts : List String) : Json :=
  .array (texts.map .string)

/-- Text, or `null` for none. -/
def ofOption (value : Option Json) : Json :=
  value.getD .null

/-! ### Reading a value -/

def isNull : Json → Bool
  | .null => true
  | _ => false

def isObject : Json → Bool
  | .object _ => true
  | _ => false

/-- The text of a string. -/
def asString? : Json → Option String
  | .string s => some s
  | _ => none

/-- Any number as a float. -/
def asFloat? : Json → Option Float
  | .number n => some n.toFloat
  | _ => none

/-- A whole number within the signed 64-bit range. -/
def asInt64? : Json → Option Int
  | .number n => n.toInt64?
  | _ => none

/-- The items of an array. -/
def asArray? : Json → Option (List Json)
  | .array items => some items
  | _ => none

/-- The member of an object under a key. -/
def get? (key : String) : Json → Option Json
  | .object members => Keyed.get? key members
  | _ => none

/-- One step of a path: a member of an object, or what stands at a place: an item of an array, or
the member of an object that has the place as its name. -/
inductive Step where
  | key (name : String)
  | item (index : Nat)
  deriving DecidableEq, Repr

/-- The value one step down. -/
def step? : Step → Json → Option Json
  | .key name, v => v.get? name
  | .item i, .array items => items[i]?
  | .item i, v => v.get? i.repr

/-- The value at the end of a path. -/
def at? (path : List Step) (v : Json) : Option Json :=
  path.foldlM (fun v s => v.step? s) v

/-! ### Lemmas -/

@[simp] theorem asString?_eq_some {v : Json} {text : String} :
    v.asString? = some text ↔ v = .string text := by
  cases v <;> simp [asString?]

@[simp] theorem bind_asString?_eq_some {v : Option Json} {text : String} :
    v.bind asString? = some text ↔ v = some (.string text) := by
  cases v with
  | none => simp
  | some v => rw [Option.bind_some, asString?_eq_some, Option.some.injEq]

@[simp] theorem at?_nil (v : Json) : v.at? [] = some v := rfl

@[simp] theorem at?_cons (s : Step) (path : List Step) (v : Json) :
    v.at? (s :: path) = (v.step? s).bind (at? path) := rfl

end Json

end PromptBroker
