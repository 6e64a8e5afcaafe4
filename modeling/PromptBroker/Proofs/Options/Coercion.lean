import PromptBroker.Proofs.Decimal.Literals
import PromptBroker.Proofs.Decimal.Values
import PromptBroker.Proofs.Settled

/-!
# What values are brought to

`Brings` says which values go with which declared type, and what becomes of them:
numbers, texts of numbers and truth values are brought to the type, files and structures
stay as they are. It is a relation on the grammar of literals and the exact values of
floats, and coercion is its function (`coerce?_eq_some`).

A value for a whole number denotes one (`Json.Denotes`), or there is none and it is
refused. The number that is stored is the one that was denoted, with one exception: a
float without fraction beyond the signed 64-bit range is not refused, but becomes the
nearest end of that range, which is another number (`keepsNumber_iff`).
-/

namespace PromptBroker

open Decimal (Numeral FloatLiteral exactValue? readInt64?_eq_some readFloat64_eq_ok
  wholeValue?_eq_some)

/-- The whole number that a value stands for. -/
inductive Json.Denotes : Json → Int → Prop
  | whole (n : Json.Whole) : Denotes (.number (.whole n)) n.value
  /-- A float without fraction. -/
  | real {x : Float} {finite : x.isFinite = true} {n : Int}
      (value : exactValue? x = some (n : ℚ)) : Denotes (.number (.real x finite)) n
  /-- A text is read without the blanks around it. -/
  | text {s : String} {n : Int} (numeral : Numeral (Text.trim s).toList n) : Denotes (.string s) n

namespace Schema

variable {type : ParamType} {key : String} {v w : Json} {n : Int}

/-- What a value is brought to under a declared type. -/
inductive Brings : ParamType → Json → Json → Prop
  | whole (n : Json.Whole) : Brings .int (.number (.whole n)) (.number (.whole n))
  /-- Beyond the range of signed words, the nearest end of it. -/
  | real {x : Float} {finite : x.isFinite = true} {n : Int}
      (value : exactValue? x = some (n : ℚ)) :
      Brings .int (.number (.real x finite)) (Json.ofInt (clampInt64 n))
  | numeral {s : String} {n : Int} (numeral : Numeral (Text.trim s).toList n)
      (lower : -0x8000000000000000 ≤ n) (upper : n ≤ 0x7FFFFFFFFFFFFFFF) :
      Brings .int (.string s) (Json.ofInt n)
  | float {n : Json.Number} (finite : n.toFloat.isFinite = true) :
      Brings .float (.number n) (.number (.real n.toFloat finite))
  /-- A literal may stand for no number, or for one that no double comes near to. -/
  | literal {s : String} {negative : Bool} {m : Decimal.Magnitude}
      (literal : FloatLiteral (Text.trim s).toList negative m)
      (finite : (m.toFloat negative).isFinite = true) :
      Brings .float (.string s) (.number (.real (m.toFloat negative) finite))
  | text (s : String) : Brings .text (.string s) (.string (Text.stripTags s))
  | printed (n : Json.Number) : Brings .text (.number n) (.string (String.ofList n.chars))
  | truth (b : Bool) : Brings .text (.bool b) (.string (if b then "true" else "false"))
  | raw (v : Json) : Brings .raw v v
  | items (items : List Json) : Brings .array (.array items) (.array items)
  | members (members : List (String × Json)) : Brings .array (.object members) (.object members)

theorem toInt?_eq_some : toInt? v = some w ↔ Brings .int v w := by
  constructor
  · intro h
    unfold toInt? wholeOfFloat? at h
    split at h
    · cases h
      exact .whole _
    · obtain ⟨n, value, rfl⟩ := Option.map_eq_some_iff.1 h
      exact .real (wholeValue?_eq_some.1 value)
    · obtain ⟨n, read, rfl⟩ := Option.map_eq_some_iff.1 h
      obtain ⟨numeral, lower, upper⟩ := readInt64?_eq_some.1 read
      exact .numeral numeral lower upper
    · cases h
  · intro h
    cases h with
    | whole n => rfl
    | real value => simp [toInt?, wholeOfFloat?, wholeValue?_eq_some.2 value]
    | numeral numeral lower upper =>
      simp [toInt?, readInt64?_eq_some.2 ⟨numeral, lower, upper⟩]

theorem toFloat?_eq_some : toFloat? v = some w ↔ Brings .float v w := by
  constructor
  · intro h
    simp only [toFloat?] at h
    split at h
    · next x given =>
      split at h
      · next finite =>
        cases h
        split at given
        · cases given
          exact .float finite
        · next s =>
          cases read : Decimal.readFloat64 (Text.trim s).toList with
          | error f => rw [read] at given; cases given
          | ok y =>
            rw [read] at given
            cases given
            obtain ⟨negative, m, literal, rfl⟩ := readFloat64_eq_ok.1 read
            exact .literal literal finite
        · cases given
      · cases h
    · cases h
  · intro h
    cases h with
    | float finite => simp [toFloat?, finite]
    | literal literal finite =>
      simp [toFloat?, readFloat64_eq_ok.2 ⟨_, _, literal, rfl⟩, Except.toOption, finite]

/-- Coercion brings a value to its type, or there is nothing to bring it to. -/
theorem coerce?_eq_some : coerce? type v = some w ↔ Brings type v w := by
  cases type with
  | int => exact toInt?_eq_some
  | float => exact toFloat?_eq_some
  | text =>
    constructor
    · intro h
      cases v <;> cases h
      · exact .truth _
      · exact .printed _
      · exact .text _
    · rintro (_ | _ | _) <;> rfl
  | raw =>
    constructor
    · rintro ⟨⟩
      exact .raw v
    · rintro ⟨⟩
      rfl
  | array =>
    constructor
    · intro h
      cases v <;> cases h
      · exact .items _
      · exact .members _
    · rintro (_ | _) <;> rfl

/-! ### Whole numbers -/

/-- The whole number that a value denotes is stored, and where none is denoted that fits a word the
value is refused. -/
structure KeepsNumber (key : String) (v : Json) : Prop where
  stored : ∀ w, coerce key .int v = .ok w →
    ∃ n : Json.Whole, w = .number (.whole n) ∧ v.Denotes n.value
  refused : (∀ n : Json.Whole, ¬v.Denotes n.value) →
    ∃ message, coerce key .int v = .error (.invalidParameter key message)

/-- A float without fraction beyond the signed 64-bit range. -/
inductive IsBeyond : Json → Prop
  | mk {x : Float} {finite : x.isFinite = true} {n : Int} (value : exactValue? x = some (n : ℚ))
      (beyond : n < -0x8000000000000000 ∨ 0x7FFFFFFFFFFFFFFF < n) :
      IsBeyond (.number (.real x finite))

theorem coerce_eq_ok : coerce key type v = .ok w ↔ Brings type v w := by
  rw [← coerce?_eq_some, coerce]
  cases coerce? type v <;> simp

/-- What can be brought to nothing is refused. -/
theorem coerce_eq_error {f : Failure} : coerce key type v = .error f ↔
    (∀ w, ¬Brings type v w) ∧
      f = .invalidParameter key s!"expected {type.description}, got {v.render}" := by
  simp only [← coerce?_eq_some, coerce]
  cases coerce? type v <;> simp [eq_comm]

theorem clampInt64_of_fits (lower : -0x8000000000000000 ≤ n) (upper : n ≤ 0x7FFFFFFFFFFFFFFF) :
    clampInt64 n = n := by
  unfold clampInt64
  omega

/-- What is stored is what was denoted, unless that is beyond the range. -/
theorem Brings.denotes (h : Brings .int v w) (within : ¬IsBeyond v) :
    ∃ n : Json.Whole, w = .number (.whole n) ∧ v.Denotes n.value := by
  cases h with
  | whole n => exact ⟨n, rfl, .whole n⟩
  | @real x finite n value =>
    have lower : -0x8000000000000000 ≤ n :=
      Int.not_lt.1 fun below => within (.mk value (.inl below))
    have upper : n ≤ 0x7FFFFFFFFFFFFFFF :=
      Int.not_lt.1 fun above => within (.mk value (.inr above))
    rw [clampInt64_of_fits lower upper]
    obtain ⟨k, rfl, stored⟩ := ofInt_of_fits lower upper
    exact ⟨k, stored, .real value⟩
  | numeral numeral lower upper =>
    obtain ⟨k, rfl, stored⟩ := ofInt_of_fits lower upper
    exact ⟨k, stored, .text numeral⟩

theorem keepsNumber_of_within (key : String) (within : ¬IsBeyond v) : KeepsNumber key v where
  stored _ accepted := (coerce_eq_ok.1 accepted).denotes within
  refused none := by
    cases outcome : coerce key .int v with
    | ok w =>
      obtain ⟨n, -, denotes⟩ := (coerce_eq_ok.1 outcome).denotes within
      exact absurd denotes (none n)
    | error f =>
      obtain ⟨-, rfl⟩ := coerce_eq_error.1 outcome
      exact ⟨_, rfl⟩

/-- Beyond the range another number is stored: the nearest end. -/
theorem not_keepsNumber_of_beyond (key : String) (h : IsBeyond v) : ¬KeepsNumber key v := by
  intro keeps
  obtain @⟨x, finite, n, value, beyond⟩ := h
  obtain ⟨k, same, denotes⟩ := keeps.stored _ (coerce_eq_ok.2 (.real value))
  obtain ⟨lower, upper⟩ := clampInt64_range n
  obtain ⟨k', clamped, stored⟩ := ofInt_of_fits lower upper
  rw [stored] at same
  cases same
  cases denotes with
  | real value' =>
    have : k.value = n := by exact_mod_cast Option.some.inj (value'.symm.trans value)
    omega

/-- A value for a whole number keeps the number that it denotes, or is refused, exactly if it is no
float beyond the signed 64-bit range; such a float becomes the nearest end of that range. Every
number of the range is accepted, however it is written. -/
theorem keepsNumber_iff (key : String) (v : Json) : (KeepsNumber key v ↔ ¬IsBeyond v) ∧
    (IsBeyond v → ∃ n, v.Denotes n ∧ coerce key .int v = .ok (Json.ofInt (clampInt64 n))) ∧
    ∀ n, v.Denotes n → -0x8000000000000000 ≤ n → n ≤ 0x7FFFFFFFFFFFFFFF →
      coerce key .int v = .ok (Json.ofInt n) := by
  refine ⟨⟨fun keeps beyond => not_keepsNumber_of_beyond key beyond keeps,
    keepsNumber_of_within key⟩, ?_, ?_⟩
  · rintro ⟨value, -⟩
    exact ⟨_, .real value, coerce_eq_ok.2 (.real value)⟩
  · intro n denotes lower upper
    refine coerce_eq_ok.2 ?_
    cases denotes with
    | whole k =>
      obtain ⟨k', same, stored⟩ := ofInt_of_fits lower upper
      obtain rfl : k' = k := by
        cases k'
        cases k
        cases same
        rfl
      rw [stored]
      exact .whole k'
    | @real x finite _ value =>
      have brought : Brings .int (.number (.real x finite)) (Json.ofInt (clampInt64 n)) :=
        .real value
      rwa [clampInt64_of_fits lower upper] at brought
    | text numeral => exact .numeral numeral lower upper

/-- Not every value keeps its number: a one with three hundred zeros is stored as the largest
signed word. -/
theorem not_forall_keepsNumber : ¬∀ key v, KeepsNumber key v := by
  intro keeps
  let x : Float := 1e300
  have large : (Decimal.wholeValue? x).map (fun n => decide (0x7FFFFFFFFFFFFFFF < n)) =
      some true := by
    decide +kernel
  obtain ⟨n, whole, above⟩ := Option.map_eq_some_iff.1 large
  have beyond : IsBeyond (.number (.real x (by decide +kernel))) :=
    .mk (wholeValue?_eq_some.1 whole) (.inr (of_decide_eq_true above))
  exact not_keepsNumber_of_beyond "count" beyond (keeps _ _)

end Schema

end PromptBroker
