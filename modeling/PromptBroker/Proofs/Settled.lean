import PromptBroker.Options.Schema
import PromptBroker.Proofs.Json.Numbers
import PromptBroker.Proofs.Text.Markup

/-!
# Options that are settled

Coercion brings a value to a type, and `IsOf` says where it arrives: whole numbers,
finite floats, text without tags. Values that are there already stay as they are,
whichever way they came, so options that have passed a schema once, which is to say
*settled* options, pass it again unchanged (`Settled.validate`). Filling in a value of
the declared type leaves options settled.
-/

namespace PromptBroker

@[simp] theorem Options.get?_insert_self (key : String) (value : Json) (o : Options) :
    (o.insert key value).get? key = some value :=
  Keyed.get?_insert_self key value o

@[simp] theorem Options.get?_insert_of_ne {key other : String} (h : other ≠ key) (value : Json)
    (o : Options) : (o.insert key value).get? other = o.get? other :=
  Keyed.get?_insert_of_ne h value o

namespace Schema

variable {s : Schema} {raw o : Options} {type : ParamType} {key : String} {v w : Json}

/-! ### Values of a type -/

/-- The values that a declared type stands for. -/
inductive IsOf : ParamType → Json → Prop
  | int (n : Json.Whole) : IsOf .int (.number (.whole n))
  | float (x : Float) (finite : x.isFinite = true) : IsOf .float (.number (.real x finite))
  /-- Text in which no tag is left. -/
  | text {t : String} (plain : ¬Text.HasTag t.toList) : IsOf .text (.string t)
  /-- A file or a data address may be any value. -/
  | raw {v : Json} (present : v.isNull = false) : IsOf .raw v
  | items (items : List Json) : IsOf .array (.array items)
  | members (members : List (String × Json)) : IsOf .array (.object members)

theorem IsOf.present (h : IsOf type v) : v.isNull = false := by
  cases h with
  | raw present => exact present
  | _ => rfl

/-- A value of the type is not changed. -/
theorem IsOf.coerce? (h : IsOf type v) : coerce? type v = some v := by
  cases h with
  | float x finite => exact dif_pos finite
  | text plain => exact congrArg (some ∘ Json.string) (Text.stripTags_of_not_hasTag plain)
  | _ => rfl

/-- Whole numbers of the signed 64-bit range are kept exactly. -/
theorem ofInt_of_fits {n : Int} (lower : -0x8000000000000000 ≤ n)
    (upper : n ≤ 0x7FFFFFFFFFFFFFFF) :
    ∃ k : Json.Whole, k.value = n ∧ Json.ofInt n = .number (.whole k) := by
  have fits : -0x8000000000000000 ≤ n ∧ n ≤ 0xFFFFFFFFFFFFFFFF := ⟨lower, by omega⟩
  exact ⟨⟨n, fits.1, fits.2⟩, rfl, by rw [Json.ofInt, Json.Whole.ofInt?, dif_pos fits]⟩

theorem isOf_ofInt {n : Int} (lower : -0x8000000000000000 ≤ n) (upper : n ≤ 0x7FFFFFFFFFFFFFFF) :
    IsOf .int (Json.ofInt n) := by
  obtain ⟨k, -, kept⟩ := ofInt_of_fits lower upper
  rw [kept]
  exact .int k

theorem clampInt64_range (n : Int) :
    -0x8000000000000000 ≤ clampInt64 n ∧ clampInt64 n ≤ 0x7FFFFFFFFFFFFFFF := by
  simp only [clampInt64]
  omega

theorem isOf_wholeOfFloat? {x : Float} (h : wholeOfFloat? x = some w) : IsOf .int w := by
  obtain ⟨n, -, rfl⟩ := Option.map_eq_some_iff.1 h
  exact isOf_ofInt (clampInt64_range n).1 (clampInt64_range n).2

theorem isOf_readInt64? {cs : List Char} (h : (Decimal.readInt64? cs).map Json.ofInt = some w) :
    IsOf .int w := by
  obtain ⟨n, read, rfl⟩ := Option.map_eq_some_iff.1 h
  obtain ⟨-, fits⟩ := Option.filter_eq_some_iff.1 read
  rw [Decimal.fitsInt64, Bool.and_eq_true, decide_eq_true_eq, decide_eq_true_eq] at fits
  exact isOf_ofInt fits.1 fits.2

theorem isOf_toInt? (h : toInt? v = some w) : IsOf .int w := by
  unfold toInt? at h
  split at h
  · cases h
    exact .int _
  · exact isOf_wholeOfFloat? h
  · exact isOf_readInt64? h
  · cases h

theorem isOf_toFloat? (h : toFloat? v = some w) : IsOf .float w := by
  unfold toFloat? at h
  dsimp only at h
  split at h
  · split at h
    · cases h
      exact .float _ _
    · cases h
  · cases h

/-- A number put into text opens no tag. -/
theorem isOf_chars (n : Json.Number) : IsOf .text (.string (String.ofList n.chars)) := by
  refine .text fun tag => ?_
  rw [String.toList_ofList] at tag
  exact absurd (Json.Number.isNumberChar_of_mem_chars tag.opens) (by decide)

theorem isOf_toText? (h : toText? v = some w) : IsOf .text w := by
  unfold toText? at h
  split at h
  · cases h
    exact .text (Text.not_hasTag_stripTags _)
  · cases h
    exact isOf_chars _
  · next b =>
    cases h
    refine .text fun tag => ?_
    have := tag.opens
    cases b <;> revert this <;> decide
  · cases h

/-- Coercion arrives at a value of the type. -/
theorem isOf_of_coerce? (present : v.isNull = false) (h : coerce? type v = some w) :
    IsOf type w := by
  cases type with
  | int => exact isOf_toInt? h
  | float => exact isOf_toFloat? h
  | text => exact isOf_toText? h
  | raw =>
    cases h
    exact .raw present
  | array =>
    unfold Schema.coerce? toArray? at h
    dsimp only at h
    split at h
    · cases h
      exact .items _
    · cases h
      exact .members _
    · cases h

/-! ### Options that have passed -/

/-- Every option is declared, and its value is of the declared type. -/
def Settled (s : Schema) (o : Options) : Prop :=
  ∀ e ∈ o, ∃ type, Keyed.get? e.1 s = some type ∧ IsOf type e.2

theorem settled_cons {e : String × Json} :
    Settled s (e :: o) ↔ (∃ type, Keyed.get? e.1 s = some type ∧ IsOf type e.2) ∧ Settled s o :=
  List.forall_mem_cons

/-- An option passes with the others: it is declared, and nothing at all or brought to its type. -/
theorem validate_cons_eq_ok : s.validate ((key, v) :: raw) = .ok o ↔
    ∃ type, Keyed.get? key s = some type ∧
      (v.isNull = true ∧ s.validate raw = .ok o ∨
        v.isNull = false ∧ ∃ w others, coerce? type v = some w ∧ s.validate raw = .ok others ∧
          o = (key, w) :: others) := by
  rw [validate]
  cases declared : Keyed.get? key s with
  | none => simp
  | some type =>
    cases absent : v.isNull with
    | true => simp
    | false =>
      cases coerced : coerce? type v with
      | none => simp [coerce, coerced]
      | some w => cases others : s.validate raw <;> simp [coerce, coerced, Except.map, eq_comm]

/-- What has passed is what was brought to its type of the values that are not null. -/
theorem mem_of_validate (passed : s.validate raw = .ok o) : (key, w) ∈ o ↔
    ∃ v type, (key, v) ∈ raw ∧ v.isNull = false ∧ Keyed.get? key s = some type ∧
      coerce? type v = some w := by
  induction raw generalizing o with
  | nil =>
    cases passed
    simp
  | cons e rest ih =>
    obtain ⟨type, declared, ⟨null, behind⟩ | ⟨present, w', others, coerced, behind, rfl⟩⟩ :=
      validate_cons_eq_ok.1 passed
    · rw [ih behind]
      constructor
      · rintro ⟨v, type', member, rest⟩
        exact ⟨v, type', List.mem_cons_of_mem _ member, rest⟩
      · rintro ⟨v, type', member, present, rest⟩
        rcases List.mem_cons.1 member with rfl | member
        · simp [null] at present
        · exact ⟨v, type', member, present, rest⟩
    · rw [List.mem_cons, ih behind]
      constructor
      · rintro (same | ⟨v, type', member, rest⟩)
        · cases same
          exact ⟨e.2, type, List.mem_cons_self, present, declared, coerced⟩
        · exact ⟨v, type', List.mem_cons_of_mem _ member, rest⟩
      · rintro ⟨v, type', member, present', declared', coerced'⟩
        rcases List.mem_cons.1 member with rfl | member
        · cases declared.symm.trans declared'
          cases coerced.symm.trans coerced'
          exact .inl rfl
        · exact .inr ⟨v, type', member, present', declared', coerced'⟩

/-- What passes is settled. -/
theorem settled_of_validate (h : s.validate raw = .ok o) : Settled s o := by
  intro e he
  obtain ⟨v, type, -, present, declared, coerced⟩ := (mem_of_validate h).1 he
  exact ⟨type, declared, isOf_of_coerce? present coerced⟩

/-- Settled options pass as they are. -/
theorem Settled.validate (h : Settled s o) : s.validate o = .ok o := by
  induction o with
  | nil => rfl
  | cons e rest ih =>
    obtain ⟨key, v⟩ := e
    obtain ⟨⟨type, declared, value⟩, others⟩ := settled_cons.1 h
    unfold Schema.validate
    rw [declared]
    dsimp only
    rw [value.present, if_neg Bool.false_ne_true, coerce, value.coerce?, ih others]
    rfl

/-- A value of the declared type may be put in. -/
theorem Settled.insert (h : Settled s o) (declared : Keyed.get? key s = some type)
    (value : IsOf type v) : Settled s (o.insert key v) := fun e he => by
  rcases Keyed.mem_insert he with rfl | he
  · exact ⟨type, declared, value⟩
  · exact h e he

end Schema

end PromptBroker
