import PromptBroker.Proofs.Options.Coercion

/-!
# What passes a schema

Raw options pass a schema exactly if each of them does for itself: its key is declared,
and its value is null or can be brought to the declared type (`Accepts`). What has passed
holds an option for every raw value that is not null, brought to its type, and no others
(`Passed`). Otherwise the options are refused for the first one that does not pass, in
the order of their keys (`FirstOffence`).

The checks go through the entries of a list. That the list is a map, with ascending keys,
is needed only to say the same of keys and the values under them.
-/

namespace PromptBroker

namespace Keyed

variable {α : Type} {entries : Keyed α} {key : String} {value : α}

/-- With ascending keys there is one entry for each. -/
theorem get?_eq_some_iff_mem (ascending : Ascending entries) :
    get? key entries = some value ↔ (key, value) ∈ entries := by
  constructor
  · intro found
    obtain ⟨before, behind, rfl, -⟩ := List.lookup_eq_some_iff.1 found
    simp
  · intro member
    obtain ⟨before, behind, rfl⟩ := List.append_of_mem member
    refine List.lookup_eq_some_iff.2 ⟨before, behind, rfl, fun e he => bne_iff_ne.2 ?_⟩
    rintro rfl
    have earlier := (List.pairwise_append.1 ascending).2.2 e he _ List.mem_cons_self
    simp [Text.isBefore, Text.precedes_irrefl] at earlier

/-- Keys ascend if they are some of the keys that do. -/
theorem Ascending.of_sublist {β : Type} {others : Keyed β} (ascending : Ascending entries)
    (keys : (others.map Prod.fst).Sublist (entries.map Prod.fst)) : Ascending others := by
  have ordered : (entries.map Prod.fst).Pairwise fun a b => Text.isBefore a b :=
    List.pairwise_map.2 ascending
  exact List.pairwise_map.1 (ordered.sublist keys)

end Keyed

namespace Schema

variable {s : Schema} {raw o : Options} {key : String} {v w : Json} {type : ParamType}
  {f : Failure}

/-! ### One option -/

/-- The option is declared, and its value is null or brought to something. -/
def Accepts (s : Schema) (key : String) (v : Json) : Prop :=
  ∃ type, Keyed.get? key s = some type ∧ (v.isNull = false → ∃ w, Brings type v w)

/-- What an option is refused for. -/
inductive Offends (s : Schema) (key : String) (v : Json) : Failure → Prop
  | undeclared (unknown : Keyed.get? key s = none) :
      Offends s key v (.invalidParameter key "option is not accepted by this purpose")
  | untyped {type : ParamType} (declared : Keyed.get? key s = some type)
      (present : v.isNull = false) (refused : ∀ w, ¬Brings type v w) :
      Offends s key v
        (.invalidParameter key s!"expected {type.description}, got {v.render}")

/-- Files and structures stay as they are. -/
theorem Brings.eq_of_kept (h : Brings type v w) (kept : type = .raw ∨ type = .array) : w = v := by
  cases h <;> simp at kept ⊢

/-! ### Entry by entry -/

/-- The first option offends, or it passes and the others are to blame. -/
theorem validate_cons_eq_error : s.validate ((key, v) :: raw) = .error f ↔
    Offends s key v f ∨ Accepts s key v ∧ s.validate raw = .error f := by
  constructor
  · intro failed
    rw [validate] at failed
    split at failed
    · next unknown =>
      cases failed
      exact .inl (.undeclared unknown)
    next type declared =>
    by_cases null : v.isNull = true
    · rw [if_pos null] at failed
      exact .inr ⟨⟨type, declared, fun present => by simp [null] at present⟩, failed⟩
    · have present : v.isNull = false := by simpa using null
      rw [if_neg null] at failed
      cases outcome : coerce key type v with
      | error e =>
        obtain ⟨refused, rfl⟩ := coerce_eq_error.1 outcome
        rw [outcome] at failed
        cases failed
        exact .inl (.untyped declared present refused)
      | ok w =>
        have accepted : Accepts s key v := ⟨type, declared, fun _ => ⟨w, coerce_eq_ok.1 outcome⟩⟩
        cases others : s.validate raw with
        | error e =>
          rw [outcome, others] at failed
          cases failed
          exact .inr ⟨accepted, rfl⟩
        | ok o =>
          rw [outcome, others] at failed
          cases failed
  · rintro (offence | ⟨⟨type, declared, brought⟩, failed⟩)
    · cases offence with
      | undeclared unknown => simp [validate, unknown]
      | untyped declared present refused =>
        simp [validate, declared, present, coerce_eq_error.2 ⟨refused, rfl⟩]
    · cases present : v.isNull with
      | true => simp [validate, declared, present, failed]
      | false =>
        obtain ⟨w, brings⟩ := brought present
        simp [validate, declared, present, coerce_eq_ok.2 brings, failed, Except.map]

/-- Options pass if each of them does for itself. -/
theorem exists_validate_iff :
    (∃ o, s.validate raw = .ok o) ↔ ∀ e ∈ raw, Accepts s e.1 e.2 := by
  induction raw with
  | nil => simp [validate]
  | cons e rest ih =>
    rw [List.forall_mem_cons, ← ih]
    constructor
    · rintro ⟨o, passed⟩
      obtain ⟨type, declared, ⟨null, passed⟩ | ⟨-, w, others, coerced, passed, -⟩⟩ :=
        validate_cons_eq_ok.1 passed
      · exact ⟨⟨type, declared, fun present => by simp [null] at present⟩, o, passed⟩
      · exact ⟨⟨type, declared, fun _ => ⟨w, coerce?_eq_some.1 coerced⟩⟩, others, passed⟩
    · rintro ⟨⟨type, declared, brought⟩, others, passed⟩
      cases present : e.2.isNull with
      | true => exact ⟨others, validate_cons_eq_ok.2 ⟨type, declared, .inl ⟨present, passed⟩⟩⟩
      | false =>
        obtain ⟨w, brings⟩ := brought present
        exact ⟨_, validate_cons_eq_ok.2 ⟨type, declared,
          .inr ⟨present, w, others, coerce?_eq_some.2 brings, passed, rfl⟩⟩⟩

/-- What has passed holds the values that are not null, each brought to its type. -/
theorem mem_validate_iff (passed : s.validate raw = .ok o) : (key, w) ∈ o ↔
    ∃ v type, (key, v) ∈ raw ∧ v.isNull = false ∧ Keyed.get? key s = some type ∧
      Brings type v w := by
  simp only [mem_of_validate passed, coerce?_eq_some]

/-- No key is added, and none changes its place. -/
theorem keys_sublist_of_validate (passed : s.validate raw = .ok o) :
    (o.map Prod.fst).Sublist (raw.map Prod.fst) := by
  induction raw generalizing o with
  | nil =>
    cases passed
    exact .slnil
  | cons e rest ih =>
    obtain ⟨type, -, ⟨-, behind⟩ | ⟨-, w, others, -, behind, rfl⟩⟩ := validate_cons_eq_ok.1 passed
    · exact (ih behind).cons e.1
    · exact (ih behind).cons_cons e.1

/-- Options are refused for the first that does not pass. -/
theorem validate_eq_error_iff : s.validate raw = .error f ↔
    ∃ before key v behind, raw = before ++ (key, v) :: behind ∧
      (∀ e ∈ before, Accepts s e.1 e.2) ∧ Offends s key v f := by
  induction raw with
  | nil => simp [validate]
  | cons e rest ih =>
    rw [validate_cons_eq_error, ih]
    constructor
    · rintro (offence | ⟨accepted, before, key, v, behind, rfl, passed, offence⟩)
      · exact ⟨[], e.1, e.2, rest, rfl, List.forall_mem_nil _, offence⟩
      · exact ⟨e :: before, key, v, behind, rfl, List.forall_mem_cons.2 ⟨accepted, passed⟩, offence⟩
    · rintro ⟨_ | ⟨e', before⟩, key, v, behind, same, passed, offence⟩
      · cases same
        exact .inl offence
      · cases same
        obtain ⟨accepted, passed⟩ := List.forall_mem_cons.1 passed
        exact .inr ⟨accepted, before, key, v, behind, rfl, passed, offence⟩

/-! ### Key by key -/

/-- What is left of raw options that pass. -/
structure Passed (s : Schema) (raw o : Options) : Prop where
  ascending : Keyed.Ascending o
  keys : ∀ key, (∃ w, o.get? key = some w) ↔ ∃ v, raw.get? key = some v ∧ v.isNull = false
  values : ∀ key v w, raw.get? key = some v → o.get? key = some w →
    ∃ type, Keyed.get? key s = some type ∧ Brings type v w ∧ IsOf type w ∧
      (type = .raw ∨ type = .array → w = v)

/-- The first option by key that does not pass, and what it is refused for. -/
def FirstOffence (s : Schema) (raw : Options) (f : Failure) : Prop :=
  ∃ key v, raw.get? key = some v ∧ Offends s key v f ∧
    ∀ other v', raw.get? other = some v' → Text.isBefore other key = true → Accepts s other v'

theorem passed_of_validate (ascending : Keyed.Ascending raw) (h : s.validate raw = .ok o) :
    Passed s raw o := by
  have order : Keyed.Ascending o := ascending.of_sublist (keys_sublist_of_validate h)
  have sent {key v} : raw.get? key = some v ↔ (key, v) ∈ raw :=
    Keyed.get?_eq_some_iff_mem ascending
  have left {key w} : o.get? key = some w ↔ (key, w) ∈ o := Keyed.get?_eq_some_iff_mem order
  refine ⟨order, fun key => ⟨?_, ?_⟩, fun key v w given present => ?_⟩
  · rintro ⟨w, present⟩
    obtain ⟨v, type, member, present, -⟩ := (mem_validate_iff h).1 (left.1 present)
    exact ⟨v, sent.2 member, present⟩
  · rintro ⟨v, given, present⟩
    obtain ⟨type, declared, brought⟩ := exists_validate_iff.1 ⟨o, h⟩ _ (sent.1 given)
    obtain ⟨w, brings⟩ := brought present
    exact ⟨w, left.2 ((mem_validate_iff h).2 ⟨v, type, sent.1 given, present, declared, brings⟩)⟩
  · obtain ⟨v', type, member, present, declared, brings⟩ := (mem_validate_iff h).1 (left.1 present)
    cases given.symm.trans (sent.2 member)
    exact ⟨type, declared, brings, isOf_of_coerce? present (coerce?_eq_some.2 brings),
      brings.eq_of_kept⟩

theorem firstOffence_iff (ascending : Keyed.Ascending raw) :
    s.validate raw = .error f ↔ FirstOffence s raw f := by
  have sent {key v} : raw.get? key = some v ↔ (key, v) ∈ raw :=
    Keyed.get?_eq_some_iff_mem ascending
  rw [validate_eq_error_iff]
  constructor
  · rintro ⟨before, key, v, behind, rfl, passed, offence⟩
    refine ⟨key, v, sent.2 (by simp), offence, fun other v' given earlier => ?_⟩
    have later : ∀ e ∈ (key, v) :: behind, ¬Text.isBefore e.1 key = true := by
      intro e he before
      have irrefl : ¬Text.isBefore key key = true := by
        simp [Text.isBefore, Text.precedes_irrefl]
      rcases List.mem_cons.1 he with rfl | he
      · exact irrefl before
      · have order := (List.pairwise_append.1 ascending).2.1
        exact irrefl (Text.precedes_trans ((List.pairwise_cons.1 order).1 e he) before)
    rcases List.mem_append.1 (sent.1 given) with member | member
    · exact passed _ member
    · exact absurd earlier (later _ member)
  · rintro ⟨key, v, given, offence, passed⟩
    obtain ⟨before, behind, rfl⟩ := List.append_of_mem (sent.1 given)
    refine ⟨before, key, v, behind, rfl, fun e he => ?_, offence⟩
    have earlier := (List.pairwise_append.1 ascending).2.2 e he _ List.mem_cons_self
    exact passed e.1 e.2 (sent.2 (List.mem_append_left _ he)) earlier

/-- Validation is exact. It succeeds if every key is declared and every value that is not null can
be brought to its type, and then nothing but these values is left, brought to their types.
Otherwise the first offending key is to blame. -/
theorem validate_exact (s : Schema) {raw : Options} (ascending : Keyed.Ascending raw) :
    ((∃ o, s.validate raw = .ok o) ↔ ∀ key v, raw.get? key = some v → Accepts s key v) ∧
    (∀ o, s.validate raw = .ok o → Passed s raw o) ∧
    ∀ f, s.validate raw = .error f ↔ FirstOffence s raw f := by
  refine ⟨?_, fun o => passed_of_validate ascending, fun f => firstOffence_iff ascending⟩
  rw [exists_validate_iff]
  constructor
  · intro accepted key v given
    exact accepted (key, v) ((Keyed.get?_eq_some_iff_mem ascending).1 given)
  · intro accepted e he
    exact accepted e.1 e.2 ((Keyed.get?_eq_some_iff_mem ascending).2 he)

/-- A float without fraction, a text with a tag and a null value. -/
theorem passed_note : Passed [("count", .int), ("label", .text), ("note", .array)]
    [("count", Json.ofFloat 4), ("label", .string "<b>x"), ("note", .null)]
    [("count", Json.ofInt 4), ("label", .string "x")] := by
  refine (validate_exact _ (by simp [Keyed.Ascending]; decide)).2.1 _ ?_
  with_unfolding_all rfl

end Schema

end PromptBroker
