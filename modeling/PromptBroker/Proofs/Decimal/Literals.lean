import Mathlib.Data.Nat.Digits.Defs
import Mathlib.Tactic.Ring
import PromptBroker.Decimal.Literal
import PromptBroker.Proofs.Json.Grammar

/-!
# The grammar of literals

Which texts are whole literals and float literals is said here as a relation between the
characters and what they stand for, apart from any reader; a run of digits stands for the
number with these digits in base ten. The readers take these texts and no others, and
give them these meanings (`readInt64?_eq_some`, `readFloat_eq_ok`).
-/

namespace PromptBroker.Decimal

open Json (IsDigits)

variable {cs rest : List Char} {n : Int}

/-! ### Digits and signs -/

/-- The number that a run of digits writes, the first digit being the most significant. -/
def writtenNat (ds : List Char) : Nat :=
  Nat.ofDigits 10 (ds.reverse.map fun c => c.toNat - '0'.toNat)

theorem writtenNat_cons (c : Char) (ds : List Char) :
    writtenNat (c :: ds) = (c.toNat - '0'.toNat) * 10 ^ ds.length + writtenNat ds := by
  simp [writtenNat, Nat.ofDigits_append, Nat.ofDigits_singleton]
  ring

theorem digitsValue_eq (start : Nat) (ds : List Char) :
    digitsValue start ds = start * 10 ^ ds.length + writtenNat ds := by
  induction ds generalizing start with
  | nil => simp [digitsValue, writtenNat]
  | cons d ds ih =>
    have step : digitsValue start (d :: ds) = digitsValue (10 * start + (d.toNat - 48)) ds := rfl
    have zero : '0'.toNat = 48 := rfl
    rw [step, ih, writtenNat_cons, List.length_cons, pow_succ, zero]
    ring

@[simp] theorem digitsValue_zero (ds : List Char) : digitsValue 0 ds = writtenNat ds := by
  simp [digitsValue_eq]

theorem readNat?_eq_some {k : Nat} :
    readNat? cs = some k ↔ IsDigits cs ∧ writtenNat cs = k := by
  have digits : (cs ≠ [] ∧ cs.all Char.isDigit) ↔ IsDigits cs := by simp [IsDigits]
  simp only [readNat?, digitsValue_zero]
  split
  · next h => simp [digits.1 h]
  · next h => simp [mt digits.2 h]

/-- There is a sign, or none. -/
theorem splitSign_cases (cs : List Char) :
    (∃ rest, cs = '-' :: rest ∧ splitSign cs = (true, rest)) ∨
    (∃ rest, cs = '+' :: rest ∧ splitSign cs = (false, rest)) ∨
    splitSign cs = (false, cs) := by
  unfold splitSign
  split <;> simp

theorem splitSign_of_head {c : Char} (plus : c ≠ '+') (minus : c ≠ '-') (rest : List Char) :
    splitSign (c :: rest) = (false, c :: rest) := by
  unfold splitSign
  split <;> simp_all

/-- A digit is no sign. -/
theorem splitSign_of_digits (h : IsDigits cs) : splitSign cs = (false, cs) := by
  obtain ⟨ne, digits⟩ := h
  cases cs with
  | nil => exact absurd rfl ne
  | cons c rest =>
    have digit := digits c List.mem_cons_self
    refine splitSign_of_head ?_ ?_ rest <;> rintro rfl <;> cases digit

/-! ### Whole literals -/

/-- A whole literal, and its number. -/
inductive Numeral : List Char → Int → Prop
  | unsigned {ds : List Char} (digits : IsDigits ds) : Numeral ds (writtenNat ds)
  | plus {ds : List Char} (digits : IsDigits ds) : Numeral ('+' :: ds) (writtenNat ds)
  | minus {ds : List Char} (digits : IsDigits ds) : Numeral ('-' :: ds) (-writtenNat ds)

/-- The number behind a sign. -/
theorem map_readNat?_eq_some {negative : Bool} :
    ((readNat? rest).map fun k : Nat => if negative then -(k : Int) else k) = some n ↔
      IsDigits rest ∧ (if negative then -(writtenNat rest : Int) else writtenNat rest) = n := by
  simp only [Option.map_eq_some_iff, readNat?_eq_some]
  constructor
  · rintro ⟨k, ⟨digits, rfl⟩, value⟩
    exact ⟨digits, value⟩
  · rintro ⟨digits, value⟩
    exact ⟨_, ⟨digits, rfl⟩, value⟩

theorem readInt?_eq (cs : List Char) : readInt? cs =
    (readNat? (splitSign cs).2).map fun k : Nat => if (splitSign cs).1 then -(k : Int) else k := by
  rcases h : splitSign cs with ⟨negative, rest⟩
  rw [readInt?, h]
  dsimp only
  cases readNat? rest <;> rfl

theorem readInt?_eq_some : readInt? cs = some n ↔ Numeral cs n := by
  rw [readInt?_eq, map_readNat?_eq_some]
  constructor
  · rintro ⟨digits, rfl⟩
    rcases splitSign_cases cs with ⟨rest, rfl, h⟩ | ⟨rest, rfl, h⟩ | h <;> rw [h] at digits ⊢
    · exact .minus digits
    · exact .plus digits
    · exact .unsigned digits
  · rintro (digits | digits | digits)
    · simp [splitSign_of_digits digits, digits]
    · exact ⟨digits, rfl⟩
    · exact ⟨digits, rfl⟩

/-- A whole literal is read if its number fits a signed 64-bit word. -/
theorem readInt64?_eq_some : readInt64? cs = some n ↔
    Numeral cs n ∧ -0x8000000000000000 ≤ n ∧ n ≤ 0x7FFFFFFFFFFFFFFF := by
  simp [readInt64?, Option.filter_eq_some_iff, readInt?_eq_some, fitsInt64]

/-! ### Float literals -/

/-- The exponent of a float literal, if there is one. -/
inductive Exponent : List Char → Int → Prop
  | absent : Exponent [] 0
  | marked {c : Char} {cs : List Char} {e : Int} (mark : c = 'e' ∨ c = 'E')
      (numeral : Numeral cs e) : Exponent (c :: cs) e

/-- A float literal without its sign, and what it stands for. -/
inductive Unsigned : List Char → Magnitude → Prop
  | nan {cs : List Char} (word : cs.map Char.toLower = "nan".toList) : Unsigned cs .nan
  | infinite {cs : List Char}
      (word : cs.map Char.toLower = "inf".toList ∨ cs.map Char.toLower = "infinity".toList) :
      Unsigned cs .infinite
  | whole {ds exponent : List Char} {e : Int} (digits : IsDigits ds)
      (scaled : Exponent exponent e) :
      Unsigned (ds ++ exponent) (.finite (writtenNat ds) e)
  /-- With a point, there may be digits on one side of it only. -/
  | pointed {ds fs exponent : List Char} {e : Int} (digits : IsDigits (ds ++ fs))
      (scaled : Exponent exponent e) :
      Unsigned (ds ++ '.' :: (fs ++ exponent)) (.finite (writtenNat (ds ++ fs)) (e - fs.length))

/-- A float literal: whether it is negative, and its magnitude. -/
inductive FloatLiteral : List Char → Bool → Magnitude → Prop
  | unsigned {cs : List Char} {m : Magnitude} (h : Unsigned cs m) : FloatLiteral cs false m
  | plus {cs : List Char} {m : Magnitude} (h : Unsigned cs m) : FloatLiteral ('+' :: cs) false m
  | minus {cs : List Char} {m : Magnitude} (h : Unsigned cs m) : FloatLiteral ('-' :: cs) true m

variable {e : Int} {m : Magnitude}

theorem readExponent?_eq_some : readExponent? cs = some e ↔ Exponent cs e := by
  cases cs with
  | nil =>
    constructor
    · rintro ⟨⟩
      exact .absent
    · rintro ⟨⟩
      rfl
  | cons c rest =>
    have read : readExponent? (c :: rest) =
        if c = 'e' ∨ c = 'E' then readInt? rest else none := rfl
    rw [read]
    split
    · next mark =>
      rw [readInt?_eq_some]
      constructor
      · exact .marked mark
      · rintro (_ | ⟨-, numeral⟩)
        exact numeral
    · next unmarked =>
      refine iff_of_false nofun ?_
      rintro (_ | ⟨mark, -⟩)
      exact unmarked mark

/-- What follows a run of digits does not continue it. -/
theorem Exponent.takeWhile_eq (h : Exponent cs e) : cs.takeWhile Char.isDigit = [] := by
  rcases h with _ | ⟨rfl | rfl, -⟩ <;> rfl

theorem Exponent.dropWhile_eq (h : Exponent cs e) : cs.dropWhile Char.isDigit = cs := by
  rcases h with _ | ⟨rfl | rfl, -⟩ <;> rfl

theorem unsigned_of_readDecimal? (read : readDecimal? cs = some m) : Unsigned cs m := by
  have digits (l : List Char) : ∀ c ∈ l.takeWhile Char.isDigit, c.isDigit = true :=
    fun c hc => List.all_eq_true.1 List.all_takeWhile c hc
  simp only [readDecimal?, digitsValue_zero] at read
  split at read
  · next rest point =>
    split at read
    · cases read
    next some =>
    obtain ⟨e, scaled, rfl⟩ := Option.map_eq_some_iff.1 read
    have pointed := Unsigned.pointed
      ⟨by simpa using some, List.forall_mem_append.2 ⟨digits cs, digits rest⟩⟩
      (readExponent?_eq_some.1 scaled)
    rwa [List.takeWhile_append_dropWhile, ← point, List.takeWhile_append_dropWhile] at pointed
  · split at read
    · cases read
    next some =>
    obtain ⟨e, scaled, rfl⟩ := Option.map_eq_some_iff.1 read
    have whole := Unsigned.whole ⟨some, digits cs⟩ (readExponent?_eq_some.1 scaled)
    rwa [List.takeWhile_append_dropWhile] at whole

theorem readDecimal?_whole {ds exponent : List Char} (digits : IsDigits ds)
    (scaled : Exponent exponent e) :
    readDecimal? (ds ++ exponent) = some (.finite (writtenNat ds) e) := by
  have taken : (ds ++ exponent).takeWhile Char.isDigit = ds := by
    rw [List.takeWhile_append_of_pos digits.2, scaled.takeWhile_eq, List.append_nil]
  have left : (ds ++ exponent).dropWhile Char.isDigit = exponent := by
    rw [List.dropWhile_append_of_pos digits.2, scaled.dropWhile_eq]
  simp only [readDecimal?, taken, left, digitsValue_zero]
  split
  · rcases scaled with _ | ⟨mark, -⟩
    simp at mark
  · rw [if_neg digits.1, readExponent?_eq_some.2 scaled]
    rfl

theorem readDecimal?_pointed {ds fs exponent : List Char} (digits : IsDigits (ds ++ fs))
    (scaled : Exponent exponent e) : readDecimal? (ds ++ '.' :: (fs ++ exponent)) =
      some (.finite (writtenNat (ds ++ fs)) (e - fs.length)) := by
  obtain ⟨ne, digits⟩ := digits
  obtain ⟨front, behind⟩ := List.forall_mem_append.1 digits
  have taken : (ds ++ '.' :: (fs ++ exponent)).takeWhile Char.isDigit = ds := by
    rw [List.takeWhile_append_of_pos front]
    simp
  have left : (ds ++ '.' :: (fs ++ exponent)).dropWhile Char.isDigit = '.' :: (fs ++ exponent) := by
    rw [List.dropWhile_append_of_pos front]
    simp
  have taken' : (fs ++ exponent).takeWhile Char.isDigit = fs := by
    rw [List.takeWhile_append_of_pos behind, scaled.takeWhile_eq, List.append_nil]
  have left' : (fs ++ exponent).dropWhile Char.isDigit = exponent := by
    rw [List.dropWhile_append_of_pos behind, scaled.dropWhile_eq]
  have some : ¬(ds = [] ∧ fs = []) := by simpa using ne
  simp only [readDecimal?, taken, left, taken', left', if_neg some, readExponent?_eq_some.2 scaled,
    digitsValue_zero, Option.map_some]

theorem toLower_of_isDigit {c : Char} (h : c.isDigit = true) : c.toLower = c := by
  unfold Char.toLower
  split
  · next upper =>
    simp only [Char.isDigit, Bool.and_eq_true, decide_eq_true_eq, UInt32.le_iff_toNat_le] at h upper
    simp at h upper
    omega
  · rfl

/-- A decimal is none of the words. -/
theorem readMagnitude?_of_head {c : Char} (first : c.isDigit = true ∨ c = '.') :
    readMagnitude? (c :: rest) = readDecimal? (c :: rest) := by
  have same : c.toLower = c := by
    rcases first with digit | rfl
    · exact toLower_of_isDigit digit
    · rfl
  have lowered : String.ofList ((c :: rest).map Char.toLower) =
      String.ofList (c :: rest.map Char.toLower) := by rw [List.map_cons, same]
  have other {word : String} {d : Char} {ds : List Char} (begins : word.toList = d :: ds)
      (letter : d.isDigit = false ∧ d ≠ '.') :
      String.ofList ((c :: rest).map Char.toLower) ≠ word := by
    rintro rfl
    rw [lowered, String.toList_ofList] at begins
    obtain ⟨rfl, -⟩ := List.cons.inj begins
    simp_all
  unfold readMagnitude?
  split
  · next word =>
    exact absurd word (other (show "nan".toList = ['n', 'a', 'n'] from rfl) (by decide))
  · next word =>
    exact absurd word (other (show "inf".toList = ['i', 'n', 'f'] from rfl) (by decide))
  · next word =>
    have begins : "infinity".toList = ['i', 'n', 'f', 'i', 'n', 'i', 't', 'y'] := rfl
    exact absurd word (other begins (by decide))
  · rfl

theorem ofList_eq_iff {cs : List Char} {word : String} :
    String.ofList cs = word ↔ cs = word.toList := by
  constructor
  · rintro rfl
    exact String.toList_ofList.symm
  · rintro rfl
    exact String.ofList_toList

theorem readMagnitude?_eq_some : readMagnitude? cs = some m ↔ Unsigned cs m := by
  constructor
  · intro read
    unfold readMagnitude? at read
    split at read
    · next word => cases read; exact .nan (ofList_eq_iff.1 word)
    · next word => cases read; exact .infinite (.inl (ofList_eq_iff.1 word))
    · next word => cases read; exact .infinite (.inr (ofList_eq_iff.1 word))
    · exact unsigned_of_readDecimal? read
  · intro h
    cases h with
    | nan word => simp [readMagnitude?, ofList_eq_iff.2 word]
    | infinite word => rcases word with word | word <;> simp [readMagnitude?, ofList_eq_iff.2 word]
    | @whole ds exponent e digits scaled =>
      have read := readDecimal?_whole digits scaled
      cases ds with
      | nil => exact absurd rfl digits.1
      | cons d ds =>
        exact (readMagnitude?_of_head (.inl (digits.2 d List.mem_cons_self))).trans read
    | @pointed ds fs exponent e digits scaled =>
      have read := readDecimal?_pointed digits scaled
      cases ds with
      | nil => exact (readMagnitude?_of_head (.inr rfl)).trans read
      | cons d ds =>
        exact (readMagnitude?_of_head (.inl (digits.2 d List.mem_cons_self))).trans read

/-- A literal without sign is not empty, and its first character is no sign. -/
theorem Unsigned.exists_cons (h : Unsigned cs m) :
    ∃ c rest, cs = c :: rest ∧ c ≠ '+' ∧ c ≠ '-' := by
  have unlike {c : Char} (digit : c.isDigit = true) : c ≠ '+' ∧ c ≠ '-' := by
    constructor <;> rintro rfl <;> cases digit
  have lowered {word : List Char} (same : cs.map Char.toLower = word)
      (first : ∃ d ds, word = d :: ds ∧ d ≠ '+' ∧ d ≠ '-') :
      ∃ c rest, cs = c :: rest ∧ c ≠ '+' ∧ c ≠ '-' := by
    obtain ⟨d, ds, rfl, plus, minus⟩ := first
    obtain ⟨c, rest, rfl, rfl, -⟩ := List.map_eq_cons_iff.1 same
    refine ⟨c, rest, rfl, ?_, ?_⟩
    · rintro rfl
      exact plus rfl
    · rintro rfl
      exact minus rfl
  cases h with
  | nan word => exact lowered word ⟨'n', ['a', 'n'], rfl, by decide⟩
  | infinite word =>
    rcases word with word | word
    · exact lowered word ⟨'i', ['n', 'f'], rfl, by decide⟩
    · exact lowered word ⟨'i', ['n', 'f', 'i', 'n', 'i', 't', 'y'], rfl, by decide⟩
  | @whole ds exponent e digits scaled =>
    cases ds with
    | nil => exact absurd rfl digits.1
    | cons d ds => exact ⟨d, _, rfl, unlike (digits.2 d List.mem_cons_self)⟩
  | @pointed ds fs exponent e digits scaled =>
    cases ds with
    | nil => exact ⟨'.', _, rfl, by decide⟩
    | cons d ds => exact ⟨d, _, rfl, unlike (digits.2 d List.mem_cons_self)⟩

theorem FloatLiteral.ne_nil {negative : Bool} (h : FloatLiteral cs negative m) : cs ≠ [] := by
  cases h with
  | plus | minus => simp
  | unsigned h =>
    obtain ⟨c, rest, rfl, -⟩ := h.exists_cons
    simp

/-- The reader of float literals takes the texts of the grammar and no others. -/
theorem readFloat_eq_ok {negative : Bool} :
    readFloat cs = .ok (negative, m) ↔ FloatLiteral cs negative m := by
  have read (ne : cs ≠ []) : readFloat cs = .ok (negative, m) ↔
      (splitSign cs).1 = negative ∧ Unsigned (splitSign cs).2 m := by
    rcases split : splitSign cs with ⟨sign, rest⟩
    simp only [readFloat, if_neg ne, split, ← readMagnitude?_eq_some]
    cases readMagnitude? rest <;> simp
  constructor
  · intro ok
    have ne : cs ≠ [] := by
      rintro rfl
      cases ok
    obtain ⟨rfl, h⟩ := (read ne).1 ok
    rcases splitSign_cases cs with ⟨rest, rfl, split⟩ | ⟨rest, rfl, split⟩ | split <;>
      rw [split] at h ⊢
    · exact .minus h
    · exact .plus h
    · exact .unsigned h
  · intro literal
    cases literal with
    | plus h => exact (read nofun).2 ⟨rfl, h⟩
    | minus h => exact (read nofun).2 ⟨rfl, h⟩
    | unsigned h =>
      obtain ⟨c, rest, rfl, plus, minus⟩ := h.exists_cons
      refine (read nofun).2 ?_
      rw [splitSign_of_head plus minus]
      exact ⟨rfl, h⟩

/-- What is made of a float literal. -/
theorem map_readFloat_eq_ok {α : Type} {f : Bool × Magnitude → α} {a : α} :
    (readFloat cs).map f = .ok a ↔
      ∃ negative m, FloatLiteral cs negative m ∧ f (negative, m) = a := by
  cases h : readFloat cs with
  | error e => simp [Except.map, ← readFloat_eq_ok, h]
  | ok r =>
    obtain ⟨negative, m⟩ := r
    simp [Except.map, ← readFloat_eq_ok, h]

/-- What a text is read as, in double precision. -/
theorem readFloat64_eq_ok {x : Float} : readFloat64 cs = .ok x ↔
    ∃ negative m, FloatLiteral cs negative m ∧ m.toFloat negative = x :=
  map_readFloat_eq_ok

/-- What a text is read as, in single precision. -/
theorem readFloat32_eq_ok {x : Float32} : readFloat32 cs = .ok x ↔
    ∃ negative m, FloatLiteral cs negative m ∧ m.toFloat32 negative = x :=
  map_readFloat_eq_ok

end PromptBroker.Decimal
