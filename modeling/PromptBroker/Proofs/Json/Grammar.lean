import PromptBroker.Json.Reader

/-!
# The grammar of JSON texts

`Written` is the grammar of RFC 8259 as a relation on lists of characters, apart from
any reader: which texts are values, objects, the items of an array, the members of an
object. It sets no limit to nesting or to the size of numbers, and an escape may be half
of a surrogate pair.

The reader accepts only texts of the grammar (`written_of_readValue`). It takes its
text from the front, so that each lemma says which piece was taken and what is left.
-/

namespace PromptBroker.Json

/-! ### Numbers -/

/-- A run of digits, at least one. -/
def IsDigits (cs : List Char) : Prop := cs ≠ [] ∧ ∀ c ∈ cs, c.isDigit = true

/-- The integer part of a number. -/
inductive IsWhole : List Char → Prop
  /-- A leading zero stands alone. -/
  | zero : IsWhole ['0']
  | digits {c cs} (first : c ≠ '0') (digits : IsDigits (c :: cs)) : IsWhole (c :: cs)

/-- The part behind the point, if there is one. -/
inductive IsFraction : List Char → Prop
  | absent : IsFraction []
  | digits {cs} (digits : IsDigits cs) : IsFraction ('.' :: cs)

/-- The exponent, if there is one. -/
inductive IsExponent : List Char → Prop
  | absent : IsExponent []
  | digits {e sign cs} (mark : e ∈ ['e', 'E']) (signed : sign ∈ [[], ['+'], ['-']])
      (digits : IsDigits cs) : IsExponent (e :: (sign ++ cs))

/-- A number. -/
inductive IsNumber : List Char → Prop
  | intro {sign whole fraction exponent} (signed : sign ∈ [[], ['-']]) (hwhole : IsWhole whole)
      (hfraction : IsFraction fraction) (hexponent : IsExponent exponent) :
      IsNumber (sign ++ (whole ++ (fraction ++ exponent)))

/-! ### Strings -/

/-- The characters between the quotes of a string. -/
inductive IsLiteral : List Char → Prop
  | nil : IsLiteral []
  /-- A character that stands for itself. -/
  | plain {c cs} (quote : c ≠ '"') (backslash : c ≠ '\\') (visible : 0x20 ≤ c.toNat)
      (rest : IsLiteral cs) : IsLiteral (c :: cs)
  /-- A character behind a backslash. -/
  | escape {c cs} (short : c ∈ ['"', '\\', '/', 'b', 'f', 'n', 'r', 't']) (rest : IsLiteral cs) :
      IsLiteral ('\\' :: c :: cs)
  /-- A character by its number. -/
  | unicode {a b c d cs} (digits : ∀ x ∈ [a, b, c, d], (Text.hexValue? x).isSome)
      (rest : IsLiteral cs) : IsLiteral ('\\' :: 'u' :: a :: b :: c :: d :: cs)

/-! ### Values -/

/-- Blanks between tokens, or nothing. -/
def IsGapText (cs : List Char) : Prop := ∀ c ∈ cs, isGap c = true

/-- A test that the four blanks pass is passed throughout a gap. -/
theorem IsGapText.forall_of_all {cs : List Char} {f : Char → Bool} (h : IsGapText cs)
    (blanks : [' ', '\n', '\r', '\t'].all f = true) : ∀ c ∈ cs, f c = true := by
  intro c hc
  have gap := h c hc
  simp only [isGap, Bool.or_eq_true, beq_iff_eq] at gap
  refine List.all_eq_true.1 blanks c ?_
  rcases gap with ((rfl | rfl) | rfl) | rfl <;> simp

/-- The parts of the grammar that are made of each other. -/
inductive Part where
  | value
  | object
  /-- The values in an array, with commas between them. -/
  | items
  /-- The members of an object, with commas between them. -/
  | members
  deriving DecidableEq, Repr

/-- The texts of the grammar. A value begins and ends with its own characters; blanks may stand
around the items and members of a container, and around the colon of a member. -/
inductive Written : Part → List Char → Prop
  | null : Written .value ['n', 'u', 'l', 'l']
  | true : Written .value ['t', 'r', 'u', 'e']
  | false : Written .value ['f', 'a', 'l', 's', 'e']
  | number {cs} (number : IsNumber cs) : Written .value cs
  | string {cs} (literal : IsLiteral cs) : Written .value ('"' :: (cs ++ ['"']))
  | noItems {cs} (gap : IsGapText cs) : Written .value ('[' :: (cs ++ [']']))
  | array {cs} (items : Written .items cs) : Written .value ('[' :: (cs ++ [']']))
  | noMembers {cs} (gap : IsGapText cs) : Written .object ('{' :: (cs ++ ['}']))
  | members {cs} (members : Written .members cs) : Written .object ('{' :: (cs ++ ['}']))
  | object {cs} (object : Written .object cs) : Written .value cs
  | lastItem {g₁ cs g₂} (before : IsGapText g₁) (value : Written .value cs)
      (after : IsGapText g₂) : Written .items (g₁ ++ (cs ++ g₂))
  | item {g₁ cs g₂ more} (before : IsGapText g₁) (value : Written .value cs)
      (after : IsGapText g₂) (rest : Written .items more) :
      Written .items (g₁ ++ (cs ++ (g₂ ++ ',' :: more)))
  | lastMember {g₁ key g₂ g₃ cs g₄} (before : IsGapText g₁) (literal : IsLiteral key)
      (colon : IsGapText g₂) (front : IsGapText g₃) (value : Written .value cs)
      (after : IsGapText g₄) :
      Written .members (g₁ ++ '"' :: (key ++ '"' :: (g₂ ++ ':' :: (g₃ ++ (cs ++ g₄)))))
  | member {g₁ key g₂ g₃ cs g₄ more} (before : IsGapText g₁) (literal : IsLiteral key)
      (colon : IsGapText g₂) (front : IsGapText g₃) (value : Written .value cs)
      (after : IsGapText g₄) (rest : Written .members more) :
      Written .members
        (g₁ ++ '"' :: (key ++ '"' :: (g₂ ++ ':' :: (g₃ ++ (cs ++ (g₄ ++ ',' :: more))))))

variable {cs rest : List Char} {steps depth : Nat} {negative : Bool} {d : Digits}

/-! ### What the reader takes for a number -/

/-- Where digits are asked for and something else stands, the reader fails; so there are some. -/
theorem isDigits_of_span
    (notEnd : cs.takeWhile Char.isDigit = [] → cs.dropWhile Char.isDigit = [] → False)
    (notOther : ∀ c tail, cs.takeWhile Char.isDigit = [] → cs.dropWhile Char.isDigit = c :: tail →
      False) : IsDigits (cs.takeWhile Char.isDigit) := by
  refine ⟨fun none => ?_, fun c hc => List.all_eq_true.1 List.all_takeWhile c hc⟩
  cases left : cs.dropWhile Char.isDigit with
  | nil => exact notEnd none left
  | cons c tail => exact notOther c tail none left

theorem digits_of_readExponent {n : Int} (read : readExponent cs = .ok (n, rest)) :
    ∃ sign ds, cs = sign ++ (ds ++ rest) ∧ sign ∈ [[], ['+'], ['-']] ∧ IsDigits ds := by
  unfold readExponent at read
  split at read
  next neg ds sign =>
  obtain ⟨digits, rfl, isDigits⟩ : ∃ digits, ds = digits ++ rest ∧ IsDigits digits := by
    split at read
    · cases read
    · cases read
    · next notEnd notOther =>
      cases read
      exact ⟨_, List.takeWhile_append_dropWhile.symm, isDigits_of_span notEnd notOther⟩
  split at sign
  · cases sign
    exact ⟨['-'], digits, rfl, by simp, isDigits⟩
  · cases sign
    exact ⟨['+'], digits, rfl, by simp, isDigits⟩
  · cases sign
    exact ⟨[], digits, rfl, by simp, isDigits⟩

/-- What is done to the result of a reading leaves the rest of the text alone. -/
theorem exists_of_map {α β : Type} {r : Reading α} {f : α → β} {b : β}
    (read : (r.map fun s => (f s.1, s.2)) = .ok (b, rest)) : ∃ a, r = .ok (a, rest) ∧ f a = b := by
  cases r with
  | error e => cases read
  | ok s =>
    cases read
    exact ⟨s.1, rfl, rfl⟩

theorem rest_of_floatNumber {r : Except ReadError Number} {left : List Char} {n : Number}
    (read : (r.map (·, left)) = .ok (n, rest)) : left = rest := by
  cases r with
  | error e => cases read
  | ok x => cases read; rfl

theorem exponent_of_finishFloat {n : Number} (read : finishFloat negative d cs = .ok (n, rest)) :
    ∃ exponent, cs = exponent ++ rest ∧ IsExponent exponent := by
  unfold finishFloat at read
  split at read
  · obtain rfl := rest_of_floatNumber read
    exact ⟨[], rfl, .absent⟩
  · next c cs =>
    split at read
    · next mark =>
      cases exponent : readExponent cs with
      | error e => rw [exponent] at read; cases read
      | ok s =>
        rw [exponent] at read
        obtain rfl := rest_of_floatNumber read
        obtain ⟨sign, ds, rfl, signed, digits⟩ := digits_of_readExponent exponent
        refine ⟨c :: (sign ++ ds), by simp, .digits ?_ signed digits⟩
        simpa using mark
    · obtain rfl := rest_of_floatNumber read
      exact ⟨[], rfl, .absent⟩

theorem tail_of_readTail {n : Number} (read : readTail negative d cs = .ok (n, rest)) :
    ∃ fraction exponent, cs = fraction ++ (exponent ++ rest) ∧ IsFraction fraction ∧
      IsExponent exponent := by
  unfold readTail at read
  split at read
  · next cs =>
    split at read
    · cases read
    · cases read
    · next notEnd notOther =>
      obtain ⟨exponent, left, isExponent⟩ := exponent_of_finishFloat read
      refine ⟨'.' :: cs.takeWhile Char.isDigit, exponent, ?_,
        .digits (isDigits_of_span notEnd notOther), isExponent⟩
      rw [← left]
      simp
  · obtain ⟨exponent, left, isExponent⟩ := exponent_of_finishFloat read
    exact ⟨[], exponent, left, .absent, isExponent⟩
  · obtain ⟨exponent, left, isExponent⟩ := exponent_of_finishFloat read
    exact ⟨[], exponent, left, .absent, isExponent⟩
  · obtain rfl := rest_of_floatNumber read
    exact ⟨[], [], rfl, .absent, .absent⟩

theorem unsigned_of_readUnsigned {n : Number} (read : readUnsigned negative cs = .ok (n, rest)) :
    ∃ whole fraction exponent, cs = whole ++ (fraction ++ (exponent ++ rest)) ∧ IsWhole whole ∧
      IsFraction fraction ∧ IsExponent exponent := by
  unfold readUnsigned at read
  split at read
  · cases read
  · split at read
    · split at read
      · cases read
      · obtain ⟨fraction, exponent, left, isFraction, isExponent⟩ := tail_of_readTail read
        exact ⟨['0'], fraction, exponent, congrArg _ left, .zero, isFraction, isExponent⟩
    · obtain ⟨fraction, exponent, left, isFraction, isExponent⟩ := tail_of_readTail read
      exact ⟨['0'], fraction, exponent, congrArg _ left, .zero, isFraction, isExponent⟩
  · next c cs first =>
    split at read
    · next digit =>
      obtain ⟨fraction, exponent, left, isFraction, isExponent⟩ := tail_of_readTail read
      have taken : (c :: cs).takeWhile Char.isDigit = c :: cs.takeWhile Char.isDigit :=
        List.takeWhile_cons_of_pos digit
      refine ⟨(c :: cs).takeWhile Char.isDigit, fraction, exponent, ?_, ?_, isFraction,
        isExponent⟩
      · rw [← left, List.takeWhile_append_dropWhile]
      · have all : ∀ x ∈ (c :: cs).takeWhile Char.isDigit, x.isDigit = true := fun x hx =>
          List.all_eq_true.1 List.all_takeWhile x hx
        rw [taken] at all ⊢
        exact .digits first ⟨List.cons_ne_nil _ _, all⟩
    · cases read

theorem number_of_readNumber {n : Number} (read : readNumber cs = .ok (n, rest)) :
    ∃ text, cs = text ++ rest ∧ IsNumber text := by
  unfold readNumber at read
  split at read
  · obtain ⟨whole, fraction, exponent, rfl, isWhole, isFraction, isExponent⟩ :=
      unsigned_of_readUnsigned read
    refine ⟨['-'] ++ (whole ++ (fraction ++ exponent)), by simp, ?_⟩
    exact .intro (by simp) isWhole isFraction isExponent
  · obtain ⟨whole, fraction, exponent, rfl, isWhole, isFraction, isExponent⟩ :=
      unsigned_of_readUnsigned read
    refine ⟨[] ++ (whole ++ (fraction ++ exponent)), by simp, ?_⟩
    exact .intro (by simp) isWhole isFraction isExponent

/-! ### What the reader takes for a string -/

/-- Characters that a literal may begin with. -/
def Opens (cs : List Char) : Prop := ∀ more, IsLiteral more → IsLiteral (cs ++ more)

theorem digits_of_readHex {n : Nat} (read : readHex cs = .ok (n, rest)) :
    ∃ a b c d, cs = a :: b :: c :: d :: rest ∧ ∀ x ∈ [a, b, c, d], (Text.hexValue? x).isSome := by
  unfold readHex at read
  split at read
  · next a b c d left =>
    split at read
    · next m number =>
      cases read
      refine ⟨a, b, c, d, rfl, fun x hx => ?_⟩
      unfold Text.hexNumber? at number
      simp only [List.foldlM_cons, List.foldlM_nil, Option.bind_eq_bind, Option.bind_eq_some_iff,
        Option.map_eq_some_iff] at number
      obtain ⟨_, ⟨_, ha, -⟩, _, ⟨_, hb, -⟩, _, ⟨_, hc, -⟩, _, ⟨_, hd, -⟩, -⟩ := number
      simp only [List.mem_cons, List.not_mem_nil, or_false] at hx
      rcases hx with rfl | rfl | rfl | rfl
      · simp [ha]
      · simp [hb]
      · simp [hc]
      · simp [hd]
    · cases read
  · cases read

theorem opens_of_readLowSurrogate {high : Nat} {c : Char}
    (read : readLowSurrogate high cs = .ok (c, rest)) : ∃ text, cs = text ++ rest ∧ Opens text := by
  unfold readLowSurrogate at read
  split at read
  · next more =>
    cases hex : readHex more with
    | error e => rw [hex] at read; cases read
    | ok s =>
      obtain ⟨low, left⟩ := s
      rw [hex] at read
      dsimp only at read
      split at read
      · obtain ⟨-, rfl⟩ := Prod.mk.inj (Except.ok.inj read)
        obtain ⟨w, x, y, z, rfl, digits⟩ := digits_of_readHex hex
        exact ⟨['\\', 'u', w, x, y, z], rfl, fun more h => .unicode digits h⟩
      · cases read
  · cases read

theorem opens_of_readEscape {c : Char} (read : readEscape cs = .ok (c, rest)) :
    ∃ text, cs = text ++ rest ∧ Opens ('\\' :: text) := by
  have short {e : Char} (h : e ∈ ['"', '\\', '/', 'b', 'f', 'n', 'r', 't']) (left : List Char) :
      ∃ text, e :: left = text ++ left ∧ Opens ('\\' :: text) :=
    ⟨[e], rfl, fun more literal => .escape h literal⟩
  unfold readEscape at read
  split at read
  case h_10 left =>
    unfold readUnicode at read
    cases hex : readHex left with
    | error e => rw [hex] at read; cases read
    | ok s =>
      obtain ⟨n, left⟩ := s
      rw [hex] at read
      obtain ⟨w, x, y, z, rfl, digits⟩ := digits_of_readHex hex
      dsimp only at read
      split at read
      · obtain ⟨text, rfl, opens⟩ := opens_of_readLowSurrogate read
        exact ⟨'u' :: w :: x :: y :: z :: text, rfl, fun more h => .unicode digits (opens more h)⟩
      · split at read
        · cases read
        · cases read
          exact ⟨['u', w, x, y, z], rfl, fun more h => .unicode digits h⟩
  all_goals
    cases read <;> exact short (by simp) _

theorem literal_of_readChars {acc out : List Char}
    (read : readChars steps acc cs = .ok (out, rest)) :
    ∃ literal, cs = literal ++ '"' :: rest ∧ IsLiteral literal := by
  induction steps generalizing acc cs with
  | zero => cases read
  | succ steps ih =>
    cases cs with
    | nil => cases read
    | cons c cs =>
      unfold readChars at read
      by_cases quote : c = '"'
      · rw [if_pos quote] at read
        cases read
        exact ⟨[], by rw [quote]; rfl, .nil⟩
      rw [if_neg quote] at read
      by_cases backslash : c = '\\'
      · rw [if_pos backslash] at read
        cases escape : readEscape cs with
        | error e => rw [escape] at read; cases read
        | ok s =>
          rw [escape] at read
          obtain ⟨text, rfl, opens⟩ := opens_of_readEscape escape
          obtain ⟨literal, left, isLiteral⟩ := ih read
          refine ⟨'\\' :: (text ++ literal), ?_, opens literal isLiteral⟩
          rw [left, backslash]
          simp
      · rw [if_neg backslash] at read
        split at read
        · cases read
        · next visible =>
          obtain ⟨literal, rfl, isLiteral⟩ := ih read
          exact ⟨c :: literal, rfl, .plain quote backslash (Nat.le_of_not_lt visible) isLiteral⟩

theorem literal_of_readString {s : String} (read : readString cs = .ok (s, rest)) :
    ∃ literal, cs = literal ++ '"' :: rest ∧ IsLiteral literal := by
  unfold readString at read
  obtain ⟨acc, read, -⟩ := exists_of_map (f := fun cs : List Char => String.ofList cs.reverse) read
  exact literal_of_readChars read

/-! ### What the reader takes for a value -/

theorem eq_of_skipGap {left : List Char} (skipped : skipGap cs = left) :
    ∃ gap, cs = gap ++ left ∧ IsGapText gap :=
  ⟨cs.takeWhile isGap, by rw [← skipped, skipGap, List.takeWhile_append_dropWhile],
    fun c hc => List.all_eq_true.1 List.all_takeWhile c hc⟩

theorem eq_of_readWord {word : List Char} {value v : Json}
    (read : readWord word value cs = .ok (v, rest)) : cs = word ++ rest := by
  unfold readWord at read
  induction word generalizing cs with
  | nil =>
    cases read
    rfl
  | cons c word ih =>
    cases cs with
    | nil => cases read
    | cons d cs =>
      simp only [readWord.go] at read
      split at read
      · next same => rw [same, ih read]; rfl
      · cases read

theorem eq_value_of_readWord {word : List Char} {value v : Json}
    (read : readWord word value cs = .ok (v, rest)) : v = value := by
  unfold readWord at read
  induction word generalizing cs with
  | nil => cases read; rfl
  | cons c word ih =>
    cases cs with
    | nil => cases read
    | cons d cs =>
      simp only [readWord.go] at read
      split at read
      · exact ih read
      · cases read

theorem IsGapText.append {g h : List Char} (hg : IsGapText g) (hh : IsGapText h) :
    IsGapText (g ++ h) := fun c hc => (List.mem_append.1 hc).elim (hg c) (hh c)

/-- Blanks in front of items belong to them. -/
theorem Written.items_of_gap {g : List Char} (gap : IsGapText g) (h : Written .items cs) :
    Written .items (g ++ cs) := by
  cases h with
  | lastItem before value after =>
    rw [← List.append_assoc]
    exact .lastItem (gap.append before) value after
  | item before value after rest =>
    rw [← List.append_assoc]
    exact .item (gap.append before) value after rest

/-- Blanks in front of members belong to them. -/
theorem Written.members_of_gap {g : List Char} (gap : IsGapText g) (h : Written .members cs) :
    Written .members (g ++ cs) := by
  cases h with
  | lastMember before literal colon front value after =>
    rw [← List.append_assoc]
    exact .lastMember (gap.append before) literal colon front value after
  | member before literal colon front value after rest =>
    rw [← List.append_assoc]
    exact .member (gap.append before) literal colon front value after rest

/-- With this many steps, whatever is read is a text of the grammar: a value with blanks in front
of it, the items of an array up to its closing bracket, the members of an object up to its closing
brace. -/
structure ReadsWritten (steps : Nat) : Prop where
  value {depth cs v rest} : readValue steps depth cs = .ok (v, rest) →
    ∃ gap text, cs = gap ++ (text ++ rest) ∧ IsGapText gap ∧ Written .value text
  items {depth cs vs rest} : readItems steps depth cs = .ok (vs, rest) →
    ∃ text, cs = text ++ ']' :: rest ∧ Written .items text
  members {depth cs ms rest} : readMembers steps depth cs = .ok (ms, rest) →
    ∃ text, cs = text ++ '}' :: rest ∧ Written .members text

theorem ReadsWritten.array (h : ReadsWritten steps) {vs : List Json}
    (read : readItems steps depth (skipGap cs) = .ok (vs, rest)) :
    ∃ text, '[' :: cs = text ++ rest ∧ Written .value text := by
  obtain ⟨gap, left, isGap⟩ := eq_of_skipGap (rfl : skipGap cs = _)
  obtain ⟨text, taken, written⟩ := h.items read
  refine ⟨'[' :: ((gap ++ text) ++ [']']), ?_, .array (written.items_of_gap isGap)⟩
  rw [left, taken]
  simp

theorem ReadsWritten.object (h : ReadsWritten steps) {ms : List (String × Json)}
    (read : readMembers steps depth (skipGap cs) = .ok (ms, rest)) :
    ∃ text, '{' :: cs = text ++ rest ∧ Written .object text := by
  obtain ⟨gap, left, isGap⟩ := eq_of_skipGap (rfl : skipGap cs = _)
  obtain ⟨text, taken, written⟩ := h.members read
  refine ⟨'{' :: ((gap ++ text) ++ ['}']), ?_, .members (written.members_of_gap isGap)⟩
  rw [left, taken]
  simp

theorem ReadsWritten.value_succ (h : ReadsWritten steps) {v : Json}
    (read : readValue (steps + 1) depth cs = .ok (v, rest)) :
    ∃ gap text, cs = gap ++ (text ++ rest) ∧ IsGapText gap ∧ Written .value text := by
  obtain ⟨gap, left, isGap⟩ := eq_of_skipGap (rfl : skipGap cs = _)
  have taken : ∃ text, skipGap cs = text ++ rest ∧ Written .value text := by
    unfold readValue at read
    split at read
    · cases read
    · next first => exact ⟨_, first.trans (congrArg _ (eq_of_readWord read)), .null⟩
    · next first => exact ⟨_, first.trans (congrArg _ (eq_of_readWord read)), .true⟩
    · next first => exact ⟨_, first.trans (congrArg _ (eq_of_readWord read)), .false⟩
    · next first =>
      obtain ⟨s, read, -⟩ := exists_of_map read
      obtain ⟨literal, rfl, isLiteral⟩ := literal_of_readString read
      exact ⟨_, by rw [first]; simp, .string isLiteral⟩
    · next more first =>
      cases depth with
      | zero => cases read
      | succ depth =>
        dsimp only at read
        split at read
        · next closed =>
          cases read
          obtain ⟨inner, inside, isInner⟩ := eq_of_skipGap closed
          exact ⟨_, by rw [first, inside]; simp, .noItems isInner⟩
        · obtain ⟨vs, read, -⟩ := exists_of_map read
          rw [first]
          exact h.array read
    · next more first =>
      cases depth with
      | zero => cases read
      | succ depth =>
        dsimp only at read
        split at read
        · next closed =>
          cases read
          obtain ⟨inner, inside, isInner⟩ := eq_of_skipGap closed
          exact ⟨_, by rw [first, inside]; simp, .object (.noMembers isInner)⟩
        · obtain ⟨ms, read, -⟩ := exists_of_map read
          obtain ⟨text, eq, written⟩ := h.object read
          exact ⟨text, first.trans eq, .object written⟩
    · next first =>
      split at read
      · obtain ⟨n, read, -⟩ := exists_of_map read
        obtain ⟨text, eq, isNumber⟩ := number_of_readNumber read
        exact ⟨text, first.trans eq, .number isNumber⟩
      · cases read
  obtain ⟨text, eq, written⟩ := taken
  exact ⟨gap, text, eq ▸ left, isGap, written⟩

theorem ReadsWritten.items_succ (h : ReadsWritten steps) {vs : List Json}
    (read : readItems (steps + 1) depth cs = .ok (vs, rest)) :
    ∃ text, cs = text ++ ']' :: rest ∧ Written .items text := by
  unfold readItems at read
  cases first : readValue steps depth cs with
  | error e => rw [first] at read; cases read
  | ok s =>
    obtain ⟨v, left⟩ := s
    rw [first] at read
    obtain ⟨g₁, text, rfl, before, written⟩ := h.value first
    dsimp only at read
    split at read
    · cases read
    · next closed =>
      cases read
      obtain ⟨g₂, rfl, after⟩ := eq_of_skipGap closed
      exact ⟨_, by simp, .lastItem before written after⟩
    · next comma =>
      obtain ⟨g₂, rfl, after⟩ := eq_of_skipGap comma
      obtain ⟨vs, read, -⟩ := exists_of_map read
      obtain ⟨more, rfl, others⟩ := h.items read
      exact ⟨_, by simp, .item before written after others⟩
    · cases read

theorem ReadsWritten.members_succ (h : ReadsWritten steps) {ms : List (String × Json)}
    (read : readMembers (steps + 1) depth cs = .ok (ms, rest)) :
    ∃ text, cs = text ++ '}' :: rest ∧ Written .members text := by
  unfold readMembers at read
  split at read
  · cases read
  · next quoted =>
    obtain ⟨g₁, rfl, before⟩ := eq_of_skipGap quoted
    split at read
    · cases read
    next key left keyRead =>
    obtain ⟨literal, rfl, isLiteral⟩ := literal_of_readString keyRead
    split at read
    · cases read
    · next colon =>
      obtain ⟨g₂, rfl, behindKey⟩ := eq_of_skipGap colon
      split at read
      · cases read
      next v left valueRead =>
      obtain ⟨g₃, text, rfl, front, written⟩ := h.value valueRead
      split at read
      · cases read
      · next closed =>
        cases read
        obtain ⟨g₄, rfl, after⟩ := eq_of_skipGap closed
        exact ⟨_, by simp, .lastMember before isLiteral behindKey front written after⟩
      · next comma =>
        obtain ⟨g₄, rfl, after⟩ := eq_of_skipGap comma
        obtain ⟨ms, read, -⟩ := exists_of_map read
        obtain ⟨more, rfl, others⟩ := h.members read
        exact ⟨_, by simp, .member before isLiteral behindKey front written after others⟩
      · cases read
    · cases read
  · cases read

theorem readsWritten (steps : Nat) : ReadsWritten steps := by
  induction steps with
  | zero => exact ⟨nofun, nofun, nofun⟩
  | succ steps ih => exact ⟨ih.value_succ, ih.items_succ, ih.members_succ⟩

theorem written_of_readValue {v : Json} (read : readValue steps depth cs = .ok (v, rest)) :
    ∃ gap text, cs = gap ++ (text ++ rest) ∧ IsGapText gap ∧ Written .value text :=
  (readsWritten steps).value read

/-! ### Whole texts -/

/-- The characters of a number. -/
def isNumberChar (c : Char) : Bool := c.isDigit || ['-', '+', '.', 'e', 'E'].contains c

theorem IsDigits.isNumberChar (h : IsDigits cs) : ∀ c ∈ cs, isNumberChar c := fun c hc => by
  simp [Json.isNumberChar, h.2 c hc]

theorem IsNumber.isNumberChar (h : IsNumber cs) : ∀ c ∈ cs, isNumberChar c := by
  obtain ⟨signed, whole, fraction, exponent⟩ := h
  simp only [List.forall_mem_append]
  refine ⟨?_, ?_, ?_, ?_⟩
  · simp only [List.mem_cons, List.not_mem_nil, or_false] at signed
    rcases signed with rfl | rfl <;> exact List.all_eq_true.1 (by decide)
  · cases whole with
    | zero => exact List.all_eq_true.1 (by decide)
    | digits first digits => exact digits.isNumberChar
  · cases fraction with
    | absent => exact List.forall_mem_nil _
    | digits digits => exact List.forall_mem_cons.2 ⟨by decide, digits.isNumberChar⟩
  · cases exponent with
    | absent => exact List.forall_mem_nil _
    | digits mark signed digits =>
      simp only [List.mem_cons, List.not_mem_nil, or_false] at mark signed
      refine List.forall_mem_cons.2 ⟨?_, List.forall_mem_append.2 ⟨?_, digits.isNumberChar⟩⟩
      · rcases mark with rfl | rfl <;> decide
      · rcases signed with rfl | rfl | rfl <;> exact List.all_eq_true.1 (by decide)

/-- Of all values only an object begins with a brace. -/
theorem Written.object_of_brace (h : Written .value cs) (brace : cs.head? = some '{') :
    Written .object cs := by
  cases h with
  | object object => exact object
  | number number => exact absurd (number.isNumberChar _ (List.mem_of_mem_head? brace)) (by decide)
  | _ => cases brace

/-- A text that is read from its first brace to its last one is an object of the grammar. -/
theorem written_of_readWithin {v : Json} (opens : cs.head? = some '{')
    (closes : cs.getLast? = some '}') (read : readWithin depth cs = .ok v) :
    Written .object cs := by
  unfold readWithin complete at read
  split at read
  · cases read
  next v left value =>
  split at read
  · next atEnd =>
    obtain ⟨gap, text, rfl, before, written⟩ := written_of_readValue value
    obtain ⟨after, rfl, isGap⟩ := eq_of_skipGap atEnd
    rw [List.append_nil] at opens closes ⊢
    -- neither brace is a blank, so that nothing stands around the value
    obtain rfl : gap = [] := by
      cases gap with
      | nil => rfl
      | cons c gap => cases opens; exact absurd (before _ List.mem_cons_self) (by decide)
    obtain rfl : after = [] := by
      rw [List.nil_append, List.getLast?_append] at closes
      cases last : after.getLast? with
      | none => exact List.getLast?_eq_none_iff.1 last
      | some c =>
        rw [last] at closes
        cases closes
        exact absurd (isGap _ (List.mem_of_getLast? last)) (by decide)
    rw [List.nil_append, List.append_nil] at opens ⊢
    exact written.object_of_brace opens
  · cases read

end PromptBroker.Json
