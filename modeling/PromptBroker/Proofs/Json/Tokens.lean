import Mathlib.Data.List.TakeWhile
import PromptBroker.Proofs.Json.Numbers

/-!
# Numbers and strings that are read back

A number is read up to the first character that numbers are not written with, so what stands
behind it changes nothing (`readNumber_append`). Whole numbers are read back as they are printed
(`readNumber_whole`), up to the ends of the 64-bit words. For floats this is a matter of rounding,
so that it is asked for where it is needed (`Number.Rereads`).

Strings are read back character by character, each from its escape (`readString_quote`).
-/

namespace PromptBroker.Json

variable {cs left rest : List Char} {negative : Bool} {d : Digits} {n : Number}

/-! ### What stands behind a number -/

/-- A number does not go on here. -/
def EndsNumber (rest : List Char) : Prop := ∀ c ∈ rest.head?, isNumberChar c = false

theorem endsNumber_nil : EndsNumber [] := nofun

theorem endsNumber_cons {c : Char} (h : isNumberChar c = false) : EndsNumber (c :: rest) := by
  rintro _ ⟨⟩
  exact h

theorem EndsNumber.not_isDigit (h : EndsNumber rest) : ∀ c ∈ rest.head?, c.isDigit = false := by
  intro c hc
  have plain := h c hc
  simp only [isNumberChar, Bool.or_eq_false_iff] at plain
  exact plain.1

theorem EndsNumber.takeWhile_append (h : EndsNumber rest) (cs : List Char) :
    (cs ++ rest).takeWhile Char.isDigit = cs.takeWhile Char.isDigit := by
  induction cs with
  | nil =>
    cases rest with
    | nil => rfl
    | cons c rest => exact List.takeWhile_cons_of_neg (by simpa using h.not_isDigit c rfl)
  | cons c cs ih => simp only [List.cons_append, List.takeWhile_cons, ih]

theorem EndsNumber.dropWhile_append (h : EndsNumber rest) (cs : List Char) :
    (cs ++ rest).dropWhile Char.isDigit = cs.dropWhile Char.isDigit ++ rest := by
  induction cs with
  | nil =>
    cases rest with
    | nil => rfl
    | cons c rest => exact List.dropWhile_cons_of_neg (by simpa using h.not_isDigit c rfl)
  | cons c cs ih =>
    simp only [List.cons_append, List.dropWhile_cons, ih]
    split <;> rfl

theorem EndsNumber.no_mark (h : EndsNumber rest) :
    ∀ c ∈ rest.head?, c ≠ '.' ∧ c ≠ 'e' ∧ c ≠ 'E' := by
  intro c hc
  have plain := h c hc
  refine ⟨?_, ?_, ?_⟩ <;> rintro rfl <;> exact absurd plain (by decide)

/-- A result stays the same when more is left behind it. -/
theorem map_append {α : Type} {r : Except ReadError α} {a : α} {behind : List Char}
    (read : r.map (·, behind) = .ok (a, left)) (rest : List Char) :
    r.map (·, behind ++ rest) = .ok (a, left ++ rest) := by
  cases r with
  | error e => cases read
  | ok x => cases read; rfl

theorem readExponent_append (ends : EndsNumber rest) {k : Int}
    (read : readExponent cs = .ok (k, left)) :
    readExponent (cs ++ rest) = .ok (k, left ++ rest) := by
  cases cs with
  | nil => cases read
  | cons c cs =>
    unfold readExponent at read ⊢
    rw [List.cons_append]
    split at read
    next neg ds sign =>
    split
    next neg' ds' sign' =>
    obtain ⟨rfl, rfl⟩ : neg = neg' ∧ ds ++ rest = ds' := by
      split at sign
      · next same => cases same; cases sign; exact Prod.mk.inj sign'
      · next same => cases same; cases sign; exact Prod.mk.inj sign'
      · next notMinus notPlus =>
        cases sign
        split at sign'
        · next same => cases same; exact absurd rfl (notMinus cs)
        · next same => cases same; exact absurd rfl (notPlus cs)
        · exact Prod.mk.inj sign'
    rw [ends.takeWhile_append, ends.dropWhile_append]
    split at read
    · cases read
    · cases read
    · next notEnd notOther =>
      cases read
      obtain ⟨x, xs, taken⟩ := List.exists_cons_of_ne_nil (isDigits_of_span notEnd notOther).1
      rw [taken]

theorem finishFloat_append (ends : EndsNumber rest)
    (read : finishFloat negative d cs = .ok (n, left)) :
    finishFloat negative d (cs ++ rest) = .ok (n, left ++ rest) := by
  cases cs with
  | nil =>
    cases rest with
    | nil => rwa [List.append_nil, List.append_nil]
    | cons c rest =>
      obtain ⟨-, noE, noE'⟩ := ends.no_mark c rfl
      have alone : (floatNumber negative d 0).map (·, []) = .ok (n, left) := read
      rw [List.nil_append, finishFloat, if_neg (by simp [noE, noE'])]
      exact map_append alone (c :: rest)
  | cons c cs =>
    rw [finishFloat] at read
    rw [List.cons_append, finishFloat]
    split at read
    · next mark =>
      rw [if_pos mark]
      cases exponent : readExponent cs with
      | error e => rw [exponent] at read; cases read
      | ok s =>
        rw [exponent] at read
        rw [readExponent_append ends exponent]
        exact map_append read rest
    · next other =>
      rw [if_neg other]
      exact map_append read rest

theorem readTail_append (ends : EndsNumber rest)
    (read : readTail negative d cs = .ok (n, left)) :
    readTail negative d (cs ++ rest) = .ok (n, left ++ rest) := by
  unfold readTail at read
  split at read
  · next cs =>
    rw [List.cons_append, readTail, ends.takeWhile_append, ends.dropWhile_append]
    split at read
    · cases read
    · cases read
    · next notEnd notOther =>
      obtain ⟨x, xs, taken⟩ := List.exists_cons_of_ne_nil (isDigits_of_span notEnd notOther).1
      rw [taken] at read ⊢
      exact finishFloat_append ends read
  · exact finishFloat_append ends read
  · exact finishFloat_append ends read
  · next noPoint noE noE' =>
    have whole : readTail negative d (cs ++ rest) =
        (wholeNumber negative d).map (·, cs ++ rest) := by
      cases cs with
      | nil =>
        cases rest with
        | nil => rfl
        | cons c rest =>
          obtain ⟨h, h', h''⟩ := ends.no_mark c rfl
          unfold readTail
          split
          · next same => cases same; exact absurd rfl h
          · next same => cases same; exact absurd rfl h'
          · next same => cases same; exact absurd rfl h''
          · rfl
      | cons c cs =>
        unfold readTail
        rw [List.cons_append]
        split
        · next same => cases same; exact absurd rfl (noPoint cs)
        · next same => cases same; exact absurd rfl (noE cs)
        · next same => cases same; exact absurd rfl (noE' cs)
        · rfl
    rw [whole]
    exact map_append read rest

/-- A leading zero stands alone. -/
theorem readUnsigned_zero (alone : ∀ c ∈ cs.head?, c.isDigit = false) :
    readUnsigned negative ('0' :: cs) = readTail negative ⟨0, 0, false⟩ cs := by
  cases cs with
  | nil => rfl
  | cons c cs =>
    have noDigit : ¬c.isDigit = true := by simpa using alone c rfl
    exact if_neg noDigit

theorem readUnsigned_of_ne_zero {c : Char} (other : c ≠ '0') :
    readUnsigned negative (c :: cs) =
      if c.isDigit then
        readTail negative
          (((c :: cs).takeWhile Char.isDigit).foldl (fun d c => d.whole (digitValue c))
            ⟨0, 0, false⟩)
          ((c :: cs).dropWhile Char.isDigit)
      else .error (.unexpected c) := by
  unfold readUnsigned
  split
  · next same => cases same
  · next same => cases same; exact absurd rfl other
  · next same => cases same; rfl

theorem readUnsigned_append (ends : EndsNumber rest)
    (read : readUnsigned negative cs = .ok (n, left)) :
    readUnsigned negative (cs ++ rest) = .ok (n, left ++ rest) := by
  cases cs with
  | nil => cases read
  | cons c cs =>
    by_cases zero : c = '0'
    · subst zero
      have alone : ∀ c ∈ cs.head?, c.isDigit = false := by
        rintro c hc
        cases cs with
        | nil => cases hc
        | cons d cs =>
          cases hc
          cases digit : c.isDigit with
          | false => rfl
          | true =>
            have : readUnsigned negative ('0' :: c :: cs) = .error (.unexpected c) := if_pos digit
            rw [this] at read
            cases read
      have alone' : ∀ c ∈ (cs ++ rest).head?, c.isDigit = false := by
        cases cs with
        | nil => exact ends.not_isDigit
        | cons d cs => exact alone
      rw [readUnsigned_zero alone] at read
      rw [List.cons_append, readUnsigned_zero alone']
      exact readTail_append ends read
    · rw [readUnsigned_of_ne_zero zero] at read
      rw [List.cons_append, readUnsigned_of_ne_zero zero]
      split at read
      · next digit =>
        rw [if_pos digit, ← List.cons_append, ends.takeWhile_append, ends.dropWhile_append]
        exact readTail_append ends read
      · cases read

theorem readNumber_append (ends : EndsNumber rest) (read : readNumber cs = .ok (n, left)) :
    readNumber (cs ++ rest) = .ok (n, left ++ rest) := by
  unfold readNumber at read ⊢
  split at read
  · exact readUnsigned_append ends read
  · next other =>
    cases cs with
    | nil => cases read
    | cons c cs =>
      rw [List.cons_append]
      split
      · next same => cases same; exact absurd rfl (other cs)
      · exact readUnsigned_append ends read

/-! ### Whole numbers -/

theorem le_ofDigitChars (ds : List Char) (start : Nat) : start ≤ Nat.ofDigitChars 10 ds start := by
  induction ds generalizing start with
  | nil => exact Nat.le_refl _
  | cons c ds ih =>
    rw [Nat.ofDigitChars_cons]
    exact Nat.le_trans (by omega) (ih _)

/-- As long as the number fits a word, its digits are gathered one by one. -/
theorem foldl_whole (ds : List Char) (start : Nat) (fits : Nat.ofDigitChars 10 ds start ≤ wordMax) :
    ds.foldl (fun d c => d.whole (digitValue c)) (⟨start, 0, false⟩ : Digits) =
      ⟨Nat.ofDigitChars 10 ds start, 0, false⟩ := by
  induction ds generalizing start with
  | nil => rfl
  | cons c ds ih =>
    rw [Nat.ofDigitChars_cons] at fits ⊢
    have next : 10 * start + digitValue c ≤ wordMax := Nat.le_trans (le_ofDigitChars ds _) fits
    have step : Digits.whole ⟨start, 0, false⟩ (digitValue c) =
        ⟨10 * start + digitValue c, 0, false⟩ := by
      simp [Digits.whole, Nat.not_lt.2 next]
    rw [List.foldl_cons, step]
    exact ih _ fits

/-- Only zero is written with a zero in front. -/
theorem exists_toDigits_eq_cons (m : Nat) (positive : 0 < m) :
    ∃ c ds, Nat.toDigits 10 m = c :: ds ∧ c ≠ '0' := by
  induction m using Nat.strongRecOn with
  | ind m ih =>
    rw [Nat.toDigits_eq_if (by decide)]
    split
    · next small =>
      have first : ∀ k : Fin 10, 0 < k.val → Nat.digitChar k ≠ '0' := by decide
      exact ⟨_, [], rfl, first ⟨m, small⟩ positive⟩
    · obtain ⟨c, ds, front, other⟩ := ih (m / 10) (by omega) (by omega)
      exact ⟨c, ds ++ [Nat.digitChar (m % 10)], by rw [front]; rfl, other⟩

theorem readUnsigned_digitChars (negative : Bool) {m : Nat} (fits : m ≤ wordMax) :
    readUnsigned negative (Decimal.digitChars m) =
      (wholeNumber negative ⟨m, 0, false⟩).map (·, []) := by
  rcases Nat.eq_zero_or_pos m with rfl | positive
  · exact readUnsigned_zero nofun
  · have digits : ∀ c ∈ Nat.toDigits 10 m, c.isDigit = true := fun c hc =>
      Nat.isDigit_of_mem_toDigits (by decide) (by decide) hc
    have value : Nat.ofDigitChars 10 (Nat.toDigits 10 m) 0 = m := Nat.ofDigitChars_ten_toDigits
    have gathered := foldl_whole (Nat.toDigits 10 m) 0 (value.symm ▸ fits)
    obtain ⟨c, ds, written, other⟩ := exists_toDigits_eq_cons m positive
    rw [value] at gathered
    rw [written] at digits gathered
    rw [Decimal.digitChars, written, readUnsigned_of_ne_zero other,
      if_pos (digits c List.mem_cons_self), List.takeWhile_eq_self_iff.2 digits, gathered,
      List.dropWhile_eq_nil_iff.2 digits]
    rfl

theorem Whole.ofInt?_value (w : Whole) : Whole.ofInt? w.value = some w :=
  dif_pos ⟨w.lower, w.upper⟩

theorem readNumber_digitChars (m : Nat) :
    readNumber (Decimal.digitChars m) = readUnsigned false (Decimal.digitChars m) := by
  unfold readNumber
  split
  · next rest same =>
    have sign : '-' ∈ Decimal.digitChars m := same ▸ List.mem_cons_self
    have digit : '-'.isDigit = true := Nat.isDigit_of_mem_toDigits (by decide) (by decide) sign
    cases digit
  · rfl

/-- Whole numbers are read back. -/
theorem readNumber_whole (w : Whole) :
    readNumber (Number.whole w).chars = .ok (.whole w, []) := by
  have lower := w.lower
  have upper := w.upper
  have fits : w.value.natAbs ≤ wordMax := by unfold wordMax; omega
  change readNumber (Decimal.intChars w.value) = _
  unfold Decimal.intChars
  split
  · next negative =>
    have whole : wholeNumber true ⟨w.value.natAbs, 0, false⟩ = .ok (.whole w) := by
      have value : -(w.value.natAbs : Int) = w.value := by omega
      have nonzero : w.value ≠ 0 := by omega
      simp only [wholeNumber, if_true, value, w.ofInt?_value]
      simp [nonzero]
    change readUnsigned true _ = _
    rw [readUnsigned_digitChars true fits, whole]
    rfl
  · next nonnegative =>
    have whole : wholeNumber false ⟨w.value.natAbs, 0, false⟩ = .ok (.whole w) := by
      have value : (w.value.natAbs : Int) = w.value := by omega
      simp only [wholeNumber, Bool.false_eq_true, if_false, value, w.ofInt?_value]
      simp
    rw [readNumber_digitChars, readUnsigned_digitChars false fits, whole]
    rfl

/-! ### Strings -/

theorem readHex_hexDigits {k : Nat} (control : k < 0x20) (rest : List Char) :
    readHex (Text.hexDigits 4 k ++ rest) = .ok (k, rest) := by
  have value : ∀ k : Fin 0x20, Text.hexNumber? (Text.hexDigits 4 k) = some k.val := by decide
  have number := value ⟨k, control⟩
  obtain ⟨a, b, c, d, digits⟩ : ∃ a b c d, Text.hexDigits 4 k = [a, b, c, d] := ⟨_, _, _, _, rfl⟩
  rw [digits] at number ⊢
  simp only [readHex, List.cons_append, List.nil_append]
  rw [number]

theorem readUnicode_hexDigits {c : Char} (control : c.toNat < 0x20) (rest : List Char) :
    readUnicode (Text.hexDigits 4 c.toNat ++ rest) = .ok (c, rest) := by
  unfold readUnicode
  rw [readHex_hexDigits control]
  dsimp only
  rw [if_neg (by omega), if_neg (by omega), Char.ofNat_toNat]

/-- A character stands for itself, or it is what its escape is read as. -/
theorem escape_cases (c : Char) :
    (escape c = [c] ∧ c ≠ '"' ∧ c ≠ '\\' ∧ 0x20 ≤ c.toNat) ∨
      ∃ e, escape c = '\\' :: e ∧ ∀ rest, readEscape (e ++ rest) = .ok (c, rest) := by
  have number {k : Nat} (h : c.toNat = k) : Char.ofNat k = c := h ▸ Char.ofNat_toNat c
  unfold escape
  split
  · next h => exact .inr ⟨['"'], rfl, fun rest => by rw [h]; rfl⟩
  next quote =>
  split
  · next h => exact .inr ⟨['\\'], rfl, fun rest => by rw [h]; rfl⟩
  next backslash =>
  split
  · next h => exact .inr ⟨['b'], rfl, fun rest => by rw [← number h]; rfl⟩
  split
  · next h => exact .inr ⟨['f'], rfl, fun rest => by rw [← number h]; rfl⟩
  split
  · next h => exact .inr ⟨['n'], rfl, fun rest => by rw [h]; rfl⟩
  split
  · next h => exact .inr ⟨['r'], rfl, fun rest => by rw [h]; rfl⟩
  split
  · next h => exact .inr ⟨['t'], rfl, fun rest => by rw [h]; rfl⟩
  split
  · next control => exact .inr ⟨_, rfl, readUnicode_hexDigits control⟩
  · next visible => exact .inl ⟨rfl, quote, backslash, Nat.le_of_not_lt visible⟩

theorem length_le_flatMap_escape (text : List Char) :
    text.length ≤ (text.flatMap escape).length := by
  induction text with
  | nil => exact Nat.le_refl _
  | cons c text ih =>
    have some : 1 ≤ (escape c).length := by
      rcases escape_cases c with ⟨h, -⟩ | ⟨e, h, -⟩
      · rw [h]; exact Nat.le_refl _
      · rw [h]; exact Nat.succ_le_succ (Nat.zero_le _)
    rw [List.flatMap_cons, List.length_append, List.length_cons]
    omega

/-- Character by character, the escapes are read back. -/
theorem readChars_flatMap_escape (text acc rest : List Char) {steps : Nat}
    (enough : text.length < steps) :
    readChars steps acc (text.flatMap escape ++ '"' :: rest) = .ok (text.reverse ++ acc, rest) := by
  induction text generalizing acc steps with
  | nil =>
    obtain ⟨steps, rfl⟩ := Nat.exists_eq_succ_of_ne_zero (Nat.ne_of_gt enough)
    rfl
  | cons c text ih =>
    obtain ⟨steps, rfl⟩ := Nat.exists_eq_succ_of_ne_zero (Nat.ne_of_gt (Nat.zero_lt_of_lt enough))
    have fewer : text.length < steps := Nat.lt_of_succ_lt_succ enough
    rw [List.flatMap_cons, List.append_assoc]
    rcases escape_cases c with ⟨plain, quote, backslash, visible⟩ | ⟨e, escaped, read⟩
    · rw [plain, List.singleton_append, readChars, if_neg quote, if_neg backslash,
        if_neg (Nat.not_lt.2 visible), ih _ fewer]
      simp
    · rw [escaped, List.cons_append, readChars, if_neg (by decide), if_pos rfl, read]
      dsimp only
      rw [ih _ fewer]
      simp

/-- Strings are read back. -/
theorem readString_quote (s : String) (rest : List Char) :
    readString (s.toList.flatMap escape ++ '"' :: rest) = .ok (s, rest) := by
  unfold readString
  have enough : s.toList.length < (s.toList.flatMap escape ++ '"' :: rest).length + 1 := by
    have := length_le_flatMap_escape s.toList
    rw [List.length_append]
    omega
  rw [readChars_flatMap_escape _ _ _ enough]
  simp [Except.map]

end PromptBroker.Json
