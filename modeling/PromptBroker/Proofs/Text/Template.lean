import Mathlib.Data.List.TakeWhile
import PromptBroker.Text.Template

/-!
# Filling in a template once

A written text has exactly one template. Its first piece is the slot that is written at the
front of the text, or the first character if there is none, and the others are the template
of what is left (`exists_piece`). So the pieces spell the text (`written_parse`), and
between two slots of the template the text holds no further one (`not_hasSlot_of_mem_gaps`).

Filling in puts one value between each two gaps and changes nothing else, whatever the
values are (`toList_fill`). Values are not looked at, so this needs no condition on them.
-/

namespace PromptBroker.Text

variable {cs name gap : List Char} {p : Piece} {t u : Template}

/-- How a slot is written. -/
def slotText (name : List Char) : List Char := '{' :: '{' :: (name ++ ['}', '}'])

/-- How a piece is written. -/
def Piece.written : Piece → List Char
  | .char c => [c]
  | .slot name => slotText name

/-- The text that pieces spell. -/
def Template.written (t : Template) : List Char := t.flatMap Piece.written

/-- The name of a slot is a word. -/
def IsSlotName (name : List Char) : Prop := name ≠ [] ∧ ∀ c ∈ name, isWordChar c = true

/-- Somewhere in the text a slot is written. -/
def HasSlot (cs : List Char) : Prop := ∃ name, IsSlotName name ∧ slotText name <:+: cs

/-! ### Finding slots -/

theorem isWordChar_brace : isWordChar '}' = false := by decide +kernel

theorem slotName?_eq_some : slotName? cs = some name ↔
    IsSlotName name ∧ ∃ rest, cs = name ++ '}' :: '}' :: rest := by
  unfold slotName?
  constructor
  · intro h
    dsimp only at h
    split at h
    · next rest closes =>
      split at h
      · cases h
      · next nonempty =>
        cases h
        refine ⟨⟨nonempty, fun c => List.mem_takeWhile_imp⟩, rest, ?_⟩
        rw [← closes, List.takeWhile_append_dropWhile]
    · cases h
  · rintro ⟨⟨nonempty, word⟩, rest, rfl⟩
    have stops : ¬isWordChar '}' = true := by rw [isWordChar_brace]; decide
    simp only [List.dropWhile_append_of_pos word, List.dropWhile_cons_of_neg stops,
      List.takeWhile_append_of_pos word, List.takeWhile_cons_of_neg stops, List.append_nil,
      if_neg nonempty]

namespace Template

theorem parseFrom_skip (n : Nat) (cs : List Char) : parseFrom n cs = parseFrom 0 (cs.drop n) := by
  induction n generalizing cs with
  | zero => rfl
  | succ n ih =>
    cases cs with
    | nil => simp only [List.drop_nil, parseFrom]
    | cons c rest => simp only [List.drop_succ_cons, parseFrom, ih]

/-- Where a slot is written, it is found. -/
theorem parseFrom_slotText (word : IsSlotName name) (rest : List Char) :
    parseFrom 0 (slotText name ++ rest) = .slot name :: parseFrom 0 rest := by
  have named : slotName? (name ++ '}' :: '}' :: rest) = some name :=
    slotName?_eq_some.2 ⟨word, rest, rfl⟩
  simp only [slotText, List.cons_append, List.append_assoc, List.nil_append]
  rw [parseFrom, named]
  dsimp only
  rw [parseFrom_skip, List.drop_succ_cons, List.drop_append, List.drop_of_length_le (by simp)]
  simp

/-- Where none is written, there is a character. -/
theorem parseFrom_char {c : Char} {rest : List Char}
    (unwritten : ∀ name, IsSlotName name → ¬slotText name <+: c :: rest) :
    parseFrom 0 (c :: rest) = .char c :: parseFrom 0 rest := by
  have unnamed {rest' : List Char} (c_eq : c = '{') (rest_eq : rest = '{' :: rest') :
      slotName? rest' = none := by
    subst c_eq rest_eq
    cases named : slotName? rest' with
    | none => rfl
    | some name =>
      obtain ⟨word, rest, rfl⟩ := slotName?_eq_some.1 named
      exact absurd ⟨rest, by simp [slotText]⟩ (unwritten name word)
  by_cases opens : c = '{' ∧ ∃ rest', rest = '{' :: rest'
  · obtain ⟨rfl, rest', rfl⟩ := opens
    rw [parseFrom, unnamed rfl rfl]
  · rw [parseFrom]
    exact fun rest' c_eq rest_eq => opens ⟨c_eq, rest', rest_eq⟩

/-- The first piece is written at the front, and the others are the template of what is left. -/
theorem exists_piece (nonempty : cs ≠ []) :
    ∃ p rest, cs = p.written ++ rest ∧ parseFrom 0 cs = p :: parseFrom 0 rest := by
  by_cases slot : ∃ name, IsSlotName name ∧ slotText name <+: cs
  · obtain ⟨name, word, rest, rfl⟩ := slot
    exact ⟨.slot name, rest, rfl, parseFrom_slotText word rest⟩
  · cases cs with
    | nil => exact absurd rfl nonempty
    | cons c rest =>
      exact ⟨.char c, rest, rfl, parseFrom_char fun name word written => slot ⟨name, word, written⟩⟩

theorem parseFrom_eq_nil (parsed : parseFrom 0 cs = []) : cs = [] := by
  by_contra nonempty
  obtain ⟨p, rest, -, first⟩ := exists_piece nonempty
  cases parsed.symm.trans first

/-- Some pieces are spelled at the front, and the others are the template of what is left. -/
theorem parseFrom_eq_append (parsed : parseFrom 0 cs = t ++ u) :
    ∃ rest, cs = written t ++ rest ∧ parseFrom 0 rest = u := by
  induction t generalizing cs with
  | nil => exact ⟨cs, rfl, parsed⟩
  | cons p t ih =>
    have nonempty : cs ≠ [] := by
      rintro rfl
      cases parsed
    obtain ⟨p', tail, rfl, first⟩ := exists_piece nonempty
    obtain ⟨rfl, others⟩ := List.cons.inj (first.symm.trans parsed)
    obtain ⟨rest, rfl, left⟩ := ih others
    exact ⟨rest, by simp only [written, List.flatMap_cons, List.append_assoc], left⟩

/-- The pieces of a text spell it. -/
theorem written_parse (text : String) : written (parse text) = text.toList := by
  obtain ⟨rest, spelled, done⟩ := parseFrom_eq_append (List.append_nil (parse text)).symm
  rw [spelled, parseFrom_eq_nil done, List.append_nil]

/-- No slot is spelled out in single characters. -/
theorem not_slotText_isInfix (word : IsSlotName name) (text : String) :
    ¬(slotText name).map Piece.char <:+: parse text := by
  rintro ⟨before, after, parsed⟩
  rw [List.append_assoc] at parsed
  obtain ⟨tail, -, parsed⟩ := parseFrom_eq_append parsed.symm
  obtain ⟨rest, rfl, -⟩ := parseFrom_eq_append parsed
  have spelled : written ((slotText name).map .char) = slotText name := by
    rw [written, List.flatMap_map]
    exact List.flatMap_singleton' _
  rw [spelled, parseFrom_slotText word] at parsed
  cases parsed

/-! ### Gaps -/

/-- The texts before, between and after the slots. -/
def gaps : Template → List (List Char)
  | [] => [[]]
  | .char c :: t => (gaps t).modifyHead (c :: ·)
  | .slot _ :: t => [] :: gaps t

/-- The names of the slots. -/
def names : Template → List (List Char)
  | [] => []
  | .char _ :: t => names t
  | .slot name :: t => name :: names t

theorem exists_gaps (t : Template) : ∃ first others, gaps t = first :: others := by
  induction t with
  | nil => exact ⟨[], [], rfl⟩
  | cons p t ih =>
    obtain ⟨first, others, ih⟩ := ih
    cases p with
    | char c => exact ⟨c :: first, others, by rw [gaps, ih]; rfl⟩
    | slot name => exact ⟨[], first :: others, by rw [gaps, ih]⟩

theorem length_gaps (t : Template) : (gaps t).length = (names t).length + 1 := by
  induction t with
  | nil => rfl
  | cons p t ih =>
    cases p with
    | char c => rw [gaps, names, List.length_modifyHead, ih]
    | slot name => rw [gaps, names, List.length_cons, List.length_cons, ih]

/-- The first gap stands at the front. -/
theorem isPrefix_of_gaps {first : List Char} {others : List (List Char)}
    (h : gaps t = first :: others) : first.map Piece.char <+: t := by
  induction t generalizing first others with
  | nil =>
    cases h
    exact List.nil_prefix
  | cons p t ih =>
    cases p with
    | char c =>
      obtain ⟨first', others', gaps_t⟩ := exists_gaps t
      rw [gaps, gaps_t] at h
      cases h
      exact List.cons_prefix_cons.2 ⟨rfl, ih gaps_t⟩
    | slot name =>
      cases h
      exact List.nil_prefix

theorem isInfix_of_mem_gaps (mem : gap ∈ gaps t) : gap.map Piece.char <:+: t := by
  induction t with
  | nil =>
    cases List.mem_singleton.1 mem
    exact List.nil_infix
  | cons p t ih =>
    cases p with
    | char c =>
      obtain ⟨first, others, gaps_t⟩ := exists_gaps t
      rw [gaps, gaps_t] at mem
      rcases List.mem_cons.1 mem with rfl | behind
      · exact (List.cons_prefix_cons.2 ⟨rfl, isPrefix_of_gaps gaps_t⟩).isInfix
      · exact (ih (gaps_t ▸ List.mem_cons_of_mem _ behind)).trans (List.suffix_cons _ _).isInfix
    | slot name =>
      rcases List.mem_cons.1 mem with rfl | behind
      · exact List.nil_infix
      · exact (ih behind).trans (List.suffix_cons _ _).isInfix

/-- All slots of a text are among its pieces. -/
theorem not_hasSlot_of_mem_gaps {text : String} (mem : gap ∈ gaps (parse text)) :
    ¬HasSlot gap := by
  rintro ⟨name, word, written⟩
  exact not_slotText_isInfix word text
    ((written.map Piece.char).trans (isInfix_of_mem_gaps mem))

/-! ### Filling in -/

/-- Gaps with a text after each. -/
def weave : List (List Char) → List (List Char) → List Char
  | gap :: gaps, value :: values => gap ++ value ++ weave gaps values
  | gaps, _ => gaps.flatten

/-- Characters are kept and slots are replaced, so what comes in the place of the slots stands
between the gaps. -/
theorem flatMap_eq_weave {f : Piece → List Char} (kept : ∀ c, f (.char c) = [c]) (t : Template) :
    t.flatMap f = weave (gaps t) ((names t).map fun name => f (.slot name)) := by
  induction t with
  | nil => rfl
  | cons p t ih =>
    rw [List.flatMap_cons, ih]
    cases p with
    | char c =>
      obtain ⟨first, others, gaps_t⟩ := exists_gaps t
      rw [kept, gaps, names, gaps_t]
      cases names t <;> rfl
    | slot name => rfl

theorem toList_eq_weave (text : String) :
    text.toList = weave (gaps (parse text)) ((names (parse text)).map slotText) := by
  rw [← written_parse, written, flatMap_eq_weave fun _ => rfl]
  rfl

theorem toList_fill (value : String → Option String) (t : Template) :
    (t.fill value).toList =
      weave (gaps t) ((names t).map fun name => (Piece.slot name).fill value) := by
  rw [fill, String.toList_ofList, flatMap_eq_weave fun _ => rfl]

end Template

end PromptBroker.Text
