import Mathlib
import PromptBroker.Text.Markup

/-!
# Words

The words of a text are its longest runs without a blank. Collapsing the blanks of a text and
trimming it leaves its words, with one space between any two of them
(`trimChars_collapseBlanks`). Collapsing by itself may leave one more space at either end; the
one in front is there exactly if the text begins with a blank, which is what carries the
induction.
-/

namespace PromptBroker.Text

variable {c : Char} {cs rest before after : List Char}

/-- The words of a text. -/
def words (cs : List Char) : List (List Char) := (cs.splitOnP isBlank).filter (· != [])

/-- Words with a space between any two of them. -/
def spaced (ws : List (List Char)) : List Char := [' '].intercalate ws

/-! ### The words of a text -/

@[simp] theorem words_nil : words [] = [] := by
  simp [words, List.splitOnP_nil]

/-- A blank in front belongs to no word. -/
@[simp] theorem words_cons_of_blank (h : isBlank c = true) : words (c :: rest) = words rest := by
  rw [words, List.splitOnP_cons_eq_if_modifyHead, if_pos h, List.filter_cons_of_neg (by simp)]
  rfl

/-- In front of a blank, or of nothing, a character is a word of its own. -/
theorem words_cons_of_head (h : isBlank c = false) (next : ∀ d ∈ rest.head?, isBlank d = true) :
    words (c :: rest) = [c] :: words rest := by
  rw [words, List.splitOnP_cons_eq_if_modifyHead, if_neg (by simp [h]), words]
  cases rest with
  | nil => simp [List.splitOnP_nil]
  | cons d rest =>
    rw [List.splitOnP_cons_eq_if_modifyHead, if_pos (next d rfl)]
    simp

/-- In front of another character that is not blank, a character is part of the same word. -/
theorem exists_words_cons_cons {d : Char} (h : isBlank c = false) (next : isBlank d = false) :
    ∃ w ws, words (d :: rest) = w :: ws ∧ words (c :: d :: rest) = (c :: w) :: ws := by
  obtain ⟨r, rs, split⟩ := List.exists_cons_of_ne_nil (List.splitOnP_ne_nil isBlank rest)
  refine ⟨d :: r, rs.filter (· != []), ?_, ?_⟩ <;>
    simp [words, List.splitOnP_cons_eq_if_modifyHead, h, next, split]

/-- A word is not empty and holds no blank. -/
theorem of_mem_words {w : List Char} (member : w ∈ words cs) :
    w ≠ [] ∧ ∀ c ∈ w, isBlank c = false := by
  induction cs generalizing w with
  | nil => simp at member
  | cons c rest ih =>
    by_cases blank : isBlank c = true
    · exact ih (by simpa [blank] using member)
    have plain : isBlank c = false := Bool.eq_false_iff.2 blank
    by_cases next : ∀ d ∈ rest.head?, isBlank d = true
    · rw [words_cons_of_head plain next] at member
      rcases List.mem_cons.1 member with rfl | member
      · simpa using plain
      · exact ih member
    · cases rest with
      | nil => exact absurd (by simp) next
      | cons d rest =>
        have inner : isBlank d = false := by simpa using next
        obtain ⟨w', ws, one, two⟩ := exists_words_cons_cons plain inner
        rw [one] at ih
        rw [two] at member
        rcases List.mem_cons.1 member with rfl | member
        · refine ⟨List.cons_ne_nil c w', List.forall_mem_cons.2 ⟨plain, ?_⟩⟩
          exact (ih List.mem_cons_self).2
        · exact ih (List.mem_cons_of_mem w' member)

/-! ### Words with spaces between them -/

@[simp] theorem spaced_cons_cons (w v : List Char) (ws : List (List Char)) :
    spaced (w :: v :: ws) = w ++ ' ' :: spaced (v :: ws) := by
  simp [spaced, List.intercalate_cons_cons]

@[simp] theorem spaced_cons_append (c : Char) (w : List Char) (ws : List (List Char)) :
    spaced ((c :: w) :: ws) = c :: spaced (w :: ws) := by
  cases ws with
  | nil => simp [spaced]
  | cons v ws => simp

/-- Words begin with a character that is not blank. -/
theorem head?_spaced (ws : List (List Char))
    (plain : ∀ w ∈ ws, w ≠ [] ∧ ∀ c ∈ w, isBlank c = false) :
    (spaced ws).head?.any isBlank = false := by
  cases ws with
  | nil => rfl
  | cons w ws =>
    obtain ⟨nonempty, clean⟩ := plain w List.mem_cons_self
    obtain ⟨c, w, rfl⟩ := List.exists_cons_of_ne_nil nonempty
    simpa using clean c List.mem_cons_self

/-- Words end with a character that is not blank. -/
theorem getLast?_spaced (ws : List (List Char))
    (plain : ∀ w ∈ ws, w ≠ [] ∧ ∀ c ∈ w, isBlank c = false) :
    (spaced ws).getLast?.any isBlank = false := by
  induction ws with
  | nil => rfl
  | cons w ws ih =>
    obtain ⟨⟨nonempty, clean⟩, others⟩ := List.forall_mem_cons.1 plain
    cases ws with
    | nil =>
      obtain ⟨w, c, rfl⟩ := List.eq_nil_or_concat w |>.resolve_left nonempty
      simpa [spaced] using clean c (by simp)
    | cons v ws =>
      obtain ⟨d, v, rfl⟩ := List.exists_cons_of_ne_nil (others v List.mem_cons_self).1
      have last := ih others
      rw [spaced_cons_append] at last
      rw [spaced_cons_cons, spaced_cons_append, List.getLast?_append_cons, List.getLast?_cons_cons]
      exact last

/-! ### Collapsing and trimming -/

@[simp] theorem collapseBlanks_cons_of_not_blank (h : isBlank c = false) :
    collapseBlanks (c :: rest) = c :: collapseBlanks rest := by
  rw [collapseBlanks.eq_def]
  simp only [h, Bool.false_eq_true, if_false]

/-- Of a run of blanks the last one counts. -/
@[simp] theorem collapseBlanks_cons_of_blank (h : isBlank c = true) :
    collapseBlanks (c :: rest) =
      if rest.head?.any isBlank then collapseBlanks rest else ' ' :: collapseBlanks rest := by
  rw [collapseBlanks.eq_def]
  simp only [h, if_true]
  cases rest with
  | nil => rfl
  | cons d rest => rfl

/-- The space that collapsing leaves in front. -/
def lead (cs : List Char) : List Char := if cs.head?.any isBlank then [' '] else []

@[simp] theorem lead_of_blank (h : isBlank c = true) : lead (c :: rest) = [' '] := if_pos h

@[simp] theorem lead_of_not_blank (h : isBlank c = false) : lead (c :: rest) = [] :=
  if_neg (by simp [h])

/-- Collapsing leaves the words and at most blanks around them. -/
theorem exists_collapseBlanks_eq (cs : List Char) :
    ∃ after, (∀ c ∈ after, isBlank c = true) ∧
      collapseBlanks cs = lead cs ++ (spaced (words cs) ++ after) := by
  induction cs with
  | nil => exact ⟨[], by simp, by simp [collapseBlanks, lead, spaced]⟩
  | cons c rest ih =>
    obtain ⟨after, blanks, collapsed⟩ := ih
    by_cases blank : isBlank c = true
    · refine ⟨after, blanks, ?_⟩
      rw [collapseBlanks_cons_of_blank blank, words_cons_of_blank blank, lead_of_blank blank,
        collapsed]
      unfold lead
      split <;> rfl
    have plain : isBlank c = false := Bool.eq_false_iff.2 blank
    rw [collapseBlanks_cons_of_not_blank plain, lead_of_not_blank plain, collapsed]
    cases rest with
    | nil => exact ⟨after, blanks, by rw [words_cons_of_head plain (by simp), words_nil]; rfl⟩
    | cons d rest =>
      by_cases next : isBlank d = true
      · -- The space behind the character goes in front of the next word, if there is one.
        rw [words_cons_of_head plain (by simpa using next), lead_of_blank next]
        cases words (d :: rest) with
        | nil => exact ⟨' ' :: after, List.forall_mem_cons.2 ⟨isBlank_space, blanks⟩, rfl⟩
        | cons w ws => exact ⟨after, blanks, by rw [spaced_cons_cons]; simp⟩
      · have inner : isBlank d = false := Bool.eq_false_iff.2 next
        obtain ⟨w, ws, one, two⟩ : ∃ w ws, words (d :: rest) = w :: ws ∧
            words (c :: d :: rest) = (c :: w) :: ws := exists_words_cons_cons plain inner
        refine ⟨after, blanks, ?_⟩
        rw [one, two, lead_of_not_blank inner, spaced_cons_append]
        rfl

theorem dropWhile_blanks_append (blanks : ∀ c ∈ before, isBlank c = true)
    (edge : cs.head?.any isBlank = false) : (before ++ cs).dropWhile isBlank = cs := by
  rw [List.dropWhile_append_of_pos blanks]
  cases cs with
  | nil => rfl
  | cons c cs => exact List.dropWhile_cons_of_neg (by simpa using edge)

/-- Trimming takes away the blanks around a text without blanks at its ends. -/
theorem trimChars_blanks_append (front : ∀ c ∈ before, isBlank c = true)
    (behind : ∀ c ∈ after, isBlank c = true) (first : cs.head?.any isBlank = false)
    (last : cs.getLast?.any isBlank = false) : trimChars (before ++ (cs ++ after)) = cs := by
  cases cs with
  | nil =>
    have none : (before ++ after).dropWhile isBlank = [] :=
      List.dropWhile_eq_nil_iff.2 (List.forall_mem_append.2 ⟨front, behind⟩)
    simp [trimChars, none]
  | cons c cs =>
    unfold trimChars
    rw [dropWhile_blanks_append front (by simpa using first), List.reverse_append,
      dropWhile_blanks_append (by simpa using behind) (by rwa [List.head?_reverse]),
      List.reverse_reverse]

/-- A text whose blanks are collapsed and which is trimmed consists of its words, with one space
between any two of them. -/
theorem trimChars_collapseBlanks (cs : List Char) :
    trimChars (collapseBlanks cs) = spaced (words cs) := by
  obtain ⟨after, blanks, collapsed⟩ := exists_collapseBlanks_eq cs
  have front : ∀ c ∈ lead cs, isBlank c = true := by
    unfold lead
    split <;> simp [isBlank_space]
  have plain : ∀ w ∈ words cs, w ≠ [] ∧ ∀ c ∈ w, isBlank c = false := fun w => of_mem_words
  rw [collapsed]
  exact trimChars_blanks_append front blanks (head?_spaced _ plain) (getLast?_spaced _ plain)

end PromptBroker.Text
