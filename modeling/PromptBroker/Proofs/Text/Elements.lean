import Mathlib.Tactic.ByContra
import PromptBroker.Proofs.Text.Markup

/-!
# Elements in text

Elements are found by their text: an opening tag of a name, and behind it the first closing tag
of the name. What decides is how a name is read (`afterName?_append`): in front of a character
that is no letter of the name, the reading depends only on what is written up to there. A
stretch of text without `<` neither begins an element nor ends one
(`dropElements_append_of_not_mem`, `afterFirstCloseTag?_append_of_not_mem`).
-/

namespace PromptBroker.Text

variable {c : Char} {name cs rest after written : List Char}

/-! ### Names -/

/-- A name is read off the front, so the rest of the text stands behind it. -/
theorem exists_eq_append_of_afterName? (h : afterName? name cs = some after) :
    ∃ written, cs = written ++ after := by
  induction name generalizing cs with
  | nil => exact ⟨[], by simpa [afterName?] using h⟩
  | cons letter name ih =>
    cases cs with
    | nil => cases h
    | cons c cs =>
      simp only [afterName?] at h
      split at h
      · obtain ⟨written, rfl⟩ := ih h
        exact ⟨c :: written, rfl⟩
      · cases h

/-- A name does not go on into a text that begins with no letter of it. -/
theorem afterName?_append
    (ends : ∀ c ∈ rest.head?, ∀ letter ∈ name, sameLetter letter c = false) :
    afterName? name (written ++ rest) = (afterName? name written).map (· ++ rest) := by
  induction name generalizing written with
  | nil => rfl
  | cons letter name ih =>
    cases written with
    | nil =>
      cases rest with
      | nil => rfl
      | cons c rest =>
        have other : sameLetter letter c = false := ends c rfl letter List.mem_cons_self
        simp [afterName?, other]
    | cons c written =>
      have later : ∀ c ∈ rest.head?, ∀ letter ∈ name, sameLetter letter c = false :=
        fun c hc letter h => ends c hc letter (List.mem_cons_of_mem _ h)
      simp only [List.cons_append, afterName?]
      split
      · exact ih later
      · rfl

/-- Besides the two ASCII cases of a letter only the long s and the Kelvin sign are taken for it. -/
theorem sameLetter_eq {letter c : Char} (usual : c.toNat < 128 ∨ letter ≠ 's' ∧ letter ≠ 'k') :
    sameLetter letter c = (c.toLower == letter) := by
  rcases usual with ascii | ⟨noS, noK⟩
  · have long : (c.toNat == 0x17F) = false := by simp; omega
    have kelvin : (c.toNat == 0x212A) = false := by simp; omega
    simp [sameLetter, long, kelvin]
  · have long : (letter == 's') = false := beq_eq_false_iff_ne.2 noS
    have kelvin : (letter == 'k') = false := beq_eq_false_iff_ne.2 noK
    simp [sameLetter, long, kelvin]

/-- A name is read where the text begins with it, in lower case. -/
theorem afterName?_eq
    (usual : ∀ letter ∈ name, letter ≠ 's' ∧ letter ≠ 'k') :
    afterName? name cs =
      if name <+: cs.map Char.toLower then some (cs.drop name.length) else none := by
  induction name generalizing cs with
  | nil => simp [afterName?]
  | cons letter name ih =>
    obtain ⟨first, others⟩ := List.forall_mem_cons.1 usual
    cases cs with
    | nil => simp [afterName?]
    | cons c cs =>
      rw [afterName?, sameLetter_eq (.inr first), ih others]
      by_cases same : c.toLower = letter
      · simp [same]
      · simp [same, Ne.symm same]

/-- A text that begins with an ASCII character may begin with any letter of a name. -/
theorem afterName?_cons_eq {letter c : Char} (ascii : c.toNat < 128)
    (usual : ∀ letter ∈ name, letter ≠ 's' ∧ letter ≠ 'k') :
    afterName? (letter :: name) (c :: cs) =
      if letter :: name <+: (c :: cs).map Char.toLower then some (cs.drop name.length)
      else none := by
  rw [afterName?, sameLetter_eq (.inl ascii), afterName?_eq usual]
  by_cases same : c.toLower = letter
  · simp [same]
  · simp [same, Ne.symm same]

/-! ### Tags and elements -/

theorem mem_of_afterClose? (h : afterClose? cs = some after) : '>' ∈ cs := by
  by_contra unclosed
  rw [afterClose?, dropWhile_ne_eq_nil.2 unclosed] at h
  cases h

theorem afterClose?_append (plain : '>' ∉ written) :
    afterClose? (written ++ '>' :: rest) = some rest := by
  rw [afterClose?, dropWhile_ne_append plain]

/-- An opening tag has both its brackets. -/
theorem exists_of_afterOpenTag? (h : afterOpenTag? name cs = some after) :
    ∃ rest, cs = '<' :: rest ∧ '>' ∈ rest := by
  unfold afterOpenTag? at h
  split at h
  · next rest =>
    refine ⟨rest, rfl, ?_⟩
    split at h
    · next behind named =>
      obtain ⟨written, rfl⟩ := exists_eq_append_of_afterName? named
      split at h
      · cases h
      · exact List.mem_append_right _ (mem_of_afterClose? h)
    · cases h
  · cases h

theorem afterOpenTag?_cons_of_ne (h : c ≠ '<') : afterOpenTag? name (c :: cs) = none := by
  unfold afterOpenTag?
  split
  · next same => exact absurd (List.cons.inj same).1 h
  · rfl

theorem afterCloseTag?_cons_of_ne (h : c ≠ '<') : afterCloseTag? name (c :: cs) = none := by
  unfold afterCloseTag?
  split
  · next same => exact absurd (List.cons.inj same).1 h
  · rfl

theorem afterCloseTag?_cons_cons_of_ne (h : c ≠ '/') :
    afterCloseTag? name ('<' :: c :: cs) = none := by
  unfold afterCloseTag?
  split
  · next same => exact absurd (List.cons.inj (List.cons.inj same).2).1 h
  · rfl

theorem afterFirstCloseTag?_cons_of_some (h : afterCloseTag? name (c :: cs) = some after) :
    afterFirstCloseTag? name (c :: cs) = some after := by
  rw [afterFirstCloseTag?, h]

theorem afterFirstCloseTag?_cons_of_none (h : afterCloseTag? name (c :: cs) = none) :
    afterFirstCloseTag? name (c :: cs) = afterFirstCloseTag? name cs := by
  rw [afterFirstCloseTag?, h]

/-- No element ends where there is no `<`. -/
theorem afterFirstCloseTag?_append_of_not_mem (plain : '<' ∉ written) :
    afterFirstCloseTag? name (written ++ rest) = afterFirstCloseTag? name rest := by
  induction written with
  | nil => rfl
  | cons c written ih =>
    obtain ⟨first, others⟩ := not_or.1 (mt List.mem_cons.2 plain)
    rw [List.cons_append,
      afterFirstCloseTag?_cons_of_none (afterCloseTag?_cons_of_ne (Ne.symm first)), ih others]

theorem dropElements_nil : dropElements name [] = [] := by
  rw [dropElements]

theorem dropElements_cons_of_some (h : afterElement? name (c :: cs) = some after) :
    dropElements name (c :: cs) = ' ' :: dropElements name after := by
  rw [dropElements]
  split
  · next found => rw [Option.some.inj (h.symm.trans found)]
  · next missing => rw [h] at missing; cases missing

theorem dropElements_cons_of_none (h : afterElement? name (c :: cs) = none) :
    dropElements name (c :: cs) = c :: dropElements name cs := by
  rw [dropElements]
  split
  · next found => rw [h] at found; cases found
  · rfl

/-- No element begins where there is no `<`. -/
theorem dropElements_append_of_not_mem (plain : '<' ∉ written) :
    dropElements name (written ++ rest) = written ++ dropElements name rest := by
  induction written with
  | nil => rfl
  | cons c written ih =>
    obtain ⟨first, others⟩ := not_or.1 (mt List.mem_cons.2 plain)
    have none : afterElement? name (c :: (written ++ rest)) = none := by
      rw [afterElement?, afterOpenTag?_cons_of_ne (Ne.symm first), Option.bind_none]
    rw [List.cons_append, dropElements_cons_of_none none, ih others, List.cons_append]

end PromptBroker.Text
