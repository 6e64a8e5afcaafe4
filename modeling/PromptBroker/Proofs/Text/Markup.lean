import PromptBroker.Proofs.Text.Separator
import PromptBroker.Text.Markup

/-!
# Text without tags

A text has a tag if somewhere in it a `>` comes after a `<`, however far. Where there is
none, nothing is replaced; and when tags are removed none are left, although the removal
brings characters together: the `<` of a tag that would arise has a `>` behind it in the
text as it was, so it would have been removed itself. So removing tags twice is removing
them once (`stripTags_stripTags`).
-/

namespace PromptBroker.Text

variable {c : Char} {cs rest : List Char} {s : String}

/-- Somewhere a `>` comes after a `<`. -/
def HasTag (cs : List Char) : Prop :=
  ∃ before after, cs = before ++ '<' :: after ∧ '>' ∈ after

theorem not_hasTag_nil : ¬HasTag [] := by
  rintro ⟨before, after, whole, -⟩
  cases before <;> cases whole

theorem hasTag_cons : HasTag (c :: rest) ↔ (c = '<' ∧ '>' ∈ rest) ∨ HasTag rest := by
  constructor
  · rintro ⟨before, after, whole, closes⟩
    cases before with
    | nil =>
      obtain ⟨rfl, rfl⟩ := List.cons.inj whole
      exact .inl ⟨rfl, closes⟩
    | cons d before =>
      obtain ⟨rfl, rfl⟩ := List.cons.inj whole
      exact .inr ⟨before, after, rfl, closes⟩
  · rintro (⟨rfl, closes⟩ | ⟨before, after, rfl, closes⟩)
    · exact ⟨[], rest, rfl, closes⟩
    · exact ⟨c :: before, after, rfl, closes⟩

theorem HasTag.opens (h : HasTag cs) : '<' ∈ cs := by
  obtain ⟨before, after, rfl, -⟩ := h
  exact List.mem_append_right _ List.mem_cons_self

theorem HasTag.closes (h : HasTag cs) : '>' ∈ cs := by
  obtain ⟨before, after, rfl, closes⟩ := h
  exact List.mem_append_right _ (List.mem_cons_of_mem _ closes)

/-- Without a `<` there is no tag. -/
theorem not_hasTag_of_not_mem (h : '<' ∉ cs) : ¬HasTag cs := fun tag => h tag.opens

theorem replaceTags_cons_of_ne {replacement : List Char} (h : c ≠ '<') :
    replaceTags replacement (c :: rest) = c :: replaceTags replacement rest := by
  rw [replaceTags, if_neg h]

theorem replaceTags_append_of_not_mem {front replacement : List Char} (plain : '<' ∉ front) :
    replaceTags replacement (front ++ rest) = front ++ replaceTags replacement rest := by
  induction front with
  | nil => rfl
  | cons c front ih =>
    obtain ⟨first, others⟩ := not_or.1 (mt List.mem_cons.2 plain)
    rw [List.cons_append, replaceTags_cons_of_ne (Ne.symm first), ih others, List.cons_append]

/-- A tag ends at the first `>`. -/
theorem replaceTags_tag {front replacement : List Char} (plain : '>' ∉ front) :
    replaceTags replacement ('<' :: (front ++ '>' :: rest)) =
      replacement ++ replaceTags replacement rest := by
  rw [replaceTags, if_pos rfl]
  split
  · next unclosed => rw [dropWhile_ne_append plain] at unclosed; cases unclosed
  · next closed => rw [dropWhile_ne_append plain] at closed; cases closed; rfl

theorem replaceTags_of_not_hasTag (replacement : List Char) (h : ¬HasTag cs) :
    replaceTags replacement cs = cs := by
  induction cs with
  | nil => rw [replaceTags]
  | cons c rest ih =>
    obtain ⟨first, others⟩ := not_or.1 (mt hasTag_cons.2 h)
    rw [replaceTags]
    by_cases opens : c = '<'
    · have unclosed : rest.dropWhile (· != '>') = [] :=
        dropWhile_ne_eq_nil.2 fun closes => first ⟨opens, closes⟩
      rw [if_pos opens]
      split
      · rfl
      · next closed => rw [unclosed] at closed; cases closed
    · rw [if_neg opens, ih others]

/-- A tag that does not open in front opens behind. -/
theorem hasTag_append_of_not_mem {front : List Char} (plain : '<' ∉ front) :
    HasTag (front ++ cs) ↔ HasTag cs := by
  induction front with
  | nil => rfl
  | cons c front ih =>
    obtain ⟨first, others⟩ := not_or.1 (mt List.mem_cons.2 plain)
    rw [List.cons_append, hasTag_cons, ih others]
    exact or_iff_right fun opens => first opens.1.symm

/-- A part of a text without tags has none. -/
theorem HasTag.of_isInfix {part : List Char} (h : HasTag part) (inside : part <:+: cs) :
    HasTag cs := by
  obtain ⟨before, after, rfl, closes⟩ := h
  obtain ⟨front, behind, rfl⟩ := inside
  exact ⟨front ++ before, after ++ behind, by simp, List.mem_append_left behind closes⟩

/-- What stands in place of the tags opens none. -/
theorem not_hasTag_replaceTags {replacement : List Char} (plain : '<' ∉ replacement)
    (cs : List Char) : ¬HasTag (replaceTags replacement cs) := by
  fun_induction replaceTags replacement cs with
  | case1 => exact not_hasTag_nil
  | case2 rest unclosed =>
    -- What opens here is not closed, so nothing that opens further on is closed either.
    intro tag
    rcases hasTag_cons.1 tag with ⟨-, closes⟩ | tag
    · exact dropWhile_ne_eq_nil.1 unclosed closes
    · exact dropWhile_ne_eq_nil.1 unclosed tag.closes
  | case3 rest d after closed ih => exact mt (hasTag_append_of_not_mem plain).1 ih
  | case4 c rest other ih =>
    intro tag
    rcases hasTag_cons.1 tag with ⟨opens, -⟩ | tag
    · exact other opens
    · exact ih tag

theorem stripTags_of_not_hasTag (h : ¬HasTag s.toList) : stripTags s = s := by
  rw [stripTags, replaceTags_of_not_hasTag [] h, String.ofList_toList]

/-- No tag is left to be removed. -/
theorem not_hasTag_stripTags (s : String) : ¬HasTag (stripTags s).toList := by
  rw [stripTags, String.toList_ofList]
  exact not_hasTag_replaceTags List.not_mem_nil s.toList

theorem stripTags_stripTags (s : String) : stripTags (stripTags s) = stripTags s :=
  stripTags_of_not_hasTag (not_hasTag_stripTags s)

end PromptBroker.Text
