import PromptBroker.Proofs.Text.LineBreaks

/-!
# Tags as spans

A text with tags is, in one way only, a row of tags with text in front of each and behind
the last (`SpansOf`). Nothing opens in front of a tag, each runs to the next `>`, and behind
the last one no `<` is closed: so they are the leftmost tags that do not overlap. Removing
tags deletes them and keeps all other characters in order. No tag arises from the
characters that this brings together, so a text is left as it is exactly if it has no tag
(`stripTags_projection`).
-/

namespace PromptBroker.Text

/-- A tag and the text in front of it, back to the tag before. -/
structure Span where
  /-- What stands between the tag before and the `<`. -/
  front : List Char
  /-- What stands between the `<` and the `>`. -/
  inside : List Char

namespace Span

/-- How a tag is written with the text in front of it. -/
def written (p : Span) : List Char := p.front ++ '<' :: (p.inside ++ ['>'])

end Span

/-- The tags of a text, leftmost first, and the text behind the last one. -/
structure SpansOf (cs : List Char) (spans : List Span) (behind : List Char) : Prop where
  whole : cs = spans.flatMap Span.written ++ behind
  leftmost : ∀ p ∈ spans, '<' ∉ p.front
  next : ∀ p ∈ spans, '>' ∉ p.inside
  last : ¬HasTag behind

variable {cs behind behind' : List Char} {p : Span} {spans spans' : List Span}
  {parts : List Fragment}

theorem spansOf_nil : SpansOf cs [] behind ↔ cs = behind ∧ ¬HasTag behind := by
  constructor
  · intro h
    exact ⟨h.whole, h.last⟩
  · rintro ⟨rfl, last⟩
    exact ⟨rfl, by simp, by simp, last⟩

theorem spansOf_cons : SpansOf cs (p :: spans) behind ↔
    ∃ rest, cs = p.front ++ '<' :: (p.inside ++ '>' :: rest) ∧ '<' ∉ p.front ∧ '>' ∉ p.inside ∧
      SpansOf rest spans behind := by
  constructor
  · rintro ⟨rfl, leftmost, next, last⟩
    rw [List.forall_mem_cons] at leftmost next
    refine ⟨spans.flatMap Span.written ++ behind, by simp [Span.written], leftmost.1, next.1, ?_⟩
    exact ⟨rfl, leftmost.2, next.2, last⟩
  · rintro ⟨rest, rfl, leftmost, next, others⟩
    refine ⟨by simp [Span.written, others.whole], ?_, ?_, others.last⟩
    · exact List.forall_mem_cons.2 ⟨leftmost, others.leftmost⟩
    · exact List.forall_mem_cons.2 ⟨next, others.next⟩

/-- A text with a tag in front has one. -/
theorem hasTag_of_spansOf_cons (h : SpansOf cs (p :: spans) behind) : HasTag cs := by
  obtain ⟨rest, rfl, -, -, -⟩ := spansOf_cons.1 h
  exact ⟨p.front, p.inside ++ '>' :: rest, rfl, by simp⟩

/-- The tags are found in a cut of the text: what is kept in front of a tag does not open one. -/
theorem Cut.exists_spansOf (h : Cut cs parts) : ∃ spans behind, SpansOf cs spans behind := by
  induction h with
  | nil => exact ⟨[], [], spansOf_nil.2 ⟨rfl, not_hasTag_nil⟩⟩
  | @kept c rest parts plain _ ih =>
    obtain ⟨spans, behind, others⟩ := ih
    cases spans with
    | nil =>
      obtain ⟨rfl, last⟩ := spansOf_nil.1 others
      refine ⟨[], c :: rest, spansOf_nil.2 ⟨rfl, ?_⟩⟩
      intro tag
      rcases hasTag_cons.1 tag with ⟨opens, closes⟩ | tag
      · exact plain opens closes
      · exact last tag
    | cons p spans =>
      have closes := (hasTag_of_spansOf_cons others).closes
      obtain ⟨rest, rfl, leftmost, next, others⟩ := spansOf_cons.1 others
      refine ⟨⟨c :: p.front, p.inside⟩ :: spans, behind, ?_⟩
      refine spansOf_cons.2 ⟨rest, rfl, ?_, next, others⟩
      intro opens
      rcases List.mem_cons.1 opens with opens | opens
      · exact plain opens.symm closes
      · exact leftmost opens
  | @tag inside rest parts next _ ih =>
    obtain ⟨spans, behind, others⟩ := ih
    exact ⟨⟨[], inside⟩ :: spans, behind, spansOf_cons.2 ⟨rest, rfl, by simp, next, others⟩⟩

theorem SpansOf.unique (h : SpansOf cs spans behind) (h' : SpansOf cs spans' behind') :
    spans = spans' ∧ behind = behind' := by
  induction spans generalizing cs spans' with
  | nil =>
    obtain ⟨rfl, none⟩ := spansOf_nil.1 h
    cases spans' with
    | nil => exact ⟨rfl, (spansOf_nil.1 h').1⟩
    | cons p' spans' => exact absurd (hasTag_of_spansOf_cons h') none
  | cons p spans ih =>
    cases spans' with
    | nil =>
      obtain ⟨rfl, none⟩ := spansOf_nil.1 h'
      exact absurd (hasTag_of_spansOf_cons h) none
    | cons p' spans' =>
      obtain ⟨rest, rfl, leftmost, next, others⟩ := spansOf_cons.1 h
      obtain ⟨rest', same, leftmost', next', others'⟩ := spansOf_cons.1 h'
      obtain ⟨front, same⟩ := append_cons_inj leftmost leftmost' same
      obtain ⟨inside, rfl⟩ := append_cons_inj next next' same
      obtain ⟨rfl, rfl⟩ := ih others others'
      cases p
      cases p'
      cases front
      cases inside
      exact ⟨rfl, rfl⟩

/-- The tags are replaced, and everything else stays. -/
theorem SpansOf.replaceTags_eq (h : SpansOf cs spans behind) (replacement : List Char) :
    replaceTags replacement cs = (spans.flatMap fun p => p.front ++ replacement) ++ behind := by
  induction spans generalizing cs with
  | nil =>
    obtain ⟨rfl, none⟩ := spansOf_nil.1 h
    exact replaceTags_of_not_hasTag replacement none
  | cons p spans ih =>
    obtain ⟨rest, rfl, leftmost, next, others⟩ := spansOf_cons.1 h
    rw [replaceTags_append_of_not_mem leftmost, replaceTags_tag next, ih others]
    simp

theorem stripTags_eq_self_iff {s : String} : stripTags s = s ↔ ¬HasTag s.toList := by
  constructor
  · intro same
    rw [← same]
    exact not_hasTag_stripTags s
  · exact stripTags_of_not_hasTag

/-- Removing tags deletes the leftmost tags that do not overlap and nothing else. It leaves no tag
behind, so that doing it twice is doing it once, and it leaves a text as it is exactly if that has
no tag. -/
theorem stripTags_projection (s : String) :
    ¬HasTag (stripTags s).toList ∧
    (∃! parts : List Span × List Char, SpansOf s.toList parts.1 parts.2) ∧
    (∀ spans behind, SpansOf s.toList spans behind →
      (stripTags s).toList = spans.flatMap Span.front ++ behind) ∧
    stripTags (stripTags s) = stripTags s ∧
    (stripTags s = s ↔ ¬HasTag s.toList) := by
  refine ⟨not_hasTag_stripTags s, ?_, ?_, stripTags_stripTags s, stripTags_eq_self_iff⟩
  · obtain ⟨parts, cut⟩ := exists_cut s.toList
    obtain ⟨spans, behind, found⟩ := cut.exists_spansOf
    refine ⟨(spans, behind), found, ?_⟩
    rintro ⟨spans', behind'⟩ found'
    obtain ⟨rfl, rfl⟩ := found.unique found'
    rfl
  · intro spans behind found
    rw [stripTags, String.toList_ofList, found.replaceTags_eq]
    simp

end PromptBroker.Text
