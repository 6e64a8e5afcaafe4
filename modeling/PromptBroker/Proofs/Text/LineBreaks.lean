import Mathlib
import PromptBroker.Proofs.Text.Markup
import PromptBroker.Purpose.Prompt

/-!
# Line breaks in text whose tags are removed

Removing tags cuts a text into tags, leftmost first, and the characters between them,
which stay (`Cut`). The line breaks between tags stay as well; those inside of a tag go
with it. A tag is any `<` up to the next `>`, and it may run over lines, so a text keeps
its line breaks exactly if none of them stands between a `<` and the next `>`
(`BreaksInTag`). In a transcript a comparison is enough to lose some: the `<` in `a < b` is
closed by the arrow of the next cue.
-/

namespace PromptBroker.Text

variable {c : Char} {cs rest inside : List Char} {s : String}

/-! ### Tags and what stands between them -/

/-- A part of a text: a character between tags, or a tag with what stands inside of it. -/
inductive Fragment
  | kept (c : Char)
  | tag (inside : List Char)

namespace Fragment

/-- How a part is written. -/
def written : Fragment → List Char
  | .kept c => [c]
  | .tag inside => '<' :: (inside ++ ['>'])

/-- What is left of a part. -/
def left : Fragment → List Char
  | .kept c => [c]
  | .tag _ => []

/-- The line breaks that go with a part. -/
def lost : Fragment → Nat
  | .kept _ => 0
  | .tag inside => inside.count '\n'

theorem count_written (p : Fragment) : p.written.count '\n' = p.left.count '\n' + p.lost := by
  cases p with
  | kept c => rfl
  | tag inside => simp [written, left, lost]

end Fragment

/-- A text and its parts. A `<` is between tags only if no `>` follows it. -/
inductive Cut : List Char → List Fragment → Prop
  | nil : Cut [] []
  | kept {c : Char} {rest : List Char} {parts : List Fragment} (plain : c = '<' → '>' ∉ rest)
      (others : Cut rest parts) : Cut (c :: rest) (.kept c :: parts)
  | tag {inside rest : List Char} {parts : List Fragment} (next : '>' ∉ inside)
      (others : Cut rest parts) : Cut ('<' :: (inside ++ '>' :: rest)) (.tag inside :: parts)

variable {parts others : List Fragment}

theorem Cut.flatMap_written (h : Cut cs parts) : parts.flatMap Fragment.written = cs := by
  induction h with
  | nil => rfl
  | kept plain others ih => simp [Fragment.written, ih]
  | tag next others ih => simp [Fragment.written, ih]

/-- A text has its parts in one way only. -/
theorem Cut.unique (h : Cut cs parts) (h' : Cut cs others) : parts = others := by
  induction h generalizing others with
  | nil =>
    cases h'
    rfl
  | kept plain _ ih =>
    cases h' with
    | kept _ h' => rw [ih h']
    | tag => exact absurd (List.mem_append_right _ List.mem_cons_self) (plain rfl)
  | @tag inside rest parts next _ ih =>
    generalize whole : '<' :: (inside ++ '>' :: rest) = cs at h'
    cases h' with
    | nil => cases whole
    | kept plain =>
      obtain ⟨rfl, rfl⟩ := List.cons.inj whole
      exact absurd (List.mem_append_right _ List.mem_cons_self) (plain rfl)
    | tag next' h' =>
      obtain ⟨rfl, rfl⟩ := append_cons_inj next next' (List.cons.inj whole).2
      rw [ih h']

theorem cut_of_unclosed (unclosed : '>' ∉ cs) : Cut cs (cs.map Fragment.kept) := by
  induction cs with
  | nil => exact .nil
  | cons c rest ih =>
    have behind : '>' ∉ rest := mt (List.mem_cons_of_mem c) unclosed
    exact .kept (fun _ => behind) (ih behind)

/-- Every text has parts: the run that removes the tags finds them. -/
theorem exists_cut (cs : List Char) : ∃ parts, Cut cs parts := by
  fun_induction replaceTags [] cs with
  | case1 => exact ⟨[], .nil⟩
  | case2 rest unclosed =>
    have behind := dropWhile_ne_eq_nil.1 unclosed
    exact ⟨_, .kept (fun _ => behind) (cut_of_unclosed behind)⟩
  | case3 rest d after closed ih =>
    obtain ⟨parts, cut⟩ := ih
    have closes : '>' ∈ rest := by
      by_contra unclosed
      rw [dropWhile_ne_eq_nil.2 unclosed] at closed
      cases closed
    obtain ⟨inside, behind, rfl, next⟩ := List.eq_append_cons_of_mem closes
    rw [dropWhile_ne_append next] at closed
    cases closed
    exact ⟨_, .tag next cut⟩
  | case4 c rest plain ih =>
    obtain ⟨parts, cut⟩ := ih
    exact ⟨_, .kept (fun opens => absurd opens plain) cut⟩

/-- Removing the tags leaves what stands between them. -/
theorem Cut.replaceTags_eq (h : Cut cs parts) :
    replaceTags [] cs = parts.flatMap Fragment.left := by
  induction h with
  | nil => rw [replaceTags]; rfl
  | @kept c rest parts plain others ih =>
    have left : (Fragment.kept c :: parts).flatMap Fragment.left = c :: replaceTags [] rest := by
      rw [ih]; rfl
    rw [left]
    by_cases opens : c = '<'
    · -- Nothing is closed from here on, so everything is left as it is.
      have unclosed := plain opens
      have none : ¬HasTag rest := fun tag => unclosed tag.closes
      have none' : ¬HasTag (c :: rest) := fun tag => by
        rcases hasTag_cons.1 tag with ⟨-, closes⟩ | tag
        · exact unclosed closes
        · exact none tag
      rw [replaceTags_of_not_hasTag [] none, replaceTags_of_not_hasTag [] none']
    · rw [replaceTags, if_neg opens]
  | @tag inside rest parts next others ih =>
    rw [replaceTags_tag next]
    exact ih

/-! ### Counting line breaks -/

/-- The number of line breaks. -/
def lineBreaks (s : String) : Nat := s.toList.count '\n'

/-- A line break stands between a `<` and the next `>`. -/
def BreaksInTag (cs : List Char) : Prop :=
  ∃ before inside after, cs = before ++ '<' :: (inside ++ '>' :: after) ∧ '>' ∉ inside ∧
    '\n' ∈ inside

theorem not_breaksInTag_nil : ¬BreaksInTag [] := by
  rintro ⟨before, inside, after, whole, -⟩
  cases before <;> cases whole

theorem breaksInTag_cons : BreaksInTag (c :: rest) ↔
    (c = '<' ∧ ∃ inside after, rest = inside ++ '>' :: after ∧ '>' ∉ inside ∧ '\n' ∈ inside) ∨
      BreaksInTag rest := by
  constructor
  · rintro ⟨before, inside, after, whole, next, breaks⟩
    cases before with
    | nil =>
      obtain ⟨rfl, rfl⟩ := List.cons.inj whole
      exact .inl ⟨rfl, inside, after, rfl, next, breaks⟩
    | cons d before =>
      obtain ⟨rfl, rfl⟩ := List.cons.inj whole
      exact .inr ⟨before, inside, after, rfl, next, breaks⟩
  · rintro (⟨rfl, inside, after, rfl, next, breaks⟩ | ⟨before, inside, after, rfl, next, breaks⟩)
    · exact ⟨[], inside, after, rfl, next, breaks⟩
    · exact ⟨c :: before, inside, after, rfl, next, breaks⟩

/-- A `>` opens nothing. -/
theorem breaksInTag_cons_close : BreaksInTag ('>' :: rest) ↔ BreaksInTag rest := by
  rw [breaksInTag_cons]
  simp

/-- What stands before the next `>` holds a line break if one is lost there. -/
theorem breaksInTag_append_close (next : '>' ∉ inside) (h : BreaksInTag (inside ++ '>' :: rest)) :
    '\n' ∈ inside ∨ BreaksInTag rest := by
  induction inside with
  | nil => exact .inr (breaksInTag_cons_close.1 h)
  | cons c inside ih =>
    have next' : '>' ∉ inside := mt (List.mem_cons_of_mem c) next
    rcases breaksInTag_cons.1 h with ⟨-, inside', after, whole, closes, breaks⟩ | h
    · obtain ⟨rfl, -⟩ := append_cons_inj next' closes whole
      exact .inl (List.mem_cons_of_mem c breaks)
    · exact (ih next' h).imp_left (List.mem_cons_of_mem c)

theorem breaksInTag_of_suffix (h : BreaksInTag rest) : BreaksInTag (cs ++ rest) := by
  obtain ⟨before, inside, after, rfl, next, breaks⟩ := h
  exact ⟨cs ++ before, inside, after, by simp, next, breaks⟩

/-- The line breaks between tags stay, the others go. -/
theorem Cut.count_eq (h : Cut cs parts) :
    cs.count '\n' = (replaceTags [] cs).count '\n' + (parts.map Fragment.lost).sum := by
  have counted : (parts.flatMap Fragment.written).count '\n' =
      (parts.flatMap Fragment.left).count '\n' + (parts.map Fragment.lost).sum := by
    clear h
    induction parts with
    | nil => rfl
    | cons p parts ih =>
      simp only [List.flatMap_cons, List.count_append, List.map_cons, List.sum_cons, ih,
        p.count_written]
      omega
  rwa [h.flatMap_written, ← h.replaceTags_eq] at counted

/-- Line breaks go exactly if one stands between a `<` and the next `>`. -/
theorem Cut.lost_eq_zero_iff (h : Cut cs parts) :
    (parts.map Fragment.lost).sum = 0 ↔ ¬BreaksInTag cs := by
  induction h with
  | nil => simp [not_breaksInTag_nil]
  | @kept c rest parts plain others ih =>
    have same : BreaksInTag (c :: rest) ↔ BreaksInTag rest := by
      rw [breaksInTag_cons]
      refine or_iff_right ?_
      rintro ⟨opens, inside, after, rfl, -⟩
      exact plain opens (by simp)
    simpa [Fragment.lost, same] using ih
  | @tag inside rest parts next others ih =>
    have same :
        BreaksInTag ('<' :: (inside ++ '>' :: rest)) ↔ '\n' ∈ inside ∨ BreaksInTag rest := by
      constructor
      · intro h
        rcases breaksInTag_cons.1 h with ⟨-, inside', after, whole, closes, breaks⟩ | h
        · obtain ⟨rfl, -⟩ := append_cons_inj next closes whole
          exact .inl breaks
        · exact breaksInTag_append_close next h
      · rintro (breaks | h)
        · exact breaksInTag_cons.2 (.inl ⟨rfl, inside, rest, rfl, next, breaks⟩)
        · have behind : BreaksInTag ('<' :: inside ++ '>' :: rest) :=
            breaksInTag_of_suffix (breaksInTag_cons_close.2 h)
          exact behind
    simp [Fragment.lost, same, ih, List.count_eq_zero]

theorem lineBreaks_stripTags_eq_iff :
    lineBreaks (stripTags s) = lineBreaks s ↔ ¬BreaksInTag s.toList := by
  obtain ⟨parts, cut⟩ := exists_cut s.toList
  have count := cut.count_eq
  rw [← cut.lost_eq_zero_iff, lineBreaks, lineBreaks, stripTags, String.toList_ofList]
  omega

/-- Removing markup loses the line breaks inside of tags and no others, so that a text keeps all of
them exactly if none stands between a `<` and the next `>`. Transcripts of every format go through
this. -/
theorem lineBreaks_stripTags (s : String) :
    (∃! parts, Cut s.toList parts) ∧
    (∀ parts, Cut s.toList parts →
      lineBreaks s = lineBreaks (stripTags s) + (parts.map Fragment.lost).sum) ∧
    (lineBreaks (stripTags s) = lineBreaks s ↔ ¬BreaksInTag s.toList) ∧
    ∀ o, Purpose.formatOutput .transcription o s = stripTags s := by
  refine ⟨?_, fun parts cut => ?_, lineBreaks_stripTags_eq_iff, fun o => rfl⟩
  · obtain ⟨parts, cut⟩ := exists_cut s.toList
    exact ⟨parts, cut, fun others cut' => cut'.unique cut⟩
  · have count := cut.count_eq
    rwa [lineBreaks, lineBreaks, stripTags, String.toList_ofList]

/-- Two cues, the first with a comparison: the tag runs to the arrow of the second. -/
def cues : String :=
  "1\n00:00:01,000 --> 00:00:02,000\na < b\n\n2\n00:00:03,000 --> 00:00:04,000\nc\n"

/-- Not every transcript keeps its line breaks. -/
theorem not_forall_lineBreaks_stripTags :
    (¬∀ s, lineBreaks (stripTags s) = lineBreaks s) ∧
      ¬∀ o s, lineBreaks (Purpose.formatOutput .transcription o s) = lineBreaks s := by
  have lost : BreaksInTag cues.toList :=
    ⟨"1\n00:00:01,000 --> 00:00:02,000\na ".toList, " b\n\n2\n00:00:03,000 --".toList,
      " 00:00:04,000\nc\n".toList, by decide +kernel, by decide +kernel, by decide +kernel⟩
  have fewer : lineBreaks (stripTags cues) ≠ lineBreaks cues := fun same =>
    lineBreaks_stripTags_eq_iff.1 same lost
  exact ⟨fun keeps => fewer (keeps cues), fun keeps => fewer (keeps [] cues)⟩

end PromptBroker.Text
