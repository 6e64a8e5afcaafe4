import PromptBroker.Proofs.Text.Elements
import PromptBroker.Proofs.Text.Words
import PromptBroker.Purpose.Page

/-!
# Pages that are put into a prompt

What is left of a page goes into a prompt as it is, so it has to be short, free of tags and
without blanks other than single spaces (`Inlinable`). This holds for every text that a page
may come as (`inlinable_clean`), however broken: each step of cleaning keeps what the steps
before it have brought about. No tag is left where tags are replaced; collapsing takes only
blanks away and so brings no brackets together; trimming and cutting leave a part of the text.

Cutting may leave a space at the end. Apart from that, the texts that can be put into a prompt
are those that cleaning leaves alone.
-/

namespace PromptBroker.Text

variable {c : Char} {cs rest : List Char}

/-! ### Collapsed blanks -/

theorem mem_of_mem_collapseBlanks (h : c ∈ collapseBlanks cs) : c = ' ' ∨ c ∈ cs := by
  induction cs with
  | nil => cases h
  | cons d rest ih =>
    cases blank : isBlank d with
    | false =>
      rw [collapseBlanks_cons_of_not_blank blank] at h
      rcases List.mem_cons.1 h with rfl | h
      · exact .inr List.mem_cons_self
      · exact (ih h).imp_right (List.mem_cons_of_mem d)
    | true =>
      rw [collapseBlanks_cons_of_blank blank] at h
      split at h
      · exact (ih h).imp_right (List.mem_cons_of_mem d)
      · rcases List.mem_cons.1 h with rfl | h
        · exact .inl rfl
        · exact (ih h).imp_right (List.mem_cons_of_mem d)

/-- Collapsing brings no brackets together. -/
theorem HasTag.of_collapseBlanks (h : HasTag (collapseBlanks cs)) : HasTag cs := by
  induction cs with
  | nil => exact h
  | cons d rest ih =>
    cases blank : isBlank d with
    | false =>
      rw [collapseBlanks_cons_of_not_blank blank] at h
      refine hasTag_cons.2 ((hasTag_cons.1 h).imp (fun tag => ⟨tag.1, ?_⟩) ih)
      exact (mem_of_mem_collapseBlanks tag.2).resolve_left (by decide)
    | true =>
      rw [collapseBlanks_cons_of_blank blank] at h
      split at h
      · exact hasTag_cons.2 (.inr (ih h))
      · have space : '<' ∉ [' '] := by decide
        exact hasTag_cons.2 (.inr (ih ((hasTag_append_of_not_mem space).1 h)))

/-- Every blank is a space. -/
def OnlySpaces (cs : List Char) : Prop := ∀ c ∈ cs, isBlank c = true → c = ' '

/-- No blank stands next to another one. -/
def SingleBlanks (cs : List Char) : Prop :=
  cs.IsChain fun c d => ¬(isBlank c = true ∧ isBlank d = true)

theorem onlySpaces_collapseBlanks (cs : List Char) : OnlySpaces (collapseBlanks cs) := by
  induction cs with
  | nil => exact List.forall_mem_nil _
  | cons c rest ih =>
    cases blank : isBlank c with
    | false =>
      rw [collapseBlanks_cons_of_not_blank blank]
      exact List.forall_mem_cons.2 ⟨fun h => absurd h (by simp [blank]), ih⟩
    | true =>
      rw [collapseBlanks_cons_of_blank blank]
      split
      · exact ih
      · exact List.forall_mem_cons.2 ⟨fun _ => rfl, ih⟩

/-- A text that begins with no blank does so after collapsing too. -/
theorem head?_collapseBlanks (h : cs.head?.any isBlank = false) :
    (collapseBlanks cs).head? = cs.head? := by
  cases cs with
  | nil => rfl
  | cons c rest => rw [collapseBlanks_cons_of_not_blank h]; rfl

theorem singleBlanks_collapseBlanks (cs : List Char) : SingleBlanks (collapseBlanks cs) := by
  induction cs with
  | nil => exact List.isChain_nil
  | cons c rest ih =>
    cases blank : isBlank c with
    | false =>
      rw [collapseBlanks_cons_of_not_blank blank]
      exact List.isChain_cons.2 ⟨fun d _ both => by simp [blank] at both, ih⟩
    | true =>
      rw [collapseBlanks_cons_of_blank blank]
      split
      · exact ih
      · next other =>
        have edge : rest.head?.any isBlank = false := Bool.eq_false_iff.2 other
        refine List.isChain_cons.2 ⟨fun d hd both => ?_, ih⟩
        rw [head?_collapseBlanks edge] at hd
        rw [hd, Option.any_some, both.2] at edge
        cases edge

/-- Where there is nothing to collapse the text stays as it is. -/
theorem collapseBlanks_eq_self (spaces : OnlySpaces cs) (single : SingleBlanks cs) :
    collapseBlanks cs = cs := by
  induction cs with
  | nil => rfl
  | cons c rest ih =>
    obtain ⟨first, others⟩ := List.forall_mem_cons.1 spaces
    obtain ⟨next, single⟩ := List.isChain_cons.1 single
    have kept := ih others single
    cases blank : isBlank c with
    | false => simp [blank, kept]
    | true =>
      have edge : rest.head?.any isBlank = false := by
        cases rest with
        | nil => rfl
        | cons d rest => exact Bool.eq_false_iff.2 fun h => next d rfl ⟨blank, h⟩
      simp [edge, kept, first blank]

theorem length_collapseBlanks_le (cs : List Char) : (collapseBlanks cs).length ≤ cs.length := by
  induction cs with
  | nil => exact Nat.le_refl _
  | cons c rest ih =>
    cases blank : isBlank c with
    | false => simpa [blank] using ih
    | true =>
      rw [collapseBlanks_cons_of_blank blank]
      split
      · exact Nat.le_succ_of_le ih
      · exact Nat.succ_le_succ ih

/-- The words of a text are a part of it once its blanks are collapsed. -/
theorem isInfix_spaced_words (cs : List Char) : spaced (words cs) <:+: collapseBlanks cs := by
  obtain ⟨after, -, collapsed⟩ := exists_collapseBlanks_eq cs
  exact ⟨lead cs, after, by rw [collapsed, List.append_assoc]⟩

theorem head?_spaced_words (cs : List Char) : (spaced (words cs)).head?.any isBlank = false :=
  head?_spaced _ fun _ => of_mem_words

theorem getLast?_spaced_words (cs : List Char) :
    (spaced (words cs)).getLast?.any isBlank = false :=
  getLast?_spaced _ fun _ => of_mem_words

/-! ### Texts without tags -/

/-- Where no tag opens there is no element. -/
theorem dropElements_of_not_hasTag (name : List Char) (h : ¬HasTag cs) :
    dropElements name cs = cs := by
  induction cs with
  | nil => exact dropElements_nil
  | cons c rest ih =>
    have none : afterElement? name (c :: rest) = none := by
      by_contra found
      obtain ⟨after, element⟩ := Option.ne_none_iff_exists'.1 found
      obtain ⟨mid, opened, -⟩ := Option.bind_eq_some_iff.1 element
      obtain ⟨behind, whole, closes⟩ := exists_of_afterOpenTag? opened
      exact h ⟨[], behind, whole, closes⟩
    rw [dropElements_cons_of_none none, ih fun tag => h (hasTag_cons.2 (.inr tag))]

end PromptBroker.Text

namespace PromptBroker.Page

open PromptBroker.Text

variable {cs : List Char} {html : String}

/-- A text that can stand in a prompt as it is. -/
structure Inlinable (cs : List Char) : Prop where
  short : cs.length ≤ 5000
  noTag : ¬HasTag cs
  spaces : OnlySpaces cs
  single : SingleBlanks cs
  first : cs.head?.any isBlank = false

/-- What is left of a page are words. -/
theorem cleanChars_eq (html : List Char) :
    cleanChars html =
      (spaced (words (replaceTags [' ']
        (chrome.foldl (fun cs name => dropElements name.toList cs) html)))).take lengthLimit := by
  rw [cleanChars, trimChars_collapseBlanks]

/-- Words without tags are fit for a prompt, wherever they are cut. -/
theorem inlinable_take (h : ¬HasTag cs) : Inlinable ((spaced (words cs)).take lengthLimit) := by
  have front : (spaced (words cs)).take lengthLimit <+: spaced (words cs) :=
    List.take_prefix lengthLimit _
  have cut := front.isInfix.trans (isInfix_spaced_words cs)
  have single : SingleBlanks ((spaced (words cs)).take lengthLimit) :=
    List.IsChain.infix (singleBlanks_collapseBlanks cs) cut
  refine ⟨List.length_take_le _ _, fun tag => h (tag.of_isInfix cut).of_collapseBlanks,
    fun c member => onlySpaces_collapseBlanks cs c (cut.subset member), single, ?_⟩
  rw [List.head?_take, if_neg (by decide), head?_spaced_words]

/-- Where no tag stands, only the blanks and the length matter. -/
theorem cleanChars_of_not_hasTag (h : ¬HasTag cs) :
    cleanChars cs = (trimChars (collapseBlanks cs)).take lengthLimit := by
  have kept : chrome.foldl (fun cs name => dropElements name.toList cs) cs = cs := by
    simp only [chrome, List.foldl_cons, List.foldl_nil, dropElements_of_not_hasTag _ h]
  simp only [cleanChars, kept, replaceTags_of_not_hasTag [' '] h]

/-- Cleaning leaves alone what can stand in a prompt and does not end with a blank. -/
theorem cleanChars_eq_self_iff (h : Inlinable cs) :
    cleanChars cs = cs ↔ cs.getLast?.any isBlank = false := by
  rw [cleanChars_of_not_hasTag h.noTag]
  constructor
  · intro same
    have whole : (trimChars (collapseBlanks cs)).length ≤ lengthLimit := by
      rw [trimChars_collapseBlanks]
      exact ((isInfix_spaced_words cs).length_le.trans (length_collapseBlanks_le cs)).trans h.short
    rw [List.take_of_length_le whole, trimChars_collapseBlanks] at same
    have last := getLast?_spaced_words cs
    rwa [same] at last
  · intro last
    rw [collapseBlanks_eq_self h.spaces h.single, trimChars_of_edges h.first last]
    exact List.take_of_length_le h.short

/-- Whatever a page is, what is left of it can stand in a prompt as it is. Cleaning leaves such
a text alone unless it ends with a blank, as it may after it was cut. -/
theorem inlinable_clean (html : String) :
    Inlinable (clean html).toList ∧
      (clean html = html ↔
        Inlinable html.toList ∧ html.toList.getLast?.any isBlank = false) := by
  have left : Inlinable (clean html).toList := by
    rw [clean, String.toList_ofList, cleanChars_eq]
    exact inlinable_take (not_hasTag_replaceTags (by decide) _)
  have fixed : clean html = html ↔ cleanChars html.toList = html.toList := by
    rw [clean, String.ext_iff, String.toList_ofList]
  refine ⟨left, fun same => ?_, fun ⟨fit, last⟩ => fixed.2 ((cleanChars_eq_self_iff fit).2 last)⟩
  have fit : Inlinable html.toList := same ▸ left
  exact ⟨fit, (cleanChars_eq_self_iff fit).1 (fixed.1 same)⟩

end PromptBroker.Page
