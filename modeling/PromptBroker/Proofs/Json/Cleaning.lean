import PromptBroker.Proofs.Json.Grammar
import PromptBroker.Json.Recovery

/-!
# What cleaning does to an object

Cleaning removes code fences and invisible control characters wherever they stand and
knows nothing of the grammar. Outside of strings the grammar has neither, so that an
object comes out as an object (`Lightens.written`): tokens, gaps and quotes stay where they
are, and each string stays a string, because no fence begins or ends behind a backslash.

Cleaning is three removals and a filter. What all four have in common is `Lightens`, and
it is handed on by composition, so that the induction over the grammar is done once.
-/

namespace PromptBroker.Json

variable {word cs ds : List Char} {c : Char}

/-! ### Removing a word -/

theorem removeWord_cons_of_match (h : word <+: c :: cs) :
    removeWord word 0 (c :: cs) = removeWord word (word.length - 1) cs :=
  if_pos (List.isPrefixOf_iff_prefix.2 h)

theorem removeWord_cons_of_mismatch (h : ¬ word <+: c :: cs) :
    removeWord word 0 (c :: cs) = c :: removeWord word 0 cs :=
  if_neg fun here => h (List.isPrefixOf_iff_prefix.1 here)

theorem removeWord_subset (word : List Char) (skip : Nat) (cs : List Char) :
    removeWord word skip cs ⊆ cs := by
  induction cs generalizing skip with
  | nil => exact fun _ h => h
  | cons c cs ih =>
    cases skip with
    | succ skip => exact List.subset_cons_of_subset c (ih skip)
    | zero =>
      by_cases here : word <+: c :: cs
      · rw [removeWord_cons_of_match here]
        exact List.subset_cons_of_subset c (ih _)
      · rw [removeWord_cons_of_mismatch here]
        exact List.cons_subset_cons c (ih 0)

/-- A text without the word is left alone. -/
theorem removeWord_eq_self (absent : ¬ word <:+: cs) : removeWord word 0 cs = cs := by
  induction cs with
  | nil => rfl
  | cons c cs ih =>
    rw [removeWord_cons_of_mismatch fun here => absent here.isInfix,
      ih fun later => absent (List.infix_cons later)]

/-- A word that stands in front of a character that is not in it ends there. -/
theorem prefix_append_cons (cs : List Char) (separates : c ∉ word) :
    word <+: cs ++ c :: ds ↔ word <+: cs := by
  refine ⟨fun h => ?_, fun h => h.trans (List.prefix_append cs (c :: ds))⟩
  rcases List.prefix_or_prefix_of_prefix h (List.prefix_append cs (c :: ds)) with
    shorter | ⟨more, rfl⟩
  · exact shorter
  · cases more with
    | nil => exact (List.append_nil cs).symm ▸ List.prefix_rfl
    | cons d more =>
      obtain ⟨rfl, -⟩ := List.cons_prefix_cons.1 ((List.prefix_append_right_inj cs).1 h)
      exact absurd (List.mem_append_right cs List.mem_cons_self) separates

/-- A character that is not in the word separates what stands in front of it from what stands
behind it. -/
theorem removeWord_append_cons (nonempty : word ≠ []) (separates : c ∉ word) {skip : Nat}
    (inFront : skip ≤ cs.length) :
    removeWord word skip (cs ++ c :: ds) =
      removeWord word skip cs ++ c :: removeWord word 0 ds := by
  induction cs generalizing skip with
  | nil =>
    obtain rfl : skip = 0 := Nat.le_zero.1 inFront
    refine removeWord_cons_of_mismatch fun here => nonempty ?_
    exact List.prefix_nil.1 ((prefix_append_cons [] separates).1 here)
  | cons x cs ih =>
    cases skip with
    | succ skip => exact ih (Nat.le_of_succ_le_succ inFront)
    | zero =>
      by_cases here : word <+: x :: cs
      · have longer : word <+: x :: (cs ++ c :: ds) := (prefix_append_cons _ separates).2 here
        have fits : word.length - 1 ≤ cs.length := Nat.sub_le_of_le_add here.length_le
        rw [removeWord_cons_of_match here, List.cons_append, removeWord_cons_of_match longer,
          ih fits]
      · have longer : ¬ word <+: x :: (cs ++ c :: ds) := fun h =>
          here ((prefix_append_cons (x :: cs) separates).1 h)
        rw [removeWord_cons_of_mismatch here, List.cons_append,
          removeWord_cons_of_mismatch longer, ih (Nat.zero_le _), List.cons_append]

/-! ### What lasts -/

/-- Characters that are not filtered out: blanks, and what is no control character. -/
def isShown (c : Char) : Bool := !Text.isControl c || Text.isBlank c

/-- Characters that cleaning never touches. -/
def isLasting (c : Char) : Bool := c != '\x60' && isShown c

theorem isLasting_iff : isLasting c = true ↔ c ≠ '\x60' ∧ isShown c = true := by
  unfold isLasting
  rw [Bool.and_eq_true, bne_iff_ne]

theorem isLasting_of_toNat (low : 0x20 ≤ c.toNat) (high : c.toNat < 0x7F)
    (other : c.toNat ≠ 0x60) : isLasting c = true := by
  refine isLasting_iff.2 ⟨fun same => other (by rw [same]; rfl), ?_⟩
  have visible : Text.isControl c = false := by
    unfold Text.isControl
    simp only [Bool.or_eq_false_iff, Bool.and_eq_false_iff, decide_eq_false_iff_not]
    omega
  rw [isShown, visible]
  rfl

theorem isLasting_of_hexValue? (h : (Text.hexValue? c).isSome) : isLasting c = true := by
  have within {a b : Char} (h : a ≤ c ∧ c ≤ b) : a.toNat ≤ c.toNat ∧ c.toNat ≤ b.toNat := h
  have range : 48 ≤ c.toNat ∧ c.toNat ≤ 57 ∨ 97 ≤ c.toNat ∧ c.toNat ≤ 102 ∨
      65 ≤ c.toNat ∧ c.toNat ≤ 70 := by
    unfold Text.hexValue? at h
    split at h
    · next digit => exact .inl (within digit)
    split at h
    · next small => exact .inr (.inl (within small))
    split at h
    · next large => exact .inr (.inr (within large))
    · cases h
  exact isLasting_of_toNat (by omega) (by omega) (by omega)

/-- The text of an escape lasts. -/
theorem isLasting_of_escape (h : c ∈ ['"', '\\', '/', 'b', 'f', 'n', 'r', 't']) :
    ∀ x ∈ ['\\', c], isLasting x = true := by
  have letters : ∀ c ∈ ['"', '\\', '/', 'b', 'f', 'n', 'r', 't'], isLasting c = true :=
    List.all_eq_true.1 (by decide)
  simp only [List.forall_mem_cons]
  exact ⟨by decide, letters c h, List.forall_mem_nil _⟩

/-- The text of an escape by number lasts. -/
theorem isLasting_of_unicode {a b c d : Char}
    (digits : ∀ x ∈ [a, b, c, d], (Text.hexValue? x).isSome) :
    ∀ x ∈ ['\\', 'u', a, b, c, d], isLasting x = true := by
  refine List.forall_mem_cons.2 ⟨by decide, List.forall_mem_cons.2 ⟨by decide, fun x hx => ?_⟩⟩
  exact isLasting_of_hexValue? (digits x hx)

/-! ### What only strings feel -/

/-- Lasting characters in front are kept. -/
def KeepsLasting (f : List Char → List Char) : Prop :=
  ∀ c, isLasting c = true → ∀ cs, f (c :: cs) = c :: f cs

variable {f g : List Char → List Char}

theorem KeepsLasting.append (h : KeepsLasting f) (lasting : ∀ c ∈ cs, isLasting c = true)
    (ds : List Char) : f (cs ++ ds) = cs ++ f ds := by
  induction cs with
  | nil => rfl
  | cons c cs ih =>
    obtain ⟨first, others⟩ := List.forall_mem_cons.1 lasting
    rw [List.cons_append, h c first, ih others, List.cons_append]

theorem KeepsLasting.escape (h : KeepsLasting f)
    (short : c ∈ ['"', '\\', '/', 'b', 'f', 'n', 'r', 't']) (literal : IsLiteral (f cs)) :
    IsLiteral (f ('\\' :: c :: cs)) := by
  have kept : f ('\\' :: c :: cs) = '\\' :: c :: f cs := h.append (isLasting_of_escape short) cs
  rw [kept]
  exact .escape short literal

theorem KeepsLasting.unicode (h : KeepsLasting f) {a b c d : Char}
    (digits : ∀ x ∈ [a, b, c, d], (Text.hexValue? x).isSome) (literal : IsLiteral (f cs)) :
    IsLiteral (f ('\\' :: 'u' :: a :: b :: c :: d :: cs)) := by
  have kept : f ('\\' :: 'u' :: a :: b :: c :: d :: cs) = '\\' :: 'u' :: a :: b :: c :: d :: f cs :=
    h.append (isLasting_of_unicode digits) cs
  rw [kept]
  exact .unicode digits literal

/-- Only strings get lighter: lasting characters are kept, quotes and braces separate the text,
and a string stays a string. -/
structure Lightens (f : List Char → List Char) : Prop where
  nil : f [] = []
  keeps : KeepsLasting f
  separates {c : Char} (mark : c ∈ ['"', '{', '}']) (cs ds : List Char) :
    f (cs ++ c :: ds) = f cs ++ c :: f ds
  literal {cs : List Char} (h : IsLiteral cs) : IsLiteral (f cs)
  subset (cs : List Char) : f cs ⊆ cs

theorem Lightens.comp (hf : Lightens f) (hg : Lightens g) : Lightens (f ∘ g) where
  nil := by rw [Function.comp_apply, hg.nil, hf.nil]
  keeps c lasting cs := by
    simp only [Function.comp_apply, hg.keeps c lasting, hf.keeps c lasting]
  separates mark cs ds := by
    simp only [Function.comp_apply, hg.separates mark, hf.separates mark]
  literal h := hf.literal (hg.literal h)
  subset cs := List.Subset.trans (hf.subset (g cs)) (hg.subset cs)

/-- What cleaning removes as a word: it begins with a backquote and has no character that counts
inside or outside of a string. -/
structure IsFence (word : List Char) : Prop where
  head : word.head? = some '\x60'
  letters : ∀ c ∈ word, c ∉ ['\\', '"', '{', '}']

theorem IsFence.keeps (h : IsFence word) : KeepsLasting (removeWord word 0) := by
  intro c lasting cs
  refine removeWord_cons_of_mismatch fun here => (isLasting_iff.1 lasting).1 ?_
  obtain ⟨letters, rfl⟩ := List.head?_eq_some_iff.1 h.head
  exact (List.cons_prefix_cons.1 here).1.symm

/-- A string stays a string. A fence is left out whole and has no backslash, so that skipping it
neither begins nor ends inside an escape. -/
theorem IsFence.literal (h : IsFence word) (literal : IsLiteral cs) {skip : Nat}
    (noEscape : '\\' ∉ cs.take skip) : IsLiteral (removeWord word skip cs) := by
  induction literal generalizing skip with
  | nil => exact .nil
  | @plain c cs quote backslash visible _ ih =>
    cases skip with
    | succ skip => exact ih fun later => noEscape (List.mem_cons_of_mem c later)
    | zero =>
      by_cases here : word <+: c :: cs
      · rw [removeWord_cons_of_match here]
        -- what is skipped next is the rest of the word
        refine ih fun later => h.letters '\\' ?_ List.mem_cons_self
        obtain ⟨letters, rfl⟩ := List.head?_eq_some_iff.1 h.head
        obtain ⟨-, front⟩ := List.cons_prefix_cons.1 here
        exact List.mem_cons_of_mem _ (List.prefix_iff_eq_take.1 front ▸ later)
      · rw [removeWord_cons_of_mismatch here]
        exact .plain quote backslash visible (ih List.not_mem_nil)
  | escape short _ ih =>
    cases skip with
    | succ skip => exact absurd List.mem_cons_self noEscape
    | zero => exact h.keeps.escape short (ih List.not_mem_nil)
  | unicode digits _ ih =>
    cases skip with
    | succ skip => exact absurd List.mem_cons_self noEscape
    | zero => exact h.keeps.unicode digits (ih List.not_mem_nil)

theorem IsFence.lightens (h : IsFence word) : Lightens (removeWord word 0) where
  nil := rfl
  keeps := h.keeps
  separates mark cs ds := by
    have nonempty : word ≠ [] := fun none => by simpa [none] using h.head
    refine removeWord_append_cons nonempty (fun inWord => ?_) (Nat.zero_le _)
    exact h.letters _ inWord (List.mem_cons_of_mem _ mark)
  literal literal := h.literal literal List.not_mem_nil
  subset cs := removeWord_subset word 0 cs

theorem lightens_filter : Lightens (List.filter isShown) where
  nil := rfl
  keeps _ lasting _ := List.filter_cons_of_pos (isLasting_iff.1 lasting).2
  separates {c} mark cs ds := by
    have shown : ∀ c ∈ ['"', '{', '}'], isShown c = true := List.all_eq_true.1 (by decide)
    rw [List.filter_append, List.filter_cons_of_pos (shown c mark)]
  literal h := by
    have keeps : KeepsLasting (List.filter isShown) := fun _ lasting _ =>
      List.filter_cons_of_pos (isLasting_iff.1 lasting).2
    induction h with
    | nil => exact .nil
    | plain quote backslash visible _ ih =>
      rw [List.filter_cons]
      split
      · exact .plain quote backslash visible ih
      · exact ih
    | escape short _ ih => exact keeps.escape short ih
    | unicode digits _ ih => exact keeps.unicode digits ih
  subset cs := List.filter_sublist.subset

/-! ### Objects -/

theorem isLasting_of_number (h : IsNumber cs) : ∀ c ∈ cs, isLasting c = true := by
  intro c hc
  rcases Bool.or_eq_true_iff.1 (h.isNumberChar c hc) with digit | sign
  · obtain ⟨low, high⟩ : 48 ≤ c.toNat ∧ c.toNat ≤ 57 := by
      unfold Char.isDigit at digit
      simp only [Bool.and_eq_true, decide_eq_true_eq] at digit
      exact digit
    exact isLasting_of_toNat (by omega) (by omega) (by omega)
  · have signs : ∀ c ∈ ['-', '+', '.', 'e', 'E'], isLasting c = true :=
      List.all_eq_true.1 (by decide)
    exact signs c (List.contains_iff_mem.1 sign)

/-- In front of anything the text comes out as another one. -/
def ComesOut (f : List Char → List Char) (cs ds : List Char) : Prop :=
  ∀ rest, f (cs ++ rest) = ds ++ f rest

theorem ComesOut.append {as bs : List Char} (ha : ComesOut f as cs) (hb : ComesOut f bs ds) :
    ComesOut f (as ++ bs) (cs ++ ds) := by
  intro rest
  rw [List.append_assoc, ha, hb, List.append_assoc]

theorem KeepsLasting.cons (h : KeepsLasting f) (lasting : isLasting c = true)
    (behind : ComesOut f cs ds) : ComesOut f (c :: cs) (c :: ds) := by
  intro rest
  rw [List.cons_append, h c lasting, behind]
  rfl

theorem Lightens.quoted (h : Lightens f) (key : List Char) (behind : ComesOut f cs ds) :
    ComesOut f ('"' :: (key ++ '"' :: cs)) ('"' :: (f key ++ '"' :: ds)) := by
  intro rest
  have front : '"' :: (key ++ '"' :: cs) ++ rest = '"' :: (key ++ '"' :: (cs ++ rest)) := by simp
  rw [front, h.keeps '"' (by decide), h.separates (by decide), behind]
  simp

/-- Every part of the grammar comes out as such a part. -/
theorem Lightens.comesOut (h : Lightens f) {part : Part} (written : Written part cs) :
    ∃ ds, Written part ds ∧ ComesOut f cs ds := by
  have kept {cs : List Char} (lasting : cs.all isLasting = true) : ComesOut f cs cs :=
    h.keeps.append (List.all_eq_true.1 lasting)
  have gap {cs : List Char} (gap : IsGapText cs) : ComesOut f cs cs :=
    h.keeps.append (gap.forall_of_all (by decide))
  have comma {cs ds : List Char} (behind : ComesOut f cs ds) :
      ComesOut f (',' :: cs) (',' :: ds) := h.keeps.cons (by decide) behind
  have colon {cs ds : List Char} (behind : ComesOut f cs ds) :
      ComesOut f (':' :: cs) (':' :: ds) := h.keeps.cons (by decide) behind
  have brackets {cs ds : List Char} (inside : ComesOut f cs ds) :
      ComesOut f ('[' :: (cs ++ [']'])) ('[' :: (ds ++ [']'])) :=
    h.keeps.cons (by decide) (inside.append (kept (by decide)))
  have braces {cs ds : List Char} (inside : ComesOut f cs ds) :
      ComesOut f ('{' :: (cs ++ ['}'])) ('{' :: (ds ++ ['}'])) :=
    h.keeps.cons (by decide) (inside.append (kept (by decide)))
  induction written with
  | null => exact ⟨_, .null, kept (by decide)⟩
  | true => exact ⟨_, .true, kept (by decide)⟩
  | false => exact ⟨_, .false, kept (by decide)⟩
  | number number => exact ⟨_, .number number, h.keeps.append (isLasting_of_number number)⟩
  | string literal => exact ⟨_, .string (h.literal literal), h.quoted _ (kept (by decide))⟩
  | noItems inside => exact ⟨_, .noItems inside, brackets (gap inside)⟩
  | array _ ih =>
    obtain ⟨items, written, inside⟩ := ih
    exact ⟨_, .array written, brackets inside⟩
  | noMembers inside => exact ⟨_, .noMembers inside, braces (gap inside)⟩
  | members _ ih =>
    obtain ⟨members, written, inside⟩ := ih
    exact ⟨_, .members written, braces inside⟩
  | object _ ih =>
    obtain ⟨object, written, comes⟩ := ih
    exact ⟨_, .object written, comes⟩
  | lastItem before _ after ih =>
    obtain ⟨value, written, comes⟩ := ih
    exact ⟨_, .lastItem before written after, (gap before).append (comes.append (gap after))⟩
  | item before _ after _ ih ihRest =>
    obtain ⟨value, written, comes⟩ := ih
    obtain ⟨rest, others, more⟩ := ihRest
    exact ⟨_, .item before written after others,
      (gap before).append (comes.append ((gap after).append (comma more)))⟩
  | lastMember before literal behindKey front _ after ih =>
    obtain ⟨value, written, comes⟩ := ih
    have content := (gap front).append (comes.append (gap after))
    exact ⟨_, .lastMember before (h.literal literal) behindKey front written after,
      (gap before).append (h.quoted _ ((gap behindKey).append (colon content)))⟩
  | member before literal behindKey front _ after _ ih ihRest =>
    obtain ⟨value, written, comes⟩ := ih
    obtain ⟨rest, others, more⟩ := ihRest
    have content := (gap front).append (comes.append ((gap after).append (comma more)))
    exact ⟨_, .member before (h.literal literal) behindKey front written after others,
      (gap before).append (h.quoted _ ((gap behindKey).append (colon content)))⟩

/-- What comes out of an object, or of any other part of the grammar, is one again. -/
theorem Lightens.written (h : Lightens f) {part : Part} (written : Written part cs) :
    Written part (f cs) := by
  obtain ⟨ds, isWritten, comes⟩ := h.comesOut written
  have whole := comes []
  rw [List.append_nil, h.nil, List.append_nil] at whole
  rw [whole]
  exact isWritten

end PromptBroker.Json
