import Mathlib.Data.List.DropRight
import PromptBroker.Proofs.Json.Cleaning
import PromptBroker.Proofs.Json.Extraction

/-!
# Objects in commentary

What is recovered from an object with remarks around it does not depend on the remarks,
but it is not always the object: unless the remarks are blank, it is what cleaning leaves
of the object (`recoverChars?_around`). The first reading then fails, and the other two
see the text only after fences and invisible control characters have been removed from
all of it, strings included.

So commentary changes nothing exactly when cleaning the object by itself does not
(`recover_around_iff`), as with every object that has neither a fence nor an invisible
control character in it (`recover_around_of_clean`).
-/

namespace PromptBroker.Json

open Text (isBlank trimChars)

variable {cs object p s rest : List Char} {v w : Json}

/-! ### Trimming around an object -/

theorem Written.exists_braces (h : Written .object cs) :
    ∃ inside, cs = '{' :: (inside ++ ['}']) := by
  cases h with
  | noMembers _ => exact ⟨_, rfl⟩
  | members _ => exact ⟨_, rfl⟩

theorem dropWhile_append_cons {α : Type} {q : α → Bool} {c : α} (stop : q c = false)
    (xs ys : List α) : (xs ++ c :: ys).dropWhile q = xs.dropWhile q ++ c :: ys := by
  rw [List.dropWhile_append]
  split
  · next none =>
    rw [List.isEmpty_iff.1 none, List.dropWhile_cons_of_neg (by simp [stop]), List.nil_append]
  · rfl

theorem rdropWhile_append_cons {α : Type} {q : α → Bool} {c : α} (stop : q c = false)
    (xs ys : List α) : (xs ++ c :: ys).rdropWhile q = xs ++ c :: ys.rdropWhile q := by
  unfold List.rdropWhile
  have back : (xs ++ c :: ys).reverse = ys.reverse ++ c :: xs.reverse := by simp
  rw [back, dropWhile_append_cons stop]
  simp

/-- Only what stands around an object is trimmed. -/
theorem trimChars_around (h : Written .object object) (p s : List Char) :
    trimChars (p ++ (object ++ s)) = p.dropWhile isBlank ++ (object ++ s.rdropWhile isBlank) := by
  obtain ⟨inside, rfl⟩ := h.exists_braces
  have regroup (p s : List Char) :
      p ++ ('{' :: (inside ++ ['}']) ++ s) = (p ++ '{' :: inside) ++ '}' :: s := by simp
  have front (p s : List Char) :
      p ++ ('{' :: (inside ++ ['}']) ++ s) = p ++ '{' :: (inside ++ '}' :: s) := by simp
  change List.rdropWhile isBlank (List.dropWhile isBlank _) = _
  rw [front, dropWhile_append_cons (by decide), ← front, regroup,
    rdropWhile_append_cons (by decide), regroup]

/-- Trimming leaves just the object exactly if nothing but blanks stands around it. -/
theorem trimChars_around_eq_iff (h : Written .object object) :
    trimChars (p ++ (object ++ s)) = object ↔ ∀ c ∈ p ++ s, isBlank c = true := by
  rw [trimChars_around h, List.forall_mem_append, ← List.dropWhile_eq_nil_iff,
    ← List.rdropWhile_eq_nil_iff]
  constructor
  · intro same
    have lengths := congrArg List.length same
    simp only [List.length_append] at lengths
    exact ⟨List.length_eq_zero_iff.1 (by omega), List.length_eq_zero_iff.1 (by omega)⟩
  · rintro ⟨front, back⟩
    rw [front, back, List.nil_append, List.append_nil]

theorem trimChars_object (h : Written .object object) : trimChars object = object := by
  simpa using (trimChars_around_eq_iff (p := []) (s := []) h).2

theorem exists_of_trimChars (cs : List Char) :
    ∃ p s, cs = p ++ (trimChars cs ++ s) ∧ ∀ c ∈ p ++ s, isBlank c = true := by
  refine ⟨cs.takeWhile isBlank, (cs.dropWhile isBlank).rtakeWhile isBlank, ?_, ?_⟩
  · change cs = _ ++ ((cs.dropWhile isBlank).rdropWhile isBlank ++ _)
    rw [List.rdropWhile_append_rtakeWhile, List.takeWhile_append_dropWhile]
  · exact List.forall_mem_append.2
      ⟨fun c hc => List.mem_takeWhile_imp hc, fun c hc => List.mem_rtakeWhile_imp hc⟩

/-! ### Texts that are read as an object -/

/-- What is read as an object is written as one. -/
theorem object_of_readValue {steps depth : Nat} (read : readValue steps depth cs = .ok (v, rest))
    (object : v.isObject = true) :
    ∃ gap text, cs = gap ++ (text ++ rest) ∧ IsGapText gap ∧ Written .object text := by
  cases steps with
  | zero => cases read
  | succ steps =>
    obtain ⟨gap, left, isGap⟩ := eq_of_skipGap (rfl : skipGap cs = _)
    suffices taken : ∃ text, skipGap cs = text ++ rest ∧ Written .object text by
      obtain ⟨text, eq, written⟩ := taken
      exact ⟨gap, text, eq ▸ left, isGap, written⟩
    unfold readValue at read
    split at read
    · cases read
    · rw [eq_value_of_readWord read] at object; cases object
    · rw [eq_value_of_readWord read] at object; cases object
    · rw [eq_value_of_readWord read] at object; cases object
    · obtain ⟨_, -, rfl⟩ := exists_of_map read
      cases object
    · cases depth with
      | zero => cases read
      | succ depth =>
        dsimp only at read
        split at read
        · cases read; cases object
        · obtain ⟨_, -, rfl⟩ := exists_of_map read
          cases object
    · next more first =>
      cases depth with
      | zero => cases read
      | succ depth =>
        dsimp only at read
        split at read
        · next closed =>
          cases read
          obtain ⟨inner, inside, isInner⟩ := eq_of_skipGap closed
          exact ⟨_, by rw [first, inside]; simp, .noMembers isInner⟩
        · obtain ⟨ms, read, -⟩ := exists_of_map read
          obtain ⟨text, eq, written⟩ := (readsWritten steps).object read
          exact ⟨text, first.trans eq, written⟩
    · split at read
      · obtain ⟨_, -, rfl⟩ := exists_of_map read
        cases object
      · cases read

theorem isBlank_of_gap (h : IsGapText cs) : ∀ c ∈ cs, isBlank c = true :=
  h.forall_of_all (by decide)

/-- A text that is read as an object is one, apart from blanks at its ends. -/
theorem written_of_readObject? (read : readObject? cs = some v) :
    Written .object (trimChars cs) := by
  unfold readObject? at read
  split at read
  · next u whole =>
    split at read
    · next object =>
      cases read
      unfold readWithin complete at whole
      split at whole
      · cases whole
      next u left value =>
      split at whole
      · next atEnd =>
        cases whole
        obtain ⟨gap, text, between, before, written⟩ := object_of_readValue value object
        obtain ⟨after, rfl, isGap⟩ := eq_of_skipGap atEnd
        obtain ⟨p, s, around, blank⟩ := exists_of_trimChars cs
        -- the gaps of the reader are blanks, so that trimming has left none
        have trimmed : trimChars cs = text := by
          rw [around, between]
          have blanks : ∀ c ∈ p ++ gap ++ (after ++ s), isBlank c = true := by
            have := isBlank_of_gap before
            have := isBlank_of_gap isGap
            simp only [List.forall_mem_append] at blank ⊢
            tauto
          simpa using (trimChars_around_eq_iff written).2 blanks
        rw [trimmed]
        exact written
      · cases whole
    · cases read
  · cases read

/-- Blanks at the ends do not count. -/
theorem readObject?_congr (same : trimChars cs = trimChars object) :
    readObject? cs = readObject? object := by
  unfold readObject?
  rw [same]

theorem readObject?_trimChars (read : readObject? cs = some v) :
    readObject? (trimChars cs) = some v := by
  rw [readObject?_congr (trimChars_object (written_of_readObject? read)), read]

/-! ### Texts around an object -/

theorem extractChars?_around (h : Written .object object) (noBrace : '{' ∉ p) (s : List Char) :
    extractChars? (p ++ (object ++ s)) = some object := by
  obtain ⟨more, opens⟩ := List.head?_eq_some_iff.1 h.head?_object
  have front : object ++ s = '{' :: (more ++ s) := by rw [opens, List.cons_append]
  rw [front, extractChars?_append noBrace, ← front, balanced?_of_written h]

/-- The whole text is read as an object exactly if there are only blanks around the object, and
then it is read as that object. -/
theorem readObject?_around (h : Written .object object) (noBrace : '{' ∉ p) (s : List Char) :
    readObject? (p ++ (object ++ s)) =
      if (p ++ s).all isBlank then readObject? object else none := by
  split
  · next blank =>
    have whole := (trimChars_around_eq_iff h).2 (List.all_eq_true.1 blank)
    exact readObject?_congr (whole.trans (trimChars_object h).symm)
  · next remark =>
    refine Option.eq_none_iff_forall_ne_some.2 fun v read => remark (List.all_eq_true.2 ?_)
    -- the object that fills the text and the one inside are both the first one in it
    have whole := written_of_readObject? read
    obtain ⟨q, t, around, blank⟩ := exists_of_trimChars (p ++ (object ++ s))
    have noBrace' : '{' ∉ q := fun brace =>
      absurd (blank _ (List.mem_append_left t brace)) (by decide)
    have first := extractChars?_around whole noBrace' t
    rw [← around, extractChars?_around h noBrace] at first
    exact (trimChars_around_eq_iff h).1 (Option.some.inj first).symm

/-- The text is read, or else the first object in it: that is to read the object. -/
theorem readObject?_or_extract (h : Written .object object) (noBrace : '{' ∉ p) (s : List Char) :
    (readObject? (p ++ (object ++ s))).or ((extractChars? (p ++ (object ++ s))).bind readObject?) =
      readObject? object := by
  rw [extractChars?_around h noBrace, readObject?_around h noBrace, Option.bind_some]
  split
  · rw [Option.or_self]
  · rfl

/-! ### Cleaning around an object -/

/-- A fence without the name of a language. -/
def fence : List Char := ['\x60', '\x60', '\x60']

/-- The text without fences. -/
def unfence : List Char → List Char :=
  removeWord fence 0 ∘ removeWord (fence ++ ['J', 'S', 'O', 'N']) 0 ∘
    removeWord (fence ++ ['j', 's', 'o', 'n']) 0

/-- What cleaning leaves of an object. -/
def lighten : List Char → List Char := List.filter isShown ∘ unfence

theorem cleanChars_eq (cs : List Char) :
    cleanChars cs = (trimChars (unfence cs)).filter isShown := rfl

theorem lightens_unfence : Lightens unfence := by
  have plain : IsFence fence := ⟨rfl, by simp [fence]⟩
  have upper : IsFence (fence ++ ['J', 'S', 'O', 'N']) := ⟨rfl, by simp [fence]⟩
  have lower : IsFence (fence ++ ['j', 's', 'o', 'n']) := ⟨rfl, by simp [fence]⟩
  exact plain.lightens.comp (upper.lightens.comp lower.lightens)

theorem lightens_lighten : Lightens lighten := lightens_filter.comp lightens_unfence

/-- What stands around an object is lightened apart from it. -/
theorem Lightens.around {f : List Char → List Char} (hf : Lightens f)
    (h : Written .object object) (p s : List Char) :
    f (p ++ (object ++ s)) = f p ++ (f object ++ f s) := by
  obtain ⟨inside, rfl⟩ := h.exists_braces
  have braces (s : List Char) :
      f ('{' :: (inside ++ '}' :: s)) = '{' :: (f inside ++ '}' :: f s) := by
    rw [hf.keeps '{' (by decide), hf.separates (by decide)]
  have front (s : List Char) : '{' :: (inside ++ ['}']) ++ s = '{' :: (inside ++ '}' :: s) := by
    simp
  rw [front, hf.separates (by decide), hf.separates (by decide), braces, hf.nil]
  simp

/-- Around the object cleaning leaves some of what stood there. -/
theorem cleanChars_around (h : Written .object object) (p s : List Char) :
    ∃ q t, cleanChars (p ++ (object ++ s)) = q ++ (lighten object ++ t) ∧ q ⊆ p := by
  refine ⟨((unfence p).dropWhile isBlank).filter isShown,
    ((unfence s).rdropWhile isBlank).filter isShown, ?_, ?_⟩
  · rw [cleanChars_eq, lightens_unfence.around h, trimChars_around (lightens_unfence.written h),
      List.filter_append, List.filter_append]
    rfl
  · exact List.Subset.trans List.filter_sublist.subset
      (List.Subset.trans (List.dropWhile_sublist isBlank).subset (lightens_unfence.subset p))

theorem isLasting_of_isBlank {c : Char} (h : isBlank c = true) : isLasting c = true := by
  refine isLasting_iff.2 ⟨?_, ?_⟩
  · rintro rfl
    revert h
    decide
  · rw [isShown, h, Bool.or_true]

/-- With only blanks around the object, cleaning leaves what it leaves of the object. -/
theorem cleanChars_eq_lighten (written : Written .object (trimChars cs)) :
    cleanChars cs = lighten (trimChars cs) := by
  obtain ⟨p, s, around, blank⟩ := exists_of_trimChars cs
  obtain ⟨front, back⟩ := List.forall_mem_append.1 blank
  have kept {cs : List Char} (h : ∀ c ∈ cs, isBlank c = true) : unfence cs = cs := by
    have lasting := lightens_unfence.keeps.append (fun c hc => isLasting_of_isBlank (h c hc)) []
    rwa [lightens_unfence.nil, List.append_nil] at lasting
  rw [cleanChars_eq, lighten, Function.comp_apply]
  conv => lhs; rw [around]
  rw [lightens_unfence.around written, kept front, kept back,
    (trimChars_around_eq_iff (lightens_unfence.written written)).2 blank]

/-! ### What is recovered around an object -/

/-- With blanks around it, the object is recovered; with anything else around it, what cleaning
leaves of the object. -/
theorem recoverChars?_around (read : readObject? object = some v) (noBrace : '{' ∉ p)
    (s : List Char) :
    recoverChars? (p ++ (object ++ s)) =
      if (p ++ s).all isBlank then some v else readObject? (cleanChars object) := by
  have written := written_of_readObject? read
  obtain ⟨a, b, edges, blank⟩ := exists_of_trimChars object
  have text : p ++ (object ++ s) = (p ++ a) ++ (trimChars object ++ (b ++ s)) := by
    conv => lhs; rw [edges]
    simp
  have noBrace' : '{' ∉ p ++ a := fun brace => by
    rcases List.mem_append.1 brace with inside | edge
    · exact noBrace inside
    · exact absurd (blank _ (List.mem_append_left b edge)) (by decide)
  have blanks : (p ++ a ++ (b ++ s)).all isBlank = (p ++ s).all isBlank := by
    obtain ⟨before, behind⟩ := List.forall_mem_append.1 blank
    simp only [List.all_append, List.all_eq_true.2 before, List.all_eq_true.2 behind,
      Bool.and_true, Bool.true_and]
  obtain ⟨q, t, cleaned, fromFront⟩ := cleanChars_around written (p ++ a) (b ++ s)
  have second := readObject?_or_extract (lightens_lighten.written written)
    (fun brace => noBrace' (fromFront brace)) t
  have first := readObject?_around written noBrace' (b ++ s)
  rw [blanks, readObject?_trimChars read] at first
  unfold recoverChars?
  rw [text, first, cleaned, cleanChars_eq_lighten written]
  dsimp only
  rw [second]
  split
  · rfl
  · rfl

theorem recover_eq_ok_iff {text : String} : recover text = .ok v ↔
    recoverChars? text.toList = some v := by
  unfold recover
  cases recoverChars? text.toList with
  | none => exact ⟨nofun, nofun⟩
  | some u => simp

/-- A text with neither a fence nor an invisible control character is only trimmed. -/
theorem cleanChars_eq_trimChars (noFence : ¬ fence <:+: cs) (shown : ∀ c ∈ cs, isShown c = true) :
    cleanChars cs = trimChars cs := by
  have noLonger (letters : List Char) : ¬ fence ++ letters <:+: cs := fun h =>
    noFence ((List.prefix_append fence letters).isInfix.trans h)
  have kept : unfence cs = cs := by
    unfold unfence
    simp only [Function.comp_apply]
    rw [removeWord_eq_self (noLonger _), removeWord_eq_self (noLonger _),
      removeWord_eq_self noFence]
  obtain ⟨p, s, around, -⟩ := exists_of_trimChars cs
  rw [cleanChars_eq, kept, List.filter_eq_self]
  refine fun c hc => shown c ?_
  rw [around]
  exact List.mem_append_right p (List.mem_append_left s hc)

/-- An object with neither a fence nor an invisible control character in it is recovered from
behind anything without an opening brace and from in front of anything. -/
theorem recover_around_of_clean {front object behind : String}
    (read : readObject? object.toList = some v) (noBrace : '{' ∉ front.toList)
    (noFence : ¬ fence <:+: object.toList) (shown : ∀ c ∈ object.toList, isShown c = true) :
    recover (front ++ object ++ behind) = .ok v := by
  rw [recover_eq_ok_iff, String.toList_append, String.toList_append, List.append_assoc,
    recoverChars?_around read noBrace, cleanChars_eq_trimChars noFence shown,
    readObject?_trimChars read, ite_self]

/-- Commentary leaves an object what it is exactly if it is blank or cleaning the object by itself
gives the same value. -/
theorem recover_around_iff {front object behind : String}
    (read : readObject? object.toList = some v) (noBrace : '{' ∉ front.toList) :
    recover object = .ok v ∧
      (recover (front ++ object ++ behind) = .ok v ↔
        (∀ c ∈ front.toList ++ behind.toList, isBlank c = true) ∨
          readObject? (cleanChars object.toList) = some v) := by
  have alone := recoverChars?_around (p := []) read List.not_mem_nil []
  simp only [List.nil_append, List.append_nil, List.all_nil, if_true] at alone
  refine ⟨recover_eq_ok_iff.2 alone, ?_⟩
  rw [recover_eq_ok_iff, String.toList_append, String.toList_append, List.append_assoc,
    recoverChars?_around read noBrace]
  split
  · next blank => exact ⟨fun _ => .inl (List.all_eq_true.1 blank), fun _ => rfl⟩
  · next remark =>
    exact ⟨.inr, fun h => h.resolve_left fun blank => remark (List.all_eq_true.2 blank)⟩

/-- The object keeps its value in a fence, behind a remark and in front of one with an opening
brace. -/
theorem recover_around_nestedObject :
    ∃ v, readObject? nestedObject.toList = some v ∧ '{' ∉ "Sure: \x60\x60\x60json\n".toList ∧
      recover nestedObject = .ok v ∧
      recover ("Sure: \x60\x60\x60json\n" ++ nestedObject ++ "\n\x60\x60\x60 or \x7b\"c\"") =
        .ok v := by
  have isRead : (readObject? nestedObject.toList).isSome = true := by decide +kernel
  obtain ⟨v, read⟩ := Option.isSome_iff_exists.1 isRead
  have noBrace : '{' ∉ "Sure: \x60\x60\x60json\n".toList := by decide +kernel
  have cleaned : cleanChars nestedObject.toList = trimChars nestedObject.toList :=
    cleanChars_eq_trimChars (by decide +kernel) (List.all_eq_true.1 (by decide +kernel))
  have same : readObject? (cleanChars nestedObject.toList) = some v := by
    rw [cleaned, readObject?_trimChars read]
  exact ⟨v, read, noBrace,
    (recover_around_iff read noBrace).imp_right fun around => around.2 (.inr same)⟩

/-- An object with a fence in a string. -/
def fencedObject : String := "\x7b\"a\":\"\x60\x60\x60\"\x7d"

/-- The text of the string under the key `a`. -/
def textUnderA (v : Json) : Option String := (v.get? "a").bind asString?

/-- Behind a remark the fence is lost from the string. -/
theorem not_forall_recover_around :
    ¬ ∀ (front object behind : String) (v : Json), readObject? object.toList = some v →
      '{' ∉ front.toList → recover (front ++ object ++ behind) = .ok v := by
  intro all
  have alone : (readObject? fencedObject.toList).bind textUnderA = some "\x60\x60\x60" := by
    decide +kernel
  have lost :
      (recoverChars? ("Sure: " ++ fencedObject ++ "").toList).bind textUnderA = some "" := by
    decide +kernel
  obtain ⟨v, read, kept⟩ := Option.bind_eq_some_iff.1 alone
  have recovered := recover_eq_ok_iff.1 (all "Sure: " fencedObject "" v read (by decide +kernel))
  rw [recovered, Option.bind_some, kept] at lost
  exact absurd lost (by decide)

end PromptBroker.Json
