import PromptBroker.Proofs.Page.Inline

/-!
# Pages as text and tags

A page without stray brackets is a sequence of texts, opening tags and closing tags. On such
pages cleaning can be said without characters (`dropElements_written`): from an opening tag on
it takes away everything up to the first closing tag of the name, whatever stands between them,
and if there is no such closing tag it takes nothing away.

A tag opens an element of a name not only if that is its own name (`Tag.Opens`): it is enough
that it begins with the name and goes on with a character that is not part of a word. The tag
that closes the element has to have the name itself.
-/

namespace PromptBroker.Page

open PromptBroker.Text

/-- Where the name of a tag may end. -/
def nameEnds : List Char := [' ', '\t', '\n', '\r', '\x0c', '/', '>']

/-- What the name of a tag may consist of, behind its first letter. -/
def isNameChar (c : Char) : Bool := !isBlank c && c != '<' && c != '>' && c != '/'

/-- What stands in a tag: a name, and behind it the attributes. -/
structure Tag where
  name : List Char
  attributes : List Char
  first : name.head?.any Char.isAlpha = true
  whole : name.all isNameChar = true
  apart : attributes.head?.all nameEnds.contains = true
  inside : '<' ∉ attributes ∧ '>' ∉ attributes

/-- The name in lower case; names are compared in it. -/
def Tag.lowered (t : Tag) : List Char := t.name.map Char.toLower

/-- The tag is taken for the beginning of an element of this name. -/
def Tag.Opens (name : List Char) (t : Tag) : Prop :=
  name <+: t.lowered ∧ (t.name.drop name.length).head?.any isWordChar = false

instance (name : List Char) (t : Tag) : Decidable (t.Opens name) :=
  inferInstanceAs (Decidable (_ ∧ _))

/-- A part of a page. -/
inductive Piece
  | text (cs : List Char) (plain : '<' ∉ cs ∧ '>' ∉ cs)
  | opening (tag : Tag)
  | closing (tag : Tag)

/-- What is written behind the first bracket of a tag. -/
def Tag.opening (t : Tag) : List Char := t.name ++ (t.attributes ++ ['>'])

/-- What is written behind the slash of a closing tag. -/
def Tag.closing (t : Tag) : List Char := t.name ++ ['>']

def Piece.chars : Piece → List Char
  | .text cs _ => cs
  | .opening tag => '<' :: tag.opening
  | .closing tag => '<' :: '/' :: tag.closing

/-- A page as it is written. -/
def written (pieces : List Piece) : List Char := pieces.flatMap Piece.chars

theorem plain_space : '<' ∉ [' '] ∧ '>' ∉ [' '] := by decide

/-- A space stands for what is taken away. -/
def Piece.space : Piece := .text [' '] plain_space

/-- What stands behind the first closing tag of this name. -/
def behindClosing? (name : List Char) : List Piece → Option (List Piece)
  | [] => none
  | .text _ _ :: rest => behindClosing? name rest
  | .opening _ :: rest => behindClosing? name rest
  | .closing tag :: rest => if tag.lowered = name then some rest else behindClosing? name rest

/-- What stands behind the element of this name that begins the page. -/
def behindElement? (name : List Char) : List Piece → Option (List Piece)
  | .opening tag :: rest => if tag.Opens name then behindClosing? name rest else none
  | _ => none

theorem length_behindClosing?_le {name : List Char} {ps after : List Piece}
    (h : behindClosing? name ps = some after) : after.length ≤ ps.length := by
  induction ps with
  | nil => cases h
  | cons p rest ih =>
    cases p with
    | text cs plain => exact Nat.le_succ_of_le (ih h)
    | opening tag => exact Nat.le_succ_of_le (ih h)
    | closing tag =>
      rw [behindClosing?] at h
      split at h
      · cases h
        exact Nat.le_succ _
      · exact Nat.le_succ_of_le (ih h)

theorem length_behindElement?_lt {name : List Char} {p : Piece} {rest after : List Piece}
    (h : behindElement? name (p :: rest) = some after) : after.length < (p :: rest).length := by
  cases p with
  | text cs plain => cases h
  | opening tag =>
    rw [behindElement?] at h
    split at h
    · exact Nat.lt_succ_of_le (length_behindClosing?_le h)
    · cases h
  | closing tag => cases h

/-- The page without the elements of this name. -/
def dropPieces (name : List Char) : List Piece → List Piece
  | [] => []
  | p :: rest =>
    match _h : behindElement? name (p :: rest) with
    | some after => .space :: dropPieces name after
    | none => p :: dropPieces name rest
termination_by ps => ps.length
decreasing_by
  · exact length_behindElement?_lt _h
  · simp

variable {name : List Char} {p : Piece} {ps rest after : List Piece}

@[simp] theorem dropPieces_nil : dropPieces name [] = [] := by
  rw [dropPieces]

theorem dropPieces_cons_of_some (h : behindElement? name (p :: rest) = some after) :
    dropPieces name (p :: rest) = .space :: dropPieces name after := by
  rw [dropPieces]
  split
  · next found => rw [Option.some.inj (h.symm.trans found)]
  · next missing => rw [h] at missing; cases missing

@[simp] theorem dropPieces_cons_of_none (h : behindElement? name (p :: rest) = none) :
    dropPieces name (p :: rest) = p :: dropPieces name rest := by
  rw [dropPieces]
  split
  · next found => rw [h] at found; cases found
  · rfl

/-! ### Names of tags -/

/-- The elements that consist of an opening tag alone. -/
def voidNames : List String :=
  ["area", "base", "br", "col", "embed", "hr", "img", "input", "link", "meta", "param", "source",
    "track", "wbr"]

/-- Names in lower case that are read as they are written: `s` and `k`, which have a third form,
stand at most in front, where a tag has an ASCII letter. No element without a closing tag begins
with them. -/
structure Regular (name : List Char) : Prop where
  nonempty : name ≠ []
  letters : ∀ letter ∈ name, letter.isLower = true
  usual : ∀ letter ∈ name.tail, letter ≠ 's' ∧ letter ≠ 'k'
  noVoid : ∀ void ∈ voidNames, ¬name <+: void.toList

theorem regular_of_mem_chrome {name : String} (h : name ∈ chrome) : Regular name.toList := by
  have each : ∀ name ∈ chrome, name.toList ≠ [] ∧ name.toList.all Char.isLower = true ∧
      's' ∉ name.toList.tail ∧ 'k' ∉ name.toList.tail ∧
      ∀ void ∈ voidNames, ¬name.toList <+: void.toList := by
    decide
  obtain ⟨nonempty, letters, noS, noK, noVoid⟩ := each name h
  refine ⟨nonempty, List.all_eq_true.1 letters, fun letter member => ?_, noVoid⟩
  exact ⟨fun same => noS (same ▸ member), fun same => noK (same ▸ member)⟩

/-- A name does not go on where the name of a tag may end. -/
theorem sameLetter_of_mem_nameEnds {letter c : Char} (lower : letter.isLower = true)
    (h : c ∈ nameEnds) : sameLetter letter c = false := by
  have ends : ∀ c ∈ nameEnds, c.toNat < 128 ∧ c.toLower = c ∧ c.isLower = false :=
    List.all_iff_forall_prop.1 (by decide)
  obtain ⟨ascii, same, other⟩ := ends c h
  rw [sameLetter_eq (.inl ascii), same, beq_eq_false_iff_ne]
  rintro rfl
  rw [lower] at other
  cases other

/-- A tag's name begins with an ASCII character. -/
theorem Tag.exists_name_eq_cons (t : Tag) : ∃ c more, t.name = c :: more ∧ c.toNat < 128 := by
  have first := t.first
  cases named : t.name with
  | nil => rw [named] at first; cases first
  | cons c more =>
    have letter : c.isAlpha = true := by simpa [named] using first
    have lt : c.val.toNat < 128 := by
      simp only [Char.isAlpha, Char.isUpper, Char.isLower, Bool.or_eq_true, Bool.and_eq_true,
        decide_eq_true_eq, ge_iff_le, UInt32.le_iff_toNat_le] at letter
      rcases letter with ⟨-, upper⟩ | ⟨-, upper⟩
      · exact Nat.lt_of_le_of_lt upper (by decide)
      · exact Nat.lt_of_le_of_lt upper (by decide)
    exact ⟨c, more, rfl, lt⟩

/-- In front of the end of its name, a tag is read letter by letter. -/
theorem afterName?_tag (regular : Regular name) (t : Tag) {cs : List Char}
    (ends : ∀ c ∈ cs.head?, c ∈ nameEnds) :
    afterName? name (t.name ++ cs) =
      if name <+: t.lowered then some (t.name.drop name.length ++ cs) else none := by
  obtain ⟨letter, others, rfl⟩ := List.exists_cons_of_ne_nil regular.nonempty
  obtain ⟨c, more, named, ascii⟩ := t.exists_name_eq_cons
  have usual : ∀ letter ∈ others, letter ≠ 's' ∧ letter ≠ 'k' := regular.usual
  have apart : ∀ c ∈ cs.head?, ∀ l ∈ letter :: others, sameLetter l c = false :=
    fun c hc l hl => sameLetter_of_mem_nameEnds (regular.letters l hl) (ends c hc)
  rw [afterName?_append apart, Tag.lowered, named, afterName?_cons_eq ascii usual]
  split <;> rfl

theorem Tag.of_mem_name {t : Tag} {c : Char} (h : c ∈ t.name) :
    isBlank c = false ∧ c ≠ '<' ∧ c ≠ '>' ∧ c ≠ '/' := by
  simpa [isNameChar, and_assoc] using List.all_eq_true.1 t.whole c h

theorem Tag.not_mem_name (t : Tag) : '<' ∉ t.name ∧ '>' ∉ t.name :=
  ⟨fun h => (of_mem_name h).2.1 rfl, fun h => (of_mem_name h).2.2.1 rfl⟩

theorem Tag.not_mem_opening (t : Tag) : '<' ∉ t.opening := by
  simp [Tag.opening, t.not_mem_name.1, t.inside.1]

theorem Tag.not_mem_closing (t : Tag) : '<' ∉ t.closing := by
  simp [Tag.closing, t.not_mem_name.1]

/-- An opening tag is read as a whole. -/
theorem afterOpenTag?_opening (regular : Regular name) (t : Tag) (cs : List Char) :
    afterOpenTag? name ('<' :: (t.opening ++ cs)) = if t.Opens name then some cs else none := by
  have whole : t.opening ++ cs = t.name ++ (t.attributes ++ '>' :: cs) := by simp [Tag.opening]
  have ends : ∀ c ∈ (t.attributes ++ '>' :: cs).head?, c ∈ nameEnds := by
    cases named : t.attributes with
    | nil => simp [nameEnds]
    | cons c more => simpa [named] using t.apart
  have unclosed : '>' ∉ t.name.drop name.length ++ t.attributes := by
    simpa [t.inside.2] using fun h => t.not_mem_name.2 (List.mem_of_mem_drop h)
  have next : (t.name.drop name.length ++ (t.attributes ++ '>' :: cs)).head?.any isWordChar =
      (t.name.drop name.length).head?.any isWordChar := by
    cases left : t.name.drop name.length with
    | nil =>
      cases h : (t.attributes ++ '>' :: cs).head? with
      | none => simp [h]
      | some c =>
        have plain : ∀ c ∈ nameEnds, isWordChar c = false :=
          List.all_iff_forall_prop.1 (by decide)
        simp [h, plain c (ends c h)]
    | cons c more => simp
  have same (o : Option Char) : (o.map isWordChar).getD false = o.any isWordChar := by
    cases o <;> rfl
  rw [whole, afterOpenTag?, afterName?_tag regular t ends]
  by_cases named : name <+: t.lowered
  · simp only [named, if_true, same, next, Tag.Opens, true_and]
    cases h : (t.name.drop name.length).head?.any isWordChar with
    | true => simp
    | false => simpa [← List.append_assoc] using afterClose?_append unclosed
  · simp [named, Tag.Opens]

/-- A closing tag closes the elements of its own name. -/
theorem afterCloseTag?_closing (regular : Regular name) (t : Tag) (cs : List Char) :
    afterCloseTag? name ('<' :: '/' :: (t.closing ++ cs)) =
      if t.lowered = name then some cs else none := by
  have whole : t.closing ++ cs = t.name ++ '>' :: cs := by simp [Tag.closing]
  have ends : ∀ c ∈ ('>' :: cs).head?, c ∈ nameEnds := by simp [nameEnds]
  rw [whole, afterCloseTag?, afterName?_tag regular t ends]
  by_cases same : t.lowered = name
  · have left : t.name.drop name.length = [] := by
      rw [← same, Tag.lowered, List.length_map, List.drop_length]
    simp [same, left, isBlank]
  · rw [if_neg same]
    by_cases named : name <+: t.lowered
    · obtain ⟨c, more, left⟩ : ∃ c more, t.name.drop name.length = c :: more := by
        refine List.exists_cons_of_ne_nil fun all => same (named.eq_of_length_le ?_).symm
        rw [Tag.lowered, List.length_map]
        exact List.drop_eq_nil_iff.1 all
      obtain ⟨solid, -, other, -⟩ :=
        Tag.of_mem_name (List.mem_of_mem_drop (left ▸ List.mem_cons_self : c ∈ _))
      simp [named, left, solid, other]
    · simp [named]

/-! ### Cleaning by pieces -/

@[simp] theorem written_cons (p : Piece) (rest : List Piece) :
    written (p :: rest) = p.chars ++ written rest :=
  List.flatMap_cons

/-- The first closing tag in a page is the first of its closing pieces. -/
theorem afterFirstCloseTag?_written (regular : Regular name) (ps : List Piece) :
    afterFirstCloseTag? name (written ps) = (behindClosing? name ps).map written := by
  induction ps with
  | nil => rfl
  | cons p rest ih =>
    rw [written_cons]
    cases p with
    | text cs plain => rw [Piece.chars, afterFirstCloseTag?_append_of_not_mem plain.1, ih]; rfl
    | opening tag =>
      obtain ⟨c, more, named, -⟩ := tag.exists_name_eq_cons
      have noSlash : afterCloseTag? name ('<' :: (tag.opening ++ written rest)) = none := by
        rw [Tag.opening, named]
        exact afterCloseTag?_cons_cons_of_ne (Tag.of_mem_name (t := tag) (by simp [named])).2.2.2
      rw [Piece.chars, List.cons_append, afterFirstCloseTag?_cons_of_none noSlash,
        afterFirstCloseTag?_append_of_not_mem tag.not_mem_opening, ih]
      rfl
    | closing tag =>
      have read := afterCloseTag?_closing regular tag (written rest)
      rw [behindClosing?, Piece.chars]
      split at read
      · next same => rw [if_pos same]; exact afterFirstCloseTag?_cons_of_some read
      · next other =>
        have noOpen : '<' ∉ '/' :: tag.closing := by
          simpa using tag.not_mem_closing
        rw [if_neg other, List.cons_append, List.cons_append,
          afterFirstCloseTag?_cons_of_none read, ← List.cons_append,
          afterFirstCloseTag?_append_of_not_mem noOpen, ih]

theorem afterElement?_opening (regular : Regular name) (tag : Tag) (rest : List Piece) :
    afterElement? name (written (.opening tag :: rest)) =
      (behindElement? name (.opening tag :: rest)).map written := by
  rw [written_cons, Piece.chars, List.cons_append, afterElement?,
    afterOpenTag?_opening regular, behindElement?]
  split
  · exact afterFirstCloseTag?_written regular rest
  · rfl

/-- A closing tag does not open an element. -/
theorem afterElement?_closing (regular : Regular name) (tag : Tag) (rest : List Piece) :
    afterElement? name (written (.closing tag :: rest)) = none := by
  obtain ⟨letter, others, rfl⟩ := List.exists_cons_of_ne_nil regular.nonempty
  have other : sameLetter letter '/' = false :=
    sameLetter_of_mem_nameEnds (regular.letters letter List.mem_cons_self) (by decide)
  rw [written_cons, Piece.chars, List.cons_append, List.cons_append, afterElement?, afterOpenTag?,
    afterName?, other]
  rfl

/-- Elements are dropped piece by piece. -/
theorem dropElements_written (regular : Regular name) (ps : List Piece) :
    dropElements name (written ps) = written (dropPieces name ps) := by
  fun_induction dropPieces name ps with
  | case1 => exact dropElements_nil
  | case2 p rest after found ih =>
    cases p with
    | text cs plain => cases found
    | opening tag =>
      have element := afterElement?_opening regular tag rest
      rw [found, Option.map_some] at element
      exact (dropElements_cons_of_some element).trans (congrArg (' ' :: ·) ih)
    | closing tag => cases found
  | case3 p rest missing ih =>
    rw [written_cons p (dropPieces name rest), ← ih]
    cases p with
    | text cs plain => exact dropElements_append_of_not_mem plain.1
    | opening tag =>
      have element := afterElement?_opening regular tag rest
      rw [missing, Option.map_none] at element
      refine (dropElements_cons_of_none element).trans (congrArg ('<' :: ·) ?_)
      exact dropElements_append_of_not_mem tag.not_mem_opening
    | closing tag =>
      have noOpen : '<' ∉ '/' :: tag.closing := by simpa using tag.not_mem_closing
      refine (dropElements_cons_of_none (afterElement?_closing regular tag rest)).trans
        (congrArg ('<' :: ·) ?_)
      exact dropElements_append_of_not_mem noOpen

/-- Markup leaves a space. -/
def Piece.shown : Piece → List Char
  | .text cs _ => cs
  | .opening _ => [' ']
  | .closing _ => [' ']

theorem replaceTags_written (ps : List Piece) :
    replaceTags [' '] (written ps) = ps.flatMap Piece.shown := by
  induction ps with
  | nil => exact replaceTags_of_not_hasTag [' '] not_hasTag_nil
  | cons p rest ih =>
    rw [written_cons, List.flatMap_cons, ← ih]
    cases p with
    | text cs plain => exact replaceTags_append_of_not_mem plain.1
    | opening tag =>
      have whole : tag.opening ++ written rest =
          (tag.name ++ tag.attributes) ++ '>' :: written rest := by
        simp [Tag.opening]
      rw [Piece.chars, List.cons_append, whole]
      exact replaceTags_tag (by simp [tag.not_mem_name.2, tag.inside.2])
    | closing tag =>
      have whole : '/' :: tag.closing ++ written rest =
          ('/' :: tag.name) ++ '>' :: written rest := by
        simp [Tag.closing]
      rw [Piece.chars, List.cons_append, whole]
      exact replaceTags_tag (by simp [tag.not_mem_name.2])

theorem foldl_dropElements_written {names : List String}
    (regular : ∀ name ∈ names, Regular name.toList) (ps : List Piece) :
    names.foldl (fun cs name => dropElements name.toList cs) (written ps) =
      written (names.foldl (fun ps name => dropPieces name.toList ps) ps) := by
  induction names generalizing ps with
  | nil => rfl
  | cons name names ih =>
    obtain ⟨first, others⟩ := List.forall_mem_cons.1 regular
    rw [List.foldl_cons, List.foldl_cons, dropElements_written first, ih others]

/-- What cleaning leaves of a page, whether or not its tags match. -/
theorem cleanChars_written (ps : List Piece) :
    cleanChars (written ps) =
      (spaced (words ((chrome.foldl (fun ps name => dropPieces name.toList ps) ps).flatMap
        Piece.shown))).take lengthLimit := by
  rw [cleanChars_eq, foldl_dropElements_written fun name => regular_of_mem_chrome,
    replaceTags_written]

end PromptBroker.Page
