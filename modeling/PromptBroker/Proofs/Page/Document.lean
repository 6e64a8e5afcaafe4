import PromptBroker.Proofs.Page.Pieces

/-!
# Pages that are documents

A document is text and elements, nested properly. What should be left of it are the texts that
stand in no script, style, navigation or footer (`Document.shown`). That is what cleaning leaves
(`clean_render`) of a document in which

* none of these elements stands inside another one of its own name, since the first closing tag
  ends them both, and
* no element that merely resembles one of them, as `nav-bar` does, stands in front of one, since
  the closing tag of that one would end them both.

Each pass of cleaning is one walk over the tree. In it, a closing tag behind the part of the
tree that is walked matters only to the elements that resemble the dropped ones
(`dropPieces_pieces`).
-/

namespace PromptBroker.Page

open PromptBroker.Text

/-- Text and elements, nested properly. -/
inductive Document
  | nil
  | text (cs : List Char) (plain : '<' ∉ cs ∧ '>' ∉ cs) (rest : Document)
  | void (tag : Tag) (known : tag.lowered ∈ voidNames.map String.toList) (rest : Document)
  | element (tag : Tag) (inside rest : Document)

namespace Document

/-- The document as text and tags. -/
def pieces : Document → List Piece
  | nil => []
  | text cs plain rest => .text cs plain :: rest.pieces
  | void tag _ rest => .opening tag :: rest.pieces
  | element tag inside rest => .opening tag :: (inside.pieces ++ .closing tag :: rest.pieces)

/-- The document as it is written. -/
def render (d : Document) : String := String.ofList (written d.pieces)

/-- The texts outside the elements of these names, with a space wherever markup stood. -/
def visible (dropped : List (List Char)) : Document → List Char
  | nil => []
  | text cs _ rest => cs ++ rest.visible dropped
  | void _ _ rest => ' ' :: rest.visible dropped
  | element tag inside rest =>
    if tag.lowered ∈ dropped then ' ' :: rest.visible dropped
    else ' ' :: (inside.visible dropped ++ ' ' :: rest.visible dropped)

/-- What should be left of a document. -/
def shown (d : Document) : String :=
  let dropped := ["script", "style", "nav", "footer"].map String.toList
  String.ofList ((spaced (words (d.visible dropped))).take 5000)

/-! ### One name -/

/-- The document with a space in place of each outermost element of this name. -/
def without (name : List Char) : Document → Document
  | nil => nil
  | text cs plain rest => text cs plain (rest.without name)
  | void tag known rest => void tag known (rest.without name)
  | element tag inside rest =>
    if tag.lowered = name then text [' '] plain_space (rest.without name)
    else element tag (inside.without name) (rest.without name)

/-- The tags of the elements, from front to back. -/
def tags : Document → List Tag
  | nil => []
  | text _ _ rest => rest.tags
  | void _ _ rest => rest.tags
  | element tag inside rest => tag :: (inside.tags ++ rest.tags)

/-- The tags of the elements that stand inside no element of this name. -/
def outer (name : List Char) : Document → List Tag
  | nil => []
  | text _ _ rest => rest.outer name
  | void _ _ rest => rest.outer name
  | element tag inside rest =>
    tag :: ((if tag.lowered = name then [] else inside.outer name) ++ rest.outer name)

/-- The tags of the elements that stand inside an element of this name. -/
def inner (name : List Char) : Document → List Tag
  | nil => []
  | text _ _ rest => rest.inner name
  | void _ _ rest => rest.inner name
  | element tag inside rest =>
    (if tag.lowered = name then inside.tags else inside.inner name) ++ rest.inner name

end Document

/-- The tag opens elements of this name although it has another one. -/
def Tag.Resembles (name : List Char) (t : Tag) : Prop := t.Opens name ∧ t.lowered ≠ name

instance (name : List Char) (t : Tag) : Decidable (t.Resembles name) :=
  inferInstanceAs (Decidable (_ ∧ _))

namespace Document

/-- Elements of this name can be found by their tags. -/
structure Distinct (name : List Char) (d : Document) : Prop where
  single : ∀ t ∈ d.inner name, t.lowered ≠ name
  ordered : (d.outer name).Pairwise fun t u => t.Resembles name → u.lowered ≠ name

variable {name : List Char} {d : Document}

/-- Without outer elements of a name there are no inner ones. -/
theorem tags_of_outer (h : ∀ t ∈ d.outer name, t.lowered ≠ name) :
    ∀ t ∈ d.tags, t.lowered ≠ name := by
  induction d with
  | nil => exact List.forall_mem_nil _
  | text cs plain rest ih => exact ih h
  | void tag known rest ih => exact ih h
  | element tag inside rest ihInside ihRest =>
    obtain ⟨first, others⟩ := List.forall_mem_cons.1 h
    rw [if_neg first] at others
    obtain ⟨inner, behind⟩ := List.forall_mem_append.1 others
    exact List.forall_mem_cons.2
      ⟨first, List.forall_mem_append.2 ⟨ihInside inner, ihRest behind⟩⟩

/-- In a document without elements of this name none ends. -/
theorem behindClosing?_pieces (h : ∀ t ∈ d.tags, t.lowered ≠ name) (tail : List Piece) :
    behindClosing? name (d.pieces ++ tail) = behindClosing? name tail := by
  induction d generalizing tail with
  | nil => rfl
  | text cs plain rest ih => exact ih h tail
  | void tag known rest ih => exact ih h tail
  | element tag inside rest ihInside ihRest =>
    obtain ⟨first, others⟩ := List.forall_mem_cons.1 h
    obtain ⟨inner, behind⟩ := List.forall_mem_append.1 others
    rw [pieces, List.cons_append, List.append_assoc, behindClosing?, ihInside inner,
      List.cons_append, behindClosing?, if_neg first, ihRest behind]

/-- A tag with the name itself opens elements of the name. -/
theorem opens_of_lowered {tag : Tag} (same : tag.lowered = name) : tag.Opens name := by
  have left : tag.name.drop name.length = [] := by
    rw [← same, Tag.lowered, List.length_map, List.drop_length]
  exact ⟨same ▸ List.prefix_refl _, by rw [left]; rfl⟩

theorem not_opens_of_void (regular : Regular name) {tag : Tag}
    (known : tag.lowered ∈ voidNames.map String.toList) : ¬tag.Opens name := by
  rintro ⟨begins, -⟩
  obtain ⟨void, member, same⟩ := List.mem_map.1 known
  exact regular.noVoid void member (same ▸ begins)

/-- A pass over a document, whatever stands behind it: if an element in the document resembles
the dropped ones, none of these may end there. -/
theorem dropPieces_pieces (regular : Regular name) (distinct : d.Distinct name) (tail : List Piece)
    (unended : ∀ t ∈ d.outer name, t.Resembles name → behindClosing? name tail = none) :
    dropPieces name (d.pieces ++ tail) = (d.without name).pieces ++ dropPieces name tail := by
  obtain ⟨single, ordered⟩ := distinct
  induction d generalizing tail with
  | nil => rfl
  | text cs plain rest ih =>
    rw [pieces, List.cons_append, dropPieces_cons_of_none rfl, ih tail unended single ordered]
    rfl
  | void tag known rest ih =>
    have none : behindElement? name (.opening tag :: (rest.pieces ++ tail)) = none :=
      if_neg (not_opens_of_void regular known)
    rw [pieces, List.cons_append, dropPieces_cons_of_none none, ih tail unended single ordered]
    rfl
  | element tag inside rest ihInside ihRest =>
    rw [pieces, List.cons_append, List.append_assoc, List.cons_append, without]
    obtain ⟨inSingle, restSingle⟩ := List.forall_mem_append.1 single
    obtain ⟨first, others⟩ := List.pairwise_cons.1 ordered
    obtain ⟨here, behind⟩ := List.forall_mem_cons.1 unended
    by_cases same : tag.lowered = name
    · rw [if_pos same] at inSingle first others behind
      have found : behindElement? name
          (.opening tag :: (inside.pieces ++ .closing tag :: (rest.pieces ++ tail))) =
            some (rest.pieces ++ tail) := by
        rw [behindElement?, if_pos (opens_of_lowered same), behindClosing?_pieces inSingle,
          behindClosing?, if_pos same]
      rw [if_pos same, dropPieces_cons_of_some found, ihRest tail behind restSingle others]
      rfl
    · rw [if_neg same] at inSingle first others behind
      obtain ⟨inOrdered, restOrdered, across⟩ := List.pairwise_append.1 others
      obtain ⟨inOpen, restOpen⟩ := List.forall_mem_append.1 behind
      -- Behind the inside nothing may end what something in front of it has seemed to begin.
      have ends {t : Tag} (resembles : t.Resembles name) (known : t ∈ tag :: inside.outer name)
          (after : ∀ u ∈ rest.outer name, u.lowered ≠ name) :
          behindClosing? name (.closing tag :: (rest.pieces ++ tail)) = none := by
        rw [behindClosing?, if_neg same, behindClosing?_pieces (tags_of_outer after)]
        rcases List.mem_cons.1 known with rfl | known
        · exact here resembles
        · exact inOpen t known resembles
      have missing : behindElement? name
          (.opening tag :: (inside.pieces ++ .closing tag :: (rest.pieces ++ tail))) = none := by
        rw [behindElement?]
        split
        · next opens =>
          have resembles : tag.Resembles name := ⟨opens, same⟩
          obtain ⟨inFree, restFree⟩ :=
            List.forall_mem_append.1 fun u member => first u member resembles
          rw [behindClosing?_pieces (tags_of_outer inFree)]
          exact ends resembles List.mem_cons_self restFree
        · rfl
      rw [if_neg same, dropPieces_cons_of_none missing,
        ihInside _ (fun t member resembles => ends resembles (List.mem_cons_of_mem tag member)
          fun u after => across t member u after resembles) inSingle inOrdered,
        dropPieces_cons_of_none rfl, ihRest tail restOpen restSingle restOrdered, pieces,
        List.cons_append, List.append_assoc, List.cons_append]

/-! ### All names -/

/-- Leaving an element out before looking is not looking into it. -/
theorem visible_without (name : List Char) (dropped : List (List Char)) (d : Document) :
    (d.without name).visible dropped = d.visible (name :: dropped) := by
  induction d with
  | nil => rfl
  | text cs plain rest ih => rw [without, visible, visible, ih]
  | void tag known rest ih => rw [without, visible, visible, ih]
  | element tag inside rest ihInside ihRest =>
    rw [without]
    by_cases same : tag.lowered = name
    · rw [if_pos same, visible, visible, ihRest, if_pos (List.mem_cons.2 (.inl same))]
      rfl
    · have known : tag.lowered ∈ name :: dropped ↔ tag.lowered ∈ dropped :=
        List.mem_cons.trans (or_iff_right same)
      rw [if_neg same, visible, visible, ihInside, ihRest]
      simp only [known]

theorem flatMap_shown_pieces (d : Document) : d.pieces.flatMap Piece.shown = d.visible [] := by
  induction d with
  | nil => rfl
  | text cs plain rest ih => rw [pieces, List.flatMap_cons, ih]; rfl
  | void tag known rest ih => rw [pieces, List.flatMap_cons, ih]; rfl
  | element tag inside rest ihInside ihRest =>
    rw [pieces, List.flatMap_cons, List.flatMap_append, List.flatMap_cons, ihInside, ihRest]
    rfl

/-- Pass by pass, the elements can be found by their tags. -/
def Clear : List (List Char) → Document → Prop
  | [], _ => True
  | name :: names, d => d.Distinct name ∧ Clear names (d.without name)

instance (name : List Char) (d : Document) : Decidable (d.Distinct name) :=
  decidable_of_iff (_ ∧ _) ⟨fun ⟨single, ordered⟩ => ⟨single, ordered⟩, fun h => ⟨h.1, h.2⟩⟩

instance decidableClear : ∀ (names : List (List Char)) (d : Document), Decidable (Clear names d)
  | [], _ => isTrue trivial
  | name :: names, d =>
    have := decidableClear names (d.without name)
    inferInstanceAs (Decidable (_ ∧ _))

/-- Where the elements can be found, the passes over the text are passes over the tree. -/
theorem foldl_dropPieces {names : List String} (regular : ∀ name ∈ names, Regular name.toList)
    {d : Document} (clear : Clear (names.map String.toList) d) :
    (names.foldl (fun ps name => dropPieces name.toList ps) d.pieces).flatMap Piece.shown =
      d.visible (names.map String.toList) := by
  induction names generalizing d with
  | nil => exact flatMap_shown_pieces d
  | cons name names ih =>
    obtain ⟨first, others⟩ := List.forall_mem_cons.1 regular
    obtain ⟨distinct, clear⟩ := clear
    have pass : dropPieces name.toList d.pieces = (d.without name.toList).pieces := by
      have whole := dropPieces_pieces first distinct [] fun _ _ _ => rfl
      rwa [dropPieces_nil, List.append_nil, List.append_nil] at whole
    rw [List.foldl_cons, pass, ih others clear, visible_without, List.map_cons]

end Document

/-- Cleaning leaves of a document the words that stand in no script, style, navigation or footer. -/
theorem clean_render (d : Document)
    (clear : d.Clear (["script", "style", "nav", "footer"].map String.toList)) :
    clean d.render = d.shown := by
  rw [clean, Document.render, String.toList_ofList, cleanChars_written,
    Document.foldl_dropPieces (fun name => regular_of_mem_chrome) clear]
  rfl

/-- A tag without attributes. -/
def Tag.bare (name : String) (first : name.toList.head?.any Char.isAlpha = true := by decide)
    (whole : name.toList.all isNameChar = true := by decide) : Tag :=
  ⟨name.toList, [], first, whole, rfl, by decide⟩

/-- A page with a menu, whose items are elements of their own kind, and a footer in it; behind
it a note whose name resembles a menu's. -/
def homePage : Document :=
  .element ⟨"NAV".toList, " class=top".toList, by decide, by decide, by decide, by decide⟩
    (.element (.bare "nav-item") (.text "Home".toList (by decide) .nil)
      (.element (.bare "footer") (.text "Imprint".toList (by decide) .nil) .nil))
    (.element (.bare "p")
      (.text "Read".toList (by decide) (.void (.bare "br") (by decide)
        (.text "this ".toList (by decide) .nil)))
      (.element (.bare "nav-note") (.text "first".toList (by decide) .nil) .nil))

theorem clean_homePage :
    homePage.Clear (["script", "style", "nav", "footer"].map String.toList) ∧
      homePage.render = "<NAV class=top><nav-item>Home</nav-item><footer>Imprint</footer></NAV>" ++
        "<p>Read<br>this </p><nav-note>first</nav-note>" ∧
      clean homePage.render = "Read this first" := by
  have clear : homePage.Clear (["script", "style", "nav", "footer"].map String.toList) := by decide
  exact ⟨clear, by decide, (clean_render homePage clear).trans (by decide)⟩

/-- A page whose first element resembles a menu. -/
def lookalike : Document :=
  .element (.bare "nav-bar") (.text "Docs".toList (by decide) .nil)
    (.element (.bare "p") (.text "Text".toList (by decide) .nil)
      (.element (.bare "nav") (.text "Menu".toList (by decide) .nil) .nil))

/-- A menu with a menu in it. -/
def submenu : Document :=
  .element (.bare "nav")
    (.element (.bare "nav") (.text "Inner".toList (by decide) .nil)
      (.text "Outer".toList (by decide) .nil))
    .nil

/-- Neither condition can be spared: text is lost behind an element that resembles a menu, and
text of a menu is left behind a menu in it. -/
theorem not_forall_clean_render :
    lookalike.render = "<nav-bar>Docs</nav-bar><p>Text</p><nav>Menu</nav>" ∧
      lookalike.shown = "Docs Text" ∧ clean lookalike.render = "" ∧
      submenu.render = "<nav><nav>Inner</nav>Outer</nav>" ∧
      submenu.shown = "" ∧ clean submenu.render = "Outer" ∧
      ¬∀ d : Document, clean d.render = d.shown := by
  have wide : lookalike.shown = "Docs Text" := by decide
  have lost : clean lookalike.render = "" := by decide +kernel
  refine ⟨by decide, wide, lost, by decide, by decide, by decide +kernel, fun all => ?_⟩
  exact absurd ((all lookalike).symm.trans lost) (by rw [wide]; decide)

end PromptBroker.Page
