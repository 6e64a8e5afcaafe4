/-!
# Blank and control characters

Two character classes that the whole library shares: the blank characters, which
are trimmed from names and numbers and collapsed in fetched pages, and the
control characters, which are dropped from model output. Both are properties of
the Unicode standard, not of ASCII.

`toList_trim` justifies the shortcut in `trim`: a text with no blank at either
end is its own trimmed form.
-/

namespace PromptBroker.Text

/-- The Unicode property `White_Space`, 25 characters. -/
def isBlank (c : Char) : Bool :=
  let n := c.toNat
  (0x09 ≤ n && n ≤ 0x0D) || n == 0x20 || n == 0x85 || n == 0xA0 || n == 0x1680 ||
  (0x2000 ≤ n && n ≤ 0x200A) || n == 0x2028 || n == 0x2029 || n == 0x202F ||
  n == 0x205F || n == 0x3000

/-- The Unicode general category `Cc`. -/
def isControl (c : Char) : Bool :=
  let n := c.toNat
  n ≤ 0x1F || (0x7F ≤ n && n ≤ 0x9F)

/-- The characters without the blanks at both ends. -/
def trimChars (cs : List Char) : List Char :=
  ((cs.dropWhile isBlank).reverse.dropWhile isBlank).reverse

/-- Whether a blank stands at either end, so that trimming changes the text. -/
def hasBlankEdge (s : String) : Bool :=
  s.startsWith isBlank || s.endsWith isBlank

/-- The text without the blanks at both ends. A text with clean edges is returned as it is,
so that large uploads are not copied. -/
def trim (s : String) : String :=
  if hasBlankEdge s then String.ofList (trimChars s.toList) else s

/-- Every character is blank; the empty text is. -/
def isAllBlank (s : String) : Bool :=
  s.all isBlank

/-- ASCII letters in lower case, everything else unchanged. -/
def lower (s : String) : String :=
  s.map Char.toLower

/-- Names in settings and requests are compared without regard to ASCII case and
surrounding blanks. -/
def canonicalName (s : String) : String :=
  lower (trim s)

/-! ### Lemmas -/

@[simp] theorem isBlank_space : isBlank ' ' = true := by decide

theorem hasBlankEdge_eq_false_iff {s : String} : hasBlankEdge s = false ↔
    s.toList.head?.any isBlank = false ∧ s.toList.getLast?.any isBlank = false := by
  rw [hasBlankEdge, String.startsWith_bool_eq_head?, String.endsWith_bool_eq_getLast?,
    Bool.or_eq_false_iff]

theorem trimChars_of_edges {cs : List Char} (front : cs.head?.any isBlank = false)
    (back : cs.getLast?.any isBlank = false) : trimChars cs = cs := by
  have kept {cs : List Char} (h : cs.head?.any isBlank = false) : cs.dropWhile isBlank = cs := by
    cases cs with
    | nil => rfl
    | cons c rest => exact List.dropWhile_cons_of_neg (by simpa using h)
  rw [trimChars, kept front, kept (by rwa [List.head?_reverse]), List.reverse_reverse]

/-- Trimming takes the blanks off both ends, also where it takes the shortcut. -/
theorem toList_trim (s : String) : (trim s).toList = trimChars s.toList := by
  unfold trim
  split
  · exact String.toList_ofList
  · next clean =>
    obtain ⟨front, back⟩ := hasBlankEdge_eq_false_iff.1 (Bool.eq_false_iff.2 clean)
    exact (trimChars_of_edges front back).symm

theorem trim_of_forall {s : String} (h : ∀ c ∈ s.toList, isBlank c = false) : trim s = s := by
  refine String.toList_injective ((toList_trim s).trans (trimChars_of_edges ?_ ?_))
  · cases first : s.toList.head? with
    | none => rfl
    | some c => exact h c (List.mem_of_head? first)
  · cases last : s.toList.getLast? with
    | none => rfl
    | some c => exact h c (List.mem_of_getLast? last)

end PromptBroker.Text
