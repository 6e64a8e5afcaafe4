import PromptBroker.Text.Blank
import PromptBroker.Text.WordTable

/-!
# Markup in text

A *tag* is a `<` together with everything up to the next `>`. `stripTags`
removes the tags of a text, leftmost first, and keeps every other character; a
`<` that no `>` follows is ordinary text. Page cleaning additionally drops whole
elements: `dropElements` removes each opening tag of a given name with all that
follows up to the first closing tag of that name. Elements are found by text, not
by nesting.
-/

namespace PromptBroker.Text

/-- Replaces each tag by `by`. -/
def replaceTags (replacement : List Char) : List Char → List Char
  | [] => []
  | c :: rest =>
    if c = '<' then
      match _h : rest.dropWhile (· != '>') with
      | [] => c :: rest
      | _ :: after => replacement ++ replaceTags replacement after
    else c :: replaceTags replacement rest
termination_by cs => cs.length
decreasing_by
  · have := (List.dropWhile_sublist (l := rest) (· != '>')).length_le
    simp only [_h, List.length_cons] at this ⊢
    omega
  · simp

/-- The text without its tags. -/
def stripTags (s : String) : String :=
  String.ofList (replaceTags [] s.toList)

/-! ### Elements of a page -/

/-- Letters are equal up to case. Besides the other ASCII case, the long s and the Kelvin sign
are case variants of ASCII letters. -/
def sameLetter (letter c : Char) : Bool :=
  c.toLower == letter || (letter == 's' && c.toNat == 0x17F) || (letter == 'k' && c.toNat == 0x212A)

/-- The text behind a name, written in any case; the name is given in lower case. -/
def afterName? : List Char → List Char → Option (List Char)
  | [], cs => some cs
  | _ :: _, [] => none
  | letter :: name, c :: cs => if sameLetter letter c then afterName? name cs else none

/-- The text behind the next `>`. -/
def afterClose? (cs : List Char) : Option (List Char) :=
  match cs.dropWhile (· != '>') with
  | [] => none
  | _ :: rest => some rest

/-- The text behind an opening tag of this name. The name must end there: no word character may
follow it. -/
def afterOpenTag? (name : List Char) : List Char → Option (List Char)
  | '<' :: rest =>
    match afterName? name rest with
    | some after =>
      if (after.head?.map isWordChar).getD false then none else afterClose? after
    | none => none
  | _ => none

/-- The text behind a closing tag of this name; blanks may stand in front of its `>`. -/
def afterCloseTag? (name : List Char) : List Char → Option (List Char)
  | '<' :: '/' :: rest =>
    match afterName? name rest with
    | some after =>
      match after.dropWhile isBlank with
      | '>' :: rest => some rest
      | _ => none
    | none => none
  | _ => none

/-- The text behind the first closing tag of this name. -/
def afterFirstCloseTag? (name : List Char) : List Char → Option (List Char)
  | [] => none
  | c :: rest =>
    match afterCloseTag? name (c :: rest) with
    | some after => some after
    | none => afterFirstCloseTag? name rest

/-- The text behind an element of this name that starts right here. -/
def afterElement? (name : List Char) (cs : List Char) : Option (List Char) :=
  (afterOpenTag? name cs).bind (afterFirstCloseTag? name)

theorem length_afterName?_le {name cs after : List Char} (h : afterName? name cs = some after) :
    after.length ≤ cs.length := by
  induction name generalizing cs with
  | nil => simp_all [afterName?]
  | cons letter name ih =>
    cases cs with
    | nil => simp [afterName?] at h
    | cons c cs =>
      simp only [afterName?] at h
      split at h
      · exact Nat.le_succ_of_le (ih h)
      · simp at h

theorem length_afterClose?_le {cs after : List Char} (h : afterClose? cs = some after) :
    after.length ≤ cs.length := by
  have := (List.dropWhile_sublist (l := cs) (· != '>')).length_le
  unfold afterClose? at h
  split at h
  · simp at h
  · next heq =>
    rw [heq] at this
    simp only [Option.some.injEq] at h
    subst h
    exact Nat.le_of_succ_le this

theorem length_afterOpenTag?_lt {name cs after : List Char}
    (h : afterOpenTag? name cs = some after) : after.length < cs.length := by
  unfold afterOpenTag? at h
  split at h
  · split at h
    · next hn =>
      split at h
      · simp at h
      · exact Nat.lt_succ_of_le
          (Nat.le_trans (length_afterClose?_le h) (length_afterName?_le hn))
    · simp at h
  · simp at h

theorem length_afterCloseTag?_le {name cs after : List Char}
    (h : afterCloseTag? name cs = some after) : after.length ≤ cs.length := by
  unfold afterCloseTag? at h
  split at h
  · split at h
    · next mid hn =>
      have hm := length_afterName?_le hn
      have hd := (List.dropWhile_sublist (l := mid) isBlank).length_le
      split at h
      · next heq =>
        rw [heq] at hd
        simp only [Option.some.injEq] at h
        subst h
        simp only [List.length_cons] at hd ⊢
        omega
      · simp at h
    · simp at h
  · simp at h

theorem length_afterFirstCloseTag?_le {name cs after : List Char}
    (h : afterFirstCloseTag? name cs = some after) : after.length ≤ cs.length := by
  induction cs with
  | nil => simp [afterFirstCloseTag?] at h
  | cons c rest ih =>
    simp only [afterFirstCloseTag?] at h
    split at h
    · next hc =>
      simp only [Option.some.injEq] at h
      subst h
      exact length_afterCloseTag?_le hc
    · exact Nat.le_succ_of_le (ih h)

theorem length_afterElement?_lt {name cs after : List Char}
    (h : afterElement? name cs = some after) : after.length < cs.length := by
  obtain ⟨mid, hm, ha⟩ := Option.bind_eq_some_iff.1 h
  exact Nat.lt_of_le_of_lt (length_afterFirstCloseTag?_le ha) (length_afterOpenTag?_lt hm)

/-- Replaces each element of this name by a space. -/
def dropElements (name : List Char) : List Char → List Char
  | [] => []
  | c :: rest =>
    match _h : afterElement? name (c :: rest) with
    | some after => ' ' :: dropElements name after
    | none => c :: dropElements name rest
termination_by cs => cs.length
decreasing_by
  · exact length_afterElement?_lt _h
  · simp

/-- Each run of blanks becomes one space. -/
def collapseBlanks : List Char → List Char
  | [] => []
  | c :: rest =>
    if isBlank c then
      match rest with
      | [] => [' ']
      | d :: _ => if isBlank d then collapseBlanks rest else ' ' :: collapseBlanks rest
    else c :: collapseBlanks rest

end PromptBroker.Text
