import PromptBroker.Json.Recovery
import PromptBroker.Proofs.Json.Grammar
import PromptBroker.Proofs.Text.Separator

/-!
# Extraction of objects

The scanner counts braces and knows nothing of the grammar, but on texts of the grammar
the two agree. The invariant is that scanning *passes over* every part of the grammar:
inside an object it comes out behind the part at the depth at which it went in, outside
of any string. So the brace that ends the scan is the last one of the object, whatever
stands around it (`extractObject?_of_written`).
-/

namespace PromptBroker.Json

variable {cs ds rest : List Char}

/-- Inside an object the scanner passes over the text and is as deep behind it as in front. -/
def Passes (cs : List Char) : Prop :=
  ∀ depth rest, balanced? .outside (depth + 1) (cs ++ rest) =
    (balanced? .outside (depth + 1) rest).map (cs ++ ·)

/-- Characters that do not change where the scanner stands outside of strings. -/
def isNeutral (c : Char) : Bool := c != '"' && c != '{' && c != '}'

/-! ### Single steps -/

theorem balanced?_quote (depth : Nat) (rest : List Char) :
    balanced? .outside depth ('"' :: rest) = (balanced? .inside depth rest).map ('"' :: ·) := by
  rw [balanced?.eq_def]
  rfl

theorem balanced?_opening (depth : Nat) (rest : List Char) :
    balanced? .outside depth ('{' :: rest) =
      (balanced? .outside (depth + 1) rest).map ('{' :: ·) := by
  rw [balanced?.eq_def]
  rfl

theorem balanced?_closing (depth : Nat) (rest : List Char) :
    balanced? .outside (depth + 2) ('}' :: rest) =
      (balanced? .outside (depth + 1) rest).map ('}' :: ·) := rfl

theorem balanced?_last (rest : List Char) : balanced? .outside 1 ('}' :: rest) = some ['}'] := rfl

theorem balanced?_neutral {c : Char} (h : isNeutral c = true) (depth : Nat) (rest : List Char) :
    balanced? .outside depth (c :: rest) = (balanced? .outside depth rest).map (c :: ·) := by
  simp only [isNeutral, Bool.and_eq_true, bne_iff_ne, ne_eq] at h
  obtain ⟨⟨quote, opening⟩, closing⟩ := h
  rw [balanced?.eq_def]
  simp only [if_neg quote, if_neg opening, if_neg closing]

/-! ### What is passed over -/

theorem passes_nil : Passes [] := fun depth rest => by
  cases h : balanced? .outside (depth + 1) rest <;> simp [h]

theorem Passes.append (hc : Passes cs) (hd : Passes ds) : Passes (cs ++ ds) := by
  intro depth rest
  rw [List.append_assoc, hc, hd, Option.map_map]
  simp [Function.comp_def]

theorem passes_cons {c : Char} (neutral : isNeutral c = true) (h : Passes cs) :
    Passes (c :: cs) := by
  intro depth rest
  rw [List.cons_append, balanced?_neutral neutral, h, Option.map_map]
  rfl

theorem passes_of_neutral (h : ∀ c ∈ cs, isNeutral c = true) : Passes cs := by
  induction cs with
  | nil => exact passes_nil
  | cons c cs ih =>
    exact passes_cons (h c List.mem_cons_self) (ih fun x hx => h x (List.mem_cons_of_mem c hx))

theorem passes_of_all (h : cs.all isNeutral = true) : Passes cs :=
  passes_of_neutral (List.all_eq_true.1 h)

theorem passes_of_gap (h : IsGapText cs) : Passes cs :=
  passes_of_neutral (h.forall_of_all (by decide))

theorem passes_of_number (h : IsNumber cs) : Passes cs := by
  refine passes_of_neutral fun c hc => ?_
  have number := h.isNumberChar c hc
  unfold isNeutral
  simp only [Bool.and_eq_true, bne_iff_ne]
  refine ⟨⟨?_, ?_⟩, ?_⟩ <;> rintro rfl <;> revert number <;> decide

/-- From inside a string the scanner comes out behind its closing quote, at the same depth: a quote
behind a backslash does not close the string, and braces do not count. -/
theorem balanced?_literal (h : IsLiteral cs) (depth : Nat) (rest : List Char) :
    balanced? .inside depth (cs ++ '"' :: rest) =
      (balanced? .outside depth rest).map (cs ++ '"' :: ·) := by
  have skip (c : Char) (hc : c ≠ '"') (hb : c ≠ '\\') (cs : List Char) :
      balanced? .inside depth (c :: cs) = (balanced? .inside depth cs).map (c :: ·) := by
    rw [balanced?, if_neg hb, if_neg hc]
  have escaped (c : Char) (cs : List Char) :
      balanced? .inside depth ('\\' :: c :: cs) =
        (balanced? .inside depth cs).map ('\\' :: c :: ·) := by
    rw [balanced?, if_pos rfl, balanced?, Option.map_map]
    rfl
  induction h with
  | nil => rfl
  | plain quote backslash visible _ ih =>
    rw [List.cons_append, skip _ quote backslash, ih, Option.map_map]
    rfl
  | escape short _ ih =>
    rw [List.cons_append, List.cons_append, escaped, ih, Option.map_map]
    rfl
  | @unicode a b c d cs digits _ ih =>
    -- the backslash takes the letter with it, and a digit is neither a quote nor a backslash
    have plain {x : Char} (hx : x ∈ [a, b, c, d]) : x ≠ '"' ∧ x ≠ '\\' := by
      have digit := digits x hx
      constructor <;> rintro rfl <;> revert digit <;> decide
    simp only [List.cons_append]
    rw [escaped, skip a (plain (by simp)).1 (plain (by simp)).2,
      skip b (plain (by simp)).1 (plain (by simp)).2,
      skip c (plain (by simp)).1 (plain (by simp)).2,
      skip d (plain (by simp)).1 (plain (by simp)).2, ih]
    simp only [Option.map_map]
    rfl

theorem passes_of_literal (h : IsLiteral cs) (behind : Passes ds) :
    Passes ('"' :: (cs ++ '"' :: ds)) := by
  intro depth rest
  have front : '"' :: (cs ++ '"' :: ds) ++ rest = '"' :: (cs ++ '"' :: (ds ++ rest)) := by simp
  rw [front, balanced?_quote, balanced?_literal h, behind]
  simp [Function.comp_def]

/-! ### Objects -/

/-- An object that stands outside of any other is found, and the scan ends with it. -/
theorem balanced?_braces (h : Passes cs) (rest : List Char) :
    balanced? .outside 0 ('{' :: (cs ++ '}' :: rest)) = some ('{' :: (cs ++ ['}'])) := by
  rw [balanced?_opening, h, balanced?_last]
  rfl

theorem passes_braces (h : Passes cs) : Passes ('{' :: (cs ++ ['}'])) := by
  intro depth rest
  have front : '{' :: (cs ++ ['}']) ++ rest = '{' :: (cs ++ '}' :: rest) := by simp
  rw [front, balanced?_opening, h, balanced?_closing]
  simp [Function.comp_def]

/-- The scanner passes over every part of the grammar. -/
theorem passes_of_written {part : Part} (h : Written part cs) : Passes cs := by
  have comma {cs : List Char} (h : Passes cs) : Passes (',' :: cs) := passes_cons (by decide) h
  have colon {cs : List Char} (h : Passes cs) : Passes (':' :: cs) := passes_cons (by decide) h
  have brackets {cs : List Char} (h : Passes cs) : Passes ('[' :: (cs ++ [']'])) :=
    passes_cons (by decide) (h.append (passes_of_all (by decide)))
  induction h with
  | null | true | false => exact passes_of_all (by decide)
  | number number => exact passes_of_number number
  | string literal => exact passes_of_literal literal passes_nil
  | noItems gap => exact brackets (passes_of_gap gap)
  | array _ items => exact brackets items
  | noMembers gap => exact passes_braces (passes_of_gap gap)
  | members _ members => exact passes_braces members
  | object _ object => exact object
  | lastItem before _ after value =>
    exact (passes_of_gap before).append (value.append (passes_of_gap after))
  | item before _ after _ value rest =>
    have more := (passes_of_gap after).append (comma rest)
    exact (passes_of_gap before).append (value.append more)
  | lastMember before key behindKey front _ after value =>
    have content := (passes_of_gap front).append (value.append (passes_of_gap after))
    have behind := (passes_of_gap behindKey).append (colon content)
    exact (passes_of_gap before).append (passes_of_literal key behind)
  | member before key behindKey front _ after _ value rest =>
    have more := (passes_of_gap after).append (comma rest)
    have content := (passes_of_gap front).append (value.append more)
    have behind := (passes_of_gap behindKey).append (colon content)
    exact (passes_of_gap before).append (passes_of_literal key behind)

theorem balanced?_of_written (h : Written .object cs) (rest : List Char) :
    balanced? .outside 0 (cs ++ rest) = some cs := by
  cases h with
  | noMembers gap => simpa using balanced?_braces (passes_of_gap gap) rest
  | members members => simpa using balanced?_braces (passes_of_written members) rest

theorem Written.head?_object (h : Written .object cs) : cs.head? = some '{' := by
  cases h <;> rfl

/-- The scan starts at the first opening brace. -/
theorem extractChars?_append {front : List Char} (noBrace : '{' ∉ front) (rest : List Char) :
    extractChars? (front ++ '{' :: rest) = balanced? .outside 0 ('{' :: rest) := by
  rw [extractChars?, Text.dropWhile_ne_append noBrace]

/-- Every object of the grammar is found as it is written, in front of anything and behind anything
without an opening brace. -/
theorem extractObject?_of_written {front object behind : String}
    (written : Written .object object.toList) (noBrace : '{' ∉ front.toList) :
    extractObject? (front ++ object ++ behind) = some object := by
  have skipped : (front ++ object ++ behind).toList.dropWhile (· != '{') =
      object.toList ++ behind.toList := by
    obtain ⟨more, opens⟩ := List.head?_eq_some_iff.1 written.head?_object
    rw [String.toList_append, String.toList_append, List.append_assoc,
      List.dropWhile_append_of_pos, opens]
    · rfl
    · intro c hc
      exact bne_iff_ne.2 fun brace => noBrace (brace ▸ hc)
  unfold extractObject? extractChars?
  rw [skipped, balanced?_of_written written]
  simp

/-- An object that holds another one, braces and quotes in strings, and blanks between tokens. -/
def nestedObject : String :=
  "\x7b\"a\\\"\x7d\": [ \x7b\"b\" : \"\x7b\\\\\"\x7d , -1.5e3],\n\"\\u007b\":\x7b\x7d\x7d"

/-- The object is found behind a remark with a quote, a backslash and a closing brace in it, and in
front of one with an opening brace. -/
theorem extractObject?_nestedObject :
    Written .object nestedObject.toList ∧ '{' ∉ "He said \"\\\x7d: ".toList ∧
      extractObject? ("He said \"\\\x7d: " ++ nestedObject ++ " or \x7b\"c\"") =
        some nestedObject := by
  have read : (readWithin maxDepth nestedObject.toList).toOption.isSome = true := by decide +kernel
  have written : Written .object nestedObject.toList := by
    cases hread : readWithin maxDepth nestedObject.toList with
    | error e => rw [hread] at read; cases read
    | ok v => exact written_of_readWithin (by decide +kernel) (by decide +kernel) hread
  have noBrace : '{' ∉ "He said \"\\\x7d: ".toList := by decide +kernel
  exact ⟨written, noBrace, extractObject?_of_written written noBrace⟩

end PromptBroker.Json
