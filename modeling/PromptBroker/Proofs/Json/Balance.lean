import PromptBroker.Proofs.Json.Extraction
import PromptBroker.Proofs.Text.Separator

/-!
# Balanced braces

The scanner that looks for an object counts braces outside of string literals. Which
characters those are is said here without it, for any text (`Outside`): a literal starts at
a quote, a backslash in it escapes the character behind it, and the next quote that is not
escaped ends it. A literal that is not closed takes the rest of the text.

What the scanner finds is the text from the first opening brace to where the braces first
balance, and it finds nothing if they never do (`extractObject?_exact`). The invariant of
its run is that the depth is the one at the start and what the text since then adds to it
(`net`); a text adds as many as it has opening braces outside of literals, less the closing
ones (`Outside.net_eq`).

`scan` is the same run with its ways to end apart, counted in bytes. Behind the first brace
the depth stays at one or more until the scan ends. So no closing brace is met at depth
zero, and the scan ends behind a whole character (`scanEnd_cases`).
-/

namespace PromptBroker.Json

/-! ### Characters outside of string literals -/

/-- What may stand between the quotes of a literal: a backslash escapes the character behind it,
whichever that is, and there is no quote that is not escaped. -/
inductive IsQuoted : List Char → Prop
  | nil : IsQuoted []
  | plain {c cs} (quote : c ≠ '"') (backslash : c ≠ '\\') (rest : IsQuoted cs) : IsQuoted (c :: cs)
  | escape {c cs} (rest : IsQuoted cs) : IsQuoted ('\\' :: c :: cs)

/-- A text, and those of its characters that stand outside of string literals. Only literals have
escapes, so no quote outside of them is escaped, and each one starts a literal. The last literal may
be unclosed: it is what any quoted text begins with. -/
inductive Outside : List Char → List Char → Prop
  | nil : Outside [] []
  | char {c cs ds} (plain : c ≠ '"') (rest : Outside cs ds) : Outside (c :: cs) (c :: ds)
  | literal {inside cs ds} (quoted : IsQuoted inside) (rest : Outside cs ds) :
      Outside ('"' :: (inside ++ '"' :: cs)) ds
  | unclosed {inside more} (quoted : IsQuoted (inside ++ more)) : Outside ('"' :: inside) []

/-- Outside of string literals as many braces close as open. -/
def IsBalanced (cs : List Char) : Prop :=
  ∃ ds, Outside cs ds ∧ ds.count '{' = ds.count '}'

/-- The text starts with a brace, and its braces balance at its last character and at no character
before it. -/
structure IsBalancedObject (cs : List Char) : Prop where
  opens : cs.head? = some '{'
  balanced : IsBalanced cs
  first : ∀ front, front <+: cs → front ≠ [] → front ≠ cs → ¬IsBalanced front

variable {cs ds rest x y : List Char} {c : Char} {mode : ScanMode} {depth : Int}

/-- Behind a quote a literal ends at some quote, or it takes the rest of the text. -/
theorem quoted_or_unclosed : ∀ cs : List Char,
    (∃ inside rest, cs = inside ++ '"' :: rest ∧ IsQuoted inside) ∨ ∃ more, IsQuoted (cs ++ more)
  | [] => .inr ⟨[], .nil⟩
  | [c] => by
    by_cases quote : c = '"'
    · exact .inl ⟨[], [], quote ▸ rfl, .nil⟩
    by_cases backslash : c = '\\'
    · exact .inr ⟨[c], backslash ▸ .escape .nil⟩
    · exact .inr ⟨[], .plain quote backslash .nil⟩
  | c :: d :: cs => by
    by_cases quote : c = '"'
    · exact .inl ⟨[], d :: cs, quote ▸ rfl, .nil⟩
    by_cases backslash : c = '\\'
    · rcases quoted_or_unclosed cs with ⟨inside, rest, rfl, quoted⟩ | ⟨more, quoted⟩
      · exact .inl ⟨c :: d :: inside, rest, rfl, backslash ▸ .escape quoted⟩
      · exact .inr ⟨more, backslash ▸ .escape quoted⟩
    · rcases quoted_or_unclosed (d :: cs) with ⟨inside, rest, whole, quoted⟩ | ⟨more, quoted⟩
      · exact .inl ⟨c :: inside, rest, by rw [whole]; rfl, .plain quote backslash quoted⟩
      · exact .inr ⟨more, .plain quote backslash quoted⟩

/-- Every text can be read so. -/
theorem exists_outside (cs : List Char) : ∃ ds, Outside cs ds := by
  induction size : cs.length using Nat.strongRecOn generalizing cs with
  | ind n ih =>
    subst size
    cases cs with
    | nil => exact ⟨[], .nil⟩
    | cons c cs =>
      by_cases quote : c = '"'
      · subst quote
        rcases quoted_or_unclosed cs with ⟨inside, rest, rfl, quoted⟩ | ⟨more, unclosed⟩
        · obtain ⟨ds, outside⟩ := ih rest.length (by simp; omega) rest rfl
          exact ⟨ds, .literal quoted outside⟩
        · exact ⟨[], .unclosed unclosed⟩
      · obtain ⟨ds, outside⟩ := ih cs.length (by simp) cs rfl
        exact ⟨c :: ds, .char quote outside⟩

/-! ### The depth -/

/-- Where the scanner stands behind a character. -/
def ScanMode.next : ScanMode → Char → ScanMode
  | .outside, c => if c = '"' then .inside else .outside
  | .inside, c => if c = '\\' then .escaped else if c = '"' then .outside else .inside
  | .escaped, _ => .inside

/-- What a character adds to the depth. -/
def ScanMode.rise : ScanMode → Char → Int
  | .outside, c => if c = '{' then 1 else if c = '}' then -1 else 0
  | _, _ => 0

theorem rise_opening : ScanMode.outside.rise '{' = 1 := rfl

theorem rise_closing : ScanMode.outside.rise '}' = -1 := rfl

/-- What a text adds to the depth. -/
def net : ScanMode → List Char → Int
  | _, [] => 0
  | mode, c :: cs => mode.rise c + net (mode.next c) cs

/-- A literal adds nothing. -/
theorem net_quoted (quoted : IsQuoted cs) (rest : List Char) :
    net .inside (cs ++ '"' :: rest) = net .outside rest := by
  induction quoted with
  | nil => simp [net, ScanMode.rise, ScanMode.next]
  | plain quote backslash _ ih => simpa [net, ScanMode.rise, ScanMode.next, quote, backslash]
  | escape _ ih => simpa [net, ScanMode.rise, ScanMode.next]

/-- Nor does one that is not closed, wherever the text ends. -/
theorem net_of_prefix (quoted : IsQuoted cs) (front : x <+: cs) : net .inside x = 0 := by
  induction quoted generalizing x with
  | nil =>
    rw [List.prefix_nil.1 front]
    rfl
  | plain quote backslash _ ih =>
    rcases List.prefix_cons_iff.1 front with rfl | ⟨x, rfl, inner⟩
    · rfl
    · simp [net, ScanMode.rise, ScanMode.next, quote, backslash, ih inner]
  | escape _ ih =>
    rcases List.prefix_cons_iff.1 front with rfl | ⟨x, rfl, behind⟩
    · rfl
    rcases List.prefix_cons_iff.1 behind with rfl | ⟨x, rfl, inner⟩
    · rfl
    · simp [net, ScanMode.rise, ScanMode.next, ih inner]

theorem Outside.net_eq (h : Outside cs ds) :
    net .outside cs = (ds.count '{' : Int) - ds.count '}' := by
  induction h with
  | nil => rfl
  | @char c cs ds plain _ ih =>
    rw [net, ScanMode.next, if_neg plain, ih, ScanMode.rise, List.count_cons, List.count_cons]
    by_cases opens : c = '{'
    · simp [opens]
      omega
    by_cases closes : c = '}'
    · simp [closes]
      omega
    · simp [opens, closes]
  | literal quoted _ ih =>
    rw [net, ScanMode.next, if_pos rfl, net_quoted quoted, ih]
    simp [ScanMode.rise]
  | unclosed quoted =>
    rw [net, ScanMode.next, if_pos rfl, net_of_prefix quoted (List.prefix_append _ _)]
    rfl

theorem isBalanced_iff : IsBalanced cs ↔ net .outside cs = 0 := by
  constructor
  · rintro ⟨ds, outside, balanced⟩
    rw [outside.net_eq, balanced]
    omega
  · intro balanced
    obtain ⟨ds, outside⟩ := exists_outside cs
    rw [outside.net_eq] at balanced
    exact ⟨ds, outside, by omega⟩

/-! ### Where the scan ends -/

/-- From this depth on, the text brings the depth to zero at its last character and not before. -/
structure Closes (mode : ScanMode) (depth : Int) (cs : List Char) : Prop where
  zero : depth + net mode cs = 0
  first : ∀ front, front <+: cs → front ≠ cs → depth + net mode front ≠ 0

/-- What begins a text that starts with a character is empty or starts with it too. -/
theorem forall_prefix_cons {P : List Char → Prop} :
    (∀ front, front <+: c :: cs → P front) ↔ P [] ∧ ∀ front, front <+: cs → P (c :: front) := by
  constructor
  · intro all
    refine ⟨all [] List.nil_prefix, fun front inside => ?_⟩
    exact all (c :: front) (List.cons_prefix_cons.2 ⟨rfl, inside⟩)
  · rintro ⟨empty, all⟩ front inside
    rcases List.prefix_cons_iff.1 inside with rfl | ⟨front, rfl, inner⟩
    · exact empty
    · exact all front inner

theorem closes_nil : Closes mode depth [] ↔ depth = 0 := by
  constructor
  · intro closes
    simpa [net] using closes.zero
  · rintro rfl
    exact ⟨rfl, fun front inside other => absurd (List.prefix_nil.1 inside) other⟩

/-- What closes behind a character, closes with it if there was something to close. -/
theorem closes_cons : Closes mode depth (c :: cs) ↔
    depth ≠ 0 ∧ Closes (mode.next c) (depth + mode.rise c) cs := by
  have moved (cs : List Char) :
      depth + net mode (c :: cs) = depth + mode.rise c + net (mode.next c) cs := by
    rw [net]
    omega
  constructor
  · rintro ⟨zero, first⟩
    obtain ⟨opened, inner⟩ := forall_prefix_cons.1 first
    refine ⟨by simpa [net] using opened (by simp), moved cs ▸ zero, fun front inside other => ?_⟩
    rw [← moved]
    exact inner front inside (by simpa using other)
  · rintro ⟨opened, zero, first⟩
    refine ⟨moved cs ▸ zero, forall_prefix_cons.2 ⟨fun _ => by simpa [net] using opened, ?_⟩⟩
    intro front inside other
    rw [moved]
    exact first front inside (by simpa using other)

theorem Closes.eq_nil (closes : Closes mode 0 cs) : cs = [] := by
  cases cs with
  | nil => rfl
  | cons c cs => exact absurd rfl (closes_cons.1 closes).1

/-- Where the depth is zero behind some text, there is a first place where it is. -/
theorem exists_closes (zero : depth + net mode x = 0) : ∃ y, y <+: x ∧ Closes mode depth y := by
  induction x generalizing mode depth with
  | nil => exact ⟨[], List.prefix_rfl, closes_nil.2 (by simpa [net] using zero)⟩
  | cons c x ih =>
    by_cases closed : depth = 0
    · exact ⟨[], List.nil_prefix, closes_nil.2 closed⟩
    · have behind : depth + mode.rise c + net (mode.next c) x = 0 := by
        rw [net] at zero
        omega
      obtain ⟨y, front, closes⟩ := ih behind
      exact ⟨c :: y, List.cons_prefix_cons.2 ⟨rfl, front⟩, closes_cons.2 ⟨closed, closes⟩⟩

/-- One step of the scan at a depth of at least one. -/
theorem balanced?_cons (mode : ScanMode) (depth : Nat) (c : Char) (rest : List Char) :
    ∃ behind : Nat, (behind : Int) = (depth + 1 : Nat) + mode.rise c ∧
      balanced? mode (depth + 1) (c :: rest) =
        if behind = 0 then some [c] else (balanced? (mode.next c) behind rest).map (c :: ·) := by
  cases mode with
  | escaped => exact ⟨depth + 1, by simp [ScanMode.rise], by simp [balanced?, ScanMode.next]⟩
  | inside => exact ⟨depth + 1, by simp [ScanMode.rise], by simp [balanced?, ScanMode.next]⟩
  | outside =>
    by_cases quote : c = '"'
    · subst quote
      exact ⟨depth + 1, by simp [ScanMode.rise], by rw [balanced?_quote]; rfl⟩
    by_cases opens : c = '{'
    · subst opens
      exact ⟨depth + 2, by rw [rise_opening]; omega, by rw [balanced?_opening]; rfl⟩
    by_cases closes : c = '}'
    · subst closes
      refine ⟨depth, by rw [rise_closing]; omega, ?_⟩
      cases depth with
      | zero => rw [balanced?_last, if_pos rfl]
      | succ depth => rw [balanced?_closing, if_neg (by simp)]; rfl
    · have neutral : isNeutral c = true := by simp [isNeutral, quote, opens, closes]
      refine ⟨depth + 1, by simp [ScanMode.rise, opens, closes], ?_⟩
      rw [balanced?_neutral neutral, if_neg (by simp), ScanMode.next, if_neg quote]

/-- The scan returns a text that closes. -/
theorem closes_of_balanced? {depth : Nat} (found : balanced? mode (depth + 1) cs = some x) :
    x <+: cs ∧ Closes mode (depth + 1 : Nat) x := by
  induction cs generalizing mode depth x with
  | nil => cases mode <;> cases found
  | cons c cs ih =>
    obtain ⟨behind, rise, step⟩ := balanced?_cons mode depth c cs
    rw [step] at found
    split at found
    · next closed =>
      cases found
      refine ⟨List.cons_prefix_cons.2 ⟨rfl, List.nil_prefix⟩, closes_cons.2 ⟨by omega, ?_⟩⟩
      exact closes_nil.2 (by omega)
    · next deeper =>
      obtain ⟨behind, rfl⟩ := Nat.exists_eq_succ_of_ne_zero deeper
      obtain ⟨x, inner, rfl⟩ := Option.map_eq_some_iff.1 found
      obtain ⟨front, closes⟩ := ih inner
      exact ⟨List.cons_prefix_cons.2 ⟨rfl, front⟩, closes_cons.2 ⟨by omega, rise ▸ closes⟩⟩

/-- A text that closes is returned. -/
theorem Closes.balanced?_append {depth : Nat} (closes : Closes mode (depth + 1 : Nat) x)
    (rest : List Char) : balanced? mode (depth + 1) (x ++ rest) = some x := by
  induction x generalizing mode depth with
  | nil => exact absurd (closes_nil.1 closes) (by omega)
  | cons c x ih =>
    obtain ⟨behind, rise, step⟩ := balanced?_cons mode depth c (x ++ rest)
    have closes := (closes_cons.1 closes).2
    rw [← rise] at closes
    rw [List.cons_append, step]
    cases behind with
    | zero => rw [if_pos rfl, closes.eq_nil]
    | succ behind => rw [if_neg (by simp), ih closes]; rfl

theorem balanced?_eq_some_iff {depth : Nat} : balanced? mode (depth + 1) cs = some x ↔
    x <+: cs ∧ Closes mode (depth + 1 : Nat) x := by
  refine ⟨closes_of_balanced?, ?_⟩
  rintro ⟨⟨rest, rfl⟩, closes⟩
  exact closes.balanced?_append rest

theorem balanced?_eq_none_iff {depth : Nat} : balanced? mode (depth + 1) cs = none ↔
    ∀ x, x <+: cs → ((depth + 1 : Nat) : Int) + net mode x ≠ 0 := by
  constructor
  · intro none x front zero
    obtain ⟨y, inside, closes⟩ := exists_closes zero
    rw [balanced?_eq_some_iff.2 ⟨inside.trans front, closes⟩] at none
    cases none
  · intro never
    refine Option.eq_none_iff_forall_ne_some.2 fun x found => ?_
    obtain ⟨front, closes⟩ := closes_of_balanced? found
    exact never x front closes.zero

/-! ### From the first brace on -/

theorem isBalanced_cons : IsBalanced ('{' :: cs) ↔ 1 + net .outside cs = 0 :=
  isBalanced_iff

theorem isBalancedObject_iff : IsBalancedObject cs ↔
    ∃ inside, cs = '{' :: inside ∧ Closes .outside 1 inside := by
  constructor
  · rintro ⟨opens, balanced, first⟩
    obtain ⟨inside, rfl⟩ := List.head?_eq_some_iff.1 opens
    obtain ⟨-, inner⟩ := forall_prefix_cons.1 first
    refine ⟨inside, rfl, isBalanced_cons.1 balanced, fun front begins other zero => ?_⟩
    exact inner front begins (by simp) (by simpa using other) (isBalanced_cons.2 zero)
  · rintro ⟨inside, rfl, zero, first⟩
    refine ⟨rfl, isBalanced_cons.2 zero,
      forall_prefix_cons.2 ⟨fun nonempty => absurd rfl nonempty, ?_⟩⟩
    intro front begins _ other balanced
    exact first front begins (by simpa using other) (isBalanced_cons.1 balanced)

/-- The scan behind the first brace finds nothing exactly if the braces never balance. -/
theorem never_balanced_iff : (∀ part, part <+: '{' :: rest → part ≠ [] → ¬IsBalanced part) ↔
    balanced? .outside 1 rest = none := by
  rw [balanced?_eq_none_iff, forall_prefix_cons]
  constructor
  · rintro ⟨-, never⟩ part begins zero
    exact never part begins (by simp) (isBalanced_cons.2 zero)
  · intro never
    refine ⟨fun nonempty => absurd rfl nonempty, fun part begins _ balanced => ?_⟩
    exact never part begins (isBalanced_cons.1 balanced)

theorem extractChars?_of_not_mem (noBrace : '{' ∉ cs) : extractChars? cs = none := by
  rw [extractChars?, Text.dropWhile_ne_eq_nil.2 noBrace, balanced?]

theorem extractChars?_eq_some_iff : extractChars? cs = some x ↔
    ∃ front behind, cs = front ++ x ++ behind ∧ '{' ∉ front ∧ IsBalancedObject x := by
  constructor
  · intro found
    by_cases brace : '{' ∈ cs
    · obtain ⟨front, rest, rfl, noBrace⟩ := List.eq_append_cons_of_mem brace
      rw [extractChars?_append noBrace, balanced?_opening] at found
      obtain ⟨inside, closed, rfl⟩ := Option.map_eq_some_iff.1 found
      obtain ⟨⟨behind, rfl⟩, closes⟩ := balanced?_eq_some_iff.1 closed
      exact ⟨front, behind, by simp, noBrace, isBalancedObject_iff.2 ⟨inside, rfl, closes⟩⟩
    · rw [extractChars?_of_not_mem brace] at found
      cases found
  · rintro ⟨front, behind, rfl, noBrace, object⟩
    obtain ⟨inside, rfl, closes⟩ := isBalancedObject_iff.1 object
    rw [List.append_assoc, List.cons_append, extractChars?_append noBrace, balanced?_opening,
      closes.balanced?_append]
    rfl

theorem extractChars?_eq_none_iff : extractChars? cs = none ↔ '{' ∉ cs ∨
    ∃ front rest, cs = front ++ '{' :: rest ∧ '{' ∉ front ∧
      ∀ part, part <+: '{' :: rest → part ≠ [] → ¬IsBalanced part := by
  constructor
  · intro none
    by_cases brace : '{' ∈ cs
    · obtain ⟨front, rest, rfl, noBrace⟩ := List.eq_append_cons_of_mem brace
      rw [extractChars?_append noBrace, balanced?_opening, Option.map_eq_none_iff] at none
      exact .inr ⟨front, rest, rfl, noBrace, never_balanced_iff.2 none⟩
    · exact .inl brace
  · rintro (noBrace | ⟨front, rest, rfl, noBrace, never⟩)
    · exact extractChars?_of_not_mem noBrace
    · rw [extractChars?_append noBrace, balanced?_opening, never_balanced_iff.1 never]
      rfl

theorem extractObject?_eq_some_iff {text object : String} : extractObject? text = some object ↔
    ∃ front behind, text = front ++ object ++ behind ∧ '{' ∉ front.toList ∧
      IsBalancedObject object.toList := by
  rw [extractObject?, Option.map_eq_some_iff]
  constructor
  · rintro ⟨x, found, rfl⟩
    obtain ⟨front, behind, whole, noBrace, balanced⟩ := extractChars?_eq_some_iff.1 found
    refine ⟨String.ofList front, String.ofList behind, ?_, by simpa using noBrace, by simpa⟩
    apply String.toList_injective
    simp [whole]
  · rintro ⟨front, behind, rfl, noBrace, balanced⟩
    refine ⟨object.toList, extractChars?_eq_some_iff.2 ?_, String.ofList_toList⟩
    exact ⟨front.toList, behind.toList, by simp, noBrace, balanced⟩

/-- What is extracted is the whole of its own first object. -/
theorem extractObject?_of_extractObject? {text object : String}
    (found : extractObject? text = some object) : extractObject? object = some object := by
  obtain ⟨front, behind, -, -, balanced⟩ := extractObject?_eq_some_iff.1 found
  exact extractObject?_eq_some_iff.2 ⟨"", "", by simp, by simp, balanced⟩

/-! ### The end of the scan in bytes -/

/-- How a scan ends. -/
inductive ScanEnd where
  /-- Behind the brace that brings the depth back to zero, so many bytes from the start. -/
  | closed (bytes : Nat)
  /-- At a closing brace at depth zero. -/
  | underflow
  /-- At the end of the text. -/
  | unclosed
  deriving DecidableEq, Repr

/-- The scan of `balanced?` with its ways to end apart; `bytes` have been passed. -/
def scan : ScanMode → Nat → Nat → List Char → ScanEnd
  | _, _, _, [] => .unclosed
  | mode, depth, bytes, c :: rest =>
    if mode = .outside ∧ c = '}' then
      match depth with
      | 0 => .underflow
      | 1 => .closed (bytes + c.utf8Size)
      | depth + 2 => scan .outside (depth + 1) (bytes + c.utf8Size) rest
    else
      let deeper := if mode = .outside ∧ c = '{' then depth + 1 else depth
      scan (mode.next c) deeper (bytes + c.utf8Size) rest

/-- The text from its first opening brace on. -/
def fromBrace (text : String) : String :=
  String.ofList (text.toList.dropWhile (· != '{'))

/-- How the scan from the first opening brace ends. -/
def scanEnd (text : String) : ScanEnd :=
  scan .outside 0 0 (fromBrace text).toList

/-- One step of the scan at a depth of at least one: it is the step of `balanced?_cons`. -/
theorem scan_cons (mode : ScanMode) (depth bytes : Nat) (c : Char) (rest : List Char) :
    ∃ behind : Nat, (behind : Int) = (depth + 1 : Nat) + mode.rise c ∧
      scan mode (depth + 1) bytes (c :: rest) =
        if behind = 0 then .closed (bytes + c.utf8Size)
        else scan (mode.next c) behind (bytes + c.utf8Size) rest := by
  rw [scan.eq_def]
  by_cases closes : mode = .outside ∧ c = '}'
  · obtain ⟨rfl, rfl⟩ := closes
    refine ⟨depth, by rw [rise_closing]; omega, ?_⟩
    cases depth with
    | zero => rfl
    | succ depth => rfl
  by_cases opens : mode = .outside ∧ c = '{'
  · obtain ⟨rfl, rfl⟩ := opens
    exact ⟨depth + 2, by rw [rise_opening]; omega, rfl⟩
  · refine ⟨depth + 1, ?_, by simp [closes, opens]⟩
    cases mode with
    | outside => simp_all [ScanMode.rise]
    | inside => simp [ScanMode.rise]
    | escaped => simp [ScanMode.rise]

/-- At a depth of at least one the two scans find the same, and there is no underflow. -/
theorem scan_eq (mode : ScanMode) (depth bytes : Nat) (cs : List Char) :
    scan mode (depth + 1) bytes cs =
      (balanced? mode (depth + 1) cs).elim .unclosed fun x =>
        .closed (bytes + (String.ofList x).utf8ByteSize) := by
  induction cs generalizing mode depth bytes with
  | nil => cases mode <;> rfl
  | cons c cs ih =>
    obtain ⟨behind, rise, step⟩ := balanced?_cons mode depth c cs
    obtain ⟨behind', rise', step'⟩ := scan_cons mode depth bytes c cs
    -- both steps go on at the depth that the character makes of the present one
    obtain rfl : behind = behind' := by omega
    rw [step, step']
    cases behind with
    | zero => simp
    | succ behind =>
      rw [if_neg (by simp), if_neg (by simp), ih]
      cases balanced? (mode.next c) (behind + 1) cs with
      | none => rfl
      | some x => simp [Nat.add_assoc]

/-- Either nothing is found and the scan runs to the end of the text, or it ends where the object
that is found ends. -/
theorem scanEnd_cases (text : String) :
    (scanEnd text = .unclosed ∧ extractObject? text = none) ∨
      ∃ object rest, fromBrace text = object ++ rest ∧
        scanEnd text = .closed object.utf8ByteSize ∧ extractObject? text = some object := by
  by_cases brace : '{' ∈ text.toList
  · obtain ⟨front, rest, whole, noBrace⟩ := List.eq_append_cons_of_mem brace
    have candidate : fromBrace text = String.ofList ('{' :: rest) := by
      rw [fromBrace, whole, Text.dropWhile_ne_append noBrace]
    have ends : scanEnd text = scan .outside 1 1 rest := by
      rw [scanEnd, candidate, String.toList_ofList]
      rfl
    rw [ends, candidate, extractObject?, whole, extractChars?_append noBrace, balanced?_opening,
      scan_eq]
    cases found : balanced? .outside 1 rest with
    | none => exact .inl ⟨rfl, rfl⟩
    | some inside =>
      obtain ⟨⟨behind, rfl⟩, -⟩ := balanced?_eq_some_iff.1 found
      refine .inr ⟨String.ofList ('{' :: inside), String.ofList behind, ?_, ?_, rfl⟩
      · rw [← String.ofList_append, List.cons_append]
      · simp
        rfl
  · refine .inl ⟨?_, ?_⟩
    · rw [scanEnd, fromBrace, Text.dropWhile_ne_eq_nil.2 brace]
      rfl
    · rw [extractObject?, extractChars?_of_not_mem brace, Option.map_none]

/-- The object that is extracted is the text from the first opening brace to where the braces
outside of string literals first balance; nothing is extracted if there is no brace or they never
balance. The depth does not fall below zero, the scan ends at the border of a character, and the
object is the one that is extracted from itself. -/
theorem extractObject?_exact (text : String) :
    (∀ object, extractObject? text = some object ↔
      ∃ front behind, text = front ++ object ++ behind ∧ '{' ∉ front.toList ∧
        IsBalancedObject object.toList) ∧
    (extractObject? text = none ↔ '{' ∉ text.toList ∨
      ∃ front rest, text.toList = front ++ '{' :: rest ∧ '{' ∉ front ∧
        ∀ part, part <+: '{' :: rest → part ≠ [] → ¬IsBalanced part) ∧
    scanEnd text ≠ .underflow ∧
    (scanEnd text = .unclosed ↔ extractObject? text = none) ∧
    (∀ bytes, scanEnd text = .closed bytes → ∃ stop : (fromBrace text).Pos,
      stop.offset.byteIdx = bytes ∧
        extractObject? text = some ((fromBrace text).sliceTo stop).copy) ∧
    (extractObject? text).bind extractObject? = extractObject? text := by
  refine ⟨fun object => extractObject?_eq_some_iff, ?_, ?_⟩
  · rw [extractObject?, Option.map_eq_none_iff, extractChars?_eq_none_iff]
  rcases scanEnd_cases text with ⟨ends, none⟩ | ⟨object, rest, candidate, ends, found⟩
  · simp [ends, none]
  · refine ⟨by simp [ends], by simp [ends, found], fun bytes closed => ?_, ?_⟩
    · have splits := String.Pos.splits_ofEqAppend candidate
      refine ⟨String.Pos.ofEqAppend candidate, ?_, ?_⟩
      · rw [splits.offset_eq_rawEndPos]
        simpa [ends] using closed
      · rw [splits.copy_sliceTo_eq, found]
    · rw [found, Option.bind_some, extractObject?_of_extractObject? found]

/-- The closing brace in front is skipped, the one in the literal does not count, and the letter
takes two bytes. -/
example : scanEnd "\x7d \x7b\"ü\x7d\"\x7d \x7b" = .closed 7 := by decide +kernel

end PromptBroker.Json
