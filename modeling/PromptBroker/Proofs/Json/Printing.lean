import PromptBroker.Proofs.Json.Recovery
import PromptBroker.Proofs.Json.Tokens

/-!
# Printed values that are read back

A value that a reader has built is read back from its text, whatever stands behind the text, if
its floats are (`readsBack_of_built`). The induction is on how the value was built, so that at
each container the depth that is left is the one that its items were built within; the steps that
are needed never exceed the characters of the text.

So an object that was recovered once is recovered from its own text (`recover_render`).
-/

namespace PromptBroker

/-- Entries that are in key order already stay as they are. -/
theorem Keyed.ofList_eq_self {α : Type} {entries : Keyed α} (h : Ascending entries) :
    ofList entries = entries := by
  have last (acc : Keyed α) {e : String × α} (behind : ∀ d ∈ acc, Text.isBefore d.1 e.1) :
      acc.insert e.1 e.2 = acc ++ [e] := by
    induction acc with
    | nil => rfl
    | cons d acc ih =>
      obtain ⟨first, others⟩ := List.forall_mem_cons.1 behind
      have later : ¬Text.isBefore e.1 d.1 = true := fun h => by
        have loop := Text.precedes_trans first h
        rw [Text.precedes_irrefl] at loop
        cases loop
      have other : e.1 ≠ d.1 := fun same => later (same ▸ first)
      rw [insert, if_neg later, if_neg other, ih others, List.cons_append]
  suffices each : ∀ acc : Keyed α, Ascending (acc ++ entries) →
      entries.foldl (fun acc e => acc.insert e.1 e.2) acc = acc ++ entries from each [] h
  clear h
  induction entries with
  | nil => exact fun acc _ => (List.append_nil acc).symm
  | cons e entries ih =>
    intro acc h
    have behind : ∀ d ∈ acc, Text.isBefore d.1 e.1 := fun d hd =>
      (List.pairwise_append.1 h).2.2 d hd e List.mem_cons_self
    rw [List.foldl_cons, last acc behind, ih _ (by rwa [List.append_assoc]), List.append_assoc]
    rfl

namespace Json

/-- The number is read back as it is printed. -/
def Number.Rereads (n : Number) : Prop := readNumber n.chars = .ok (n, [])

instance (n : Number) : Decidable n.Rereads := inferInstanceAs (Decidable (_ = _))

mutual

/-- The floats of a value, from front to back. -/
def floats : Json → List Number
  | .number (.real x finite) => [.real x finite]
  | .array items => itemsFloats items
  | .object members => membersFloats members
  | _ => []

/-- The floats of the items of an array. -/
def itemsFloats : List Json → List Number
  | [] => []
  | v :: rest => floats v ++ itemsFloats rest

/-- The floats of the members of an object. -/
def membersFloats : List (String × Json) → List Number
  | [] => []
  | (_, v) :: rest => floats v ++ membersFloats rest

end

theorem floats_subset_itemsFloats {v : Json} {items : List Json} (h : v ∈ items) :
    v.floats ⊆ itemsFloats items := by
  induction items with
  | nil => cases h
  | cons u items ih =>
    intro n hn
    rw [itemsFloats, List.mem_append]
    rcases List.mem_cons.1 h with rfl | h
    · exact .inl hn
    · exact .inr (ih h hn)

theorem floats_subset_membersFloats {e : String × Json} {members : List (String × Json)}
    (h : e ∈ members) : e.2.floats ⊆ membersFloats members := by
  induction members with
  | nil => cases h
  | cons d members ih =>
    obtain ⟨key, v⟩ := d
    intro n hn
    rw [membersFloats, List.mem_append]
    rcases List.mem_cons.1 h with rfl | h
    · exact .inl hn
    · exact .inr (ih h hn)

/-! ### Parts of a text -/

/-- A value is read back from its text, with as many steps as the text has characters. -/
structure ReadsBack (depth : Nat) (v : Json) : Prop where
  first : ∃ c cs, v.chars = c :: cs ∧ isGap c = false ∧ c ≠ ']'
  read {steps rest} : v.chars.length ≤ steps → EndsNumber rest →
    readValue steps depth (v.chars ++ rest) = .ok (v, rest)

variable {depth steps : Nat} {cs left rest : List Char}

theorem skipGap_cons {c : Char} (h : isGap c = false) : skipGap (c :: cs) = c :: cs :=
  List.dropWhile_cons_of_neg (by simp [h])

/-- A number begins with its sign or a digit. -/
theorem exists_of_readNumber {n : Number} (read : readNumber cs = .ok (n, left)) :
    ∃ c tail, cs = c :: tail ∧ (c = '-' ∨ c.isDigit = true) := by
  cases cs with
  | nil => cases read
  | cons c tail =>
    refine ⟨c, tail, rfl, ?_⟩
    by_cases sign : c = '-'
    · exact .inl sign
    have unsigned : readNumber (c :: tail) = readUnsigned false (c :: tail) := by
      unfold readNumber
      split
      · next same => cases same; exact absurd rfl sign
      · rfl
    rw [unsigned] at read
    by_cases zero : c = '0'
    · exact .inr (by rw [zero]; decide)
    rw [readUnsigned_of_ne_zero zero] at read
    split at read
    · next digit => exact .inr digit
    · cases read

theorem isGap_of_number {c : Char} (h : c = '-' ∨ c.isDigit = true) : isGap c = false := by
  rcases h with rfl | digit
  · rfl
  · cases gap : isGap c with
    | false => rfl
    | true =>
      have blank : IsGapText [c] := List.forall_mem_singleton.2 gap
      have other : ∀ d ∈ [c], (!d.isDigit) = true := blank.forall_of_all (by decide)
      rw [List.forall_mem_singleton, digit] at other
      cases other

theorem readValue_number {c : Char} (h : c = '-' ∨ c.isDigit = true) :
    readValue (steps + 1) depth (c :: cs) =
      (readNumber (c :: cs)).map fun (n, rest) => (.number n, rest) := by
  unfold readValue
  rw [skipGap_cons (isGap_of_number h)]
  split
  case h_8 same => cases same; exact if_pos h
  all_goals
    next same =>
      cases same <;> exact absurd h (by decide)

/-- At least one step is left where characters are. -/
theorem exists_eq_succ {v : Json} {c : Char} (text : v.chars = c :: cs)
    (enough : v.chars.length ≤ steps) : ∃ k, steps = k + 1 ∧ cs.length ≤ k := by
  rw [text, List.length_cons] at enough
  exact ⟨steps - 1, by omega, by omega⟩

theorem readsBack_number {n : Number} (rereads : n.Rereads) : ReadsBack depth (.number n) := by
  obtain ⟨c, tail, written, digit⟩ := exists_of_readNumber rereads
  have text : (Json.number n).chars = c :: tail := written
  refine ⟨⟨c, tail, text, isGap_of_number digit, ?_⟩, fun {steps rest} enough ends => ?_⟩
  · rintro rfl
    exact absurd digit (by decide)
  · obtain ⟨k, rfl, -⟩ := exists_eq_succ text enough
    have read : readNumber (n.chars ++ rest) = .ok (n, rest) := readNumber_append ends rereads
    rw [text, List.cons_append, readValue_number digit, ← List.cons_append, ← written, read]
    rfl

theorem readValue_string : readValue (steps + 1) depth ('"' :: cs) =
    (readString cs).map fun (s, rest) => (.string s, rest) := rfl

/-- One step reads the whole text of a value that is no container. -/
theorem ReadsBack.of_step {v : Json} {c : Char} (text : v.chars = c :: cs)
    (noGap : isGap c = false) (noBracket : c ≠ ']')
    (read : ∀ steps rest, readValue (steps + 1) depth (c :: cs ++ rest) = .ok (v, rest)) :
    ReadsBack depth v := by
  refine ⟨⟨c, cs, text, noGap, noBracket⟩, fun {steps rest} enough _ => ?_⟩
  obtain ⟨k, rfl, -⟩ := exists_eq_succ text enough
  rw [text, read]

theorem readsBack_string (s : String) : ReadsBack depth (.string s) := by
  refine .of_step (c := '"') rfl rfl (by decide) fun steps rest => ?_
  rw [List.cons_append, readValue_string, List.append_assoc]
  exact congrArg (Except.map _) (readString_quote s rest)

theorem readsBack_null : ReadsBack depth .null := .of_step rfl rfl (by decide) fun _ _ => rfl

theorem readsBack_bool (b : Bool) : ReadsBack depth (.bool b) := by
  cases b with
  | false => exact .of_step rfl rfl (by decide) fun _ _ => rfl
  | true => exact .of_step rfl rfl (by decide) fun _ _ => rfl

/-! ### Items -/

theorem readItems_last {v : Json} (read : readValue steps depth cs = .ok (v, ']' :: rest)) :
    readItems (steps + 1) depth cs = .ok ([v], rest) := by
  rw [readItems, read]
  rfl

theorem readItems_more {v : Json} {vs : List Json}
    (read : readValue steps depth cs = .ok (v, ',' :: left))
    (more : readItems steps depth left = .ok (vs, rest)) :
    readItems (steps + 1) depth cs = .ok (v :: vs, rest) := by
  rw [readItems, read]
  change (readItems steps depth left).map _ = _
  rw [more]
  rfl

/-- The items of an array are read back up to the bracket behind them. -/
theorem readItems_itemsChars {v : Json} {vs : List Json}
    (each : ∀ u ∈ v :: vs, ReadsBack depth u) (enough : (itemsChars (v :: vs)).length < steps) :
    readItems steps depth (itemsChars (v :: vs) ++ ']' :: rest) = .ok (v :: vs, rest) := by
  induction vs generalizing v steps with
  | nil =>
    obtain ⟨k, rfl⟩ := Nat.exists_eq_succ_of_ne_zero (Nat.ne_of_gt (Nat.zero_lt_of_lt enough))
    have text : itemsChars [v] = v.chars := by simp [itemsChars, moreItems]
    rw [text] at enough ⊢
    exact readItems_last ((each v List.mem_cons_self).read (Nat.le_of_lt_succ enough)
      (endsNumber_cons (by decide)))
  | cons w ws ih =>
    obtain ⟨k, rfl⟩ := Nat.exists_eq_succ_of_ne_zero (Nat.ne_of_gt (Nat.zero_lt_of_lt enough))
    obtain ⟨first, others⟩ := List.forall_mem_cons.1 each
    have text : itemsChars (v :: w :: ws) = v.chars ++ ',' :: itemsChars (w :: ws) := rfl
    rw [text, List.length_append, List.length_cons] at enough
    rw [text, List.append_assoc, List.cons_append]
    exact readItems_more (first.read (by omega) (endsNumber_cons (by decide)))
      (ih others (by omega))

theorem readValue_array {c : Char} {vs : List Json} (noGap : isGap c = false) (noBracket : c ≠ ']')
    (read : readItems steps depth (c :: cs) = .ok (vs, rest)) :
    readValue (steps + 1) (depth + 1) ('[' :: c :: cs) = .ok (.array vs, rest) := by
  have opens : skipGap ('[' :: c :: cs) = '[' :: c :: cs := rfl
  rw [readValue, opens]
  simp only [skipGap_cons noGap]
  split
  · next same => cases same; exact absurd rfl noBracket
  · rw [read]
    rfl

theorem readsBack_array {items : List Json} (each : ∀ v ∈ items, ReadsBack depth v) :
    ReadsBack (depth + 1) (.array items) := by
  refine ⟨⟨'[', _, rfl, rfl, by decide⟩, fun {steps rest} enough ends => ?_⟩
  obtain ⟨k, rfl, room⟩ := exists_eq_succ rfl enough
  have text : (Json.array items).chars ++ rest = '[' :: (itemsChars items ++ ']' :: rest) := by
    simp [chars]
  rw [text]
  cases items with
  | nil => rfl
  | cons v vs =>
    obtain ⟨c, cs, front, noGap, noBracket⟩ := (each v List.mem_cons_self).first
    have begins : itemsChars (v :: vs) ++ ']' :: rest =
        c :: (cs ++ (moreItems vs ++ ']' :: rest)) := by
      rw [itemsChars, front, List.append_assoc, List.cons_append]
    have inner : (itemsChars (v :: vs)).length < k := by
      rw [List.length_append] at room
      exact room
    have read : readItems k depth (itemsChars (v :: vs) ++ ']' :: rest) = .ok (v :: vs, rest) :=
      readItems_itemsChars each inner
    rw [begins] at read ⊢
    exact readValue_array noGap noBracket read

/-! ### Members -/

theorem readMembers_last {key : String} {v : Json}
    (named : readString cs = .ok (key, ':' :: left))
    (read : readValue steps depth left = .ok (v, '}' :: rest)) :
    readMembers (steps + 1) depth ('"' :: cs) = .ok ([(key, v)], rest) := by
  have noGap : skipGap ('"' :: cs) = '"' :: cs := rfl
  rw [readMembers, noGap]
  simp only [named]
  have noGap' : skipGap (':' :: left) = ':' :: left := rfl
  simp only [noGap', read]
  rfl

theorem readMembers_more {key : String} {v : Json} {behind : List Char}
    {ms : List (String × Json)} (named : readString cs = .ok (key, ':' :: left))
    (read : readValue steps depth left = .ok (v, ',' :: behind))
    (more : readMembers steps depth behind = .ok (ms, rest)) :
    readMembers (steps + 1) depth ('"' :: cs) = .ok ((key, v) :: ms, rest) := by
  have noGap : skipGap ('"' :: cs) = '"' :: cs := rfl
  have noGap' : skipGap (':' :: left) = ':' :: left := rfl
  have noGap'' : skipGap (',' :: behind) = ',' :: behind := rfl
  rw [readMembers, noGap]
  simp only [named, noGap', read, noGap'', more]
  rfl

/-- The members of an object are read back up to the brace behind them. -/
theorem readMembers_membersChars {e : String × Json} {es : List (String × Json)}
    (each : ∀ d ∈ e :: es, ReadsBack depth d.2)
    (enough : (membersChars (e :: es)).length < steps) :
    readMembers steps depth (membersChars (e :: es) ++ '}' :: rest) = .ok (e :: es, rest) := by
  induction es generalizing e steps with
  | nil =>
    obtain ⟨key, v⟩ := e
    obtain ⟨k, rfl⟩ := Nat.exists_eq_succ_of_ne_zero (Nat.ne_of_gt (Nat.zero_lt_of_lt enough))
    have text : membersChars [(key, v)] = quote key ++ ':' :: v.chars := by
      simp [membersChars, moreMembers]
    rw [text, List.length_append, List.length_cons] at enough
    have room : v.chars.length ≤ k := by omega
    have whole : membersChars [(key, v)] ++ '}' :: rest =
        '"' :: (key.toList.flatMap escape ++ '"' :: (':' :: (v.chars ++ '}' :: rest))) := by
      simp [text, quote]
    rw [whole]
    exact readMembers_last (readString_quote key _)
      ((each _ List.mem_cons_self).read room (endsNumber_cons (by decide)))
  | cons d ds ih =>
    obtain ⟨key, v⟩ := e
    obtain ⟨k, rfl⟩ := Nat.exists_eq_succ_of_ne_zero (Nat.ne_of_gt (Nat.zero_lt_of_lt enough))
    obtain ⟨first, others⟩ := List.forall_mem_cons.1 each
    have text : membersChars ((key, v) :: d :: ds) =
        quote key ++ ':' :: (v.chars ++ ',' :: membersChars (d :: ds)) := rfl
    rw [text, List.length_append, List.length_cons, List.length_append, List.length_cons] at enough
    have room : v.chars.length ≤ k := by omega
    have whole : membersChars ((key, v) :: d :: ds) ++ '}' :: rest =
        '"' :: (key.toList.flatMap escape ++ '"' ::
          (':' :: (v.chars ++ ',' :: (membersChars (d :: ds) ++ '}' :: rest)))) := by
      simp [text, quote]
    rw [whole]
    exact readMembers_more (readString_quote key _)
      (first.read room (endsNumber_cons (by decide))) (ih others (by omega))

theorem readsBack_object {members : List (String × Json)} (order : Keyed.Ascending members)
    (each : ∀ e ∈ members, ReadsBack depth e.2) : ReadsBack (depth + 1) (.object members) := by
  refine ⟨⟨'{', _, rfl, rfl, by decide⟩, fun {steps rest} enough ends => ?_⟩
  obtain ⟨k, rfl, room⟩ := exists_eq_succ rfl enough
  have text : (Json.object members).chars ++ rest =
      '{' :: (membersChars members ++ '}' :: rest) := by
    simp [chars]
  rw [text]
  cases members with
  | nil => rfl
  | cons e es =>
    have inner : (membersChars (e :: es)).length < k := by
      rw [List.length_append] at room
      exact room
    have read : readMembers k depth (membersChars (e :: es) ++ '}' :: rest) =
        .ok (e :: es, rest) := readMembers_membersChars each inner
    have begins : ∃ cs, membersChars (e :: es) ++ '}' :: rest = '"' :: cs := ⟨_, rfl⟩
    obtain ⟨cs, begins⟩ := begins
    rw [begins] at read ⊢
    change (readMembers k depth ('"' :: cs)).map _ = _
    rw [read]
    simp [Except.map, ofMembers, Keyed.ofList_eq_self order]

/-- What a reader has built is read back if its floats are. -/
theorem readsBack_of_built {v : Json} (built : Built depth v)
    (floats : ∀ n ∈ v.floats, n.Rereads) : ReadsBack depth v := by
  induction built with
  | null => exact readsBack_null
  | bool => exact readsBack_bool _
  | @number depth n =>
    cases n with
    | whole w => exact readsBack_number (readNumber_whole w)
    | real x finite => exact readsBack_number (floats _ List.mem_cons_self)
  | string => exact readsBack_string _
  | array inside ih =>
    exact readsBack_array fun v hv =>
      ih v hv fun n hn => floats n (floats_subset_itemsFloats hv hn)
  | object order inside ih =>
    exact readsBack_object order fun e he =>
      ih e he fun n hn => floats n (floats_subset_membersFloats he hn)

/-! ### Whole texts -/

/-- An object begins and ends with its braces. -/
theorem trimChars_chars {v : Json} (object : v.isObject = true) :
    Text.trimChars v.chars = v.chars := by
  cases v with
  | object members =>
    have text : (Json.object members).chars = ('{' :: membersChars members) ++ ['}'] := rfl
    refine Text.trimChars_of_edges rfl ?_
    rw [text, List.getLast?_concat]
    rfl
  | _ => cases object

/-- An object that was recovered once is recovered from its own text. -/
theorem recover_render {v : Json} (object : v.isObject = true) (built : Built maxDepth v)
    (floats : ∀ n ∈ v.floats, n.Rereads) : recover v.render = .ok v := by
  have back : readValue (stepsFor v.chars) maxDepth (v.chars ++ []) = .ok (v, []) :=
    (readsBack_of_built built floats).read (by unfold stepsFor; omega) endsNumber_nil
  rw [List.append_nil] at back
  have whole : readObject? v.chars = some v := by
    rw [readObject?, trimChars_chars object, readWithin, back]
    exact if_pos object
  rw [recover, render, String.toList_ofList, recoverChars?, whole]
  rfl

end Json

end PromptBroker
