import PromptBroker.Proofs.Json.Recovery
import PromptBroker.Purpose.Prompt
import PromptBroker.Purpose.Sanitize

/-!
# The contract of an agent's answer

Whatever a model says, the caller gets an object of one shape. `Contract` says which
object, in terms of the options of the request and of the model's output and of
nothing else: the elements are those of the model that the request offers, the chat
is an introduction and a closing remark, and what the model says besides is left
alone. There is always exactly one such object, and it is the one that the output is
formatted to (`contract_iff`).

A strategy keeps the ids of a request from one step to the next. It may have served
any requests before: as soon as it has accepted the options of the next one, it
formats by the contract for these (`Strategy.exists_contract`).
-/

namespace PromptBroker.Agent

variable {o : Options} {e v : Json} {id output : String}

/-! ### Elements that a request offers -/

/-- The element has this id: text that is not empty, or a number as its text. -/
inductive HasId (e : Json) : String → Prop
  | text {s} (id : e.get? "id" = some (.string s)) (nonempty : s ≠ "") : HasId e s
  | number {n} (id : e.get? "id" = some (.number n)) : HasId e (String.ofList n.chars)

/-- One of the elements of the request has this id. -/
def Offers (o : Options) (id : String) : Prop :=
  ∃ elements, o.items? "formelements" = some elements ∧ ∃ e ∈ elements, HasId e id

/-- The element has an id that the request offers. -/
def Fits (o : Options) (e : Json) : Prop := ∃ id, HasId e id ∧ Offers o id

theorem elementId?_eq_some : elementId? e = some id ↔ HasId e id := by
  unfold elementId?
  constructor
  · intro h
    split at h
    · next s hs =>
      split at h
      · cases h
      · next nonempty =>
        cases h
        exact .text hs fun empty => nonempty (beq_iff_eq.2 empty)
    · next n hn =>
      cases h
      exact .number hn
    · cases h
  · rintro (⟨hs, nonempty⟩ | hn)
    · rw [hs]
      exact if_neg fun empty => nonempty (beq_iff_eq.1 empty)
    · rw [hn]

theorem mem_offeredIds : id ∈ offeredIds o ↔ Offers o id := by
  unfold offeredIds Offers
  rw [List.mem_filterMap]
  simp only [elementId?_eq_some]
  cases o.items? "formelements" with
  | none => simp
  | some elements => simp

theorem isOffered_iff : isOffered (offeredIds o) e = true ↔ Fits o e := by
  unfold isOffered
  constructor
  · intro h
    cases hid : elementId? e with
    | none => rw [hid] at h; cases h
    | some id =>
      rw [hid] at h
      exact ⟨id, elementId?_eq_some.1 hid, mem_offeredIds.1 (List.contains_iff_mem.1 h)⟩
  · rintro ⟨id, hid, offers⟩
    rw [elementId?_eq_some.2 hid]
    exact List.contains_iff_mem.2 (mem_offeredIds.2 offers)

instance (o : Options) : DecidablePred (Fits o) := fun _ => decidable_of_iff _ isOffered_iff

/-! ### What the contract says -/

/-- The items of a list, and none if it is missing or no list. -/
def listed : Option Json → List Json
  | some (.array items) => items
  | _ => []

/-- The entry of a chat is of this type. -/
def IsOfType (type : String) (e : Json) : Prop := e.get? "type" = some (.string type)

/-- The text of the first entry of a type; empty if there is none, or if it has no text. -/
inductive FirstText (type : String) (entries : List Json) : String → Prop
  | said {before e after text} (split : entries = before ++ e :: after)
      (earlier : ∀ d ∈ before, ¬IsOfType type d) (first : IsOfType type e)
      (said : e.get? "text" = some (.string text)) : FirstText type entries text
  | silent {before e after} (split : entries = before ++ e :: after)
      (earlier : ∀ d ∈ before, ¬IsOfType type d) (first : IsOfType type e)
      (silent : ∀ text, e.get? "text" ≠ some (.string text)) : FirstText type entries ""
  | absent (absent : ∀ e ∈ entries, ¬IsOfType type e) : FirstText type entries ""

/-- A chat of an introduction and a closing remark. -/
def chat (intro outro : String) : Json :=
  .array
    [.object [("text", .string intro), ("type", .string "intro")],
      .object [("text", .string outro), ("type", .string "outro")]]

/-- What the output of a model comes to for a request with these options. -/
inductive Contract (o : Options) (output : String) : Json → Prop
  /-- The model has given an object. -/
  | structured {given members intro outro}
      (recovered : Json.recover output = .ok (.object given))
      (order : Keyed.Ascending members)
      (elements : Keyed.get? "formelements" members =
        some (.array ((listed (Keyed.get? "formelements" given)).filter (Fits o ·))))
      (chatoutput : Keyed.get? "chatoutput" members = some (chat intro outro))
      (hintro : FirstText "intro" (listed (Keyed.get? "chatoutput" given)) intro)
      (houtro : FirstText "outro" (listed (Keyed.get? "chatoutput" given)) outro)
      (others : ∀ key, key ≠ "formelements" → key ≠ "chatoutput" →
        Keyed.get? key members = Keyed.get? key given) :
      Contract o output (.object members)
  /-- There is no object in what the model says. -/
  | unstructured {f} (failed : Json.recover output = .error f) :
      Contract o output (.object [("chatoutput", chat apology ""), ("formelements", .array [])])

/-! ### The answer is the one that the contract asks for -/

theorem listed_eq (value : Option Json) : listed value = (value.bind Json.asArray?).getD [] := by
  cases value with
  | none => rfl
  | some v => cases v <;> rfl

theorem keepOffered_eq (o : Options) (elements : Option Json) :
    keepOffered (offeredIds o) elements = (listed elements).filter (Fits o ·) := by
  unfold keepOffered
  rw [← listed_eq]
  refine List.filter_congr fun e _ => ?_
  rw [Bool.eq_iff_iff, isOffered_iff, decide_eq_true_iff]

theorem isOfType_iff {type : String} :
    ((e.get? "type").bind Json.asString? == some type) = true ↔ IsOfType type e := by
  rw [beq_iff_eq, Json.bind_asString?_eq_some]
  rfl

/-- The first entry of a type is the one that a search finds. -/
theorem find?_eq_some {type : String} {entries : List Json} :
    (entries.find? fun e => (e.get? "type").bind Json.asString? == some type) = some e ↔
      IsOfType type e ∧ ∃ before after, entries = before ++ e :: after ∧
        ∀ d ∈ before, ¬IsOfType type d := by
  rw [List.find?_eq_some_iff_append, isOfType_iff]
  simp only [Bool.not_eq_true', ← Bool.not_eq_true, isOfType_iff]

theorem chatText_eq (chat : Option Json) (type : String) :
    chatText chat type =
      ((((listed chat).find? fun e => (e.get? "type").bind Json.asString? == some type).bind
        (Json.get? "text")).bind Json.asString?).getD "" := by
  rw [listed_eq]
  rfl

theorem firstText_chatText (chat : Option Json) (type : String) :
    FirstText type (listed chat) (chatText chat type) := by
  rw [chatText_eq]
  cases found : (listed chat).find? fun e => (e.get? "type").bind Json.asString? == some type with
  | none =>
    refine .absent fun e he => ?_
    rw [← isOfType_iff]
    exact List.find?_eq_none.1 found e he
  | some e =>
    obtain ⟨first, before, after, split, earlier⟩ := find?_eq_some.1 found
    rw [Option.bind_some]
    cases said : (e.get? "text").bind Json.asString? with
    | none =>
      refine .silent split earlier first fun text h => ?_
      cases said.symm.trans (Json.bind_asString?_eq_some.2 h)
    | some text => exact .said split earlier first (Json.bind_asString?_eq_some.1 said)

theorem FirstText.eq_chatText {chat : Option Json} {type text : String}
    (h : FirstText type (listed chat) text) : text = chatText chat type := by
  rw [chatText_eq]
  cases h with
  | said split earlier first said =>
    rw [find?_eq_some.2 ⟨first, _, _, split, earlier⟩, Option.bind_some,
      Json.bind_asString?_eq_some.2 said]
    rfl
  | @silent before e after split earlier first silent =>
    rw [find?_eq_some.2 ⟨first, _, _, split, earlier⟩, Option.bind_some]
    cases said : (e.get? "text").bind Json.asString? with
    | none => rfl
    | some text => exact absurd (Json.bind_asString?_eq_some.1 said) (silent text)
  | absent absent =>
    have found : (listed chat).find? (fun e => (e.get? "type").bind Json.asString? == some type) =
        none := by
      refine List.find?_eq_none.2 fun e he => ?_
      rw [isOfType_iff]
      exact absent e he
    rw [found]
    rfl

theorem chatEntry_eq (type text : String) :
    chatEntry type text = .object [("text", .string text), ("type", .string type)] := by
  have order : Text.isBefore "text" "type" = true := by decide
  simp [chatEntry, Json.ofMembers, Keyed.ofList, Keyed.insert, order]

theorem normalizeChat_eq (value : Option Json) :
    normalizeChat value = chat (chatText value "intro") (chatText value "outro") := by
  unfold normalizeChat chat
  rw [chatEntry_eq, chatEntry_eq]

theorem fallbackAnswer_eq :
    fallbackAnswer = .object [("chatoutput", chat apology ""), ("formelements", .array [])] := by
  have order : Text.isBefore "chatoutput" "formelements" = true := by decide
  unfold fallbackAnswer chat
  rw [chatEntry_eq, chatEntry_eq]
  simp [Json.ofMembers, Keyed.ofList, Keyed.insert, order]

theorem answer_of_recovered {given : List (String × Json)} (offered : List String)
    (recovered : Json.recover output = .ok (.object given)) :
    answer offered output = .object
      ((Keyed.insert "formelements"
        (.array (keepOffered offered (Keyed.get? "formelements" given))) given).insert
          "chatoutput" (normalizeChat (Keyed.get? "chatoutput" given))) := by
  unfold answer
  rw [recovered]

theorem answer_of_failed {f : Failure} (offered : List String)
    (failed : Json.recover output = .error f) : answer offered output = fallbackAnswer := by
  unfold answer
  rw [failed]

theorem contract_answer (o : Options) (output : String) :
    Contract o output (answer (offeredIds o) output) := by
  cases recovered : Json.recover output with
  | error f =>
    rw [answer_of_failed _ recovered, fallbackAnswer_eq]
    exact .unstructured recovered
  | ok v =>
    obtain ⟨given, rfl, order⟩ := Json.recover_eq_ok recovered
    rw [answer_of_recovered _ recovered, keepOffered_eq, normalizeChat_eq]
    refine .structured recovered ?_ ?_ ?_ (firstText_chatText ..) (firstText_chatText ..) ?_
    · exact Keyed.ascending_insert (Keyed.ascending_insert order _ _) _ _
    · simp
    · simp
    · intro key formelements chatoutput
      simp [formelements, chatoutput]

theorem Contract.eq_answer (h : Contract o output v) : v = answer (offeredIds o) output := by
  cases h with
  | unstructured failed => rw [answer_of_failed _ failed, fallbackAnswer_eq]
  | @structured given members intro outro recovered order elements chatoutput hintro houtro
      others =>
    obtain ⟨given', same, order'⟩ := Json.recover_eq_ok recovered
    cases same
    rw [answer_of_recovered _ recovered, keepOffered_eq, normalizeChat_eq, ← hintro.eq_chatText,
      ← houtro.eq_chatText]
    refine congrArg Json.object (Keyed.ext_of_ascending order ?_ fun key => ?_)
    · exact Keyed.ascending_insert (Keyed.ascending_insert order' _ _) _ _
    · by_cases isChat : key = "chatoutput"
      · simp [isChat, chatoutput]
      · by_cases isElements : key = "formelements"
        · simp [isElements, elements]
        · simp [isChat, isElements, others key isElements isChat]

/-- There is exactly one answer that keeps the contract, and this is what is given. -/
theorem contract_iff : Contract o output v ↔ v = answer (offeredIds o) output := by
  constructor
  · exact Contract.eq_answer
  · rintro rfl
    exact contract_answer o output

/-! ### Strategies -/

/-- What is kept from one step to the next: the ids offered by the options accepted last. -/
structure Strategy where
  offered : List String := []

/-- Sanitizes the options of a request and keeps the ids that they offer. Options that are refused
leave what is kept as it is. -/
def Strategy.sanitize (s : Strategy) (fresh : Uuid) (raw : Options) : Outcome Options × Strategy :=
  match Purpose.sanitize .agent fresh raw with
  | .ok o => (.ok o, { s with offered := offeredIds o })
  | .error f => (.error f, s)

/-- Formats a model's output with the ids that are kept. -/
def Strategy.formatOutput (s : Strategy) (output : String) : String :=
  Agent.formatOutput s.offered output

/-- Whatever a strategy has served before, for a request that it accepts it formats every output
by the contract for the options of this request. -/
theorem Strategy.exists_contract (s : Strategy) {fresh : Uuid} {raw : Options}
    (accepted : Purpose.sanitize .agent fresh raw = .ok o) (output : String) :
    ∃ v, Contract o output v ∧ (s.sanitize fresh raw).2.formatOutput output = v.render ∧
      Purpose.formatOutput .agent o output = v.render := by
  refine ⟨_, contract_answer o output, ?_, rfl⟩
  unfold Strategy.sanitize
  rw [accepted]
  rfl

end PromptBroker.Agent
