import PromptBroker.Proofs.Agent
import PromptBroker.Proofs.Json.Printing

/-!
# Formatting again

An answer may be formatted more than once on its way. It is in its final shape the first time: its
elements were offered, and its chat is an introduction and a closing remark (`exists_answer_eq`).
Every answer has this shape, also the one that stands in for an answer that cannot be used, and
formatting leaves a value of this shape as it is (`answer_complete`).

What is formatted again is the text of the answer. The first reading recovers the answer from it,
as the members are in key order and nest no deeper than a reader may go. Only the floats of the
answer have to be read back as they are printed, which depends on how the reader rounds.
-/

namespace PromptBroker

namespace Keyed

variable {α : Type} {key : String} {value : α} {entries : Keyed α}

theorem mem_of_get? (h : get? key entries = some value) : (key, value) ∈ entries := by
  induction entries with
  | nil => cases h
  | cons e rest ih =>
    obtain ⟨k, v⟩ := e
    by_cases same : key = k
    · subst same
      rw [get?_cons_self] at h
      cases h
      exact List.mem_cons_self
    · rw [get?_cons_of_ne same] at h
      exact List.mem_cons_of_mem _ (ih h)

/-- Putting a value where it stands already changes nothing. -/
theorem insert_of_get? (order : Ascending entries) (h : get? key entries = some value) :
    insert key value entries = entries := by
  refine ext_of_ascending (ascending_insert order key value) order fun other => ?_
  by_cases same : other = key
  · simp [same, h]
  · simp [same]

end Keyed

namespace Agent

open Json (Built maxDepth)

variable {offered : List String} {elements : List Json} {intro outro output : String} {v : Json}

/-- Members with the two parts of an answer put in. -/
def complete (elements : List Json) (intro outro : String) (given : Keyed Json) : Keyed Json :=
  (Keyed.insert "formelements" (.array elements) given).insert "chatoutput" (chat intro outro)

theorem get?_formelements_complete (elements : List Json) (intro outro : String)
    (given : Keyed Json) :
    Keyed.get? "formelements" (complete elements intro outro given) = some (.array elements) := by
  simp [complete]

/-- Whether or not the model has given an object, its answer is one with the two parts put in. -/
theorem exists_answer_eq (offered : List String) (output : String) :
    ∃ given elements intro outro, Built maxDepth (.object given) ∧
      (∀ e ∈ elements, isOffered offered e = true ∧ Built 125 e) ∧
      answer offered output = .object (complete elements intro outro given) := by
  cases recovered : Json.recover output with
  | error f =>
    rw [answer_of_failed offered recovered]
    exact ⟨[], [], apology, "", .object .nil (List.forall_mem_nil _), List.forall_mem_nil _, by
      rw [fallbackAnswer_eq]; rfl⟩
  | ok v =>
    obtain ⟨-, built⟩ := Json.built_of_recover recovered
    obtain ⟨given, rfl, -⟩ := Json.recover_eq_ok recovered
    rw [answer_of_recovered offered recovered, normalizeChat_eq]
    refine ⟨given, _, _, _, built, fun e he => ?_, rfl⟩
    obtain ⟨listed, fits⟩ := List.mem_filter.1 he
    refine ⟨fits, ?_⟩
    cases built with
    | object order inside =>
      cases value : Keyed.get? "formelements" given with
      | none => rw [value] at listed; cases listed
      | some w =>
        have within := inside _ (Keyed.mem_of_get? value)
        rw [value] at listed
        cases within with
        | array items => exact items e listed
        | _ => cases listed

theorem built_chat (intro outro : String) : Built 126 (chat intro outro) := by
  have entry (text type : String) :
      Built 125 (.object [("text", .string text), ("type", .string type)]) := by
    have order : Text.isBefore "text" "type" = true := by decide
    refine .object (List.pairwise_pair.2 order) ?_
    exact List.forall_mem_cons.2 ⟨.string, List.forall_mem_singleton.2 .string⟩
  exact .array (List.forall_mem_cons.2 ⟨entry .., List.forall_mem_singleton.2 (entry ..)⟩)

theorem built_complete {given : Keyed Json} (built : Built maxDepth (.object given))
    (inside : ∀ e ∈ elements, Built 125 e) :
    Built maxDepth (.object (complete elements intro outro given)) := by
  cases built with
  | object order members =>
    refine .object (Keyed.ascending_insert (Keyed.ascending_insert order _ _) _ _) fun e he => ?_
    rcases Keyed.mem_insert he with rfl | he
    · exact built_chat intro outro
    rcases Keyed.mem_insert he with rfl | he
    · exact .array inside
    · exact members e he

/-! ### Answers stay as they are -/

/-- A chat that has been brought into shape keeps its texts. -/
theorem normalizeChat_chat (intro outro : String) :
    normalizeChat (some (chat intro outro)) = chat intro outro := by
  rw [normalizeChat_eq]
  have first : chatText (some (chat intro outro)) "intro" = intro := rfl
  have last : chatText (some (chat intro outro)) "outro" = outro := rfl
  rw [first, last]

/-- What an answer is recovered from is formatted to this answer. -/
theorem answer_complete {given : Keyed Json} (order : Keyed.Ascending given)
    (fits : ∀ e ∈ elements, isOffered offered e = true)
    (recovered : Json.recover output = .ok (.object (complete elements intro outro given))) :
    answer offered output = .object (complete elements intro outro given) := by
  have kept : keepOffered offered (some (.array elements)) = elements := List.filter_eq_self.2 fits
  have ordered : Keyed.Ascending (complete elements intro outro given) :=
    Keyed.ascending_insert (Keyed.ascending_insert order _ _) _ _
  have formelements := get?_formelements_complete elements intro outro given
  have chatoutput : Keyed.get? "chatoutput" (complete elements intro outro given) =
      some (chat intro outro) := by simp [complete]
  rw [answer_of_recovered offered recovered, formelements, kept, chatoutput, normalizeChat_chat,
    Keyed.insert_of_get? ordered formelements, Keyed.insert_of_get? ordered chatoutput]

/-- Formatting an answer again leaves it as it is, whatever the model said and whatever was
offered. -/
theorem formatOutput_formatOutput (offered : List String) (output : String)
    (floats : ∀ n ∈ (answer offered output).floats, n.Rereads) :
    formatOutput offered (formatOutput offered output) = formatOutput offered output := by
  obtain ⟨given, elements, intro, outro, built, inside, same⟩ := exists_answer_eq offered output
  have recovered := Json.recover_render (by rw [same]; rfl)
    (by rw [same]; exact built_complete built fun e he => (inside e he).2) floats
  rw [same] at recovered
  cases built with
  | object order members =>
    have again := answer_complete order (fun e he => (inside e he).1) recovered
    unfold formatOutput
    rw [same, again]

/-- A model that wraps its object in remarks, names an element that was not offered, gives a
float and a whole number, and says nothing at the end. -/
def wordyOutput : String :=
  "Here you are: \x7b\"formelements\": " ++
  "[\x7b\"id\": \"a\", \"value\": 0.5\x7d, \x7b\"id\": \"z\"\x7d], " ++
  "\"chatoutput\": [\x7b\"type\": \"intro\", \"text\": \"Done\"\x7d], " ++
  "\"rest\": [-12, \"\\u00e4\"]\x7d."

theorem formatOutput_wordyOutput :
    (∀ n ∈ (answer ["a"] wordyOutput).floats, n.Rereads) ∧
      (answer ["a"] wordyOutput).floats.length = 1 ∧
      formatOutput ["a"] wordyOutput =
        "\x7b\"chatoutput\":[\x7b\"text\":\"Done\",\"type\":\"intro\"\x7d," ++
          "\x7b\"text\":\"\",\"type\":\"outro\"\x7d]," ++
          "\"formelements\":[\x7b\"id\":\"a\",\"value\":0.5\x7d],\"rest\":[-12,\"ä\"]\x7d" ∧
      formatOutput ["a"] (formatOutput ["a"] wordyOutput) = formatOutput ["a"] wordyOutput := by
  have floats : ∀ n ∈ (answer ["a"] wordyOutput).floats, n.Rereads := by decide +kernel
  exact ⟨floats, by decide +kernel, by decide +kernel,
    formatOutput_formatOutput ["a"] wordyOutput floats⟩

end Agent

end PromptBroker
