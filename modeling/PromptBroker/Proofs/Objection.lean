import PromptBroker.Proofs.Connector
import PromptBroker.Proofs.Resanitize

/-!
# What is objected to

Two things in a request come from outside: a fresh name, which the options may be given
for a file, and the pages that are fetched into an agent's prompt. Neither has a say in
what is objected to. Options are refused whatever the fresh name is, and what a connector
objects to depends on the options but for the file name of an output, and on the text only
where it is to be embedded (`objects?_eq`).
-/

namespace PromptBroker

variable {o o' : Options}

/-! ### Options -/

/-- Options that agree but for the file name. -/
def Options.AgreeButName (o o' : Options) : Prop :=
  ∀ key, key ≠ "filename" → o.get? key = o'.get? key

theorem Options.AgreeButName.firstText?_eq (h : o.AgreeButName o') {key : String}
    (other : key ≠ "filename") : o.firstText? key = o'.firstText? key := by
  unfold Options.firstText? Options.items?
  rw [h key other]

/-- The purposes whose outputs are given a name. -/
def namingPurposes : List Purpose := [.speech, .imageGeneration]

namespace Purpose

variable {p : Purpose}

theorem agree_of_withFileTarget (stem extension : String) (fresh fresh' : Uuid) (o : Options) :
    (withFileTarget stem extension fresh o).AgreeButName
      (withFileTarget stem extension fresh' o) := by
  intro key other
  simp [withFileTarget_eq, other]

/-- Only where an output is to be named, the fresh name is looked at. -/
theorem complete_eq (h : p ∉ namingPurposes) (fresh fresh' : Uuid) (o : Options) :
    p.complete fresh o = p.complete fresh' o := by
  cases p with
  | speech | imageGeneration => exact absurd (by decide) h
  | _ => rfl

/-- Where an output is named, nothing is objected to any more. -/
theorem complete_of_naming (h : p ∈ namingPurposes) (fresh fresh' : Uuid) (o : Options) :
    ∃ o₁ o₂, p.complete fresh o = .ok o₁ ∧ p.complete fresh' o = .ok o₂ ∧
      o₁.AgreeButName o₂ := by
  simp only [namingPurposes, List.mem_cons, List.not_mem_nil, or_false] at h
  rcases h with rfl | rfl
  · exact ⟨_, _, rfl, rfl, agree_of_withFileTarget _ _ _ _ _⟩
  · exact ⟨_, _, rfl, rfl, agree_of_withFileTarget _ _ _ _ _⟩

/-- Two outcomes of sanitizing that differ at most in the name of the output. -/
inductive SameButName (p : Purpose) : Outcome Options → Outcome Options → Prop
  | refused {f : Failure} : SameButName p (.error f) (.error f)
  | accepted {o o' : Options} (agree : o.AgreeButName o') (same : p ∉ namingPurposes → o = o') :
      SameButName p (.ok o) (.ok o')

/-- Options are refused or accepted whatever the fresh name is. -/
theorem sanitize_sameButName (p : Purpose) (fresh fresh' : Uuid) (raw : Options) :
    SameButName p (p.sanitize fresh raw) (p.sanitize fresh' raw) := by
  have complete (o : Options) : SameButName p (p.complete fresh o) (p.complete fresh' o) := by
    by_cases naming : p ∈ namingPurposes
    · obtain ⟨o₁, o₂, first, second, agree⟩ := complete_of_naming naming fresh fresh' o
      rw [first, second]
      exact .accepted agree fun other => absurd naming other
    · rw [complete_eq naming fresh fresh' o]
      cases p.complete fresh' o with
      | error f => exact .refused
      | ok o => exact .accepted (fun _ _ => rfl) fun _ => rfl
  unfold sanitize
  cases p.schema.validate raw with
  | error f => exact .refused
  | ok o =>
    cases p.schema.contains "temperature" with
    | false => exact complete o
    | true =>
      cases checked : checkTemperature o with
      | error f => simp only [bind, Except.bind, checked, if_true]; exact .refused
      | ok => simp only [bind, Except.bind, checked, if_true]; exact complete o

end Purpose

/-! ### Payloads -/

namespace Connector

variable {c : Connector} {text text' : String}

/-- What a connector objects to, if it makes its payload from the text and the options alone. -/
def objects? (c : Connector) (text : String) (o : Options) : Option (Outcome Unit) :=
  (c.payload? text o).map fun p => p.map fun _ => ()

theorem messages_objection (text text' : String) (o : Options) :
    (Chat.messages text o).map (fun _ => ()) = (Chat.messages text' o).map fun _ => () := by
  unfold Chat.messages
  cases o.items? "conversationcontext" with
  | some entries =>
    dsimp only
    cases entries.mapM Chat.earlierMessage <;> rfl
  | none =>
    dsimp only
    cases o.get? "image" with
    | none => rfl
    | some image =>
      dsimp only
      cases Chat.imageData image <;> rfl

/-- A chat objects to the conversation or the image, not to the prompt. -/
theorem chat_objection (i : Instance) (text text' : String) (o : Options) :
    (Chat.payload i text o).map (fun _ => ()) = (Chat.payload i text' o).map fun _ => () := by
  have same := messages_objection text text' o
  unfold Chat.payload
  revert same
  cases Chat.messages text o <;> cases Chat.messages text' o <;> intro same <;> cases same <;> rfl

/-- The voice is all that a speaker objects to. -/
theorem speech_objection (i : Instance) (text text' : String) (agree : o.AgreeButName o') :
    (Speech.payload i text o).map (fun _ => ()) =
      (Speech.payload i text' o').map fun _ => () := by
  unfold Speech.payload
  dsimp only
  rw [agree.firstText?_eq (by decide)]
  split
  · rfl
  · rfl

/-- The shape is all that a painter objects to. -/
theorem imagen_objection (i : Instance) (text text' : String) (agree : o.AgreeButName o') :
    (Picture.imagenPayload i text o).map (fun _ => ()) =
      (Picture.imagenPayload i text' o').map fun _ => () := by
  unfold Picture.imagenPayload
  dsimp only
  rw [agree.firstText?_eq (by decide)]
  split
  · rfl
  · rfl

/-- What a connector objects to does not depend on the name of the output, nor on the text unless
it is to be embedded. -/
theorem objects?_eq {p : Purpose} (serves : c.serves p = true)
    (same : Purpose.SameButName p (.ok o) (.ok o')) (embedded : p = .embedding → text = text') :
    c.objects? text o = c.objects? text' o' := by
  cases same with
  | accepted agree same =>
  unfold Connector.serves Connector.provider at serves
  unfold objects? payload?
  cases hb : c.binding with
  | ollama =>
    rw [hb] at serves
    have unnamed : p ∉ namingPurposes := by cases p <;> first | decide | cases serves
    rw [same unnamed]
    exact congrArg some (chat_objection c.config text text' o')
  | dalle => rfl
  | whisper =>
    rw [hb] at serves
    have unnamed : p ∉ namingPurposes := by cases p <;> first | decide | cases serves
    rw [same unnamed]
  | voice => exact congrArg some (speech_objection c.config text text' agree)
  | imagen => exact congrArg some (imagen_objection c.config text text' agree)
  | embeddings =>
    rw [hb] at serves
    have embedding : p = .embedding := by cases p <;> first | rfl | cases serves
    rw [embedded embedding]
  | qdrant => rfl

end Connector

end PromptBroker
