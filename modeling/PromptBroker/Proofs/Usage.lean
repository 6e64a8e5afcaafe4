import PromptBroker.Proofs.Connector
import PromptBroker.Proofs.Decimal.Order

/-!
# Usage that can be added up

What an answer is said to have cost comes from a provider, who may say anything: a negative
number, a fraction, text, nothing at all, or a total below its parts. A usage record that is made
from any three floats is sane all the same (`sane_of`): its fields are numbers, none is negative,
and the total covers both parts. The larger of two floats is NaN only if the second is, and it is
at least each of the two that is a number.

So is the record of every answer of every provider (`sane_usage`). Where providers count calls it
is one call; where they report tokens, it is made from the counts in the answer, and a count
that is missing or no number is zero, or the prompt's where it is the total.
-/

namespace PromptBroker

namespace Usage

open Decimal (le_refl_of_number float_le_trans le_of_float_lt le_of_not_float_lt)

variable {x y : Float}

/-! ### The larger of two floats -/

theorem larger_cases (x y : Float) :
    ((x.isNaN = true ∨ x < y) ∧ larger x y = y) ∨
      (x.isNaN = false ∧ ¬x < y ∧ larger x y = x) := by
  unfold larger
  split
  · next h => exact .inl ⟨by simpa using h, rfl⟩
  · next h => exact .inr (by simpa using h)

theorem isNaN_larger (hy : y.isNaN = false) : (larger x y).isNaN = false := by
  rcases larger_cases x y with ⟨-, same⟩ | ⟨hx, -, same⟩
  · rwa [same]
  · rwa [same]

theorem le_larger_right (hy : y.isNaN = false) : y ≤ larger x y := by
  rcases larger_cases x y with ⟨-, same⟩ | ⟨hx, not_less, same⟩
  · rw [same]
    exact le_refl_of_number hy
  · rw [same]
    exact le_of_not_float_lt hx hy not_less

theorem le_larger_left (hx : x.isNaN = false) : x ≤ larger x y := by
  rcases larger_cases x y with ⟨absent | less, same⟩ | ⟨-, -, same⟩
  · rw [hx] at absent
    cases absent
  · rw [same]
    exact le_of_float_lt less
  · rw [same]
    exact le_refl_of_number hx

/-! ### Sane records -/

/-- The fields are numbers, none is negative, and the total covers both parts. -/
structure Sane (u : Usage) : Prop where
  total_isNaN : u.total.isNaN = false
  prompt_isNaN : u.prompt.isNaN = false
  completion_isNaN : u.completion.isNaN = false
  total_nonneg : 0 ≤ u.total
  prompt_nonneg : 0 ≤ u.prompt
  completion_nonneg : 0 ≤ u.completion
  prompt_le_total : u.prompt ≤ u.total
  completion_le_total : u.completion ≤ u.total

theorem sane_of (total prompt completion : Float) : Sane (of total prompt completion) := by
  have zero : (0 : Float).isNaN = false := rfl
  have prompt_number : (larger prompt 0).isNaN = false := isNaN_larger zero
  have completion_number : (larger completion 0).isNaN = false := isNaN_larger zero
  have covers : larger prompt 0 ≤ larger (larger total (larger prompt 0)) (larger completion 0) :=
    float_le_trans (le_larger_right prompt_number) (le_larger_left (isNaN_larger prompt_number))
  exact {
    total_isNaN := isNaN_larger completion_number
    prompt_isNaN := prompt_number
    completion_isNaN := completion_number
    total_nonneg := float_le_trans (le_larger_right zero) covers
    prompt_nonneg := le_larger_right zero
    completion_nonneg := le_larger_right zero
    prompt_le_total := covers
    completion_le_total := le_larger_right completion_number }

/-! ### What answers report -/

/-- A count in an answer: a number as a float, and something else in its place if there is no
number. -/
inductive Counted (value : Option Json) (otherwise : Float) : Float → Prop
  | number {n} (number : value = some (.number n)) : Counted value otherwise n.toFloat
  | missing (missing : ∀ n, value ≠ some (.number n)) : Counted value otherwise otherwise

theorem counted (value : Option Json) (otherwise : Float) :
    Counted value otherwise ((value.bind Json.asFloat?).getD otherwise) := by
  cases value with
  | none => exact .missing fun n h => by cases h
  | some v =>
    cases v with
    | number n => exact .number rfl
    | _ => exact .missing fun n h => by cases h

/-- The usage that goes with an answer of a provider. -/
inductive Reports (body : ByteArray) : Provider → Usage → Prop
  | calls {p} (unit : Catalog.unit p = .count) : Reports body p ⟨1, 0, 0⟩
  | chat {v prompt completion} (read : Json.readBytes body = .ok v)
      (hprompt : Counted (v.get? "prompt_eval_count") 0 prompt)
      (hcompletion : Counted (v.get? "eval_count") 0 completion) :
      Reports body .ollama (tokens prompt completion)
  | embedding {v prompt total} (read : Json.readBytes body = .ok v)
      (hprompt : Counted (v.at? [.key "usage", .key "prompt_tokens"]) 0 prompt)
      (htotal : Counted (v.at? [.key "usage", .key "total_tokens"]) prompt total) :
      Reports body .embeddings (of total prompt 0)

theorem Reports.sane {body : ByteArray} {p : Provider} {u : Usage} (h : Reports body p u) :
    Sane u := by
  cases h with
  | calls => exact single_eq ▸ sane_of 1 0 0
  | chat => exact sane_of _ _ _
  | embedding => exact sane_of _ _ _

/-- Where calls are counted the answer is one call, whatever it holds. -/
theorem Reports.eq_of_count {body : ByteArray} {p : Provider} {u : Usage} (h : Reports body p u)
    (unit : Catalog.unit p = .count) : u = ⟨1, 0, 0⟩ := by
  cases h with
  | calls => rfl
  | chat => cases unit
  | embedding => cases unit

end Usage

namespace Connector

open Usage (Reports)

variable {c : Connector} {body : ByteArray} {o : Options} {model text : String} {usage : Usage}

/-- What is read as JSON was decoded from the value that was read. -/
theorem exists_of_readJson_bind {α : Type} {read : Json → Outcome α} {a : α}
    (h : (Content.readJson body >>= read) = .ok a) :
    ∃ v, Json.readBytes body = .ok v ∧ read v = .ok a := by
  unfold Content.readJson at h
  split at h
  · next v value => exact ⟨v, value, h⟩
  · cases h

theorem readFile_ne_text {encoded : String} :
    Picture.readFile encoded ≠ .ok (.text model usage text) := by
  unfold Picture.readFile
  split <;> exact nofun

theorem reports_of_decode (decoded : c.decode body o = .ok (.text model usage text)) :
    Reports body c.provider usage := by
  unfold decode at decoded
  unfold provider
  cases hb : c.binding with
  | ollama =>
    rw [hb] at decoded
    obtain ⟨v, read, decoded⟩ := exists_of_readJson_bind decoded
    split at decoded
    · cases decoded
    · cases decoded
      exact .chat read (Usage.counted ..) (Usage.counted ..)
  | embeddings =>
    rw [hb] at decoded
    obtain ⟨v, read, decoded⟩ := exists_of_readJson_bind decoded
    split at decoded
    · cases decoded
    · split at decoded
      · cases decoded
      · cases decoded
        exact .embedding read (Usage.counted ..) (Usage.counted ..)
  | dalle | imagen =>
    rw [hb] at decoded
    obtain ⟨v, -, decoded⟩ := exists_of_readJson_bind decoded
    split at decoded
    · cases decoded
    · exact absurd decoded readFile_ne_text
  | voice =>
    rw [hb] at decoded
    dsimp only [Speech.decode] at decoded
    split at decoded <;> cases decoded
  | whisper =>
    rw [hb] at decoded
    dsimp only [Transcription.decode] at decoded
    split at decoded
    · obtain ⟨v, -, decoded⟩ := exists_of_readJson_bind decoded
      cases decoded
      exact .calls rfl
    · cases decoded
      exact .calls rfl
  | qdrant state =>
    rw [hb] at decoded
    obtain ⟨v, -, decoded⟩ := exists_of_readJson_bind decoded
    cases action : RetrievalAction.ofOptions o with
    | error f => rw [action] at decoded; cases decoded
    | ok action' =>
      rw [action] at decoded
      cases decoded
      exact .calls rfl

/-- A file costs one call. -/
theorem unit_of_filing {p : Provider} (h : p ∈ filingProviders) : Catalog.unit p = .count := by
  have each : ∀ p ∈ filingProviders, Catalog.unit p = .count := by decide
  exact each p h

theorem reports_of_respond {user context : Int} {files : Files}
    (responded : (c.respond body o user context files).1 = .success model usage text) :
    Reports body c.provider usage := by
  unfold respond Content.deliver at responded
  split at responded
  · cases responded
  · next decoded =>
    cases responded
    exact reports_of_decode decoded
  · next decoded =>
    split at responded
    · cases responded
      exact .calls (unit_of_filing (filing_of_decode decoded))
    · cases responded

/-- Whatever three floats it is made from, a usage record is sane, and so is the record that goes
with an answer, whoever the provider is and whatever the answer holds. -/
theorem sane_usage :
    (∀ total prompt completion, (Usage.of total prompt completion).Sane) ∧
      (∀ prompt completion, (Usage.tokens prompt completion).Sane) ∧
      ∀ (c : Connector) (body : ByteArray) (o : Options) (user context : Int) (files : Files)
        (model text : String) (usage : Usage),
        (c.respond body o user context files).1 = .success model usage text →
          usage.Sane ∧ Reports body c.provider usage ∧
            (Catalog.unit c.provider = .count → usage = ⟨1, 0, 0⟩) := by
  refine ⟨Usage.sane_of, fun _ _ => Usage.sane_of _ _ _, ?_⟩
  intro c body o user context files model text usage responded
  have reports := reports_of_respond responded
  exact ⟨reports.sane, reports, reports.eq_of_count⟩

/-- A connector for chats. -/
def talker : Connector := ⟨⟨"chat", .ollama, "gemma3", "http://ollama.test/api/chat", none, none,
  true, none, none, []⟩, .ollama⟩

/-- An answer in which one count is text and the other has a fraction. -/
def oddCounts : ByteArray :=
  ("\x7b\"message\": \x7b\"content\": \"Hi\"\x7d, \"prompt_eval_count\": \"3\", " ++
    "\"eval_count\": 2.5\x7d").toUTF8

theorem sane_usage_oddCounts :
    (talker.respond oddCounts [] 42 1 (.empty "")).1 = .success "gemma3" ⟨2.5, 0, 2.5⟩ "Hi" ∧
      (⟨2.5, 0, 2.5⟩ : Usage).Sane ∧ Reports oddCounts .ollama ⟨2.5, 0, 2.5⟩ := by
  have responded :
      (talker.respond oddCounts [] 42 1 (.empty "")).1 = .success "gemma3" ⟨2.5, 0, 2.5⟩ "Hi" := by
    decide +kernel
  obtain ⟨sane, reports, -⟩ :=
    sane_usage.2.2 talker oddCounts [] 42 1 (.empty "") "gemma3" "Hi" _ responded
  exact ⟨responded, sane, reports⟩

end Connector

end PromptBroker
