import PromptBroker.Proofs.Files
import PromptBroker.Proofs.Request.Gate

/-!
# Requests and stored files

The only step of a request that touches the stored files is the last one, and it stores a
file exactly if it makes a success of one. So a request leaves the files as they were, or
it succeeds and has stored one file, of its caller (`Course.stores`). The embedding
request on the way of a retrieval stores nothing, since a vector is no file.
-/

namespace PromptBroker

/-- The purposes whose output is a file. -/
def Purpose.filing : List Purpose := [.speech, .imageGeneration]

theorem Connector.filing_of_serves {c : Connector} {p : Purpose}
    (provider : c.provider ∈ filingProviders) (serves : c.serves p = true) :
    p ∈ Purpose.filing := by
  unfold Connector.serves at serves
  generalize c.provider = provider' at provider serves
  simp only [filingProviders, List.mem_cons, List.not_mem_nil, or_false] at provider
  rcases provider with rfl | rfl | rfl <;> cases p <;>
    first | exact absurd serves (by decide) | decide

/-- An answer with a file in it is responded to by storing the file, any other one leaves the files
alone. -/
theorem Connector.files_of_respond {c : Connector} {body : ByteArray} {o : Options}
    {user context : Int} {before after : Files} {r : Response}
    (responded : c.respond body o user context before = (r, after)) :
    after = before ∨ ∃ bytes address, c.decode body o = .ok (.file bytes) ∧
      before.put (Placement.ofOptions user context o).owner
        (Placement.ofOptions user context o).filename bytes = .ok (address, after) ∧
      r = .success c.config.modelName Usage.single address := by
  unfold Connector.respond at responded
  cases decoded : c.decode body o with
  | error f =>
    rw [decoded] at responded
    cases responded
    exact .inl rfl
  | ok content =>
    rw [decoded] at responded
    cases content with
    | text model usage t =>
      cases responded
      exact .inl rfl
    | file bytes =>
      unfold Content.deliver at responded
      dsimp only at responded
      split at responded
      · next address files put =>
        cases responded
        exact .inr ⟨bytes, address, rfl, put, rfl⟩
      · cases responded
        exact .inl rfl

namespace Broker

/-- What a request does to the stored files. -/
inductive Stores (q : Request) (before : Files) : Response → Files → Prop
  | nothing {r} : Stores q before r before
  /-- It succeeds, and a file of its caller is stored. -/
  | file {model usage content owner filename bytes address after}
      (filing : q.purpose ∈ Purpose.filing) (owned : owner.user = q.caller.user)
      (put : before.put owner filename bytes = .ok (address, after)) :
      Stores q before (.success model usage content) after

/-- The embedder stores no file. -/
def Embedding.KeepsFiles (E : Embedding) : Prop :=
  ∀ caller text b w nested v b' w', E caller text b w nested v b' w' → b'.files = b.files

variable {E : Embedding} {q : Request} {b b' : Broker} {w w' : World} {nested : Option Response}
  {r : Response}

theorem Stores.eq_of_failure {f f' : Files} (h : Stores q f r f') (failed : r.isSuccess = false) :
    f' = f := by
  cases h with
  | nothing => rfl
  | file => cases failed

theorem Stores.eq_of_not_filing {f f' : Files} (h : Stores q f r f')
    (other : q.purpose ∉ Purpose.filing) : f' = f := by
  cases h with
  | nothing => rfl
  | file filing => exact absurd filing other

theorem Rewired.files_eq (h : Rewired b b') : b'.files = b.files := by
  obtain ⟨connectors, rfl⟩ := h
  rfl

theorem files_planned (b : Broker) (name : String) (c : Connector) (flag : SetupStatus) :
    (b.planned name c flag).files = b.files := by
  unfold planned updateFlag
  split <;> rfl

theorem files_learn (b : Broker) (caching : Bool) (text : String) (v : Outcome (List Float32)) :
    (b.learn caching text v).files = b.files := by
  unfold learn
  split
  · split <;> rfl
  · rfl

theorem Prepares.files_eq (hE : E.KeepsFiles) {caller : Caller} {route : Route} {text : String}
    {o : Options} {p : Outcome Http.Payload} {c : Connector}
    (h : Prepares E caller route text o b w nested p c b' w') : b'.files = b.files := by
  cases h with
  | ready | unplanned => exact files_planned ..
  | embedded _ vector => exact (hE _ _ _ _ _ _ _ _ vector).trans (files_planned ..)

/-- A request leaves the stored files alone, or it succeeds and stores one for its caller. -/
theorem Course.stores (hE : E.KeepsFiles) (h : Course E q b w nested r b' w') :
    Stores q b.files r b'.files := by
  have prepared {route o text b₁ w₁ n p c b₂ w₂} (admitted : Admitted q b w route o text b₁ w₁)
      (prepares : Prepares E q.caller route text o b₁ w₁ n p c b₂ w₂) : b₂.files = b.files :=
    (prepares.files_eq hE).trans admitted.rewired.files_eq
  cases h with
  | barred gate | refused gate =>
    rw [(rewired_of_gate gate).files_eq]
    exact .nothing
  | unprepared admitted prepares =>
    rw [prepared admitted prepares]
    exact .nothing
  | unsigned admitted prepares submits | undelivered admitted prepares submits =>
    rw [submits.rewired.files_eq, prepared admitted prepares]
    exact .nothing
  | answered admitted prepares submits responded =>
    rw [← prepared admitted prepares, ← submits.rewired.files_eq]
    rcases Connector.files_of_respond responded with rfl | ⟨bytes, address, decoded, put, rfl⟩
    · exact .nothing
    · have serves := admitted.serves_of_submits prepares submits
      exact .file (Connector.filing_of_serves (Connector.filing_of_decode decoded) serves) rfl put

theorem noVector_keepsFiles : Embedding.KeepsFiles NoVector := by
  rintro caller text b w nested v b' w' ⟨-, -, rfl, -⟩
  rfl

theorem embeds_keepsFiles : Embedding.KeepsFiles Embeds := by
  intro caller text b w nested v b' w' h
  cases h with
  | known => rfl
  | asked _ course =>
    rw [files_learn]
    have vector : Purpose.embedding ∉ Purpose.filing := by decide
    exact (course.stores noVector_keepsFiles).eq_of_not_filing vector

/-- A request that fails leaves the stored files alone. -/
theorem Course.files_eq_of_failure (h : Course Embeds q b w nested r b' w')
    (failed : r.isSuccess = false) : b'.files = b.files :=
  (h.stores embeds_keepsFiles).eq_of_failure failed

end Broker

end PromptBroker
