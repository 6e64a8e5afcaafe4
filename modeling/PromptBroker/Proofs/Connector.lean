import PromptBroker.Proofs.Kinds

/-!
# How connectors plan

Most connectors have their payload at once, from the prompt and the options alone.
A vector store looks after its backend first and then waits for a vector. `Plans`
lists the two cases, so that nothing else needs to look at the providers one by one.
Whatever a connector does, it stays bound to its provider.
-/

namespace PromptBroker.Connector

/-- The payload of a connector that needs no vector. -/
def payload? (c : Connector) (text : String) (o : Options) : Option (Outcome Http.Payload) :=
  match c.binding with
  | .ollama => some (Chat.payload c.config text o)
  | .dalle => some (.ok (Picture.openaiPayload c.config text o))
  | .whisper => some (Transcription.payload c.config o)
  | .voice => some (Speech.payload c.config text o)
  | .imagen _ _ => some (Picture.imagenPayload c.config text o)
  | .embeddings => some (Embedding.payload c.config text)
  | .qdrant _ => none

/-- What a vector store waits for, once its backend is set up. -/
def awaited (i : Instance) (text : String) (o : Options) : Outcome Plan :=
  (RetrievalAction.ofOptions o).map fun action =>
    .awaiting (VectorStore.payload i action text o)

/-- How a plan comes about, with the connector and the flag as they are afterwards. -/
inductive Plans (c : Connector) (flag : SetupStatus) (text : String) (o : Options) (w : World) :
    Outcome Plan → Connector → SetupStatus → World → Prop
  /-- The payload is there at once. -/
  | direct {p} (payload : c.payload? text o = some p) :
      Plans c flag text o w (p.map .ready) c flag w
  /-- The backend is looked after first. -/
  | setUp {state outcome state' flag' w'} (binding : c.binding = .qdrant state)
      (ensure : VectorStore.ensure c.config state flag w = .ok ((outcome, state', flag'), w')) :
      Plans c flag text o w (outcome >>= fun _ => awaited c.config text o)
        { c with binding := .qdrant state' } flag' w'

variable {c c' : Connector} {flag flag' : SetupStatus} {text : String} {o : Options}
  {w w' : World} {x : Outcome Plan}

theorem plan_of_payload (flag : SetupStatus) {p : Outcome Http.Payload}
    (h : c.payload? text o = some p) :
    c.plan flag text o = pure (p.map .ready, c, flag) := by
  unfold payload? at h
  unfold plan
  cases hb : c.binding with
  | qdrant state => rw [hb] at h; cases h
  | _ =>
    rw [hb] at h
    cases h
    rfl

theorem plan_eq_ok :
    c.plan flag text o w = .ok ((x, c', flag'), w') ↔ Plans c flag text o w x c' flag' w' := by
  cases hp : c.payload? text o with
  | some p =>
    rw [plan_of_payload flag hp, Run.pure_eq_ok]
    constructor
    · rintro ⟨⟨⟩, rfl⟩
      exact .direct hp
    · intro h
      cases h with
      | direct payload => rw [hp] at payload; cases payload; exact ⟨rfl, rfl⟩
      | setUp binding => simp [payload?, binding] at hp
  | none =>
    have vectorStore : ∃ state, c.binding = .qdrant state := by
      cases hb : c.binding with
      | qdrant state => exact ⟨state, rfl⟩
      | _ => simp [payload?, hb] at hp
    obtain ⟨state, hb⟩ := vectorStore
    unfold plan
    rw [hb]
    dsimp only
    rw [Run.bind_eq_ok]
    constructor
    · rintro ⟨⟨outcome, state', flag'⟩, w₁, ensure, h⟩
      obtain ⟨⟨⟩, rfl⟩ := Run.pure_eq_ok.1 h
      exact .setUp hb ensure
    · intro h
      cases h with
      | direct payload => rw [hp] at payload; cases payload
      | setUp binding ensure =>
        rw [hb] at binding
        cases binding
        exact ⟨_, _, ensure, Run.pure_eq_ok.2 ⟨rfl, rfl⟩⟩

/-- Only a vector store waits for a vector. -/
theorem Plans.binding_of_awaiting {finish : List Float32 → Outcome Http.Payload}
    (h : Plans c flag text o w (.ok (.awaiting finish)) c' flag' w') :
    ∃ state, c.binding = .qdrant state := by
  generalize hx : Except.ok (Plan.awaiting finish) = x at h
  cases h with
  | @direct p payload => cases p <;> cases hx
  | setUp binding => exact ⟨_, binding⟩

/-! ### What is made -/

theorem provider_of_binding {i : Instance} {binding : Binding}
    (made : Binding.ofInstance i = .ok binding) : binding.provider = i.provider := by
  unfold Binding.ofInstance at made
  cases hp : i.provider with
  | imagen =>
    rw [hp] at made
    dsimp only [Binding.ofAccount] at made
    split at made
    · cases made
    · obtain ⟨service, -, made⟩ := Outcome.bind_eq_ok.1 made
      obtain ⟨account, -, made⟩ := Outcome.bind_eq_ok.1 made
      cases made
      rfl
  | _ =>
    rw [hp] at made
    cases made
    rfl

/-- A connector is made for an instance that passes its own check, and is bound to its provider. -/
theorem of_ofInstance {i : Instance} (made : ofInstance i = .ok c) :
    c.config = i ∧ i.validate = .ok () ∧ c.provider = i.provider := by
  obtain ⟨⟨⟩, valid, made⟩ := Outcome.bind_eq_ok.1 made
  obtain ⟨binding, bound, made⟩ := Outcome.bind_eq_ok.1 made
  cases made
  exact ⟨rfl, valid, provider_of_binding bound⟩

theorem ofInstance_of_sound {i : Instance} {binding : Binding} (sound : i.defect? = none)
    (bound : Binding.ofInstance i = .ok binding) : ofInstance i = .ok ⟨i, binding⟩ := by
  have valid : i.validate = .ok () := by rw [Instance.validate, sound]
  exact Outcome.bind_eq_ok.2 ⟨⟨⟩, valid, Outcome.bind_eq_ok.2 ⟨binding, bound, rfl⟩⟩

/-! ### Who serves what -/

/-- A vector store serves retrievals only. -/
theorem purpose_of_vectorStore {p : Purpose} {state : BackendState}
    (binding : c.binding = .qdrant state) (serves : c.serves p = true) : p = .retrieval := by
  unfold Connector.serves provider at serves
  rw [binding] at serves
  cases p <;> first | rfl | cases serves

/-- Conversations are served by Ollama only. -/
theorem binding_of_conversation {p : Purpose} (converses : p = .chat ∨ p = .agent)
    (serves : c.serves p = true) : c.binding = .ollama := by
  unfold Connector.serves provider at serves
  cases hb : c.binding with
  | ollama => rfl
  | _ =>
    rw [hb] at serves
    rcases converses with rfl | rfl <;> cases serves

theorem binding_of_agent (serves : c.serves .agent = true) : c.binding = .ollama :=
  binding_of_conversation (.inr rfl) serves

theorem binding_of_embedding (serves : c.serves .embedding = true) : c.binding = .embeddings := by
  unfold Connector.serves provider at serves
  cases hb : c.binding with
  | embeddings => rfl
  | _ => rw [hb] at serves; cases serves

/-! ### What comes back as text -/

theorem readJson_bind_ne_file {body bytes : ByteArray} {read : Json → Outcome Content}
    (h : ∀ v, read v ≠ .ok (.file bytes)) :
    (Content.readJson body >>= read) ≠ .ok (.file bytes) := by
  cases Content.readJson body with
  | error f => exact nofun
  | ok v => exact h v

/-- What a model or an embedder sends back is no file. -/
theorem decode_ne_file (binding : c.binding = .ollama ∨ c.binding = .embeddings)
    (body : ByteArray) (o : Options) (bytes : ByteArray) : c.decode body o ≠ .ok (.file bytes) := by
  unfold decode
  rcases binding with chat | embedding
  · rw [chat]
    refine readJson_bind_ne_file fun v => ?_
    split <;> exact nofun
  · rw [embedding]
    refine readJson_bind_ne_file fun v => ?_
    split
    · exact nofun
    · split <;> exact nofun

/-- The providers that answer with a file. -/
def filingProviders : List Provider := [.dalle, .voice, .imagen]

/-- Only the providers of files answer with one. -/
theorem filing_of_decode {body bytes : ByteArray} {o : Options}
    (decoded : c.decode body o = .ok (.file bytes)) : c.provider ∈ filingProviders := by
  unfold provider
  cases hb : c.binding with
  | dalle | voice | imagen => simp [filingProviders, Binding.provider]
  | ollama => exact absurd decoded (decode_ne_file (.inl hb) _ _ _)
  | embeddings => exact absurd decoded (decode_ne_file (.inr hb) _ _ _)
  | whisper =>
    unfold decode at decoded
    rw [hb] at decoded
    dsimp only [Transcription.decode] at decoded
    split at decoded
    · exact absurd decoded (readJson_bind_ne_file fun _ => nofun)
    · cases decoded
  | qdrant state =>
    unfold decode at decoded
    rw [hb] at decoded
    refine absurd decoded (readJson_bind_ne_file fun v => ?_)
    cases RetrievalAction.ofOptions o with
    | error f => exact nofun
    | ok action => cases action <;> exact nofun

/-! ### What stays -/

/-- Whatever it keeps, the connector is bound to the same instance and the same provider. -/
structure Continues (c c' : Connector) : Prop where
  config : c'.config = c.config
  provider : c'.provider = c.provider

theorem Continues.refl (c : Connector) : Continues c c := ⟨rfl, rfl⟩

theorem Continues.eq (h : Continues c c') : c' = { c with binding := c'.binding } := by
  rw [← h.config]

theorem Plans.continues (h : Plans c flag text o w x c' flag' w') : Continues c c' := by
  cases h with
  | direct => exact .refl c
  | setUp binding =>
    refine ⟨rfl, ?_⟩
    unfold provider
    rw [binding]
    rfl

theorem continues_of_headers {h : Outcome Http.Headers} (hh : c.headers w = .ok ((h, c'), w')) :
    Continues c c' := by
  unfold headers at hh
  cases hb : c.binding with
  | imagen tokens detector =>
    rw [hb] at hh
    obtain ⟨⟨token, tokens⟩, w₁, -, hh⟩ := Run.bind_eq_ok.1 hh
    cases (Run.pure_eq_ok.1 hh).1
    refine ⟨rfl, ?_⟩
    unfold provider
    rw [hb]
    rfl
  | _ =>
    rw [hb] at hh
    cases (Run.pure_eq_ok.1 hh).1
    exact .refl c

theorem continues_of_send {p : Http.Payload} {h : Http.Headers} {d : Delivery}
    (hd : c.send p h w = .ok ((d, c'), w')) : Continues c c' := by
  unfold send at hd
  cases hb : c.binding with
  | imagen tokens detector =>
    rw [hb] at hd
    obtain ⟨⟨d, tokens⟩, w₁, -, hd⟩ := Run.bind_eq_ok.1 hd
    cases (Run.pure_eq_ok.1 hd).1
    refine ⟨rfl, ?_⟩
    unfold provider
    rw [hb]
    rfl
  | _ =>
    rw [hb] at hd
    obtain ⟨d, w₁, -, hd⟩ := Run.bind_eq_ok.1 hd
    cases (Run.pure_eq_ok.1 hd).1
    exact .refl c

theorem Plans.provider_eq (h : Plans c flag text o w x c' flag' w') : c'.provider = c.provider :=
  h.continues.provider

theorem provider_of_headers {h : Outcome Http.Headers} (hh : c.headers w = .ok ((h, c'), w')) :
    c'.provider = c.provider :=
  (continues_of_headers hh).provider

theorem provider_of_send {p : Http.Payload} {h : Http.Headers} {d : Delivery}
    (hd : c.send p h w = .ok ((d, c'), w')) : c'.provider = c.provider :=
  (continues_of_send hd).provider

end PromptBroker.Connector
