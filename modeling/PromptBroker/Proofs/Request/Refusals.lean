import PromptBroker.Proofs.Calls
import PromptBroker.Proofs.Request.Gate
import PromptBroker.Proofs.Request.History
import PromptBroker.Proofs.Sanitize

/-!
# Refusals and calls

A refusal is a response that reports an invalid parameter or an exceeded quota. It
is meant to come before anything has been sent. There are three ways in which it
comes after: an agent's conversation is looked at when the documentation has been
fetched, a vector is asked for when the backend of the vector store has been set up,
and a file name is looked at when the file is there. A refusal comes without a call
exactly if it is none of these (`calls_eq_of_refusal_iff`).
-/

namespace PromptBroker

/-- The kinds that a refusal reports. -/
def Failure.Kind.IsRefusal (k : Failure.Kind) : Prop := k = .invalidParameter ∨ k = .quotaExceeded

/-- The response reports an invalid parameter or an exceeded quota. -/
def Response.IsRefusal (r : Response) : Prop := ∃ k, r.kind? = some k ∧ k.IsRefusal

/-- The conversation has an entry whose sender nobody knows. -/
def Chat.HasUnknownSender (o : Options) : Prop :=
  ∃ entries, o.items? "conversationcontext" = some entries ∧
    ∃ e ∈ entries, ((e.get? "sender").bind Json.asString?).bind Chat.role? = none

namespace Broker

/-- The embedding request for a text is refused: the caller has no embedding left, or would have
one but for the text, which is blank. -/
def EmbeddingRefused (caller : Caller) (text : String) (b : Broker) (w : World) : Prop :=
  match Check.first? (.embedding caller text) b (w.names w.drawn) Check.all with
  | some (k, _) => k = .quota
  | none => Text.isAllBlank text = true

/-- A request is refused when a call has been made. -/
inductive LateRefusal (q : Request) (b : Broker) (w : World) : Prop
  /-- Documentation is fetched before the conversation is found to have an unknown sender. -/
  | conversation {o} (passes : Check.first? q b (w.names w.drawn) Check.all = none)
      (agent : q.purpose = .agent)
      (sanitized : q.purpose.sanitize (w.names w.drawn) q.raw = .ok o)
      (fetched : ∃ url ∈ o.texts "documentationurls", Http.isCallable url = true)
      (unknown : Chat.HasUnknownSender o) : LateRefusal q b w
  /-- The backend is set up before the vector of the prompt is refused. -/
  | vector {route o text b₁ w₁ state state' flag' w₂ b₂}
      (admitted : Admitted q b w route o text b₁ w₁)
      (binding : route.connector.binding = .qdrant state) (unready : state ≠ .ready)
      (ensure : VectorStore.ensure route.connector.config state
        (b₁.flags.status VectorStore.flagKey) w₁ = .ok ((.ok (), state', flag'), w₂))
      (planned : b₂ =
        b₁.planned route.name { route.connector with binding := .qdrant state' } flag')
      (miss : b₂.settings.usesEmbeddingCache = true → b₂.vectors.get? text = none)
      (refused : EmbeddingRefused q.caller text b₂ w₂) : LateRefusal q b w
  /-- The answer is there, with a file in it, before the file name is found to hold a slash. -/
  | filename {route o text b₁ w₁ nested p c b₂ w₂ status body c' b₃ w₃ bytes}
      (admitted : Admitted q b w route o text b₁ w₁)
      (prepares : Prepares Embeds q.caller route text o b₁ w₁ nested (.ok p) c b₂ w₂)
      (submits : Submits route.name c p b₂ w₂ (.ok (.success status body)) c' b₃ w₃)
      (decoded : c'.decode body o = .ok (.file bytes))
      (slash : (Placement.ofOptions q.caller.user q.context o).filename.contains '/' = true) :
      LateRefusal q b w

variable {E : Embedding} {q : Request} {b b' : Broker} {w w' : World} {nested : Option Response}
  {r : Response} {route : Route} {o : Options} {text : String} {b₁ b₂ : Broker} {w₁ w₂ : World}

/-! ### The record only grows -/

/-- The embedder's calls are put on record. -/
def Embedding.Growing (E : Embedding) : Prop :=
  ∀ caller text b w nested v b' w', E caller text b w nested v b' w' →
    w.peer.calls <+: w'.peer.calls

theorem Admitted.grows (h : Admitted q b w route o text b' w') :
    w.peer.calls <+: w'.peer.calls :=
  grows_formatPrompt q.purpose q.prompt o w.drawName text w' h.formatted

theorem Prepares.grows (hE : E.Growing) {caller : Caller} {p : Outcome Http.Payload} {c : Connector}
    (h : Prepares E caller route text o b w nested p c b' w') :
    w.peer.calls <+: w'.peer.calls := by
  cases h with
  | ready plan => exact grows_plan _ _ _ _ _ _ _ plan
  | unplanned plan => exact grows_plan _ _ _ _ _ _ _ plan
  | embedded plan vector => exact (grows_plan _ _ _ _ _ _ _ plan).trans (hE _ _ _ _ _ _ _ _ vector)

theorem Submits.grows {name : String} {c c' : Connector} {p : Http.Payload} {d : Outcome Delivery}
    (h : Submits name c p b w d c' b' w') : w.peer.calls <+: w'.peer.calls := by
  cases h with
  | unsigned headers => exact grows_headers _ _ _ _ headers
  | sent headers send => exact (grows_headers _ _ _ _ headers).trans (grows_send _ _ _ _ _ _ send)

theorem Course.grows (hE : E.Growing) (h : Course E q b w nested r b' w') :
    w.peer.calls <+: w'.peer.calls := by
  cases h with
  | barred => exact List.prefix_refl _
  | refused => exact List.prefix_refl _
  | unprepared admitted prepares => exact admitted.grows.trans (prepares.grows hE)
  | unsigned admitted prepares submits =>
    exact (admitted.grows.trans (prepares.grows hE)).trans submits.grows
  | undelivered admitted prepares submits =>
    exact (admitted.grows.trans (prepares.grows hE)).trans submits.grows
  | answered admitted prepares submits =>
    exact (admitted.grows.trans (prepares.grows hE)).trans submits.grows

theorem noVector_growing : Embedding.Growing NoVector := by
  rintro caller text b w nested v b' w' ⟨-, -, -, rfl⟩
  exact List.prefix_refl _

theorem embeds_growing : Embedding.Growing Embeds := by
  intro caller text b w nested v b' w' h
  cases h with
  | known => exact List.prefix_refl _
  | asked _ course => exact course.grows noVector_growing

/-! ### Where a refusal can come from -/

theorem Admitted.passes (h : Admitted q b w route o text b' w') :
    Check.first? q b (w.names w.drawn) Check.all = none := by
  have checks := all_checks q b (w.names w.drawn)
  cases first : Check.first? q b (w.names w.drawn) Check.all with
  | none => rfl
  | some kf =>
    rw [first] at checks
    obtain ⟨b₁, -, gate | ⟨route', -, sanitized⟩⟩ := checks
    · cases h.gate.symm.trans gate
    · cases h.sanitized.symm.trans sanitized

theorem isRefusal_ofFailure {f : Failure} :
    (Response.ofFailure f).IsRefusal ↔ f.kind.IsRefusal := by
  constructor
  · rintro ⟨k, hk, h⟩
    cases hk
    exact h
  · exact fun h => ⟨f.kind, rfl, h⟩

/-- The kinds of failures that come once the payload is there. -/
def kindsAfter : List Failure.Kind :=
  [.internal, .transportError, .malformedResponse, .providerError]

theorem not_isRefusal_of_mem {k : Failure.Kind} (h : k ∈ kindsAfter) : ¬k.IsRefusal := by
  rintro (rfl | rfl) <;> revert h <;> decide

theorem not_isRefusal {α : Type} {x : Outcome α} {kinds : List Failure.Kind} {f : Failure}
    (h : x.FailsWith kinds) (hf : x = .error f) (hsub : kinds ⊆ kindsAfter) : ¬f.kind.IsRefusal :=
  not_isRefusal_of_mem (hsub (h f hf))

/-- A refusal comes from the checks, from the payload, or from the file name of a file. -/
inductive Refuses (E : Embedding) (q : Request) (b : Broker) (w : World)
    (nested : Option Response) (b' : Broker) (w' : World) : Prop
  | checked {k f} (first : Check.first? q b (w.names w.drawn) Check.all = some (k, f))
      (refusal : k.kind.IsRefusal) (quiet : w'.peer = w.peer) : Refuses E q b w nested b' w'
  | planned {route o text b₁ w₁ f c} (admitted : Admitted q b w route o text b₁ w₁)
      (prepares : Prepares E q.caller route text o b₁ w₁ nested (.error f) c b' w')
      (refusal : f.kind.IsRefusal) : Refuses E q b w nested b' w'
  | filed {route o text b₁ w₁ p c b₂ w₂ status body c' b₃ bytes}
      (admitted : Admitted q b w route o text b₁ w₁)
      (prepares : Prepares E q.caller route text o b₁ w₁ nested (.ok p) c b₂ w₂)
      (submits : Submits route.name c p b₂ w₂ (.ok (.success status body)) c' b₃ w')
      (decoded : c'.decode body o = .ok (.file bytes))
      (slash : (Placement.ofOptions q.caller.user q.context o).filename.contains '/' = true) :
      Refuses E q b w nested b' w'

theorem Submits.not_isRefusal {name : String} {c c' : Connector} {p : Http.Payload} {f : Failure}
    (h : Submits name c p b w (.error f) c' b' w') : ¬f.kind.IsRefusal := by
  cases h with
  | unsigned headers =>
    exact Broker.not_isRefusal (failsWith_headers c _ _ _ _ headers) rfl (by simp [kindsAfter])

theorem failureResponse_not_isRefusal (c : Connector) (code : UInt16) (message details : String)
    (body : Option String) : ¬(failureResponse c code message details body).IsRefusal := by
  rintro ⟨k, hk, h⟩
  refine not_isRefusal_of_mem ?_ h
  unfold failureResponse at hk
  cases hk
  split
  · simp [Failure.kind, kindsAfter]
  · simp [Failure.kind, kindsAfter]

/-- A request that a vector store serves names an action. -/
theorem Admitted.exists_action (h : Admitted q b w route o text b' w') {c : Connector}
    {state : BackendState} (binding : c.binding = .qdrant state)
    (serves : c.serves q.purpose = true) :
    ∃ action, RetrievalAction.ofOptions o = .ok action ∧
      (action = .store → ∃ id, (VectorStore.metadata o).get? "id" = some id) := by
  have sanitized := h.sanitized
  rw [Connector.purpose_of_vectorStore binding serves] at sanitized
  exact Purpose.sanitize_retrieval sanitized

theorem filename_ne_empty (user context : Int) (o : Options) :
    (Placement.ofOptions user context o).filename ≠ "" := by
  unfold Placement.ofOptions
  cases h : o.text? "filename" with
  | none => simp
  | some s =>
    have := (Option.filter_eq_some_iff.1 h).2
    simpa using this

theorem isFilename_eq_false_iff (user context : Int) (o : Options) :
    Files.isFilename (Placement.ofOptions user context o).filename = false ↔
      (Placement.ofOptions user context o).filename.contains '/' = true := by
  have := filename_ne_empty user context o
  simp [Files.isFilename, this]

/-- What the gate or the schema turns away, one of the checks turns away with the same failure. -/
theorem exists_first?_eq_some (fresh : Uuid) {f : Failure}
    (away : (b.gate q.purpose q.caller).1 = .error f ∨
      (∃ route, (b.gate q.purpose q.caller).1 = .ok route) ∧
        q.purpose.sanitize fresh q.raw = .error f) :
    ∃ k, Check.first? q b fresh Check.all = some (k, f) ∧ f.kind = k.kind := by
  have checks := all_checks q b fresh
  cases first : Check.first? q b fresh Check.all with
  | none =>
    rw [first] at checks
    obtain ⟨_, _, _, _, _, -, -, gate, sanitized, -⟩ := checks
    rw [gate, sanitized] at away
    rcases away with away | ⟨-, away⟩ <;> cases away
  | some kf =>
    have kind := Check.kind_of_failure? (Check.failure?_of_first? first)
    have same : kf.2 = f := by
      rw [first] at checks
      obtain ⟨b₁, -, gate | ⟨route, gate, sanitized⟩⟩ := checks
      · rw [gate] at away
        rcases away with away | ⟨⟨_, away⟩, -⟩ <;> cases away
        rfl
      · rw [gate, sanitized] at away
        rcases away with away | ⟨-, away⟩ <;> cases away
        rfl
    subst same
    exact ⟨kf.1, rfl, kind⟩

/-- A refusal of an answer comes from the name of the file in it. -/
theorem file_of_isRefusal {c : Connector} {body : ByteArray} {user context : Int}
    {files files' : Files}
    (action : ∀ state, c.binding = .qdrant state → ∃ a, RetrievalAction.ofOptions o = .ok a)
    (h : c.respond body o user context files = (r, files')) (refusal : r.IsRefusal) :
    ∃ bytes, c.decode body o = .ok (.file bytes) ∧
      (Placement.ofOptions user context o).filename.contains '/' = true := by
  unfold Connector.respond at h
  obtain ⟨k, hk, refusal⟩ := refusal
  cases decoded : c.decode body o with
  | error f =>
    rw [decoded] at h
    cases h
    cases hk
    exact absurd refusal (not_isRefusal (failsWith_decode c body action) decoded (by decide))
  | ok content =>
    rw [decoded] at h
    cases content with
    | text model usage t => cases h; cases hk
    | file bytes =>
      refine ⟨bytes, rfl, (isFilename_eq_false_iff user context o).1 ?_⟩
      cases name : Files.isFilename (Placement.ofOptions user context o).filename with
      | false => rfl
      | true =>
        unfold Content.deliver Files.put at h
        simp only [name, if_true] at h
        cases h
        cases hk

theorem Course.refuses (h : Course E q b w nested r b' w') (refusal : r.IsRefusal) :
    Refuses E q b w nested b' w' := by
  cases h with
  | barred gate =>
    obtain ⟨k, first, kind⟩ :=
      exists_first?_eq_some (w.names w.drawn) (.inl (congrArg Prod.fst gate))
    exact .checked first (kind ▸ isRefusal_ofFailure.1 refusal) rfl
  | refused gate sanitized =>
    obtain ⟨k, first, kind⟩ :=
      exists_first?_eq_some _ (.inr ⟨⟨_, congrArg Prod.fst gate⟩, sanitized⟩)
    exact .checked first (kind ▸ isRefusal_ofFailure.1 refusal) rfl
  | unprepared admitted prepares =>
    exact .planned admitted prepares (isRefusal_ofFailure.1 refusal)
  | unsigned admitted prepares submits =>
    exact absurd (isRefusal_ofFailure.1 refusal) submits.not_isRefusal
  | undelivered admitted prepares submits =>
    exact absurd refusal (failureResponse_not_isRefusal _ _ _ _ _)
  | @answered route o text b₁ w₁ nested p c b₂ w₂ status body c' b₃ w' r files admitted prepares
      submits decoded =>
    have refusal : r.IsRefusal := by cases r <;> exact refusal
    have serves := admitted.serves_of_submits prepares submits
    have action : ∀ state, c'.binding = .qdrant state →
        ∃ a, RetrievalAction.ofOptions o = .ok a := by
      intro state binding
      obtain ⟨action, ho, -⟩ := admitted.exists_action binding serves
      exact ⟨action, ho⟩
    obtain ⟨bytes, decoded, slash⟩ := file_of_isRefusal action decoded refusal
    exact .filed admitted prepares submits decoded slash

/-! ### Refused embeddings -/

theorem payload?_of_embedding {caller : Caller}
    (h : Admitted (.embedding caller text) b w route o t b' w') (t : String) :
    route.connector.payload? t o = some (Embedding.payload route.connector.config t) := by
  unfold Connector.payload?
  rw [Connector.binding_of_embedding (serves_of_gate h.gate)]

theorem check_of_embedding {caller : Caller} {fresh : Uuid} {k : Check} {f : Failure}
    (first : Check.first? (.embedding caller text) b fresh Check.all = some (k, f))
    (refusal : k.kind.IsRefusal) : k = .quota := by
  have fails := Check.failure?_of_first? first
  cases k with
  | quota => rfl
  | options =>
    have sanitized : (Request.embedding caller text).purpose.sanitize fresh
        (Request.embedding caller text).raw = .ok [] := Purpose.sanitize_embedding fresh
    simp [Check.failure?, sanitized] at fails
  | _ => rcases refusal with h | h <;> cases h

/-- An embedding request that is refused makes no call. -/
theorem Course.embeddingRefused {caller : Caller}
    (h : Course NoVector (.embedding caller text) b w none r b' w') (refusal : r.IsRefusal) :
    EmbeddingRefused caller text b w ∧ w'.peer = w.peer := by
  unfold EmbeddingRefused
  cases h.refuses refusal with
  | checked first refusal quiet =>
    rw [first]
    exact ⟨check_of_embedding first refusal, quiet⟩
  | @planned route o t b₁ w₁ f c admitted prepares refusal =>
    rw [admitted.passes]
    obtain ⟨rfl, rfl⟩ := Run.pure_eq_ok.1 admitted.formatted
    have plan := Connector.plan_of_payload (b₁.flags.status VectorStore.flagKey)
      (payload?_of_embedding admitted (Request.embedding caller text).prompt)
    generalize hf : Except.error f = p at prepares
    cases prepares with
    | ready => cases hf
    | unplanned planned =>
      rw [plan] at planned
      obtain ⟨hp, rfl⟩ := Run.pure_eq_ok.1 planned
      refine ⟨?_, rfl⟩
      cases blank : Text.isAllBlank text with
      | true => rfl
      | false =>
        rw [Embedding.payload, Request.embedding, blank] at hp
        cases hp
    | embedded planned =>
      rw [plan] at planned
      have hp := (Run.pure_eq_ok.1 planned).1
      unfold Embedding.payload at hp
      split at hp <;> cases hp
  | filed admitted prepares submits decoded slash =>
    have serves := admitted.serves_of_submits prepares submits
    exact absurd decoded
      (Connector.decode_ne_file (.inr (Connector.binding_of_embedding serves)) _ _ _)

/-! ### Refused payloads -/

/-- Only an agent's prompt needs the network. -/
theorem world_of_formatPrompt {p : Purpose} {prompt : String} (h : p ≠ .agent)
    (formatted : p.formatPrompt prompt o w = .ok (text, w')) : w' = w := by
  unfold Purpose.formatPrompt at formatted
  cases p with
  | agent => exact absurd rfl h
  | translate =>
    dsimp only at formatted
    cases language : o.text? "targetlanguage" with
    | none => rw [language] at formatted; exact (Run.pure_eq_ok.1 formatted).2.symm
    | some l => rw [language] at formatted; exact (Run.pure_eq_ok.1 formatted).2.symm
  | _ => exact (Run.pure_eq_ok.1 formatted).2.symm

theorem formatPrompt_agent_eq_ok {prompt : String} :
    Purpose.agent.formatPrompt prompt o w = .ok (text, w') ↔
      ∃ pages, Page.fetchAll (o.texts "documentationurls") w = .ok (pages, w') ∧
        Agent.prompt prompt o pages = text := by
  show (Page.fetchAll _ >>= fun pages => pure (Agent.prompt prompt o pages)) w = _ ↔ _
  rw [Run.bind_eq_ok]
  constructor
  · rintro ⟨pages, w₁, hpages, h⟩
    obtain ⟨rfl, rfl⟩ := Run.pure_eq_ok.1 h
    exact ⟨pages, hpages, rfl⟩
  · rintro ⟨pages, hpages, rfl⟩
    exact ⟨pages, w', hpages, rfl⟩

theorem hasUnknownSender_of_payload {i : Instance} {f : Failure} (noImage : o.get? "image" = none)
    (h : Chat.payload i text o = .error f) : Chat.HasUnknownSender o := by
  unfold Chat.payload Chat.messages at h
  cases entries : o.items? "conversationcontext" with
  | none => simp [entries, noImage, Except.map] at h
  | some entries' =>
    refine ⟨entries', entries, ?_⟩
    cases hm : entries'.mapM Chat.earlierMessage with
    | ok ms => simp [entries, hm, Except.map] at h
    | error e =>
      obtain ⟨entry, hentry, he⟩ := Outcome.exists_of_mapM_eq_error hm
      refine ⟨entry, hentry, ?_⟩
      unfold Chat.earlierMessage at he
      dsimp only at he
      split at he
      · cases he
      · next role => exact role

theorem payload_of_hasUnknownSender (h : Chat.HasUnknownSender o) (i : Instance) (text : String) :
    ∃ f, Chat.payload i text o = .error f ∧ f.kind = .invalidParameter := by
  obtain ⟨entries, hentries, entry, hentry, role⟩ := h
  have unknown : ∃ e, Chat.earlierMessage entry = .error e := by
    unfold Chat.earlierMessage
    simp [role]
  obtain ⟨e, he⟩ := unknown
  obtain ⟨f, hf⟩ := Outcome.exists_mapM_eq_error hentry he
  refine ⟨f, ?_, ?_⟩
  · unfold Chat.payload Chat.messages
    simp [hentries, hf, Except.map]
  · obtain ⟨entry', -, hf⟩ := Outcome.exists_of_mapM_eq_error hf
    unfold Chat.earlierMessage at hf
    dsimp only at hf
    split at hf
    · cases hf
    · cases hf; rfl

/-- A payload that is refused after a call is that of an agent's conversation. -/
theorem Admitted.conversation (h : Admitted q b w route o text b' w') {f : Failure}
    (payload : route.connector.payload? text o = some (.error f))
    (calls : w'.peer.calls ≠ w.peer.calls) : LateRefusal q b w := by
  by_cases agent : q.purpose = .agent
  · have sanitized := h.sanitized
    have formatted := h.formatted
    have serves := serves_of_gate h.gate
    rw [agent] at sanitized formatted serves
    refine .conversation h.passes agent h.sanitized ?_ ?_
    · refine Classical.byContradiction fun none => calls ?_
      have uncallable : ∀ url ∈ o.texts "documentationurls", Http.isCallable url = false := by
        intro url hu
        cases callable : Http.isCallable url with
        | false => rfl
        | true => exact absurd ⟨url, hu, callable⟩ none
      obtain ⟨pages, fetched, -⟩ := formatPrompt_agent_eq_ok.1 formatted
      rw [fetchAll_of_uncallable uncallable] at fetched
      cases fetched
      rfl
    · have noImage : o.get? "image" = none :=
        get?_of_validate (Purpose.sanitize_agent sanitized) (by decide)
      unfold Connector.payload? at payload
      rw [Connector.binding_of_agent serves] at payload
      exact hasUnknownSender_of_payload noImage (Option.some.inj payload)
  · refine absurd ?_ calls
    rw [world_of_formatPrompt agent h.formatted]
    rfl

/-! ### Refused vectors -/

theorem isRefusal_embeddingFailure {c : Configuration} {role : Role} {kind : Failure.Kind}
    {code : UInt16} {details : String} :
    (embeddingFailure c role kind code details).kind.IsRefusal ↔ kind.IsRefusal := by
  cases kind <;> simp [embeddingFailure, Failure.kind, Failure.Kind.IsRefusal]

/-- A vector is refused if the embedding request is, and not otherwise. -/
theorem isRefusal_of_vectorOf {c : Configuration} {role : Role} {f : Failure}
    (h : vectorOf c role r = .error f) (refusal : f.kind.IsRefusal) : r.IsRefusal := by
  cases r with
  | success model usage content =>
    exact absurd refusal (not_isRefusal (failsWith_readVector content) h (by decide))
  | failure code message details kind =>
    cases h
    exact ⟨kind, rfl, isRefusal_embeddingFailure.1 refusal⟩

theorem vectorOf_of_isRefusal (h : r.IsRefusal) (c : Configuration) (role : Role) :
    ∃ f, vectorOf c role r = .error f ∧ f.kind.IsRefusal := by
  obtain ⟨k, hk, refusal⟩ := h
  cases r with
  | success => cases hk
  | failure code message details kind =>
    cases hk
    exact ⟨_, rfl, isRefusal_embeddingFailure.2 refusal⟩

/-- What a sanitized retrieval waits for, its payload cannot be refused any more. -/
theorem Admitted.awaited_eq (h : Admitted q b w route o text b' w') {state : BackendState}
    (binding : route.connector.binding = .qdrant state) (i : Instance) (text : String) :
    ∃ finish, Connector.awaited i text o = .ok (.awaiting finish) ∧
      ∀ vector, ∃ p, finish vector = .ok p := by
  obtain ⟨action, ho, hasId⟩ := h.exists_action binding (serves_of_gate h.gate)
  refine ⟨VectorStore.payload i action text o, by rw [Connector.awaited, ho]; rfl, ?_⟩
  intro vector
  cases action with
  | retrieve => exact ⟨_, rfl⟩
  | store =>
    obtain ⟨id, hid⟩ := hasId rfl
    unfold VectorStore.payload
    simp [hid]

theorem world_of_ready {i : Instance} {flag flag' : SetupStatus} {state' : BackendState}
    {x : Outcome Unit} (h : VectorStore.ensure i .ready flag w = .ok ((x, state', flag'), w')) :
    w' = w := by
  cases flag with
  | failed code => exact (Run.pure_eq_ok.1 h).2.symm
  | ok => exact (Run.pure_eq_ok.1 h).2.symm

/-- A refused vector. -/
theorem Admitted.vector (admitted : Admitted q b w route o text b₁ w₁) {f : Failure}
    {state state' : BackendState} {flag' : SetupStatus} {v : Outcome (List Float32)}
    {finish : List Float32 → Outcome Http.Payload}
    (binding : route.connector.binding = .qdrant state)
    (ensure : VectorStore.ensure route.connector.config state
      (b₁.flags.status VectorStore.flagKey) w₁ = .ok ((.ok (), state', flag'), w₂))
    (total : ∀ vector, ∃ p, finish vector = .ok p)
    (vector : Embeds q.caller text
      (b₁.planned route.name { route.connector with binding := .qdrant state' } flag') w₂ nested v
      b' w')
    (hf : v.bind finish = .error f) (refusal : f.kind.IsRefusal)
    (calls : w'.peer.calls ≠ w.peer.calls) : LateRefusal q b w := by
  have retrieval := Connector.purpose_of_vectorStore binding (serves_of_gate admitted.gate)
  have formatted : w₁ = w.drawName := by
    refine world_of_formatPrompt ?_ admitted.formatted
    rw [retrieval]
    decide
  have refused : v = .error f := by
    cases v with
    | error e => cases hf; rfl
    | ok xs =>
      obtain ⟨p, hp⟩ := total xs
      cases hf.symm.trans hp
  cases vector with
  | known => cases refused
  | asked miss course =>
    obtain ⟨embedding, quiet⟩ := course.embeddingRefused (isRefusal_of_vectorOf refused refusal)
    refine .vector admitted binding ?_ ensure rfl miss embedding
    rintro rfl
    refine calls ?_
    rw [quiet, world_of_ready ensure, formatted]
    rfl

/-- A payload that is refused after a call is that of an agent, or waits for a vector. -/
theorem Admitted.late (admitted : Admitted q b w route o text b₁ w₁) {f : Failure} {c : Connector}
    (prepares : Prepares Embeds q.caller route text o b₁ w₁ nested (.error f) c b' w')
    (refusal : f.kind.IsRefusal) (calls : w'.peer.calls ≠ w.peer.calls) : LateRefusal q b w := by
  generalize hf : Except.error f = p at prepares
  cases prepares with
  | ready => cases hf
  | unplanned plan =>
    cases hf
    have plans := Connector.plan_eq_ok.1 plan
    generalize hx : Except.error f = x at plans
    cases plans with
    | @direct p payload =>
      cases p with
      | ok p => cases hx
      | error e =>
        cases hx
        exact admitted.conversation payload calls
    | @setUp state outcome state' flag' w' binding ensure =>
      obtain ⟨finish, awaited, -⟩ := admitted.awaited_eq binding route.connector.config text
      cases outcome with
      | error e =>
        cases hx
        refine absurd refusal (not_isRefusal (failsWith_ensure _ _ _ _ _ _ _ ensure) rfl ?_)
        decide
      | ok =>
        change _ = Connector.awaited _ _ _ at hx
        rw [awaited] at hx
        cases hx
  | @embedded finish c flag w₂ nested v b' w' plan vector =>
    have plans := Connector.plan_eq_ok.1 plan
    generalize hx : Except.ok (Plan.awaiting finish) = x at plans
    cases plans with
    | @direct p payload => cases p <;> cases hx
    | @setUp state outcome state' flag' w' binding ensure =>
      obtain ⟨finish', awaited, total⟩ := admitted.awaited_eq binding route.connector.config text
      cases outcome with
      | error e => cases hx
      | ok =>
        change _ = Connector.awaited _ _ _ at hx
        rw [awaited] at hx
        cases hx
        exact admitted.vector binding ensure total vector hf.symm refusal calls

/-! ### Late refusals happen -/

theorem EmbeddingRefused.exists_course {caller : Caller} (h : EmbeddingRefused caller text b w) :
    ∃ r b' w', Course NoVector (.embedding caller text) b w none r b' w' ∧ r.IsRefusal ∧
      w'.peer = w.peer := by
  unfold EmbeddingRefused at h
  have checks := all_checks (.embedding caller text) b (w.names w.drawn)
  cases first : Check.first? (.embedding caller text) b (w.names w.drawn) Check.all with
  | some kf =>
    rw [first] at h checks
    have refusal : (Response.ofFailure kf.2).IsRefusal := by
      have kind := Check.kind_of_failure? (Check.failure?_of_first? first)
      rw [isRefusal_ofFailure, kind, h]
      exact .inr rfl
    obtain ⟨b', -, gate | ⟨route, gate, sanitized⟩⟩ := checks
    · exact ⟨_, b', w, .barred gate, refusal, rfl⟩
    · exact ⟨_, b', w.drawName, .refused gate sanitized, refusal, rfl⟩
  | none =>
    rw [first] at h checks
    obtain ⟨name, i, c, o, b', -, -, gate, sanitized, -⟩ := checks
    have admitted : Admitted (.embedding caller text) b w ⟨name, c⟩ o text b' w.drawName :=
      ⟨gate, sanitized, rfl⟩
    have payload : c.payload? text o =
        some (.error (.invalidParameter "prompt" "cannot embed empty text")) := by
      rw [payload?_of_embedding admitted]
      exact congrArg some (if_pos h)
    have plan := congrFun
      (Connector.plan_of_payload (b'.flags.status VectorStore.flagKey) payload) w.drawName
    exact ⟨_, _, _, .unprepared admitted (.unplanned plan),
      isRefusal_ofFailure.2 (.inl rfl), rfl⟩

theorem respond_of_slash {c : Connector} {body bytes : ByteArray} {user context : Int}
    (files : Files) (decoded : c.decode body o = .ok (.file bytes))
    (slash : (Placement.ofOptions user context o).filename.contains '/' = true) :
    ∃ f : Failure, c.respond body o user context files = (.ofFailure f, files) ∧
      f.kind = .invalidParameter := by
  have name := (isFilename_eq_false_iff user context o).2 slash
  refine ⟨.invalidParameter "filename" "a plain, non-empty file name is required", ?_, rfl⟩
  unfold Connector.respond
  rw [decoded]
  unfold Content.deliver Files.put
  simp only [name, Bool.false_eq_true, if_false]

theorem Submits.callsMore {name : String} {c c' : Connector} {p : Http.Payload} {status : UInt16}
    {body : ByteArray} (h : Submits name c p b w (.ok (.success status body)) c' b' w') :
    w.CallsMore w' := by
  cases h with
  | sent headers send =>
    exact (callsMore_of_send send).preceded (grows_headers _ _ _ _ headers)

theorem LateRefusal.exists_course (h : LateRefusal q b w) :
    ∃ nested r b' w', Course Embeds q b w nested r b' w' ∧ r.IsRefusal ∧ w.CallsMore w' := by
  cases h with
  | @conversation o passes agent sanitized fetched unknown =>
    have checks := all_checks q b (w.names w.drawn)
    rw [passes] at checks
    obtain ⟨name, i, c, o', b', -, -, gate, sanitized', -⟩ := checks
    cases sanitized.symm.trans sanitized'
    obtain ⟨pages, w₁, hpages⟩ := exists_fetchAll (o.texts "documentationurls") w.drawName
    have formatted : q.purpose.formatPrompt q.prompt o w.drawName =
        .ok (Agent.prompt q.prompt o pages, w₁) := by
      rw [agent]
      exact formatPrompt_agent_eq_ok.2 ⟨pages, hpages, rfl⟩
    have admitted : Admitted q b w ⟨name, c⟩ o (Agent.prompt q.prompt o pages) b' w₁ :=
      ⟨gate, sanitized, formatted⟩
    have serves := serves_of_gate gate
    rw [agent] at serves
    obtain ⟨f, hf, kind⟩ := payload_of_hasUnknownSender unknown c.config
      (Agent.prompt q.prompt o pages)
    have payload : c.payload? (Agent.prompt q.prompt o pages) o = some (.error f) := by
      unfold Connector.payload?
      rw [Connector.binding_of_agent serves, ← hf]
    have plan :=
      congrFun (Connector.plan_of_payload (b'.flags.status VectorStore.flagKey) payload) w₁
    have more : w.drawName.CallsMore w₁ := callsMore_of_fetchAll fetched hpages
    exact ⟨none, _, _, w₁, .unprepared admitted (.unplanned plan),
      isRefusal_ofFailure.2 (kind ▸ .inl rfl), more⟩
  | @vector route o text b₁ w₁ state state' flag' w₂ b₂ admitted binding unready ensure planned miss
      refused =>
    obtain ⟨r, b', w', course, refusal, quiet⟩ := refused.exists_course
    obtain ⟨f, hf, kind⟩ := vectorOf_of_isRefusal refusal b'.config q.caller.role
    obtain ⟨finish, awaited, -⟩ := admitted.awaited_eq binding route.connector.config text
    have plans : Connector.Plans route.connector _ text o w₁
        (Connector.awaited route.connector.config text o) _ flag' w₂ := .setUp binding ensure
    rw [awaited] at plans
    subst planned
    have vector := Embeds.asked miss course
    rw [hf] at vector
    refine ⟨some r, _, _, w',
      .unprepared admitted (.embedded (Connector.plan_eq_ok.2 plans) vector),
      isRefusal_ofFailure.2 kind, ?_⟩
    unfold World.CallsMore
    rw [quiet]
    exact (callsMore_of_ensure unready ensure).preceded admitted.grows
  | @filename route o text b₁ w₁ nested p c b₂ w₂ status body c' b₃ w₃ bytes admitted prepares
      submits decoded slash =>
    obtain ⟨f, responded, kind⟩ := respond_of_slash b₃.files decoded slash
    refine ⟨nested, _, _, w₃, .answered admitted prepares submits responded, ?_, ?_⟩
    · exact isRefusal_ofFailure.2 (kind ▸ .inl rfl)
    · exact submits.callsMore.preceded (admitted.grows.trans (prepares.grows embeds_growing))

/-- A refusal comes without a call, unless it is a late one. -/
theorem calls_eq_of_refusal_iff (q : Request) (b : Broker) (w : World) :
    (∀ r b' w', q.make b w = .ok ((r, b'), w') → r.IsRefusal → w'.peer.calls = w.peer.calls) ↔
      ¬LateRefusal q b w := by
  constructor
  · intro quiet late
    obtain ⟨nested, r, b', w', course, refusal, more⟩ := late.exists_course
    exact more.ne (quiet r b' w' (make_eq_ok_iff.2 ⟨nested, course⟩) refusal)
  · intro prompt r b' w' made refusal
    obtain ⟨nested, course⟩ := make_eq_ok_iff.1 made
    refine Classical.byContradiction fun calls => prompt ?_
    cases course.refuses refusal with
    | checked first refusal quiet => exact absurd (congrArg Http.Peer.calls quiet) calls
    | planned admitted prepares refusal => exact admitted.late prepares refusal calls
    | filed admitted prepares submits decoded slash =>
      exact .filename admitted prepares submits decoded slash

/-- A request to an agent, with a page to read and a conversation nobody can have had. -/
def Sample.strangersConversation : Request where
  caller := Sample.caller
  purpose := .agent
  prompt := "Hello"
  context := 1
  raw :=
    [("conversationcontext",
        .array [.object [("message", .string "Hi"), ("sender", .string "robot")]]),
      ("documentationurls", .array [.string "http://[::1]/"])]

/-- Not every refusal comes without a call: the page is asked for, then the sender is unknown. -/
theorem not_calls_eq_of_isRefusal :
    ¬∀ (q : Request) (b : Broker) (w : World) r b' w', q.make b w = .ok ((r, b'), w') →
      r.IsRefusal → w'.peer.calls = w.peer.calls := by
  intro quiet
  have late : (Sample.strangersConversation.make (Sample.broker 1) (Sample.world [])).toOption.map
      (fun s => (s.1.1.kind?, s.2.peer.calls.length)) = some (some .invalidParameter, 1) := by
    decide +kernel
  cases made : Sample.strangersConversation.make (Sample.broker 1) (Sample.world []) with
  | error e => rw [made] at late; cases late
  | ok s =>
    obtain ⟨⟨r, b'⟩, w'⟩ := s
    rw [made] at late
    obtain ⟨kind, calls⟩ := Prod.mk.inj (Option.some.inj late)
    have same := quiet _ _ _ _ _ _ made ⟨_, kind, .inl rfl⟩
    cases calls.symm.trans (congrArg List.length same)

end Broker

end PromptBroker
