import PromptBroker.Proofs.Request.Budget
import PromptBroker.Proofs.Request.KnownVectors
import PromptBroker.Proofs.Request.Wording
import PromptBroker.Proofs.VectorStore.Latch
import PromptBroker.Proofs.Vectors

/-!
# Requests that wait for a vector

A retrieval whose text is not known yet waits for a vector: the broker makes an embedding
request for the text, and goes on with what comes of it (`Waits`). If that is a failure,
it is one failure turned into a response, back into a failure and into a response again.
What a caller has to tell apart survives all of this: the kind and the code are those of
the embedding request, only that an instance that is switched off is an internal matter of
the retrieval (`Surfaces`).
-/

namespace PromptBroker

open Failure (Kind)

/-! ### Codes -/

/-- The code belongs to the kind. An error of a provider comes with the status of its answer. -/
def Failure.Kind.Fits : Kind → UInt16 → Prop
  | .notConfigured, code => code = 404
  | .disabled, code => code = 403
  | .invalidParameter, code => code = 400
  | .quotaExceeded, code => code = 429
  | .transportError, code => code = 500
  | .providerError, _ => True
  | .malformedResponse, code => code = 502
  | .internal, code => code = 500

/-- Only an upload that is too large has a code of its own. -/
theorem Failure.fits_of_kind {f : Failure} (valid : f.kind ≠ .invalidParameter) :
    f.kind.Fits f.code := by
  cases f with
  | invalidParameter | payloadTooLarge => exact absurd rfl valid
  | providerError => trivial
  | _ => rfl

/-- The kind in which a failure of the embedding request reaches the caller. -/
def Failure.Kind.surfaced : Kind → Kind
  | .disabled => .internal
  | kind => kind

/-- The code in which it does. -/
def Failure.Kind.surfacedCode (kind : Kind) (code : UInt16) : UInt16 :=
  if kind = .disabled then 500 else code

namespace Broker

variable {q : Request} {b b' b₁ b₂ b₃ : Broker} {w w' w₁ w₂ w₃ : World} {route : Route}
  {o : Options} {text : String} {r nested : Response} {c : Connector} {caller : Caller}
  {E : Embedding} {action : RetrievalAction} {config : Configuration} {role : Role}
  {kind : Kind} {code : UInt16} {message details : String} {f : Failure}

/-- The response reports a failure of the embedding request. -/
structure Surfaces (config : Configuration) (role : Role) (kind : Kind) (code : UInt16)
    (r : Response) : Prop where
  kind_eq : r.kind? = some kind.surfaced
  code_eq : r.code? = some (kind.surfacedCode code)
  /-- An exhausted quota is that of embeddings. -/
  quota : kind = .quotaExceeded →
    r = .ofFailure (.quotaExceeded Purpose.embedding.name (config.limit .embedding role).toNat)

theorem surfaces_embeddingFailure (fits : kind.Fits code) :
    Surfaces config role kind code
      (.ofFailure (embeddingFailure config role kind code details)) := by
  cases kind with
  | quotaExceeded => exact ⟨rfl, congrArg some fits.symm, fun _ => rfl⟩
  | disabled | providerError => exact ⟨rfl, rfl, nofun⟩
  | _ => exact ⟨rfl, congrArg some fits.symm, nofun⟩

theorem fits_of_failureResponse {status : UInt16} {said about : String} {body : Option String}
    (failed : failureResponse c status said about body = .failure code message details kind) :
    kind.Fits code := by
  obtain ⟨rfl, -, -, rfl⟩ := Response.failure.inj failed
  split
  · rfl
  · trivial

/-- A failure that is not blamed on the parameters has the code of its kind. -/
theorem Course.fits {nested : Option Response}
    (course : Course E q b w nested (.failure code message details kind) b' w')
    (valid : kind ≠ .invalidParameter) : kind.Fits code := by
  have fits {f : Failure} (failed : Response.ofFailure f = .failure code message details kind) :
      kind.Fits code := by
    obtain ⟨rfl, -, -, rfl⟩ := Response.failure.inj failed
    exact Failure.fits_of_kind valid
  generalize failed : Response.failure code message details kind = r at course
  cases course with
  | barred | refused | unprepared | unsigned => exact fits failed.symm
  | undelivered => exact fits_of_failureResponse failed.symm
  | @answered _ _ _ _ _ _ _ _ _ _ _ _ _ _ _ r _ _ _ _ responded =>
    cases r with
    | success => cases failed
    | failure =>
      obtain ⟨f, cause, -⟩ := failure_of_respond responded rfl
      exact fits (cause.symm.trans failed.symm)

/-- What an embedding request is blamed for is that its text is blank, never its size. -/
theorem Course.fits_of_embedding
    (course : Course NoVector (.embedding caller text) b w none
      (.failure code message details kind) b' w') : kind.Fits code := by
  by_cases invalid : kind = .invalidParameter
  · subst invalid
    obtain ⟨f, cause, -, blames⟩ := course.blames rfl
    obtain rfl := blames.eq_blankText
    cases cause
    rfl
  · exact course.fits invalid

/-! ### Waiting -/

/-- A request waits for the vector of its text, which is not known: it is asked for from this
broker, in this world. -/
inductive Waits (q : Request) (b : Broker) (w : World) :
    Route → RetrievalAction → Options → String → Connector → Broker → World → Prop
  | intro {route o text b₁ w₁ action c flag w₂} (admitted : Admitted q b w route o text b₁ w₁)
      (plan : route.connector.plan (b₁.flags.status VectorStore.flagKey) text o w₁ =
        .ok ((.ok (.awaiting (VectorStore.payload route.connector.config action text o)), c, flag),
          w₂))
      (unknown : (b₁.planned route.name c flag).settings.usesEmbeddingCache = true →
        (b₁.planned route.name c flag).vectors.get? text = none) :
      Waits q b w route action o text c (b₁.planned route.name c flag) w₂

/-- The embedding request for the text ends in this response. -/
def Embedded (caller : Caller) (text : String) (b : Broker) (w : World) (r : Response) (b' : Broker)
    (w' : World) : Prop :=
  (Request.embedding caller text).run noVector b w = .ok ((r, b'), w')

theorem embedded_iff : Embedded caller text b w r b' w' ↔
    Course NoVector (.embedding caller text) b w none r b' w' := by
  rw [Embedded, run_eq_ok_iff noVector_describes]
  constructor
  · rintro ⟨nested, course⟩
    obtain rfl := course.nested_eq_none
    exact course
  · exact fun course => ⟨none, course⟩

/-- A payload for which an embedding request is made is one that has been waited for. -/
theorem Prepares.exists_waits {p : Outcome Http.Payload}
    (admitted : Admitted q b w route o text b₁ w₁)
    (prepares : Prepares Embeds q.caller route text o b₁ w₁ (some nested) p c b' w') :
    ∃ action b₂ w₂ b₃, Waits q b w route action o text c b₂ w₂ ∧
      Embedded q.caller text b₂ w₂ nested b₃ w' := by
  cases prepares with
  | @embedded finish c flag w₂ _ v b' w' plan vector =>
    cases vector with
    | asked unknown course =>
      have awaited := Connector.plan_eq_ok.1 plan
      generalize hx : Except.ok (Plan.awaiting finish) = x at awaited
      cases awaited with
      | @direct p payload => cases p <;> cases hx
      | setUp binding ensure =>
        obtain ⟨⟨⟩, rfl, settled⟩ := Outcome.bind_eq_ok.1 hx.symm
        unfold Connector.awaited at settled
        cases chosen : RetrievalAction.ofOptions o with
        | error f => rw [chosen] at settled; cases settled
        | ok action =>
          rw [chosen] at settled
          cases settled
          exact ⟨action, _, _, _, .intro admitted plan unknown, embedded_iff.2 course⟩

/-- Every request that makes an embedding request on the way is one that waits. -/
theorem Course.exists_waits (course : Course Embeds q b w (some nested) r b' w') :
    ∃ route action o text c b₂ w₂ b₃ w₃, Waits q b w route action o text c b₂ w₂ ∧
      Embedded q.caller text b₂ w₂ nested b₃ w₃ := by
  cases course with
  | unprepared admitted prepares | unsigned admitted prepares | undelivered admitted prepares
  | answered admitted prepares =>
    obtain ⟨action, b₂, w₂, b₃, waits, embedded⟩ := prepares.exists_waits admitted
    exact ⟨_, action, _, _, _, b₂, w₂, b₃, _, waits, embedded⟩

/-! ### What comes of it -/

namespace Waits

variable (waits : Waits q b w route action o text c b₂ w₂)
  (embedded : Embedded q.caller text b₂ w₂ nested b₃ w₃)

include waits

theorem purpose : q.purpose = .retrieval := by
  cases waits with
  | intro admitted plan =>
    obtain ⟨state, binding⟩ := (Connector.plan_eq_ok.1 plan).binding_of_awaiting
    exact Connector.purpose_of_vectorStore binding (serves_of_gate admitted.gate)

include embedded

/-- Up to the response to the embedding request, the backend is set up and the vector asked for. -/
theorem within : route.connector.Within text o [.listing, .creation, .vector] w w₃ := by
  have retrieval := waits.purpose
  cases waits with
  | intro admitted plan unknown =>
    have prepares := Prepares.embedded plan (Embeds.asked unknown (embedded_iff.1 embedded))
    obtain ⟨state, binding⟩ := prepares.binding_of_nested
    have store : route.connector.provider = .qdrant := by rw [Connector.provider, binding]; rfl
    have prepared := prepares.within embeds_spends
    rw [store, world_of_formatPrompt (by rw [retrieval]; decide) admitted.formatted] at prepared
    have fresh : route.connector.Within text o [] w w.drawName := Connector.within_of_idle rfl
    exact fresh.trans prepared

/-- Without a vector the request ends at once. -/
theorem course_of_error (failed : vectorOf b₃.config q.caller.role nested = .error f) :
    Course Embeds q b w (some nested) (.ofFailure f) b₃ w₃ := by
  cases waits with
  | intro admitted plan unknown =>
    have vector := Embeds.asked unknown (embedded_iff.1 embedded)
    rw [failed] at vector
    exact .unprepared admitted (.embedded plan vector)

end Waits

/-- A request that ends without a vector: the backend may have been set up and the vector asked for,
but no points, and no account has grown but that of the caller for embeddings. -/
structure Unserved (q : Request) (b : Broker) (w : World) (route : Route) (o : Options)
    (text : String) (b' : Broker) (w' : World) : Prop where
  calls : route.connector.Within text o [.listing, .creation, .vector] w w'
  accounts : ∀ user p, p ≠ .embedding → b'.ledger.entry user p = b.ledger.entry user p

theorem Waits.unserved (waits : Waits q b w route action o text c b₂ w₂)
    (embedded : Embedded q.caller text b₂ w₂ nested b₃ w₃)
    (failed : vectorOf b₃.config q.caller.role nested = .error f) :
    Unserved q b w route o text b₃ w₃ := by
  have settled := (waits.course_of_error embedded failed).settled
  refine ⟨waits.within embedded, fun user p other => ?_⟩
  by_cases own : user = q.caller.user ∧ p = q.purpose
  · obtain ⟨rfl, rfl⟩ := own
    exact settled.failure rfl
  · exact settled.others user p own fun embedding => other embedding.2.1

/-- A failed embedding request leaves all accounts and the configuration as they are. -/
theorem Waits.charges_nothing (waits : Waits q b w route action o text c b₂ w₂)
    (embedded : Embedded q.caller text b₂ w₂ (.failure code message details kind) b₃ w₃) :
    b₃.config = b.config ∧ b₃.ledger = b.ledger := by
  have charges := (waits.course_of_error embedded rfl).charges embeds_charging
  exact ⟨charges.config, charges.charged.eq_of_nil⟩

/-- What becomes of a request whose embedding request has ended in a response without a vector, and
in this world. -/
structure Faithful (q : Request) (b : Broker) (w : World) (route : Route) (o : Options)
    (text : String) (nested : Response) (b' : Broker) (w' : World) : Prop where
  /-- A failure is reported as it is, and no account has grown. -/
  failure : ∀ code message details kind, nested = .failure code message details kind →
    ∃ r, q.make b w = .ok ((r, b'), w') ∧ Surfaces b.config q.caller.role kind code r ∧
      b'.ledger = b.ledger ∧ Unserved q b w route o text b' w'
  /-- A vector without entries is as good as none. -/
  empty : ∀ model usage, nested = .success model usage (Embedding.join []) →
    ∃ f, q.make b w = .ok ((.ofFailure f, b'), w') ∧ f.kind = .malformedResponse ∧ f.code = 502 ∧
      Unserved q b w route o text b' w'

theorem Waits.faithful (waits : Waits q b w route action o text c b₂ w₂)
    (embedded : Embedded q.caller text b₂ w₂ nested b₃ w₃) :
    Faithful q b w route o text nested b₃ w₃ where
  failure := by
    rintro code message details kind rfl
    obtain ⟨config, ledger⟩ := waits.charges_nothing embedded
    refine ⟨_, make_eq_ok_iff.2 ⟨_, waits.course_of_error embedded rfl⟩, ?_, ledger,
      waits.unserved embedded rfl⟩
    rw [config]
    exact surfaces_embeddingFailure (embedded_iff.1 embedded).fits_of_embedding
  empty := by
    rintro model usage rfl
    have read : vectorOf b₃.config q.caller.role (.success model usage (Embedding.join [])) =
        .error (.malformedResponse "embedding is empty") := Embedding.readVector_join_nil
    exact ⟨_, make_eq_ok_iff.2 ⟨_, waits.course_of_error embedded read⟩, rfl, rfl,
      waits.unserved embedded read⟩

/-- Failures of embedding requests surface faithfully. A request that makes an embedding request on
the way has waited for its vector; and whenever a request waits, and the embedding request ends in a
failure or without an entry in its vector, it returns at that point, with this failure or with the
one of an unusable answer. The second happens when an answer has an empty list of numbers. -/
theorem embedding_faithful (q : Request) (b : Broker) (w : World) :
    (∀ nested r b' w', Course Embeds q b w (some nested) r b' w' →
      ∃ route action o text c b₂ w₂ b₃ w₃, Waits q b w route action o text c b₂ w₂ ∧
        Embedded q.caller text b₂ w₂ nested b₃ w₃) ∧
    (∀ route action o text c b₂ w₂ nested b₃ w₃, Waits q b w route action o text c b₂ w₂ →
      Embedded q.caller text b₂ w₂ nested b₃ w₃ →
        q.purpose = .retrieval ∧ Faithful q b w route o text nested b₃ w₃) ∧
    ∀ i body v, Json.readBytes body = .ok v →
      v.at? [.key "data", .item 0, .key "embedding"] = some (.array []) →
        ∃ model usage, Embedding.decode i body = .ok (.text model usage (Embedding.join [])) :=
  ⟨fun _ _ _ _ course => course.exists_waits,
    fun _ _ _ _ _ _ _ _ _ _ waits embedded => ⟨waits.purpose, waits.faithful embedded⟩,
    fun _ _ _ read found => @Embedding.decode_of_numbers _ _ _ [] read found⟩

namespace Sample

/-- The vector store is set up. -/
def shelves : Connector := ⟨VectorStore.store, .qdrant .ready⟩

/-- The caller has had a vector already. -/
def spent : Ledger := Ledger.record {} Sample.caller.user .embedding Usage.single

/-- A vector store that is set up, and a model for as many vectors as the limit says. -/
def reference (limit : UInt64) : Broker where
  config :=
    { instances := [("small", deployed "small"), ("store", VectorStore.store)]
      assignment? := fun p _ => some (if p = .retrieval then "store" else "small")
      limit := fun p _ => if p = .embedding then limit else 1 }
  connectors := [("small", ⟨deployed "small", .embeddings⟩), ("store", shelves)]
  ledger := spent

/-- A look for the nearest text. -/
def inquiry : Request := ⟨Sample.caller, .retrieval, "Hello", 1, []⟩

/-- The options of the inquiry, sanitized. -/
def nearest : Options := [("action", .string "retrieve"), ("topk", Json.ofInt 1)]

theorem waits_inquiry (limit : UInt64) (w : World) :
    Waits inquiry (reference limit) w ⟨"store", shelves⟩ .retrieve nearest "Hello" shelves
      (reference limit) w.drawName := by
  have gate : (reference limit).gate .retrieval Sample.caller =
      (.ok ⟨"store", shelves⟩, reference limit) := by
    with_unfolding_all rfl
  have sanitized : Purpose.retrieval.sanitize (w.names w.drawn) [] = .ok nearest := by
    with_unfolding_all rfl
  have admitted : Admitted inquiry (reference limit) w ⟨"store", shelves⟩ nearest "Hello"
      (reference limit) w.drawName := ⟨gate, sanitized, rfl⟩
  have plan : shelves.plan .ok "Hello" nearest w.drawName =
      .ok ((.ok (.awaiting (VectorStore.payload VectorStore.store .retrieve "Hello" nearest)),
        shelves, .ok), w.drawName) := by
    with_unfolding_all rfl
  exact .intro admitted plan nofun

/-- The limit for vectors is reached. -/
theorem embedded_spent (w : World) :
    Embedded Sample.caller "Hello" (reference 1) w (.ofFailure (.quotaExceeded "embedding" 1))
      (reference 1) w :=
  embedded_iff.2 (.barred (by with_unfolding_all rfl))

/-- What the model answers has no numbers. -/
theorem exists_read_numbered : ∃ v, Json.readBytes (numbered "").toUTF8 = .ok v ∧
    v.at? [.key "data", .item 0, .key "embedding"] = some (.array []) := by
  have seen : ((Json.readBytes (numbered "").toUTF8).toOption.bind fun v =>
      (v.at? [.key "data", .item 0, .key "embedding"]).bind Json.asArray?).map List.length =
        some 0 := by
    decide +kernel
  cases read : Json.readBytes (numbered "").toUTF8 with
  | error e => rw [read] at seen; cases seen
  | ok v =>
    rw [read] at seen
    obtain ⟨items, found, none⟩ := Option.map_eq_some_iff.1 seen
    obtain rfl := List.length_eq_zero_iff.1 none
    exact ⟨v, rfl, bind_asArray?_eq_some.1 found⟩

/-- The model. -/
def model : Connector := ⟨deployed "small", .embeddings⟩

/-- The embedding request is answered. -/
theorem exists_embedded {said content : String} {usage : Usage} {body : ByteArray}
    (delivered : (Http.submit (asked "small") signed w.drawName).toOption.bind
      (fun s => Http.success? s.1) = some (200, body))
    (decoded : Embedding.decode model.config body = .ok (.text said usage content)) :
    ∃ b' w', Embedded Sample.caller "Hello" (reference 2) w (.success said usage content)
      b' w' := by
  have gate : (reference 2).gate .embedding Sample.caller =
      (.ok ⟨"small", model⟩, reference 2) := by
    with_unfolding_all rfl
  have admitted : Admitted (.embedding Sample.caller "Hello") (reference 2) w
      ⟨"small", model⟩ [] "Hello" (reference 2) w.drawName :=
    ⟨gate, Purpose.sanitize_embedding _, rfl⟩
  have payload : model.payload? "Hello" [] = some (.ok (asked "small")) :=
    congrArg some (payload_deployed "small")
  have plan := congrFun (Connector.plan_of_payload .ok payload) w.drawName
  have headers : model.headers w.drawName = .ok ((.ok signed, model), w.drawName) := by
    show (pure (Connector.openaiHeaders (deployed "small"), model) : Run _) w.drawName = _
    rw [headers_deployed]
    rfl
  obtain ⟨w', submitted⟩ := Http.submit_of_success? delivered
  have sent : model.send (asked "small") signed w.drawName =
      .ok ((.success 200 body, model), w') :=
    Connector.send_of_submitted submitted rfl
  have responded (files : Files) : model.respond body [] Sample.caller.user 0 files =
      (.success said usage content, files) := by
    show Content.deliver _ _ _ (Embedding.decode model.config body) = _
    rw [decoded]
    rfl
  exact ⟨_, w', embedded_iff.2
    (.answered admitted (.ready plan) (.sent headers sent) (responded _))⟩

end Sample

/-- A search whose caller has used up the vectors, and one for which there are no numbers. -/
theorem embedding_faithful_inquiry :
    (∃ r, Sample.inquiry.make (Sample.reference 1) (.answering []) =
        .ok ((r, Sample.reference 1), (World.answering []).drawName) ∧
      Surfaces (Sample.reference 1).config .basic .quotaExceeded 429 r) ∧
    ∃ f b' w', Sample.inquiry.make (Sample.reference 2)
        (.answering [(200, Sample.numbered "")]) = .ok ((.ofFailure f, b'), w') ∧
      f.kind = .malformedResponse ∧ f.code = 502 := by
  constructor
  · have waits := Sample.waits_inquiry 1 (.answering [])
    have embedded := Sample.embedded_spent (World.answering []).drawName
    obtain ⟨nested, faithful, -⟩ :=
      embedding_faithful Sample.inquiry (Sample.reference 1) (.answering [])
    -- The embedding request is one on the way of the search, as the first part wants it.
    obtain ⟨-⟩ := nested _ _ _ _ (waits.course_of_error embedded rfl)
    obtain ⟨r, made, surfaces, -⟩ :=
      (faithful _ _ _ _ _ _ _ _ _ _ waits embedded).2.failure _ _ _ _ rfl
    exact ⟨r, made, surfaces⟩
  · have delivered : (Http.submit (Sample.asked "small") Sample.signed
        (World.answering [(200, Sample.numbered "")]).drawName.drawName).toOption.bind
          (fun s => Http.success? s.1) = some (200, (Sample.numbered "").toUTF8) := by
      decide +kernel
    obtain ⟨v, read, found⟩ := Sample.exists_read_numbered
    obtain ⟨-, faithful, decodes⟩ := embedding_faithful Sample.inquiry (Sample.reference 2)
      (.answering [(200, Sample.numbered "")])
    obtain ⟨said, usage, decoded⟩ := decodes Sample.model.config _ v read found
    obtain ⟨b', w', embedded⟩ := Sample.exists_embedded delivered decoded
    have waits := Sample.waits_inquiry 2 (.answering [(200, Sample.numbered "")])
    obtain ⟨f, made, kind, code, -⟩ :=
      (faithful _ _ _ _ _ _ _ _ _ _ waits embedded).2.empty _ _ rfl
    exact ⟨f, b', w', made, kind, code⟩

end Broker

end PromptBroker
