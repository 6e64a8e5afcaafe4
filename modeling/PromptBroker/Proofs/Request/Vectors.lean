import PromptBroker.Proofs.Request.Answers
import PromptBroker.Proofs.Request.Waiting

/-!
# Vectors on their way

Between the embedder and the vector store a vector is a text in a response. It gets there
unharmed (`vector_survives`): an answer with numbers in it is decoded into a text that
is read as a vector with an entry for each number, and a request that has waited for its
vector goes on with a payload that carries these entries, in the same order.
-/

namespace PromptBroker.Broker

open Decimal (plain readFloat32 FloatLiteral)
open VectorStore (SentAs carried? carried?_of_payload exists_vectorJson_eq)

variable {q : Request} {b b₁ b₂ b₃ : Broker} {w w₁ w₂ w₃ : World} {route : Route} {o : Options}
  {text model content : String} {usage : Usage} {nested : Response} {c : Connector}
  {flag : SetupStatus} {action : RetrievalAction} {i : Instance} {p : Http.Payload}
  {xs : List Float32}

/-! ### The response -/

/-- What an embedding request succeeds with has been decoded from an answer. -/
theorem Embedded.exists_decode {caller : Caller}
    (embedded : Embedded caller text b₂ w₂ (.success model usage content) b₃ w₃) :
    ∃ i body, Embedding.decode i body = .ok (.text model usage content) := by
  have course := embedded_iff.1 embedded
  generalize succeeds : Response.success model usage content = r at course
  cases course with
  | barred | refused | unprepared | unsigned | undelivered => cases succeeds
  | @answered _ o _ _ _ _ _ _ _ _ _ body c' _ _ r _ admitted prepares submits responded =>
    cases r with
    | failure => cases succeeds
    | success model' usage' output =>
      cases succeeds
      have binding := Connector.binding_of_embedding (admitted.serves_of_submits prepares submits)
      have decoded := text_of_respond (.inr binding) responded
      unfold Connector.decode at decoded
      rw [binding] at decoded
      exact ⟨c'.config, body, decoded⟩

/-! ### The payload -/

/-- The entries of the vector, each as it is sent, stand in the payload in their order. -/
def Carries (i : Instance) (action : RetrievalAction) (p : Http.Payload) (xs : List Float32) :
    Prop :=
  ∃ items, carried? i action p = some (.array items) ∧ List.Forall₂ SentAs xs items

theorem carries_of_payload (made : VectorStore.payload i action text o xs = .ok p) :
    Carries i action p xs := by
  obtain ⟨items, written, sent⟩ := exists_vectorJson_eq xs
  exact ⟨items, written ▸ carried?_of_payload made, sent⟩

/-- With its vector a request that waits has a payload. -/
theorem exists_payload_of_awaiting (admitted : Admitted q b w route o text b₁ w₁)
    (plan : route.connector.plan (b₁.flags.status VectorStore.flagKey) text o w₁ =
      .ok ((.ok (.awaiting (VectorStore.payload route.connector.config action text o)), c, flag),
        w₂)) (xs : List Float32) :
    ∃ p, VectorStore.payload route.connector.config action text o xs = .ok p := by
  rcases admitted.plan_cases plan with
    ⟨p, -, ready⟩ | ⟨-, ⟨f, failed, -⟩ | ⟨finish, awaiting, total⟩⟩
  · cases p <;> cases ready
  · cases failed
  · cases awaiting
    exact total xs

/-! ### The rest of the request -/

/-- The request goes on with a payload that carries the vector. -/
def GoesOn (q : Request) (b : Broker) (w : World) (route : Route) (action : RetrievalAction)
    (o : Options) (text : String) (xs : List Float32) (c : Connector) (b₃ : Broker) (w₃ : World) :
    Prop :=
  ∃ p, VectorStore.payload route.connector.config action text o xs = .ok p ∧
    Carries route.connector.config action p xs ∧ Forwards q b w route.name c p b₃ w₃

theorem Waits.goesOn (waits : Waits q b w route action o text c b₂ w₂)
    (embedded : Embedded q.caller text b₂ w₂ nested b₃ w₃)
    (found : vectorOf b₃.config q.caller.role nested = .ok xs) :
    GoesOn q b w route action o text xs c
      (b₃.learn b₂.settings.usesEmbeddingCache text (.ok xs)) w₃ := by
  cases waits with
  | intro admitted plan unknown =>
    have vector := Embeds.asked unknown (embedded_iff.1 embedded)
    rw [found] at vector
    obtain ⟨p, made⟩ := exists_payload_of_awaiting admitted plan xs
    have bound : (Except.ok xs).bind (VectorStore.payload route.connector.config action text o) =
        .ok p := made
    have prepares := Prepares.embedded plan vector
    rw [bound] at prepares
    -- A vector store has nothing to do with dates, so that the payload is done with some time.
    have plans := Connector.plan_eq_ok.1 plan
    obtain ⟨state, binding⟩ := plans.binding_of_awaiting
    have dateless : c.provider ≠ .imagen := by
      rw [plans.provider_eq, Connector.provider, binding]
      intro same
      cases same
    exact ⟨p, made, carries_of_payload made, prepares.forwards admitted dateless⟩

/-- Vectors survive being a text. An answer with a filled list of numbers is decoded into a text
that is read as a vector with an entry for each number, in their order, which is what single
precision makes of the text of the number. A payload for the vector store carries the vector that
it is made for. An embedding request succeeds with a text of this kind, and the payload of the
request that has waited is made for the vector that is read from it. What is read as a vector at all
is a text that is not blank and has nothing but literals between its commas, and blanks around
them. -/
theorem vector_survives :
    (∀ i body v numbers, Json.readBytes body = .ok v →
      v.at? [.key "data", .item 0, .key "embedding"] = some (.array (numbers.map .number)) →
      numbers ≠ [] → ∃ model usage content xs,
        Embedding.decode i body = .ok (.text model usage content) ∧
        Embedding.readVector content = .ok xs ∧
        List.Forall₂ (fun n x => readFloat32 (plain n.toFloat).toList = .ok x) numbers xs) ∧
    (∀ i action text o xs p, VectorStore.payload i action text o xs = .ok p →
      Carries i action p xs) ∧
    (∀ q b w route action o text c b₂ w₂ model usage content b₃ w₃,
      Waits q b w route action o text c b₂ w₂ →
      Embedded q.caller text b₂ w₂ (.success model usage content) b₃ w₃ →
        (∃ i body, Embedding.decode i body = .ok (.text model usage content)) ∧
        ∀ xs, Embedding.readVector content = .ok xs →
          GoesOn q b w route action o text xs c
            (b₃.learn b₂.settings.usesEmbeddingCache text (.ok xs)) w₃) ∧
    ∀ text, (∃ xs, Embedding.readVector text = .ok xs) ↔
      Text.isAllBlank text = false ∧ ∀ part ∈ text.toList.splitOn ',',
        ∃ negative m, FloatLiteral (Text.trimChars part) negative m := by
  refine ⟨fun i body v numbers read found filled => ?_,
    fun _ _ _ _ _ _ made => carries_of_payload made,
    fun _ _ _ _ _ _ _ _ _ _ _ _ _ _ _ waits embedded =>
      ⟨embedded.exists_decode, fun _ found => waits.goesOn embedded found⟩,
    fun _ => Embedding.exists_readVector_iff⟩
  obtain ⟨model, usage, decoded⟩ := Embedding.decode_of_numbers (i := i) read found
  have written : numbers.map Json.Number.toFloat ≠ [] := by simpa using filled
  obtain ⟨xs, parsed, entries⟩ := Embedding.readVector_join written
  exact ⟨model, usage, _, xs, decoded, parsed, List.forall₂_map_left_iff.1 entries⟩

namespace Sample

/-- An answer with a number that single precision does not reach, and one that it does. -/
def distant : String := numbered "1e39,0.1"

/-- The texts of the two numbers of an answer. -/
def pair? (v : Json) : Option (String × String) :=
  match v.at? [.key "data", .item 0, .key "embedding"] with
  | some (.array [.number m, .number n]) => some (plain m.toFloat, plain n.toFloat)
  | _ => none

theorem exists_read_distant : ∃ v m n, Json.readBytes distant.toUTF8 = .ok v ∧
    v.at? [.key "data", .item 0, .key "embedding"] = some (.array ([m, n].map .number)) ∧
    plain m.toFloat = "1000000000000000000000000000000000000000" ∧ plain n.toFloat = "0.1" := by
  have seen : (Json.readBytes distant.toUTF8).toOption.bind pair? =
      some ("1000000000000000000000000000000000000000", "0.1") := by
    decide +kernel
  cases read : Json.readBytes distant.toUTF8 with
  | error e => rw [read] at seen; cases seen
  | ok v =>
    rw [read] at seen
    change pair? v = _ at seen
    unfold pair? at seen
    split at seen
    · next m n found =>
      obtain ⟨first, second⟩ := Prod.mk.inj (Option.some.inj seen)
      exact ⟨v, m, n, rfl, found, first, second⟩
    · cases seen

end Sample

/-- The number that is out of reach has its place in the text and in the payload. -/
theorem vector_survives_distant : ∃ model usage content x y,
    Embedding.decode Sample.model.config Sample.distant.toUTF8 = .ok (.text model usage content) ∧
    Embedding.readVector content = .ok [x, y] ∧ readFloat32 "0.1".toList = .ok y ∧
    (∃ p item,
      VectorStore.payload VectorStore.store .retrieve "Hello" Sample.nearest [x, y] = .ok p ∧
      carried? VectorStore.store .retrieve p = some (.array [.null, item]) ∧ SentAs y item) ∧
    ∃ r b' w', Sample.inquiry.make (Sample.reference 2) (.answering [(200, Sample.distant)]) =
      .ok ((r, b'), w') := by
  obtain ⟨v, m, n, read, found, beyond, near⟩ := Sample.exists_read_distant
  obtain ⟨decodes, -, goesOn, -⟩ := vector_survives
  obtain ⟨model, usage, content, xs, decoded, parsed, entries⟩ :=
    decodes Sample.model.config _ v [m, n] read found nofun
  obtain ⟨b₃, w₃, embedded⟩ := Sample.exists_embedded
    (w := (World.answering [(200, Sample.distant)]).drawName) (by decide +kernel) decoded
  have waits := Sample.waits_inquiry 2 (.answering [(200, Sample.distant)])
  obtain ⟨p, made, ⟨items, carried, sent⟩, _, _, _, _, r, b', -, returned⟩ :=
    (goesOn _ _ _ _ _ _ _ _ _ _ _ _ _ _ _ waits embedded).2 xs parsed
  obtain _ | ⟨first, _ | ⟨second, _ | _⟩⟩ := entries
  rw [beyond] at first
  rw [near] at second
  obtain _ | ⟨far, _ | ⟨close, _ | _⟩⟩ := sent
  have infinite : (readFloat32 "1000000000000000000000000000000000000000".toList).toOption.map
      Float32.isFinite = some false := by
    decide +kernel
  rw [first] at infinite
  obtain rfl := far.eq_null (Option.some.inj infinite)
  exact ⟨model, usage, content, _, _, decoded, parsed, second, ⟨p, _, made, carried, close⟩,
    r, b', _, returned⟩

end PromptBroker.Broker
