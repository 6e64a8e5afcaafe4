import PromptBroker.Proofs.Ending
import PromptBroker.Proofs.Request.Answers
import PromptBroker.Proofs.Request.Refusals

/-!
# The verdict on an answer

A request that gets as far as a provider is judged by what is heard of it and by nothing
else: no complete answer is a transport error, an error status is passed on as it is, and
an answer with a success status is judged by whether what the provider is asked for is in
it (`Verdict`). For the providers that answer the request itself this is all that can
happen (`verdict_of_reaches`).

What has to be in an answer is said by `Required`, apart from the decoders.
-/

namespace PromptBroker

/-! ### What has to be in an answer -/

/-- The providers that need nothing but a key, and whose one call is the request itself. -/
def plainProviders : List Provider := [.ollama, .dalle, .whisper, .voice, .embeddings]

/-- What an answer has to hold. -/
inductive Required (o : Options) (body : ByteArray) : Provider → Prop
  /-- What the model has said. -/
  | said {v text} (json : Json.readBytes body = .ok v)
      (found : v.at? [.key "message", .key "content"] = some (.string text)) :
      Required o body .ollama
  /-- A picture. -/
  | drawn {v encoded bytes} (json : Json.readBytes body = .ok v)
      (found : v.at? [.key "data", .item 0, .key "b64_json"] = some (.string encoded))
      (base64 : Base64.decode encoded = .ok bytes) : Required o body .dalle
  /-- A vector. -/
  | embedded {v entries} (json : Json.readBytes body = .ok v)
      (found : v.at? [.key "data", .item 0, .key "embedding"] = some (.array entries))
      (numbers : ∀ e ∈ entries, ∃ n, e = .number n) : Required o body .embeddings
  /-- Sound. -/
  | spoken (audible : body.isEmpty = false) : Required o body .voice
  /-- A transcript, in JSON if the format asked for is JSON. -/
  | transcribed
      (json : Transcription.isJsonFormat ((o.text? "response_format").getD "text") = true →
        ∃ v, Json.readBytes body = .ok v) : Required o body .whisper

/-- There is a content if what is needed is there, and a malformed response otherwise. -/
inductive Decides (needed : Prop) : Outcome Content → Prop
  | content {c} (there : needed) : Decides needed (.ok c)
  | malformed {message} (lacking : ¬needed) :
      Decides needed (.error (.malformedResponse message))

namespace Decides

variable {needed needed' : Prop} {x : Outcome Content} {body : ByteArray}

theorem congr (h : Decides needed x) (same : needed ↔ needed') : Decides needed' x := by
  cases h with
  | content there => exact .content (same.1 there)
  | malformed lacking => exact .malformed fun there => lacking (same.2 there)

/-- An answer in JSON. -/
theorem readJson (needed : Json → Prop) {read : Json → Outcome Content}
    (h : ∀ v, Decides (needed v) (read v)) :
    Decides (∃ v, Json.readBytes body = .ok v ∧ needed v) (Content.readJson body >>= read) := by
  unfold Content.readJson
  cases json : Json.readBytes body with
  | error e => exact .malformed fun ⟨v, isRead, _⟩ => nomatch isRead
  | ok v =>
    refine (h v).congr ⟨fun there => ⟨v, rfl, there⟩, ?_⟩
    rintro ⟨u, isRead, there⟩
    cases isRead
    exact there

theorem readFile (encoded : String) :
    Decides (∃ bytes, Base64.decode encoded = .ok bytes) (Picture.readFile encoded) := by
  unfold Picture.readFile
  cases decoded : Base64.decode encoded with
  | ok bytes => exact .content ⟨bytes, rfl⟩
  | error e => exact .malformed fun ⟨bytes, isDecoded⟩ => nomatch isDecoded

end Decides

/-! ### What the decoders find -/

theorem bind_asArray?_eq_some {v : Option Json} {items : List Json} :
    v.bind Json.asArray? = some items ↔ v = some (.array items) := by
  rcases v with - | v
  · simp
  · cases v <;> simp [Json.asArray?]

theorem isSome_mapM_asFloat? {entries : List Json} :
    (entries.mapM Json.asFloat?).isSome = true ↔ ∀ e ∈ entries, ∃ n, e = .number n := by
  have isNumber (e : Json) : e.asFloat?.isSome = true ↔ ∃ n, e = .number n := by
    cases e <;> simp [Json.asFloat?]
  induction entries with
  | nil => simp
  | cons e entries ih =>
    rw [List.forall_mem_cons, List.mapM_cons]
    refine Iff.trans ?_ (and_congr (isNumber e) ih)
    cases e.asFloat? <;> cases entries.mapM Json.asFloat? <;> simp

variable {o : Options} {i : Instance} {body : ByteArray}

theorem Chat.decides_decode : Decides (Required o body .ollama) (Chat.decode i body) := by
  refine (Decides.readJson (fun v => ∃ text,
    v.at? [.key "message", .key "content"] = some (.string text)) fun v => ?_).congr ?_
  · split
    · next none =>
      refine .malformed fun ⟨text, found⟩ => ?_
      rw [Json.bind_asString?_eq_some.2 found] at none
      cases none
    · next text found => exact .content ⟨text, Json.bind_asString?_eq_some.1 found⟩
  · exact ⟨fun ⟨_, json, _, found⟩ => .said json found,
      fun (.said json found) => ⟨_, json, _, found⟩⟩

theorem Picture.decides_openaiDecode :
    Decides (Required o body .dalle) (Picture.openaiDecode body) := by
  refine (Decides.readJson (fun v => ∃ encoded,
    v.at? [.key "data", .item 0, .key "b64_json"] = some (.string encoded) ∧
      ∃ bytes, Base64.decode encoded = .ok bytes) fun v => ?_).congr ?_
  · split
    · next none =>
      refine .malformed fun ⟨encoded, found, _⟩ => ?_
      rw [Json.bind_asString?_eq_some.2 found] at none
      cases none
    · next encoded found =>
      have found := Json.bind_asString?_eq_some.1 found
      refine (Decides.readFile encoded).congr ⟨fun decodes => ⟨encoded, found, decodes⟩, ?_⟩
      rintro ⟨encoded', found', decodes⟩
      cases found.symm.trans found'
      exact decodes
  · exact ⟨fun ⟨_, json, _, found, _, base64⟩ => .drawn json found base64,
      fun (.drawn json found base64) => ⟨_, json, _, found, _, base64⟩⟩

theorem Embedding.decides_decode :
    Decides (Required o body .embeddings) (Embedding.decode i body) := by
  refine (Decides.readJson (fun v => ∃ entries,
    v.at? [.key "data", .item 0, .key "embedding"] = some (.array entries) ∧
      ∀ e ∈ entries, ∃ n, e = .number n) fun v => ?_).congr ?_
  · split
    · next none =>
      refine .malformed fun ⟨entries, found, _⟩ => ?_
      rw [bind_asArray?_eq_some.2 found] at none
      cases none
    · next entries found =>
      have found := bind_asArray?_eq_some.1 found
      split
      · next none =>
        refine .malformed fun ⟨entries', found', numbers⟩ => ?_
        cases found.symm.trans found'
        rw [← isSome_mapM_asFloat?, none] at numbers
        cases numbers
      · next vector some =>
        refine .content ⟨entries, found, isSome_mapM_asFloat?.1 ?_⟩
        rw [some]
        rfl
  · exact ⟨fun ⟨_, json, _, found, numbers⟩ => .embedded json found numbers,
      fun (.embedded json found numbers) => ⟨_, json, _, found, numbers⟩⟩

theorem Speech.decides_decode : Decides (Required o body .voice) (Speech.decode body) := by
  unfold Speech.decode
  split
  · next empty =>
    refine .malformed fun (.spoken audible) => ?_
    rw [audible] at empty
    cases empty
  · next audible => exact .content (.spoken (Bool.eq_false_iff.2 audible))

theorem Transcription.decides_decode :
    Decides (Required o body .whisper) (Transcription.decode i body o) := by
  unfold Transcription.decode
  split
  · next format =>
    refine (Decides.readJson (fun _ => True) fun v => .content trivial).congr ?_
    exact ⟨fun ⟨v, json, _⟩ => .transcribed fun _ => ⟨v, json⟩,
      fun (.transcribed json) => (json format).imp fun v json => ⟨json, trivial⟩⟩
  · next format => exact .content (.transcribed fun json => absurd json format)

namespace Connector

variable {c : Connector}

/-- A decoder finds a content exactly if what is required is there. -/
theorem decides_decode (plain : c.provider ∈ plainProviders) (body : ByteArray) (o : Options) :
    Decides (Required o body c.provider) (c.decode body o) := by
  unfold Connector.provider at plain ⊢
  unfold Connector.decode
  cases hb : c.binding with
  | ollama => exact Chat.decides_decode
  | dalle => exact Picture.decides_openaiDecode
  | whisper => exact Transcription.decides_decode
  | voice => exact Speech.decides_decode
  | embeddings => exact Embedding.decides_decode
  | imagen | qdrant =>
    rw [hb] at plain
    simp [plainProviders, Binding.provider] at plain

/-- A content makes a success, if a file can be stored under its name. -/
theorem exists_success_of_decode {content : Content}
    (decoded : c.decode body o = .ok content) {user context : Int}
    (named : c.provider ∈ Connector.filingProviders →
      (Placement.ofOptions user context o).filename.contains '/' = false) (files : Files) :
    ∃ model usage text files',
      c.respond body o user context files = (.success model usage text, files') := by
  cases content with
  | text model usage text => exact ⟨_, _, _, _, Broker.respond_of_text decoded user context files⟩
  | file bytes =>
    have name : Files.isFilename (Placement.ofOptions user context o).filename = true := by
      refine Bool.of_not_eq_false fun bad => ?_
      have slash := (Broker.isFilename_eq_false_iff user context o).1 bad
      rw [named (filing_of_decode decoded)] at slash
      cases slash
    unfold Connector.respond Content.deliver Files.put
    rw [decoded]
    simp only [name, if_true]
    exact ⟨_, _, _, _, rfl⟩

/-- A plain provider is asked once. -/
theorem send_of_plain (plain : c.provider ∈ plainProviders) (h : Http.Headers) (p : Http.Payload) :
    c.send p h = (do
      let delivery ← Http.submit p h
      pure (delivery, c)) := by
  unfold Connector.provider at plain
  unfold send
  cases hb : c.binding with
  | imagen => rw [hb] at plain; simp [plainProviders, Binding.provider] at plain
  | _ => rfl

end Connector

/-! ### Verdicts -/

namespace Broker

/-- The request gets as far as the provider: it is admitted, its payload and its headers can be
made, and the message they make can be sent. -/
inductive Reaches (q : Request) (b : Broker) (w : World) (c : Connector) (o : Options)
    (message : Http.Request) (w' : World) : Prop
  | intro {route text b₁ w₁ p h} (admitted : Admitted q b w route o text b₁ w₁)
      (payload : route.connector.payload? text o = some (.ok p))
      (headers : route.connector.headers w₁ = .ok ((.ok h, c), w'))
      (sent : p.request? h = some message) : Reaches q b w c o message w'

/-- What is answered to the caller for what is heard of the provider. -/
inductive Verdict (c : Connector) (o : Options) : Option Http.Heard → Response → Prop
  /-- There is no complete answer. -/
  | unheard {message details} : Verdict c o none (.failure 500 message details .transportError)
  /-- The provider refuses. -/
  | rejected {answer message details} (status : Http.Status.isSuccess answer.status = false) :
      Verdict c o (some answer) (.failure answer.status message details .providerError)
  /-- The provider accepts, but what is required is not in its answer. -/
  | unusable {answer message details} (status : Http.Status.isSuccess answer.status = true)
      (lacking : ¬Required o answer.body c.provider) :
      Verdict c o (some answer) (.failure 502 message details .malformedResponse)
  /-- The provider does what is required. -/
  | usable {answer model usage content} (status : Http.Status.isSuccess answer.status = true)
      (there : Required o answer.body c.provider) :
      Verdict c o (some answer) (.success model usage content)

variable {q : Request} {b : Broker} {w w₁ : World} {c : Connector} {o : Options}
  {message : Http.Request} {heard : Option Http.Heard} {r : Response}

theorem Verdict.mapContent (h : Verdict c o heard r) (f : String → String) :
    Verdict c o heard (r.mapContent f) := by
  cases h with
  | unheard => exact .unheard
  | rejected status => exact .rejected status
  | unusable status lacking => exact .unusable status lacking
  | usable status there => exact .usable status there

/-- No failure looks like a success. -/
theorem Verdict.code_of_failure (h : Verdict c o heard r)
    (coded : ∀ answer ∈ heard, answer.status ≠ 0) {code : UInt16} (failed : r.code? = some code) :
    code ≠ 0 ∧ Http.Status.isSuccess code = false := by
  cases h with
  | unheard => cases failed; decide
  | rejected status => cases failed; exact ⟨coded _ rfl, status⟩
  | unusable => cases failed; decide
  | usable => cases failed

/-- An answer with a success status is judged by what is in it. -/
theorem verdict_of_respond (plain : c.provider ∈ plainProviders) {user context : Int}
    (named : c.provider ∈ Connector.filingProviders →
      (Placement.ofOptions user context o).filename.contains '/' = false)
    {answer : Http.Heard} (status : Http.Status.isSuccess answer.status = true) (files : Files) :
    Verdict c o (some answer) (c.respond answer.body o user context files).1 := by
  have decides := c.decides_decode plain answer.body o
  cases decoded : c.decode answer.body o with
  | ok content =>
    rw [decoded] at decides
    cases decides with
    | content there =>
    obtain ⟨_, _, _, _, responded⟩ := Connector.exists_success_of_decode decoded named files
    rw [responded]
    exact .usable status there
  | error f =>
    rw [decoded] at decides
    cases decides with
    | malformed lacking =>
    unfold Connector.respond Content.deliver
    rw [decoded]
    exact .unusable status lacking

theorem verdict_of_failure (c : Connector) (o : Options) {code : UInt16}
    {message details : String} {body : Option String}
    (delivers : Http.Delivers heard (.failure code message details body))
    (coded : ∀ answer ∈ heard, answer.status ≠ 0) :
    Verdict c o heard (failureResponse c code message details body) := by
  cases delivers with
  | nothing => exact .unheard
  | @error answer _ _ status =>
    unfold failureResponse
    rw [if_neg (coded answer rfl)]
    exact .rejected status

/-- The embedder as it is, by itself. -/
def Embedding.of (embed : Embedder) : Embedding := fun caller text b w nested v b' w' =>
  nested = none ∧ embed caller text b w = .ok ((v, b'), w')

theorem Embedding.describes_of (embed : Embedder) : (Embedding.of embed).Describes embed :=
  fun _ _ _ _ _ _ _ => ⟨fun h => ⟨none, rfl, h⟩, fun ⟨_, _, h⟩ => h⟩

/-- Every request that reaches a plain provider is answered, and what is answered is the verdict on
what is heard at the end of the call; an error has neither the code zero nor one of success. This
holds wherever vectors come from, so that it holds of embedding requests on the way as well. -/
theorem verdict_of_reaches {t : Option Http.Turn} (reaches : Reaches q b w c o message w₁)
    (plain : c.provider ∈ plainProviders)
    (named : c.provider ∈ Connector.filingProviders →
      (Placement.ofOptions q.caller.user q.context o).filename.contains '/' = false)
    (ends : Http.Ends Http.redirectLimit message w₁.peer t)
    (coded : ∀ answer ∈ t.bind Http.Turn.heard?, answer.status ≠ 0) :
    ∃ r b' w', (∀ embed, q.run embed b w = .ok ((r, b'), w')) ∧
      Verdict c o (t.bind Http.Turn.heard?) r ∧
      ∀ code, r.code? = some code → code ≠ 0 ∧ Http.Status.isSuccess code = false := by
  cases reaches with
  | @intro route text b₁ w₀ p h admitted payload headers sent =>
  obtain ⟨d, w', submitted, delivers⟩ := Http.submit_of_ends sent ends
  have plan : route.connector.plan (b₁.flags.status VectorStore.flagKey) text o w₀ =
      .ok ((.ok (.ready p), route.connector, b₁.flags.status VectorStore.flagKey), w₀) :=
    Connector.plan_eq_ok.2 (.direct payload)
  have send : c.send p h w₁ = .ok ((d, c), w') := by
    rw [Connector.send_of_plain plain]
    exact Run.bind_eq_ok.2 ⟨d, w', submitted, rfl⟩
  suffices course : ∃ r b', (∀ embed, Course (.of embed) q b w none r b' w') ∧
      Verdict c o (t.bind Http.Turn.heard?) r by
    obtain ⟨r, b', course, verdict⟩ := course
    exact ⟨r, b', w', fun embed => (course embed).run_eq (Embedding.describes_of embed), verdict,
      fun code => verdict.code_of_failure coded⟩
  cases d with
  | failure code said details body =>
    exact ⟨_, _, fun embed => .undelivered admitted (.ready plan) (.sent headers send),
      verdict_of_failure c o delivers coded⟩
  | success status body =>
    refine ⟨_, _, fun embed => .answered admitted (.ready plan) (.sent headers send) rfl, ?_⟩
    refine Verdict.mapContent ?_ _
    generalize t.bind Http.Turn.heard? = heard at delivers
    cases delivers with
    | success status => exact verdict_of_respond plain named status _

/-- A provider that is going to do this. -/
def Sample.facing (turn : Http.Turn) : World where
  peer := ⟨["http".toList], [turn], []⟩
  clock := fun _ => ⟨0⟩
  names := fun _ => Uuid.ofBytes []

/-- The connector of the installation. -/
def Sample.connector : Connector := ⟨Sample.instance_, .ollama⟩

/-- A question reaches the provider, whatever the provider is going to do. -/
theorem Sample.chat_reaches : ∃ message, message.url.scheme = "http".toList ∧ ∀ turn,
    Reaches Sample.chat (Sample.broker 1) (Sample.facing turn) Sample.connector [] message
      (Sample.facing turn).drawName := by
  obtain ⟨p, payload⟩ : ∃ p, Sample.connector.payload? "Hello" [] = some (.ok p) := ⟨_, rfl⟩
  have sendable : ((Sample.connector.payload? "Hello" []).bind fun p =>
      (p.toOption.bind fun p => p.request? Http.Headers.json).map (·.url.scheme)) =
        some "http".toList := by decide +kernel
  rw [payload] at sendable
  obtain ⟨message, sent, scheme⟩ := Option.map_eq_some_iff.1 sendable
  refine ⟨message, scheme, fun turn => ?_⟩
  have admitted : Admitted Sample.chat (Sample.broker 1) (Sample.facing turn)
      ⟨"local", Sample.connector⟩ [] "Hello" (Sample.broker 1) (Sample.facing turn).drawName :=
    ⟨rfl, rfl, rfl⟩
  exact .intro admitted payload rfl sent

/-- The answer of a provider that says something. -/
def Sample.saying : Http.Turn := .reply ⟨200, [], (Sample.said "Hi").toUTF8⟩

/-- What is said to a question is judged. -/
theorem verdict_of_sample_saying : ∃ message r b' w',
    Reaches Sample.chat (Sample.broker 1) (Sample.facing Sample.saying) Sample.connector [] message
      (Sample.facing Sample.saying).drawName ∧
    Http.Ends Http.redirectLimit message (Sample.facing Sample.saying).peer (some Sample.saying) ∧
    Sample.chat.make (Sample.broker 1) (Sample.facing Sample.saying) = .ok ((r, b'), w') ∧
    Verdict Sample.connector [] Sample.saying.heard? r := by
  obtain ⟨message, scheme, reaches⟩ := Sample.chat_reaches
  have reached : (Sample.facing Sample.saying).peer.isReached message = true := by
    unfold Http.Peer.isReached Http.Url.isHttp Http.Peer.listensTo
    rw [scheme]
    show (("http".toList == "http".toList || "http".toList == "https".toList) &&
      ["http".toList].contains "http".toList) = true
    decide +kernel
  have ends : Http.Ends Http.redirectLimit message (Sample.facing Sample.saying).peer
      (some Sample.saying) := by
    refine .last reached fun r whole reply => ?_
    cases reply
    rfl
  have coded : ∀ answer ∈ Sample.saying.heard?, answer.status ≠ 0 := by
    rintro _ ⟨⟩
    decide
  obtain ⟨r, b', w', made, verdict, -⟩ := verdict_of_reaches (reaches Sample.saying) (by decide)
    (fun filing => absurd filing (by decide)) ends coded
  exact ⟨message, r, b', w', reaches Sample.saying, ends, made _, verdict⟩

end Broker

end PromptBroker
