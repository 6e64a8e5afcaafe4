import PromptBroker.Proofs.Objection
import PromptBroker.Proofs.Request.Refusals

/-!
# The wording of failures

What end users are told of a failure is never what a provider has said. For each kind of
failure but one there are fixed sentences (`Failure.Kind.sentences`), and a picture that a
provider refuses has a sentence of its own. What is said about an invalid parameter is told
by the request and the broker alone (`Request.objection`), so that it is the same whatever
the network answers, the clock shows and the fresh names are (`message_of_failure`).
-/

namespace PromptBroker

/-! ### Sentences -/

/-- What may be said about failures of a kind, for the kinds that have fixed sentences. -/
def Failure.Kind.sentences : Failure.Kind → List String
  | .notConfigured => ["This AI function has not been configured yet"]
  | .disabled =>
    ["The AI tool configured for this function is currently unavailable",
      "AI functions are disabled for your organisation"]
  | .invalidParameter => []
  | .quotaExceeded => ["You have reached the maximum number of requests for this AI function"]
  | .transportError => ["Sending the request to the AI tool failed"]
  | .providerError => ["The AI tool could not process the request"]
  | .malformedResponse => ["The AI tool returned a response that could not be processed"]
  | .internal =>
    ["The AI tool is not set up correctly. Please contact your administrator"]

theorem Failure.userMessage_mem_sentences {f : Failure} (h : f.kind ≠ .invalidParameter) :
    f.userMessage ∈ f.kind.sentences := by
  cases f with
  | invalidParameter | payloadTooLarge => exact absurd rfl h
  | tenantDisabled => exact List.mem_cons_of_mem _ List.mem_cons_self
  | _ => exact List.mem_cons_self

/-- A file cannot be stored under the name asked for. -/
def Failure.badFilename : Failure :=
  .invalidParameter "filename" "a plain, non-empty file name is required"

/-- A text cannot be embedded. -/
def Failure.blankText : Failure := .invalidParameter "prompt" "cannot embed empty text"

namespace Broker

variable {E : Embedding} {q : Request} {b b' : Broker} {w w' : World} {nested : Option Response}
  {r : Response}

/-! ### Pictures -/

/-- A provider of pictures has refused the prompt: its error has status 400 and carries the marker
of that provider. The sentence is the one for this provider. -/
inductive RefusedPicture (q : Request) (b : Broker) (w : World) : String → Prop
  | openai {route o text b₁ w₁ nested p c b₂ w₂ message details answer v c' b' w'}
      (admitted : Admitted q b w route o text b₁ w₁)
      (prepares : Prepares Embeds q.caller route text o b₁ w₁ nested (.ok p) c b₂ w₂)
      (submits : Submits route.name c p b₂ w₂ (.ok (.failure 400 message details (some answer)))
        c' b' w')
      (provider : c'.provider = .dalle) (json : Json.read answer = .ok v)
      (marker : v.at? [.key "error", .key "code"] = some (.string "content_policy_violation")) :
      RefusedPicture q b w Picture.openaiRefusal
  | imagen {route o text b₁ w₁ nested p c b₂ w₂ message details answer v c' b' w'}
      (admitted : Admitted q b w route o text b₁ w₁)
      (prepares : Prepares Embeds q.caller route text o b₁ w₁ nested (.ok p) c b₂ w₂)
      (submits : Submits route.name c p b₂ w₂ (.ok (.failure 400 message details (some answer)))
        c' b' w')
      (provider : c'.provider = .imagen) (json : Json.read answer = .ok v)
      (marker : v.at? [.key "error", .key "status"] = some (.string "INVALID_ARGUMENT")) :
      RefusedPicture q b w Picture.imagenRefusal

theorem marker_of_errorField? {body : Option String} {path : List Json.Step} {word : String}
    (h : Picture.errorField? body path = some word) :
    ∃ answer v, body = some answer ∧ Json.read answer = .ok v ∧
      v.at? path = some (.string word) := by
  unfold Picture.errorField? at h
  split at h
  · next v json =>
    obtain ⟨answer, rfl, isRead⟩ := Option.map_eq_some_iff.1 json
    obtain ⟨u, found, text⟩ := Option.bind_eq_some_iff.1 h
    cases u with
    | string s => cases text; exact ⟨answer, v, rfl, isRead, found⟩
    | _ => cases text
  · cases h

/-- The test for a refused picture: the status and the marker in the body. -/
theorem marker_of_refused {code : UInt16} {body : Option String} {path : List Json.Step}
    {word : String} (h : (code == 400 && Picture.errorField? body path == some word) = true) :
    code = 400 ∧ ∃ answer v, body = some answer ∧ Json.read answer = .ok v ∧
      v.at? path = some (.string word) := by
  obtain ⟨status, marked⟩ := Bool.and_eq_true_iff.1 h
  exact ⟨beq_iff_eq.1 status, marker_of_errorField? (beq_iff_eq.1 marked)⟩

/-- What is known of an error is that a picture was refused. -/
theorem refusedPicture_of_knownError {route : Route} {o : Options} {text : String}
    {b₁ b₂ b₃ : Broker} {w₁ w₂ w₃ : World} {p : Http.Payload} {c c' : Connector} {code : UInt16}
    {message details : String} {body : Option String}
    (admitted : Admitted q b w route o text b₁ w₁)
    (prepares : Prepares Embeds q.caller route text o b₁ w₁ nested (.ok p) c b₂ w₂)
    (submits : Submits route.name c p b₂ w₂ (.ok (.failure code message details body)) c' b₃ w₃)
    (known : c'.knownError code body ≠ "") :
    code = 400 ∧ RefusedPicture q b w (c'.knownError code body) := by
  unfold Connector.knownError at known ⊢
  cases hb : c'.binding with
  | dalle =>
    simp only [hb] at known ⊢
    split at known
    · next refused =>
      rw [if_pos refused]
      obtain ⟨rfl, answer, v, rfl, json, marker⟩ := marker_of_refused refused
      have provider : c'.provider = .dalle := by rw [Connector.provider, hb]; rfl
      exact ⟨rfl, .openai admitted prepares submits provider json marker⟩
    · exact absurd rfl known
  | imagen tokens detector =>
    simp only [hb] at known ⊢
    split at known
    · next refused =>
      rw [if_pos refused]
      obtain ⟨rfl, answer, v, rfl, json, marker⟩ := marker_of_refused refused
      have provider : c'.provider = .imagen := by rw [Connector.provider, hb]; rfl
      exact ⟨rfl, .imagen admitted prepares submits provider json marker⟩
    · exact absurd rfl known
  | _ => simp [hb] at known

/-! ### Fixed sentences -/

/-- An answer that is reported as a failure cannot be decoded, or is a file that cannot be
stored. -/
theorem failure_of_respond {c : Connector} {body : ByteArray} {o : Options} {user context : Int}
    {files files' : Files} (h : c.respond body o user context files = (r, files'))
    (failed : r.isSuccess = false) :
    ∃ f, r = .ofFailure f ∧ (c.decode body o = .error f ∨
      f = .badFilename ∧ ∃ bytes, c.decode body o = .ok (.file bytes)) := by
  unfold Connector.respond at h
  cases decoded : c.decode body o with
  | error f =>
    rw [decoded] at h
    cases h
    exact ⟨f, rfl, .inl rfl⟩
  | ok content =>
    rw [decoded] at h
    cases content with
    | text => cases h; cases failed
    | file bytes =>
      unfold Content.deliver Files.put at h
      dsimp only at h
      split at h
      · next stored =>
        split at stored
        · cases h; cases failed
        · cases stored
      · next refused =>
        split at refused
        · cases refused
        · cases refused
          cases h
          exact ⟨_, rfl, .inr ⟨rfl, bytes, rfl⟩⟩

/-- A failure has a cause, or is what an error of the provider is reported as. -/
theorem Course.exists_cause (h : Course Embeds q b w nested r b' w')
    (failed : r.isSuccess = false) :
    (∃ f, r = .ofFailure f) ∨
      ∃ c code message details body, r = failureResponse c code message details body ∧
        (c.knownError code body ≠ "" → code = 400 ∧ RefusedPicture q b w (c.knownError code body))
    := by
  cases h with
  | barred | refused | unprepared | unsigned => exact .inl ⟨_, rfl⟩
  | undelivered admitted prepares submits =>
    exact .inr ⟨_, _, _, _, _, rfl, refusedPicture_of_knownError admitted prepares submits⟩
  | @answered route o text b₁ w₁ nested p c b₂ w₂ status body c' b₃ w' r files admitted prepares
      submits decoded =>
    have failed : r.isSuccess = false := (Response.isSuccess_mapContent _ r).symm.trans failed
    obtain ⟨f, rfl, -⟩ := failure_of_respond decoded failed
    exact .inl ⟨f, rfl⟩

/-- A failure other than an invalid parameter is put in a fixed sentence, or in the one for refused
pictures. -/
theorem Course.message_mem_sentences {code : UInt16} {message details : String}
    {kind : Failure.Kind}
    (h : Course Embeds q b w nested (.failure code message details kind) b' w')
    (other : kind ≠ .invalidParameter) :
    message ∈ kind.sentences ∨ kind = .providerError ∧ RefusedPicture q b w message := by
  rcases h.exists_cause rfl with ⟨f, cause⟩ | ⟨c, status, said, about, body, cause, refused⟩
  · obtain ⟨rfl, rfl, rfl, rfl⟩ := Response.failure.inj cause
    exact .inl (Failure.userMessage_mem_sentences other)
  · obtain ⟨-, rfl, -, rfl⟩ := Response.failure.inj cause
    by_cases known : c.knownError status body = ""
    · rw [if_pos known]
      exact .inl (Failure.userMessage_mem_sentences other)
    · obtain ⟨rfl, picture⟩ := refused known
      rw [if_neg known]
      exact .inr ⟨rfl, picture⟩

/-! ### Invalid parameters -/

/-- What the parameters of a request can be blamed for, in the words of the request and the broker
alone: its options, or what the connector objects to, or else the name of a file or a text that
cannot be embedded. -/
def Request.objection (q : Request) (b : Broker) : Failure :=
  match q.purpose.sanitize (Uuid.ofBytes []) q.raw, (b.gate q.purpose q.caller).1 with
  | .error f, _ => f
  | .ok _, .error f => f
  | .ok o, .ok route =>
    match route.connector.objects? q.prompt o with
    | some (.error f) => f
    | some (.ok ()) => .badFilename
    | none => .invalidParameter "prompt" Failure.blankText.message

/-- Why a request is blamed on its parameters. -/
inductive Blames (E : Embedding) (q : Request) (b : Broker) (w : World) (nested : Option Response) :
    Failure → Prop
  /-- The options are refused. -/
  | options {route f b'} (gate : b.gate q.purpose q.caller = (.ok route, b'))
      (sanitized : q.purpose.sanitize (w.names w.drawn) q.raw = .error f) : Blames E q b w nested f
  /-- The connector objects. -/
  | payload {route o text b₁ w₁ f} (admitted : Admitted q b w route o text b₁ w₁)
      (objects : route.connector.objects? text o = some (.error f)) : Blames E q b w nested f
  /-- The vector cannot be had. -/
  | vector {route o text b₁ w₁ f b₂ w₂ b₃ w₃} (admitted : Admitted q b w route o text b₁ w₁)
      (waits : route.connector.objects? text o = none)
      (vector : E q.caller text b₂ w₂ nested (.error f) b₃ w₃) : Blames E q b w nested f
  /-- The file cannot be stored under its name. -/
  | file {route o text b₁ w₁} (admitted : Admitted q b w route o text b₁ w₁)
      (ready : route.connector.objects? text o = some (.ok ()))
      (filing : route.connector.provider ∈ Connector.filingProviders) :
      Blames E q b w nested .badFilename

/-- A failure that is not blamed on the parameters. -/
theorem not_invalid {α : Type} {x : Outcome α} {kinds : List Failure.Kind} {f : Failure}
    (h : x.FailsWith kinds) (hf : x = .error f) (others : .invalidParameter ∉ kinds) :
    f.kind ≠ .invalidParameter := fun invalid => others (invalid ▸ h f hf)

/-- The gate does not look at the parameters. -/
theorem gate_not_invalid {f : Failure} (h : b.gate q.purpose q.caller = (.error f, b')) :
    f.kind ≠ .invalidParameter := by
  have checks := gate_checks q b (Uuid.ofBytes [])
  cases first : Check.first? q b (Uuid.ofBytes []) Check.ofGate with
  | none =>
    rw [first] at checks
    obtain ⟨_, _, _, _, -, -, gate, -⟩ := checks
    cases h.symm.trans gate
  | some kf =>
    rw [first] at checks
    obtain ⟨_, gate, -⟩ := checks
    cases h.symm.trans gate
    obtain ⟨k, listed, found⟩ := List.exists_of_findSome?_eq_some first
    obtain ⟨g, fails, rfl⟩ := Option.map_eq_some_iff.1 found
    rw [Check.kind_of_failure? fails]
    exact (by decide : ∀ k ∈ Check.ofGate, k.kind ≠ .invalidParameter) k listed

/-- A plan that is made at once says what the connector objects to. A vector store has no objection
and waits for the vector, unless its backend cannot be set up. -/
theorem Admitted.plan_cases {route : Route} {o : Options} {text : String} {b₁ : Broker}
    {w₁ w₂ : World} {c : Connector} {flag flag' : SetupStatus} {x : Outcome Plan}
    (admitted : Admitted q b w route o text b₁ w₁)
    (plan : route.connector.plan flag text o w₁ = .ok ((x, c, flag'), w₂)) :
    (∃ p : Outcome Http.Payload, route.connector.objects? text o = some (p.map fun _ => ()) ∧
        x = p.map .ready) ∨
      route.connector.objects? text o = none ∧
        ((∃ f, x = .error f ∧ f.kind ≠ .invalidParameter) ∨
          ∃ finish, x = .ok (.awaiting finish) ∧ ∀ vector, ∃ p, finish vector = .ok p) := by
  cases Connector.plan_eq_ok.1 plan with
  | @direct p payload =>
    refine .inl ⟨p, ?_, rfl⟩
    rw [Connector.objects?, payload]
    rfl
  | @setUp state outcome state' flag' w' binding ensure =>
    refine .inr ⟨by simp [Connector.objects?, Connector.payload?, binding], ?_⟩
    cases outcome with
    | error f =>
      exact .inl ⟨f, rfl, not_invalid (failsWith_ensure _ _ _ _ _ _ _ ensure) rfl (by decide)⟩
    | ok =>
      obtain ⟨finish, awaited, total⟩ := admitted.awaited_eq binding route.connector.config text
      exact .inr ⟨finish, awaited, total⟩

theorem Prepares.blames {route : Route} {text : String} {o : Options} {b₁ b₂ : Broker}
    {w₁ w₂ : World} {f : Failure} {c : Connector} (admitted : Admitted q b w route o text b₁ w₁)
    (h : Prepares E q.caller route text o b₁ w₁ nested (.error f) c b₂ w₂)
    (invalid : f.kind = .invalidParameter) : Blames E q b w nested f := by
  generalize hf : Except.error f = p at h
  cases h with
  | ready => cases hf
  | unplanned plan =>
    cases hf
    rcases admitted.plan_cases plan with ⟨p, objects, hp⟩ | ⟨-, ⟨g, hg, other⟩ | ⟨finish, hf, -⟩⟩
    · cases p with
      | error g => cases hp; exact .payload admitted objects
      | ok => cases hp
    · cases hg
      exact absurd invalid other
    · cases hf
  | @embedded finish c flag w₃ nested v b₂ w₂ plan vector =>
    rcases admitted.plan_cases plan with ⟨p, -, hp⟩ | ⟨waits, ⟨g, hg, -⟩ | ⟨finish', hx, total⟩⟩
    · cases p <;> cases hp
    · cases hg
    · cases hx
      cases v with
      | error g => cases hf; exact .vector admitted waits vector
      | ok xs =>
        obtain ⟨p, hp⟩ := total xs
        cases hf.trans hp

/-- A payload that is there has met with no objection, unless it has waited for a vector. -/
theorem Prepares.ready_of_filing {route : Route} {text : String} {o : Options} {b₁ b₂ : Broker}
    {w₁ w₂ : World} {p : Http.Payload} {c : Connector}
    (admitted : Admitted q b w route o text b₁ w₁)
    (h : Prepares E q.caller route text o b₁ w₁ nested (.ok p) c b₂ w₂)
    (filing : route.connector.provider ∈ Connector.filingProviders) :
    route.connector.objects? text o = some (.ok ()) := by
  generalize hp : Except.ok p = x at h
  cases h with
  | ready plan =>
    rcases admitted.plan_cases plan with ⟨p', objects, hx⟩ | ⟨-, ⟨g, hx, -⟩ | ⟨finish, hx, -⟩⟩
    · cases p' with
      | error g => cases hx
      | ok => exact objects
    · cases hx
    · cases hx
  | unplanned => cases hp
  | embedded plan =>
    obtain ⟨state, binding⟩ := (Connector.plan_eq_ok.1 plan).binding_of_awaiting
    rw [Connector.provider, binding] at filing
    simp [Connector.filingProviders, Binding.provider] at filing

/-- An invalid parameter is reported for one of four reasons. -/
theorem Course.blames (h : Course E q b w nested r b' w')
    (invalid : r.kind? = some .invalidParameter) :
    ∃ f, r = .ofFailure f ∧ f.kind = .invalidParameter ∧ Blames E q b w nested f := by
  have kind {f : Failure} (h : (Response.ofFailure f).kind? = some .invalidParameter) :
      f.kind = .invalidParameter := Option.some.inj h
  cases h with
  | barred gate => exact absurd (kind invalid) (gate_not_invalid gate)
  | refused gate sanitized => exact ⟨_, rfl, kind invalid, .options gate sanitized⟩
  | unprepared admitted prepares =>
    exact ⟨_, rfl, kind invalid, prepares.blames admitted (kind invalid)⟩
  | unsigned admitted prepares submits =>
    cases submits with
    | unsigned headers =>
      exact absurd (kind invalid)
        (not_invalid (failsWith_headers _ _ _ _ _ headers) rfl (by decide))
  | @undelivered _ _ _ _ _ _ _ _ _ _ code =>
    unfold failureResponse at invalid
    have known := Option.some.inj invalid
    split at known <;> cases known
  | @answered route o text b₁ w₁ nested p c b₂ w₂ status body c' b₃ w' r files admitted prepares
      submits decoded =>
    have invalid : r.kind? = some .invalidParameter := by cases r <;> exact invalid
    have failed : r.isSuccess = false := by cases r <;> first | rfl | cases invalid
    obtain ⟨f, rfl, undecoded | ⟨rfl, bytes, file⟩⟩ := failure_of_respond decoded failed
    · have serves := admitted.serves_of_submits prepares submits
      have action : ∀ state, c'.binding = .qdrant state →
          ∃ a, RetrievalAction.ofOptions o = .ok a := by
        intro state binding
        obtain ⟨action, ho, -⟩ := admitted.exists_action binding serves
        exact ⟨action, ho⟩
      exact absurd (kind invalid)
        (not_invalid (failsWith_decode c' body action) undecoded (by decide))
    · have filing := Connector.filing_of_decode file
      rw [submits.provider_eq, prepares.provider_eq] at filing
      exact ⟨_, rfl, rfl, .file admitted (prepares.ready_of_filing admitted filing) filing⟩

/-! ### One objection only -/

/-- The prompt of a request for a vector is the text it is for. -/
theorem Admitted.text_eq {route : Route} {o : Options} {text : String}
    (h : Admitted q b w route o text b' w') (embedding : q.purpose = .embedding) :
    text = q.prompt := by
  have formatted := h.formatted
  rw [embedding] at formatted
  exact (Run.pure_eq_ok.1 formatted).1.symm

/-- What the connector objects to in a request is told without the fresh name and without what was
fetched into the prompt. -/
theorem Admitted.objection_eq {route : Route} {o : Options} {text : String}
    (h : Admitted q b w route o text b' w') :
    q.objection b =
      match route.connector.objects? text o with
      | some (.error f) => f
      | some (.ok ()) => .badFilename
      | none => .invalidParameter "prompt" Failure.blankText.message := by
  have same := Purpose.sanitize_sameButName q.purpose (w.names w.drawn) (Uuid.ofBytes []) q.raw
  rw [h.sanitized] at same
  unfold Request.objection
  generalize q.purpose.sanitize (Uuid.ofBytes []) q.raw = sanitized at same
  cases same with
  | accepted agree equal =>
    have objects := Connector.objects?_eq (serves_of_gate h.gate) (.accepted agree equal) h.text_eq
    rw [h.gate, objects]

/-- An embedding request is blamed on its text, if it is blamed at all. -/
theorem Blames.eq_blankText {caller : Caller} {text : String} {f : Failure}
    (h : Blames NoVector (.embedding caller text) b w none f) : f = .blankText := by
  cases h with
  | options gate sanitized =>
    cases sanitized.symm.trans (Purpose.sanitize_embedding (w.names w.drawn))
  | payload admitted objects =>
    rw [Connector.objects?, payload?_of_embedding admitted, Embedding.payload] at objects
    split at objects
    · cases objects
      rfl
    · cases objects
  | vector admitted waits =>
    rw [Connector.objects?, payload?_of_embedding admitted] at waits
    cases waits
  | file admitted ready filing =>
    rw [Connector.provider, Connector.binding_of_embedding (serves_of_gate admitted.gate)] at filing
    simp [Connector.filingProviders, Binding.provider] at filing

theorem kind_of_embeddingFailure {c : Configuration} {role : Role} {kind : Failure.Kind}
    {code : UInt16} {details : String}
    (h : (embeddingFailure c role kind code details).kind = .invalidParameter) :
    kind = .invalidParameter := by
  cases kind with
  | invalidParameter => rfl
  | _ => cases h

/-- A vector that cannot be had for the parameters' sake is one of a blank text. -/
theorem Embeds.eq_of_invalid {caller : Caller} {text : String} {f : Failure}
    (h : Embeds caller text b w nested (.error f) b' w') (invalid : f.kind = .invalidParameter) :
    f = .invalidParameter "prompt" Failure.blankText.message := by
  generalize hv : Except.error f = v at h
  cases h with
  | known => cases hv
  | @asked r b' w' miss course =>
    cases r with
    | success model usage content =>
      exact absurd invalid (not_invalid (failsWith_readVector content) hv.symm (by decide))
    | failure code message details kind =>
      cases hv
      obtain rfl := kind_of_embeddingFailure invalid
      obtain ⟨g, cause, -, blames⟩ := course.blames rfl
      obtain rfl := blames.eq_blankText
      cases cause
      rfl

/-- There is one failure at most that a request can be blamed for. -/
theorem Blames.eq_objection {f : Failure} (h : Blames Embeds q b w nested f)
    (invalid : f.kind = .invalidParameter) : f = q.objection b := by
  cases h with
  | options gate sanitized =>
    have same := Purpose.sanitize_sameButName q.purpose (w.names w.drawn) (Uuid.ofBytes []) q.raw
    rw [sanitized] at same
    unfold Request.objection
    generalize q.purpose.sanitize (Uuid.ofBytes []) q.raw = sanitized at same
    cases same
    rfl
  | payload admitted objects => rw [admitted.objection_eq, objects]
  | file admitted ready => rw [admitted.objection_eq, ready]
  | vector admitted waits vector =>
    rw [admitted.objection_eq, waits]
    exact vector.eq_of_invalid invalid

/-- What is said to end users about a failure. An invalid parameter is put in words that the request
and the broker determine, so that they are the same in every world: nothing that a provider has
answered gets into them. Any other failure is put in a fixed sentence for its kind, or in the one
for a picture that its provider has refused. -/
theorem message_of_failure {code : UInt16} {message details : String} {kind : Failure.Kind}
    (made : q.make b w = .ok ((.failure code message details kind, b'), w')) :
    (kind = .invalidParameter → message = (q.objection b).userMessage) ∧
      (kind ≠ .invalidParameter →
        message ∈ kind.sentences ∨ kind = .providerError ∧ RefusedPicture q b w message) := by
  obtain ⟨nested, course⟩ := make_eq_ok_iff.1 made
  refine ⟨?_, course.message_mem_sentences⟩
  rintro rfl
  obtain ⟨f, cause, invalid, blames⟩ := course.blames rfl
  obtain ⟨-, rfl, -, -⟩ := Response.failure.inj cause
  rw [blames.eq_objection invalid]

/-- A run that ends in a failure of a kind. -/
theorem exists_failure_of_kind {kind : Failure.Kind}
    (h : (q.make b w).toOption.map (fun s => s.1.1.kind?) = some (some kind)) :
    ∃ code message details b' w',
      q.make b w = .ok ((.failure code message details kind, b'), w') := by
  cases made : q.make b w with
  | error e => rw [made] at h; cases h
  | ok s =>
    obtain ⟨⟨r, b'⟩, w'⟩ := s
    rw [made] at h
    cases r with
    | success => cases h
    | failure code message details kind' => cases h; exact ⟨_, _, _, _, _, rfl⟩

/-- The unknown sender is put in the same words whatever the page says that was fetched before, and
what a model has said in place of an answer does not show. -/
theorem message_of_samples :
    (∀ page ∈ ["", "secret"], ∃ code details b' w',
      Sample.strangersConversation.make (Sample.broker 1) (Sample.world [page]) =
        .ok ((.failure code (Sample.strangersConversation.objection (Sample.broker 1)).userMessage
          details .invalidParameter, b'), w')) ∧
      ∃ code message details b' w',
        Sample.chat.make (Sample.broker 1) (Sample.world ["secret"]) =
          .ok ((.failure code message details .malformedResponse, b'), w') ∧
        message ∈ Failure.Kind.sentences .malformedResponse := by
  constructor
  · intro page listed
    have kind : (Sample.strangersConversation.make (Sample.broker 1)
        (Sample.world [page])).toOption.map (fun s => s.1.1.kind?) =
          some (some .invalidParameter) := by
      simp only [List.mem_cons, List.not_mem_nil, or_false] at listed
      rcases listed with rfl | rfl <;> decide +kernel
    obtain ⟨code, message, details, b', w', made⟩ := exists_failure_of_kind kind
    obtain rfl := (message_of_failure made).1 rfl
    exact ⟨code, details, b', w', made⟩
  · have kind : (Sample.chat.make (Sample.broker 1)
        (Sample.world ["secret"])).toOption.map (fun s => s.1.1.kind?) =
          some (some .malformedResponse) := by decide +kernel
    obtain ⟨code, message, details, b', w', made⟩ := exists_failure_of_kind kind
    exact ⟨code, message, details, b', w', made,
      ((message_of_failure made).2 (by decide)).resolve_right fun picture => nomatch picture.1⟩

end Broker

end PromptBroker
