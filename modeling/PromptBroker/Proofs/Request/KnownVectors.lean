import PromptBroker.Proofs.Request.Returns
import PromptBroker.Proofs.Request.Upkeep
import PromptBroker.Proofs.Request.Verdict

/-!
# Vectors that are known

If the settings say so, the vector of a text that has been embedded before is used again.
A cache should not show: whoever asks should get the vector that the instance assigned to
the role of the caller yields, as if nothing were known.

What is known is known by the text alone. So the vector is that of the instance that was
asked first, whoever asks now and whatever has been assigned since, and it is the right
one exactly if both instances yield the same (`recalls_of_session`).
-/

namespace PromptBroker

open Http (Heard Hears Delivers)

/-- What providers answer, by the address and the body of what they are asked. -/
abbrev Answering := String → Http.Body → Option Heard

namespace Embedding

/-- What is heard when an instance is asked for the vector of a text. -/
def heard? (f : Answering) (i : Instance) (text : String) : Option Heard :=
  match payload i text, Connector.openaiHeaders i with
  | .ok p, .ok h => if (p.request? h).isSome then f p.url p.body else none
  | _, _ => none

/-- The vector that an instance finds in the body of an answer. -/
def find? (i : Instance) (body : ByteArray) : Option (List Float32) :=
  match decode i body with
  | .ok (.text _ _ content) => (readVector content).toOption
  | _ => none

/-- The vector in what is heard of an instance. -/
def read? (i : Instance) : Option Heard → Option (List Float32)
  | some answer => if Http.Status.isSuccess answer.status then find? i answer.body else none
  | none => none

/-- The vector that an instance yields for a text. -/
def vector? (f : Answering) (i : Instance) (text : String) : Option (List Float32) :=
  read? i (heard? f i text)

theorem vector?_of_unheard {f : Answering} {i : Instance} {text : String}
    (unheard : heard? f i text = none) : vector? f i text = none := by
  unfold vector?
  rw [unheard]
  rfl

theorem read?_of_failure (i : Instance) {heard : Option Heard} {code : UInt16}
    {message details : String} {body : Option String}
    (delivers : Delivers heard (.failure code message details body)) : read? i heard = none := by
  cases delivers with
  | nothing => rfl
  | error refused => exact if_neg (by simp [refused])

theorem read?_of_success (i : Instance) {heard : Option Heard} {status : UInt16} {body : ByteArray}
    (delivers : Delivers heard (.success status body)) :
    read? i heard = find? i body := by
  cases delivers with
  | success accepted => exact if_pos accepted

/-- Temperatures have nothing to do with vectors. -/
theorem vector?_of_alike {i j : Instance} (h : i.Alike j) (f : Answering) (text : String) :
    vector? f i text = vector? f j text := by
  cases h <;> rfl

end Embedding

namespace Broker

variable {f : Answering} {caller : Caller} {text : String} {b b' b₁ b₂ : Broker}
  {w w' w₁ w₂ : World} {route : Route} {name : String} {i : Instance} {c c' : Connector}
  {o : Options} {nested : Option Response} {r : Response} {vector : List Float32}

/-! ### The vector of the assigned instance -/

/-- The vector that the instance assigned to a role yields for a text. -/
def assignedVector? (f : Answering) (b : Broker) (r : Role) (text : String) :
    Option (List Float32) :=
  match b.config.instanceFor .embedding r with
  | .ok (_, i) => Embedding.vector? f i text
  | .error _ => none

theorem alike_of_obtain (obtained : b.obtain name i = (.ok c, b')) : c.config.Alike i := by
  unfold obtain at obtained
  split at obtained
  · next kept =>
    cases obtained
    exact Instance.alike_of_isSameAs (connector?_eq_some.1 kept).2
  · split at obtained
    · next made =>
      cases obtained
      rw [(Connector.of_ofInstance made).1]
      exact .refl i
    · cases obtained

/-- The gate leads to a connector that yields what the assigned instance does. -/
theorem assignedVector?_of_gate (gate : b.gate .embedding caller = (.ok route, b'))
    (f : Answering) (text : String) :
    b.assignedVector? f caller.role text = Embedding.vector? f route.connector.config text := by
  have resolved := resolve_of_gate gate
  obtain ⟨i, routed, obtained, -⟩ := obtain_of_resolve (congrArg Prod.fst resolved)
  unfold assignedVector?
  rw [routed]
  exact (Embedding.vector?_of_alike (alike_of_obtain obtained) f text).symm

/-- Whoever is asked for the vector of a caller's text answers by a function of address and body. -/
def Replies (f : Answering) (caller : Caller) (text : String) (b : Broker) (w : World) : Prop :=
  ∀ route b' p h, b.gate .embedding caller = (.ok route, b') →
    Embedding.payload route.connector.config text = .ok p →
    Connector.openaiHeaders route.connector.config = .ok h → (p.request? h).isSome = true →
    Hears p h w.drawName (f p.url p.body)

theorem Replies.hears (replies : Replies f caller text b w)
    (gate : b.gate .embedding caller = (.ok route, b')) {p : Http.Payload} {h : Http.Headers}
    (payload : Embedding.payload route.connector.config text = .ok p)
    (headers : Connector.openaiHeaders route.connector.config = .ok h) :
    Hears p h w.drawName (Embedding.heard? f route.connector.config text) := by
  unfold Embedding.heard?
  rw [payload, headers]
  dsimp only
  split
  · next sent => exact replies route b' p h gate payload headers sent
  · next unsent => exact .unsent (Option.not_isSome_iff_eq_none.1 unsent)

/-! ### Embedding requests -/

/-- What an embedding request is that passes the gate. -/
theorem Admitted.of_embedding {route' : Route} {t : String}
    (admitted : Admitted (.embedding caller text) b w route' o t b₂ w₁)
    (gate : b.gate .embedding caller = (.ok route, b₁)) :
    route = route' ∧ text = t ∧ w₁ = w.drawName := by
  cases gate.symm.trans admitted.gate
  obtain ⟨rfl, rfl⟩ := Run.pure_eq_ok.1 admitted.formatted
  exact ⟨rfl, rfl, rfl⟩

/-- An embedding request has its payload at once. -/
theorem Prepares.of_embedding {E : Embedding} {p : Outcome Http.Payload}
    (admitted : Admitted (.embedding caller text) b w route o text b₁ w₁)
    (prepares : Prepares E caller route text o b₁ w₁ nested p c b₂ w₂) :
    p = Embedding.payload route.connector.config text ∧ c = route.connector ∧ w₂ = w₁ := by
  have direct := Connector.plan_of_payload (b₁.flags.status VectorStore.flagKey)
    (payload?_of_embedding admitted text)
  cases prepares with
  | ready plan | unplanned plan =>
    rw [direct] at plan
    obtain ⟨planned, rfl⟩ := Run.pure_eq_ok.1 plan
    cases payload : Embedding.payload route.connector.config text <;>
      rw [payload] at planned <;> cases planned
    exact ⟨rfl, rfl, rfl⟩
  | embedded plan =>
    rw [direct] at plan
    obtain ⟨planned, -⟩ := Run.pure_eq_ok.1 plan
    cases payload : Embedding.payload route.connector.config text <;>
      rw [payload] at planned <;> cases planned

/-- What comes of submitting the payload of an embedding request. -/
inductive Submitted (i : Instance) (p : Http.Payload) (w : World) : Outcome Delivery → Prop
  | unsigned {e} (headers : Connector.openaiHeaders i = .error e) : Submitted i p w (.error e)
  | sent {h d after} (headers : Connector.openaiHeaders i = .ok h)
      (submitted : Http.submit p h w = .ok (d, after)) : Submitted i p w (.ok d)

theorem Submits.of_embedding (binding : c.binding = .embeddings) {p : Http.Payload}
    {d : Outcome Delivery} (submits : Submits name c p b w d c' b' w') :
    Submitted c.config p w d ∧ c' = c := by
  have direct : c.headers = pure (Connector.openaiHeaders c.config, c) := by
    unfold Connector.headers
    rw [binding]
  cases submits with
  | unsigned headers =>
    rw [direct] at headers
    obtain ⟨refused, rfl⟩ := Prod.mk.inj (Run.pure_eq_ok.1 headers).1
    exact ⟨.unsigned refused, rfl⟩
  | sent headers send =>
    rw [direct] at headers
    obtain ⟨made, rfl⟩ := Run.pure_eq_ok.1 headers
    obtain ⟨signed, rfl⟩ := Prod.mk.inj made
    have plain : c.provider ∈ plainProviders := by
      rw [Connector.provider, binding]
      decide
    rw [Connector.send_of_plain plain] at send
    obtain ⟨d, w₁, submitted, send⟩ := Run.bind_eq_ok.1 send
    cases (Run.pure_eq_ok.1 send).1
    exact ⟨.sent signed submitted, rfl⟩

/-- What is delivered is what is heard of the instance. -/
theorem Submitted.heard (replies : Replies f caller text b w)
    (gate : b.gate .embedding caller = (.ok route, b')) {p : Http.Payload} {d : Delivery}
    (payload : Embedding.payload route.connector.config text = .ok p)
    (submitted : Submitted route.connector.config p w.drawName (.ok d)) :
    Delivers (Embedding.heard? f route.connector.config text) d := by
  cases submitted with
  | sent headers submitted => exact (replies.hears gate payload headers).delivers submitted

theorem Course.eq_of_barred {e : Failure} (gate : b.gate .embedding caller = (.error e, b₁))
    (course : Course NoVector (.embedding caller text) b w nested r b' w') : r = .ofFailure e := by
  cases course with
  | barred gate' => cases gate.symm.trans gate'; rfl
  | refused gate' => cases gate.symm.trans gate'
  | unprepared admitted | unsigned admitted | undelivered admitted | answered admitted =>
    cases gate.symm.trans admitted.gate

/-- What is made of an answer is the vector that is found in it. -/
theorem vectorOf_respond (embeddings : c.binding = .embeddings) {body : ByteArray}
    {user context : Int} {files files' : Files}
    (responded : c.respond body o user context files = (r, files')) (config : Configuration)
    (role : Role) : vectorOf config role (r.mapContent (Purpose.embedding.formatOutput o)) =
      .ok vector ↔ Embedding.find? c.config body = some vector := by
  have decode : c.decode body o = Embedding.decode c.config body := by
    unfold Connector.decode
    rw [embeddings]
  unfold Embedding.find?
  unfold Connector.respond at responded
  rw [decode] at responded
  rcases decoded : Embedding.decode c.config body with e | ⟨model, usage, content⟩ | bytes
  · rw [decoded] at responded
    cases responded
    exact iff_of_false nofun nofun
  · rw [decoded] at responded
    cases responded
    show Embedding.readVector content = .ok vector ↔
      (Embedding.readVector content).toOption = some vector
    cases Embedding.readVector content <;> simp [Except.toOption]
  · exact absurd (decode.trans decoded) (Connector.decode_ne_file (.inr embeddings) body o bytes)

/-- An embedding request that passes the gate comes to the vector that its connector yields, if it
yields one. -/
theorem Course.vectorOf_eq_ok_iff (replies : Replies f caller text b w)
    (gate : b.gate .embedding caller = (.ok route, b₁))
    (course : Course NoVector (.embedding caller text) b w nested r b' w') (config : Configuration)
    (role : Role) : vectorOf config role r = .ok vector ↔
      Embedding.vector? f route.connector.config text = some vector := by
  have embeddings : route.connector.binding = .embeddings :=
    Connector.binding_of_embedding (serves_of_gate (q := .embedding caller text) gate)
  cases course with
  | barred gate' => cases gate.symm.trans gate'
  | refused _ sanitized =>
    cases sanitized.symm.trans (Purpose.sanitize_embedding (w.names w.drawn))
  | unprepared admitted prepares =>
    obtain ⟨rfl, rfl, rfl⟩ := admitted.of_embedding gate
    obtain ⟨payload, -, -⟩ := prepares.of_embedding admitted
    have unheard : Embedding.heard? f route.connector.config text = none := by
      unfold Embedding.heard?
      rw [← payload]
    rw [Embedding.vector?_of_unheard unheard]
    exact iff_of_false nofun nofun
  | unsigned admitted prepares submits =>
    obtain ⟨rfl, rfl, rfl⟩ := admitted.of_embedding gate
    obtain ⟨payload, rfl, rfl⟩ := prepares.of_embedding admitted
    cases (submits.of_embedding embeddings).1 with
    | unsigned headers =>
    have unheard : Embedding.heard? f route.connector.config text = none := by
      unfold Embedding.heard?
      rw [← payload, headers]
    rw [Embedding.vector?_of_unheard unheard]
    exact iff_of_false nofun nofun
  | undelivered admitted prepares submits =>
    obtain ⟨rfl, rfl, rfl⟩ := admitted.of_embedding gate
    obtain ⟨payload, rfl, rfl⟩ := prepares.of_embedding admitted
    have delivers := (submits.of_embedding embeddings).1.heard replies gate payload.symm
    rw [Embedding.vector?, Embedding.read?_of_failure _ delivers]
    exact iff_of_false nofun nofun
  | answered admitted prepares submits responded =>
    obtain ⟨rfl, rfl, rfl⟩ := admitted.of_embedding gate
    obtain ⟨payload, rfl, rfl⟩ := prepares.of_embedding admitted
    obtain ⟨submitted, rfl⟩ := submits.of_embedding embeddings
    have delivers := submitted.heard replies gate payload.symm
    rw [Embedding.vector?, Embedding.read?_of_success _ delivers]
    exact vectorOf_respond embeddings responded config role

/-- A vector that comes of an embedding request is that of the assigned instance. -/
theorem assignedVector?_of_course (replies : Replies f caller text b w)
    (course : Course NoVector (.embedding caller text) b w nested r b' w') {config : Configuration}
    {role : Role} (returned : vectorOf config role r = .ok vector) :
    b.assignedVector? f caller.role text = some vector := by
  rcases gate : b.gate .embedding caller with ⟨e | route, b₁⟩
  · rw [course.eq_of_barred gate] at returned
    cases returned
  · rw [assignedVector?_of_gate gate]
    exact (course.vectorOf_eq_ok_iff replies gate config role).1 returned

/-- Where nothing is known, a vector that is returned is that of the assigned instance. -/
theorem assignedVector?_of_embedAnew (replies : Replies f caller text b w)
    (embedded : embedAnew caller text b w = .ok ((.ok vector, b'), w')) :
    b.assignedVector? f caller.role text = some vector := by
  obtain ⟨r, course, returned⟩ := embedAnew_eq_ok.1 embedded
  exact assignedVector?_of_course replies course returned.symm

/-! ### What requests do to what is known -/

/-- What is known stays, and so do the settings. -/
structure Retains (b b' : Broker) : Prop where
  settings : b'.settings = b.settings
  vectors : b'.vectors = b.vectors

theorem Retains.refl (b : Broker) : Retains b b := ⟨rfl, rfl⟩

theorem Retains.trans (h : Retains b b₁) (h' : Retains b₁ b') : Retains b b' :=
  ⟨h'.settings.trans h.settings, h'.vectors.trans h.vectors⟩

theorem retains_planned (b : Broker) (name : String) (c : Connector) (flag : SetupStatus) :
    Retains b (b.planned name c flag) := by
  unfold planned updateFlag
  split <;> exact ⟨rfl, rfl⟩

theorem Rewired.retains (h : Rewired b b') : Retains b b' := by
  obtain ⟨connectors, rfl⟩ := h
  exact ⟨rfl, rfl⟩

/-- What is known changes with the embedder only. -/
inductive Embedding.Between (E : Embedding) (caller : Caller) (b : Broker)
    (nested : Option Response) (b' : Broker) : Prop
  | nowhere (retains : Retains b b')
  | somewhere {text before w v after w'} (retains : Retains b before)
      (vector : E caller text before w nested v after w') (retains' : Retains after b')

theorem Embedding.Between.extend {E : Embedding} (h : E.Between caller b₁ nested b₂)
    (retains : Retains b b₁) (retains' : Retains b₂ b') : E.Between caller b nested b' := by
  cases h with
  | nowhere through => exact .nowhere ((retains.trans through).trans retains')
  | somewhere before vector after =>
    exact .somewhere (retains.trans before) vector (after.trans retains')

theorem Prepares.between {E : Embedding} {p : Outcome Http.Payload}
    (h : Prepares E caller route text o b w nested p c b' w') : E.Between caller b nested b' := by
  cases h with
  | ready | unplanned => exact .nowhere (retains_planned ..)
  | embedded plan vector => exact .somewhere (retains_planned ..) vector (.refl _)

theorem Course.between {E : Embedding} {q : Request} (h : Course E q b w nested r b' w') :
    E.Between q.caller b nested b' := by
  cases h with
  | barred gate | refused gate => exact .nowhere (rewired_of_gate gate).retains
  | unprepared admitted prepares =>
    exact prepares.between.extend admitted.rewired.retains (.refl _)
  | unsigned admitted prepares submits | undelivered admitted prepares submits =>
    exact prepares.between.extend admitted.rewired.retains submits.rewired.retains
  | answered admitted prepares submits =>
    exact prepares.between.extend admitted.rewired.retains
      (submits.rewired.retains.trans ⟨rfl, rfl⟩)

theorem retains_of_embedding
    (h : Course NoVector (.embedding caller text) b w nested r b' w') : Retains b b' := by
  cases h.between with
  | nowhere retains => exact retains
  | somewhere before vector after =>
    obtain ⟨-, -, rfl, -⟩ := vector
    exact before.trans after

/-! ### Sessions -/

/-- The brokers that come of one that knows no vectors, with the instance that was asked for each
text whose vector is known. -/
inductive Session (f : Answering) : Keyed Instance → Broker → Prop
  | start {b : Broker} (caching : b.settings.usesEmbeddingCache = true) (fresh : b.vectors = []) :
      Session f [] b
  /-- The vector of another text comes to be known. -/
  | learn {sources : Keyed Instance} {b b' : Broker} {w w' : World} {caller : Caller}
      {text name : String} {i : Instance} {vector : List Float32} (session : Session f sources b)
      (unknown : b.vectors.get? text = none)
      (assigned : b.config.instanceFor .embedding caller.role = .ok (name, i))
      (replies : Replies f caller text b w)
      (embedded : Broker.embed caller text b w = .ok ((.ok vector, b'), w')) :
      Session f (sources.insert text i) b'
  /-- Anything else may change at any time, as long as vectors are kept. -/
  | aside {sources : Keyed Instance} {b b' : Broker} (session : Session f sources b)
      (caching : b'.settings.usesEmbeddingCache = true) (vectors : b'.vectors = b.vectors) :
      Session f sources b'

/-- How a text stands in a session: the instance that was asked for it yields the known vector. -/
inductive Standing (f : Answering) (sources : Keyed Instance) (b : Broker) (text : String) : Prop
  | unknown (unknown : b.vectors.get? text = none) (unasked : sources.get? text = none)
  | known {i : Instance} {vector : List Float32} (known : b.vectors.get? text = some vector)
      (asked : sources.get? text = some i)
      (yields : Embedding.vector? f i text = some vector)

variable {sources : Keyed Instance} {v : Outcome (List Float32)}

theorem Embeds.eq_of_known (embeds : Embeds caller text b w nested v b' w')
    (caching : b.settings.usesEmbeddingCache = true) (known : b.vectors.get? text = some vector) :
    v = .ok vector ∧ b' = b := by
  cases embeds with
  | known _ hit => cases known.symm.trans hit; exact ⟨rfl, rfl⟩
  | asked miss => cases known.symm.trans (miss caching)

/-- A vector that was not known is that of the assigned instance, and is known afterwards. -/
theorem Embeds.learns (embeds : Embeds caller text b w nested (.ok vector) b' w')
    (caching : b.settings.usesEmbeddingCache = true) (unknown : b.vectors.get? text = none)
    (replies : Replies f caller text b w) :
    b.assignedVector? f caller.role text = some vector ∧ b'.settings = b.settings ∧
      b'.vectors = b.vectors.insert text vector := by
  generalize hv : Except.ok vector = v at embeds
  cases embeds with
  | known _ hit => cases unknown.symm.trans hit
  | asked _ course =>
    have retains := retains_of_embedding course
    rw [← hv, caching]
    refine ⟨assignedVector?_of_course replies course hv.symm, retains.settings, ?_⟩
    rw [← retains.vectors]
    rfl

/-- A failure to embed a text leaves what is known alone. -/
theorem Embeds.retains_of_error {e : Failure}
    (embeds : Embeds caller text b w nested (.error e) b' w') : Retains b b' := by
  generalize hv : Except.error e = v at embeds
  cases embeds with
  | known => cases hv
  | asked _ course =>
    rw [← hv]
    exact retains_of_embedding course

theorem Session.caching (session : Session f sources b) :
    b.settings.usesEmbeddingCache = true := by
  induction session with
  | start caching => exact caching
  | learn _ unknown _ replies embedded ih =>
    obtain ⟨nested, embeds⟩ := (embed_describes ..).1 embedded
    rw [(embeds.learns ih unknown replies).2.1]
    exact ih
  | aside _ caching => exact caching

theorem assignedVector?_of_instanceFor {role : Role}
    (assigned : b.config.instanceFor .embedding role = .ok (name, i)) :
    b.assignedVector? f role text = Embedding.vector? f i text := by
  unfold assignedVector?
  rw [assigned]

/-- In every session each known vector is the one that the instance asked for it yields. -/
theorem Session.standing (session : Session f sources b) (text : String) :
    Standing f sources b text := by
  induction session with
  | start _ fresh => exact .unknown (fresh ▸ Keyed.get?_nil text) (Keyed.get?_nil text)
  | @learn sources b b' w w' caller text' name i vector session unknown assigned replies embedded
      ih =>
    obtain ⟨nested, embeds⟩ := (embed_describes ..).1 embedded
    obtain ⟨yields, -, vectors⟩ := embeds.learns session.caching unknown replies
    -- The new text stands as the embedding has left it, any other as it did.
    by_cases same : text = text'
    · subst same
      rw [assignedVector?_of_instanceFor assigned] at yields
      exact .known (vectors ▸ Keyed.get?_insert_self ..) (Keyed.get?_insert_self ..) yields
    · have vector_eq : b'.vectors.get? text = b.vectors.get? text := by
        simp [vectors, same]
      have source_eq : (sources.insert text' i).get? text = sources.get? text := by simp [same]
      cases ih with
      | unknown unknown unasked =>
        exact .unknown (vector_eq.trans unknown) (source_eq.trans unasked)
      | known known asked yields =>
        exact .known (vector_eq.trans known) (source_eq.trans asked) yields
  | aside _ _ vectors ih =>
    cases ih with
    | unknown unknown unasked => exact .unknown (vectors ▸ unknown) unasked
    | known known asked yields => exact .known (vectors ▸ known) asked yields

/-! ### What sessions recall -/

/-- The instance that was asked for a text, if its vector is known, yields what the one assigned to
the role does. -/
def Agrees (f : Answering) (sources : Keyed Instance) (b : Broker) (role : Role) (text : String) :
    Prop :=
  ∀ i, sources.get? text = some i → Embedding.vector? f i text = b.assignedVector? f role text

/-- The broker's embedder, where whoever is asked answers by a function of address and body. -/
def Replied (f : Answering) : Embedding := fun caller text b w nested v b' w' =>
  Replies f caller text b w ∧ Embeds caller text b w nested v b' w'

/-- What embedding a text comes to in a session. -/
structure Recalls (f : Answering) (sources : Keyed Instance) (b : Broker) : Prop where
  /-- If nothing were known, a caller who passes the gate would be given what the instance assigned
  to the role yields. -/
  anew_iff : ∀ caller text vector w route b₁, b.gate .embedding caller = (.ok route, b₁) →
    Replies f caller text b w → ((∃ b' w', embedAnew caller text b w = .ok ((.ok vector, b'), w')) ↔
      b.assignedVector? f caller.role text = some vector)
  /-- What a caller is given is what this instance yields exactly if the instance that was asked for
  the text agrees. -/
  assigned_iff : ∀ caller text vector w b' w', Replies f caller text b w →
    Broker.embed caller text b w = .ok ((.ok vector, b'), w') →
      (b.assignedVector? f caller.role text = some vector ↔ Agrees f sources b caller.role text)
  /-- Exactly then it is the same as if nothing were known. -/
  same_iff : ∀ caller text vector w b' w', Replies f caller text b w →
    Broker.embed caller text b w = .ok ((.ok vector, b'), w') →
      ∀ vector₁ w₁ b₂ w₂, Replies f caller text b w₁ →
        embedAnew caller text b w₁ = .ok ((.ok vector₁, b₂), w₂) →
          (vector = vector₁ ↔ Agrees f sources b caller.role text)
  /-- Whatever has come of it, the session goes on, -/
  embedded : ∀ caller text v w b' w', Replies f caller text b w →
    Broker.embed caller text b w = .ok ((v, b'), w') → ∃ sources', Session f sources' b'
  /-- and so it does after any request. -/
  requested : ∀ q w nested r b' w', Course (Replied f) q b w nested r b' w' →
    ∃ sources', Session f sources' b'

theorem exists_instanceFor {role : Role}
    (assigned : b.assignedVector? f role text = some vector) :
    ∃ name i, b.config.instanceFor .embedding role = .ok (name, i) := by
  unfold assignedVector? at assigned
  split at assigned
  · exact ⟨_, _, ‹_›⟩
  · cases assigned

theorem Session.assigned_iff (session : Session f sources b) (replies : Replies f caller text b w)
    (embedded : Broker.embed caller text b w = .ok ((.ok vector, b'), w')) :
    b.assignedVector? f caller.role text = some vector ↔ Agrees f sources b caller.role text := by
  obtain ⟨nested, embeds⟩ := (embed_describes ..).1 embedded
  unfold Agrees
  cases session.standing text with
  | unknown unknown unasked =>
    refine iff_of_true (embeds.learns session.caching unknown replies).1 fun i asked => ?_
    cases unasked.symm.trans asked
  | known known asked yields =>
    cases (embeds.eq_of_known session.caching known).1
    constructor
    · intro assigned i asked'
      cases asked.symm.trans asked'
      exact yields.trans assigned.symm
    · intro agrees
      exact (agrees _ asked).symm.trans yields

theorem Session.of_embeds (session : Session f sources b) (replies : Replies f caller text b w)
    (embeds : Embeds caller text b w nested v b' w') : ∃ sources', Session f sources' b' := by
  cases standing : session.standing text with
  | known known =>
    obtain ⟨-, rfl⟩ := embeds.eq_of_known session.caching known
    exact ⟨sources, session⟩
  | unknown unknown =>
    cases v with
    | error e =>
      have retains := embeds.retains_of_error
      have caching : b'.settings.usesEmbeddingCache = true := by
        rw [retains.settings]
        exact session.caching
      exact ⟨sources, session.aside caching retains.vectors⟩
    | ok vector =>
      have learns := embeds.learns session.caching unknown replies
      obtain ⟨name, i, assigned⟩ := exists_instanceFor learns.1
      exact ⟨_, session.learn unknown assigned replies ((embed_describes ..).2 ⟨nested, embeds⟩)⟩

theorem Session.retains (session : Session f sources b) (h : Retains b b') :
    Session f sources b' :=
  session.aside (by rw [h.settings]; exact session.caching) h.vectors

theorem Session.of_course {q : Request} (session : Session f sources b)
    (course : Course (Replied f) q b w nested r b' w') : ∃ sources', Session f sources' b' := by
  cases course.between with
  | nowhere retains => exact ⟨sources, session.retains retains⟩
  | somewhere before vector after =>
    obtain ⟨sources', session'⟩ := (session.retains before).of_embeds vector.1 vector.2
    exact ⟨sources', session'.retains after⟩

theorem exists_embedAnew (gate : b.gate .embedding caller = (.ok route, b₁))
    (replies : Replies f caller text b w)
    (assigned : b.assignedVector? f caller.role text = some vector) :
    ∃ b' w', embedAnew caller text b w = .ok ((.ok vector, b'), w') := by
  obtain ⟨r, b', w', course⟩ := exists_embedding caller text b w
  rw [assignedVector?_of_gate gate] at assigned
  have returned := (course.vectorOf_eq_ok_iff replies gate b'.config caller.role).2 assigned
  exact ⟨b', w', embedAnew_eq_ok.2 ⟨r, course, returned.symm⟩⟩

/-! ### Two models -/

namespace Sample

/-- An instance for embeddings. -/
def deployed (name : String) : Instance :=
  { name := name, provider := .embeddings, model := name, endpoint := "http://[::1]/" ++ name,
    apiKey := some "key" }

/-- A small model embeds for the basic role and a large one for the others; these vectors are
known. -/
def knowing (vectors : Keyed (List Float32)) : Broker where
  settings := { usesEmbeddingCache := true }
  config :=
    { instances := [("large", deployed "large"), ("small", deployed "small")]
      assignment? := fun _ r => some (if r = .basic then "small" else "large")
      limit := fun _ _ => 1 }
  connectors := [("large", ⟨deployed "large", .embeddings⟩),
    ("small", ⟨deployed "small", .embeddings⟩)]
  vectors := vectors

/-- A caller of another role. -/
def colleague : Caller := ⟨43, "school", .extended⟩

/-- The answer with a vector of one number. -/
def numbered (number : String) : String :=
  "\x7b\"data\":[\x7b\"embedding\":[" ++ number ++ "]\x7d]\x7d"

/-- The number that is the vector of the model at an address. -/
def number (url : String) : String := if url = "http://[::1]/small" then "1" else "2"

/-- The two models answer differently. -/
def modelAnswers : Answering := fun url _ => some ⟨200, (numbered (number url)).toUTF8⟩

/-- What a model is asked. -/
def asked (name : String) : Http.Payload :=
  .postJson ("http://[::1]/" ++ name)
    (Json.ofMembers [("input", .string "Hello"), ("model", .string name)])

/-- With which headers. -/
def signed : Http.Headers := Http.Headers.json.authorize "key"

theorem payload_deployed (name : String) :
    Embedding.payload (deployed name) "Hello" = .ok (asked name) := by
  have there : Text.isAllBlank "Hello" = false := by simp [Text.isAllBlank, Text.isBlank]
  rw [Embedding.payload, there]
  rfl

theorem headers_deployed (name : String) :
    Connector.openaiHeaders (deployed name) = .ok signed := by
  have sound : Http.Headers.isValue "key" = true := by
    simp [Http.Headers.isValue, Http.Headers.allows]
  exact if_pos sound

/-- The text of a content. -/
def text? : Content → Option String
  | .text _ _ text => some text
  | .file _ => none

theorem find?_of_text {body : ByteArray} (content : String)
    (decoded : (Embedding.decode i body).toOption.bind text? = some content)
    (there : Text.isAllBlank content = false)
    (read : (Embedding.parts content.toList).mapM Embedding.readEntry = .ok vector) :
    Embedding.find? i body = some vector := by
  unfold Embedding.find?
  rcases found : Embedding.decode i body with e | ⟨model, usage, content'⟩ | bytes
  · rw [found] at decoded
    cases decoded
  · rw [found] at decoded
    cases decoded
    dsimp only
    rw [Embedding.readVector, there, if_neg Bool.false_ne_true, read]
    rfl
  · rw [found] at decoded
    cases decoded

theorem vector?_deployed (sent : ((asked name).request? signed).isSome = true)
    (found : Embedding.find? (deployed name) (numbered (number (asked name).url)).toUTF8 =
      some vector) : Embedding.vector? modelAnswers (deployed name) "Hello" = some vector := by
  unfold Embedding.vector? Embedding.heard?
  rw [payload_deployed, headers_deployed]
  dsimp only
  rw [if_pos sent]
  exact found

theorem vector?_small :
    Embedding.vector? modelAnswers (deployed "small") "Hello" = some [1] := by
  refine vector?_deployed (by decide +kernel)
    (find?_of_text "1" (by decide +kernel) ?_ (by decide +kernel))
  simp [Text.isAllBlank, Text.isBlank]

theorem vector?_large :
    Embedding.vector? modelAnswers (deployed "large") "Hello" = some [2] := by
  refine vector?_deployed (by decide +kernel)
    (find?_of_text "2" (by decide +kernel) ?_ (by decide +kernel))
  simp [Text.isAllBlank, Text.isBlank]

/-- A model that answers a submission is one that answers by address and body. -/
theorem replies_deployed
    (gate : b.gate .embedding caller = (.ok ⟨name, ⟨deployed name, .embeddings⟩⟩, b'))
    (delivered : (Http.submit (asked name) signed w.drawName).toOption.bind
      (fun s => Http.success? s.1) = some (200, (numbered (number (asked name).url)).toUTF8)) :
    Replies modelAnswers caller "Hello" b w := by
  intro route b'' p h gate' payload headers sent
  cases gate.symm.trans gate'
  cases (payload_deployed name).symm.trans payload
  cases (headers_deployed name).symm.trans headers
  obtain ⟨w', submitted⟩ := Http.submit_of_success? delivered
  exact Http.hears_of_submit submitted

/-- The small model serves the basic role. -/
theorem gate_basic (vectors : Keyed (List Float32)) :
    (knowing vectors).gate .embedding Sample.caller =
      (.ok ⟨"small", ⟨deployed "small", .embeddings⟩⟩, knowing vectors) := rfl

theorem replies_small (vectors : Keyed (List Float32)) :
    Replies modelAnswers Sample.caller "Hello" (knowing vectors)
      (.answering [(200, numbered "1")]) :=
  replies_deployed (gate_basic vectors) (by decide +kernel)

/-- The text is known since the small model was asked. -/
theorem session_knowing :
    Session modelAnswers [("Hello", deployed "small")] (knowing [("Hello", [1])]) := by
  have replies := replies_small []
  have assigned : (knowing []).assignedVector? modelAnswers .basic "Hello" = some [1] :=
    vector?_small
  obtain ⟨b', w', anew⟩ := exists_embedAnew (gate_basic []) replies assigned
  obtain ⟨r, course, returned⟩ := embedAnew_eq_ok.1 anew
  have embeds := Embeds.asked (fun _ => rfl) course
  rw [← returned] at embeds
  have learned := Session.learn (.start rfl rfl) rfl rfl replies
    ((embed_describes ..).2 ⟨_, embeds⟩)
  -- The accounts and the connectors are put back; what has been learned stays.
  exact learned.aside rfl (embeds.learns rfl rfl replies).2.2.symm

end Sample

/-! ### Any session -/

/-- In every session, whatever has been embedded for whom and whatever has been assigned since, a
vector that is known is used for a caller rightly exactly if the instance that was asked for it and
the one that is assigned now yield the same. -/
theorem recalls_of_session (session : Session f sources b) : Recalls f sources b := by
  constructor
  · intro caller text vector w route b₁ gate replies
    constructor
    · rintro ⟨b', w', embedded⟩
      exact assignedVector?_of_embedAnew replies embedded
    · intro assigned
      exact exists_embedAnew gate replies assigned
  · intro caller text vector w b' w'
    exact session.assigned_iff
  · intro caller text vector w b' w' replies embedded vector₁ w₁ b₂ w₂ replies₁ anew
    rw [← session.assigned_iff replies embedded, assignedVector?_of_embedAnew replies₁ anew,
      Option.some.injEq]
    exact eq_comm
  · intro caller text v w b' w' replies embedded
    obtain ⟨nested, embeds⟩ := (embed_describes ..).1 embedded
    exact session.of_embeds replies embeds
  · intro q w nested r b' w' course
    exact session.of_course course

/-- Another caller of the basic role is given the vector of the small model, and rightly. -/
theorem recalls_of_session_knowing :
    Session Sample.modelAnswers [("Hello", Sample.deployed "small")]
        (Sample.knowing [("Hello", [1])]) ∧
      Broker.embed Sample.caller "Hello" (Sample.knowing [("Hello", [1])])
          (.answering [(200, Sample.numbered "1")]) =
        .ok ((.ok [1], Sample.knowing [("Hello", [1])]), .answering [(200, Sample.numbered "1")]) ∧
      (Sample.knowing [("Hello", [1])]).assignedVector? Sample.modelAnswers .basic "Hello" =
        some [1] := by
  have known : Broker.embed Sample.caller "Hello" (Sample.knowing [("Hello", [1])])
      (.answering [(200, Sample.numbered "1")]) =
        .ok ((.ok [1], Sample.knowing [("Hello", [1])]), .answering [(200, Sample.numbered "1")]) :=
    embed_of_known rfl rfl
  refine ⟨Sample.session_knowing, known, ?_⟩
  have recalls := recalls_of_session Sample.session_knowing
  refine (recalls.assigned_iff _ _ _ _ _ _ (Sample.replies_small _) known).2 fun i asked => ?_
  cases asked
  rfl

/-- A text is embedded by the small model, and then again for a caller of another role, to which the
large one is assigned. The vector is still that of the small model. -/
theorem not_forall_assigned :
    ¬∀ (f : Answering) (sources : Keyed Instance) (b b' : Broker) (caller : Caller) (text : String)
      (w w' : World) (vector : List Float32), Session f sources b → Replies f caller text b w →
        Broker.embed caller text b w = .ok ((.ok vector, b'), w') →
          b.assignedVector? f caller.role text = some vector := by
  intro always
  have gate : (Sample.knowing [("Hello", [1])]).gate .embedding Sample.colleague =
      (.ok ⟨"large", ⟨Sample.deployed "large", .embeddings⟩⟩,
        Sample.knowing [("Hello", [1])]) := rfl
  have replies : Replies Sample.modelAnswers Sample.colleague "Hello"
      (Sample.knowing [("Hello", [1])]) (.answering [(200, Sample.numbered "2")]) :=
    Sample.replies_deployed gate (by decide +kernel)
  have wrong := always _ _ _ _ _ _ _ _ _ Sample.session_knowing replies (embed_of_known rfl rfl)
  rw [assignedVector?_of_gate gate, Sample.vector?_large] at wrong
  exact absurd wrong (by decide +kernel)

end Broker

end PromptBroker
