import PromptBroker.Proofs.Connector

/-!
# The course of a request

A request ends in one of six ways: it is turned away at the gate, its options are
refused, its payload or its headers cannot be made, it gets no answer with a
success status, or it is answered. `Course` lists them, each with what every step
before it did. A request returns a response exactly if it takes a course that ends
in this response (`make_eq_ok_iff`), so that whatever is to be known about requests
can be read off six cases.

The vector that a vector store needs comes from an embedder, which is described by
a relation of its own. A course shows the response to the embedding request that
was made on the way, if there was one (`Embeds`).
-/

namespace PromptBroker.Broker

/-! ### Requests -/

/-- A request of a caller. -/
structure Request where
  caller : Caller
  purpose : Purpose
  prompt : String
  /-- Where the caller stands, for the files that come of it. -/
  context : Int
  raw : Options

/-- Makes the request; vectors come from `embed`. -/
def Request.run (embed : Embedder) (q : Request) : Action Response :=
  requestWith embed q.caller q.purpose q.prompt q.context q.raw

/-- Makes the request the way the broker does. -/
def Request.make (q : Request) : Action Response :=
  request q.caller q.purpose q.prompt q.context q.raw

/-- The embedding request behind the vector of a text. -/
def Request.embedding (caller : Caller) (text : String) : Request :=
  ⟨caller, .embedding, text, 0, []⟩

/-! ### Embedders -/

/-- What an embedder does for a caller's text: the response to the embedding request it makes, if
it makes one, and what comes of it. -/
abbrev Embedding :=
  Caller → String → Broker → World →
    Option Response → Outcome (List Float32) → Broker → World → Prop

/-- The embedder returns what the relation says. -/
def Embedding.Describes (E : Embedding) (embed : Embedder) : Prop :=
  ∀ caller text b w v b' w', embed caller text b w = .ok ((v, b'), w') ↔
    ∃ nested, E caller text b w nested v b' w'

/-! ### Steps -/

/-- A request that has passed the gate and the check of its options, with its formatted prompt. -/
structure Admitted (q : Request) (b : Broker) (w : World) (route : Route) (o : Options)
    (text : String) (b' : Broker) (w' : World) : Prop where
  gate : b.gate q.purpose q.caller = (.ok route, b')
  sanitized : q.purpose.sanitize (w.names w.drawn) q.raw = .ok o
  formatted : q.purpose.formatPrompt q.prompt o w.drawName = .ok (text, w')

/-- The broker after a payload has been planned. -/
def planned (b : Broker) (name : String) (c : Connector) (flag : SetupStatus) : Broker :=
  (b.updateFlag (b.flags.status VectorStore.flagKey) flag).keep name c

/-- How the payload of a request comes about, with the connector as it is afterwards. -/
inductive Prepares (E : Embedding) (caller : Caller) (route : Route) (text : String) (o : Options)
    (b : Broker) (w : World) :
    Option Response → Outcome Http.Payload → Connector → Broker → World → Prop
  /-- It is there at once. -/
  | ready {p c flag w'}
      (plan : route.connector.plan (b.flags.status VectorStore.flagKey) text o w =
        .ok ((.ok (.ready p), c, flag), w')) :
      Prepares E caller route text o b w none (.ok p) c (b.planned route.name c flag) w'
  /-- There is none. -/
  | unplanned {f c flag w'}
      (plan : route.connector.plan (b.flags.status VectorStore.flagKey) text o w =
        .ok ((.error f, c, flag), w')) :
      Prepares E caller route text o b w none (.error f) c (b.planned route.name c flag) w'
  /-- The vector of the prompt is asked for first. -/
  | embedded {finish c flag w₁ nested v b' w'}
      (plan : route.connector.plan (b.flags.status VectorStore.flagKey) text o w =
        .ok ((.ok (.awaiting finish), c, flag), w₁))
      (vector : E caller text (b.planned route.name c flag) w₁ nested v b' w') :
      Prepares E caller route text o b w nested (v.bind finish) c b' w'

/-- Nothing is different but the connectors in use. -/
def Rewired (b b' : Broker) : Prop :=
  ∃ connectors, b' = { b with connectors := connectors }

/-- How a payload is submitted. -/
inductive Submits (name : String) (c : Connector) (p : Http.Payload) (b : Broker) (w : World) :
    Outcome Delivery → Connector → Broker → World → Prop
  /-- There are no headers for it. -/
  | unsigned {f c' w'} (headers : c.headers w = .ok ((.error f, c'), w')) :
      Submits name c p b w (.error f) c' (b.keep name c') w'
  /-- It is sent, whatever comes of it. -/
  | sent {h d c₁ w₁ c' w'} (headers : c.headers w = .ok ((.ok h, c₁), w₁))
      (send : c₁.send p h w₁ = .ok ((d, c'), w')) :
      Submits name c p b w (.ok d) c' ((b.keep name c₁).keep name c') w'

/-- The ledger after a response: a success is put on the account. -/
def charge (l : Ledger) (user : Int) (p : Purpose) (r : Response) : Ledger :=
  match r.usage? with
  | some usage => l.record user p usage
  | none => l

/-! ### Courses -/

/-- The course of a request: the response to the embedding request on the way, if there was one,
its own response, and broker and world as they are afterwards. -/
inductive Course (E : Embedding) (q : Request) (b : Broker) (w : World) :
    Option Response → Response → Broker → World → Prop
  /-- It is turned away at the gate. -/
  | barred {f b'} (gate : b.gate q.purpose q.caller = (.error f, b')) :
      Course E q b w none (.ofFailure f) b' w
  /-- Its options are refused. -/
  | refused {route f b'} (gate : b.gate q.purpose q.caller = (.ok route, b'))
      (sanitized : q.purpose.sanitize (w.names w.drawn) q.raw = .error f) :
      Course E q b w none (.ofFailure f) b' w.drawName
  /-- There is no payload for it. -/
  | unprepared {route o text b₁ w₁ nested f c b' w'}
      (admitted : Admitted q b w route o text b₁ w₁)
      (prepares : Prepares E q.caller route text o b₁ w₁ nested (.error f) c b' w') :
      Course E q b w nested (.ofFailure f) b' w'
  /-- There are no headers for it. -/
  | unsigned {route o text b₁ w₁ nested p c b₂ w₂ f c' b' w'}
      (admitted : Admitted q b w route o text b₁ w₁)
      (prepares : Prepares E q.caller route text o b₁ w₁ nested (.ok p) c b₂ w₂)
      (submits : Submits route.name c p b₂ w₂ (.error f) c' b' w') :
      Course E q b w nested (.ofFailure f) b' w'
  /-- It gets no answer with a success status. -/
  | undelivered {route o text b₁ w₁ nested p c b₂ w₂ code message details body c' b' w'}
      (admitted : Admitted q b w route o text b₁ w₁)
      (prepares : Prepares E q.caller route text o b₁ w₁ nested (.ok p) c b₂ w₂)
      (submits : Submits route.name c p b₂ w₂ (.ok (.failure code message details body)) c' b' w') :
      Course E q b w nested (failureResponse c' code message details body) b' w'
  /-- It is answered. -/
  | answered {route o text b₁ w₁ nested p c b₂ w₂ status body c' b₃ w' r files}
      (admitted : Admitted q b w route o text b₁ w₁)
      (prepares : Prepares E q.caller route text o b₁ w₁ nested (.ok p) c b₂ w₂)
      (submits : Submits route.name c p b₂ w₂ (.ok (.success status body)) c' b₃ w')
      (decoded : c'.respond body o q.caller.user q.context b₃.files = (r, files)) :
      Course E q b w nested (r.mapContent (q.purpose.formatOutput o))
        { b₃ with files := files, ledger := charge b₃.ledger q.caller.user q.purpose r } w'

/-! ### What stays -/

theorem Prepares.provider_eq {E : Embedding} {caller : Caller} {route : Route} {text : String}
    {o : Options} {b b' : Broker} {w w' : World} {nested : Option Response}
    {p : Outcome Http.Payload} {c : Connector}
    (h : Prepares E caller route text o b w nested p c b' w') :
    c.provider = route.connector.provider := by
  cases h with
  | ready plan => exact (Connector.plan_eq_ok.1 plan).provider_eq
  | unplanned plan => exact (Connector.plan_eq_ok.1 plan).provider_eq
  | embedded plan => exact (Connector.plan_eq_ok.1 plan).provider_eq

theorem Submits.provider_eq {name : String} {c c' : Connector} {p : Http.Payload}
    {b b' : Broker} {w w' : World} {d : Outcome Delivery} (h : Submits name c p b w d c' b' w') :
    c'.provider = c.provider := by
  cases h with
  | unsigned headers => exact Connector.provider_of_headers headers
  | sent headers send =>
    exact (Connector.provider_of_send send).trans (Connector.provider_of_headers headers)

theorem Submits.rewired {name : String} {c c' : Connector} {p : Http.Payload} {b b' : Broker}
    {w w' : World} {d : Outcome Delivery} (h : Submits name c p b w d c' b' w') :
    Rewired b b' := by
  cases h with
  | unsigned => exact ⟨_, rfl⟩
  | sent => exact ⟨_, rfl⟩

/-! ### Taking a course -/

variable {E : Embedding} {embed : Embedder} {b b' : Broker} {w w' : World}

theorem preparePayload_eq_ok (hE : E.Describes embed) {caller : Caller} {route : Route}
    {text : String} {o : Options} {x : Outcome Http.Payload × Route} :
    preparePayload embed caller route text o b w = .ok ((x, b'), w') ↔
      ∃ nested p c, x = (p, { route with connector := c }) ∧
        Prepares E caller route text o b w nested p c b' w' := by
  unfold preparePayload
  rw [Action.get_bind, Action.lift_bind_eq_ok]
  constructor
  · rintro ⟨⟨plan, c, flag⟩, w₁, hplan, h⟩
    dsimp only [Action.modify_bind] at h
    rcases plan with f | p | finish
    · obtain ⟨rfl, rfl, rfl⟩ := Action.pure_eq_ok.1 h
      exact ⟨none, _, c, rfl, .unplanned hplan⟩
    · obtain ⟨rfl, rfl, rfl⟩ := Action.pure_eq_ok.1 h
      exact ⟨none, _, c, rfl, .ready hplan⟩
    · obtain ⟨v, b₂, w₂, hv, h⟩ := Action.bind_eq_ok.1 h
      obtain ⟨rfl, rfl, rfl⟩ := Action.pure_eq_ok.1 h
      obtain ⟨nested, hv⟩ := (hE ..).1 hv
      exact ⟨nested, _, c, rfl, .embedded hplan hv⟩
  · rintro ⟨nested, p, c, rfl, h⟩
    cases h with
    | ready plan => exact ⟨_, _, plan, Action.pure_eq_ok.2 ⟨rfl, rfl, rfl⟩⟩
    | unplanned plan => exact ⟨_, _, plan, Action.pure_eq_ok.2 ⟨rfl, rfl, rfl⟩⟩
    | embedded plan vector =>
      refine ⟨_, _, plan, ?_⟩
      dsimp only [Action.modify_bind]
      exact Action.bind_eq_ok.2 ⟨_, _, _, (hE ..).2 ⟨_, vector⟩, rfl⟩

theorem submit_eq_ok {route : Route} {p : Http.Payload} {x : Outcome Delivery × Route} :
    submit route p b w = .ok ((x, b'), w') ↔
      ∃ d c, x = (d, { route with connector := c }) ∧
        Submits route.name route.connector p b w d c b' w' := by
  unfold submit
  rw [Action.lift_bind_eq_ok]
  constructor
  · rintro ⟨⟨headers, c⟩, w₁, hh, h⟩
    dsimp only [Action.modify_bind] at h
    cases headers with
    | error f =>
      obtain ⟨rfl, rfl, rfl⟩ := Action.pure_eq_ok.1 h
      exact ⟨_, c, rfl, .unsigned hh⟩
    | ok headers =>
      obtain ⟨⟨d, c'⟩, w₂, hs, h⟩ := Action.lift_bind_eq_ok.1 h
      dsimp only [Action.modify_bind] at h
      obtain ⟨rfl, rfl, rfl⟩ := Action.pure_eq_ok.1 h
      exact ⟨_, c', rfl, .sent hh hs⟩
  · rintro ⟨d, c, rfl, h⟩
    cases h with
    | unsigned headers => exact ⟨_, _, headers, rfl⟩
    | sent headers send =>
      refine ⟨_, _, headers, ?_⟩
      dsimp only [Action.modify_bind]
      exact Action.lift_bind_eq_ok.2 ⟨_, _, send, rfl⟩

theorem respond_eq_ok {c : Connector} {caller : Caller} {p : Purpose} {context : Int} {o : Options}
    {body : ByteArray} {r₀ r : Response} {files : Files}
    (decoded : c.respond body o caller.user context b.files = (r₀, files)) :
    respond c caller p context o body b w = .ok ((r, b'), w') ↔
      r₀.mapContent (p.formatOutput o) = r ∧
        { b with files := files, ledger := charge b.ledger caller.user p r₀ } = b' ∧ w = w' := by
  have usage : (r₀.mapContent (p.formatOutput o)).usage? = r₀.usage? := by cases r₀ <;> rfl
  unfold respond
  rw [Action.get_bind, decoded]
  dsimp only
  rw [Action.set_bind, Action.pure_eq_ok, usage]
  rfl

/-- The part of a request that comes after its prompt has been formatted. -/
def Request.complete (embed : Embedder) (q : Request) (route : Route) (o : Options)
    (text : String) : Action Response := do
  match ← preparePayload embed q.caller route text o with
  | (.error f, _) => return .ofFailure f
  | (.ok payload, route) =>
    match ← submit route payload with
    | (.error f, _) => return .ofFailure f
    | (.ok (.failure code message details body), route) =>
      return failureResponse route.connector code message details body
    | (.ok (.success _ body), route) =>
      respond route.connector q.caller q.purpose q.context o body

theorem run_of_accepted {q : Request} {route : Route} {o : Options}
    (gate : b.gate q.purpose q.caller = (.ok route, b'))
    (sanitized : q.purpose.sanitize (w.names w.drawn) q.raw = .ok o) :
    q.run embed b w =
      carryOut embed q.caller q.purpose route q.prompt q.context o b' w.drawName := by
  unfold Request.run requestWith
  rw [Action.modifyGet_bind, gate]
  dsimp only
  rw [Action.lift_bind_of_ok (Run.freshName_eq_ok.2 ⟨rfl, rfl⟩), sanitized]

theorem Admitted.run_eq {q : Request} {route : Route} {o : Options} {text : String}
    (h : Admitted q b w route o text b' w') :
    q.run embed b w = q.complete embed route o text b' w' := by
  rw [run_of_accepted h.gate h.sanitized]
  unfold carryOut
  rw [Action.lift_bind_of_ok h.formatted]
  rfl

theorem run_of_barred {q : Request} {f : Failure}
    (gate : b.gate q.purpose q.caller = (.error f, b')) :
    q.run embed b w = .ok ((.ofFailure f, b'), w) := by
  unfold Request.run requestWith
  rw [Action.modifyGet_bind, gate]
  rfl

theorem run_of_refused {q : Request} {route : Route} {f : Failure}
    (gate : b.gate q.purpose q.caller = (.ok route, b'))
    (sanitized : q.purpose.sanitize (w.names w.drawn) q.raw = .error f) :
    q.run embed b w = .ok ((.ofFailure f, b'), w.drawName) := by
  unfold Request.run requestWith
  rw [Action.modifyGet_bind, gate]
  dsimp only
  rw [Action.lift_bind_of_ok (Run.freshName_eq_ok.2 ⟨rfl, rfl⟩), sanitized]
  rfl

/-- A request that takes a course returns the response in which the course ends. -/
theorem Course.run_eq (hE : E.Describes embed) {q : Request} {nested : Option Response}
    {r : Response} (h : Course E q b w nested r b' w') : q.run embed b w = .ok ((r, b'), w') := by
  cases h with
  | barred gate => exact run_of_barred gate
  | refused gate sanitized => exact run_of_refused gate sanitized
  | unprepared admitted prepares =>
    rw [admitted.run_eq, Request.complete,
      Action.bind_of_ok ((preparePayload_eq_ok hE).2 ⟨_, _, _, rfl, prepares⟩)]
    rfl
  | unsigned admitted prepares submits =>
    rw [admitted.run_eq, Request.complete,
      Action.bind_of_ok ((preparePayload_eq_ok hE).2 ⟨_, _, _, rfl, prepares⟩)]
    dsimp only
    rw [Action.bind_of_ok (submit_eq_ok.2 ⟨_, _, rfl, submits⟩)]
    rfl
  | undelivered admitted prepares submits =>
    rw [admitted.run_eq, Request.complete,
      Action.bind_of_ok ((preparePayload_eq_ok hE).2 ⟨_, _, _, rfl, prepares⟩)]
    dsimp only
    rw [Action.bind_of_ok (submit_eq_ok.2 ⟨_, _, rfl, submits⟩)]
    rfl
  | answered admitted prepares submits decoded =>
    rw [admitted.run_eq, Request.complete,
      Action.bind_of_ok ((preparePayload_eq_ok hE).2 ⟨_, _, _, rfl, prepares⟩)]
    dsimp only
    rw [Action.bind_of_ok (submit_eq_ok.2 ⟨_, _, rfl, submits⟩)]
    exact (respond_eq_ok decoded).2 ⟨rfl, rfl, rfl⟩

/-- A request returns a response exactly if it takes a course that ends in this response. -/
theorem run_eq_ok_iff (hE : E.Describes embed) {q : Request} {r : Response} :
    q.run embed b w = .ok ((r, b'), w') ↔ ∃ nested, Course E q b w nested r b' w' := by
  refine ⟨fun h => ?_, fun ⟨_, h⟩ => h.run_eq hE⟩
  rcases hg : b.gate q.purpose q.caller with ⟨f | route, b₁⟩
  · rw [run_of_barred hg] at h
    cases h
    exact ⟨none, .barred hg⟩
  cases hs : q.purpose.sanitize (w.names w.drawn) q.raw with
  | error f =>
    rw [run_of_refused hg hs] at h
    cases h
    exact ⟨none, .refused hg hs⟩
  | ok o =>
    obtain ⟨text, w₁, ht, -⟩ := Action.lift_bind_eq_ok.1 ((run_of_accepted hg hs).symm.trans h)
    have admitted : Admitted q b w route o text b₁ w₁ := ⟨hg, hs, ht⟩
    rw [admitted.run_eq] at h
    obtain ⟨⟨p, route₁⟩, b₂, w₂, hp, h⟩ := Action.bind_eq_ok.1 h
    obtain ⟨nested, p, c, hx, prepares⟩ := (preparePayload_eq_ok hE).1 hp
    cases hx
    refine ⟨nested, ?_⟩
    cases p with
    | error f =>
      obtain ⟨rfl, rfl, rfl⟩ := Action.pure_eq_ok.1 h
      exact .unprepared admitted prepares
    | ok payload =>
      obtain ⟨⟨d, route₂⟩, b₃, w₃, hd, h⟩ := Action.bind_eq_ok.1 h
      obtain ⟨d, c', hx, submits⟩ := submit_eq_ok.1 hd
      cases hx
      rcases d with f | ⟨status, body⟩ | ⟨code, message, details, body⟩
      · obtain ⟨rfl, rfl, rfl⟩ := Action.pure_eq_ok.1 h
        exact .unsigned admitted prepares submits
      · obtain ⟨rfl, rfl, rfl⟩ := (respond_eq_ok (Prod.eta _)).1 h
        exact .answered admitted prepares submits rfl
      · obtain ⟨rfl, rfl, rfl⟩ := Action.pure_eq_ok.1 h
        exact .undelivered admitted prepares submits

/-! ### The embedders of the broker -/

/-- The embedder of embedding requests makes no request and has no vector. -/
def NoVector : Embedding := fun _ _ b w nested v b' w' =>
  nested = none ∧ v = .error (.configurationError "embedding requests cannot be nested") ∧
    b' = b ∧ w' = w

/-- The broker with a new vector, if the settings say that vectors are kept. -/
def learn (b : Broker) (caching : Bool) (text : String) (v : Outcome (List Float32)) : Broker :=
  match v with
  | .ok vector => if caching then { b with vectors := b.vectors.insert text vector } else b
  | .error _ => b

/-- What the broker's embedder does: a known vector is used again if the settings say so, any other
comes from an embedding request. -/
inductive Embeds (caller : Caller) (text : String) (b : Broker) (w : World) :
    Option Response → Outcome (List Float32) → Broker → World → Prop
  | known {vector} (caching : b.settings.usesEmbeddingCache = true)
      (hit : b.vectors.get? text = some vector) : Embeds caller text b w none (.ok vector) b w
  | asked {r b' w'} (miss : b.settings.usesEmbeddingCache = true → b.vectors.get? text = none)
      (course : Course NoVector (.embedding caller text) b w none r b' w') :
      Embeds caller text b w (some r) (vectorOf b'.config caller.role r)
        (b'.learn b.settings.usesEmbeddingCache text (vectorOf b'.config caller.role r)) w'

theorem noVector_describes : Embedding.Describes NoVector noVector := by
  intro caller text b w v b' w'
  unfold noVector
  rw [Action.pure_eq_ok]
  constructor
  · rintro ⟨rfl, rfl, rfl⟩
    exact ⟨none, rfl, rfl, rfl, rfl⟩
  · rintro ⟨_, rfl, rfl, rfl, rfl⟩
    exact ⟨rfl, rfl, rfl⟩

/-- An embedding request makes no further request. -/
theorem Course.nested_eq_none {q : Request} {nested : Option Response} {r : Response}
    (h : Course NoVector q b w nested r b' w') : nested = none := by
  have prepares_none {caller route text o b w n p c b' w'}
      (h : Prepares NoVector caller route text o b w n p c b' w') : n = none := by
    cases h with
    | ready => rfl
    | unplanned => rfl
    | embedded plan vector => exact vector.1
  cases h with
  | barred => rfl
  | refused => rfl
  | unprepared _ prepares => exact prepares_none prepares
  | unsigned _ prepares => exact prepares_none prepares
  | undelivered _ prepares => exact prepares_none prepares
  | answered _ prepares => exact prepares_none prepares

/-- An embedding request, as the embedder makes it. -/
theorem embedAnew_eq_ok {caller : Caller} {text : String} {v : Outcome (List Float32)} :
    embedAnew caller text b w = .ok ((v, b'), w') ↔
      ∃ r, Course NoVector (.embedding caller text) b w none r b' w' ∧
        v = vectorOf b'.config caller.role r := by
  unfold embedAnew
  rw [Action.bind_eq_ok]
  constructor
  · rintro ⟨r, b₁, w₁, hr, h⟩
    obtain ⟨nested, course⟩ := (run_eq_ok_iff noVector_describes (q := .embedding caller text)).1 hr
    obtain rfl := course.nested_eq_none
    obtain ⟨rfl, rfl, rfl⟩ := Action.pure_eq_ok.1 h
    exact ⟨r, course, rfl⟩
  · rintro ⟨r, course, rfl⟩
    exact ⟨r, b', w', course.run_eq noVector_describes, rfl⟩

/-- A vector is known, or it has to be asked for. -/
theorem known_or_miss (b : Broker) (text : String) :
    (b.settings.usesEmbeddingCache = true ∧ ∃ vector, b.vectors.get? text = some vector) ∨
      (b.settings.usesEmbeddingCache = true → b.vectors.get? text = none) := by
  cases hit : b.vectors.get? text with
  | none => exact .inr fun _ => rfl
  | some vector =>
    cases b.settings.usesEmbeddingCache with
    | true => exact .inl ⟨rfl, vector, rfl⟩
    | false => exact .inr nofun

theorem learn_false (b : Broker) (text : String) (v : Outcome (List Float32)) :
    b.learn false text v = b := by
  cases v <;> rfl

theorem embed_of_known {caller : Caller} {text : String} {vector : List Float32}
    (caching : b.settings.usesEmbeddingCache = true) (hit : b.vectors.get? text = some vector) :
    Broker.embed caller text b w = .ok ((.ok vector, b), w) := by
  unfold Broker.embed
  rw [Action.get_bind, if_pos caching, hit]
  rfl

theorem embed_of_unknown {caller : Caller} {text : String}
    (miss : b.settings.usesEmbeddingCache = true → b.vectors.get? text = none) :
    Broker.embed caller text b w = (do
      let v ← embedAnew caller text
      modify (·.learn b.settings.usesEmbeddingCache text v)
      return v : Action (Outcome (List Float32))) b w := by
  unfold Broker.embed
  rw [Action.get_bind]
  cases caching : b.settings.usesEmbeddingCache with
  | false =>
    rw [if_neg (by simp)]
    simp only [learn_false]
    exact congrFun (congrFun (bind_pure (embedAnew caller text)).symm b) w
  | true =>
    rw [if_pos rfl, miss caching]
    refine congrFun (congrFun (congrArg (embedAnew caller text >>= ·) (funext fun v => ?_)) b) w
    cases v <;> rfl

theorem embed_describes : Embedding.Describes Embeds Broker.embed := by
  intro caller text b w v b' w'
  rcases b.known_or_miss text with ⟨caching, vector, hit⟩ | miss
  · rw [embed_of_known caching hit]
    constructor
    · intro h
      cases h
      exact ⟨none, .known caching hit⟩
    · rintro ⟨nested, h⟩
      cases h with
      | known _ hit' => rw [hit] at hit'; cases hit'; rfl
      | asked miss => rw [miss caching] at hit; cases hit
  rw [embed_of_unknown miss, Action.bind_eq_ok]
  constructor
  · rintro ⟨v, b₁, w₁, hv, h⟩
    obtain ⟨r, course, rfl⟩ := embedAnew_eq_ok.1 hv
    rw [Action.modify_bind] at h
    obtain ⟨rfl, rfl, rfl⟩ := Action.pure_eq_ok.1 h
    exact ⟨some r, .asked miss course⟩
  · rintro ⟨nested, h⟩
    cases h with
    | known caching hit => rw [miss caching] at hit; cases hit
    | asked _ course => exact ⟨_, _, _, embedAnew_eq_ok.2 ⟨_, course, rfl⟩, rfl⟩

/-- A request of the broker returns a response exactly if it takes a course that ends in it. -/
theorem make_eq_ok_iff {q : Request} {r : Response} :
    q.make b w = .ok ((r, b'), w') ↔ ∃ nested, Course Embeds q b w nested r b' w' :=
  run_eq_ok_iff embed_describes

end PromptBroker.Broker
