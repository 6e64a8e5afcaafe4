import PromptBroker.Proofs.Request.Budget

/-!
# Requests within requests

An embedder answers by making an embedding request, and a request asks the embedder: the
two call each other. Nothing that gets smaller says where this ends. It ends because of
who serves whom: only a vector store asks for a vector, and no vector store serves
embeddings.

Here requests call back into whatever makes requests (`embedderOf`), so that the depth is
not settled beforehand. Still there is but one way to make requests that calls back into
itself, the one of the broker, and nothing of what is two levels down is ever reached
(`nests_at_most_once`).
-/

namespace PromptBroker

/-- A way to make requests. -/
abbrev Requester := Caller → Purpose → String → Int → Options → Action Response

namespace Broker

/-! ### Calling back -/

/-- The broker's embedder, with embedding requests made this way. -/
def embedderOf (R : Requester) : Embedder := fun caller text => do
  let anew : Action (Outcome (List Float32)) := do
    let response ← R caller .embedding text 0 []
    return vectorOf (← get).config caller.role response
  let b ← get
  if b.settings.usesEmbeddingCache then
    match b.vectors.get? text with
    | some vector => return .ok vector
    | none =>
      match ← anew with
      | .error f => return .error f
      | .ok vector =>
        modify fun b => { b with vectors := b.vectors.insert text vector }
        return .ok vector
  else anew

/-- Requests that call back into requests, so many levels deep, with something else below. -/
def unroll (bottom : Requester) : Nat → Requester
  | 0 => bottom
  | n + 1 => requestWith (embedderOf (unroll bottom n))

/-- The embedder of the broker calls back into requests that have no embedder. -/
theorem embedderOf_noVector : embedderOf (requestWith noVector) = embed := rfl

/-! ### Where a request asks for a vector -/

variable {q : Request} {b b' b₁ : Broker} {w w' w₁ : World} {route : Route} {o : Options}
  {text : String} {embed embed' : Embedder} {c : Connector} {flag : SetupStatus}

theorem bind_eq_of_eq {α β : Type} {x y : Action α} {k : α → Action β} (h : x b w = y b' w') :
    (x >>= k) b w = (y >>= k) b' w' := by
  show (x b w >>= fun s => k s.1.1 s.1.2 s.2) = (y b' w' >>= fun s => k s.1.1 s.1.2 s.2)
  rw [h]

/-- What becomes of a plan. -/
def execute (embed : Embedder) (caller : Caller) (text : String) (route : Route) :
    Outcome Plan → Action (Outcome Http.Payload × Route)
  | .error f => return (.error f, route)
  | .ok (.ready p) => return (.ok p, route)
  | .ok (.awaiting finish) => do
    let vector ← embed caller text
    return (vector.bind finish, route)

theorem preparePayload_of_plan {x : Outcome Plan} (embed : Embedder) (caller : Caller)
    (plan : route.connector.plan (b.flags.status VectorStore.flagKey) text o w =
      .ok ((x, c, flag), w')) :
    preparePayload embed caller route text o b w =
      execute embed caller text { route with connector := c } x (b.planned route.name c flag)
        w' := by
  unfold preparePayload
  rw [Action.get_bind, Action.lift_bind_of_ok plan]
  rcases x with f | p | finish <;> rfl

/-- The part of a request that comes after its payload has been prepared. -/
def Request.deliver (q : Request) (o : Options) :
    Outcome Http.Payload × Route → Action Response
  | (.error f, _) => return .ofFailure f
  | (.ok payload, route) => do
    match ← submit route payload with
    | (.error f, _) => return .ofFailure f
    | (.ok (.failure code message details body), route) =>
      return failureResponse route.connector code message details body
    | (.ok (.success _ body), route) =>
      respond route.connector q.caller q.purpose q.context o body

theorem complete_eq (embed : Embedder) (q : Request) (route : Route) (o : Options)
    (text : String) :
    q.complete embed route o text =
      preparePayload embed q.caller route text o >>= q.deliver o := by
  refine congrArg (preparePayload embed q.caller route text o >>= ·) (funext fun x => ?_)
  obtain ⟨f | payload, route'⟩ := x
  · rfl
  · rfl

/-- How a request asks its embedder: not at all, or once. -/
inductive Asks (q : Request) (b : Broker) (w : World) : Prop
  /-- It comes out the same with every embedder. -/
  | never (x : Except Breakdown ((Response × Broker) × World))
      (runs : ∀ embed, q.run embed b w = x)
  /-- A vector store serves it. It asks for the vector of a text, and goes on with the vector. -/
  | once {route b₁ state} (text : String) (b' : Broker) (w' : World)
      (finish : Outcome (List Float32) → Action Response)
      (gate : b.gate q.purpose q.caller = (.ok route, b₁))
      (binding : route.connector.binding = .qdrant state)
      (runs : ∀ embed, q.run embed b w = (embed q.caller text >>= finish) b' w')

theorem asks_of_admitted (admitted : Admitted q b w route o text b₁ w₁) : Asks q b w := by
  obtain ⟨⟨x, c, flag⟩, w₂, plan⟩ :=
    returns_plan route.connector (b₁.flags.status VectorStore.flagKey) text o w₁
  have runs (embed : Embedder) : q.run embed b w =
      (execute embed q.caller text { route with connector := c } x >>= q.deliver o)
        (b₁.planned route.name c flag) w₂ := by
    rw [admitted.run_eq, complete_eq]
    exact bind_eq_of_eq (preparePayload_of_plan embed q.caller plan)
  rcases x with f | p | finish
  · exact .never _ runs
  · exact .never _ runs
  · obtain ⟨state, binding⟩ := (Connector.plan_eq_ok.1 plan).binding_of_awaiting
    refine .once text (b₁.planned route.name c flag) w₂
      (fun v => pure (v.bind finish, { route with connector := c }) >>= q.deliver o)
      admitted.gate binding fun embed => ?_
    rw [runs embed, execute, bind_assoc]

/-- A request asks for at most one vector, and only if a vector store serves it. -/
theorem asks_of_run (q : Request) (b : Broker) (w : World) : Asks q b w := by
  rcases gate : b.gate q.purpose q.caller with ⟨f | route, b₁⟩
  · exact .never _ fun embed => run_of_barred gate
  cases sanitized : q.purpose.sanitize (w.names w.drawn) q.raw with
  | error f => exact .never _ fun embed => run_of_refused gate sanitized
  | ok o =>
    obtain ⟨text, w₁, formatted⟩ := returns_formatPrompt q.purpose q.prompt o w.drawName
    exact asks_of_admitted ⟨gate, sanitized, formatted⟩

/-- No vector store serves embeddings, so an embedding request never asks. -/
theorem requestWith_embedding (embed embed' : Embedder) (caller : Caller) (text : String)
    (context : Int) (raw : Options) :
    requestWith embed caller .embedding text context raw =
      requestWith embed' caller .embedding text context raw := by
  funext b w
  cases asks_of_run ⟨caller, .embedding, text, context, raw⟩ b w with
  | never x runs => exact (runs embed).trans (runs embed').symm
  | once _ _ _ _ gate binding =>
    cases Connector.purpose_of_vectorStore binding (serves_of_gate gate)

/-! ### The depth -/

/-- Whatever embedding requests call back into, they are answered alike. -/
theorem embedderOf_requestWith (embed : Embedder) :
    embedderOf (requestWith embed) = Broker.embed := by
  rw [← embedderOf_noVector]
  unfold embedderOf
  funext caller text
  rw [requestWith_embedding embed noVector]

theorem request_eq : request = requestWith (embedderOf request) := by
  have back : embedderOf request = Broker.embed := embedderOf_requestWith Broker.embed
  rw [back]
  rfl

/-- There is but one way to make requests that calls back into itself. -/
theorem eq_requestWith_iff (R : Requester) : R = requestWith (embedderOf R) ↔ R = request := by
  constructor
  · intro back
    have embeds : embedderOf R = Broker.embed := by
      rw [back]
      exact embedderOf_requestWith _
    rw [back, embeds]
    rfl
  · rintro rfl
    exact request_eq

/-- Nothing that is two levels down is reached. -/
theorem unroll_eq (bottom : Requester) (n : Nat) : unroll bottom (n + 2) = request := by
  have embeds : embedderOf (unroll bottom (n + 1)) = Broker.embed := embedderOf_requestWith _
  rw [unroll, embeds]
  rfl

/-- Takes the vector from the response to an embedding request, and keeps it if vectors are kept. -/
def takeVector (caching : Bool) (caller : Caller) (text : String) (r : Response) :
    Action (Outcome (List Float32)) := do
  let v := vectorOf (← get).config caller.role r
  modify (·.learn caching text v)
  return v

/-- A vector that is not known is taken from an embedding request. -/
theorem embedderOf_of_unknown (R : Requester) (caller : Caller)
    (miss : b.settings.usesEmbeddingCache = true → b.vectors.get? text = none) :
    embedderOf R caller text b w = (R caller .embedding text 0 [] >>=
      takeVector b.settings.usesEmbeddingCache caller text) b w := by
  unfold embedderOf takeVector
  dsimp only
  rw [Action.get_bind]
  cases caching : b.settings.usesEmbeddingCache with
  | false =>
    simp only [Bool.false_eq_true, if_false, learn_false]
    rfl
  | true =>
    rw [if_pos rfl, miss caching]
    dsimp only
    rw [bind_assoc]
    refine congrFun (congrFun (congrArg (R caller .embedding text 0 [] >>= ·) ?_) b) w
    funext r b' w'
    show (match vectorOf b'.config caller.role r with
      | .error f => return .error f
      | .ok vector => do
        modify fun b => { b with vectors := b.vectors.insert text vector }
        return .ok vector : Action (Outcome (List Float32))) b' w' = _
    rw [Action.get_bind]
    cases vectorOf b'.config caller.role r <;> rfl

/-- How deep a request calls back: not at all, or once. -/
inductive Nests (q : Request) (b : Broker) (w : World) : Prop
  /-- It makes no request, whatever it might call back into. -/
  | never (x : Except Breakdown ((Response × Broker) × World))
      (runs : ∀ R, q.run (embedderOf R) b w = x)
  /-- A vector store serves it, and it makes one request, for an embedding and for the same
  caller, and goes on with the response. -/
  | once {route b₁ state} (text : String) (b' : Broker) (w' : World)
      (finish : Response → Action Response)
      (gate : b.gate q.purpose q.caller = (.ok route, b₁))
      (binding : route.connector.binding = .qdrant state) (purpose : q.purpose = .retrieval)
      (runs : ∀ R : Requester,
        q.run (embedderOf R) b w = (R q.caller .embedding text 0 [] >>= finish) b' w')

theorem nests_of_run (q : Request) (b : Broker) (w : World) : Nests q b w := by
  cases asks_of_run q b w with
  | never x runs => exact .never x fun R => runs _
  | once text b' w' finish gate binding runs =>
    have purpose := Connector.purpose_of_vectorStore binding (serves_of_gate gate)
    rcases b'.known_or_miss text with ⟨caching, vector, hit⟩ | miss
    · refine .never ((pure (.ok vector) >>= finish : Action Response) b' w') fun R => ?_
      rw [runs]
      refine bind_eq_of_eq ?_
      unfold embedderOf
      rw [Action.get_bind, if_pos caching, hit]
    · refine .once text b' w' (fun r =>
        takeVector b'.settings.usesEmbeddingCache q.caller text r >>= finish) gate binding purpose
        fun R => ?_
      rw [runs, bind_eq_of_eq (embedderOf_of_unknown R q.caller miss), bind_assoc]

/-- A request makes at most one other request: for an embedding, for the same caller, and only
when a vector store serves it. That one never asks for a vector. So the depth is bounded, whatever
is below: requests that call back into themselves are the broker's, and two levels are enough. Each
of them comes to a response, unless it is interrupted: its provider is the one that is signed in to,
and the lifetime of the token that is needed ends at no date. Nothing else keeps a request from
coming to a response. -/
theorem nests_at_most_once :
    (∀ q b w, Nests q b w) ∧
      (∀ (embed embed' : Embedder) (caller : Caller) (text : String) (context : Int)
        (raw : Options), requestWith embed caller .embedding text context raw =
          requestWith embed' caller .embedding text context raw) ∧
      (∀ R : Requester, R = requestWith (embedderOf R) ↔ R = request) ∧
      (∀ (bottom : Requester) (n : Nat), unroll bottom (n + 2) = request) ∧
      (∀ (q : Request) (b : Broker) (w : World),
        (∃ r b' w', q.make b w = .ok ((r, b'), w')) ∨
          ∃ route b₁ w', b.gate q.purpose q.caller = (.ok route, b₁) ∧
            route.connector.provider = .imagen ∧ Interrupted q b w w') ∧
      ∀ (q : Request) (b : Broker) (w : World) (e : Breakdown),
        q.make b w = .error e ↔ ∃ w', Interrupted q b w w' := by
  refine ⟨nests_of_run, requestWith_embedding, eq_requestWith_iff, unroll_eq, ?_,
    fun q b w e => make_eq_error_iff⟩
  intro q b w
  cases made : q.make b w with
  | ok s => exact .inl ⟨s.1.1, s.1.2, s.2, rfl⟩
  | error e =>
    obtain ⟨w', interrupted⟩ := make_eq_error_iff.1 made
    obtain ⟨route, b₁, gate, imagen⟩ := interrupted.exists_gate
    exact .inr ⟨route, b₁, w', gate, imagen, interrupted⟩

end Broker

end PromptBroker
