import PromptBroker.Proofs.Request.Gate
import PromptBroker.Proofs.VectorStore.Setup

/-!
# Requests return

A request that is not turned away is formatted, prepared and submitted, and each of these
steps returns. Only where a token is needed may a submission come to nothing, because the
end of the token's lifetime is no date. So a request returns, or its payload is stuck
(`course_or_stuck`), and an embedding request, which needs no token, always returns
(`exists_embedding`).
-/

namespace PromptBroker.Broker

variable {c : Connector} {caller : Caller} {route : Route} {b : Broker} {w : World}

/-! ### Steps -/

theorem returns_plan (c : Connector) (flag : SetupStatus) (text : String) (o : Options) :
    (c.plan flag text o).Returns := by
  unfold Connector.plan
  cases c.binding with
  | qdrant state => exact (VectorStore.returns_ensure _ _ _).bind fun _ => Run.returns_pure _
  | _ => exact Run.returns_pure _

theorem returns_formatPrompt (p : Purpose) (prompt : String) (o : Options) :
    (p.formatPrompt prompt o).Returns := by
  unfold Purpose.formatPrompt
  split
  · have fetched : (Page.fetchAll (o.texts "documentationurls")).Returns := exists_fetchAll _
    exact fetched.bind fun pages => Run.returns_pure _
  · split <;> exact Run.returns_pure _
  · exact Run.returns_pure _

/-- Only the provider that is signed in to has anything to do with dates. -/
theorem returns_headers (dateless : c.provider ≠ .imagen) : c.headers.Returns := by
  unfold Connector.provider at dateless
  unfold Connector.headers
  cases binding : c.binding with
  | imagen => rw [binding] at dateless; exact absurd rfl dateless
  | _ => exact Run.returns_pure _

theorem returns_send (dateless : c.provider ≠ .imagen) (p : Http.Payload) (h : Http.Headers) :
    (c.send p h).Returns := by
  unfold Connector.provider at dateless
  unfold Connector.send
  cases binding : c.binding with
  | imagen => rw [binding] at dateless; exact absurd rfl dateless
  | _ => exact (Http.returns_submit p h).bind fun _ => Run.returns_pure _

/-- The embedder always returns. -/
def Embedding.Total (E : Embedding) : Prop :=
  ∀ caller text b w, ∃ nested v b' w', E caller text b w nested v b' w'

theorem exists_prepares {E : Embedding} (total : E.Total) (caller : Caller) (route : Route)
    (text : String) (o : Options) (b : Broker) (w : World) :
    ∃ nested p c b' w', Prepares E caller route text o b w nested p c b' w' := by
  obtain ⟨⟨x, c, flag⟩, w₁, plan⟩ :=
    returns_plan route.connector (b.flags.status VectorStore.flagKey) text o w
  rcases x with f | p | finish
  · exact ⟨_, _, _, _, _, .unplanned plan⟩
  · exact ⟨_, _, _, _, _, .ready plan⟩
  · obtain ⟨nested, v, b', w', vector⟩ := total caller text (b.planned route.name c flag) w₁
    exact ⟨_, _, _, _, _, .embedded plan vector⟩

theorem exists_submits (dateless : c.provider ≠ .imagen) (name : String) (p : Http.Payload)
    (b : Broker) (w : World) : ∃ d c' b' w', Submits name c p b w d c' b' w' := by
  obtain ⟨⟨headers, c₁⟩, w₁, signed⟩ := returns_headers dateless w
  cases headers with
  | error f => exact ⟨_, _, _, _, .unsigned signed⟩
  | ok h =>
    rw [← Connector.provider_of_headers signed] at dateless
    obtain ⟨⟨d, c'⟩, w', sent⟩ := returns_send dateless p h w₁
    exact ⟨_, _, _, _, .sent signed sent⟩

/-! ### Whole requests -/

/-- A payload that is done with ends the course of its request. -/
theorem Submits.exists_course {E : Embedding} {q : Request} {route : Route} {o : Options}
    {text : String} {nested : Option Response} {p : Http.Payload} {c c' : Connector}
    {d : Outcome Delivery} {b b₁ b₂ b' : Broker} {w w₁ w₂ w' : World}
    (submits : Submits route.name c p b₂ w₂ d c' b' w')
    (admitted : Admitted q b w route o text b₁ w₁)
    (prepares : Prepares E q.caller route text o b₁ w₁ nested (.ok p) c b₂ w₂) :
    ∃ r b'', Course E q b w nested r b'' w' := by
  rcases d with f | ⟨status, body⟩ | ⟨code, message, details, body⟩
  · exact ⟨_, _, .unsigned admitted prepares submits⟩
  · exact ⟨_, _, .answered admitted prepares submits (Prod.eta _).symm⟩
  · exact ⟨_, _, .undelivered admitted prepares submits⟩

/-- The request submits this payload and returns, whatever comes of it. -/
def Forwards (q : Request) (b : Broker) (w : World) (name : String) (c : Connector)
    (p : Http.Payload) (b₂ : Broker) (w₂ : World) : Prop :=
  ∃ d c' b' w' r b'', Submits name c p b₂ w₂ d c' b' w' ∧ q.make b w = .ok ((r, b''), w')

theorem Prepares.forwards {q : Request} {o : Options} {text : String} {nested : Option Response}
    {p : Http.Payload} {b b₁ b₂ : Broker} {w w₁ w₂ : World}
    (prepares : Prepares Embeds q.caller route text o b₁ w₁ nested (.ok p) c b₂ w₂)
    (admitted : Admitted q b w route o text b₁ w₁) (dateless : c.provider ≠ .imagen) :
    Forwards q b w route.name c p b₂ w₂ := by
  obtain ⟨d, c', b', w', submits⟩ := exists_submits dateless route.name p b₂ w₂
  obtain ⟨r, b'', course⟩ := submits.exists_course admitted prepares
  exact ⟨d, c', b', w', r, b'', submits, make_eq_ok_iff.2 ⟨_, course⟩⟩

/-- A request returns, unless there is a payload for it that is never done with. -/
theorem course_or_stuck {E : Embedding} (total : E.Total) (q : Request) (b : Broker) (w : World) :
    (∃ nested r b' w', Course E q b w nested r b' w') ∨
      ∃ route o text b₁ w₁ nested p c b₂ w₂, Admitted q b w route o text b₁ w₁ ∧
        Prepares E q.caller route text o b₁ w₁ nested (.ok p) c b₂ w₂ ∧
        ¬∃ d c' b' w', Submits route.name c p b₂ w₂ d c' b' w' := by
  rcases gate : b.gate q.purpose q.caller with ⟨f | route, b₁⟩
  · exact .inl ⟨_, _, _, _, .barred gate⟩
  cases sanitized : q.purpose.sanitize (w.names w.drawn) q.raw with
  | error f => exact .inl ⟨_, _, _, _, .refused gate sanitized⟩
  | ok o =>
    obtain ⟨text, w₁, formatted⟩ := returns_formatPrompt q.purpose q.prompt o w.drawName
    have admitted : Admitted q b w route o text b₁ w₁ := ⟨gate, sanitized, formatted⟩
    obtain ⟨nested, p, c, b₂, w₂, prepares⟩ := exists_prepares total q.caller route text o b₁ w₁
    cases p with
    | error f => exact .inl ⟨_, _, _, _, .unprepared admitted prepares⟩
    | ok p =>
      by_cases submits : ∃ d c' b' w', Submits route.name c p b₂ w₂ d c' b' w'
      · obtain ⟨d, c', b₃, w₃, submits⟩ := submits
        obtain ⟨r, b', course⟩ := submits.exists_course admitted prepares
        exact .inl ⟨_, r, b', w₃, course⟩
      · exact .inr ⟨_, _, _, _, _, _, _, _, _, _, admitted, prepares, submits⟩

/-- A request returns, unless its connector may have to reckon the end of a token's lifetime. -/
theorem exists_course {E : Embedding} (total : E.Total) (q : Request) (b : Broker) (w : World) :
    (∃ nested r b' w', Course E q b w nested r b' w') ∨
      ∃ route b₁, b.gate q.purpose q.caller = (.ok route, b₁) ∧
        route.connector.provider = .imagen := by
  rcases course_or_stuck total q b w with course | ⟨route, o, text, b₁, w₁, nested, p, c, b₂, w₂,
    admitted, prepares, stuck⟩
  · exact .inl course
  · refine .inr ⟨route, b₁, admitted.gate, Decidable.byContradiction fun dateless => stuck ?_⟩
    rw [← prepares.provider_eq] at dateless
    exact exists_submits dateless route.name p b₂ w₂

theorem noVector_total : NoVector.Total := fun _ _ _ _ => ⟨_, _, _, _, rfl, rfl, rfl, rfl⟩

/-- An embedding request always returns. -/
theorem exists_embedding (caller : Caller) (text : String) (b : Broker) (w : World) :
    ∃ r b' w', Course NoVector (.embedding caller text) b w none r b' w' := by
  rcases exists_course noVector_total (.embedding caller text) b w with
    ⟨nested, r, b', w', course⟩ | ⟨route, b₁, gate, dated⟩
  · obtain rfl := course.nested_eq_none
    exact ⟨r, b', w', course⟩
  · rw [Connector.provider, Connector.binding_of_embedding (serves_of_gate gate)] at dated
    cases dated

theorem embeds_total : Embedding.Total Embeds := by
  intro caller text b w
  rcases b.known_or_miss text with ⟨caching, vector, hit⟩ | miss
  · exact ⟨_, _, _, _, .known caching hit⟩
  · obtain ⟨r, b', w', course⟩ := exists_embedding caller text b w
    exact ⟨_, _, _, _, .asked miss course⟩

end PromptBroker.Broker
