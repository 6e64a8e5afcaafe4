import PromptBroker.Proofs.Errands
import PromptBroker.Proofs.Request.Output
import PromptBroker.Proofs.Request.Returns

/-!
# The calls of a request

However a request ends, the calls on its way are few. The prompt takes the pages that an
agent is to read; the payload takes the setup of a backend and a vector; the headers take a
token; the submission takes one call, or two with a new token in between. Which of these
there are depends on the provider (`Provider.budget`), and no failure on the way leads to
one more (`Spends`).

This holds of every course that a request can take, of the embedding request on its way,
and also of a request that never returns, up to the moment at which it breaks down
(`Interrupted`). Once the provider has had its last word, there is no call at all.
-/

namespace PromptBroker.Broker

variable {q : Request} {b b' b₁ b₂ : Broker} {w w' w₁ w₂ : World} {route : Route} {o : Options}
  {text : String} {caller : Caller} {nested : Option Response} {r : Response} {c : Connector}
  {p : Http.Payload} {E : Embedding}

/-! ### Before and after the payload is there -/

/-- An embedder asks for nothing but the vector. -/
def Embedding.Spends (E : Embedding) : Prop :=
  ∀ {caller text b w nested v b' w'}, E caller text b w nested v b' w' →
    ∀ (c : Connector) (o : Options), c.Within text o [.vector] w w'

namespace Prepares

theorem within {x : Outcome Http.Payload} (hE : E.Spends)
    (prepares : Prepares E caller route text o b w nested x c b' w') :
    route.connector.Within text o route.connector.provider.preparing w w' := by
  cases prepares with
  | ready plan | unplanned plan =>
    rcases (Connector.plan_eq_ok.1 plan).within with rfl | ⟨store, setup⟩
    · exact Connector.within_of_idle rfl
    · rw [store]
      exact setup.mono (by simp [Provider.preparing])
  | embedded plan vector =>
    have plans := Connector.plan_eq_ok.1 plan
    obtain ⟨state, binding⟩ := plans.binding_of_awaiting
    have store : route.connector.provider = .qdrant := by rw [Connector.provider, binding]; rfl
    have asked := hE vector route.connector o
    rw [store]
    rcases plans.within with rfl | ⟨-, setup⟩
    · exact asked.mono (by simp [Provider.preparing])
    · exact setup.trans asked

theorem yields (prepares : Prepares E caller route text o b w nested (.ok p) c b' w') :
    route.connector.Yields text o p := by
  generalize prepared : Except.ok p = x at prepares
  cases prepares with
  | ready plan =>
    cases prepared
    exact (Connector.plan_eq_ok.1 plan).yields .ready
  | unplanned => cases prepared
  | embedded plan vector =>
    obtain ⟨v, rfl, finished⟩ := Outcome.bind_eq_ok.1 prepared.symm
    exact (Connector.plan_eq_ok.1 plan).yields (.awaiting finished)

theorem account?_eq {x : Outcome Http.Payload}
    (prepares : Prepares E caller route text o b w nested x c b' w') :
    c.account? = route.connector.account? := by
  cases prepares with
  | ready plan | unplanned plan | embedded plan =>
    exact (Connector.plan_eq_ok.1 plan).account?_eq

end Prepares

theorem Submits.within {name : String} {c₁ c' : Connector} {d : Outcome Delivery}
    (submits : Submits name c₁ p b w d c' b' w') (account : c₁.account? = c.account?)
    (yields : c.Yields text o p) :
    c.Within text o (c₁.provider.signing ++ c₁.provider.sending) w w' := by
  cases submits with
  | unsigned signed =>
    exact (Connector.within_of_headers account signed).mono (List.sublist_append_left _ _)
  | sent signed sent =>
    have sending := Connector.within_of_send ((Connector.account?_of_headers signed).trans account)
      yields sent
    rw [Connector.provider_of_headers signed] at sending
    exact (Connector.within_of_headers account signed).trans sending

/-! ### Whole requests -/

/-- What a request asks for: nothing, or what its purpose and its provider may take. -/
inductive Spends (q : Request) (b : Broker) (w w' : World) : Prop
  | nothing (idle : w'.peer = w.peer)
  | within {route : Route} {o : Options} {text : String} {b₁ : Broker} {w₁ : World}
      (admitted : Admitted q b w route o text b₁ w₁) (within : route.connector.Within text o
        (q.purpose.pages o ++ route.connector.provider.budget) w w')

/-- The prompt is formatted, the payload prepared, and more comes after that. -/
theorem spends_of_prepares (hE : E.Spends) (admitted : Admitted q b w route o text b₁ w₁)
    {x : Outcome Http.Payload} (prepares : Prepares E q.caller route text o b₁ w₁ nested x c b₂ w₂)
    (rest : route.connector.Within text o
      (route.connector.provider.signing ++ route.connector.provider.sending) w₂ w') :
    Spends q b w w' := by
  have fresh : route.connector.Within text o [] w w.drawName := Connector.within_of_idle rfl
  have formatted := fresh.trans (Connector.within_of_formatPrompt admitted.formatted)
  have whole := formatted.trans ((prepares.within hE).trans rest)
  refine .within admitted ?_
  rw [Provider.budget, List.append_assoc]
  exact whole

theorem spends_of_submits (hE : E.Spends) (admitted : Admitted q b w route o text b₁ w₁)
    (prepares : Prepares E q.caller route text o b₁ w₁ nested (.ok p) c b₂ w₂)
    {d : Outcome Delivery} {c' : Connector} (submits : Submits route.name c p b₂ w₂ d c' b' w') :
    Spends q b w w' := by
  have rest := submits.within prepares.account?_eq prepares.yields
  rw [prepares.provider_eq] at rest
  exact spends_of_prepares hE admitted prepares rest

theorem Course.spends (hE : E.Spends) (course : Course E q b w nested r b' w') :
    Spends q b w w' := by
  cases course with
  | barred | refused => exact .nothing rfl
  | unprepared admitted prepares =>
    exact spends_of_prepares hE admitted prepares (Connector.within_of_idle rfl)
  | unsigned admitted prepares submits => exact spends_of_submits hE admitted prepares submits
  | undelivered admitted prepares submits => exact spends_of_submits hE admitted prepares submits
  | answered admitted prepares submits => exact spends_of_submits hE admitted prepares submits

/-! ### Embedding requests -/

theorem noVector_spends : NoVector.Spends := by
  rintro caller text b w nested v b' w' ⟨-, -, -, rfl⟩ c o
  exact Connector.within_of_idle rfl

/-- All that an embedding request asks for is the vector. -/
theorem Spends.vector (spends : Spends (.embedding caller text) b w w') (c : Connector)
    (o : Options) : c.Within text o [.vector] w w' := by
  cases spends with
  | nothing idle => exact Connector.within_of_idle idle
  | @within route o' text' b₁ w₁ admitted within =>
    have binding := Connector.binding_of_embedding (serves_of_gate admitted.gate)
    obtain ⟨rfl, -⟩ := Run.pure_eq_ok.1 admitted.formatted
    have provider : route.connector.provider = .embeddings := by
      rw [Connector.provider, binding]
      rfl
    rw [provider] at within
    have answer : route.connector.Within text o' [.answer] w w' := within
    obtain ⟨requests, affords, recorded⟩ := answer
    -- What the embedder answers is the vector that the outer request waits for.
    refine ⟨requests, affords.errand fun r made => ?_, recorded⟩
    cases made with
    | answer yields asked =>
      cases yields with
      | direct payload =>
        unfold Connector.payload? at payload
        rw [binding] at payload
        exact .vector binding (Option.some.inj payload) asked
      | found store => rw [provider] at store; cases store

theorem embeds_spends : Embedding.Spends Embeds := by
  intro caller text b w nested v b' w' embeds c o
  cases embeds with
  | known => exact Connector.within_of_idle rfl
  | asked miss course =>
    -- The course is that of a request without an embedder, so this does not go round in circles.
    exact (course.spends noVector_spends).vector c o

/-! ### Requests that break down -/

/-- A request breaks down in this world: its payload is on its way when a date is out of reach. -/
inductive Interrupted (q : Request) (b : Broker) (w : World) : World → Prop
  | intro {route : Route} {o text b₁} {nested : Option Response} {p b₂} {c : Connector}
      {w₁ w₂ w' : World} (admitted : Admitted q b w route o text b₁ w₁)
      (prepares : Prepares Embeds q.caller route text o b₁ w₁ nested (.ok p) c b₂ w₂)
      (interrupts : c.Interrupts p w₂ w') : Interrupted q b w w'

theorem Interrupted.spends (interrupted : Interrupted q b w w') : Spends q b w w' := by
  cases interrupted with
  | intro admitted prepares interrupts =>
    have rest := interrupts.within prepares.account?_eq prepares.yields
    rw [prepares.provider_eq] at rest
    exact spends_of_prepares embeds_spends admitted prepares rest

/-- Only a request that the provider that is signed in to serves is interrupted. -/
theorem Interrupted.exists_gate (interrupted : Interrupted q b w w') :
    ∃ route b₁, b.gate q.purpose q.caller = (.ok route, b₁) ∧
      route.connector.provider = .imagen := by
  cases interrupted with
  | intro admitted prepares interrupts =>
    exact ⟨_, _, admitted.gate, prepares.provider_eq.symm.trans interrupts.provider_eq⟩

/-- A payload is done with, or it is interrupted. -/
theorem submits_or_interrupts (name : String) (c : Connector) (p : Http.Payload) (b : Broker)
    (w : World) : (∃ d c' b' w', Submits name c p b w d c' b' w') ∨ ∃ w', c.Interrupts p w w' := by
  rcases c.headers_or_breaks w with ⟨x, c₁, w₁, signed⟩ | ⟨_, _, w', binding, breaks⟩
  · cases x with
    | error f => exact .inl ⟨_, _, _, _, .unsigned signed⟩
    | ok h =>
      rcases c₁.send_or_undatable p h w₁ with
        ⟨d, c', w', sent⟩ | ⟨_, _, w', binding, undatable⟩
      · exact .inl ⟨_, _, _, _, .sent signed sent⟩
      · exact .inr ⟨w', .sending signed binding undatable⟩
  · exact .inr ⟨w', .signing binding breaks⟩

theorem submit_of_interrupts (interrupts : route.connector.Interrupts p w w') :
    submit route p b w = .error .dateOutOfRange := by
  unfold submit
  cases interrupts with
  | signing binding breaks =>
    exact Action.lift_bind_of_error (Connector.headers_of_breaksIn binding breaks)
  | sending signed binding undatable =>
    rw [Action.lift_bind_of_ok signed]
    dsimp only [Action.modify_bind]
    exact Action.lift_bind_of_error (Connector.send_of_undatableIn binding undatable)

theorem Interrupted.make_eq (interrupted : Interrupted q b w w') :
    q.make b w = .error .dateOutOfRange := by
  cases interrupted with
  | intro admitted prepares interrupts =>
    have prepared := (preparePayload_eq_ok embed_describes).2 ⟨_, _, _, rfl, prepares⟩
    show q.run Broker.embed b w = _
    rw [admitted.run_eq, Request.complete, Action.bind_of_ok prepared]
    exact Action.bind_of_error (submit_of_interrupts interrupts)

/-- Nothing but a date breaks a request down. -/
theorem make_eq_error_iff {e : Breakdown} :
    q.make b w = .error e ↔ ∃ w', Interrupted q b w w' := by
  constructor
  · intro broken
    rcases course_or_stuck embeds_total q b w with ⟨nested, r, b', w', course⟩ | ⟨route, o, text,
      b₁, w₁, nested, p, c, b₂, w₂, admitted, prepares, stuck⟩
    · cases (make_eq_ok_iff.2 ⟨nested, course⟩).symm.trans broken
    · rcases submits_or_interrupts route.name c p b₂ w₂ with submits | ⟨w', interrupts⟩
      · exact absurd submits stuck
      · exact ⟨w', .intro admitted prepares interrupts⟩
  · rintro ⟨w', interrupted⟩
    cases e
    exact interrupted.make_eq

/-! ### The last call -/

/-- The last call on record is the one for the answer of the provider. -/
inductive EndsInAnswer (q : Request) (b : Broker) (w w' : World) : Prop
  | intro {route : Route} {o : Options} {text : String} {b₁ : Broker} {w₁ : World}
      {earlier : List Http.Request} {last : Http.Request}
      (admitted : Admitted q b w route o text b₁ w₁) (recorded : w.Records w' (earlier ++ [last]))
      (made : route.connector.Makes text o .answer last) : EndsInAnswer q b w w'

theorem Poised.endsInAnswer {h : Http.Headers} (poised : Poised q b w o p h c nested b₁ w₁)
    {earlier : List Http.Request} (recorded : w₁.Records w₂ earlier) {h' : Http.Headers}
    {d : Delivery} (submitted : Http.submit p h' w₂ = .ok (d, w'))
    (sent : (p.request? h').isSome) : EndsInAnswer q b w w' := by
  obtain ⟨last, asked⟩ := Option.isSome_iff_exists.1 sent
  have final := Http.records_submit submitted
  rw [asked] at final
  cases poised with
  | intro admitted prepares signed =>
    have ready := (prepares.within embeds_spends).trans
      (Connector.within_of_headers prepares.account?_eq signed)
    obtain ⟨before, -, recordedBefore⟩ :=
      (Connector.within_of_formatPrompt admitted.formatted).trans ready
    have fresh : w.Records w.drawName [] := .refl w
    have whole := ((fresh.trans recordedBefore).trans recorded).trans final
    exact .intro admitted whole (.answer prepares.yields asked)

theorem LastWord.endsInAnswer {answer : Http.Heard}
    (word : LastWord q b w o c (some answer) w') : EndsInAnswer q b w w' := by
  generalize same : some answer = heard at word
  cases word with
  | @first p h nested b₁ w₁ _ d _ poised hears submitted stands =>
    subst same
    exact poised.endsInAnswer (.refl w₁) submitted hears.isSome_request?
  | second poised binding renews fit hears submitted =>
    subst same
    exact poised.endsInAnswer renews.records submitted hears.isSome_request?

/-! ### The whole -/

/-- However a request ends, what has been asked for by then is within its budget. This holds of a
request that returns and of one that breaks down, which happens only for a date that is out of
reach. The pages in the budget are texts that the caller has sent to an agent. And when the provider
has had its last word, the request returns in the same world, whatever is decoded, stored and
formatted on the way, so that the call for an answer is the last one on record. -/
theorem spends_within_budget (q : Request) (b : Broker) (w : World) :
    (∀ r b' w', q.make b w = .ok ((r, b'), w') → Spends q b w w') ∧
      (∀ e, q.make b w = .error e ↔ ∃ w', Interrupted q b w w') ∧
      (∀ w', Interrupted q b w w' → Spends q b w w') ∧
      (∀ fresh o, q.purpose.sanitize fresh q.raw = .ok o →
        q.purpose.pages o = [] ∨ q.purpose = .agent ∧
          ∃ items, ("documentationurls", .array items) ∈ q.raw ∧
            q.purpose.pages o = (items.filterMap Json.asString?).map .page) ∧
      ∀ o c heard w', LastWord q b w o c heard w' →
        (∃ r b', q.make b w = .ok ((r, b'), w')) ∧
          ∀ answer, heard = some answer → EndsInAnswer q b w w' := by
  refine ⟨?_, fun e => make_eq_error_iff, fun w' => Interrupted.spends,
    fun fresh o => Purpose.pages_of_sanitize, ?_⟩
  · intro r b' w' made
    obtain ⟨nested, course⟩ := make_eq_ok_iff.1 made
    exact course.spends embeds_spends
  · intro o c heard w' word
    refine ⟨word.exists_make, ?_⟩
    rintro answer rfl
    exact word.endsInAnswer

namespace Sample

/-- The studio, before there is a token. -/
def newStudio : Broker :=
  { studio with connectors := [("local", ⟨pictures, .imagen ⟨Token.Sample.account, none⟩ {}⟩)] }

/-- A token is granted for longer than there are dates. -/
def endless : World := .answering [Token.Sample.granting 0x7FFFFFFFFFFFFFFF]

/-- A form with a page to be read. -/
def documented : Request :=
  ⟨Sample.caller, .agent, "Fill in the form", 1,
    [("documentationurls", .array [.string "http://[::1]/guide", .null])]⟩

end Sample

/-- A text is spoken, a picture never comes because its token is granted for ever, and one of two
entries is a page to be read. -/
theorem spends_within_budget_spoken :
    (∃ r b' w', (Sample.spokenFor 42).make (Sample.booth (.empty Files.defaultBase))
          (.answering [(200, "sound")]) = .ok ((r, b'), w') ∧
        Spends (Sample.spokenFor 42) (Sample.booth (.empty Files.defaultBase))
          (.answering [(200, "sound")]) w' ∧
        EndsInAnswer (Sample.spokenFor 42) (Sample.booth (.empty Files.defaultBase))
          (.answering [(200, "sound")]) w') ∧
      (∃ w', Interrupted Sample.picture Sample.newStudio Sample.endless w' ∧
        Spends Sample.picture Sample.newStudio Sample.endless w') ∧
      ∃ items, ("documentationurls", .array items) ∈ Sample.documented.raw ∧
        Purpose.agent.pages Sample.documented.raw = (items.filterMap Json.asString?).map .page := by
  refine ⟨?_, ?_, ?_⟩
  · obtain ⟨w', word⟩ := Sample.spoken_lastWord 42 (.empty Files.defaultBase)
    obtain ⟨returned, -, -, -, last⟩ := spends_within_budget (Sample.spokenFor 42)
      (Sample.booth (.empty Files.defaultBase)) (.answering [(200, "sound")])
    obtain ⟨⟨r, b', made⟩, ends⟩ := last _ _ _ _ word
    exact ⟨r, b', w', made, returned _ _ _ made, ends _ rfl⟩
  · obtain ⟨-, breaks, interrupted, -, -⟩ :=
      spends_within_budget Sample.picture Sample.newStudio Sample.endless
    have stops : (Sample.picture.make Sample.newStudio Sample.endless).toOption.isSome = false := by
      decide +kernel
    cases made : Sample.picture.make Sample.newStudio Sample.endless with
    | ok s => rw [made] at stops; cases stops
    | error e =>
      obtain ⟨w', interrupts⟩ := (breaks e).1 made
      exact ⟨w', interrupts, interrupted w' interrupts⟩
  · obtain ⟨-, -, -, pages, -⟩ :=
      spends_within_budget Sample.documented Sample.newStudio Sample.endless
    have sanitized : Purpose.agent.sanitize (Uuid.ofBytes []) Sample.documented.raw =
        .ok Sample.documented.raw := by rfl
    rcases pages (Uuid.ofBytes []) _ sanitized with none | ⟨-, named⟩
    · cases none
    · exact named

end PromptBroker.Broker
