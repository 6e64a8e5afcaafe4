import Mathlib.Data.List.Forall2
import PromptBroker.Proofs.Request.Refusals
import PromptBroker.Proofs.Token.Resubmission
import PromptBroker.Proofs.VectorStore.Setup

/-!
# Errands

Every request that a connector puts on record is made on some errand: for a page of
documentation, for the backend of a vector store, for a vector, for a token, or for the
answer of its provider. `Makes` says which requests belong to an errand.

The steps of a connector are held against lists of errands here. `Within` says that between
two worlds nothing has been asked for but what such a list allows for, once for each errand
and in the order of the list. That a list is an upper bound makes it easy to compose: lists
are appended as steps follow each other (`Within.trans`).
-/

namespace PromptBroker

/-- What a request is made for. -/
inductive Errand where
  /-- A page of documentation. -/
  | page (url : String)
  /-- The list of the collections of a backend. -/
  | listing
  /-- A new collection. -/
  | creation
  /-- The vector of the prompt. -/
  | vector
  /-- An access token. -/
  | token
  /-- The answer of the provider. -/
  | answer
  deriving DecidableEq, Repr

/-! ### Budgets -/

/-- What a payload may take before it can be submitted. -/
def Provider.preparing : Provider → List Errand
  | .qdrant => [.listing, .creation, .vector]
  | _ => []

/-- What headers may take. -/
def Provider.signing : Provider → List Errand
  | .imagen => [.token]
  | _ => []

/-- What a submission may take. -/
def Provider.sending : Provider → List Errand
  | .imagen => [.answer, .token, .answer]
  | _ => [.answer]

/-- What a provider may take in the course of one request. -/
def Provider.budget (p : Provider) : List Errand := p.preparing ++ p.signing ++ p.sending

example : Provider.imagen.budget = [.token, .answer, .token, .answer] := rfl

example : Provider.qdrant.budget = [.listing, .creation, .vector, .answer] := rfl

/-- What a prompt may take: the agent reads the pages that the options name. -/
def Purpose.pages (p : Purpose) (o : Options) : List Errand :=
  match p with
  | .agent => (o.texts "documentationurls").map .page
  | _ => []

/-- They are the texts in a list that the caller has sent. -/
theorem Purpose.pages_of_sanitize {p : Purpose} {fresh : Uuid} {raw o : Options}
    (accepted : p.sanitize fresh raw = .ok o) : p.pages o = [] ∨ p = .agent ∧
      ∃ items, ("documentationurls", .array items) ∈ raw ∧
        p.pages o = (items.filterMap Json.asString?).map .page := by
  by_cases agent : p = .agent
  · subst agent
    unfold pages Options.texts Options.items?
    cases named : o.get? "documentationurls" with
    | none => exact .inl rfl
    | some v =>
      obtain ⟨type, sent, mem, declared, coerced⟩ :=
        exists_of_validate (sanitize_agent accepted) named
      have array : Keyed.get? "documentationurls" (schema .agent) = some .array := by decide
      cases array.symm.trans declared
      cases sent with
      | array items =>
        cases coerced
        exact .inr ⟨rfl, items, mem, rfl⟩
      | object members =>
        cases coerced
        exact .inl rfl
      | _ => cases coerced
  · left
    unfold pages
    split
    · exact absurd rfl agent
    · rfl

namespace Connector

/-! ### Requests for an errand -/

/-- The account that a connector signs in with. -/
def account? (c : Connector) : Option Token.Account :=
  match c.binding with
  | .imagen tokens _ => some tokens.account
  | _ => none

/-- The connector makes this payload of a text, at once or with a vector. -/
inductive Yields (c : Connector) (text : String) (o : Options) (p : Http.Payload) : Prop
  | direct (payload : c.payload? text o = some (.ok p))
  | found {action vector} (store : c.provider = .qdrant)
      (settled : RetrievalAction.ofOptions o = .ok action)
      (payload : VectorStore.payload c.config action text o vector = .ok p)

/-- The requests that a connector makes on an errand, for a text with these options. -/
inductive Makes (c : Connector) (text : String) (o : Options) : Errand → Http.Request → Prop
  | page {url r} (asked : Http.request? .get url [] .empty = some r) : Makes c text o (.page url) r
  | listing {h r} (signed : VectorStore.headers c.config = .ok h)
      (asked : (VectorStore.listing c.config).request? h = some r) : Makes c text o .listing r
  | creation {h r} (signed : VectorStore.headers c.config = .ok h)
      (asked : (VectorStore.creation c.config).request? h = some r) : Makes c text o .creation r
  /-- The one who is asked for the vector is another connector. -/
  | vector {e : Connector} {p h r} (embedder : e.binding = .embeddings)
      (payload : Embedding.payload e.config text = .ok p) (asked : p.request? h = some r) :
      Makes c text o .vector r
  | token {account now r} (signsIn : c.account? = some account)
      (asked : Token.Source.request? ⟨account, none⟩ now = some r) : Makes c text o .token r
  | answer {p h r} (yields : c.Yields text o p) (asked : p.request? h = some r) :
      Makes c text o .answer r

variable {c c₁ c' : Connector} {text : String} {o : Options} {e : Errand}
  {errands errands' : List Errand} {requests requests' : List Http.Request} {p : Http.Payload}
  {h : Http.Headers} {d : Delivery} {flag flag' : SetupStatus} {w w₁ w' : World}

/-! ### Lists of errands -/

/-- The requests are made on some of the errands, one on each, in this order. -/
def Affords (c : Connector) (text : String) (o : Options) (errands : List Errand)
    (requests : List Http.Request) : Prop :=
  ∃ run, List.Sublist run errands ∧ List.Forall₂ (c.Makes text o) run requests

namespace Affords

theorem nil : c.Affords text o errands [] := ⟨[], List.nil_sublist _, .nil⟩

/-- One errand affords one request, or none. -/
theorem of_option {asked : Option Http.Request} (makes : ∀ r ∈ asked, c.Makes text o e r) :
    c.Affords text o [e] asked.toList := by
  cases asked with
  | none => exact .nil
  | some r => exact ⟨[e], List.Sublist.refl _, .cons (makes r rfl) .nil⟩

theorem mono (affords : c.Affords text o errands requests) (more : errands.Sublist errands') :
    c.Affords text o errands' requests := by
  obtain ⟨run, some, makes⟩ := affords
  exact ⟨run, some.trans more, makes⟩

theorem append (first : c.Affords text o errands requests)
    (second : c.Affords text o errands' requests') :
    c.Affords text o (errands ++ errands') (requests ++ requests') := by
  obtain ⟨run, some, makes⟩ := first
  obtain ⟨run', some', makes'⟩ := second
  exact ⟨run ++ run', some.append some', List.rel_append makes makes'⟩

/-- What one connector does on an errand, another may have done on an errand of its own. -/
theorem errand {text' : String} {o' : Options} {e' : Errand}
    (affords : c.Affords text o [e] requests)
    (same : ∀ r, c.Makes text o e r → c'.Makes text' o' e' r) :
    c'.Affords text' o' [e'] requests := by
  obtain ⟨run, some, makes⟩ := affords
  rcases List.sublist_singleton.1 some with rfl | rfl
  · cases makes
    exact .nil
  · obtain ⟨r, _, made, ⟨⟩, rfl⟩ := List.forall₂_cons_left_iff.1 makes
    exact ⟨[e'], List.Sublist.refl _, .cons (same r made) .nil⟩

end Affords

/-- Between two worlds nothing has been asked for but what the errands afford. -/
def Within (c : Connector) (text : String) (o : Options) (errands : List Errand)
    (w w' : World) : Prop :=
  ∃ requests, c.Affords text o errands requests ∧ w.Records w' requests

/-- Whoever leaves the network alone stays within every list. -/
theorem within_of_idle (idle : w'.peer = w.peer) : c.Within text o errands w w' :=
  ⟨[], .nil, [], by rw [idle, List.append_nil], rfl⟩

theorem within_of_asked {asked : Option Http.Request} (recorded : w.Records w' asked.toList)
    (makes : ∀ r ∈ asked, c.Makes text o e r) : c.Within text o [e] w w' :=
  ⟨_, .of_option makes, recorded⟩

theorem within_of_submit (submitted : Http.submit p h w = .ok (d, w'))
    (makes : ∀ r ∈ p.request? h, c.Makes text o e r) : c.Within text o [e] w w' :=
  within_of_asked (Http.records_submit submitted) makes

theorem Within.mono (within : c.Within text o errands w w') (more : errands.Sublist errands') :
    c.Within text o errands' w w' := by
  obtain ⟨requests, affords, recorded⟩ := within
  exact ⟨requests, affords.mono more, recorded⟩

theorem Within.trans (first : c.Within text o errands w w₁)
    (second : c.Within text o errands' w₁ w') : c.Within text o (errands ++ errands') w w' := by
  obtain ⟨requests, affords, recorded⟩ := first
  obtain ⟨requests', affords', recorded'⟩ := second
  exact ⟨requests ++ requests', affords.append affords', recorded.trans recorded'⟩

/-! ### Prompts -/

theorem within_of_fetchAll {urls : List String} {pages : List (String × String)}
    (fetched : Page.fetchAll urls w = .ok (pages, w')) :
    c.Within text o (urls.map .page) w w' := by
  induction urls generalizing w pages with
  | nil =>
    obtain ⟨-, rfl⟩ := Run.pure_eq_ok.1 fetched
    exact within_of_idle rfl
  | cons url rest ih =>
    obtain ⟨answer, w₁, others, called, fetchedOthers, -⟩ := fetchAll_cons_eq_ok.1 fetched
    have page : c.Within text o [.page url] w w₁ :=
      within_of_asked (Http.records_call called) fun r asked => .page asked
    exact page.trans (ih fetchedOthers)

theorem within_of_formatPrompt {purpose : Purpose} {prompt formatted : String}
    (format : purpose.formatPrompt prompt o w = .ok (formatted, w')) :
    c.Within text o (purpose.pages o) w w' := by
  by_cases agent : purpose = .agent
  · subst agent
    obtain ⟨pages, fetched, -⟩ := Broker.formatPrompt_agent_eq_ok.1 format
    exact within_of_fetchAll fetched
  · rw [Broker.world_of_formatPrompt agent format]
    exact within_of_idle rfl

/-! ### Plans -/

/-- Setting up a backend takes a listing and a creation at most. -/
theorem within_of_setup {state state' : BackendState} {outcome : Outcome Unit}
    {asked : List (Http.Payload × Delivery)}
    (setup : VectorStore.Setup c.config state flag w asked outcome state' flag' w') :
    c.Within text o [.listing, .creation] w w' := by
  have listed {h w d w₁} (signed : VectorStore.headers c.config = .ok h)
      (submitted : Http.submit (VectorStore.listing c.config) h w = .ok (d, w₁)) :
      c.Within text o [.listing] w w₁ :=
    within_of_submit submitted fun r asked => .listing signed asked
  -- Whatever comes of it, a setup asks nothing, for the listing, or for both.
  cases setup with
  | latched | standing | unsigned => exact within_of_idle rfl
  | unlisted _ asks | present _ asks =>
    obtain _ | ⟨signed, submitted, ⟨⟩⟩ := asks
    exact (listed signed submitted).mono (by simp)
  | created _ asks | rejected _ asks =>
    obtain _ | ⟨signed, submitted, _ | ⟨signed', submitted', ⟨⟩⟩⟩ := asks
    have created : c.Within text o [.creation] _ _ :=
      within_of_submit submitted' fun r asked => .creation signed' asked
    exact (listed signed submitted).trans created

/-- Only a vector store has something to ask for when it plans. -/
theorem Plans.within {x : Outcome Plan} (plans : Plans c flag text o w x c' flag' w') :
    w' = w ∨ c.provider = .qdrant ∧ c.Within text o [.listing, .creation] w w' := by
  cases plans with
  | direct => exact .inl rfl
  | setUp binding ensure =>
    obtain ⟨asked, setup⟩ := VectorStore.setup_of_ensure ensure
    exact .inr ⟨by rw [provider, binding]; rfl, within_of_setup setup⟩

/-- What a plan can come to. -/
inductive Gives : Plan → Http.Payload → Prop
  | ready {p : Http.Payload} : Gives (.ready p) p
  | awaiting {finish vector} {p : Http.Payload} (finished : finish vector = .ok p) :
      Gives (.awaiting finish) p

theorem Plans.yields {plan : Plan} (plans : Plans c flag text o w (.ok plan) c' flag' w')
    (gives : Gives plan p) : c.Yields text o p := by
  generalize planned : Except.ok plan = x at plans
  cases plans with
  | @direct outcome payload =>
    cases outcome with
    | error f => cases planned
    | ok p' =>
      cases planned
      cases gives
      exact .direct payload
  | setUp binding ensure =>
    obtain ⟨⟨⟩, -, awaited⟩ := Outcome.bind_eq_ok.1 planned.symm
    unfold Connector.awaited at awaited
    cases settled : RetrievalAction.ofOptions o with
    | error f => rw [settled] at awaited; cases awaited
    | ok action =>
      rw [settled] at awaited
      cases awaited
      cases gives with
      | awaiting finished =>
        have store : c.provider = .qdrant := by rw [provider, binding]; rfl
        exact .found store settled finished

theorem Plans.account?_eq {x : Outcome Plan} (plans : Plans c flag text o w x c' flag' w') :
    c'.account? = c.account? := by
  cases plans with
  | direct => rfl
  | setUp binding =>
    unfold account?
    rw [binding]

/-! ### Headers and submissions -/

theorem account?_of_headers {x : Outcome Http.Headers}
    (signed : c.headers w = .ok ((x, c'), w')) : c'.account? = c.account? := by
  unfold headers at signed
  unfold account?
  cases binding : c.binding with
  | imagen tokens detector =>
    rw [binding] at signed
    obtain ⟨⟨token, tokens'⟩, w₁, accessed, signed⟩ := Run.bind_eq_ok.1 signed
    cases (Run.pure_eq_ok.1 signed).1
    exact congrArg some (Token.Source.access_eq_ok.1 accessed).account_eq
  | _ =>
    rw [binding] at signed
    cases (Run.pure_eq_ok.1 signed).1
    rw [binding]

section SignedIn

variable {tokens tokens' : Token.Source} {detector : ExpiryDetector}

/-- A request for a token is one for the account that the connector signs in with. -/
theorem makes_token (account : c₁.account? = c.account?)
    (binding : c₁.binding = .imagen tokens detector) {now : Moment} {r : Http.Request}
    (asked : tokens.request? now = some r) : c.Makes text o .token r := by
  unfold account? at account
  rw [binding] at account
  exact .token account.symm asked

/-- A payload is submitted, and a token asked for. -/
theorem affords_turnedAway (account : c₁.account? = c.account?)
    (binding : c₁.binding = .imagen tokens detector) (yields : c.Yields text o p)
    (h : Http.Headers) (now : Moment) : c.Affords text o [.answer, .token]
      ((p.request? h).toList ++ (tokens.request? now).toList) := by
  have answer : c.Affords text o [.answer] (p.request? h).toList :=
    .of_option fun r asked => .answer yields asked
  have token : c.Affords text o [.token] (tokens.request? now).toList :=
    .of_option fun r asked => makes_token account binding asked
  exact answer.append token

theorem affords_of_exchange (account : c₁.account? = c.account?)
    (binding : c₁.binding = .imagen tokens detector) (yields : c.Yields text o p)
    (exchange : Token.Exchange tokens detector p h w requests d tokens' w') :
    c.Affords text o [.answer, .token, .answer] requests := by
  have answer (h : Http.Headers) : c.Affords text o [.answer] (p.request? h).toList :=
    .of_option fun r asked => .answer yields asked
  have turnedAway := affords_turnedAway account binding yields h w.moment
  cases exchange with
  | answered => exact (answer h).mono (by simp)
  | ungranted | unsendable => exact turnedAway.mono (by simp)
  | resubmitted | rejected => exact turnedAway.append (answer _)

end SignedIn

theorem within_of_headers {x : Outcome Http.Headers} (account : c₁.account? = c.account?)
    (signed : c₁.headers w = .ok ((x, c'), w')) :
    c.Within text o c₁.provider.signing w w' := by
  unfold headers at signed
  unfold provider
  cases binding : c₁.binding with
  | imagen tokens detector =>
    rw [binding] at signed
    obtain ⟨⟨token, tokens'⟩, w₁, accessed, signed⟩ := Run.bind_eq_ok.1 signed
    obtain ⟨-, rfl⟩ := Run.pure_eq_ok.1 signed
    obtain ⟨asked, recorded, requests⟩ := (Token.Source.access_eq_ok.1 accessed).records
    refine within_of_asked recorded fun r made => ?_
    obtain ⟨now, asked⟩ := requests r made
    exact makes_token account binding asked
  | _ =>
    rw [binding] at signed
    obtain ⟨-, rfl⟩ := Run.pure_eq_ok.1 signed
    exact within_of_idle rfl

theorem within_of_send (account : c₁.account? = c.account?) (yields : c.Yields text o p)
    (sent : c₁.send p h w = .ok ((d, c'), w')) : c.Within text o c₁.provider.sending w w' := by
  unfold send at sent
  unfold provider
  cases binding : c₁.binding with
  | imagen tokens detector =>
    rw [binding] at sent
    obtain ⟨⟨d, tokens'⟩, w₁, exchanged, sent⟩ := Run.bind_eq_ok.1 sent
    obtain ⟨-, rfl⟩ := Run.pure_eq_ok.1 sent
    obtain ⟨requests, exchange⟩ := Token.submitWithRefresh_eq_ok.1 exchanged
    exact ⟨requests, affords_of_exchange account binding yields exchange, exchange.records⟩
  | _ =>
    rw [binding] at sent
    obtain ⟨d, w₁, submitted, sent⟩ := Run.bind_eq_ok.1 sent
    obtain ⟨-, rfl⟩ := Run.pure_eq_ok.1 sent
    exact within_of_submit submitted fun r asked => .answer yields asked

/-! ### Breaking down -/

/-- A payload is on its way when a date is out of reach: that of a token, while the headers are
made or after the payload has been turned away. -/
inductive Interrupts (c : Connector) (p : Http.Payload) (w : World) : World → Prop
  | signing {tokens detector} {w' : World} (binding : c.binding = .imagen tokens detector)
      (breaks : tokens.BreaksIn w w') : Interrupts c p w w'
  | sending {tokens detector} {h : Http.Headers} {c₁ : Connector} {w₁ w' : World}
      (signed : c.headers w = .ok ((.ok h, c₁), w₁))
      (binding : c₁.binding = .imagen tokens detector)
      (undatable : Token.UndatableIn tokens detector p h w₁ w') : Interrupts c p w w'

/-- Headers are made, or it comes to nothing. -/
theorem headers_or_breaks (c : Connector) (w : World) :
    (∃ x c' w', c.headers w = .ok ((x, c'), w')) ∨
      ∃ tokens detector w', c.binding = .imagen tokens detector ∧ tokens.BreaksIn w w' := by
  unfold headers
  cases binding : c.binding with
  | imagen tokens detector =>
    rcases tokens.accesses_or_breaksIn w with ⟨token, tokens', w', accesses⟩ | ⟨w', breaks⟩
    · exact .inl ⟨_, _, _, Run.bind_of_ok accesses.run_eq⟩
    · exact .inr ⟨tokens, detector, w', rfl, breaks⟩
  | _ => exact .inl ⟨_, _, _, rfl⟩

theorem send_or_undatable (c : Connector) (p : Http.Payload) (h : Http.Headers) (w : World) :
    (∃ d c' w', c.send p h w = .ok ((d, c'), w')) ∨
      ∃ tokens detector w', c.binding = .imagen tokens detector ∧
        Token.UndatableIn tokens detector p h w w' := by
  unfold send
  cases binding : c.binding with
  | imagen tokens detector =>
    rcases Token.exchange_or_undatable tokens detector p h w with
      ⟨requests, d, tokens', w', exchange⟩ | undatable
    · exact .inl ⟨_, _, _, Run.bind_of_ok exchange.run_eq⟩
    · obtain ⟨w', undatable⟩ := Token.undatable_iff.1 undatable
      exact .inr ⟨tokens, detector, w', rfl, undatable⟩
  | _ =>
    obtain ⟨d, w', submitted⟩ := Http.returns_submit p h w
    exact .inl ⟨_, _, _, Run.bind_of_ok submitted⟩

theorem headers_of_breaksIn {tokens : Token.Source} {detector : ExpiryDetector}
    (binding : c.binding = .imagen tokens detector) (breaks : tokens.BreaksIn w w') :
    c.headers w = .error .dateOutOfRange := by
  unfold headers
  rw [binding]
  exact Run.bind_of_error breaks.run_eq

theorem send_of_undatableIn {tokens : Token.Source} {detector : ExpiryDetector}
    (binding : c.binding = .imagen tokens detector)
    (undatable : Token.UndatableIn tokens detector p h w w') :
    c.send p h w = .error .dateOutOfRange := by
  unfold send
  rw [binding]
  exact Run.bind_of_error (Token.undatable_iff.2 ⟨w', undatable⟩).run_eq

/-- Only a payload for the provider that is signed in to is interrupted. -/
theorem Interrupts.provider_eq (interrupts : c.Interrupts p w w') : c.provider = .imagen := by
  cases interrupts with
  | signing binding =>
    rw [provider, binding]
    rfl
  | sending signed binding =>
    rw [← provider_of_headers signed, provider, binding]
    rfl

/-- What has been asked for by then is what headers and submission may take. -/
theorem Interrupts.within (interrupts : c₁.Interrupts p w w') (account : c₁.account? = c.account?)
    (yields : c.Yields text o p) :
    c.Within text o (c₁.provider.signing ++ c₁.provider.sending) w w' := by
  have imagen := interrupts.provider_eq
  rw [imagen]
  cases interrupts with
  | signing binding breaks =>
    obtain ⟨asked, recorded, requests⟩ := breaks.records
    have token : c.Within text o [.token] w w' := within_of_asked recorded fun r made => by
      obtain ⟨now, asked⟩ := requests r made
      exact makes_token account binding asked
    exact token.mono (by simp [Provider.signing])
  | @sending tokens detector h c₂ w₁ w' signed binding undatable =>
    have turnedAway := affords_turnedAway ((account?_of_headers signed).trans account) binding
      yields h w₁.moment
    have sending : c.Within text o [.answer, .token, .answer] w₁ w' :=
      ⟨_, turnedAway.mono (by simp), undatable.records⟩
    have signing : c.Within text o c₁.provider.signing w w₁ := within_of_headers account signed
    rw [imagen] at signing
    exact signing.trans sending

end Connector

end PromptBroker
