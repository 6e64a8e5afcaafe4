import Mathlib.Algebra.Group.Nat.Defs
import PromptBroker.Proofs.Request.Accounts
import PromptBroker.Proofs.Token.Refresh

/-!
# Submitting once more

A submission that is turned away because the token has expired is repeated once, with a
new token. `Exchange` lists the ways this can go, with the requests that go on record in
each: never more than two submissions, and a new token is asked for only in between.
Whatever the replies are, the submission goes one of these ways, except that it does not
return if the new token is granted with an end that is no date
(`exists_exchange_iff`).

To the caller of a broker, a submission that is turned away twice is a failed transport.
-/

namespace PromptBroker.Token

/-! ### The ways of a submission -/

/-- The submission is turned away because the token has expired, and a refresh returns. -/
def Renews (s : Source) (detector : ExpiryDetector) (p : Http.Payload) (headers : Http.Headers)
    (w : World) (t : Outcome String) (s' : Source) (w' : World) : Prop :=
  ∃ d w₁, Http.submit p headers w = .ok (d, w₁) ∧ isExpiry detector d = true ∧
    s.refresh w₁ = .ok ((t, s'), w')

/-- The submission is turned away because the token has expired, and a new one is granted with an
end that is no date. -/
def Undatable (s : Source) (detector : ExpiryDetector) (p : Http.Payload) (headers : Http.Headers)
    (w : World) : Prop :=
  ∃ d w₁, Http.submit p headers w = .ok (d, w₁) ∧ isExpiry detector d = true ∧ s.GrantsUndated w₁

/-- The same, with the world in which this becomes clear. -/
def UndatableIn (s : Source) (detector : ExpiryDetector) (p : Http.Payload)
    (headers : Http.Headers) (w w' : World) : Prop :=
  ∃ d w₁, Http.submit p headers w = .ok (d, w₁) ∧ isExpiry detector d = true ∧
    s.GrantsUndatedIn w₁ w'

/-- The submission is turned away because the token has expired, and again with the new one. -/
def RejectedTwice (s : Source) (detector : ExpiryDetector) (p : Http.Payload)
    (headers : Http.Headers) (w : World) (token : String) (d : Delivery) (s' : Source)
    (w' : World) : Prop :=
  ∃ w₂, Renews s detector p headers w (.ok token) s' w₂ ∧
    Http.Headers.isValue token = true ∧
    Http.submit p (headers.authorize token) w₂ = .ok (d, w') ∧ isExpiry detector d = true

/-- How a submission goes: the requests that go on record, what is delivered, and the source as it
is afterwards. -/
inductive Exchange (s : Source) (detector : ExpiryDetector) (p : Http.Payload)
    (headers : Http.Headers) (w : World) : List Http.Request → Delivery → Source → World → Prop
  /-- It is not turned away for its token: what came of it stands. -/
  | answered {d w₁} (submitted : Http.submit p headers w = .ok (d, w₁))
      (stands : isExpiry detector d = false) :
      Exchange s detector p headers w (p.request? headers).toList d s w₁
  /-- There is no new token. -/
  | ungranted {f s' w₂} (renews : Renews s detector p headers w (.error f) s' w₂) :
      Exchange s detector p headers w
        ((p.request? headers).toList ++ (s.request? w.moment).toList)
        (.failure 0 f.userMessage f.message none) s' w₂
  /-- The new token cannot be sent. -/
  | unsendable {token f s' w₂} (renews : Renews s detector p headers w (.ok token) s' w₂)
      (unfit : bearer token headers = .error f) :
      Exchange s detector p headers w
        ((p.request? headers).toList ++ (s.request? w.moment).toList)
        (.failure 0 f.userMessage f.message none) s' w₂
  /-- It is submitted once more, and what comes of it stands. -/
  | resubmitted {token s' w₂ d w₃} (renews : Renews s detector p headers w (.ok token) s' w₂)
      (fit : Http.Headers.isValue token = true)
      (submitted : Http.submit p (headers.authorize token) w₂ = .ok (d, w₃))
      (stands : isExpiry detector d = false) :
      Exchange s detector p headers w
        ((p.request? headers).toList ++ (s.request? w.moment).toList ++
          (p.request? (headers.authorize token)).toList) d s' w₃
  /-- It is submitted once more, and turned away again. -/
  | rejected {token d s' w₃} (rejected : RejectedTwice s detector p headers w token d s' w₃) :
      Exchange s detector p headers w
        ((p.request? headers).toList ++ (s.request? w.moment).toList ++
          (p.request? (headers.authorize token)).toList)
        (.failure 0 stillRejected.userMessage stillRejected.message d.errorBody?) s' w₃

variable {s s' : Source} {detector : ExpiryDetector} {p : Http.Payload} {headers : Http.Headers}
  {t : Outcome String} {token : String} {d : Delivery} {requests : List Http.Request}
  {w w₁ w' : World}

/-! ### What goes on record -/

theorem Renews.records (h : Renews s detector p headers w t s' w') :
    w.Records w' ((p.request? headers).toList ++ (s.request? w.moment).toList) := by
  obtain ⟨d, w₁, submitted, -, refreshed⟩ := h
  rw [← Http.moment_of_submit submitted]
  exact (Http.records_submit submitted).trans (Source.refresh_eq_ok.1 refreshed).records

theorem undatable_iff :
    Undatable s detector p headers w ↔ ∃ w', UndatableIn s detector p headers w w' := by
  constructor
  · rintro ⟨d, w₁, submitted, expired, undated⟩
    obtain ⟨w', undated⟩ := Source.grantsUndated_iff.1 undated
    exact ⟨w', d, w₁, submitted, expired, undated⟩
  · rintro ⟨w', d, w₁, submitted, expired, undated⟩
    exact ⟨d, w₁, submitted, expired, Source.grantsUndated_iff.2 ⟨w', undated⟩⟩

theorem UndatableIn.records (h : UndatableIn s detector p headers w w') :
    w.Records w' ((p.request? headers).toList ++ (s.request? w.moment).toList) := by
  obtain ⟨d, w₁, submitted, -, undated⟩ := h
  rw [← Http.moment_of_submit submitted]
  exact (Http.records_submit submitted).trans undated.records

theorem Exchange.records (h : Exchange s detector p headers w requests d s' w') :
    w.Records w' requests := by
  cases h with
  | answered submitted => exact Http.records_submit submitted
  | ungranted renews | unsendable renews => exact renews.records
  | resubmitted renews _ submitted => exact renews.records.trans (Http.records_submit submitted)
  | rejected rejected =>
    obtain ⟨w₂, renews, -, submitted, -⟩ := rejected
    exact renews.records.trans (Http.records_submit submitted)

/-! ### Every submission -/

/-- What is left to do once the submission has been turned away. -/
theorem submitWithRefresh_of_expired (submitted : Http.submit p headers w = .ok (d, w₁))
    (expired : isExpiry detector d = true) :
    submitWithRefresh s detector p headers w = (do
      let (token, s) ← s.refresh
      match token.bind (bearer · headers) with
      | .error e => return (unsubmitted e none, s)
      | .ok headers =>
        let second ← Http.submit p headers
        if isExpiry detector second then
          return (unsubmitted stillRejected second.errorBody?, s)
        return (second, s)) w₁ := by
  unfold submitWithRefresh
  rw [Run.bind_of_ok submitted]
  have goesOn : ¬(!isExpiry detector d) = true := by simp [expired]
  exact congrFun (if_neg goesOn) w₁

theorem Renews.run_eq_of_failure {f : Failure} (h : Renews s detector p headers w t s' w')
    (failed : t.bind (bearer · headers) = .error f) :
    submitWithRefresh s detector p headers w =
      .ok ((.failure 0 f.userMessage f.message none, s'), w') := by
  obtain ⟨d, w₁, submitted, expired, refreshed⟩ := h
  rw [submitWithRefresh_of_expired submitted expired, Run.bind_of_ok refreshed]
  dsimp only
  rw [failed]
  rfl

theorem bearer_eq_ok (fit : Http.Headers.isValue token = true) :
    bearer token headers = .ok (headers.authorize token) := if_pos fit

theorem Renews.run_eq_of_fit (h : Renews s detector p headers w (.ok token) s' w₁)
    (fit : Http.Headers.isValue token = true)
    (submitted : Http.submit p (headers.authorize token) w₁ = .ok (d, w')) :
    submitWithRefresh s detector p headers w =
      .ok ((if isExpiry detector d then unsubmitted stillRejected d.errorBody? else d, s'),
        w') := by
  obtain ⟨d₀, w₀, first, expired, refreshed⟩ := h
  rw [submitWithRefresh_of_expired first expired, Run.bind_of_ok refreshed]
  dsimp only [Except.bind]
  rw [bearer_eq_ok fit]
  dsimp only
  rw [Run.bind_of_ok submitted]
  split <;> rfl

theorem Exchange.run_eq (h : Exchange s detector p headers w requests d s' w') :
    submitWithRefresh s detector p headers w = .ok ((d, s'), w') := by
  cases h with
  | answered submitted stands =>
    unfold submitWithRefresh
    rw [Run.bind_of_ok submitted]
    simp only [stands, Bool.not_false, if_true]
    rfl
  | ungranted renews => exact renews.run_eq_of_failure rfl
  | unsendable renews unfit => exact renews.run_eq_of_failure unfit
  | resubmitted renews fit submitted stands =>
    rw [renews.run_eq_of_fit fit submitted, stands]
    rfl
  | rejected rejected =>
    obtain ⟨w₂, renews, fit, submitted, expired⟩ := rejected
    rw [renews.run_eq_of_fit fit submitted, expired]
    rfl

theorem Undatable.run_eq (h : Undatable s detector p headers w) :
    submitWithRefresh s detector p headers w = .error .dateOutOfRange := by
  obtain ⟨d, w₁, submitted, expired, undated⟩ := h
  rw [submitWithRefresh_of_expired submitted expired]
  exact Run.bind_of_error undated.run_eq

/-- Every submission goes one of these ways. -/
theorem exchange_or_undatable (s : Source) (detector : ExpiryDetector) (p : Http.Payload)
    (headers : Http.Headers) (w : World) :
    (∃ requests d s' w', Exchange s detector p headers w requests d s' w') ∨
      Undatable s detector p headers w := by
  obtain ⟨d, w₁, submitted⟩ := Http.returns_submit p headers w
  cases expired : isExpiry detector d with
  | false => exact .inl ⟨_, d, s, w₁, .answered submitted expired⟩
  | true =>
    rcases Source.refreshes_or_grantsUndated s w₁ with ⟨t, s', w₂, refreshes⟩ | undated
    · have renews : Renews s detector p headers w t s' w₂ :=
        ⟨d, w₁, submitted, expired, refreshes.run_eq⟩
      cases t with
      | error f => exact .inl ⟨_, _, s', w₂, .ungranted renews⟩
      | ok token =>
        cases fit : Http.Headers.isValue token with
        | false =>
          have unfit : bearer token headers = .error _ := if_neg (Bool.eq_false_iff.1 fit)
          exact .inl ⟨_, _, s', w₂, .unsendable renews unfit⟩
        | true =>
          obtain ⟨d', w₃, again⟩ := Http.returns_submit p (headers.authorize token) w₂
          cases expired' : isExpiry detector d' with
          | false => exact .inl ⟨_, d', s', w₃, .resubmitted renews fit again expired'⟩
          | true => exact .inl ⟨_, _, s', w₃, .rejected ⟨w₂, renews, fit, again, expired'⟩⟩
    · exact .inr ⟨d, w₁, submitted, expired, undated⟩

theorem submitWithRefresh_eq_ok : submitWithRefresh s detector p headers w = .ok ((d, s'), w') ↔
    ∃ requests, Exchange s detector p headers w requests d s' w' := by
  refine ⟨fun returned => ?_, fun ⟨_, exchange⟩ => exchange.run_eq⟩
  rcases exchange_or_undatable s detector p headers w with ⟨requests, _, _, _, exchange⟩ | h
  · cases exchange.run_eq.symm.trans returned
    exact ⟨requests, exchange⟩
  · cases h.run_eq.symm.trans returned

/-- A submission goes one of the ways, with their requests on record, exactly if no token is granted
whose end is no date. -/
theorem exists_exchange_iff : (∃ requests d s' w',
      submitWithRefresh s detector p headers w = .ok ((d, s'), w') ∧
        Exchange s detector p headers w requests d s' w' ∧ w.Records w' requests) ↔
    ¬Undatable s detector p headers w := by
  constructor
  · rintro ⟨requests, d, s', w', returned, -, -⟩ undatable
    cases undatable.run_eq.symm.trans returned
  · intro datable
    rcases exchange_or_undatable s detector p headers w with ⟨requests, d, s', w', exchange⟩ | h
    · exact ⟨requests, d, s', w', exchange.run_eq, exchange, exchange.records⟩
    · exact absurd h datable

/-! ### The second submission -/

/-- The second submission differs from the first in its authorization only. -/
structure DiffersInAuthorization (p : Http.Payload) (headers : Http.Headers) (token : String) :
    Prop where
  request : (p.request? (headers.authorize token)).map (fun q => (q.method, q.url, q.body)) =
    (p.request? headers).map fun q => (q.method, q.url, q.body)
  authorization : (headers.authorize token).get? "authorization" = some ("Bearer " ++ token)
  others : ∀ name, name ≠ "authorization" → (headers.authorize token).get? name = headers.get? name

theorem differsInAuthorization (p : Http.Payload) (headers : Http.Headers) (token : String) :
    DiffersInAuthorization p headers token where
  request := by
    unfold Http.Payload.request? Http.request?
    split
    · rfl
    · cases Http.Url.parse? p.url with
      | none => rfl
      | some u =>
        dsimp only [Option.bind_some]
        split <;> rfl
  authorization := Keyed.get?_insert_self ..
  others _ other := Keyed.get?_insert_of_ne other ..

/-! ### An account on the same machine -/

namespace Sample

open Signing (KeyNumbers)

/-- An element of a key file: its tag, its length and its body. -/
def element (tag : UInt8) (body : List UInt8) : List UInt8 :=
  let length := body.length
  if length < 0x80 then tag :: UInt8.ofNat length :: body
  else tag :: 0x82 :: (Digest.bigEndian 2 length ++ body)

/-- A number. Its first bit stays clear, or it would be a negative one. -/
def number (n : Nat) : List UInt8 := element 0x02 (Digest.bigEndian ((n.log2 + 1) / 8 + 1) n)

/-- The key file with these numbers. -/
def keyFile (k : KeyNumbers) : List UInt8 :=
  element 0x30 ([0, k.modulus, k.publicExponent, k.privateExponent, k.firstPrime, k.secondPrime,
    k.privateExponent % (k.firstPrime - 1), k.privateExponent % (k.secondPrime - 1),
    Signing.powMod k.firstPrime k.secondPrime (k.firstPrime - 2)].flatMap number)

/-- A key made of two Mersenne primes. -/
def key : KeyNumbers :=
  let p := 2 ^ 521 - 1
  let q := 2 ^ 127 - 1
  ⟨p * q, 65537, (1 + 10880 * ((p - 1) * (q - 1))) / 65537, p, q, false⟩

def account : Account :=
  ⟨⟨"broker@example", "", some "http://[::1]/token"⟩, ⟨keyFile key⟩, "images"⟩

/-- The provider turns a token away. -/
def expired : UInt16 × String := (401, "UNAUTHENTICATED")

/-- The endpoint grants a token for so many seconds. -/
def granting (seconds : Int) : UInt16 × String :=
  (200, Json.render (.object
    [("access_token", .string "new"), ("expires_in", Json.ofInt seconds)]))

end Sample

/-- Not every submission returns: a token may be granted for longer than there are dates. -/
theorem not_forall_exists_exchange : ¬∀ s detector p headers w, ∃ requests d s' w',
    submitWithRefresh s detector p headers w = .ok ((d, s'), w') ∧
      Exchange s detector p headers w requests d s' w' ∧ w.Records w' requests := by
  intro h
  have stops : (submitWithRefresh ⟨Sample.account, none⟩ {} (.postJson "http://[::1]/" .null) []
      (.answering [Sample.expired, Sample.granting 0x7FFFFFFFFFFFFFFF])).toOption.isSome =
        false := by
    decide +kernel
  obtain ⟨requests, d, s', w', returned, -⟩ := h ⟨Sample.account, none⟩ {}
    (.postJson "http://[::1]/" .null) []
    (.answering [Sample.expired, Sample.granting 0x7FFFFFFFFFFFFFFF])
  rw [returned] at stops
  cases stops

/-- Whether a submission and its repetition with a token are turned away, and which token there is
in between. -/
def rejections (s : Source) (detector : ExpiryDetector) (p : Http.Payload) (headers : Http.Headers)
    (token : String) : Run (Bool × Option String × Bool) := do
  let first ← Http.submit p headers
  let (renewed, _) ← s.refresh
  let second ← Http.submit p (headers.authorize token)
  return (isExpiry detector first, renewed.toOption, isExpiry detector second)

theorem exists_rejectedTwice (fit : Http.Headers.isValue token = true)
    (h : (rejections s detector p headers token w).toOption.map (·.1) =
      some (true, some token, true)) :
    ∃ d s' w', RejectedTwice s detector p headers w token d s' w' := by
  cases ran : rejections s detector p headers token w with
  | error e => rw [ran] at h; cases h
  | ok r =>
    obtain ⟨parts, w'⟩ := r
    obtain ⟨d, w₁, first, rest⟩ := Run.bind_eq_ok.1 ran
    obtain ⟨⟨t, s'⟩, w₂, refreshed, rest⟩ := Run.bind_eq_ok.1 rest
    obtain ⟨d', w₃, second, rest⟩ := Run.bind_eq_ok.1 rest
    obtain ⟨rfl, rfl⟩ := Run.pure_eq_ok.1 rest
    rw [ran] at h
    obtain ⟨expired, renewed, again⟩ : isExpiry detector d = true ∧ t.toOption = some token ∧
        isExpiry detector d' = true := by
      simpa using Option.some.inj h
    cases t with
    | error f => cases renewed
    | ok t =>
      cases renewed
      exact ⟨d', s', w₃, w₂, ⟨d, w₁, first, expired, refreshed⟩, fit, second, again⟩

end PromptBroker.Token

namespace PromptBroker.Broker

open Token (stillRejected)

/-- A request that is submitted twice, and turned away for its token both times. -/
inductive TokenRejected (q : Request) (b : Broker) (w : World) : Broker → World → Prop
  | mk {route o text b₁ w₁ nested p c b₂ w₂ headers c₁ w₃ tokens detector token d tokens' w'}
      (admitted : Admitted q b w route o text b₁ w₁)
      (prepares : Prepares Embeds q.caller route text o b₁ w₁ nested (.ok p) c b₂ w₂)
      (signed : c.headers w₂ = .ok ((.ok headers, c₁), w₃))
      (binding : c₁.binding = .imagen tokens detector)
      (rejected : Token.RejectedTwice tokens detector p headers w₃ token d tokens' w') :
      TokenRejected q b w
        ((b₂.keep route.name c₁).keep route.name { c₁ with binding := .imagen tokens' detector }) w'

variable {q : Request} {b b' : Broker} {w w' : World}

/-- A submission that is turned away twice is delivered as a failed transport. -/
theorem send_of_rejectedTwice {c : Connector} {tokens tokens' : Token.Source}
    {detector : ExpiryDetector} {p : Http.Payload} {headers : Http.Headers} {token : String}
    {d : Delivery} (binding : c.binding = .imagen tokens detector)
    (rejected : Token.RejectedTwice tokens detector p headers w token d tokens' w') :
    c.send p headers w = .ok ((.failure 0 stillRejected.userMessage stillRejected.message
      d.errorBody?, { c with binding := .imagen tokens' detector }), w') := by
  unfold Connector.send
  rw [binding]
  dsimp only
  rw [Run.bind_of_ok (Token.Exchange.rejected rejected).run_eq]
  rfl

/-- No other request is made for a connector that signs in with an account. -/
theorem Prepares.nested_eq_none {caller : Caller} {route : Route} {text : String} {o : Options}
    {nested : Option Response} {p : Outcome Http.Payload} {c c₁ : Connector}
    {headers : Outcome Http.Headers} {w₁ w₂ : World} {tokens : Token.Source}
    {detector : ExpiryDetector}
    (prepares : Prepares Embeds caller route text o b w nested p c b' w₁)
    (signed : c.headers w₁ = .ok ((headers, c₁), w₂))
    (binding : c₁.binding = .imagen tokens detector) : nested = none := by
  cases nested with
  | none => rfl
  | some r =>
    obtain ⟨state, vectorStore⟩ := prepares.binding_of_nested
    have same : c₁.provider = route.connector.provider :=
      (Connector.provider_of_headers signed).trans prepares.provider_eq
    unfold Connector.provider at same
    rw [binding, vectorStore] at same
    cases same

/-- A token that is turned away twice is a failed transport to the caller, and costs nothing. -/
theorem TokenRejected.make_eq (h : TokenRejected q b w b' w') :
    q.make b w = .ok ((.failure 500 stillRejected.userMessage stillRejected.message
      .transportError, b'), w') ∧ b'.ledger = b.ledger := by
  cases h with
  | mk admitted prepares signed binding rejected =>
    have course := Course.undelivered admitted prepares
      (.sent signed (send_of_rejectedTwice binding rejected))
    cases prepares.nested_eq_none signed binding
    exact ⟨make_eq_ok_iff.2 ⟨none, course⟩, (course.charges embeds_charging).charged.eq_of_nil⟩

/-! ### The whole -/

/-- A submission goes one of the ways exactly if no token is granted whose end is no date. The
request for a token goes on record if it can be made at all; the second submission differs from the
first in its authorization only; and a token that is turned away twice is a failed transport to the
caller, at no cost. -/
theorem resubmits_once (s : Token.Source) (detector : ExpiryDetector) (p : Http.Payload)
    (headers : Http.Headers) (w : World) :
    ((∃ requests d s' w', Token.submitWithRefresh s detector p headers w = .ok ((d, s'), w') ∧
        Token.Exchange s detector p headers w requests d s' w' ∧ w.Records w' requests) ↔
      ¬Token.Undatable s detector p headers w) ∧
    (∀ now, (s.request? now).isSome = true ↔
      (∃ assertion, s.account.assertion now = .ok assertion) ∧
        Http.isCallable s.account.service.exchangeUrl = true) ∧
    (∀ token, Token.DiffersInAuthorization p headers token) ∧
    ∀ q b w b' w', TokenRejected q b w b' w' →
      q.make b w = .ok ((.failure 500 stillRejected.userMessage stillRejected.message
        .transportError, b'), w') ∧ b'.ledger = b.ledger :=
  ⟨Token.exists_exchange_iff, fun _ => Token.Source.isSome_request?_iff,
    Token.differsInAuthorization p headers, fun _ _ _ _ _ => TokenRejected.make_eq⟩

namespace Sample

def pictures : Instance :=
  { name := "local", provider := .imagen, model := "imagen-4.0-generate-001"
    endpoint := "http://[::1]/" }

/-- The kept token is valid for an hour. -/
def painter : Connector :=
  ⟨pictures, .imagen ⟨Token.Sample.account, some ⟨"old", .ofSeconds 3600⟩⟩ {}⟩

def studio : Broker where
  config :=
    { instances := [("local", pictures)]
      assignment? := fun _ _ => some "local"
      limit := fun _ _ => 1 }
  connectors := [("local", painter)]

def picture : Request := ⟨caller, .imageGeneration, "A cat", 1, []⟩

/-- What the provider is sent for the picture. -/
def drawing : Http.Payload :=
  .postJson pictures.endpoint (Json.ofMembers
    [("instances", .array [.object [("prompt", .string "A cat")]]),
      ("parameters", Json.ofMembers
        [("sampleCount", Json.ofInt 1), ("safetySetting", .string "block_few"),
          ("language", .string "en"), ("aspectRatio", .string "1:1")])])

end Sample

/-- The old token is turned away, and so is the new one. -/
theorem resubmits_once_for_picture :
    ∃ w b' w', TokenRejected Sample.picture Sample.studio w b' w' ∧
      Sample.picture.make Sample.studio w =
        .ok ((.failure 500 stillRejected.userMessage stillRejected.message .transportError, b'),
          w') ∧ b'.ledger = Sample.studio.ledger := by
  let w : World :=
    .answering [Token.Sample.expired, Token.Sample.granting 3600, Token.Sample.expired]
  let o := Purpose.withFileTarget "image" "png" (w.names w.drawn) []
  let flag := Sample.studio.flags.status VectorStore.flagKey
  have admitted : Admitted Sample.picture Sample.studio w ⟨"local", Sample.painter⟩ o "A cat"
      Sample.studio w.drawName :=
    ⟨by with_unfolding_all rfl, by with_unfolding_all rfl, rfl⟩
  have plan : Sample.painter.plan flag "A cat" o w.drawName =
      .ok ((.ok (.ready Sample.drawing), Sample.painter, flag), w.drawName) := by
    with_unfolding_all rfl
  have signed : Sample.painter.headers w.drawName =
      .ok ((.ok (Http.Headers.json.authorize "old"), Sample.painter), w.drawName.readClock) := by
    refine Run.bind_eq_ok.2
      ⟨_, _, Token.Source.access_of_fresh rfl (by decide +kernel), ?_⟩
    show Except.ok ((Token.bearer "old" Http.Headers.json, Sample.painter), _) = _
    rw [Token.bearer_eq_ok (by simp [Http.Headers.isValue, Http.Headers.allows])]
  obtain ⟨d, tokens, w', rejected⟩ : ∃ d tokens w', Token.RejectedTwice
      ⟨Token.Sample.account, some ⟨"old", .ofSeconds 3600⟩⟩ {} Sample.drawing
      (Http.Headers.json.authorize "old") w.drawName.readClock "new" d tokens w' :=
    Token.exists_rejectedTwice (by simp [Http.Headers.isValue, Http.Headers.allows])
      (by decide +kernel)
  have h := TokenRejected.mk admitted (.ready plan) signed rfl rejected
  obtain ⟨-, -, -, reported⟩ := resubmits_once ⟨Token.Sample.account, none⟩ {} Sample.drawing [] w
  exact ⟨w, _, w', h, reported _ _ _ _ _ h⟩

end PromptBroker.Broker
