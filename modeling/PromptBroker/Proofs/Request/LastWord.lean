import PromptBroker.Proofs.Ending
import PromptBroker.Proofs.Token.Resubmission

/-!
# The last word

A request that has its payload and its headers is submitted, and what is heard of the
submission is the last word of the provider, unless it is a sign that the token has
expired. Then the request is submitted once more with a new token, and what is heard of
that is the last word, whatever it is (`LastWord`).

From there on the network is left alone. What is left to do is to decode, to store and to
format, and the request returns with the world as it was when the last word was heard
(`LastWord.exists_make`). What decides here is what the peer says (`Http.Hears`), not what
the connector makes of it.
-/

namespace PromptBroker

/-- Whether a connector takes a delivery for the sign that its token has expired. -/
def Connector.turnsAway (c : Connector) (d : Delivery) : Bool :=
  match c.binding with
  | .imagen _ detector => Token.isExpiry detector d
  | _ => false

/-- A connector without a token submits once. -/
theorem Connector.send_of_submitted {c : Connector} {p : Http.Payload} {h : Http.Headers}
    {d : Delivery} {w w' : World} (submitted : Http.submit p h w = .ok (d, w'))
    (stands : c.turnsAway d = false) : c.send p h w = .ok ((d, c), w') := by
  unfold turnsAway at stands
  unfold send
  cases binding : c.binding with
  | imagen tokens detector =>
    rw [binding] at stands
    dsimp only
    rw [Run.bind_of_ok (Token.Exchange.answered submitted stands).run_eq, ← binding]
    rfl
  | _ => exact Run.bind_of_ok submitted

/-- A new token, and the submission that comes after it. -/
theorem Connector.exists_send_of_renews {c : Connector} {p : Http.Payload} {h : Http.Headers}
    {d : Delivery} {w w₁ w' : World} {tokens tokens' : Token.Source} {detector : ExpiryDetector}
    {token : String} (binding : c.binding = .imagen tokens detector)
    (renews : Token.Renews tokens detector p h w (.ok token) tokens' w₁)
    (fit : Http.Headers.isValue token = true)
    (submitted : Http.submit p (h.authorize token) w₁ = .ok (d, w')) :
    ∃ d', c.send p h w = .ok ((d', { c with binding := .imagen tokens' detector }), w') ∧
      (d.isSuccess = true → d' = d) := by
  unfold send
  rw [binding]
  dsimp only
  cases expired : Token.isExpiry detector d with
  | false =>
    rw [Run.bind_of_ok (Token.Exchange.resubmitted renews fit submitted expired).run_eq]
    exact ⟨d, rfl, fun _ => rfl⟩
  | true =>
    rw [Run.bind_of_ok
      (Token.Exchange.rejected ⟨w₁, renews, fit, submitted, expired⟩).run_eq]
    refine ⟨_, rfl, fun success => ?_⟩
    cases d with
    | success => cases expired
    | failure => cases success

namespace Broker

/-! ### Ready to be submitted -/

/-- A request with its payload and its headers, with the connector that is going to submit it, and
with broker and world as they are by then. -/
inductive Poised (q : Request) (b : Broker) (w : World) (o : Options) (p : Http.Payload)
    (h : Http.Headers) (c : Connector) : Option Response → Broker → World → Prop
  | intro {route text b₁ w₁ nested c₀ b₂ w₂ w₃} (admitted : Admitted q b w route o text b₁ w₁)
      (prepares : Prepares Embeds q.caller route text o b₁ w₁ nested (.ok p) c₀ b₂ w₂)
      (signed : c₀.headers w₂ = .ok ((.ok h, c), w₃)) :
      Poised q b w o p h c nested (b₂.keep route.name c) w₃

variable {q : Request} {b b₁ b' : Broker} {w w₁ w' : World} {o : Options} {p : Http.Payload}
  {h : Http.Headers} {c c' : Connector} {nested : Option Response} {d : Delivery}

/-- What is decoded of an answer is what the request returns. -/
theorem Poised.make_of_success (poised : Poised q b w o p h c nested b₁ w₁) {status : UInt16}
    {body : ByteArray} {r : Response} {files : Files}
    (sent : c.send p h w₁ = .ok ((.success status body, c'), w'))
    (responded : c'.respond body o q.caller.user q.context b₁.files = (r, files)) :
    ∃ b', q.make b w = .ok ((r.mapContent (q.purpose.formatOutput o), b'), w') ∧
      b'.files = files := by
  cases poised with
  | intro admitted prepares signed =>
    have course := Course.answered admitted prepares (.sent signed sent) responded
    exact ⟨_, make_eq_ok_iff.2 ⟨_, course⟩, rfl⟩

/-- Once it has been submitted, a request returns without another call. -/
theorem Poised.exists_make (poised : Poised q b w o p h c nested b₁ w₁)
    (sent : c.send p h w₁ = .ok ((d, c'), w')) :
    ∃ r b', q.make b w = .ok ((r, b'), w') := by
  cases d with
  | success status body =>
    obtain ⟨b', made, -⟩ := poised.make_of_success sent rfl
    exact ⟨_, b', made⟩
  | failure code message details body =>
    cases poised with
    | intro admitted prepares signed =>
      have course := Course.undelivered admitted prepares (.sent signed sent)
      exact ⟨_, _, make_eq_ok_iff.2 ⟨_, course⟩⟩

/-! ### What is heard last -/

/-- The last word of the provider on a request, and the world by then. -/
inductive LastWord (q : Request) (b : Broker) (w : World) (o : Options) (c : Connector) :
    Option Http.Heard → World → Prop
  /-- What is heard of the submission is no sign of an expired token. -/
  | first {p h nested b₁ w₁ heard d w'} (poised : Poised q b w o p h c nested b₁ w₁)
      (hears : Http.Hears p h w₁ heard) (submitted : Http.submit p h w₁ = .ok (d, w'))
      (stands : c.turnsAway d = false) : LastWord q b w o c heard w'
  /-- The token has expired, and there is a new one to submit the request with. -/
  | second {p h nested b₁ w₁ tokens detector token tokens' w₂ heard d w'}
      (poised : Poised q b w o p h c nested b₁ w₁) (binding : c.binding = .imagen tokens detector)
      (renews : Token.Renews tokens detector p h w₁ (.ok token) tokens' w₂)
      (fit : Http.Headers.isValue token = true)
      (hears : Http.Hears p (h.authorize token) w₂ heard)
      (submitted : Http.submit p (h.authorize token) w₂ = .ok (d, w')) :
      LastWord q b w o c heard w'

variable {heard : Option Http.Heard}

/-- The last word is what is delivered, if it is an answer with a success status. -/
theorem LastWord.exists_sent (word : LastWord q b w o c heard w') :
    ∃ p h nested b₁ w₁ d c', Poised q b w o p h c nested b₁ w₁ ∧
      c.send p h w₁ = .ok ((d, c'), w') ∧ Connector.Continues c c' ∧
      ∀ answer, heard = some answer → Http.Status.isSuccess answer.status = true →
        d = .success answer.status answer.body := by
  cases word with
  | first poised hears submitted stands =>
    have sent := Connector.send_of_submitted submitted stands
    refine ⟨_, _, _, _, _, _, c, poised, sent, .refl c, ?_⟩
    rintro answer rfl accepted
    exact (hears.delivers submitted).eq_success accepted
  | second poised binding renews fit hears submitted =>
    obtain ⟨d, sent, same⟩ := Connector.exists_send_of_renews binding renews fit submitted
    refine ⟨_, _, _, _, _, d, _, poised, sent, Connector.continues_of_send sent, ?_⟩
    rintro answer rfl accepted
    have delivered := (hears.delivers submitted).eq_success accepted
    rw [delivered] at same
    exact same rfl

/-- After the last word a request returns, with the world as it is by then. -/
theorem LastWord.exists_make (word : LastWord q b w o c heard w') :
    ∃ r b', q.make b w = .ok ((r, b'), w') := by
  obtain ⟨_, _, _, _, _, _, _, poised, sent, -⟩ := word.exists_sent
  exact poised.exists_make sent

/-- An answer with a success status is the last word. -/
theorem Poised.exists_lastWord (poised : Poised q b w o p h c nested b₁ w₁) {status : UInt16}
    {body : ByteArray} (answered : (Http.submit p h w₁).toOption.bind
      (fun s => Http.success? s.1) = some (status, body)) :
    ∃ w', LastWord q b w o c (some ⟨status, body⟩) w' := by
  obtain ⟨w', submitted⟩ := Http.submit_of_success? answered
  have stands : c.turnsAway (.success status body) = false := by
    unfold Connector.turnsAway
    split <;> rfl
  exact ⟨w', .first poised (Http.hears_of_submit submitted) submitted stands⟩

end Broker

end PromptBroker
