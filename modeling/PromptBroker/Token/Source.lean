import PromptBroker.Http.Charset
import PromptBroker.Instance
import PromptBroker.Token.Account

/-!
# Access tokens

A source hands out access tokens of one account. It keeps the latest one and
gives it out again until shortly before it expires. A refresh exchanges a fresh
assertion for a new token; one that fails leaves the kept token alone.
-/

namespace PromptBroker.Token

/-- A token with the moment at which it expires. -/
structure AccessToken where
  text : String
  expiresAt : Moment
  deriving DecidableEq, Repr

/-- How long before its end a token counts as expired, in seconds. -/
def marginSeconds : Int := 30

/-- Whether a token counts as expired. There is no answer near the end of all dates. -/
def AccessToken.isExpired? (t : AccessToken) (now : Moment) : Option Bool :=
  (now.after? marginSeconds).map fun soon => t.expiresAt.nanoseconds ≤ soon.nanoseconds

/-- An account with the token that was obtained last. -/
structure Source where
  account : Account
  kept : Option AccessToken := none
  deriving DecidableEq

/-- What the token endpoint grants. -/
structure Grant where
  token : String
  /-- How long the token is valid, in seconds. -/
  lifetime : Int
  deriving DecidableEq, Repr

namespace Grant

/-- How long a token is valid if the endpoint does not say. -/
def defaultLifetime : Int := 3600

/-- Reads the answer of the token endpoint. -/
def read? (body : ByteArray) : Option Grant := do
  match ← (← (Json.readByteFields ["access_token", "expires_in"] body).toOption) with
  | [some token, lifetime] =>
    some ⟨← token.asString?, ← (lifetime.map Json.asInt64?).getD (some defaultLifetime)⟩
  | _ => none

/-- When a token granted at a moment expires. A negative lifetime counts as none. -/
def expiry? (g : Grant) (now : Moment) : Option Moment :=
  now.after? (max g.lifetime 0)

end Grant

namespace Source

/-- The form that is posted to the token endpoint. -/
def form (assertion : String) : List (String × String) :=
  [("grant_type", "urn:ietf:params:oauth:grant-type:jwt-bearer"), ("assertion", assertion)]

/-- What the answer of the token endpoint amounts to. -/
def granted (charsets : Text.Charsets) (answer : Except Http.CallError Http.Answer) :
    Outcome Grant :=
  match answer with
  | .error e => .error (.transportError s!"Access token request failed: {e.message}")
  | .ok a =>
    if Http.Status.isSuccess a.status then
      match a.body.bind Grant.read? with
      | some g => .ok g
      | none =>
        .error (.transportError
          s!"Token endpoint answer could not be parsed: {Http.bodyFault}")
    else
      let text := (a.text? charsets).getD ""
      .error (.transportError s!"Token endpoint returned {Http.Status.text a.status}: {text}")

/-- Obtains a new token and keeps it. -/
def refresh (s : Source) : Run (Outcome String × Source) := do
  match s.account.assertion (← Run.now) with
  | .error e => return (.error e, s)
  | .ok assertion =>
    let answer ← Run.call .post s.account.service.exchangeUrl [] (.form (form assertion))
    match granted (← Run.charsets) answer with
    | .error e => return (.error e, s)
    | .ok g =>
      let expiresAt ← Run.date (g.expiry? (← Run.now))
      return (.ok g.token, { s with kept := some ⟨g.token, expiresAt⟩ })

/-- The kept token, or a new one if there is none or it has expired. -/
def access (s : Source) : Run (Outcome String × Source) := do
  match s.kept with
  | none => s.refresh
  | some t =>
    if ← Run.date (t.isExpired? (← Run.now)) then s.refresh
    else return (.ok t.text, s)

end Source

/-! ### Submitting with a token -/

/-- Puts a token into headers, in place of the one that was there. -/
def bearer (token : String) (headers : Http.Headers) : Outcome Http.Headers :=
  if Http.Headers.isValue token then .ok (headers.authorize token)
  else .error (.configurationError s!"Invalid access token format: {Http.Headers.valueFault}")

/-- Whether a delivery failed because the token has expired. -/
def isExpiry (detector : ExpiryDetector) (d : Delivery) : Bool :=
  match d with
  | .failure code _ _ body => detector.recognizes code body
  | .success .. => false

/-- A failure on this side. -/
def unsubmitted (f : Failure) (body : Option String) : Delivery :=
  .failure 0 f.userMessage f.message body

/-- What is reported when a new token is taken for expired as well. -/
def stillRejected : Failure :=
  .transportError "Access token still rejected after refresh"

/-- Submits a payload; if the token turns out to have expired, obtains a new one and submits once
more. -/
def submitWithRefresh (s : Source) (detector : ExpiryDetector) (p : Http.Payload)
    (headers : Http.Headers) : Run (Delivery × Source) := do
  let first ← Http.submit p headers
  if !isExpiry detector first then return (first, s)
  let (token, s) ← s.refresh
  match token.bind (bearer · headers) with
  | .error e => return (unsubmitted e none, s)
  | .ok headers =>
    let second ← Http.submit p headers
    if isExpiry detector second then return (unsubmitted stillRejected second.errorBody?, s)
    return (second, s)

end PromptBroker.Token
