import PromptBroker.Clock
import PromptBroker.Failure
import PromptBroker.Json.Printer
import PromptBroker.Json.Record
import PromptBroker.Signing.Rsa

/-!
# Service accounts

A service account signs in by an *assertion*: a signed statement of who asks for
access to what. `Account` is an account with its signing key, ready to make
assertions; `ServiceAccount` is what its key file says.
-/

namespace PromptBroker.Token

/-- The part of a key file that signing in needs. -/
structure ServiceAccount where
  email : String
  privateKey : String
  /-- Where assertions are exchanged for tokens. -/
  exchange : Option String := none
  deriving DecidableEq, Repr

/-- Where assertions are exchanged unless the key file says otherwise. -/
def defaultExchange : String := "https://oauth2.googleapis.com/token"

/-- The access asked for unless the configuration says otherwise. -/
def defaultScope : String := "https://www.googleapis.com/auth/cloud-platform"

namespace ServiceAccount

/-- Puts together the fields of a key file. -/
def ofFields? : List (Option Json) → Option ServiceAccount
  | [some email, some key, exchange] => do
    some ⟨← email.asString?, ← key.asString?,
      ← Json.nullable? Json.asString? (exchange.getD .null)⟩
  | _ => none

/-- The failure that reports a text that is no key file. -/
def unreadable (reason : String) : Failure :=
  .configurationError s!"Invalid service account JSON: {reason}"

/-- Reads a key file. -/
def read (text : String) : Outcome ServiceAccount :=
  match Json.readFields ["client_email", "private_key", "token_uri"] text with
  | .error e => .error (unreadable e.message)
  | .ok fields =>
    match fields.bind ofFields? with
    | none => .error (unreadable "unexpected fields")
    | some a =>
      if a.email == "" || a.privateKey == "" then
        .error (.configurationError "Service account JSON needs client_email and private_key")
      else .ok a

/-- Where assertions are exchanged. -/
def exchangeUrl (a : ServiceAccount) : String :=
  (a.exchange.filter (· != "")).getD defaultExchange

end ServiceAccount

/-- An account that can sign. -/
structure Account where
  service : ServiceAccount
  key : Signing.SigningKey
  scope : String
  deriving DecidableEq

/-- How long an assertion is valid, in seconds. -/
def assertionSeconds : Int := 3600

/-- What an assertion states. -/
structure Claims where
  issuer : String
  scope : String
  audience : String
  issuedAt : Int
  expiresAt : Int
  deriving DecidableEq, Repr

namespace Claims

/-- The members in the order in which they are signed. -/
def members (c : Claims) : List (String × Json) :=
  [("iss", .string c.issuer), ("scope", .string c.scope), ("aud", .string c.audience),
    ("iat", Json.ofInt c.issuedAt), ("exp", Json.ofInt c.expiresAt)]

end Claims

namespace Account

/-- Takes a service account into use. -/
def of (service : ServiceAccount) (scope : String) : Outcome Account :=
  match Signing.SigningKey.read service.privateKey with
  | .ok key => .ok ⟨service, key, scope⟩
  | .error e => .error (.configurationError s!"Invalid RSA private key (PEM): {e.message}")

/-- What an assertion made at a moment states. -/
def claims (a : Account) (now : Moment) : Claims :=
  { issuer := a.service.email
    scope := a.scope
    audience := a.service.exchangeUrl
    issuedAt := now.seconds
    expiresAt := now.seconds + assertionSeconds }

/-- The header of every assertion. -/
def headerMembers : List (String × Json) :=
  [("typ", .string "JWT"), ("alg", .string "RS256")]

/-- The text that is signed: header and claims, each as base64 of its JSON text. -/
def signedText (a : Account) (now : Moment) : String :=
  let part (members : List (String × Json)) : String :=
    Base64.encodeUrl (Json.render (.object members)).toUTF8.toList
  part headerMembers ++ "." ++ part (a.claims now).members

/-- The assertion made at a moment. -/
def assertion (a : Account) (now : Moment) : Outcome String :=
  let text := a.signedText now
  match a.key.sign text.toUTF8.toList with
  | .ok signature => .ok (text ++ "." ++ Base64.encodeUrl signature)
  | .error e =>
    .error (.configurationError
      s!"Failed to sign JWT: Signing failed: signature error: {e.message}")

end Account

end PromptBroker.Token
