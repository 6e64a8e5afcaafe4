import PromptBroker.Connector.Basic
import PromptBroker.Settings
import PromptBroker.Store.Configuration
import PromptBroker.Store.Files
import PromptBroker.Store.Ledger

/-!
# The broker

The broker holds the configuration, the accounts of usage, the stored files, the
setup flags, a cache of embedding vectors, and the connectors in use. This module
says which connector serves a purpose for a role. Connectors are kept by the name
of their instance, so that access tokens and the state of backends survive; one
is replaced as soon as the configuration of its instance has changed.
-/

namespace PromptBroker

/-- The state of a broker. -/
structure Broker where
  settings : Settings := {}
  config : Configuration := {}
  ledger : Ledger := {}
  files : Files := Files.empty Files.defaultBase
  flags : Flags := []
  /-- Vectors of texts that have been embedded before. -/
  vectors : Keyed (List Float32) := []
  /-- The connectors in use, by the name of their instance. -/
  connectors : Keyed Connector := []

/-- Whether two instances are configured alike. Temperatures are compared as numbers. -/
def Instance.isSameAs (a b : Instance) : Bool :=
  a.name == b.name && a.provider == b.provider && a.model == b.model && a.endpoint == b.endpoint &&
    a.apiKey == b.apiKey && a.temperature == b.temperature && a.enabled == b.enabled &&
    a.azure == b.azure && a.expiry == b.expiry && a.custom == b.custom

namespace Configuration

/-- The instance that serves a purpose for a role, under the name by which it is assigned. -/
def instanceFor (c : Configuration) (p : Purpose) (r : Role) : Outcome (String × Instance) :=
  match c.assignment? p r with
  | none => .error (.notConfigured p.name r.name)
  | some name =>
    match c.instance? name with
    | none => .error (.notConfigured p.name r.name)
    | some i =>
      if !i.enabled then .error (.instanceDisabled i.name)
      else if p = .embedding && i.provider.isVectorStore then
        .error (.configurationError
          s!"Instance '{i.name}' is a vector store and cannot serve embeddings")
      else .ok (name, i)

end Configuration

namespace Broker

/-- The connector in use for an instance, unless its configuration has changed. -/
def connector? (b : Broker) (name : String) (i : Instance) : Option Connector :=
  (b.connectors.get? name).filter fun c => c.config.isSameAs i

/-- Puts a connector into use. -/
def keep (b : Broker) (name : String) (c : Connector) : Broker :=
  { b with connectors := b.connectors.insert name c }

/-- The connector for an instance, made if need be. -/
def obtain (b : Broker) (name : String) (i : Instance) : Outcome Connector × Broker :=
  match b.connector? name i with
  | some c => (.ok c, b)
  | none =>
    match Connector.ofInstance i with
    | .ok c => (.ok c, b.keep name c)
    | .error f => (.error f, b)

/-- A connector under the name of its instance. -/
structure Route where
  name : String
  connector : Connector

/-- The connector that serves a purpose for a role. -/
def resolve (p : Purpose) (r : Role) (b : Broker) : Outcome Route × Broker :=
  match b.config.instanceFor p r with
  | .error f => (.error f, b)
  | .ok (name, i) =>
    match b.obtain name i with
    | (.error f, b) => (.error f, b)
    | (.ok c, b) =>
      if c.serves p then (.ok ⟨name, c⟩, b)
      else
        (.error (.configurationError
          s!"Connector '{c.provider.name}' does not serve purpose '{p.name}'"), b)

/-- Whether the limit of a purpose leaves room for another request of a caller. -/
def checkLimit (b : Broker) (p : Purpose) (caller : Caller) : Outcome Unit :=
  let limit := b.config.limit p caller.role
  if limit = 0 then .error (.notConfigured p.name caller.role.name)
  else if limit ≤ (b.ledger.entry caller.user p).requests then
    .error (.quotaExceeded p.name limit.toNat)
  else .ok ()

/-- The connector for a request of a caller, if the caller may make it: the tenant is switched on,
a connector serves the purpose, and the limit is not reached. -/
def gate (p : Purpose) (caller : Caller) (b : Broker) : Outcome Route × Broker :=
  if !b.config.isTenantEnabled caller.tenant then (.error (.tenantDisabled caller.tenant), b)
  else
    match b.resolve p caller.role with
    | (.error f, b) => (.error f, b)
    | (.ok route, b) => ((b.checkLimit p caller).map fun _ => route, b)

/-- Forgets all connectors. -/
def clearConnectors (b : Broker) : Broker := { b with connectors := [] }

/-- What a caller needs to know to make requests for a purpose. -/
structure Offer where
  purpose : Purpose
  availableOptions : Json
  mediaTypes : List String

/-- What the broker offers a role for a purpose. -/
def offer (p : Purpose) (r : Role) (b : Broker) : Outcome Offer × Broker :=
  let (route, b) := b.resolve p r
  (route.map fun r =>
    ⟨p, r.connector.config.availableOptions, Catalog.mediaTypes r.connector.provider⟩, b)

end Broker

end PromptBroker
