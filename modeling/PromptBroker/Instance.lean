import PromptBroker.Decimal.Layout
import PromptBroker.Json.Record
import PromptBroker.Provider

/-!
# Instances

An instance is a configured, credentialed deployment of a provider. It belongs
to whoever administers the installation; the broker only reads it. `validate`
says whether it is complete for its provider and reports the first defect.
-/

namespace PromptBroker

/-- Routing through a deployment at Azure. -/
structure AzureOptions where
  enabled : Bool := false
  resource : String := ""
  deployment : String := ""
  apiVersion : String := ""
  deriving DecidableEq, Repr

/-- How a provider says that a short-lived access token has expired. -/
structure ExpiryDetector where
  status : UInt16 := 401
  /-- Text that the error body must contain; empty text fits any body, and none at all. -/
  marker : String := "UNAUTHENTICATED"
  deriving DecidableEq, Repr

/-- A configured deployment of a provider. -/
structure Instance where
  name : String
  provider : Provider
  model : String
  endpoint : String
  apiKey : Option String := none
  /-- The default temperature, never NaN or infinite when read from JSON. -/
  temperature : Option Float := none
  enabled : Bool := true
  azure : Option AzureOptions := none
  expiry : Option ExpiryDetector := none
  /-- Further fields that a single provider needs. -/
  custom : Keyed String := []
  deriving DecidableEq

/-! ### Azure -/

namespace AzureOptions

/-- The name under which a model is reported when it is deployed at Azure. -/
def modelAlias (model : String) : String := model ++ "-azure"

/-- The address of an API path at the deployment. -/
def endpoint (a : AzureOptions) (path : String) : String :=
  "https://" ++ a.resource ++ ".openai.azure.com/openai/deployments/" ++ a.deployment ++ "/" ++
    path ++ "?api-version=" ++ a.apiVersion

end AzureOptions

/-! ### Expired tokens -/

/-- Whether a text occurs in another. -/
def containsChars (needle : List Char) : List Char → Bool
  | [] => needle.isEmpty
  | c :: rest => needle.isPrefixOf (c :: rest) || containsChars needle rest

/-- Whether an error of this status and body means that the token has expired. -/
def ExpiryDetector.recognizes (d : ExpiryDetector) (status : UInt16) (body : Option String) :
    Bool :=
  status == d.status &&
    (d.marker == "" ||
      match body with
      | some body => containsChars d.marker.toList body.toList
      | none => false)

/-! ### Instances -/

namespace Instance

/-- The Azure options in force. -/
def activeAzure? (i : Instance) : Option AzureOptions :=
  i.azure.filter (·.enabled)

/-- A custom field; empty text counts as absent. -/
def customField? (key : String) (i : Instance) : Option String :=
  (Keyed.get? key i.custom).filter (· != "")

/-- The API key, if it is not empty. -/
def key? (i : Instance) : Option String :=
  i.apiKey.filter (· != "")

/-- The endpoint with a slash at its end, for relative paths. -/
def baseEndpoint (i : Instance) : String :=
  if i.endpoint.endsWith "/" then i.endpoint else i.endpoint ++ "/"

/-- Where requests go: the Azure deployment, or the endpoint itself. -/
def target (i : Instance) (azurePath : String) : String :=
  match i.activeAzure? with
  | some a => a.endpoint azurePath
  | none => i.endpoint

/-- The model reported in responses. -/
def modelName (i : Instance) : String :=
  match i.activeAzure? with
  | some _ => AzureOptions.modelAlias i.model
  | none => i.model

/-- A temperature between zero and one; NaN is not. -/
def temperatureInRange (t : Float) : Bool := 0 ≤ t && t ≤ 1

/-- What is wrong with the instance, if anything: the first defect in a fixed order. -/
def defect? (i : Instance) : Option String :=
  if Text.isAllBlank i.name then some "Instance name is required"
  else if Text.isAllBlank i.model then some s!"Instance '{i.name}' has no model"
  else
    let addressDefect :=
      match i.activeAzure? with
      | some a =>
        if a.resource == "" || a.deployment == "" || a.apiVersion == "" then
          some s!"Instance '{i.name}' enables Azure without resource, deployment and API version"
        else none
      | none =>
        if Text.isAllBlank i.endpoint then some s!"Instance '{i.name}' has no endpoint" else none
    let keyDefect :=
      if i.provider.requiresApiKey && i.key?.isNone then
        some s!"Instance '{i.name}' requires an API key for connector '{i.provider.name}'"
      else none
    let temperatureDefect :=
      match i.temperature with
      | some t =>
        if temperatureInRange t then none
        else
          let shown := Decimal.plain t
          some s!"Instance '{i.name}' default temperature {shown} is outside [0, 1]"
      | none => none
    addressDefect.or (keyDefect.or temperatureDefect)

/-- Checks that the instance is complete for its provider. -/
def validate (i : Instance) : Outcome Unit :=
  match i.defect? with
  | some d => .error (.configurationError d)
  | none => .ok ()

end Instance

/-! ### JSON form -/

/-- Reads Azure options. -/
def AzureOptions.ofJson? (v : Json) : Option AzureOptions := do
  match ← Json.recordFields? ["enabled", "resource", "deployment", "api_version"] v with
  | [some e, some r, some d, some a] =>
    some ⟨← e.asBool?, ← r.asString?, ← d.asString?, ← a.asString?⟩
  | _ => none

/-- Writes Azure options. -/
def AzureOptions.toJson (a : AzureOptions) : Json :=
  Json.ofMembers [("enabled", .bool a.enabled), ("resource", .string a.resource),
    ("deployment", .string a.deployment), ("api_version", .string a.apiVersion)]

/-- Reads an expiry detector. -/
def ExpiryDetector.ofJson? (v : Json) : Option ExpiryDetector := do
  match ← Json.recordFields? ["status", "body_marker"] v with
  | [some s, some m] => some ⟨← s.asUInt16?, ← m.asString?⟩
  | _ => none

/-- Writes an expiry detector. -/
def ExpiryDetector.toJson (d : ExpiryDetector) : Json :=
  Json.ofMembers [("status", Json.ofInt d.status.toNat), ("body_marker", .string d.marker)]

/-- Reads an instance. Only the first four fields have no default. -/
def Instance.ofJson? (v : Json) : Option Instance := do
  let names := ["name", "connector", "model", "endpoint", "api_key", "temperature", "enabled",
    "azure", "expiry", "custom"]
  match ← Json.recordFields? names v with
  | [some name, some provider, some model, some endpoint, key, temperature, enabled, azure, expiry,
      custom] =>
    some
      { name := ← name.asString?
        provider := ← Provider.ofName? (← provider.asName?)
        model := ← model.asString?
        endpoint := ← endpoint.asString?
        apiKey := ← Json.nullable? Json.asString? (key.getD .null)
        temperature := ← Json.nullable? Json.asFloat? (temperature.getD .null)
        enabled := ← Json.asBool? (enabled.getD (.bool true))
        azure := ← Json.nullable? AzureOptions.ofJson? (azure.getD .null)
        expiry := ← Json.nullable? ExpiryDetector.ofJson? (expiry.getD .null)
        custom := ← Json.asTexts? (custom.getD (.object [])) }
  | _ => none

/-- Writes an instance with all its fields. -/
def Instance.toJson (i : Instance) : Json :=
  Json.ofMembers
    [("name", .string i.name), ("connector", .string i.provider.name), ("model", .string i.model),
      ("endpoint", .string i.endpoint), ("api_key", Json.ofOption (i.apiKey.map .string)),
      ("temperature", Json.ofOption (i.temperature.map Json.ofFloat)),
      ("enabled", .bool i.enabled),
      ("azure", Json.ofOption (i.azure.map AzureOptions.toJson)),
      ("expiry", Json.ofOption (i.expiry.map ExpiryDetector.toJson)),
      ("custom", .object (Keyed.mapValues .string i.custom))]

end PromptBroker
