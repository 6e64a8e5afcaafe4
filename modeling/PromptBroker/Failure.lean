/-!
# Why a request fails

Every failure of the broker is one of eleven causes. A cause determines all that
is said about it: the full message for administrators, the message that is safe
to show to end users, a numeric code in the manner of HTTP, a kind for programs
that branch on it, and whether trying again later makes sense.
-/

namespace PromptBroker

/-- The causes of failure. -/
inductive Failure where
  /-- Nothing is assigned to the purpose for this role. -/
  | notConfigured (purpose role : String)
  /-- The assigned instance is switched off. -/
  | instanceDisabled (instance_ : String)
  /-- The caller's tenant may not use the broker. -/
  | tenantDisabled (tenant : String)
  /-- An option of the caller is not accepted. -/
  | invalidParameter (parameter message : String)
  /-- An upload exceeds the provider's limit; both sizes are in bytes. -/
  | payloadTooLarge (limit actual : Nat)
  /-- The caller has used up the requests allowed. -/
  | quotaExceeded (purpose : String) (limit : Nat)
  /-- The provider could not be reached. -/
  | transportError (message : String)
  /-- The provider answered with an error status. -/
  | providerError (status : UInt16) (message : String)
  /-- The answer of the provider could not be decoded. -/
  | malformedResponse (message : String)
  /-- A backend could not be set up and stays unusable until an operator steps in. -/
  | initializationFailed (connector reason : String)
  /-- The configuration is unusable. -/
  | configurationError (message : String)
  deriving DecidableEq, Repr

namespace Failure

/-- Who has to act. -/
inductive Category where
  | external
  | internal
  | client
  | transient
  deriving DecidableEq, Repr

/-- How loud a failure is logged. -/
inductive Severity where
  | critical
  | error
  | warning
  | info
  deriving DecidableEq, Repr

/-- What kind of failure a response reports. -/
inductive Kind where
  | notConfigured
  | disabled
  | invalidParameter
  | quotaExceeded
  | transportError
  | providerError
  | malformedResponse
  | internal
  deriving DecidableEq, Repr

/-- The kinds in the order of declaration. -/
def Kind.all : List Kind :=
  [.notConfigured, .disabled, .invalidParameter, .quotaExceeded, .transportError, .providerError,
    .malformedResponse, .internal]

/-- The name of a kind in responses. -/
def Kind.name : Kind → String
  | .notConfigured => "not_configured"
  | .disabled => "disabled"
  | .invalidParameter => "invalid_parameter"
  | .quotaExceeded => "quota_exceeded"
  | .transportError => "transport_error"
  | .providerError => "provider_error"
  | .malformedResponse => "malformed_response"
  | .internal => "internal"

/-- The kind of a name. -/
def Kind.ofName? (name : String) : Option Kind :=
  Kind.all.find? fun k => k.name == name

/-- The name of a category. -/
def Category.name : Category → String
  | .external => "External"
  | .internal => "Internal"
  | .client => "Client"
  | .transient => "Transient"

/-- The name of a severity. -/
def Severity.name : Severity → String
  | .critical => "Critical"
  | .error => "Error"
  | .warning => "Warning"
  | .info => "Info"

/-- The full message. -/
def message : Failure → String
  | .notConfigured purpose role => s!"Purpose '{purpose}' is not configured for role '{role}'"
  | .instanceDisabled name => s!"Instance '{name}' is disabled"
  | .tenantDisabled tenant => s!"AI usage is disabled for tenant '{tenant}'"
  | .invalidParameter parameter message => s!"Invalid parameter '{parameter}': {message}"
  | .payloadTooLarge limit actual => s!"Payload too large: {actual} bytes > {limit} bytes"
  | .quotaExceeded purpose limit => s!"Request limit of {limit} reached for purpose '{purpose}'"
  | .transportError message => s!"Transport error: {message}"
  | .providerError status message => s!"Provider returned status {status.toNat}: {message}"
  | .malformedResponse message => s!"Malformed provider response: {message}"
  | .initializationFailed connector reason =>
    s!"Backend '{connector}' failed to initialise: {reason}"
  | .configurationError message => s!"Configuration error: {message}"

/-- Who has to act. -/
def category : Failure → Category
  | .notConfigured .. | .instanceDisabled .. | .tenantDisabled .. | .invalidParameter ..
  | .payloadTooLarge .. | .quotaExceeded .. => .client
  | .transportError .. => .transient
  | .providerError .. | .malformedResponse .. => .external
  | .initializationFailed .. | .configurationError .. => .internal

/-- How loud the failure is logged. -/
def severity : Failure → Severity
  | .notConfigured .. | .instanceDisabled .. | .tenantDisabled .. | .invalidParameter ..
  | .payloadTooLarge .. | .quotaExceeded .. => .info
  | .transportError .. | .malformedResponse .. => .warning
  | .providerError .. | .configurationError .. => .error
  | .initializationFailed .. => .critical

/-- The kind that responses carry. -/
def kind : Failure → Kind
  | .notConfigured .. => .notConfigured
  | .instanceDisabled .. | .tenantDisabled .. => .disabled
  | .invalidParameter .. | .payloadTooLarge .. => .invalidParameter
  | .quotaExceeded .. => .quotaExceeded
  | .transportError .. => .transportError
  | .providerError .. => .providerError
  | .malformedResponse .. => .malformedResponse
  | .initializationFailed .. | .configurationError .. => .internal

/-- The numeric code that responses carry. -/
def code : Failure → UInt16
  | .notConfigured .. => 404
  | .instanceDisabled .. | .tenantDisabled .. => 403
  | .invalidParameter .. => 400
  | .payloadTooLarge .. => 413
  | .quotaExceeded .. => 429
  | .transportError .. => 500
  | .providerError status _ => status
  | .malformedResponse .. => 502
  | .initializationFailed .. | .configurationError .. => 500

/-- Whether the same request could succeed later. -/
def isRetryable : Failure → Bool
  | .transportError .. => true
  | .providerError status _ => status == 429 || 500 ≤ status
  | _ => false

/-- The message for end users, without internals of the installation or the provider. -/
def userMessage : Failure → String
  | .notConfigured .. => "This AI function has not been configured yet"
  | .instanceDisabled .. =>
    "The AI tool configured for this function is currently unavailable"
  | .tenantDisabled .. => "AI functions are disabled for your organisation"
  | .invalidParameter parameter message => s!"Invalid value for '{parameter}': {message}"
  | .payloadTooLarge limit _ =>
    s!"The uploaded file is too large. The maximum size is {limit} bytes"
  | .quotaExceeded .. =>
    "You have reached the maximum number of requests for this AI function"
  | .transportError .. => "Sending the request to the AI tool failed"
  | .providerError .. => "The AI tool could not process the request"
  | .malformedResponse .. => "The AI tool returned a response that could not be processed"
  | .initializationFailed .. | .configurationError .. =>
    "The AI tool is not set up correctly. Please contact your administrator"

end Failure

/-- A result, or why there is none. -/
abbrev Outcome (α : Type) := Except Failure α

end PromptBroker
