import PromptBroker.Caller
import PromptBroker.Instance
import PromptBroker.Purpose.Basic

/-!
# Configuration

Which instances exist, which of them serves a purpose for a role, how many
requests a role may make, and which tenants are switched off. A purpose without a
limit may not be used at all.
-/

namespace PromptBroker

/-- What administrators have configured. -/
structure Configuration where
  /-- The instances by name. -/
  instances : Keyed Instance := []
  /-- The name of the instance that serves a purpose for a role. -/
  assignment? : Purpose → Role → Option String := fun _ _ => none
  /-- How many requests are allowed. -/
  limit : Purpose → Role → UInt64 := fun _ _ => 0
  disabledTenants : List String := []

namespace Configuration

/-- The instance of a name. -/
def instance? (c : Configuration) (name : String) : Option Instance :=
  c.instances.get? name

/-- Adds an instance, in place of one of the same name. -/
def addInstance (c : Configuration) (i : Instance) : Configuration :=
  { c with instances := c.instances.insert i.name i }

/-- Has the instance of a name serve a purpose for a role. -/
def assign (c : Configuration) (p : Purpose) (r : Role) (name : String) : Configuration :=
  { c with
    assignment? := fun p' r' => if p' = p ∧ r' = r then some name else c.assignment? p' r' }

/-- Allows a number of requests. -/
def setLimit (c : Configuration) (p : Purpose) (r : Role) (limit : UInt64) : Configuration :=
  { c with limit := fun p' r' => if p' = p ∧ r' = r then limit else c.limit p' r' }

/-- Whether a tenant may use the broker. -/
def isTenantEnabled (c : Configuration) (tenant : String) : Bool :=
  !c.disabledTenants.contains tenant

/-- Switches a tenant on or off. -/
def setTenantEnabled (c : Configuration) (tenant : String) (enabled : Bool) : Configuration :=
  let others := c.disabledTenants.filter (· != tenant)
  { c with disabledTenants := if enabled then others else others ++ [tenant] }

end Configuration

end PromptBroker
