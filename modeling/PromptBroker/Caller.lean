import PromptBroker.Json.Record

/-!
# Callers

Who is asking: a user, the tenant the user belongs to, and the role the user has
there. Assignments and limits are configured for each pair of purpose and role.
-/

namespace PromptBroker

/-- The roles within a tenant. -/
inductive Role where
  | basic
  | extended
  | unlimited
  deriving DecidableEq, Repr

/-- The roles in order. -/
def Role.all : List Role := [.basic, .extended, .unlimited]

/-- The name of a role. -/
def Role.name : Role → String
  | .basic => "basic"
  | .extended => "extended"
  | .unlimited => "unlimited"

/-- The role of a name, spelled exactly. -/
def Role.ofName? (name : String) : Option Role :=
  Role.all.find? fun r => r.name == name

@[simp] theorem Role.ofName?_name (r : Role) : Role.ofName? r.name = some r := by
  cases r <;> decide

/-- Who is asking. -/
structure Caller where
  user : Int
  tenant : String
  role : Role
  deriving DecidableEq, Repr

/-- Reads a caller. -/
def Caller.ofJson? (v : Json) : Option Caller := do
  match ← Json.recordFields? ["user_id", "tenant", "role"] v with
  | [some user, some tenant, some role] =>
    some ⟨← user.asInt64?, ← tenant.asString?, ← Role.ofName? (← role.asName?)⟩
  | _ => none

end PromptBroker
