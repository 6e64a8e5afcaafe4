import PromptBroker.Keyed

/-!
# Setup flags

Whether the setup of a backend has failed is remembered outside the process, so
that every process stays away from a broken backend until an operator clears the
flag. A backend without a flag counts as sound.
-/

namespace PromptBroker

/-- What is remembered about the setup of a backend. -/
inductive SetupStatus where
  | ok
  /-- The setup failed with this code. -/
  | failed (code : UInt32)
  deriving DecidableEq, Repr

/-- The status of each backend that has one. -/
abbrev Flags := Keyed SetupStatus

namespace Flags

/-- The status of a backend. -/
def status (f : Flags) (backend : String) : SetupStatus :=
  (Keyed.get? backend f).getD .ok

/-- Sets the status of a backend. -/
def setStatus (f : Flags) (backend : String) (s : SetupStatus) : Flags :=
  Keyed.insert backend s f

/-- Forgets the status of a backend. -/
def clear (f : Flags) (backend : String) : Flags :=
  Keyed.erase backend f

end Flags

end PromptBroker
