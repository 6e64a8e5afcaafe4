import PromptBroker.Decimal.Literal
import PromptBroker.Keyed
import PromptBroker.Text.Blank

/-!
# Settings of a process

What holds for all connectors of a process, read from environment variables.
A variable that is missing or makes no sense leaves its default in place.
-/

namespace PromptBroker

/-- The settings of a process. -/
structure Settings where
  /-- How long a call may take, in seconds. -/
  timeoutSeconds : Nat := 60
  /-- Whether certificates are checked. -/
  verifiesCertificates : Bool := true
  /-- Whether embeddings are looked up in the cache first. -/
  usesEmbeddingCache : Bool := false
  deriving DecidableEq, Repr

namespace Settings

/-- A positive number of seconds that fits an unsigned 64-bit word. -/
def readSeconds? (text : String) : Option Nat :=
  (Decimal.readUInt64? (Text.trim text).toList).filter (0 < ·)

/-- A switch: one of four words each for on and off, in any case. -/
def readFlag? (text : String) : Option Bool :=
  let word := Text.canonicalName text
  if word ∈ ["1", "true", "yes", "on"] then some true
  else if word ∈ ["0", "false", "no", "off"] then some false
  else none

/-- The settings that environment variables ask for. -/
def ofEnvironment (lookup : String → Option String) : Settings :=
  let default : Settings := {}
  { timeoutSeconds :=
      ((lookup "AI_MANAGER_REQUEST_TIMEOUT").bind readSeconds?).getD default.timeoutSeconds
    verifiesCertificates :=
      ((lookup "AI_MANAGER_VERIFY_SSL").bind readFlag?).getD default.verifiesCertificates
    usesEmbeddingCache :=
      ((lookup "AI_MANAGER_USE_EMBEDDING_CACHE").bind readFlag?).getD default.usesEmbeddingCache }

end Settings

end PromptBroker
