/-!
# What a call consumed

Usage is counted in tokens, where the provider reports them, or as one unit a
call. A record never holds a negative number or NaN, and its total covers both
parts: `Usage.of` sees to that for any three floats.
-/

namespace PromptBroker

/-- How a connector accounts for a call. -/
inductive UsageUnit where
  /-- Prompt and completion tokens as reported. -/
  | token
  /-- One unit a call. -/
  | count
  deriving DecidableEq, Repr

/-- The name of a unit. -/
def UsageUnit.name : UsageUnit → String
  | .token => "token"
  | .count => "count"

/-- Quantities consumed by one successful call. -/
structure Usage where
  total : Float
  prompt : Float
  completion : Float
  deriving DecidableEq

namespace Usage

/-- The larger of two floats; NaN counts as absent. -/
def larger (x y : Float) : Float :=
  if x.isNaN || x < y then y else x

/-- A record with negative numbers raised to zero and the total raised to cover both parts. -/
def of (total prompt completion : Float) : Usage :=
  let prompt := larger prompt 0
  let completion := larger completion 0
  ⟨larger (larger total prompt) completion, prompt, completion⟩

/-- Token usage: the total is the sum of the parts. -/
def tokens (prompt completion : Float) : Usage :=
  let prompt := larger prompt 0
  let completion := larger completion 0
  of (prompt + completion) prompt completion

/-- One call. -/
def single : Usage := of 1 0 0

theorem single_eq : single = ⟨1, 0, 0⟩ := by decide +kernel

end Usage

end PromptBroker
