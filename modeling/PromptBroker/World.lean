import PromptBroker.Clock
import PromptBroker.Http.Peer
import PromptBroker.Text.Encoding
import PromptBroker.Uuid

/-!
# What lies outside the broker

A run of the broker reads three things that it does not hold itself: the network,
the clock and a source of fresh names. They are gathered in a `World`, and an
action that uses them is a `Run`. The clock and the source of names may be any
functions of how often they have been asked; nothing is assumed about them, nor
about the encodings of text that are known besides those of Unicode.

A run can break down in one way: by reckoning a date that does not exist.
-/

namespace PromptBroker

/-- Everything outside that a run depends on. -/
structure World where
  peer : Http.Peer
  /-- The reading of the clock at each time it is asked. -/
  clock : Nat → Moment
  /-- How often the clock has been asked. -/
  readings : Nat := 0
  /-- The name given each time one is drawn. -/
  names : Nat → Uuid
  /-- How many names have been drawn. -/
  drawn : Nat := 0
  /-- The encodings that an answer may be in, besides those of Unicode. -/
  charsets : Text.Charsets := fun _ => none

/-- Why a run breaks down. -/
inductive Breakdown where
  /-- A date that does not exist. -/
  | dateOutOfRange
  deriving DecidableEq, Repr

/-- An action in the world. -/
abbrev Run (α : Type) := StateT World (Except Breakdown) α

namespace Run

/-- Makes a call over the network. -/
def call (method : Http.Method) (url : String) (headers : Http.Headers) (body : Http.Body) :
    Run (Except Http.CallError Http.Answer) := fun w =>
  let (answer, peer) := Http.call method url headers body w.peer
  .ok (answer, { w with peer := peer })

/-- Reads the clock. -/
def now : Run Moment := fun w =>
  .ok (w.clock w.readings, { w with readings := w.readings + 1 })

/-- Draws a fresh name. -/
def freshName : Run Uuid := fun w =>
  .ok (w.names w.drawn, { w with drawn := w.drawn + 1 })

/-- The encodings of text that are known. -/
def charsets : Run Text.Charsets := fun w => .ok (w.charsets, w)

/-- The date, or a breakdown if there is none. -/
def date {α : Type} (value : Option α) : Run α := fun w =>
  match value with
  | some a => .ok (a, w)
  | none => .error .dateOutOfRange

end Run

end PromptBroker
