/-!
# Moments

A moment is a number of nanoseconds since the start of 1970. Dates exist only in
a certain range of about 262,000 years in either direction, and lengths of time
only up to a certain number of seconds; `Moment.after?` gives no moment beyond
either bound.
-/

namespace PromptBroker

/-- A moment. -/
structure Moment where
  nanoseconds : Int
  deriving DecidableEq, Repr

namespace Moment

/-- The moment so many seconds after the start of 1970. -/
def ofSeconds (seconds : Int) : Moment := ⟨seconds * 1000000000⟩

/-- The whole seconds since the start of 1970, rounded down. -/
def seconds (m : Moment) : Int := m.nanoseconds / 1000000000

/-- The first second of the first date. -/
def firstSecond : Int := -8334601228800

/-- The last second of the last date. -/
def lastSecond : Int := 8210266876799

/-- The longest length of time, in seconds. -/
def longestSeconds : Int := 0x7FFFFFFFFFFFFFFF / 1000

/-- Whether the moment lies within the range of dates. -/
def isDate (m : Moment) : Bool :=
  firstSecond ≤ m.seconds && m.seconds ≤ lastSecond

/-- The moment so many seconds later, if there is such a date. -/
def after? (m : Moment) (seconds : Int) : Option Moment :=
  let later : Moment := ⟨m.nanoseconds + seconds * 1000000000⟩
  if -longestSeconds ≤ seconds && seconds ≤ longestSeconds && later.isDate then some later else none

end Moment

end PromptBroker
