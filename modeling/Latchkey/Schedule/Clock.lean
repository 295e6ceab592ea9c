import Latchkey.Settings.Sections
import Latchkey.Time.Instant

set_option autoImplicit false

/-! # Task clocks

Tasks read the wall clock, except that those marked as tests read it shifted by a fixed offset. A
shifted clock can run out of the representable instants, and then has no reading. -/

namespace Latchkey

/-- A clock, given by its distance from the wall clock. -/
inductive Clock
  | wall
  | shifted (offset : Span)
deriving DecidableEq, Repr

namespace Clock

/-- A clock shifted by seconds, if those are a span. -/
def ofSeconds? (seconds : Int) : Option Clock :=
  (Span.ofSeconds? seconds).map .shifted

/-- What the clock reads when the wall clock reads `now`. -/
def read? (clock : Clock) (now : Instant) : Option Instant :=
  match clock with
  | .wall => some now
  | .shifted offset => now.add? offset

/-- The clock for a task of the given name. -/
def forTask? (settings : SchedulerSettings) (name : String) : Option Clock :=
  if settings.isTestTask name then ofSeconds? settings.testClockOffsetSeconds else some .wall

end Clock

end Latchkey
