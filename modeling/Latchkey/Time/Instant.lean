import Latchkey.Time.Calendar

set_option autoImplicit false

/-! # Instants and spans

An instant is a Unix time: whole seconds, rounded down, and the nanoseconds above them. Only
instants from the year -262143 to the year 262142 can be represented; arithmetic that would leave
this range has no result. A span is a signed number of seconds and nanoseconds with a range of its
own. -/

namespace Latchkey

/-! ## Spans -/

/-- A length of time: whole seconds, rounded down, and the nanoseconds above them. -/
structure Span where
  seconds : Int
  nanos : Nat := 0
deriving DecidableEq, Repr

namespace Span

/-- The most whole seconds that a span may have, in either direction. -/
def maxSeconds : Int := 9223372036854775

/-- Seconds in a day. -/
def secondsPerDay : Nat := 86400

/-- A span of whole seconds, if it is in range. -/
def ofSeconds? (seconds : Int) : Option Span :=
  if -maxSeconds ≤ seconds ∧ seconds ≤ maxSeconds then some ⟨seconds, 0⟩ else none

/-- A span of whole days, if it is in range. -/
def ofDays? (days : Int) : Option Span :=
  ofSeconds? (secondsPerDay * days)

end Span

/-! ## Instants -/

/-- A point in time. -/
structure Instant where
  seconds : Int
  nanos : Nat := 0
deriving DecidableEq, Repr

namespace Instant

/-- Nanoseconds in a second. -/
def nanosPerSecond : Nat := 1000000000

/-- The earliest instant. -/
def earliest : Instant := ⟨-8334601228800, 0⟩

/-- The latest instant. -/
def latest : Instant := ⟨8210266876799, 999999999⟩

/-- The order of instants in time. -/
def before (a b : Instant) : Prop :=
  a.seconds < b.seconds ∨ (a.seconds = b.seconds ∧ a.nanos < b.nanos)

instance : LT Instant := ⟨before⟩

instance (a b : Instant) : Decidable (a < b) :=
  inferInstanceAs (Decidable (_ ∨ _))

instance : LE Instant := ⟨fun a b => ¬ b < a⟩

instance (a b : Instant) : Decidable (a ≤ b) :=
  inferInstanceAs (Decidable (¬ _))

theorem lt_def {a b : Instant} :
    a < b ↔ a.seconds < b.seconds ∨ (a.seconds = b.seconds ∧ a.nanos < b.nanos) :=
  Iff.rfl

theorem le_def {a b : Instant} : a ≤ b ↔ ¬ b < a :=
  Iff.rfl

/-- Whether the whole second lies in the range of representable instants. -/
def inRange (seconds : Int) : Bool :=
  earliest.seconds ≤ seconds && seconds ≤ latest.seconds

/-- The instant a span later, if it is representable. -/
def add? (i : Instant) (s : Span) : Option Instant :=
  let nanos := i.nanos + s.nanos
  let seconds := i.seconds + s.seconds + (nanos / nanosPerSecond : Nat)
  if inRange seconds then some ⟨seconds, nanos % nanosPerSecond⟩ else none

/-- The instant a span earlier, if it is representable. -/
def sub? (i : Instant) (s : Span) : Option Instant :=
  let nanos := i.nanos + nanosPerSecond - s.nanos
  let seconds := i.seconds - s.seconds - 1 + (nanos / nanosPerSecond : Nat)
  if inRange seconds then some ⟨seconds, nanos % nanosPerSecond⟩ else none

/-- The instant a span later, or the latest one if that is not representable. -/
def addSaturating (i : Instant) (s : Span) : Instant :=
  (i.add? s).getD latest

/-- The whole seconds from `i` to `j`, rounded toward zero. -/
def secondsUntil (i j : Instant) : Int :=
  let difference : Int := (j.seconds - i.seconds) * nanosPerSecond + j.nanos - i.nanos
  difference.tdiv nanosPerSecond

/-- The date of an instant. -/
def date (i : Instant) : Date :=
  ⟨i.seconds / Span.secondsPerDay⟩

/-- Seconds since midnight. -/
def secondOfDay (i : Instant) : Nat :=
  (i.seconds % Span.secondsPerDay).toNat

/-- The instant cut to whole microseconds. -/
def toMicros (i : Instant) : Instant :=
  ⟨i.seconds, i.nanos / 1000 * 1000⟩

end Instant

/-! ## Times of day -/

/-- An hour, minute and second of a day. -/
structure TimeOfDay where
  hour : Nat
  minute : Nat
  second : Nat
  hour_lt : hour < 24
  minute_lt : minute < 60
  second_lt : second < 60
deriving DecidableEq

namespace TimeOfDay

/-- The time of day, if there is one. -/
def ofParts? (hour minute second : Nat) : Option TimeOfDay :=
  if h : hour < 24 ∧ minute < 60 ∧ second < 60 then
    some ⟨hour, minute, second, h.1, h.2.1, h.2.2⟩
  else none

/-- Seconds since midnight. -/
def seconds (t : TimeOfDay) : Nat :=
  3600 * t.hour + 60 * t.minute + t.second

theorem seconds_lt (t : TimeOfDay) : t.seconds < Span.secondsPerDay := by
  have := t.hour_lt
  have := t.minute_lt
  have := t.second_lt
  simp only [seconds, Span.secondsPerDay]
  omega

end TimeOfDay

end Latchkey
