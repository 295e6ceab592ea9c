import Latchkey.Proofs.Time.Instant

set_option autoImplicit false

/-! # Sums and differences of instants

Spans and instants are numbers of nanoseconds within bounds, and every number within the bounds of
instants is that of exactly one (`Instant.exists_representable_iff`, `Instant.eq_of_total_eq`). So
adding a span gives the instant of the exact sum if there is one, and nothing if there is none
(`Instant.add?_eq_some_iff`). Spans reach further than instants do: the difference of two instants
always is one (`Instant.exists_until`). -/

namespace Latchkey

/-! ## Spans -/

namespace Span

variable {s : Span} {n : Int}

/-- Nanoseconds of a span. -/
def total (s : Span) : Int :=
  s.seconds * Instant.nanosPerSecond + s.nanos

/-- The nanoseconds of the longest span. Its milliseconds are the greatest signed number of 64
    bits. -/
def maxTotal : Int := 9223372036854775807 * 1000000

/-- The spans that can be represented, in either direction. -/
structure Representable (s : Span) : Prop where
  proper : s.nanos < Instant.nanosPerSecond
  least : -maxTotal ≤ s.total
  most : s.total ≤ maxTotal

theorem representable_mk_iff : Representable ⟨n, 0⟩ ↔ -maxSeconds ≤ n ∧ n ≤ maxSeconds := by
  have room : -maxTotal ≤ total ⟨n, 0⟩ ∧ total ⟨n, 0⟩ ≤ maxTotal
      ↔ -maxSeconds ≤ n ∧ n ≤ maxSeconds := by
    simp only [total, maxTotal, maxSeconds, Instant.nanosPerSecond]
    omega
  constructor
  · rintro ⟨-, least, most⟩
    exact room.1 ⟨least, most⟩
  · intro within
    obtain ⟨least, most⟩ := room.2 within
    exact ⟨Nat.zero_lt_succ _, least, most⟩

/-- Whole seconds are a span if and only if they can be represented. -/
theorem ofSeconds?_eq_some_iff : ofSeconds? n = some s ↔ s = ⟨n, 0⟩ ∧ s.Representable := by
  simp only [ofSeconds?, Option.ite_none_right_eq_some, Option.some.injEq]
  constructor
  · rintro ⟨within, rfl⟩
    exact ⟨rfl, representable_mk_iff.2 within⟩
  · rintro ⟨rfl, possible⟩
    exact ⟨representable_mk_iff.1 possible, rfl⟩

end Span

/-! ## Instants -/

namespace Instant

variable {a b : Instant} {s : Span} {n : Int}

/-- The instants that can be represented, on a clock without leap seconds. -/
structure Representable (i : Instant) : Prop where
  proper : i.nanos < nanosPerSecond
  earliest_le : earliest ≤ i
  le_latest : i ≤ latest

theorem le_iff_total_le (proper : a.nanos < nanosPerSecond) (proper' : b.nanos < nanosPerSecond) :
    a ≤ b ↔ a.total ≤ b.total := by
  simp only [le_def, lt_def, total, nanosPerSecond] at *
  omega

/-- Two instants with as many nanoseconds are the same. -/
theorem eq_of_total_eq (proper : a.nanos < nanosPerSecond) (proper' : b.nanos < nanosPerSecond)
    (same : a.total = b.total) : a = b :=
  le_antisymm ((le_iff_total_le proper proper').2 (Int.le_of_eq same))
    ((le_iff_total_le proper' proper).2 (Int.le_of_eq same.symm))

theorem representable_iff :
    a.Representable ↔ a.nanos < nanosPerSecond ∧ inRange a.seconds = true := by
  have bounds (proper : a.nanos < nanosPerSecond) :
      earliest ≤ a ∧ a ≤ latest ↔ inRange a.seconds = true := by
    simp only [inRange, Bool.and_eq_true, decide_eq_true_iff]
    simp only [le_def, lt_def, earliest, latest, nanosPerSecond] at *
    omega
  constructor
  · rintro ⟨proper, early, late⟩
    exact ⟨proper, (bounds proper).1 ⟨early, late⟩⟩
  · rintro ⟨proper, within⟩
    obtain ⟨early, late⟩ := (bounds proper).2 within
    exact ⟨proper, early, late⟩

theorem representable_earliest : earliest.Representable :=
  representable_iff.2 ⟨by decide, by decide⟩

theorem representable_latest : latest.Representable :=
  representable_iff.2 ⟨by decide, by decide⟩

theorem Representable.total_bounds (h : a.Representable) :
    earliest.total ≤ a.total ∧ a.total ≤ latest.total :=
  ⟨(le_iff_total_le representable_earliest.proper h.proper).1 h.earliest_le,
    (le_iff_total_le h.proper representable_latest.proper).1 h.le_latest⟩

/-! ## Numbers of nanoseconds -/

/-- The instant so many nanoseconds after the beginning of 1970, on a clock without bounds. -/
def ofTotal (n : Int) : Instant :=
  ⟨n / nanosPerSecond, (n % nanosPerSecond).toNat⟩

theorem total_ofTotal (n : Int) : (ofTotal n).total = n := by
  simp only [total, ofTotal, nanosPerSecond]
  omega

theorem proper_ofTotal (n : Int) : (ofTotal n).nanos < nanosPerSecond := by
  simp only [ofTotal, nanosPerSecond]
  omega

/-- The numbers within the bounds are those of instants. -/
theorem exists_representable_iff :
    (∃ i : Instant, i.Representable ∧ i.total = n) ↔ earliest.total ≤ n ∧ n ≤ latest.total := by
  constructor
  · rintro ⟨i, possible, rfl⟩
    exact possible.total_bounds
  · rintro ⟨early, late⟩
    refine ⟨ofTotal n, ⟨proper_ofTotal n, ?_, ?_⟩, total_ofTotal n⟩
    · rwa [le_iff_total_le representable_earliest.proper (proper_ofTotal n), total_ofTotal]
    · rwa [le_iff_total_le (proper_ofTotal n) representable_latest.proper, total_ofTotal]

/-! ## Sums -/

/-- A span can be added if and only if the exact sum is an instant. -/
theorem add?_eq_some_iff : a.add? s = some b ↔ b.Representable ∧ b.total = a.total + s.total := by
  constructor
  · intro added
    obtain ⟨precise, proper⟩ := total_of_add? added
    refine ⟨representable_iff.2 ⟨proper, inRange_of_add? added⟩, ?_⟩
    rw [precise, Span.total]
    omega
  · rintro ⟨inside, precise⟩
    obtain ⟨proper, within⟩ := representable_iff.1 inside
    -- Seconds and nanoseconds are quotient and remainder of the number.
    have seconds : a.seconds + s.seconds + ((a.nanos + s.nanos) / nanosPerSecond : Nat)
        = b.seconds := by
      simp only [total, Span.total, nanosPerSecond] at *
      omega
    have nanos : (a.nanos + s.nanos) % nanosPerSecond = b.nanos := by
      simp only [total, Span.total, nanosPerSecond] at *
      omega
    rw [add?, seconds, nanos, if_pos within]

theorem exists_add?_iff : (∃ b, a.add? s = some b)
    ↔ earliest.total ≤ a.total + s.total ∧ a.total + s.total ≤ latest.total := by
  simp only [add?_eq_some_iff, exists_representable_iff]

/-- Forwards, only the latest instant is in the way. -/
theorem add?_eq_none_iff (possible : a.Representable) (forward : 0 ≤ s.total) :
    a.add? s = none ↔ latest.total < a.total + s.total := by
  have early := possible.total_bounds.1
  rw [Option.eq_none_iff_forall_ne_some, ← not_exists, exists_add?_iff]
  omega

/-- A saturating sum is the exact one or the latest instant, whichever comes first. -/
theorem addSaturating_total (possible : a.Representable) (forward : 0 ≤ s.total) :
    (a.addSaturating s).Representable
      ∧ (a.addSaturating s).total = min (a.total + s.total) latest.total := by
  cases added : a.add? s with
  | none =>
    rw [addSaturating, added, Option.getD_none]
    refine ⟨representable_latest, (Int.min_eq_right ?_).symm⟩
    exact Int.le_of_lt ((add?_eq_none_iff possible forward).1 added)
  | some b =>
    rw [addSaturating_of_add? added]
    obtain ⟨inside, precise⟩ := add?_eq_some_iff.1 added
    refine ⟨inside, ?_⟩
    rw [← precise]
    exact (Int.min_eq_left inside.total_bounds.2).symm

/-! ## Differences -/

/-- From one instant to another it is a span. -/
theorem exists_until (possible : a.Representable) (possible' : b.Representable) :
    ∃ s : Span, s.Representable ∧ s.total = b.total - a.total := by
  have bounds := possible.total_bounds
  have bounds' := possible'.total_bounds
  have same : Span.total ⟨(ofTotal (b.total - a.total)).seconds,
      (ofTotal (b.total - a.total)).nanos⟩ = b.total - a.total := total_ofTotal _
  have far : latest.total - earliest.total ≤ Span.maxTotal := by decide
  refine ⟨_, ⟨proper_ofTotal _, ?_, ?_⟩, same⟩
  · rw [same]
    omega
  · rw [same]
    omega

theorem secondsUntil_eq (a b : Instant) :
    a.secondsUntil b = (b.total - a.total).tdiv nanosPerSecond := by
  have difference : (b.seconds - a.seconds) * nanosPerSecond + b.nanos - a.nanos
      = b.total - a.total := by
    simp only [total, Int.sub_mul]
    omega
  rw [secondsUntil, difference]

/-- Half a second is no whole one, in either direction. -/
example : secondsUntil ⟨0, 0⟩ ⟨-1, 500000000⟩ = 0 := by decide

end Instant

end Latchkey
