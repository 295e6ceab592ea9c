import Latchkey.Time.Instant
import Mathlib.Order.Basic

set_option autoImplicit false

/-! # The order of instants

Instants are in a linear order, of which the order of their whole seconds is a part, and adding a
span moves the whole seconds by at least its own. -/

namespace Latchkey

namespace Instant

variable {a b c : Instant} {s : Span}

theorem le_refl (a : Instant) : a ≤ a := by
  simp only [le_def, lt_def]
  omega

theorem le_total (a b : Instant) : a ≤ b ∨ b ≤ a := by
  simp only [le_def, lt_def]
  omega

theorem le_trans (h : a ≤ b) (h' : b ≤ c) : a ≤ c := by
  simp only [le_def, lt_def] at *
  omega

theorem le_antisymm (h : a ≤ b) (h' : b ≤ a) : a = b := by
  simp only [le_def, lt_def] at h h'
  obtain ⟨seconds, nanos⟩ := a
  obtain ⟨seconds', nanos'⟩ := b
  simp only [Instant.mk.injEq] at *
  omega

theorem seconds_le_of_le (le : a ≤ b) : a.seconds ≤ b.seconds :=
  Int.not_lt.1 fun lt => le (.inl lt)

/-- A later instant is a span later, plus a second if the nanoseconds carry. -/
theorem seconds_of_add? (added : a.add? s = some b) :
    ∃ carry : Nat, b.seconds = a.seconds + s.seconds + carry
      ∧ b.seconds ≤ Instant.latest.seconds := by
  simp only [Instant.add?] at added
  obtain ⟨within, same⟩ := Option.ite_none_right_eq_some.1 added
  obtain rfl := Option.some.inj same
  exact ⟨_, rfl, of_decide_eq_true (Bool.and_eq_true_iff.1 within).2⟩

/-- What comes of adding a span is in range. -/
theorem inRange_of_add? (added : a.add? s = some b) : inRange b.seconds = true := by
  simp only [Instant.add?] at added
  obtain ⟨within, same⟩ := Option.ite_none_right_eq_some.1 added
  obtain rfl := Option.some.inj same
  exact within

/-- Subtracting whole seconds leaves the nanoseconds. -/
theorem sub?_seconds (proper : a.nanos < nanosPerSecond) (seconds : Int) :
    a.sub? ⟨seconds, 0⟩
      = if inRange (a.seconds - seconds) then some ⟨a.seconds - seconds, a.nanos⟩ else none := by
  have whole : (a.nanos + nanosPerSecond) / nanosPerSecond = 1 := by
    simp only [nanosPerSecond] at proper ⊢
    omega
  have rest : (a.nanos + nanosPerSecond) % nanosPerSecond = a.nanos := by
    rw [Nat.add_mod_right, Nat.mod_eq_of_lt proper]
  simp only [sub?, Nat.sub_zero, whole, rest]
  rw [show a.seconds - seconds - 1 + (1 : Nat) = a.seconds - seconds by omega]

/-- Nanoseconds since 1970. -/
def total (i : Instant) : Int :=
  i.seconds * nanosPerSecond + i.nanos

/-- Adding a span that stays in range is exact. -/
theorem total_of_add? (added : a.add? s = some b) :
    b.total = a.total + s.seconds * nanosPerSecond + s.nanos ∧ b.nanos < nanosPerSecond := by
  simp only [Instant.add?] at added
  obtain ⟨-, same⟩ := Option.ite_none_right_eq_some.1 added
  obtain rfl := Option.some.inj same
  simp only [total, nanosPerSecond]
  omega

theorem addSaturating_of_add? (added : a.add? s = some b) : a.addSaturating s = b := by
  rw [addSaturating, added, Option.getD_some]

/-- While a whole second is left, the second in which the time runs out has not begun. -/
theorem seconds_lt_of_secondsUntil (proper : b.nanos < nanosPerSecond)
    (left : 1 ≤ a.secondsUntil b) : a.seconds < b.seconds := by
  by_contra begun
  have short : (b.seconds - a.seconds) * (nanosPerSecond : Nat) + b.nanos - a.nanos
      ≤ 999999999 := by
    simp only [nanosPerSecond] at proper ⊢
    omega
  have none : a.secondsUntil b ≤ (999999999 : Int).tdiv (nanosPerSecond : Nat) :=
    Int.tdiv_le_tdiv (by decide) short
  have zero : (999999999 : Int).tdiv (nanosPerSecond : Nat) = 0 := rfl
  omega

/-- An instant is at a date from its first to its last second. -/
theorem date_eq_iff {d : Date} :
    a.date = d ↔ d.day * Span.secondsPerDay ≤ a.seconds
      ∧ a.seconds < (d.day + 1) * Span.secondsPerDay := by
  obtain ⟨day⟩ := d
  simp only [date, Date.mk.injEq, Span.secondsPerDay]
  omega

end Instant

end Latchkey
