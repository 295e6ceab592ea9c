import Latchkey.Proofs.Key.Aged
import Latchkey.Proofs.Schedule.NextSlot
import Latchkey.Proofs.Session.Renewal
import Latchkey.Proofs.Time.Span

set_option autoImplicit false

/-! # Exact or refused

Times are worked out from an instant and a number of the settings: when a token and its record
expire, since when a key is too old, how long a task waits for its slot, and how long a token is
still good for. Each of these is the exact sum or difference, or it is refused because that cannot
be represented; only a record stops at the latest instant (`Instant.exact_or_refused`). -/

namespace Latchkey

/-! ## Lifetimes -/

/-- An algorithm that cannot sign has one reason for that, whatever the message. -/
theorem KeyAlgorithm.exists_rejection {algorithm : KeyAlgorithm} (cannot : ¬ algorithm.CanSign) :
    ∃ r, ∀ message, algorithm.sign message = .error r := by
  cases signs : algorithm.signing.signer algorithm.name with
  | ok signer => exact absurd (fun _ => ⟨_, sign_eq_ok_iff.2 ⟨signer, signs, rfl⟩⟩) cannot
  | error r => exact ⟨r, fun _ => sign_eq_error_iff.2 signs⟩

namespace TokenCodec

variable {codec : TokenCodec} {algorithm : KeyAlgorithm} {tokenId userId : Uuid}
  {custom : Json.Members} {now : Instant} {s : TokenSettings}

/-- There is one codec of the settings, and only of those with a lifetime that a codec can have. -/
theorem ofSettings_eq_ok_iff : ofSettings s = .ok codec
    ↔ codec.issuer = s.issuer ∧ codec.audience = s.audience
      ∧ codec.lifetime = s.refreshTokenTtl := by
  obtain ⟨issuer, audience, lifetime, positive, most⟩ := codec
  unfold ofSettings
  split
  · simp only [Except.ok.injEq, TokenCodec.mk.injEq]
    constructor
    · rintro ⟨rfl, rfl, rfl⟩
      exact ⟨rfl, rfl, rfl⟩
    · rintro ⟨rfl, rfl, rfl⟩
      exact ⟨rfl, rfl, rfl⟩
  · rename_i outside
    simp only [reduceCtorEq, false_iff]
    rintro ⟨-, -, rfl⟩
    exact outside ⟨positive, most⟩

theorem exists_ofSettings_iff : (∃ codec, ofSettings s = .ok codec)
    ↔ 1 ≤ s.refreshTokenTtl ∧ s.refreshTokenTtl ≤ SettingsFault.maxLifetime := by
  constructor
  · rintro ⟨codec, made⟩
    obtain ⟨-, -, same⟩ := ofSettings_eq_ok_iff.1 made
    rw [← same]
    exact ⟨codec.lifetime_pos, codec.lifetime_le⟩
  · rintro ⟨least, most⟩
    exact ⟨_, dif_pos ⟨least, most⟩⟩

/-- The nanoseconds at which what is issued now is to expire. -/
def due (codec : TokenCodec) (now : Instant) : Int :=
  now.total + codec.lifetime * Instant.nanosPerSecond

/-- A lifetime is far shorter than the longest span. -/
theorem representable_span (codec : TokenCodec) : codec.span.Representable := by
  have positive := codec.lifetime_pos
  have most := codec.lifetime_le
  refine Span.representable_mk_iff.2 ?_
  simp only [Span.maxSeconds, SettingsFault.maxLifetime] at *
  omega

theorem total_add_span (codec : TokenCodec) (now : Instant) :
    now.total + codec.span.total = codec.due now := by
  simp [due, span, Span.total]

theorem total_span_nonneg (codec : TokenCodec) : 0 ≤ codec.span.total := by
  have positive := codec.lifetime_pos
  simp only [span, Span.total, Instant.nanosPerSecond]
  omega

theorem add?_span_eq_none_iff (possible : now.Representable) :
    now.add? codec.span = none ↔ Instant.latest.total < codec.due now := by
  rw [Instant.add?_eq_none_iff possible codec.total_span_nonneg, total_add_span]

/-- What would expire after the latest instant is refused. -/
theorem issue_of_late (possible : now.Representable)
    (late : Instant.latest.total < codec.due now) :
    codec.issue algorithm tokenId userId custom now
      = .error (.internal ("token expiry overflows from " ++ now.toMessageText)) := by
  rw [issue, (add?_span_eq_none_iff possible).2 late]

/-- The instant at which a token is due, if it is not too late. -/
theorem exists_add?_span (possible : now.Representable)
    (inTime : codec.due now ≤ Instant.latest.total) :
    ∃ expiresAt, now.add? codec.span = some expiresAt
      ∧ expiresAt.Representable ∧ expiresAt.total = codec.due now := by
  have found : now.add? codec.span ≠ none := by
    rw [ne_eq, add?_span_eq_none_iff possible]
    exact Int.not_lt.2 inTime
  obtain ⟨expiresAt, added⟩ := Option.ne_none_iff_exists'.1 found
  refine ⟨expiresAt, added, ?_⟩
  rw [← total_add_span]
  exact Instant.add?_eq_some_iff.1 added

/-- What an algorithm that can sign issues in time expires when it is due. -/
theorem exists_issue_due (possible : now.Representable)
    (inTime : codec.due now ≤ Instant.latest.total) (canSign : algorithm.CanSign)
    (tokenId userId : Uuid) (custom : Json.Members) :
    ∃ issued, codec.issue algorithm tokenId userId custom now = .ok issued
      ∧ issued.expiresAt.Representable ∧ issued.expiresAt.total = codec.due now := by
  obtain ⟨expiresAt, added, inside, precise⟩ := exists_add?_span possible inTime
  obtain ⟨issued, issues⟩ :=
    exists_issue canSign tokenId userId custom (Option.isSome_of_eq_some added)
  obtain rfl := expiresAt_of_issue issues added
  exact ⟨issued, issues, inside, precise⟩

/-- Without a key that signs, what could be issued in time is refused for the key's reason. -/
theorem issue_of_not_canSign (possible : now.Representable)
    (inTime : codec.due now ≤ Instant.latest.total) (cannot : ¬ algorithm.CanSign) :
    ∃ r, (∀ message, algorithm.sign message = .error r)
      ∧ codec.issue algorithm tokenId userId custom now
        = .error (.internal ("failed to sign token: " ++ r.message)) := by
  obtain ⟨expiresAt, added, -⟩ := exists_add?_span possible inTime
  obtain ⟨r, refuses⟩ := KeyAlgorithm.exists_rejection cannot
  refine ⟨r, refuses, ?_⟩
  simp only [issue, added, Compact.write, refuses]

theorem issue_eq_overflow_iff (possible : now.Representable) :
    codec.issue algorithm tokenId userId custom now
        = .error (.internal ("token expiry overflows from " ++ now.toMessageText))
      ↔ Instant.latest.total < codec.due now := by
  refine ⟨?_, issue_of_late possible⟩
  intro refused
  by_contra inTime
  have inTime := Int.not_lt.1 inTime
  by_cases canSign : algorithm.CanSign
  · obtain ⟨issued, issues, -⟩ := exists_issue_due possible inTime canSign tokenId userId custom
    cases issues.symm.trans refused
  · -- The two refusals differ in their first letter.
    obtain ⟨r, -, unsigned⟩ := issue_of_not_canSign possible inTime canSign
    rw [unsigned] at refused
    have same := Error.internal.inj (Except.error.inj refused)
    have first := congrArg (fun text => text.toList.head?) same
    simp at first

end TokenCodec

/-- A record expires with its token, or at the latest instant if that is sooner. -/
theorem LedgerRecord.expiresAt_issue {now : Instant} (possible : now.Representable)
    (codec : TokenCodec) (id userId : Uuid) :
    (issue id userId now codec.span).expiresAt.Representable
      ∧ (issue id userId now codec.span).expiresAt.total
        = min (codec.due now) Instant.latest.total := by
  rw [← codec.total_add_span]
  exact Instant.addSaturating_total possible codec.total_span_nonneg

/-! ## Cutoffs -/

theorem Instant.total_daysBefore (time : Instant) (days : Int) :
    (time.daysBefore days).total = time.total - Span.secondsPerDay * days * nanosPerSecond := by
  simp only [daysBefore, total, Int.sub_mul]
  omega

namespace Maintenance

variable {now limit : Instant} {days : Int}

/-- A cutoff is the instant that is exactly so many days earlier, if there are such a span and such
    an instant. -/
theorem cutoff_eq_ok_iff_total (possible : now.Representable) : cutoff now days = .ok limit
    ↔ Span.Representable ⟨Span.secondsPerDay * days, 0⟩ ∧ limit.Representable
      ∧ limit.total = now.total - Span.secondsPerDay * days * Instant.nanosPerSecond := by
  rw [cutoff_eq_ok_iff possible.proper, Span.representable_mk_iff, ← Instant.total_daysBefore]
  refine and_congr_right fun _ => ?_
  constructor
  · rintro ⟨within, rfl⟩
    exact ⟨Instant.representable_iff.2 ⟨possible.proper, within⟩, rfl⟩
  · rintro ⟨inside, precise⟩
    obtain rfl : limit = now.daysBefore days :=
      Instant.eq_of_total_eq inside.proper possible.proper precise
    exact ⟨(Instant.representable_iff.1 inside).2, rfl⟩

theorem exists_cutoff_iff (possible : now.Representable) : (∃ limit, cutoff now days = .ok limit)
    ↔ Span.Representable ⟨Span.secondsPerDay * days, 0⟩
      ∧ ∃ i : Instant, i.Representable
        ∧ i.total = now.total - Span.secondsPerDay * days * Instant.nanosPerSecond := by
  simp only [cutoff_eq_ok_iff_total possible, exists_and_left]

theorem cutoff_eq_error_iff :
    cutoff now days = .error (.internal s!"key age of {days} days is out of range")
      ↔ ¬ ∃ limit, cutoff now days = .ok limit := by
  unfold cutoff
  cases (Span.ofDays? days).bind now.sub? <;> simp

end Maintenance

/-! ## Waits -/

/-- The distance of two instants in whole seconds has 64 bits. -/
theorem Instant.toInt_sub_toInt64 {a b : Instant} (possible : a.Representable)
    (possible' : b.Representable) :
    (a.seconds.toInt64 - b.seconds.toInt64).toInt = a.seconds - b.seconds := by
  have within := (representable_iff.1 possible).2
  have within' := (representable_iff.1 possible').2
  simp only [inRange, Bool.and_eq_true, decide_eq_true_iff] at within within'
  simp only [earliest, latest] at within within'
  have near : -2 ^ 63 ≤ a.seconds - b.seconds ∧ a.seconds - b.seconds < 2 ^ 63 := by omega
  rw [← Int64.ofInt_sub]
  exact Int64.toInt_ofInt_of_le near.1 near.2

namespace DailySchedule

variable {s : DailySchedule} {now : Instant} {caughtUp : Option Date}

/-- The slot of an instant's date is an instant. -/
theorem representable_slot (s : DailySchedule) (possible : now.Representable) :
    Instant.Representable ⟨s.slot now.date, 0⟩ := by
  have within := (Instant.representable_iff.1 possible).2
  have time := s.time.seconds_lt
  refine Instant.representable_iff.2 ⟨Nat.zero_lt_succ _, ?_⟩
  -- Time begins and ends with a date.
  simp only [Instant.inRange, Bool.and_eq_true, decide_eq_true_iff] at within ⊢
  simp only [Instant.earliest, Instant.latest, slot, Instant.date, Span.secondsPerDay] at *
  omega

theorem delay_of_onTime (onTime : s.OnTime now) :
    (s.nextFire now caughtUp).1.delay = s.period := by
  rw [nextFire_of_onTime onTime]

/-- A late evaluation asks for exactly what is left of a day, and that is something. -/
theorem delay_of_late (late : s.Late now) :
    ((s.nextFire now caughtUp).1.delay : Int) = 1000 * (oneDay - s.offset now) := by
  have near := s.natAbs_offset_lt now
  rw [nextFire_of_late late]
  simp only [Late, driftTolerance, millis] at *
  omega

theorem delay_of_early (early : s.Early now) :
    ((s.nextFire now caughtUp).1.delay : Int) = 1000 * -s.offset now := by
  rw [nextFire_of_early early]
  simp only [Early, driftTolerance, millis] at *
  omega

end DailySchedule

/-! ## Time left -/

/-- The holder of a token is told the whole seconds that are left, or zero if it is past. -/
theorem IssuedToken.exists_left {now : Instant} (possible : now.Representable)
    {issued : IssuedToken} (possible' : issued.expiresAt.Representable) :
    ∃ left : Span, left.Representable ∧ left.total = issued.expiresAt.total - now.total
      ∧ issued.expiresIn now = max 0 (left.total.tdiv Instant.nanosPerSecond) := by
  obtain ⟨left, inside, precise⟩ := Instant.exists_until possible possible'
  refine ⟨left, inside, precise, ?_⟩
  rw [expiresIn, Instant.secondsUntil_eq, precise, Int.max_comm]

/-! ## All of them -/

/-- At every representable instant times are worked out exactly or refused, and nothing on the way
    leaves its range:
    - There is a codec of the token settings if and only if the lifetime is between one second and
      ten years, and then the lifetime is a span.
    - A token is refused for its expiry if and only if that would come after the latest instant. An
      algorithm that can sign issues every other token, and that expires exactly when it is due; one
      that cannot has one reason for that, for which every other token is refused.
    - A record expires when its token does or at the latest instant, whichever comes first.
    - A retirement cutoff is refused if and only if there is no span of so many days or no instant
      so much earlier, and otherwise it is the instant that is exactly so much earlier.
    - The slot of the instant's date is an instant. The distance from it, in 64 bits, is the exact
      one and less than a day, and an evaluation asks for one period or for the exact time to the
      next slot.
    - What is left to the expiry of a token is a span, and its holder is told the whole seconds of
      that, or zero if there are none. -/
theorem Instant.exact_or_refused {now : Instant} (possible : now.Representable) :
    (∀ s : TokenSettings, (∃ codec, TokenCodec.ofSettings s = .ok codec)
        ↔ 1 ≤ s.refreshTokenTtl ∧ s.refreshTokenTtl ≤ 315360000)
      ∧ (∀ s codec, TokenCodec.ofSettings s = .ok codec →
        let due := now.total + s.refreshTokenTtl * nanosPerSecond
        Span.ofSeconds? s.refreshTokenTtl = some codec.span
          ∧ (∀ algorithm tokenId userId custom,
            let result := codec.issue algorithm tokenId userId custom now
            (result = .error (.internal ("token expiry overflows from " ++ now.toMessageText))
                ↔ latest.total < due)
              ∧ (due ≤ latest.total → algorithm.CanSign → ∃ issued, result = .ok issued
                ∧ issued.expiresAt.Representable ∧ issued.expiresAt.total = due)
              ∧ (due ≤ latest.total → ¬ algorithm.CanSign → ∃ r : Rejection,
                (∀ message, algorithm.sign message = .error r)
                  ∧ result = .error (.internal ("failed to sign token: " ++ r.message))))
          ∧ ∀ id userId,
            let record := LedgerRecord.issue id userId now codec.span
            record.expiresAt.Representable ∧ record.expiresAt.total = min due latest.total)
      ∧ (∀ days : Int,
        let result := Maintenance.cutoff now days
        let refusal : Error := .internal s!"key age of {days} days is out of range"
        let time := now.total - 86400 * days * nanosPerSecond
        (result = .error refusal ↔ ¬ Span.Representable ⟨86400 * days, 0⟩
            ∨ ¬ ∃ i : Instant, i.Representable ∧ i.total = time)
          ∧ (result ≠ .error refusal → ∃ limit, result = .ok limit
            ∧ limit.Representable ∧ limit.total = time))
      ∧ (∀ (s : DailySchedule) (caughtUp : Option Date),
        let slot : Instant := ⟨s.slot now.date, 0⟩
        let offset := now.seconds - slot.seconds
        let delay := (s.nextFire now caughtUp).1.delay
        slot.Representable ∧ (now.seconds.toInt64 - slot.seconds.toInt64).toInt = offset
          ∧ offset.natAbs < 86400
          ∧ (offset.natAbs < 30 → delay = s.period)
          ∧ (30 ≤ offset → (delay : Int) = 1000 * (86400 - offset))
          ∧ (offset ≤ -30 → (delay : Int) = 1000 * -offset))
      ∧ ∀ issued : IssuedToken, issued.expiresAt.Representable →
        ∃ left : Span, left.Representable ∧ left.total = issued.expiresAt.total - now.total
          ∧ issued.expiresIn now = max 0 (left.total.tdiv nanosPerSecond) := by
  refine ⟨fun s => TokenCodec.exists_ofSettings_iff, ?_, ?_, ?_,
    fun issued possible' => IssuedToken.exists_left possible possible'⟩
  · intro s codec made
    obtain ⟨-, -, same⟩ := TokenCodec.ofSettings_eq_ok_iff.1 made
    have due : now.total + s.refreshTokenTtl * nanosPerSecond = codec.due now := by
      rw [TokenCodec.due, same]
    dsimp only
    rw [due]
    refine ⟨?_, ?_, LedgerRecord.expiresAt_issue possible codec⟩
    · rw [← same]
      exact Span.ofSeconds?_eq_some_iff.2 ⟨rfl, codec.representable_span⟩
    · intro algorithm tokenId userId custom
      exact ⟨TokenCodec.issue_eq_overflow_iff possible,
        fun inTime canSign => TokenCodec.exists_issue_due possible inTime canSign _ _ _,
        TokenCodec.issue_of_not_canSign possible⟩
  · intro days result refusal time
    have refused : result = .error refusal ↔ _ := Maintenance.cutoff_eq_error_iff
    have found : (∃ limit, result = .ok limit) ↔ _ := Maintenance.exists_cutoff_iff possible
    refine ⟨?_, ?_⟩
    · rw [refused, found]
      exact not_and_or
    · intro kept
      obtain ⟨limit, within⟩ := not_not.1 (mt refused.2 kept)
      exact ⟨limit, within, ((Maintenance.cutoff_eq_ok_iff_total possible).1 within).2⟩
  · intro s caughtUp
    exact ⟨s.representable_slot possible,
      toInt_sub_toInt64 possible (s.representable_slot possible), s.natAbs_offset_lt now,
      fun near => DailySchedule.delay_of_onTime (DailySchedule.onTime_iff.2 (Nat.not_le.2 near)),
      DailySchedule.delay_of_late, DailySchedule.delay_of_early⟩

/-- A second and a half before the end of time a token of one second can be issued. One of two
    seconds is refused, and its record would expire with the latest instant. There is a cutoff for
    the greatest age that a key can have reached by then, but none a day ahead. -/
theorem Instant.exact_or_refused_before_end :
    let now : Instant := ⟨8210266876798, 500000000⟩
    let algorithm : KeyAlgorithm := .hs256 "k" [7]
    let short : TokenSettings := { refreshTokenTtl := 1 }
    let long : TokenSettings := { refreshTokenTtl := 2 }
    now.Representable
      ∧ (∃ codec issued, TokenCodec.ofSettings short = .ok codec
        ∧ codec.issue algorithm (.ofNat 1) (.ofNat 2) [] now = .ok issued
        ∧ issued.expiresAt = ⟨8210266876799, 500000000⟩ ∧ issued.expiresIn now = 1)
      ∧ (∃ codec, TokenCodec.ofSettings long = .ok codec
        ∧ codec.issue algorithm (.ofNat 1) (.ofNat 2) [] now
          = .error (.internal "token expiry overflows from +262142-12-31 23:59:58.500 UTC")
        ∧ (LedgerRecord.issue (.ofNat 1) (.ofNat 2) now codec.span).expiresAt = latest)
      ∧ Maintenance.cutoff now (-1) = .error (.internal "key age of -1 days is out of range")
      ∧ Maintenance.cutoff now 191491528 = .ok ⟨-8334601142402, 500000000⟩ := by
  intro now algorithm short long
  have possible : now.Representable := Instant.representable_iff.2 ⟨by decide, by decide⟩
  obtain ⟨lifetimes, codecs, cutoffs, -, left⟩ := exact_or_refused possible
  have canSign : algorithm.CanSign := fun message => ⟨_, rfl⟩
  have wording : "token expiry overflows from " ++ now.toMessageText
      = "token expiry overflows from +262142-12-31 23:59:58.500 UTC" := by decide +kernel
  obtain ⟨codec, made⟩ := (lifetimes short).2 (by decide)
  obtain ⟨codec', made'⟩ := (lifetimes long).2 (by decide)
  refine ⟨possible, ?_, ?_, ?_, ?_⟩
  · obtain ⟨-, issues, -⟩ := codecs short codec made
    obtain ⟨issued, issues, inside, precise⟩ :=
      (issues algorithm (.ofNat 1) (.ofNat 2) []).2.1 (by decide) canSign
    have expires : issued.expiresAt = ⟨8210266876799, 500000000⟩ :=
      eq_of_total_eq inside.proper (by decide) (precise.trans (by decide))
    obtain ⟨rest, -, total, told⟩ := left issued inside
    refine ⟨codec, issued, made, issues, expires, ?_⟩
    rw [told, total, expires]
    decide
  · obtain ⟨-, issues, records⟩ := codecs long codec' made'
    obtain ⟨inside, precise⟩ := records (.ofNat 1) (.ofNat 2)
    refine ⟨codec', made', ?_,
      eq_of_total_eq inside.proper (by decide) (precise.trans (by decide))⟩
    rw [← wording]
    exact (issues algorithm (.ofNat 1) (.ofNat 2) []).1.2 (by decide)
  · refine (cutoffs (-1)).1.2 (.inr fun found => ?_)
    exact absurd (exists_representable_iff.1 found) (by decide)
  · obtain ⟨limit, found, inside, precise⟩ := (cutoffs 191491528).2 (by decide)
    rw [found]
    exact congrArg _ (eq_of_total_eq inside.proper (by decide) (precise.trans (by decide)))

end Latchkey
