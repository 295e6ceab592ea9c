import Latchkey.Proofs.Session.Alone
import Latchkey.Proofs.Session.Credit
import Latchkey.Proofs.Session.Presented

set_option autoImplicit false

/-! # Every record has one winner

However calls of the flow are interleaved, a record of the ledger is spent by at most one of them
(`FlowRace.one_winner`), and of several renewals of one good token exactly one succeeds. The second
half is about races between such renewals: until one of them wins, the world is the one in which
each of them would succeed alone, and from then on the record is invalid. -/

namespace Latchkey

/-! ## How long calls take -/

/-- Every run of a program ends after at most so many requests. -/
def Program.Within {R : Type} {A : R → Type} {α : Type} : Nat → Program R A α → Prop
  | _, .done _ => True
  | 0, .ask _ _ => False
  | n + 1, .ask _ next => ∀ answer, Within n (next answer)

theorem Program.Within.mono {R : Type} {A : R → Type} {α : Type} {p : Program R A α} {n k : Nat}
    (h : p.Within n) (le : n ≤ k) : p.Within k := by
  induction p generalizing n k with
  | done result => cases k <;> trivial
  | ask request next ih =>
    cases n with
    | zero => exact h.elim
    | succ n =>
      cases k with
      | zero => simp at le
      | succ k => exact fun answer => ih answer (h answer) (Nat.le_of_succ_le_succ le)

theorem Program.within_done {R : Type} {A : R → Type} {α : Type} (result : α) (n : Nat) :
    (Program.done result : Program R A α).Within n := by
  cases n <;> trivial

namespace RefreshFlow

variable {β : Type} {n : Nat}

theorem within_signFor_bind (flow : RefreshFlow) (m : Moment) (record : LedgerRecord)
    (custom : Json.Members) {k : Except Error IssuedToken → Program Request Request.Answer β}
    (h : ∀ result, (k result).Within n) :
    ((flow.signFor m record custom).run.bind k).Within (n + 1) := by
  rw [signFor_bind]
  intro answer
  rcases answer with e | keys <;> exact h _

theorem within_verifyPresented_bind (flow : RefreshFlow) (now : Instant) (token : String)
    {k : Except Error PresentedToken → Program Request Request.Answer β}
    (h : ∀ result, (k result).Within n) :
    ((flow.verifyPresented now token).run.bind k).Within (n + 2) := by
  rw [verifyPresented_bind]
  rcases TokenCodec.keyNamed token with e | ⟨keyText, keyId⟩
  · exact (h _).mono (Nat.le_add_right n 2)
  intro answer
  rcases answer with e | key?
  · exact (h _).mono (Nat.le_add_right n 1)
  dsimp only
  rcases flow.presentedUnder now token keyText key? with e | p
  · exact (h _).mono (Nat.le_add_right n 1)
  intro answer
  rcases answer with e | record? <;> exact h _

end RefreshFlow

/-- The most requests that a call makes. -/
def FlowCall.mostTurns : FlowCall → Nat
  | .issue _ _ _ => 2
  | .renew _ _ => 4
  | .revoke _ _ => 3
  | .revokeAll _ => 1

theorem FlowCall.within_operation (flow : RefreshFlow) (call : FlowCall) :
    (call.operation flow).run.Within call.mostTurns := by
  cases call with
  | issue m userId custom =>
    rw [operation, RefreshFlow.run_issue]
    refine flow.within_signFor_bind _ _ _ fun result => ?_
    rcases result with e | issued
    · exact Program.within_done _ 1
    · exact fun answer => trivial
  | renew m token =>
    rw [operation, RefreshFlow.run_renew]
    refine flow.within_verifyPresented_bind _ _ fun result => ?_
    rcases result with e | p
    · exact Program.within_done _ 2
    refine flow.within_signFor_bind _ _ _ fun result => ?_
    rcases result with e | issued
    · exact Program.within_done _ 1
    · exact fun answer => trivial
  | revoke now token =>
    rw [operation, RefreshFlow.run_revoke]
    refine flow.within_verifyPresented_bind _ _ fun result => ?_
    split
    · exact fun answer => trivial
    · exact Program.within_done _ 1
    · exact Program.within_done _ 1
  | revokeAll userId => exact fun answer => trivial

theorem Race.within_after {ι : Type} [DecidableEq ι] {α : ι → Type} {i : ι} {n : Nat}
    (race : Race α) (h : (race.rest i).Within n) (schedule : List (Turn ι)) :
    ((race.after schedule).rest i).Within (n - schedule.countP fun t => t.caller = i) := by
  induction schedule generalizing race n with
  | nil => exact h
  | cons t schedule ih =>
    rw [Race.after_cons, List.countP_cons]
    by_cases mine : t.caller = i
    · subst mine
      cases asks : race.rest t.caller with
      | done result =>
        rw [Race.turn_of_done asks rfl, Race.rest_after_of_done asks]
        exact Program.within_done _ _
      | ask request next =>
        rw [asks] at h
        cases n with
        | zero => exact h.elim
        | succ n =>
          have rest : ((race.turn t).rest t.caller).Within n := by
            rw [Race.rest_turn_of_ask asks]
            exact h _
          simpa using ih _ rest
    · simp only [mine, decide_false, Bool.false_eq_true, if_false, Nat.add_zero]
      exact ih _ (by rwa [Race.rest_turn_of_ne (Ne.symm mine)])

namespace FlowRace

variable {ι : Type} [DecidableEq ι] {calls : ι → FlowCall}

/-- A call ends when it gets its turns, whatever happens in between. -/
theorem ended_of_mostTurns (flow : RefreshFlow) (calls : ι → FlowCall) (w : World)
    (schedule : List (Turn ι)) (i : ι)
    (turns : (calls i).mostTurns ≤ schedule.countP fun t => t.caller = i) :
    ∃ result, ((start flow calls w).after schedule).result? i = some result := by
  have within := (start flow calls w).within_after ((calls i).within_operation flow) schedule
  rw [Nat.sub_eq_zero_of_le turns] at within
  cases asks : ((start flow calls w).after schedule).rest i with
  | done result => exact ⟨result, Race.result?_eq_some_iff.2 asks⟩
  | ask request next =>
    rw [asks] at within
    exact within.elim

end FlowRace

/-! ## Renewals of one token -/

namespace FlowCall

/-- What is left of a call that has not written anything, and would succeed if it went on alone in
    the world `w`. -/
structure Hopeful (flow : RefreshFlow) (w : World) (call : FlowCall)
    (p : Program Request Request.Answer (Except Error call.Value)) (ledger : Ledger) : Prop where
  pending : call.Pending flow p ledger
  succeeds : ∀ draw, ∃ value, (p.run (World.answer draw) w).1 = .ok value

variable {flow : RefreshFlow} {w now : World} {call : FlowCall} {ledger : Ledger} {m : Moment}
  {token : String} {id : Uuid} {r : LedgerRecord}

theorem Hopeful.asks {p : Program Request Request.Answer (Except Error IssuedToken)}
    (h : Hopeful flow w (.renew m token) p ledger) : ∃ request next, p = .ask request next := by
  cases p with
  | ask request next => exact ⟨request, next, rfl⟩
  | done result =>
    obtain ⟨value, same⟩ := h.succeeds ⟨m.freshId, [], fun _ => .error .noUsableKey⟩
    have idle := h.pending
    obtain rfl : result = .ok value := same
    exact idle.elim

/-- Looking at the signing keys changes nothing, and does not show how far the ledger is. -/
theorem Hopeful.goes_on {lookup : KeyCall SigningMaterial}
    {next : Except Error lookup.Answer → Program Request Request.Answer (Except Error call.Value)}
    (h : Hopeful flow w call (.ask (.signing lookup) next) ledger)
    (keys : now.signing = w.signing) (draw : Draw) :
    (now.respond none draw (.signing lookup)).2 = now
      ∧ Hopeful flow w call (next (now.respond none draw (.signing lookup)).1) ledger := by
  obtain ⟨pending, succeeds⟩ := h
  match lookup, next, pending with
  | .read keyId, next, pending =>
    refine ⟨rfl, pending _, fun draw' => ?_⟩
    show ∃ value, ((next (.ok (now.signing.read? keyId))).run (World.answer draw') w).1 = .ok value
    rw [keys]
    exact succeeds draw'
  | .recentUsable limit, next, pending =>
    refine ⟨rfl, pending _, fun draw' => ?_⟩
    show ∃ value, ((next (.ok (now.signing.recentUsable limit))).run (World.answer draw') w).1
      = .ok value
    rw [keys]
    exact succeeds draw'

/-- In the world where it would succeed, a renewal looks at the ledger, or wins. -/
theorem Hopeful.goes_on_or_wins {lookup : LedgerCall}
    {next : Except Error lookup.Answer → Program Request Request.Answer (Except Error IssuedToken)}
    (h : Hopeful flow w (.renew m token) (.ask (.ledger lookup) next) w.ledger) (draw : Draw)
    (names : Compact.recordOf? token = some id) :
    ((w.respond none draw (.ledger lookup)).2 = w
        ∧ Hopeful flow w (.renew m token) (next (w.respond none draw (.ledger lookup)).1) w.ledger)
      ∨ ∃ issued later, next (w.respond none draw (.ledger lookup)).1 = .done (.ok issued)
        ∧ (w.respond none draw (.ledger lookup)).2 = { w with ledger := later }
        ∧ w.ledger ≤ later ∧ later.hasValid id = false := by
  obtain ⟨pending, succeeds⟩ := h
  rcases pending.respond none draw with ⟨same, rest⟩ | ⟨write, finish, writes, ends, moved⟩
  · refine .inl ⟨same, rest, fun draw' => ?_⟩
    obtain ⟨value, ok⟩ := succeeds draw'
    refine ⟨value, ?_⟩
    rw [← ok]
    show _ = ((next (w.respond none draw (.ledger lookup)).1).run (World.answer draw')
      (w.respond none draw (.ledger lookup)).2).1
    rw [same]
  · obtain ⟨issued, ok⟩ := succeeds draw
    have answered : finish (w.ledger.respond none write).1 = .ok issued := by
      rw [← ok]
      show _ = ((next (w.respond none draw (.ledger lookup)).1).run (World.answer draw)
        (w.respond none draw (.ledger lookup)).2).1
      rw [ends]
      rfl
    have spends : w.ledger.Spends (w.ledger.respond none write).2 id := by
      refine (writes.spends_iff none id).2 (.inl ?_)
      rw [answered]
      exact names
    exact .inr ⟨issued, _, answered ▸ ends, moved, w.ledger.le_respond none write, spends.2⟩

theorem Hopeful.mono {p : Program Request Request.Answer (Except Error call.Value)}
    {later : Ledger} (h : Hopeful flow w call p ledger) (le : ledger ≤ later) :
    Hopeful flow w call p later :=
  ⟨h.pending.mono le, h.succeeds⟩

end FlowCall

namespace FlowRace

variable {ι : Type} {flow : RefreshFlow} {w : World} {token : String} {m : ι → Moment}
  {race : FlowRace fun i => .renew (m i) token} {t : Turn ι} {id userId : Uuid}

/-- Nobody has won: the world is as it was, and every renewal would succeed in it alone. -/
structure Open (flow : RefreshFlow) (w : World) (race : FlowRace fun i => .renew (m i) token) :
    Prop where
  world : race.world = w
  hopeful : ∀ i, FlowCall.Hopeful flow w (.renew (m i) token) (race.rest i) race.ledger

/-- One renewal has won and has spent the record; the others have lost, or are about to. -/
structure Won (flow : RefreshFlow) (w : World) (id userId : Uuid)
    (race : FlowRace fun i => .renew (m i) token) (winner : ι) (issued : IssuedToken) : Prop where
  ended : race.rest winner = .done (.ok issued)
  keys : race.world.signing = w.signing
  spent : ∃ r, race.ledger.find? id = some r ∧ r.userId = userId ∧ r.isValid = false
  others : ∀ i, i ≠ winner →
    FlowCall.Hopeful flow w (.renew (m i) token) (race.rest i) race.ledger
      ∨ race.rest i = .done (.error (.verification .revoked))

variable [DecidableEq ι]

theorem Open.turn (h : race.Open flow w) (calm : t.fault = none)
    (names : Compact.recordOf? token = some id)
    (found : ∃ r, w.ledger.find? id = some r ∧ r.userId = userId) :
    Open flow w (race.turn t) ∨ ∃ issued, Won flow w id userId (race.turn t) t.caller issued := by
  obtain ⟨rfl, hopeful⟩ := h
  obtain ⟨request, next, asks⟩ := (hopeful t.caller).asks
  have mine := hopeful t.caller
  rw [asks] at mine
  have world : (race.turn t).world = (race.world.respond none t.draw request).2 := by
    rw [Race.world_turn_of_ask asks, calm]
  have rest : (race.turn t).rest t.caller
      = next (race.world.respond none t.draw request).1 := by
    rw [Race.rest_turn_of_ask asks, calm]
  -- For the others only the ledger can have moved, and what they wait for does not depend on it.
  have others : ∀ i, i ≠ t.caller → FlowCall.Hopeful flow race.world (.renew (m i) token)
      ((race.turn t).rest i) (race.turn t).ledger := by
    intro i other
    rw [Race.rest_turn_of_ne other]
    exact (hopeful i).mono (race.ledger_le_turn t)
  -- A read leaves the world in which all of them can succeed.
  have goes_on (same : (race.world.respond none t.draw request).2 = race.world)
      (hope : FlowCall.Hopeful flow race.world (.renew (m t.caller) token)
        (next (race.world.respond none t.draw request).1) race.ledger) :
      Open flow race.world (race.turn t) := by
    refine ⟨world.trans same, fun i => ?_⟩
    by_cases own : i = t.caller
    · subst own
      rw [rest, Race.ledger, world, same]
      exact hope
    · exact others i own
  cases request with
  | signing lookup =>
    obtain ⟨same, hope⟩ := mine.goes_on rfl t.draw
    exact .inl (goes_on same hope)
  | ledger lookup =>
    rcases mine.goes_on_or_wins t.draw names with
      ⟨same, hope⟩ | ⟨issued, later, ends, moved, le, spent⟩
    · exact .inl (goes_on same hope)
    · refine .inr ⟨issued, rest.trans ends, ?_, ?_, fun i other => .inl (others i other)⟩
      · rw [world, moved]
      · obtain ⟨r, found, owner⟩ := found
        obtain ⟨r', found', ages⟩ := le.ages id r found
        rw [Ledger.hasValid_of_find? found'] at spent
        rw [Race.ledger, world, moved]
        exact ⟨r', found', ages.userId_eq.trans owner, spent⟩
  | encryption _ | lockRefill | unlockRefill | drawSeed | drawKeyPair _ => exact mine.pending.elim

theorem Won.turn {winner : ι} {issued : IssuedToken} (h : race.Won flow w id userId winner issued)
    (calm : t.fault = none) (names : Compact.recordOf? token = some id)
    (owns : Compact.userOf? token = some userId) :
    Won flow w id userId (race.turn t) winner issued := by
  obtain ⟨ended, keys, spent, others⟩ := h
  by_cases own : t.caller = winner
  · rw [Race.turn_of_done ended own]
    exact ⟨ended, keys, spent, others⟩
  rcases others t.caller own with mine | lost
  · obtain ⟨request, next, asks⟩ := mine.asks
    rw [asks] at mine
    have world : (race.turn t).world = (race.world.respond none t.draw request).2 := by
      rw [Race.world_turn_of_ask asks, calm]
    have rest : (race.turn t).rest t.caller
        = next (race.world.respond none t.draw request).1 := by
      rw [Race.rest_turn_of_ask asks, calm]
    -- Whatever the caller does now, the world stays as the winner has left it.
    have goes_on (same : (race.world.respond none t.draw request).2 = race.world)
        (stands : FlowCall.Hopeful flow w (.renew (m t.caller) token)
            ((race.turn t).rest t.caller) race.ledger
          ∨ (race.turn t).rest t.caller = .done (.error (.verification .revoked))) :
        Won flow w id userId (race.turn t) winner issued := by
      refine ⟨?_, ?_, ?_, fun i other => ?_⟩
      · rw [Race.rest_turn_of_ne (Ne.symm own)]
        exact ended
      · rw [world, same]
        exact keys
      · rw [Race.ledger, world, same]
        exact spent
      · rw [Race.ledger, world, same]
        by_cases self : i = t.caller
        · subst self
          exact stands
        · rw [Race.rest_turn_of_ne self]
          exact others i other
    cases request with
    | signing lookup =>
      obtain ⟨same, hope⟩ := mine.goes_on keys t.draw
      exact goes_on same (.inl (rest ▸ hope))
    | ledger lookup =>
      obtain ⟨r, found, owner, invalid⟩ := spent
      obtain ⟨lost, same⟩ :=
        mine.pending.lost_of_invalid rfl names (owner ▸ owns) found invalid
      refine goes_on ?_ (.inr (rest.trans ?_))
      · rw [World.respond_ledger]
        exact congrArg (fun l => { race.world with ledger := l }) same
      · rw [World.respond_ledger]
        exact lost
    | encryption _ | lockRefill | unlockRefill | drawSeed | drawKeyPair _ =>
      exact mine.pending.elim
  · rw [Race.turn_of_done lost rfl]
    exact ⟨ended, keys, spent, others⟩

/-- Of renewals of one token that could each succeed alone, exactly one succeeds once all have
    ended; the others hear that the token is revoked. -/
theorem exactly_one_renews [Nonempty ι] (schedule : List (Turn ι))
    (can : ∀ i, ∃ presented, flow.CanRenew w token (m i) presented)
    (window : 0 < flow.window.size) (inserts : w.ledger.failInserts = false)
    (calm : ∀ t ∈ schedule, t.fault = none)
    (ended : ∀ i, ∃ result,
      ((start flow (fun i => .renew (m i) token) w).after schedule).result? i = some result) :
    ∃ winner issued,
      ((start flow (fun i => .renew (m i) token) w).after schedule).result? winner
          = some (.ok issued)
        ∧ ∀ i, i ≠ winner →
          ((start flow (fun i => .renew (m i) token) w).after schedule).result? i
            = some (.error (.verification .revoked)) := by
  obtain ⟨p, some⟩ := can (Classical.arbitrary ι)
  obtain ⟨_, _, -, shown, r, found, owner, -⟩ := RefreshFlow.presented_eq_ok_iff.1 some.presents
  obtain ⟨names, owns⟩ := RefreshFlow.names_of_presentedUnder shown
  have opened : Open flow w (start flow (fun i => .renew (m i) token) w) := by
    refine ⟨rfl, fun i => ⟨FlowCall.pending_operation flow _ _, fun draw => ?_⟩⟩
    obtain ⟨presented, can⟩ := can i
    exact can.succeeds window inserts draw
  have stands : Open flow w ((start flow (fun i => .renew (m i) token) w).after schedule)
      ∨ ∃ winner issued, Won flow w p.tokenId p.userId
        ((start flow (fun i => .renew (m i) token) w).after schedule) winner issued := by
    clear ended
    induction schedule using List.reverseRecOn with
    | nil => exact .inl opened
    | append_singleton schedule t ih =>
      have calm' : t.fault = none := calm t (by simp)
      rw [Race.after_append, Race.after_cons, Race.after_nil]
      rcases ih fun t mem => calm t (by simp [mem]) with open' | ⟨winner, issued, won⟩
      · rcases open'.turn calm' names ⟨r, found, owner⟩ with open' | ⟨issued, won⟩
        · exact .inl open'
        · exact .inr ⟨t.caller, issued, won⟩
      · exact .inr ⟨winner, issued, won.turn calm' names owns⟩
  -- Who has ended is not hopeful any more, so that somebody has won and the others have lost.
  have settled : ∀ i ledger, ¬ FlowCall.Hopeful flow w (.renew (m i) token)
      (((start flow (fun i => .renew (m i) token) w).after schedule).rest i) ledger := by
    intro i ledger hopeful
    obtain ⟨request, next, asks⟩ := hopeful.asks
    obtain ⟨result, ends⟩ := ended i
    exact absurd (asks.symm.trans (Race.result?_eq_some_iff.1 ends)) (by simp)
  rcases stands with open' | ⟨winner, issued, won⟩
  · exact absurd (open'.hopeful (Classical.arbitrary ι)) (settled _ _)
  · refine ⟨winner, issued, Race.result?_eq_some_iff.2 won.ended, fun i other => ?_⟩
    rcases won.others i other with hopeful | lost
    · exact absurd hopeful (settled _ _)
    · exact Race.result?_eq_some_iff.2 lost

/-- However calls are interleaved, from any world and with any requests failing: each call ends
    when it gets its turns; no record is credited to two calls, and every record that is spent is
    credited to one; a call for all of a user's records counts those that it is credited with; and
    a call that comes too late hears so and changes nothing. Of renewals of one good token, with a
    key to sign and without failures, exactly one succeeds, and the others hear that the token is
    revoked. -/
theorem one_winner (flow : RefreshFlow) (w : World) (schedule : List (Turn ι)) :
    (∀ calls : ι → FlowCall,
      let race := start flow calls w
      let result? i := (race.after schedule).result? i
      (∀ i, (calls i).mostTurns ≤ schedule.countP (fun t => t.caller = i) →
          ∃ result, result? i = some result)
        ∧ (∀ id i j, race.Credited schedule i id → race.Credited schedule j id → i = j)
        ∧ (∀ id, w.ledger.Spends (race.after schedule).ledger id → ∃ i, race.Credited schedule i id)
        ∧ (∀ i n, (calls i).counted? (result? i) = some n →
          ∃ ids : List Uuid, ids.Nodup ∧ ids.length = n
            ∧ ∀ id, id ∈ ids ↔ race.Credited schedule i id)
        ∧ ∀ i, race.Late schedule i → result? i = some (calls i).lost ∧ race.Quiet i schedule)
      ∧ ∀ [Nonempty ι] (token : String) (m : ι → Moment),
        (∀ i, ∃ presented, flow.CanRenew w token (m i) presented) → 0 < flow.window.size →
          w.ledger.failInserts = false → (∀ t ∈ schedule, t.fault = none) →
          (∀ i, 4 ≤ schedule.countP (fun t => t.caller = i)) →
          let result? i := ((start flow (fun i => .renew (m i) token) w).after schedule).result? i
          ∃ winner issued, result? winner = some (.ok issued)
            ∧ ∀ i, i ≠ winner → result? i = some (.error (.verification .revoked)) := by
  refine ⟨fun calls => ⟨fun i => ended_of_mostTurns flow calls w schedule i, ?_, ?_, ?_, ?_⟩, ?_⟩
  · intro id i j first second
    exact spender_unique ((credited_iff_spends flow calls w schedule i id).1 first)
      ((credited_iff_spends flow calls w schedule j id).1 second)
  · intro id spent
    obtain ⟨i, spends⟩ : ∃ i, (start flow calls w).Spends schedule i id := exists_spender spent
    exact ⟨i, (credited_iff_spends flow calls w schedule i id).2 spends⟩
  · intro i n counted
    obtain ⟨ids, distinct, length, members⟩ := counted_eq_length flow calls w schedule i counted
    refine ⟨ids, distinct, length, fun id => ?_⟩
    rw [members, credited_iff_spends]
  · exact lost_of_late flow calls w schedule
  · intro _ token m can window inserts calm turns
    exact exactly_one_renews schedule can window inserts calm fun i =>
      ended_of_mostTurns flow (fun i => .renew (m i) token) w schedule i (turns i)

/-- Two renewals of one token that take turns. -/
theorem one_of_two_wins :
    ∃ issued, (RefreshFlow.sharing []).codec.issue (.hs256 Uuid.zero.toText []) (.ofNat 1)
        (.ofNat 2) [] ⟨0, 0⟩ = .ok issued ∧
      let calls := fun late : Bool =>
        FlowCall.renew ⟨⟨1, 0⟩, if late then .ofNat 4 else .ofNat 3, 0⟩ issued.token
      let schedule := (List.replicate 4 [⟨false, none, .none⟩, ⟨true, none, .none⟩]).flatten
      let race := start (.sharing []) calls (.withKey .zero .oneToken)
      ∃ winner successor, (race.after schedule).result? winner = some (.ok successor)
        ∧ (race.after schedule).result? (!winner) = some (.error (.verification .revoked)) := by
  obtain ⟨issued, issues, -, good⟩ := RefreshFlow.exists_first ⟨Claims.shaped_nil, trivial⟩
  refine ⟨issued, issues, ?_⟩
  intro calls schedule race
  have inTime : ((⟨1, 0⟩ : Instant).add? (RefreshFlow.sharing []).codec.span).isSome = true := by
    decide
  have can : ∀ late : Bool, ∃ presented, (RefreshFlow.sharing []).CanRenew
      (.withKey .zero .oneToken) issued.token
      ⟨⟨1, 0⟩, if late then .ofNat 4 else .ofNat 3, 0⟩ presented := by
    intro late
    obtain ⟨-, -, presents⟩ := good ⟨1, 0⟩ (by decide) .oneToken
    refine ⟨_, presents, ⟨_, .head _, rfl⟩, fun key _ _ =>
      RefreshFlow.exists_issue_sharing _ _ _ _ _ inTime, ?_⟩
    cases late <;> rfl
  obtain ⟨winner, successor, wins, others⟩ := (one_winner (.sharing []) (.withKey .zero .oneToken)
    schedule).2 issued.token _ can (by decide) rfl (by decide) (by decide)
  exact ⟨winner, successor, wins, others _ (by simp)⟩

end FlowRace

end Latchkey
