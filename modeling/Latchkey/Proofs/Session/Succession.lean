import Latchkey.Proofs.Session.Correspondence
import Latchkey.Proofs.Session.Presented
import Latchkey.Proofs.Session.Provenance

set_option autoImplicit false

/-! # What a session carries along

A renewal signs the claims that it has read from the token before. So along a session, however many
renewals it has and whatever else goes on meanwhile, the caller's claims stay what they were without
the reserved names, and the user stays the same (`FlowRace.claims_survive`). These names are taken
out when the first token is issued; whenever that is done again, none are left. -/

namespace Latchkey

/-! ## What is true of every result -/

namespace Program

variable {R : Type} {A : R → Type} {α β : Type}

theorem bind_done (p : Program R A α) : p.bind .done = p := by
  induction p with
  | done a => rfl
  | ask r next ih =>
    rw [ask_bind]
    congr 1
    funext answer
    exact ih answer

/-- However its requests are answered, a program ends with such a result. -/
abbrev Always (result : α → Prop) (p : Program R A α) : Prop :=
  p.Ends (fun _ _ => True) result

theorem always_of_forall {result : α → Prop} (all : ∀ a, result a) (p : Program R A α) :
    p.Always result := by
  induction p with
  | done a => exact all a
  | ask r next ih => exact fun answer _ => ih answer

theorem Always.bind {middle : α → Prop} {result : β → Prop} {p : Program R A α}
    {f : α → Program R A β} (h : p.Always middle) (next : ∀ a, middle a → (f a).Always result) :
    (p.bind f).Always result := by
  induction p with
  | done a => exact next a h
  | ask r rest ih => exact fun answer fit => ih answer (h answer fit)

/-- However its requests are answered, what a program succeeds with is such a value. -/
abbrev Yields {ε : Type} (value : α → Prop) (p : Program R A (Except ε α)) : Prop :=
  p.Always fun result => ∀ a, result = .ok a → value a

theorem yields_error {ε : Type} {value : α → Prop} (e : ε) :
    (done (.error e) : Program R A (Except ε α)).Yields value := by
  intro a ended
  simp at ended

end Program

namespace RefreshFlow

variable {flow : RefreshFlow} {m : Moment} {now : Instant} {token : String}

/-- What is signed for a record is a token of it. -/
theorem signFor_issues (flow : RefreshFlow) (m : Moment) (record : LedgerRecord)
    (custom : Json.Members) :
    (flow.signFor m record custom).run.Yields fun issued =>
      ∃ algorithm, flow.codec.issue algorithm record.id record.userId custom m.now = .ok issued := by
  rw [← Program.bind_done (flow.signFor m record custom).run, signFor_bind]
  intro answer _
  rcases answer with e | keys
  · exact Program.yields_error e
  · intro issued ended
    obtain ⟨_, algorithm, -, -, issues⟩ := signedUnder_eq_ok_iff.1 ended
    exact ⟨algorithm, issues⟩

/-- What a token presents is written in it. -/
theorem verifyPresented_reads (flow : RefreshFlow) (now : Instant) (token : String) :
    (flow.verifyPresented now token).run.Yields fun p =>
      Compact.payloadClaims? token = some p.claims ∧ p.claims.userId = .ok p.userId := by
  rw [← Program.bind_done (flow.verifyPresented now token).run, verifyPresented_bind]
  rcases TokenCodec.keyNamed token with e | ⟨keyText, keyId⟩
  · exact Program.yields_error e
  intro answer _
  rcases answer with e | key?
  · exact Program.yields_error e
  dsimp only
  cases shown : flow.presentedUnder now token keyText key? with
  | error e => exact Program.yields_error e
  | ok presented =>
    obtain ⟨key, algorithm, -, -, verified, owner, -⟩ := presentedUnder_eq_ok_iff.1 shown
    intro answer _
    rcases answer with e | record?
    · exact Program.yields_error e
    · intro p ended
      obtain rfl := (PresentedToken.against_eq_ok_iff.1 ended).1
      exact ⟨TokenCodec.payloadClaims?_of_verify verified, owner⟩

end RefreshFlow

/-! ## What calls sign -/

namespace FlowCall

/-- What a call hands out is signed for what it was given: a user and claims, or a token that says
    them. -/
def Carries (flow : RefreshFlow) : FlowCall → IssuedToken → Prop
  | .issue m userId custom, x =>
    ∃ algorithm, flow.codec.issue algorithm m.freshId userId custom m.now = .ok x
  | .renew m token, x =>
    ∃ claims userId algorithm, Compact.payloadClaims? token = some claims
      ∧ claims.userId = .ok userId
      ∧ flow.codec.issue algorithm m.freshId userId claims.custom m.now = .ok x
  | .revoke _ _, _ | .revokeAll _, _ => True

/-- Every call hands out only what it carries. -/
theorem always_carries (flow : RefreshFlow) (call : FlowCall) :
    (call.operation flow).run.Always fun result => ∀ x, call.handed? (some result) = some x →
      call.Carries flow x := by
  have failed (e : Error) : ∀ x, call.handed? (some (.error e)) = some x →
      call.Carries flow x := by
    intro x handed
    simp [handed?_error] at handed
  cases call with
  | issue m userId custom =>
    rw [operation, RefreshFlow.run_issue]
    refine (flow.signFor_issues m _ custom).bind fun signed issues => ?_
    rcases signed with e | issued
    · exact failed e
    intro answer _
    rcases answer with e | r
    · exact failed e
    · intro x handed
      obtain rfl : issued = x := Option.some.inj handed
      exact issues issued rfl
  | renew m token =>
    rw [operation, RefreshFlow.run_renew]
    refine (flow.verifyPresented_reads m.now token).bind fun presented reads => ?_
    rcases presented with e | p
    · exact failed e
    obtain ⟨payload, owner⟩ := reads p rfl
    refine (flow.signFor_issues m _ p.claims.custom).bind fun signed issues => ?_
    rcases signed with e | issued
    · exact failed e
    intro answer _
    rcases answer with e | r
    · exact failed e
    · intro x handed
      obtain rfl : issued = x := Option.some.inj handed
      obtain ⟨algorithm, issues⟩ := issues issued rfl
      exact ⟨p.claims, p.userId, algorithm, payload, owner, issues⟩
  | revoke now token => exact Program.always_of_forall (fun _ _ _ => trivial) _
  | revokeAll userId => exact Program.always_of_forall (fun _ _ _ => trivial) _

end FlowCall

namespace FlowRace

variable {ι : Type} {calls : ι → FlowCall} {race : FlowRace calls} {userId : Uuid}
  {custom : Json.Members} {now now' : Instant} {x y : IssuedToken}
  {earlier earlier' : List IssuedToken}

/-! ## Sessions -/

/-- A session of a user with the caller's claims, as far as a token that was issued at an instant,
    with the tokens before it, last first: it begins with one that was issued first, and each other
    token was exchanged for the one before. All were issued since 1970. -/
inductive Session (race : FlowRace calls) (userId : Uuid) (custom : Json.Members) :
    Instant → IssuedToken → List IssuedToken → Prop
  | begins (i : ι) (m : Moment) (x : IssuedToken) (issues : calls i = .issue m userId custom)
      (since : 0 ≤ m.now.seconds) (handed : Handed race i x) :
      Session race userId custom m.now x []
  | goesOn (i : ι) (m : Moment) (x : IssuedToken) (before : Instant) (last : IssuedToken)
      (earlier : List IssuedToken) (session : Session race userId custom before last earlier)
      (renews : calls i = .renew m last.token) (since : 0 ≤ m.now.seconds)
      (handed : Handed race i x) :
      Session race userId custom m.now x (last :: earlier)

/-- The tokens before are of the same session, which was shorter then. -/
theorem Session.exists_of_mem (session : Session race userId custom now x earlier)
    (mem : y ∈ earlier) :
    ∃ before others, Session race userId custom before y others
      ∧ others.length < earlier.length := by
  induction session with
  | begins => simp at mem
  | goesOn i m x before last earlier session renews since handed ih =>
    rcases List.mem_cons.1 mem with rfl | mem
    · exact ⟨before, earlier, session, Nat.lt_succ_self _⟩
    · obtain ⟨before, others, session, shorter⟩ := ih mem
      exact ⟨before, others, session, Nat.lt_succ_of_lt shorter⟩

/-! ## The tokens of a session -/

variable {flow : RefreshFlow} {m : Moment}

/-- A token is of a session: it was issued to its user since 1970, with claims that are those of the
    session as soon as the reserved names are taken out. -/
structure Continues (flow : RefreshFlow) (userId : Uuid) (custom : Json.Members) (now : Instant)
    (x : IssuedToken) : Prop where
  since : 0 ≤ now.seconds
  issued : ∃ algorithm carried, Claims.Plain carried
    ∧ Claims.stripReserved carried = Claims.stripReserved custom
    ∧ flow.codec.issue algorithm x.tokenId userId carried now = .ok x

/-- What is read from such a token. -/
theorem Continues.exists_expiresAt (h : Continues flow userId custom now x) :
    ∃ expiresAt, now.add? flow.codec.span = some expiresAt
      ∧ TokenCodec.decode x.token
        = .ok ⟨some x.keyId, flow.codec.claimsFor x.tokenId userId custom now expiresAt⟩
      ∧ Compact.payloadClaims? x.token
        = some (flow.codec.claimsFor x.tokenId userId custom now expiresAt) := by
  obtain ⟨algorithm, carried, plain, same, issues⟩ := h.issued
  obtain ⟨within, -⟩ := TokenCodec.inRange_of_issue issues h.since
  obtain ⟨parts, reads⟩ := TokenCodec.reads_issued issues plain within
  obtain ⟨expiresAt, token, added, -, whole⟩ := TokenCodec.issue_eq_ok_iff.1 issues
  have key : x.keyId = algorithm.keyId := congrArg IssuedToken.keyId whole
  have owner : x.userId = userId := congrArg IssuedToken.userId whole
  have expiry : x.expiresAt = expiresAt := congrArg IssuedToken.expiresAt whole
  have content : flow.codec.claimsOf carried now x
      = flow.codec.claimsFor x.tokenId userId custom now expiresAt := by
    rw [TokenCodec.claimsOf, TokenCodec.claimsFor, same, owner, expiry, TokenCodec.claimsFor]
  refine ⟨expiresAt, added, ?_⟩
  rw [key, ← content]
  exact ⟨reads.decode_eq,
    Compact.payloadClaims?_eq_some_iff.2 ⟨parts, reads.split, reads.claims⟩⟩

theorem continues_of_issue (plain : Claims.Plain custom) (since : 0 ≤ m.now.seconds)
    (carries : FlowCall.Carries flow (.issue m userId custom) x) :
    Continues flow userId custom m.now x := by
  obtain ⟨algorithm, issues⟩ := carries
  exact ⟨since, algorithm, custom, plain, rfl, (TokenCodec.ids_of_issue issues).1 ▸ issues⟩

/-- What a token continues, its successor does: when the reserved names are taken out once more,
    there are none. -/
theorem Continues.renew {last : IssuedToken} (h : Continues flow userId custom now last)
    (since : 0 ≤ m.now.seconds) (carries : FlowCall.Carries flow (.renew m last.token) x) :
    Continues flow userId custom m.now x := by
  obtain ⟨expiresAt, -, -, payload⟩ := h.exists_expiresAt
  obtain ⟨_, owner, algorithm, payload', owned, issues⟩ := carries
  obtain rfl := Option.some.inj (payload.symm.trans payload')
  simp only [Claims.userId, TokenCodec.claimsFor, TokenCodec.identifier_toText] at owned
  obtain rfl := Except.ok.inj owned
  obtain ⟨_, carried, plain, same, -⟩ := h.issued
  refine ⟨since, algorithm, Claims.stripReserved custom, same ▸ plain.stripReserved,
    Claims.stripReserved_stripReserved custom, ?_⟩
  rw [(TokenCodec.ids_of_issue issues).1]
  exact issues

/-! ## Along a run -/

variable [DecidableEq ι] {w : World} {events : List (Event ι)} {i : ι}

/-- What a call hands out in a run is what it carries. -/
theorem carries_of_handed (handed : Handed ((start flow calls w).during events) i x) :
    (calls i).Carries flow x := by
  have ends : (((start flow calls w).during events).rest i).Always fun result =>
      ∀ x, (calls i).handed? (some result) = some x → (calls i).Carries flow x :=
    ends_during ((calls i).always_carries flow) fun _ _ _ _ _ _ _ => trivial
  rw [Handed, Race.result?] at handed
  cases rest : ((start flow calls w).during events).rest i with
  | done result =>
    rw [rest] at ends handed
    exact ends x handed
  | ask request next =>
    rw [rest, FlowCall.handed?_none] at handed
    simp at handed

theorem Session.continues (plain : Claims.Plain custom)
    (session : Session ((start flow calls w).during events) userId custom now x earlier) :
    Continues flow userId custom now x := by
  induction session with
  | begins i m x issues since handed =>
    have carries := carries_of_handed handed
    rw [issues] at carries
    exact continues_of_issue plain since carries
  | goesOn i m x before last earlier session renews since handed ih =>
    have carries := carries_of_handed handed
    rw [renews] at carries
    exact ih.renew since carries

/-- The identifier of a token tells how far its session has gone. -/
theorem Session.length_eq (plain : Claims.Plain custom)
    (session : Session ((start flow calls w).during events) userId custom now x earlier)
    (session' : Session ((start flow calls w).during events) userId custom now' y earlier')
    (same : x.tokenId = y.tokenId) : earlier.length = earlier'.length := by
  have unique := (matched_during flow calls w events).unique
  -- Two tokens of one identifier are of one call, which either begins a session or presents one
  -- token; the identifiers of what was presented agree again.
  induction session generalizing now' y earlier' with
  | begins i m x issues since handed =>
    cases session' with
    | begins => rfl
    | goesOn j m' y before last earlier session renews since' handed' =>
      obtain rfl := unique i j x y handed handed' same
      simp [issues] at renews
  | goesOn i m x before last earlier session renews since handed ih =>
    cases session' with
    | begins j m' y issues since' handed' =>
      obtain rfl := unique i j x y handed handed' same
      simp [issues] at renews
    | goesOn j m' y before' last' earlier' session' renews' since' handed' =>
      obtain rfl := unique i j x y handed handed' same
      obtain ⟨-, token⟩ := FlowCall.renew.inj (renews.symm.trans renews')
      obtain ⟨_, -, -, payload⟩ := (session.continues plain).exists_expiresAt
      obtain ⟨_, -, -, payload'⟩ := (session'.continues plain).exists_expiresAt
      rw [token, payload'] at payload
      have named := congrArg Claims.tokenId (Option.some.inj payload)
      rw [TokenCodec.tokenId_claimsFor, TokenCodec.tokenId_claimsFor] at named
      exact congrArg (· + 1) (ih session' (Uuid.toText_injective named).symm)

/-- Claims survive any number of renewals. In any run, however it goes and whatever keys are drawn,
    take any session that began with plain claims: from its last token the same claims are read, but
    for the reserved names, and the same user; the token has an identifier that no token of the
    session had before; and it expires in the second in which the lifetime is over that began when
    it was issued. -/
theorem claims_survive (flow : RefreshFlow) (calls : ι → FlowCall) (w : World)
    (events : List (Event ι)) (userId : Uuid) (custom : Json.Members)
    (plain : Claims.Plain custom) (now : Instant) (x : IssuedToken) (earlier : List IssuedToken)
    (session : Session ((start flow calls w).during events) userId custom now x earlier) :
    ∃ claims, TokenCodec.decode x.token = .ok ⟨some x.keyId, claims⟩
      ∧ claims.custom = Claims.stripReserved custom
      ∧ claims.subject = some userId.toText
      ∧ claims.tokenId = x.tokenId.toText
      ∧ (∀ y ∈ earlier, ∃ read, TokenCodec.decode y.token = .ok read
        ∧ read.claims.tokenId ≠ claims.tokenId)
      ∧ ∃ expiresAt, now.add? flow.codec.span = some expiresAt
        ∧ claims.expiresAt = expiresAt.seconds := by
  obtain ⟨expiresAt, added, decoded, -⟩ := (session.continues plain).exists_expiresAt
  refine ⟨_, decoded, rfl, rfl, rfl, fun y mem => ?_, expiresAt, added, rfl⟩
  obtain ⟨before, others, session', shorter⟩ := session.exists_of_mem mem
  obtain ⟨_, -, decoded', -⟩ := (session'.continues plain).exists_expiresAt
  refine ⟨_, decoded', fun same => ?_⟩
  rw [TokenCodec.tokenId_claimsFor, TokenCodec.tokenId_claimsFor] at same
  have lengths := session'.length_eq plain session (Uuid.toText_injective same)
  omega

/-- A user logs in with claims that try to set the expiry, and renews a minute later. -/
theorem role_survives_renewal :
    let custom : Json.Members := [("exp", .int 9), ("role", .string "admin")]
    let m : Moment := ⟨⟨60, 5⟩, .ofNat 3, 0⟩
    ∃ first second : IssuedToken,
      let calls : Bool → FlowCall
        | false => .issue ⟨⟨0, 0⟩, .ofNat 1, 0⟩ (.ofNat 2) custom
        | true => .renew m first.token
      let race := (start (.sharing []) calls (.withKey .zero .empty)).during
        (List.replicate 2 (.turn ⟨false, none, .none⟩)
          ++ List.replicate 4 (.turn ⟨true, none, .none⟩))
      Session race (.ofNat 2) custom m.now second [first]
        ∧ ∃ claims, TokenCodec.decode second.token = .ok ⟨some second.keyId, claims⟩
          ∧ claims.custom = [("role", .string "admin")] ∧ claims.expiresAt = 3660 := by
  intro custom m
  have plain : Claims.Plain custom := by
    refine ⟨⟨?_, ?_⟩, ?_⟩
    · change ["exp", "role"].Pairwise (· < ·)
      decide
    · exact ⟨⟨by decide, by decide⟩, trivial, trivial⟩
    · exact ⟨trivial, trivial, trivial⟩
  obtain ⟨first, issues, -, good⟩ := RefreshFlow.exists_first plain
  obtain ⟨-, -, presents⟩ := good m.now (by decide) .oneToken
  have can : (RefreshFlow.sharing []).CanRenew (.withKey .zero .oneToken) first.token m
      ⟨(RefreshFlow.sharing []).codec.claimsOf custom ⟨0, 0⟩ first, .ofNat 2, .ofNat 1⟩ := by
    exact ⟨presents, ⟨_, .head _, rfl⟩,
      fun key _ _ => RefreshFlow.exists_issue_sharing _ _ _ _ _ (by decide), rfl⟩
  obtain ⟨second, renewing⟩ := can.succeeds (by decide) rfl .none
  refine ⟨first, second, ?_⟩
  intro calls race
  obtain ⟨ended, ended', -⟩ : race.rest false = .done (.ok first)
      ∧ race.rest true = .done (.ok second) ∧ _ :=
    Race.during_one_after_other Bool.false_ne_true ((calls false).within_operation _)
      ((calls true).within_operation _) (RefreshFlow.run_issue_first issues)
      (Prod.ext renewing rfl)
  have handed : Handed race false first := by
    rw [Handed, Race.result?_eq_some_iff.2 ended]
    rfl
  have handed' : Handed race true second := by
    rw [Handed, Race.result?_eq_some_iff.2 ended']
    rfl
  have session : Session race (.ofNat 2) custom m.now second [first] :=
    .goesOn true m second ⟨0, 0⟩ first []
      (.begins false ⟨⟨0, 0⟩, .ofNat 1, 0⟩ first rfl (Int.le_refl 0) handed) rfl (by decide) handed'
  obtain ⟨claims, decoded, carried, -, -, -, expiresAt, added, same⟩ := claims_survive (.sharing [])
    calls (.withKey .zero .empty) _ (.ofNat 2) custom plain m.now second [first] session
  refine ⟨session, claims, decoded, carried, ?_⟩
  have anHour : m.now.add? (RefreshFlow.sharing []).codec.span = some ⟨3660, 5⟩ := by decide
  rw [same, Option.some.inj (added.symm.trans anHour)]

end FlowRace

end Latchkey
