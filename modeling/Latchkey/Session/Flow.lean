import Latchkey.Key.Window
import Latchkey.Token.Codec

set_option autoImplicit false

/-! # The refresh flow

Issuing starts a session, renewing exchanges its token for a new one, and revoking ends it. A token
is signed before the ledger is touched, and the ledger's own rotation decides which of several
renewals wins, so a renewal that fails leaves the ledger as it was. -/

namespace Latchkey

/-- What a flow needs to know. -/
structure RefreshFlow where
  codec : TokenCodec
  window : KeyWindow
  resolve : KeyAlgorithm.Resolver

/-- The moment of a call: the clock's reading, the identifier drawn for a new record, and the number
    drawn to pick a key. -/
structure Moment where
  now : Instant
  freshId : Uuid
  draw : Nat

/-- A token that passed verification and whose record is valid. -/
structure PresentedToken where
  claims : Claims
  userId : Uuid
  tokenId : Uuid

namespace RefreshFlow

/-- The flow of the settings. -/
def ofSettings (token : TokenSettings) (rotation : RotationSettings)
    (resolve : KeyAlgorithm.Resolver) : Except Error RefreshFlow :=
  (TokenCodec.ofSettings token).map fun codec => ⟨codec, .ofSettings rotation, resolve⟩

/-- The record of a token issued now. -/
def newRecord (flow : RefreshFlow) (m : Moment) (userId : Uuid) : LedgerRecord :=
  .issue m.freshId userId m.now flow.codec.span

/-- Picks a key and signs the token of a record. -/
def signFor (flow : RefreshFlow) (m : Moment) (record : LedgerRecord) (custom : Json.Members) :
    Operation IssuedToken := do
  let key ← flow.window.select m.draw
  let algorithm ← Operation.ofResult (flow.resolve key)
  Operation.ofResult (flow.codec.issue algorithm record.id record.userId custom m.now)

/-- Verifies a presented token with the key it names, and checks its record. Nothing is written. -/
def verifyPresented (flow : RefreshFlow) (now : Instant) (token : String) :
    Operation PresentedToken := do
  let decoded ← Operation.ofResult (TokenCodec.decode token)
  let some keyText := decoded.keyId | throw (.invalidClaim "kid" "missing")
  let keyId ← Operation.ofResult (Claims.identifier "kid" keyText)
  let some key ← Operation.signing (.read keyId) | throw (.noSuchKey keyText)
  let algorithm ← Operation.ofResult (flow.resolve key)
  let claims ← Operation.ofResult (flow.codec.verify algorithm token now now.seconds)
  let userId ← Operation.ofResult claims.userId
  let tokenId ← Operation.ofResult claims.recordId
  let some record ← Operation.ledger (.find tokenId) | throw (.verification .unknownToken)
  if record.userId ≠ userId then throw (.invalidClaim "sub" "does not own the token")
  if !record.isValid then throw (.verification .revoked)
  return ⟨claims, userId, tokenId⟩

/-- Issues the first token of a session. -/
def issue (flow : RefreshFlow) (m : Moment) (userId : Uuid) (custom : Json.Members) :
    Operation IssuedToken := do
  let record := flow.newRecord m userId
  let issued ← flow.signFor m record custom
  let _ ← Operation.ledger (.create record)
  return issued

/-- Exchanges a token for its successor. -/
def renew (flow : RefreshFlow) (m : Moment) (token : String) : Operation IssuedToken := do
  let presented ← flow.verifyPresented m.now token
  let successor := flow.newRecord m presented.userId
  let issued ← flow.signFor m successor presented.claims.custom
  let _ ← Operation.ledger (.rotate presented.tokenId successor)
  return issued

/-- Ends the session of a token; answers whether the token was still valid. -/
def revoke (flow : RefreshFlow) (now : Instant) (token : String) : Operation Bool := .mk <|
  (flow.verifyPresented now token).run.bind fun
    | .ok presented => Operation.ask (.ledger (.invalidate presented.tokenId))
    | .error (.verification .revoked) => .done (.ok false)
    | .error e => .done (.error e)

/-- Ends all sessions of a user; answers how many there were. -/
def revokeAll (userId : Uuid) : Operation Nat :=
  Operation.ledger (.invalidateAll userId)

end RefreshFlow

/-- How many valid records a user has. -/
def Operation.countValid (userId : Uuid) : Operation Nat := do
  let records ← Operation.ledger (.ofUser userId)
  return records.countP LedgerRecord.isValid

end Latchkey
