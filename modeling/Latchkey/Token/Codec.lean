import Latchkey.Settings.Validation
import Latchkey.Token.Compact
import Latchkey.Token.Issued

set_option autoImplicit false

/-! # The token codec

Issues tokens of one issuer for one audience with a fixed lifetime, and verifies them. A token is
verified against the key that its header names, twice against a clock: the wall clock, and the
instant the caller gives, at which the second of expiry already counts as expired. Reading without
verifying serves to find that key and proves nothing. -/

namespace Latchkey

/-- The fixed part of the tokens that are issued. -/
structure TokenCodec where
  issuer : String
  audience : String
  /-- Seconds between issue and expiry. -/
  lifetime : Int
  lifetime_pos : 0 < lifetime
  lifetime_le : lifetime ≤ SettingsFault.maxLifetime
deriving DecidableEq

/-- What a token says of itself. -/
structure DecodedToken where
  keyId : Option String
  claims : Claims

namespace TokenCodec

/-- The codec of the settings, if the lifetime is in range. -/
def ofSettings (s : TokenSettings) : Except Error TokenCodec :=
  if h : 0 < s.refreshTokenTtl ∧ s.refreshTokenTtl ≤ SettingsFault.maxLifetime then
    .ok ⟨s.issuer, s.audience, s.refreshTokenTtl, h.1, h.2⟩
  else .error (.internal s!"refresh token ttl out of range: {s.refreshTokenTtl}s")

/-- The lifetime as a span. -/
def span (codec : TokenCodec) : Span :=
  ⟨codec.lifetime, 0⟩

/-- The claims of a new token. -/
def claimsFor (codec : TokenCodec) (tokenId userId : Uuid) (custom : Json.Members)
    (now expiresAt : Instant) : Claims :=
  ⟨codec.issuer, codec.audience, some userId.toText, now.seconds, expiresAt.seconds,
    tokenId.toText, Claims.stripReserved custom⟩

/-- Signs a token as of an instant. -/
def issue (codec : TokenCodec) (algorithm : KeyAlgorithm) (tokenId userId : Uuid)
    (custom : Json.Members) (now : Instant) : Except Error IssuedToken :=
  match now.add? codec.span with
  | none => .error (.internal ("token expiry overflows from " ++ now.toMessageText))
  | some expiresAt =>
    match Compact.write algorithm (codec.claimsFor tokenId userId custom now expiresAt) with
    | .error r => .error (.internal ("failed to sign token: " ++ r.message))
    | .ok token => .ok ⟨token, tokenId, algorithm.keyId, userId, expiresAt⟩

/-- What a rejected token is answered with. -/
def rejected {α : Type} (r : Rejection) : Except Error α :=
  .error (.verification r.toVerificationError)

/-- Verifies a token as of an instant and a second of the wall clock. -/
def verify (codec : TokenCodec) (algorithm : KeyAlgorithm) (token : String) (now : Instant)
    (second : Int) : Except Error Claims :=
  match Compact.readHeader token with
  | .error r => rejected r
  | .ok header =>
    if header.keyId ≠ some algorithm.keyId then
      .error (.malformed "kid header does not match the verification key")
    else
      match Compact.check algorithm codec.issuer codec.audience second token with
      | .error r => rejected r
      | .ok claims =>
        if claims.isExpiredAt now.seconds then .error (.verification .expired) else .ok claims

/-- Reads a token without verifying anything. -/
def decode (token : String) : Except Error DecodedToken :=
  match Compact.readHeader token with
  | .error r => rejected r
  | .ok header =>
    match Compact.secondPart? token with
    | none => .error (.malformed "token must have 3 parts separated by dots")
    | some part =>
      match Base64Url.decodeText part with
      | .error cause => .error (.malformed ("failed to decode payload: " ++ cause.message))
      | .ok bytes =>
        match Claims.parse? bytes with
        | none => .error (.malformed "failed to parse claims:")
        | some claims => .ok ⟨header.keyId, claims⟩

end TokenCodec

end Latchkey
