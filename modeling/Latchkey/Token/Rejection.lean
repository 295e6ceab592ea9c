import Latchkey.Bytes.Base64Url
import Latchkey.Error

set_option autoImplicit false

/-! # Rejections

Why a compact token cannot be written or does not pass its checks. Four of the causes are told to
the caller as such; every other one makes the token a malformed one. -/

namespace Latchkey

/-- Why a token cannot be signed or does not pass. -/
inductive Rejection
  | invalidToken
  | invalidSignature
  | invalidEcdsaKey
  | invalidRsaKey (reason : String)
  | rsaFailedSigning
  | invalidAlgorithmName
  | invalidKeyFormat
  | missingRequiredClaim (claim : String)
  | expiredSignature
  | invalidIssuer
  | invalidAudience
  | invalidSubject
  | immatureSignature
  | invalidAlgorithm
  | missingAlgorithm
  | base64 (cause : Base64Url.DecodeError)
  | json
deriving DecidableEq, Repr

namespace Rejection

/-- The wording of a rejection. -/
def message : Rejection → String
  | .invalidToken => "InvalidToken"
  | .invalidSignature => "InvalidSignature"
  | .invalidEcdsaKey => "InvalidEcdsaKey"
  | .invalidRsaKey reason => "RSA key invalid: " ++ reason
  | .rsaFailedSigning => "RsaFailedSigning"
  | .invalidAlgorithmName => "InvalidAlgorithmName"
  | .invalidKeyFormat => "InvalidKeyFormat"
  | .missingRequiredClaim claim => "Missing required claim: " ++ claim
  | .expiredSignature => "ExpiredSignature"
  | .invalidIssuer => "InvalidIssuer"
  | .invalidAudience => "InvalidAudience"
  | .invalidSubject => "InvalidSubject"
  | .immatureSignature => "ImmatureSignature"
  | .invalidAlgorithm => "InvalidAlgorithm"
  | .missingAlgorithm => "MissingAlgorithm"
  | .base64 cause => "Base64 error: " ++ cause.message
  | .json => "JSON error:"

/-- What a rejection means for the token that was presented. -/
def toVerificationError : Rejection → VerificationError
  | .expiredSignature => .expired
  | .invalidSignature => .badSignature
  | .invalidIssuer => .issuerMismatch
  | .invalidAudience => .audienceMismatch
  | r => .malformed r.message

end Rejection

end Latchkey
