import Latchkey.Text.Description
import Latchkey.Uuid

set_option autoImplicit false

/-! # Failures

What can go wrong when tokens are issued, exchanged or revoked, keys are kept, or tasks are
registered. Callers are told which rule was broken; only a failing store is worth a second try. -/

namespace Latchkey

/-- Why a presented token is not accepted. -/
inductive VerificationError
  | expired
  | badSignature
  | issuerMismatch
  | audienceMismatch
  | malformed (reason : String)
  | revoked
  | unknownToken
deriving DecidableEq, Repr

namespace VerificationError

/-- The stable label of a cause. -/
def label : VerificationError → String
  | .expired => "expired"
  | .badSignature => "bad_signature"
  | .issuerMismatch => "issuer_mismatch"
  | .audienceMismatch => "audience_mismatch"
  | .malformed _ => "malformed"
  | .revoked => "revoked"
  | .unknownToken => "unknown_token"

/-- The wording of a cause. -/
def message : VerificationError → String
  | .expired => "Token expired"
  | .badSignature => "Token signature verification failed"
  | .issuerMismatch => "Token issuer mismatch"
  | .audienceMismatch => "Token audience mismatch"
  | .malformed reason => "Malformed token: " ++ reason
  | .revoked => "Token revoked"
  | .unknownToken => "Unknown token"

/-- A cause as a description. -/
def describe : VerificationError → String
  | .expired => "Expired"
  | .badSignature => "BadSignature"
  | .issuerMismatch => "IssuerMismatch"
  | .audienceMismatch => "AudienceMismatch"
  | .malformed reason => Text.described "Malformed" [("reason", Text.quoted reason)]
  | .revoked => "Revoked"
  | .unknownToken => "UnknownToken"

end VerificationError

/-- A failure of an operation. -/
inductive Error
  /-- No key of the selection window can sign. -/
  | noUsableKey
  /-- The key that a token names is not in the pool. -/
  | noSuchKey (keyId : String)
  /-- A claim is missing or unusable. -/
  | invalidClaim (claim reason : String)
  /-- A token was refused. -/
  | verification (cause : VerificationError)
  /-- A task of this name is registered already. -/
  | duplicateTask (name : String)
  /-- The operation is never allowed. -/
  | unsupported (operation : String)
  /-- There is no such thing. -/
  | notFound (entity id : String)
  /-- A key could not be made. -/
  | keyGeneration (message : String)
  /-- A store failed. -/
  | storage (message : String)
  /-- Something that should not happen. -/
  | internal (message : String)
deriving DecidableEq, Repr

namespace Error

/-- The name of the kind of failure. -/
def kind : Error → String
  | .noUsableKey => "NoUsableKey"
  | .noSuchKey _ => "NoSuchKey"
  | .invalidClaim _ _ => "InvalidClaim"
  | .verification _ => "TokenVerification"
  | .duplicateTask _ => "DuplicateTaskName"
  | .unsupported _ => "UnsupportedOperation"
  | .notFound _ _ => "EntityNotFound"
  | .keyGeneration _ => "KeyGeneration"
  | .storage _ => "Storage"
  | .internal _ => "Internal"

/-- The wording of a failure. -/
def message : Error → String
  | .noUsableKey => "No usable signing key in the rotation window"
  | .noSuchKey keyId => "Signing key not found: " ++ keyId
  | .invalidClaim claim reason => "Invalid claim '" ++ claim ++ "': " ++ reason
  | .verification cause => cause.message
  | .duplicateTask name => "Task already registered: " ++ name
  | .unsupported operation => "Unsupported operation: " ++ operation
  | .notFound entity id => entity ++ " not found: " ++ id
  | .keyGeneration message => "Key generation failed: " ++ message
  | .storage message => "Storage error: " ++ message
  | .internal message => "Internal error: " ++ message

/-- Whether trying the whole operation again may succeed. -/
def isTransient : Error → Bool
  | .storage _ => true
  | _ => false

/-- The fields of a failure, by name. -/
def fields : Error → List (String × String)
  | .noUsableKey | .verification _ => []
  | .noSuchKey keyId => [("key_id", keyId)]
  | .invalidClaim claim reason => [("claim", claim), ("reason", reason)]
  | .duplicateTask name => [("name", name)]
  | .unsupported operation => [("operation", operation)]
  | .notFound entity id => [("entity", entity), ("id", id)]
  | .keyGeneration message | .storage message | .internal message => [("message", message)]

/-- A failure as a description. -/
def describe (e : Error) : String :=
  match e with
  | .noUsableKey => e.kind
  | .verification cause => e.kind ++ "(" ++ cause.describe ++ ")"
  | e => Text.described e.kind (e.fields.map fun (name, text) => (name, Text.quoted text))

/-- A token that does not have the form of a token. -/
def malformed (reason : String) : Error :=
  .verification (.malformed reason)

end Error

end Latchkey
