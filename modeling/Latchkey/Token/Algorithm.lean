import Latchkey.Digest.Hmac
import Latchkey.Key.Signing
import Latchkey.Token.Rejection

set_option autoImplicit false

/-! # Signing algorithms

A key algorithm signs and checks under one of the registered algorithms with exactly one key, whose
identifier it knows. An algorithm takes keys of one family, and with a key of another one nothing is
signed or accepted. Ed25519 and the keyed digests are worked out here; RSA and the other curves stand
for whatever their keys do. -/

namespace Latchkey

/-- The algorithms that a token's header may name. -/
inductive AlgorithmName
  | HS256 | HS384 | HS512
  | ES256 | ES384
  | RS256 | RS384 | RS512
  | PS256 | PS384 | PS512
  | EdDSA
deriving DecidableEq, Repr

namespace AlgorithmName

/-- Every name. -/
def all : List AlgorithmName :=
  [.HS256, .HS384, .HS512, .ES256, .ES384, .RS256, .RS384, .RS512, .PS256, .PS384, .PS512, .EdDSA]

/-- The text of a name. -/
def toText : AlgorithmName → String
  | .HS256 => "HS256"
  | .HS384 => "HS384"
  | .HS512 => "HS512"
  | .ES256 => "ES256"
  | .ES384 => "ES384"
  | .RS256 => "RS256"
  | .RS384 => "RS384"
  | .RS512 => "RS512"
  | .PS256 => "PS256"
  | .PS384 => "PS384"
  | .PS512 => "PS512"
  | .EdDSA => "EdDSA"

/-- The name that a text writes. -/
def ofText? (text : String) : Option AlgorithmName :=
  all.find? fun name => name.toText = text

end AlgorithmName

/-! ## Keys -/

/-- The families of keys. -/
inductive KeyFamily
  | hmac | rsa | ec | ed
deriving DecidableEq, Repr

namespace AlgorithmName

/-- The family of the keys that an algorithm takes. -/
def family : AlgorithmName → KeyFamily
  | .HS256 | .HS384 | .HS512 => .hmac
  | .ES256 | .ES384 => .ec
  | .RS256 | .RS384 | .RS512 | .PS256 | .PS384 | .PS512 => .rsa
  | .EdDSA => .ed

/-- The keyed digest of an algorithm that takes a secret. -/
def code : AlgorithmName → Bytes → Bytes → Bytes
  | .HS384 => Hmac.sha384
  | .HS512 => Hmac.sha512
  | _ => Hmac.sha256

end AlgorithmName

/-- The half of a key that signs. An RSA key or one of another curve says under each algorithm how it
    signs, or why it cannot, which it finds out before it is given a message. -/
inductive SigningHalf
  | hmac (secret : Bytes)
  | ed (envelope : Bytes)
  | rsa (signer : AlgorithmName → Except Rejection (Bytes → Bytes))
  | ec (signer : AlgorithmName → Except Rejection (Bytes → Bytes))

/-- How a key signs under an algorithm, or why it cannot. -/
def SigningHalf.signer (half : SigningHalf) (name : AlgorithmName) :
    Except Rejection (Bytes → Bytes) :=
  match name.family, half with
  | .hmac, .hmac secret => .ok (name.code secret)
  | .ed, .ed envelope =>
    match Ed25519.openEnvelope? envelope with
    | some seed => .ok (Ed25519.sign seed)
    | none => .error .invalidEcdsaKey
  | .rsa, .rsa signer => signer name
  | .ec, .ec signer => signer name
  | _, _ => .error .invalidAlgorithm

/-- The half of a key that checks: a secret, an Ed25519 point, or what an RSA key or one of another
    curve says of a message and a signature under each algorithm. -/
inductive CheckingHalf
  | hmac (secret : Bytes)
  | ed (point : Bytes)
  | rsa (verifies : AlgorithmName → Bytes → Bytes → Bool)
  | ec (verifies : AlgorithmName → Bytes → Bytes → Bool)

/-- The family of a key. -/
def CheckingHalf.family : CheckingHalf → KeyFamily
  | .hmac _ => .hmac
  | .ed _ => .ed
  | .rsa _ => .rsa
  | .ec _ => .ec

/-! ## Algorithms with their keys -/

/-- A signer and checker for one key. -/
structure KeyAlgorithm where
  keyId : String
  /-- The name that headers carry. -/
  name : AlgorithmName
  signing : SigningHalf
  checking : CheckingHalf

namespace KeyAlgorithm

/-- Ed25519 with an envelope to sign with and a raw point to check with. -/
def edDsa (keyId : String) (envelope point : Bytes) : KeyAlgorithm :=
  ⟨keyId, .EdDSA, .ed envelope, .ed point⟩

/-- HMAC over SHA-256 with one secret. -/
def hs256 (keyId : String) (secret : Bytes) : KeyAlgorithm :=
  ⟨keyId, .HS256, .hmac secret, .hmac secret⟩

@[simp] theorem keyId_edDsa (keyId : String) (envelope point : Bytes) :
    (edDsa keyId envelope point).keyId = keyId := rfl

@[simp] theorem keyId_hs256 (keyId : String) (secret : Bytes) :
    (hs256 keyId secret).keyId = keyId := rfl

/-- The signature of a message, as it stands in a token. -/
def sign (a : KeyAlgorithm) (message : Bytes) : Except Rejection String :=
  (a.signing.signer a.name).map fun signer => Base64Url.encode (signer message)

/-- Decides on a signature that stands in a token as base64. -/
def judge (verifies : Bytes → Bool) (signature : String) : Except Rejection Bool :=
  match Base64Url.decodeText signature with
  | .ok bytes => .ok (verifies bytes)
  | .error cause => .error (.base64 cause)

/-- Whether a signature, as it stands in a token, is that of a message. A keyed digest is compared as
    text. -/
def accepts (a : KeyAlgorithm) (message : Bytes) (signature : String) : Except Rejection Bool :=
  match a.name.family, a.checking with
  | .hmac, .hmac secret => .ok (signature = Base64Url.encode (a.name.code secret message))
  | .ed, .ed point => judge (Ed25519.verify point message) signature
  | .rsa, .rsa verifies => judge (verifies a.name message) signature
  | .ec, .ec verifies => judge (verifies a.name message) signature
  | _, _ => .error .invalidAlgorithm

/-- The description of an algorithm, without its key. -/
def describe (a : KeyAlgorithm) : String :=
  Text.describedPartly "KeyAlgorithm" [("key_id", Text.quoted a.keyId),
    ("algorithm", a.name.toText)]

/-! ## Resolving stored keys -/

/-- How a stored key becomes an algorithm. -/
abbrev Resolver := SigningKey → Except Error KeyAlgorithm

/-- The Ed25519 algorithm of a stored key. The envelope is opened only when something is signed. -/
def edDsaOf : Resolver := fun key =>
  match Base64Url.decodeText key.material.privateKey with
  | .error cause => .error (.internal
      ("signing key " ++ key.id.toText ++ " has undecodable private key: " ++ cause.message))
  | .ok envelope =>
    match Base64Url.decodeText key.material.publicKey with
    | .error cause => .error (.internal ("signing key " ++ key.id.toText
        ++ " has invalid public key: " ++ (Rejection.base64 cause).message))
    | .ok point => .ok (.edDsa (SigningKey.keyId key) envelope point)

end KeyAlgorithm

end Latchkey
