import Latchkey.Bytes.Der
import Latchkey.Ed25519.Signature

set_option autoImplicit false

/-! # Private key envelopes

The envelope in which an Ed25519 seed is stored: a version, the algorithm's identifier, and the
seed as an octet string inside an octet string. Version 1 also carries the public point, which must
be the seed's own. -/

namespace Latchkey.Ed25519

/-- The identifier of the algorithm, as the contents of its sequence. -/
def algorithmIdentifier : Bytes := [0x06, 0x03, 0x2b, 0x65, 0x70]

/-- The bytes in front of the seed in a version 0 envelope. -/
def envelopeHead : Bytes :=
  [0x30, 0x2e, 0x02, 0x01, 0x00, 0x30, 0x05] ++ algorithmIdentifier ++ [0x04, 0x22, 0x04, 0x20]

/-- The version 0 envelope of a 32-byte seed. -/
def envelope (seed : Bytes) : Bytes :=
  envelopeHead ++ seed

/-- The tag of the optional attributes. -/
def attributesTag : UInt8 := 0xa0
/-- The tag of the public point. -/
def publicPointTag : UInt8 := 0x81
/-- The older tag of the public point, around a bit string of its own. -/
def wrappedPublicPointTag : UInt8 := 0xa1

/-- The public point at the head of the bytes, under either tag. -/
def publicPoint? (bytes : Bytes) : Option (Bytes × Bytes) :=
  match Der.next? bytes with
  | some ((tag, contents), rest) =>
    if tag = publicPointTag then (Der.wholeBits? contents).map (·, rest)
    else if tag = wrappedPublicPointTag then
      match Der.expect? Der.bitStringTag contents with
      | some (bits, []) => (Der.wholeBits? bits).map (·, rest)
      | _ => none
    else none
  | none => none

/-- What follows optional attributes. -/
def afterAttributes? (bytes : Bytes) : Option Bytes :=
  if bytes.head? = some attributesTag then (Der.expect? attributesTag bytes).map (·.2)
  else some bytes

/-- The seed inside an octet string of exactly 32 bytes. -/
def seedOf? (contents : Bytes) : Option Bytes :=
  match Der.expect? Der.octetStringTag contents with
  | some (seed, []) => if seed.length = 32 then some seed else none
  | _ => none

/-- The seed that an envelope holds, if the envelope is well formed and consistent. -/
def openEnvelope? (bytes : Bytes) : Option Bytes := do
  let (body, after) ← Der.expect? Der.sequenceTag bytes
  guard after.isEmpty
  let (version, body) ← Der.natural? body
  guard (version ≤ 1)
  let (algorithm, body) ← Der.expect? Der.sequenceTag body
  guard (algorithm = algorithmIdentifier)
  let (contents, body) ← Der.expect? Der.octetStringTag body
  let body ← afterAttributes? body
  let seed ← seedOf? contents
  if version = 0 then
    guard body.isEmpty
    return seed
  else
    let (point, rest) ← publicPoint? body
    guard rest.isEmpty
    guard (point = publicKey seed)
    return seed

end Latchkey.Ed25519
