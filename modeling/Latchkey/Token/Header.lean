import Latchkey.Token.Algorithm

set_option autoImplicit false

/-! # Token headers

The first part of a token names the algorithm and the key. A header that is read may have every
registered member, each of its proper type; of these the algorithm and the key identifier are kept.
-/

namespace Latchkey

/-- What a token's header says. -/
structure Header where
  algorithm : AlgorithmName
  keyId : Option String
deriving DecidableEq, Repr

namespace Header

/-- The names of the registered members. -/
def fieldNames : List String :=
  ["typ", "alg", "cty", "jku", "jwk", "kid", "x5u", "x5c", "x5t", "x5t#S256"]

/-! ## Embedded keys -/

/-- Algorithms that an embedded key may be for. -/
def keyAlgorithmNames : List String :=
  AlgorithmName.all.map AlgorithmName.toText ++ ["RSA1_5", "RSA-OAEP", "RSA-OAEP-256"]

/-- Curves that an embedded key may be on. -/
def curveNames : List String := ["P-256", "P-384", "P-521", "Ed25519"]

/-- One of the given words. -/
def oneOf? (words : List String) (tree : Json.Tree) : Option String :=
  tree.text?.bind fun text => if words.contains text then some text else none

/-- Whether an object holds the members that a kind of key needs. -/
def hasKeyMembers (members : List (Bytes × Json.Tree))
    (needed : List (String × (Json.Tree → Option String))) : Bool :=
  match Json.objectFields? (needed.map (·.1)) members with
  | some fields => needed.all fun (name, read) => (Json.Fields.required? fields name read).isSome
  | none => false

/-- The kinds of keys: what has to stand beside the common members. -/
def keyKinds : List (List (String × (Json.Tree → Option String))) :=
  let text := Json.Tree.text?
  [[("kty", oneOf? ["EC"]), ("crv", oneOf? curveNames), ("x", text), ("y", text)],
    [("kty", oneOf? ["RSA"]), ("n", text), ("e", text)],
    [("kty", oneOf? ["oct"]), ("k", text)],
    [("kty", oneOf? ["OKP"]), ("crv", oneOf? curveNames), ("x", text)]]

/-- Reads an embedded key as far as to see that it is one. -/
def embeddedKey? : Json.Tree → Option Unit
  | .object members => do
    let common := ["use", "key_ops", "alg", "kid", "x5u", "x5c", "x5t", "x5t#S256"]
    let f ← Json.objectFields? common members
    let _ ← Json.Fields.optional? f "use" Json.Tree.text?
    let _ ← Json.Fields.optional? f "key_ops" (Json.Tree.list? Json.Tree.text?)
    let _ ← Json.Fields.optional? f "alg" (oneOf? keyAlgorithmNames)
    let _ ← Json.Fields.optional? f "kid" Json.Tree.text?
    let _ ← Json.Fields.optional? f "x5u" Json.Tree.text?
    let _ ← Json.Fields.optional? f "x5c" (Json.Tree.list? Json.Tree.text?)
    let _ ← Json.Fields.optional? f "x5t" Json.Tree.text?
    let _ ← Json.Fields.optional? f "x5t#S256" Json.Tree.text?
    guard (keyKinds.any (hasKeyMembers members))
  | _ => none

/-! ## Headers -/

/-- An algorithm: its name, or its name with nothing in it. -/
def algorithm? : Json.Tree → Option AlgorithmName
  | .string token => (Json.textOf? token).bind AlgorithmName.ofText?
  | .object [(key, .null)] => (Json.textOf? key).bind AlgorithmName.ofText?
  | _ => none

/-- The header that a tree writes. -/
def ofTree? (tree : Json.Tree) : Option Header := do
  let f ← Json.recordFields? fieldNames tree
  let _ ← Json.Fields.optional? f "typ" Json.Tree.text?
  let algorithm ← Json.Fields.required? f "alg" algorithm?
  let _ ← Json.Fields.optional? f "cty" Json.Tree.text?
  let _ ← Json.Fields.optional? f "jku" Json.Tree.text?
  let _ ← Json.Fields.optional? f "jwk" embeddedKey?
  let keyId ← Json.Fields.optional? f "kid" Json.Tree.text?
  let _ ← Json.Fields.optional? f "x5u" Json.Tree.text?
  let _ ← Json.Fields.optional? f "x5c" (Json.Tree.list? Json.Tree.text?)
  let _ ← Json.Fields.optional? f "x5t" Json.Tree.text?
  let _ ← Json.Fields.optional? f "x5t#S256" Json.Tree.text?
  return ⟨algorithm, keyId⟩

/-- The JSON text of the header of an issued token. -/
def render (algorithm : AlgorithmName) (keyId : String) : Bytes :=
  (Json.object [("typ", .string "JWT"), ("alg", .string algorithm.toText),
    ("kid", .string keyId)]).render

end Header

end Latchkey
