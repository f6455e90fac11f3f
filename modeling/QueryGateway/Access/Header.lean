import QueryGateway.Json.Record

/-!
Headers of tokens.

A header names the algorithm that its token is signed with.  Whatever else it holds is
only looked at to tell whether the header is well-formed.  So no token is checked against
a key that its header describes, but a header with a malformed one is malformed.  A key
has a family with fields of its own, and fields that keys of all families share.
-/

namespace QueryGateway.Access

/-! ## Keys -/

/-- The families of keys. -/
inductive KeyFamily where
  | ellipticCurve
  | rsa
  | octets
  | octetPair
deriving DecidableEq, Repr

namespace KeyFamily

def all : List KeyFamily := [.ellipticCurve, .rsa, .octets, .octetPair]

/-- The name in the field `kty`. -/
def name : KeyFamily → String
  | .ellipticCurve => "EC"
  | .rsa => "RSA"
  | .octets => "oct"
  | .octetPair => "OKP"

/-- Whether keys of the family name a curve, in the field `crv`. -/
def hasCurve : KeyFamily → Bool
  | .ellipticCurve => true
  | .octetPair => true
  | _ => false

/-- The names of the fields with the numbers of a key. -/
def numbers : KeyFamily → List String
  | .ellipticCurve => ["x", "y"]
  | .rsa => ["n", "e"]
  | .octets => ["k"]
  | .octetPair => ["x"]

end KeyFamily

/-- The curves that a key can name. -/
def curves : List String := ["P-256", "P-384", "P-521", "Ed25519"]

/-- The algorithms that a key can be meant for. -/
def keyAlgorithms : List String :=
  ["HS256", "HS384", "HS512", "ES256", "ES384", "RS256", "RS384", "RS512", "PS256", "PS384",
    "PS512", "EdDSA", "RSA1_5", "RSA-OAEP", "RSA-OAEP-256"]

/-- Whether a value names one of several alternatives. -/
def isChoiceOf (names : List String) (bare : Json.Source → Bool) (value : Json.Source) : Bool :=
  (value.choice? bare).any names.contains

/-- Whether entries describe a key of a family, apart from the fields that all share. -/
def isKeyOf (entries : List (Option String × Json.Source)) (family : KeyFamily) : Bool :=
  let curve := if family.hasCurve then ["crv"] else []
  let valueOf? (name : String) : Option Json.Source := Json.Source.valueOf? name entries
  Json.Source.areApart ("kty" :: curve ++ family.numbers) entries &&
    (valueOf? "kty").any (isChoiceOf [family.name] Json.Source.isNull) &&
    curve.all (fun name => (valueOf? name).any (isChoiceOf curves Json.Source.isNull)) &&
    family.numbers.all (fun name => ((valueOf? name).bind Json.Source.str?).isSome)

/-- Whether a value that stands for nothing else is left bare: null, or no field at all. -/
def isBare : Json.Source → Bool
  | .null => true
  | .obj [] => true
  | _ => false

/-- Whether the fields that keys of all families share are well-formed. -/
def sharedFieldsStand (entries : List (Option String × Json.Source)) : Bool :=
  let texts := ["use", "kid", "x5u", "x5t", "x5t#S256"]
  let lists := ["key_ops", "x5c"]
  let stands (name : String) (isRight : Json.Source → Bool) : Bool :=
    (Json.Source.valueOf? name entries).all fun value => value.isNull || isRight value
  Json.Source.areApart ("alg" :: texts ++ lists) entries &&
    stands "alg" (isChoiceOf keyAlgorithms isBare) &&
    texts.all (fun name => stands name fun value => value.str?.isSome) &&
    lists.all (fun name => stands name fun value => (value.listOf Json.Source.str?).isSome)

/-- Whether a value describes a key. -/
def isKey : Json.Source → Bool
  | .obj entries =>
    (Json.Source.obj entries).isSound && sharedFieldsStand entries &&
      KeyFamily.all.any (isKeyOf entries)
  | _ => false

/-! ## Headers -/

/-- The algorithms that a header can name. -/
def algorithms : List String :=
  ["HS256", "HS384", "HS512", "ES256", "ES384", "RS256", "RS384", "RS512", "PS256", "PS384",
    "PS512", "EdDSA"]

/-- The names of the fields of a header, in the order in which an array has them. -/
def headerNames : List String :=
  ["typ", "alg", "cty", "jku", "jwk", "kid", "x5u", "x5c", "x5t", "x5t#S256"]

/-- Whether a header has all fields, if it is written as an array. -/
def isComplete : Json.Source → Bool
  | .arr items => items.length == headerNames.length
  | _ => true

/-- The algorithm that a header names, if the header is well-formed. -/
def algorithm? (header : Json.Source) : Option String := do
  match ← header.record? headerNames with
  | [typ, algorithm, cty, jku, key, kid, x5u, chain, x5t, x5tS256] =>
    let texts := [typ, cty, jku, kid, x5u, x5t, x5tS256]
    let algorithm ← Json.Source.required (Json.Source.choice? Json.Source.isNull) algorithm
    let textsStand := texts.all fun text =>
      text.all fun value => value.isNull || value.str?.isSome
    let chainStands := chain.all fun value =>
      value.isNull || (value.listOf Json.Source.str?).isSome
    let keyStands := key.all fun value => value.isNull || isKey value
    if isComplete header && textsStand && chainStands && keyStands &&
        algorithms.contains algorithm then
      some algorithm
    else none
  | _ => none

end QueryGateway.Access
