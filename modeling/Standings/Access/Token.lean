import Standings.Access.Scope
import Standings.Access.Sha256
import Standings.Json.Lapse
import Standings.Text.Base64Url
import Standings.Text.Blank
import Standings.Text.Utf8
import Standings.Wire

/-! # Bearer tokens

A token is three parts with dots between them: a header, claims and a signature, each in unpadded
URL-safe base64. The header names the algorithm, the claims say who bears the token and until
when, and the signature is the HMAC of the first two parts under the service's key.

`Key.verify` checks a token from left to right and reports the first fault: the parts, the header,
its algorithm, the signature, and only then what the claims say. The signature is compared as
text, so no second spelling of it is accepted. -/

namespace Standings

namespace Access

/-- What is wrong with a caller's credentials. -/
inductive Denial where
  /-- The request has no Authorization header. -/
  | missingHeader
  /-- The Authorization header holds no bearer token. -/
  | malformedHeader
  /-- The token does not have three parts. -/
  | malformedToken
  /-- A part of the token is not in base64. -/
  | notBase64
  /-- The header or the claims cannot be read. -/
  | notJson
  /-- The token is signed with an algorithm that is not accepted. -/
  | wrongAlgorithm
  /-- The signature is not that of the token under the key. -/
  | wrongSignature
  /-- The token has no expiry that can be checked. -/
  | missingExpiry
  /-- The token is void. -/
  | expired
  /-- The token does not say who bears it. -/
  | noSubject
  deriving DecidableEq, Repr

/-- The sentence that reports what is wrong. -/
def Denial.message : Denial → String
  | .missingHeader => "Missing Authorization header"
  | .malformedHeader => "Invalid Authorization header format, expected 'Bearer <token>'"
  | .malformedToken => "Invalid JWT token: InvalidToken"
  | .notBase64 => "Invalid JWT token: Base64 error"
  | .notJson => "Invalid JWT token: JSON error"
  | .wrongAlgorithm => "Invalid JWT token: InvalidAlgorithm"
  | .wrongSignature => "Invalid JWT token: InvalidSignature"
  | .missingExpiry => "Invalid JWT token: Missing required claim: exp"
  | .expired => "Invalid JWT token: ExpiredSignature"
  | .noSubject => "JWT has no subject"

/-- The word before a token in the Authorization header. -/
def scheme : List Char := "Bearer ".toList

/-- The token in an Authorization header: what follows the scheme, as it is. -/
def bearerToken (header : Option String) : Except Denial String :=
  match header with
  | none => .error .missingHeader
  | some value =>
    if scheme.isPrefixOf value.toList then .ok (String.ofList (value.toList.drop scheme.length))
    else .error .malformedHeader

namespace Token

/-- The three parts of a token and the text that is signed. -/
structure Parts where
  /-- The first part. Dots that are too many stand here. -/
  header : List Char
  /-- The second part. -/
  claims : List Char
  /-- The third part. -/
  signature : List Char
  deriving DecidableEq, Repr

/-- The text that is signed: the first two parts with the dot between them. -/
def Parts.signed (parts : Parts) : List Char :=
  parts.header ++ '.' :: parts.claims

/-- Cuts a token at its last two dots. -/
def parts? (token : String) : Option Parts := do
  let (signed, signature) ← Text.cutAtLast? '.' token.toList
  let (header, claims) ← Text.cutAtLast? '.' signed
  return ⟨header, claims, signature⟩

/-- The algorithms that a header may name. Only the first is accepted. -/
def algorithms : List String :=
  ["HS256", "HS384", "HS512", "ES256", "ES384", "RS256", "RS384", "RS512", "PS256", "PS384",
    "PS512", "EdDSA"]

/-- The fields of a header, in order. -/
def headerNames : List String :=
  ["typ", "alg", "cty", "jku", "jwk", "kid", "x5u", "x5c", "x5t", "x5t#S256"]

/-- The algorithms that a key in a header may be meant for. -/
def keyAlgorithms : List String := algorithms ++ ["RSA1_5", "RSA-OAEP", "RSA-OAEP-256"]

/-- The curves that a key in a header may lie on. -/
def curves : List String := ["P-256", "P-384", "P-521", "Ed25519"]

/-- The kinds of keys that a header may hold: the name of each, whether it has a curve, and the
names of its texts. -/
def keyKinds : List (String × Bool × List String) :=
  [("EC", true, ["x", "y"]), ("RSA", false, ["n", "e"]), ("oct", false, ["k"]),
    ("OKP", true, ["x"])]

/-- Reads one of several names for its own sake. -/
def oneOf? (names : List String) : Json → Option Unit :=
  Json.choice? (names.map fun name => (name, ()))

/-- Reads the algorithm that a key is meant for. Behind its name may also stand an empty object. -/
def keyAlgorithm? : Json → Option Unit
  | .object [(.text name, .object [])] => oneOf? keyAlgorithms (.text name)
  | j => oneOf? keyAlgorithms j

/-- The fields that keys of all kinds may have, and how they are read. -/
def keyFields : List (String × (Json → Option Unit)) :=
  let text (j : Json) : Option Unit := j.text?.map fun _ => ()
  let texts (j : Json) : Option Unit := (j.list? Json.text?).map fun _ => ()
  [("use", text), ("key_ops", texts), ("alg", keyAlgorithm?), ("kid", text), ("x5u", text),
    ("x5c", texts), ("x5t", text), ("x5t#S256", text)]

/-- Reads the fields of a key of some kind. -/
def keyOfKind? (members : List (Json.Wording × Json)) :
    String × Bool × List String → Option Unit
  | (kind, hasCurve, names) => do
    (Json.member? members "kty").bind (Json.required (oneOf? [kind]))
    if hasCurve then (Json.member? members "crv").bind (Json.required (oneOf? curves))
    names.forM fun name => do
      let _ ← (Json.member? members name).bind (Json.required Json.text?)

/-- Reads a key in a header: an object with the fields of its kind. All that the object holds has
to make sense, also what belongs to no field. -/
def key? (j : Json) : Option Unit :=
  match j with
  | .object members =>
    if j.isSound then do
      keyFields.forM fun (name, read) => do
        let _ ← Json.optional read (← Json.member? members name)
      keyKinds.findSome? (keyOfKind? members)
    else none
  | _ => none

/-- Reads a header: the algorithm it names. The other fields are read, but not used. -/
def algorithm? (j : Json) : Option String := do
  match ← j.record? headerNames with
  | [type, algorithm, content, keySet, key, keyId, url, chain, thumbprint, thumbprint256] =>
    let known := algorithms.map fun name => (name, name)
    let algorithm ← Json.required (Json.choice? known) algorithm
    let _ ← [type, content, keySet, keyId, url, thumbprint, thumbprint256].mapM
      (Json.optional Json.text?)
    let _ ← Json.optional key? key
    let _ ← Json.optional (Json.list? Json.text?) chain
    return algorithm
  | _ => none

/-- The names of further claims that a token may hold once each. They are not checked. -/
def furtherNames : List String := ["nbf", "iss", "aud"]

/-- Whether a value is a list or an object with something in it. -/
def isFilled : Json → Bool
  | .array (_ :: _) => true
  | .object (_ :: _) => true
  | _ => false

/-- Reads the claims of a token. They are an object. Further claims occur once at most and may be
anything from behind which reading can go on; the instant from which the token is good is also no
list and no object with something in it. -/
def claims? (j : Json) : Option Claims :=
  match j with
  | .object members => do
    let further ← furtherNames.mapM (Json.member? members)
    let start := further.head?.bind id
    if start.any isFilled || further.any fun claim => claim.any (!·.isSkippable) then none
    else Claims.ofJson? j
  | _ => none

end Token

/-- Reads a part of a token. -/
def decodePart (part : List Char) : Except Denial (List UInt8) :=
  match Base64Url.decode? part with
  | some bytes => .ok bytes
  | none => .error .notBase64

/-- Reads bytes that should be JSON. -/
def readPart (read : Json → Option α) (bytes : List UInt8) : Except Denial α :=
  match (Json.ofBytes? bytes).bind read with
  | some value => .ok value
  | none => .error .notJson

/-- Seconds for which a token is still good after its expiry, for clocks that differ. -/
def leeway : Int := 60

/-- The bearer of claims, if the claims are good at a second. The expiry is looked at first. -/
def Claims.bearer (claims : Claims) (now : Int) : Except Denial Principal :=
  if claims.expiry < 0 then .error .missingExpiry
  else if claims.expiry.toInt < now - leeway then .error .expired
  else if claims.subject = "" then .error .noSubject
  else .ok ⟨claims.subject, claims.scopes⟩

/-- A key under which tokens are signed. -/
structure Key where
  /-- The bytes of the key. -/
  bytes : List UInt8
  deriving DecidableEq, Repr

namespace Key

/-- The key of a secret text: its bytes, without the quotation marks around it. -/
def ofSecret (secret : String) : Key :=
  ⟨Utf8.encode (String.ofList (Text.strip (· = '"') secret.toList))⟩

/-- The signature of a text. -/
def sign (key : Key) (signed : List Char) : List Char :=
  Base64Url.encode (hmac key.bytes (Utf8.encode (String.ofList signed)))

/-- Checks a token at a second. -/
def verify (key : Key) (now : Int) (token : String) : Except Denial Principal := do
  let some parts := Token.parts? token | throw .malformedToken
  let header ← decodePart parts.header
  let algorithm ← readPart Token.algorithm? header
  if algorithm ≠ "HS256" then throw .wrongAlgorithm
  -- Nothing of the claims is read before the signature is found good.
  if parts.signature ≠ key.sign parts.signed then throw .wrongSignature
  let claims ← decodePart parts.claims
  let claims ← readPart Token.claims? claims
  claims.bearer now

end Key

end Access

end Standings
