import Standings.Access.Token
import Standings.Gateway.Refusal
import Standings.Proofs.Base64Url
import Standings.Proofs.Records

/-!
# What tokens are accepted

A token is accepted if it is a header and claims with the signature of both under the key of the
secret, the header names the one algorithm there is, and the claims say who bears the token and that
it is still good. `Token.Vouches` says this apart from the order of the checks, by the text of the
token, the bytes its letters spell, and the members of the object these bytes are.

There is one thing more. Members that are no claims of ours may be anything, except for three names
under which a reader of tokens expects something. They may not occur twice, and their values have to
be such that reading can go on behind them: `Token.IsPlain`. Without this a token that vouches for
somebody may still be refused, as `filled_start_refused` shows; a token whose claims are written by
the library always has it.

## Key results

- `Claims.ofJson?_object_eq_some_iff`, `Token.claims?_eq_some_iff`: the objects that are claims
- `Key.verify_eq_ok_iff`: the tokens that are accepted
- `tokens_accepted_exactly`: all other tokens are denied, and the tokens the library would issue are
  accepted
-/

namespace Standings.Access

open Json (Wording member?)

/-! ## Claims -/

namespace Claims

/-- What an object says of these claims: who bears the token, what they may do, which is nothing if
it is left out, and until when. Each is said once. -/
structure IsIn (claims : Claims) (members : List (Wording × Json)) : Prop where
  /-- Every name is a text. -/
  names : ∀ member ∈ members, member.1.text?.isSome
  /-- Who bears the token. -/
  subject : member? members "sub" = some (some (.text claims.subject))
  /-- What they may do. -/
  scopes : member? members "scopes" = some none ∧ claims.scopes = [] ∨
    member? members "scopes" = some (some (.array (claims.scopes.map .text)))
  /-- Until when. -/
  expiry : member? members "exp" = some (some (.integer claims.expiry.toInt))

/-- The claims that an object is read as. -/
theorem ofJson?_object_eq_some_iff {claims : Claims} {members : List (Wording × Json)} :
    ofJson? (.object members) = some claims ↔ claims.IsIn members := by
  -- Scopes may be left out, and null is not the same as leaving them out.
  have hscopes (field : Option Json) (scopes : List String) :
      Json.withDefault [] (Json.list? Json.text?) field = some scopes ↔
        field = none ∧ scopes = [] ∨ field = some (.array (scopes.map .text)) := by
    cases field with
    | none => simp [Json.withDefault, eq_comm]
    | some j => simp [Json.withDefault, Json.list?_eq_some_iff fun j s => Json.text?_eq_some_iff]
  constructor
  · intro h
    -- The three fields are looked up first and read then, so both steps are opened together.
    obtain ⟨fields, hfields, h⟩ := Option.bind_eq_some_iff.1 h
    simp only [Json.record?] at hfields
    split at hfields
    · next hnames =>
      simp only [fieldNames, List.mapM_cons, List.mapM_nil, bind, Option.bind_eq_some_iff,
        pure] at hfields
      obtain ⟨sub, hsub, -, ⟨scopes, hscope, -, ⟨exp, hexp, -, ⟨⟩, ⟨⟩⟩, ⟨⟩⟩, ⟨⟩⟩ := hfields
      simp only [bind, Option.bind_eq_some_iff, pure, Json.required] at h
      obtain ⟨subject, ⟨j, rfl, hsubject⟩, granted, hgranted, expiry, ⟨e, rfl, hexpiry⟩, ⟨⟩⟩ := h
      obtain rfl := Json.text?_eq_some_iff.1 hsubject
      obtain rfl := Json.int64?_eq_some_iff.1 hexpiry
      refine ⟨List.all_eq_true.1 hnames, hsub, ?_, hexp⟩
      rcases (hscopes scopes granted).1 hgranted with ⟨rfl, rfl⟩ | rfl
      · exact .inl ⟨hscope, rfl⟩
      · exact .inr hscope
    · cases hfields
  · -- Backwards there are two cases, by whether scopes are there.
    rintro ⟨hnames, hsubject, hscope, hexpiry⟩
    have hall : members.all (·.1.text?.isSome) := List.all_eq_true.2 hnames
    have hread {field : Option Json} (hfield : member? members "scopes" = some field)
        (hgranted : Json.withDefault [] (Json.list? Json.text?) field = some claims.scopes) :
        ofJson? (.object members) = some claims := by
      simp [ofJson?, Json.record?, hall, fieldNames, hsubject, hfield, hexpiry, Json.required,
        hgranted]
    rcases hscope with ⟨hnone, hempty⟩ | hsome
    · exact hread hnone ((hscopes _ _).2 (.inl ⟨rfl, hempty⟩))
    · exact hread hsome ((hscopes _ _).2 (.inr rfl))

/-- The claims are still good at a second: they have an expiry, and it is not past by more than the
leeway. -/
def IsLive (claims : Claims) (now : Int) : Prop :=
  0 ≤ claims.expiry ∧ now - leeway ≤ claims.expiry.toInt

theorem bearer_eq_ok_iff {claims : Claims} {now : Int} {principal : Principal} :
    claims.bearer now = .ok principal ↔
      claims.IsLive now ∧ claims.subject ≠ "" ∧ principal = ⟨claims.subject, claims.scopes⟩ := by
  -- Three checks, in the order in which they are made: the sign, the leeway and the name.
  unfold bearer IsLive
  split
  · next h => simp [Int64.not_le.2 h]
  · next hexpiry =>
    split
    · next h => simp [Int.not_le.2 h]
    · next hlive =>
      split
      · next h => simp [h]
      · next h => simp [Int64.not_lt.1 hexpiry, Int.not_lt.1 hlive, h, eq_comm]

end Claims

namespace Token

/-- What an object says besides its claims can be passed over. -/
structure IsPlain (members : List (Wording × Json)) : Prop where
  /-- Further claims occur once at most, with values from behind which reading can go on. -/
  further : ∀ name ∈ furtherNames, ∃ claim, member? members name = some claim ∧
    ∀ value ∈ claim, value.isSkippable
  /-- The instant from which the token is good is no list and no object with something in it. -/
  start : ∀ value, member? members "nbf" = some (some value) → ¬isFilled value

theorem claims?_eq_some_iff {j : Json} {claims : Claims} :
    claims? j = some claims ↔
      ∃ members, j = .object members ∧ IsPlain members ∧ claims.IsIn members := by
  have hany {claim : Option Json} :
      claim.any (!·.isSkippable) = false ↔ ∀ value ∈ claim, value.isSkippable := by
    cases claim <;> simp
  constructor
  · intro h
    match j, h with
    | .object members, h =>
      -- Each of the further names is looked up before anything is said about its value.
      simp only [claims?, furtherNames, List.mapM_cons, List.mapM_nil, bind,
        Option.bind_eq_some_iff, pure] at h
      obtain ⟨further, ⟨start, hstart, -, ⟨issuer, hissuer, -, ⟨audience, haudience, -, ⟨⟩, ⟨⟩⟩,
        ⟨⟩⟩, ⟨⟩⟩, h⟩ := h
      split at h
      · cases h
      · next hplain =>
        simp only [List.head?_cons, Option.bind_some, id_eq, List.any_cons, List.any_nil,
          Bool.or_false, Bool.not_eq_true, Bool.or_eq_false_iff, hany] at hplain
        obtain ⟨hfilled, hstartSkip, hissuerSkip, haudienceSkip⟩ := hplain
        refine ⟨members, rfl, ⟨?_, ?_⟩, Claims.ofJson?_object_eq_some_iff.1 h⟩
        · intro name hname
          simp only [furtherNames, List.mem_cons, List.not_mem_nil, or_false] at hname
          rcases hname with rfl | rfl | rfl
          · exact ⟨start, hstart, hstartSkip⟩
          · exact ⟨issuer, hissuer, hissuerSkip⟩
          · exact ⟨audience, haudience, haudienceSkip⟩
        · -- A name has one value, so it is the one that has been looked at.
          intro value hvalue
          obtain rfl : start = some value := Option.some.inj (hstart.symm.trans hvalue)
          simpa using hfilled
  · -- What is looked up under the three names stops nothing, so the claims are read.
    rintro ⟨members, rfl, ⟨hfurther, hstart⟩, hclaims⟩
    obtain ⟨start, hnbf, hstartSkip⟩ := hfurther "nbf" (by decide)
    obtain ⟨issuer, hiss, hissuerSkip⟩ := hfurther "iss" (by decide)
    obtain ⟨audience, haud, haudienceSkip⟩ := hfurther "aud" (by decide)
    have hfilled : start.any isFilled = false := by
      cases start with
      | none => rfl
      | some value => simpa using hstart value hnbf
    simp only [claims?, furtherNames, List.mapM_cons, List.mapM_nil, hnbf, hiss, haud, bind,
      Option.bind_some, pure, List.head?_cons, id_eq, List.any_cons, List.any_nil, hfilled,
      hany.2 hstartSkip, hany.2 hissuerSkip, hany.2 haudienceSkip, Bool.or_self]
    exact Claims.ofJson?_object_eq_some_iff.2 hclaims

/-! ## The text of a token -/

/-- A token is cut at its last two dots. -/
structure Splits (token : String) (header claims signature : List Char) : Prop where
  /-- The parts stand one behind the other. -/
  text : token.toList = header ++ '.' :: claims ++ '.' :: signature
  /-- No dot is left in the second part. -/
  claims : '.' ∉ claims
  /-- Nor is one in the third. -/
  signature : '.' ∉ signature

theorem parts?_eq_some_iff {token : String} {parts : Parts} :
    parts? token = some parts ↔ Splits token parts.header parts.claims parts.signature := by
  constructor
  · intro h
    simp only [parts?, bind, Option.bind_eq_some_iff, pure] at h
    -- The last dot is cut first, then the last one of what stands in front of it.
    obtain ⟨⟨signed, signature⟩, hsigned, ⟨header, claims⟩, hheader, ⟨⟩⟩ := h
    obtain ⟨htext, hsignature⟩ := Text.cutAtLast?_eq_some_iff.1 hsigned
    obtain ⟨hcut, hclaims⟩ := Text.cutAtLast?_eq_some_iff.1 hheader
    exact ⟨htext.trans (congrArg (· ++ '.' :: signature) hcut), hclaims, hsignature⟩
  · rintro ⟨htext, hclaims, hsignature⟩
    have hsigned := Text.cutAtLast?_eq_some_iff.2 ⟨htext, hsignature⟩
    have hheader : Text.cutAtLast? '.' (parts.header ++ '.' :: parts.claims) = some _ :=
      Text.cutAtLast?_eq_some_iff.2 ⟨rfl, hclaims⟩
    simp only [parts?, hsigned, hheader, bind, Option.bind_some, pure]

/-- A token holds a header and claims, signed under a key. -/
def IsSigned (key : Key) (token : String) (header claims : Json) : Prop :=
  ∃ h c s headerBytes claimsBytes, Splits token h c s ∧
    (Base64Url.Spells h headerBytes ∧ Json.ofBytes? headerBytes = some header) ∧
    (Base64Url.Spells c claimsBytes ∧ Json.ofBytes? claimsBytes = some claims) ∧
    s = Base64Url.encode (hmac key.bytes (Utf8.encode (String.ofList (h ++ '.' :: c))))

/-- A token vouches for a principal by the claims in an object. -/
def Vouches (key : Key) (now : Int) (token : String) (members : List (Wording × Json))
    (principal : Principal) : Prop :=
  ∃ (header : Json) (claims : Claims), IsSigned key token header (.object members) ∧
    algorithm? header = some "HS256" ∧ claims.IsIn members ∧ claims.IsLive now ∧
    claims.subject ≠ "" ∧ principal = ⟨claims.subject, claims.scopes⟩

end Token

/-! ## Checking a token -/

theorem decodePart_eq_ok_iff {part : List Char} {bytes : List UInt8} :
    decodePart part = .ok bytes ↔ Base64Url.Spells part bytes := by
  rw [← Base64Url.decode?_eq_some_iff, decodePart]
  cases Base64Url.decode? part <;> simp

theorem readPart_eq_ok_iff {α : Type} {read : Json → Option α} {bytes : List UInt8} {value : α} :
    readPart read bytes = .ok value ↔ ∃ j, Json.ofBytes? bytes = some j ∧ read j = some value := by
  rw [← Option.bind_eq_some_iff, readPart]
  cases (Json.ofBytes? bytes).bind read <;> simp

theorem bind_eq_ok_iff {ε α β : Type} {x : Except ε α} {f : α → Except ε β} {b : β} :
    x >>= f = .ok b ↔ ∃ a, x = .ok a ∧ f a = .ok b := by
  cases x <;> simp [bind, Except.bind]

namespace Key

variable {key : Key} {now : Int} {token : String} {principal : Principal}

/-- An accepted token vouches for its bearer, and says nothing else that matters. -/
theorem vouches_of_verify (h : key.verify now token = .ok principal) :
    ∃ members, Token.Vouches key now token members principal ∧ Token.IsPlain members := by
  cases hparts : Token.parts? token with
  | none =>
    rw [verify, hparts] at h
    cases h
  | some parts =>
    simp only [verify, hparts] at h
    -- The checks in their order: the header, its algorithm, the signature and only then the claims.
    obtain ⟨headerBytes, hheaderBytes, h⟩ := bind_eq_ok_iff.1 h
    obtain ⟨algorithm, hheader, h⟩ := bind_eq_ok_iff.1 h
    split at h
    · cases h
    · next halgorithm =>
      split at h
      · cases h
      · next hsignature =>
        obtain ⟨claimsBytes, hclaimsBytes, h⟩ := bind_eq_ok_iff.1 h
        obtain ⟨claims, hclaims, hbearer⟩ := bind_eq_ok_iff.1 h
        obtain ⟨header, hheader, hnames⟩ := readPart_eq_ok_iff.1 hheader
        obtain ⟨j, hj, hclaims⟩ := readPart_eq_ok_iff.1 hclaims
        obtain ⟨members, rfl, hplain, hin⟩ := Token.claims?_eq_some_iff.1 hclaims
        rw [Decidable.not_not] at halgorithm hsignature
        have hsigned : Token.IsSigned key token header (.object members) :=
          ⟨parts.header, parts.claims, parts.signature, headerBytes, claimsBytes,
            Token.parts?_eq_some_iff.1 hparts, ⟨decodePart_eq_ok_iff.1 hheaderBytes, hheader⟩,
            ⟨decodePart_eq_ok_iff.1 hclaimsBytes, hj⟩, hsignature⟩
        exact ⟨members, ⟨header, claims, hsigned, halgorithm ▸ hnames, hin,
          Claims.bearer_eq_ok_iff.1 hbearer⟩, hplain⟩

/-- What is answered to a signed token hangs on its claims alone. -/
theorem verify_of_isSigned {header claims : Json} (h : Token.IsSigned key token header claims)
    (halgorithm : Token.algorithm? header = some "HS256") (now : Int) :
    key.verify now token = (Token.claims? claims).elim (.error .notJson) (·.bearer now) := by
  -- The header and the signature pass their checks, so only the claims are left.
  obtain ⟨h, c, s, headerBytes, claimsBytes, hsplits, ⟨hletters, hheader⟩,
    ⟨hletters', hclaims⟩, hs⟩ := h
  have hparts : Token.parts? token = some ⟨h, c, s⟩ := Token.parts?_eq_some_iff.2 hsplits
  have hnames : readPart Token.algorithm? headerBytes = .ok "HS256" :=
    readPart_eq_ok_iff.2 ⟨header, hheader, halgorithm⟩
  have hsignature : s = key.sign (Token.Parts.signed ⟨h, c, s⟩) := hs
  simp only [verify, hparts, decodePart_eq_ok_iff.2 hletters, hnames,
    decodePart_eq_ok_iff.2 hletters', bind, Except.bind]
  rw [if_neg (not_not.2 rfl), if_neg (not_not.2 hsignature), readPart, hclaims, Option.bind_some]
  cases Token.claims? claims <;> rfl

/-- A token that vouches for somebody and says nothing else that matters is accepted. -/
theorem verify_of_vouches {members : List (Wording × Json)}
    (h : Token.Vouches key now token members principal) (hplain : Token.IsPlain members) :
    key.verify now token = .ok principal := by
  obtain ⟨header, claims, hsigned, halgorithm, hin, hgood⟩ := h
  have hclaims : Token.claims? (.object members) = some claims :=
    Token.claims?_eq_some_iff.2 ⟨members, rfl, hplain, hin⟩
  rw [verify_of_isSigned hsigned halgorithm, hclaims]
  exact Claims.bearer_eq_ok_iff.2 hgood

theorem verify_eq_ok_iff :
    key.verify now token = .ok principal ↔
      ∃ members, Token.Vouches key now token members principal ∧ Token.IsPlain members :=
  ⟨vouches_of_verify, fun ⟨_, h, hplain⟩ => verify_of_vouches h hplain⟩

end Key

/-! ## The key of a secret -/

/-- What is dropped in front of a text. -/
theorem exists_dropWhile_eq (c : Char) (text : List Char) :
    (∃ n, text = List.replicate n c ++ text.dropWhile (· = c)) ∧
      (text.dropWhile (· = c)).head? ≠ some c := by
  constructor
  · have hrun : text.takeWhile (· = c) = List.replicate (text.takeWhile (· = c)).length c :=
      List.eq_replicate_of_mem fun d hd => by
        simpa using List.all_eq_true.1 List.all_takeWhile d hd
    exact ⟨_, by rw [← hrun, List.takeWhile_append_dropWhile]⟩
  · intro h
    have hnot := List.head?_dropWhile_not (· = c) text
    simp [h] at hnot

/-- What is stripped from both ends of a text. -/
theorem exists_strip_eq (c : Char) (text : List Char) :
    (∃ front back,
      text = List.replicate front c ++ Text.strip (· = c) text ++ List.replicate back c) ∧
      (Text.strip (· = c) text).head? ≠ some c ∧ (Text.strip (· = c) text).getLast? ≠ some c := by
  obtain ⟨⟨front, hfront⟩, hhead⟩ := exists_dropWhile_eq c text
  obtain ⟨⟨back, hback⟩, hlast⟩ := exists_dropWhile_eq c (text.dropWhile (· = c)).reverse
  -- Stripping the end is dropping in front of the reversed text.
  have hmiddle : text.dropWhile (· = c) = Text.strip (· = c) text ++ List.replicate back c := by
    have hreverse := congrArg List.reverse hback
    rwa [List.reverse_reverse, List.reverse_append, List.reverse_replicate] at hreverse
  refine ⟨⟨front, back, ?_⟩, ?_, ?_⟩
  · rw [List.append_assoc, ← hmiddle, ← hfront]
  · -- Dropping at the end does not bring the character back to the front.
    rw [hmiddle] at hhead
    cases hstrip : Text.strip (· = c) text with
    | nil => simp
    | cons d rest => simpa [hstrip] using hhead
  · rw [Text.strip, List.getLast?_reverse]
    exact hlast

/-- A key consists of the bytes of a secret, without the quotation marks at both ends of it. -/
def Key.IsKeyOf (key : Key) (secret : String) : Prop :=
  ∃ bare : List Char,
    (∃ front back, secret.toList = List.replicate front '"' ++ bare ++ List.replicate back '"') ∧
    (bare.head? ≠ some '"' ∧ bare.getLast? ≠ some '"') ∧
    key.bytes = Utf8.encode (String.ofList bare)

theorem Key.isKeyOf_ofSecret (secret : String) : (ofSecret secret).IsKeyOf secret := by
  obtain ⟨hquotes, hends⟩ := exists_strip_eq '"' secret.toList
  exact ⟨_, hquotes, hends, rfl⟩

/-! ## Issued tokens -/

namespace Token

/-- The token of a header and claims: the letters of both, and of their signature. -/
def issue (key : Key) (header claims : String) : String :=
  let signed :=
    Base64Url.encode (Utf8.encode header) ++ '.' :: Base64Url.encode (Utf8.encode claims)
  let signature := Base64Url.encode (hmac key.bytes (Utf8.encode (String.ofList signed)))
  String.ofList (signed ++ '.' :: signature)

theorem dot_not_mem_encode (bytes : List UInt8) : '.' ∉ Base64Url.encode bytes := fun hdot =>
  absurd ((Base64Url.spells_encode bytes).mem_alphabet '.' hdot) (by decide)

theorem isSigned_issue (key : Key) {header claims : String} {headerValue claimsValue : Json}
    (hheader : Json.parse? header = some headerValue)
    (hclaims : Json.parse? claims = some claimsValue) :
    IsSigned key (issue key header claims) headerValue claimsValue := by
  -- The alphabet has no dot, so the token is cut where it was put together.
  refine ⟨_, _, _, Utf8.encode header, Utf8.encode claims,
    ⟨String.toList_ofList, dot_not_mem_encode _, dot_not_mem_encode _⟩,
    ⟨Base64Url.spells_encode _, ?_⟩, ⟨Base64Url.spells_encode _, ?_⟩, rfl⟩
  · rw [Json.ofBytes?_encode, hheader]
  · rw [Json.ofBytes?_encode, hclaims]

end Token

/-- The claims that the library writes are their object's, and the object says nothing else. -/
theorem Claims.exists_members (claims : Claims) :
    ∃ members, claims.toJson = .object members ∧ Token.IsPlain members ∧ claims.IsIn members := by
  refine ⟨_, rfl, ⟨fun name hname => ?_, ?_⟩, ofJson?_object_eq_some_iff.1 claims.ofJson?_toJson⟩
  · -- None of the further names is written.
    simp only [Token.furtherNames, List.mem_cons, List.not_mem_nil, or_false] at hname
    rcases hname with rfl | rfl | rfl <;> exact ⟨none, rfl, nofun⟩
  · intro value hvalue
    cases hvalue

/-! ## All tokens -/

/-- A token is accepted exactly if it vouches for its bearer under the key of the secret and what it
says besides can be passed over; every other token is refused as that of a caller who is not known.
The token that is issued for claims is accepted for what they say, as long as they are good. -/
theorem tokens_accepted_exactly (secret : String) (now : Int) :
    (Key.ofSecret secret).IsKeyOf secret ∧
    (∀ token principal, (Key.ofSecret secret).verify now token = .ok principal ↔
      ∃ members, Token.Vouches (Key.ofSecret secret) now token members principal ∧
        Token.IsPlain members) ∧
    (∀ token, (¬∃ principal members,
        Token.Vouches (Key.ofSecret secret) now token members principal ∧
          Token.IsPlain members) →
      ∃ denial, (Key.ofSecret secret).verify now token = .error denial ∧
        (Gateway.Refusal.ofDenial denial).kind = .unauthorized) ∧
    ∀ (header : String) (claims : Claims),
      (Json.parse? header).bind Token.algorithm? = some "HS256" → claims.IsLive now →
      claims.subject ≠ "" →
      (Key.ofSecret secret).verify now
          (Token.issue (Key.ofSecret secret) header claims.toJson.write) =
        .ok ⟨claims.subject, claims.scopes⟩ := by
  refine ⟨Key.isKeyOf_ofSecret secret, fun token principal => Key.verify_eq_ok_iff, ?_, ?_⟩
  · intro token hnone
    -- Every denial is answered with the same status.
    cases hverify : (Key.ofSecret secret).verify now token with
    | error denial => exact ⟨denial, rfl, rfl⟩
    | ok principal => exact absurd ⟨principal, Key.vouches_of_verify hverify⟩ hnone
  · intro header claims hheader hlive hsubject
    obtain ⟨headerValue, hparse, halgorithm⟩ := Option.bind_eq_some_iff.1 hheader
    obtain ⟨members, hmembers, hplain, hin⟩ := claims.exists_members
    -- The text of the claims is read back as their object.
    have hclaims := Json.parse?_write claims.isLegible_toJson
    rw [hmembers] at hclaims ⊢
    exact Key.verify_of_vouches ⟨headerValue, claims, Token.isSigned_issue _ hparse hclaims,
      halgorithm, hin, hlive, hsubject, rfl⟩ hplain

namespace Sample

/-- A quoted secret. -/
def secret : String := "\"unit-test-secret\""

/-- The claims of a bearer with awkward characters in the name. -/
def claims : Claims := ⟨"日本 \"x\"", ["ranking:read", "*"], 4102444800⟩

/-- A header with the algorithm. -/
def header : Json := .fields [("alg", .text "HS256")]

/-- An object of claims with a list for the instant from which the token is good. -/
def lateMembers : List (String × Json) :=
  [("sub", .text "42"), ("exp", .integer 4102444800), ("nbf", .array [.array []])]

/-- The token for these. -/
def lateToken : String :=
  "eyJhbGciOiJIUzI1NiJ9.eyJzdWIiOiI0MiIsImV4cCI6NDEwMjQ0NDgwMCwibmJmIjpbW11dfQ." ++
    "Ya5z5XRXNEYc1yHSQb-g8X3QpdA0M8v7cqB9K_gdH-I"

end Sample

/-- A token issued under a quoted secret is accepted, a minute after its expiry still. -/
theorem tokens_accepted_exactly_sample :
    (Json.parse? "\x7b\"typ\":\"JWT\",\"alg\":\"HS256\"\x7d").bind Token.algorithm? = some "HS256" ∧
      Sample.claims.IsLive 4102444860 ∧ Sample.claims.subject ≠ "" ∧
      (Key.ofSecret Sample.secret).verify 4102444860
          (Token.issue (Key.ofSecret Sample.secret) "\x7b\"typ\":\"JWT\",\"alg\":\"HS256\"\x7d"
            Sample.claims.toJson.write) =
        .ok ⟨"日本 \"x\"", ["ranking:read", "*"]⟩ := by
  have hheader : (Json.parse? "\x7b\"typ\":\"JWT\",\"alg\":\"HS256\"\x7d").bind Token.algorithm? =
      some "HS256" := by decide +kernel
  have hlive : Sample.claims.IsLive 4102444860 := ⟨by decide, by decide⟩
  have hsubject : Sample.claims.subject ≠ "" := by decide
  obtain ⟨-, -, -, hissued⟩ := tokens_accepted_exactly Sample.secret 4102444860
  exact ⟨hheader, hlive, hsubject, hissued _ Sample.claims hheader hlive hsubject⟩

/-- A token that vouches for its bearer is refused for what stands under a name that is no claim of
ours. -/
theorem filled_start_refused :
    Token.Vouches (Key.ofSecret Sample.secret) 1700000000 Sample.lateToken
        (Sample.lateMembers.map fun (name, value) => (.text name, value)) ⟨"42", []⟩ ∧
      (Key.ofSecret Sample.secret).verify 1700000000 Sample.lateToken = .error .notJson := by
  have htoken : Sample.lateToken = Token.issue (Key.ofSecret Sample.secret) Sample.header.write
      (Json.fields Sample.lateMembers).write := by decide +kernel
  have hheader : Json.parse? Sample.header.write = some Sample.header :=
    Json.parse?_write (by simp [Sample.header])
  -- The bytes of both parts need not be scanned, for they are what is written for these values.
  have hclaims : Json.parse? (Json.fields Sample.lateMembers).write =
      some (Json.fields Sample.lateMembers) :=
    Json.parse?_write (by simp [Sample.lateMembers])
  have hin : Claims.IsIn ⟨"42", [], 4102444800⟩
      (Sample.lateMembers.map fun (name, value) => (.text name, value)) :=
    Claims.ofJson?_object_eq_some_iff.1 (by decide)
  have halgorithm : Token.algorithm? Sample.header = some "HS256" := by decide
  have hnone : Token.claims? (Json.fields Sample.lateMembers) = none := rfl
  have hsigned := Token.isSigned_issue (Key.ofSecret Sample.secret) hheader hclaims
  rw [htoken]
  refine ⟨⟨Sample.header, _, hsigned, halgorithm, hin, ⟨by decide, by decide⟩, by decide, rfl⟩, ?_⟩
  rw [Key.verify_of_isSigned hsigned halgorithm, hnone]
  rfl

end Standings.Access
