import Standings.Proofs.Bearer
import Standings.Settings

/-!
# The key of an accepted environment

The secret under which tokens are signed has to be set, but it is taken as it is: its text may be
empty, or hold nothing but the quotation marks that are stripped from it. The key has no bytes then,
and a token that anyone signs with nothing is as good as one from those who know a secret. This file
says which environments have such a key.

## Key results

- `ServerSettings.secret_of_readWith`: where the secret comes from
- `Key.bytes_ofSecret_eq_nil_iff`: the secrets of which nothing is left
- `signing_key_empty_iff`: the environments with an empty key, and the tokens accepted under it
- `not_all_signing_keys_filled`: an environment with an empty key is accepted, and so is a token of
  a caller who knows no secret
-/

namespace Standings

open Access Calendar

/-! ## The secret of an environment -/

namespace ServerSettings

theorem require_eq_ok_iff {value : Option String} {name text : String} :
    require value name = .ok text ↔ value = some text := by
  cases value <;> simp [require]

/-- The secret is the text of the first of its two variables that is set, as it is. -/
theorem secret_of_readWith {places : String → Option Zone} {env : Environment}
    {settings : ServerSettings} (h : readWith places env = .ok settings) :
    (env "JWT_SECRET").or (env "SECRET_KEY") = some settings.jwtSecret := by
  -- Four steps, of which the second requires the secret.
  obtain ⟨databaseUrl, -, h⟩ := bind_eq_ok_iff.1 h
  obtain ⟨jwtSecret, hsecret, h⟩ := bind_eq_ok_iff.1 h
  obtain ⟨port, -, h⟩ := bind_eq_ok_iff.1 h
  obtain ⟨ranking, -, h⟩ := bind_eq_ok_iff.1 h
  obtain rfl : _ = settings := Except.ok.inj h
  exact require_eq_ok_iff.1 hsecret

end ServerSettings

namespace Access

/-! ## Secrets of which nothing is left -/

/-- Nothing is left of a text exactly if it holds nothing but what is stripped. -/
theorem strip_eq_nil_iff {c : Char} {text : List Char} :
    Text.strip (· = c) text = [] ↔ ∀ d ∈ text, d = c := by
  obtain ⟨⟨front, back, htext⟩, hhead, -⟩ := exists_strip_eq c text
  constructor
  · intro hnil d hd
    -- What is stripped off both ends is all there is.
    rw [htext, hnil, List.append_nil, List.replicate_append_replicate] at hd
    exact List.eq_of_mem_replicate hd
  · intro hall
    cases hstrip : Text.strip (· = c) text with
    | nil => rfl
    | cons d rest =>
      -- What is left does not start with the character.
      have hd : d = c := hall d (by rw [htext, hstrip]; simp)
      simp [hstrip, hd] at hhead

/-- A text holds nothing but quotation marks. -/
def holdsQuotesOnly (text : String) : Bool :=
  text.toList.all (· = '"')

theorem encode_eq_nil_iff {text : String} : Utf8.encode text = [] ↔ text = "" := by
  constructor
  · intro h
    have hdecode := Utf8.decode?_encode text
    rw [h] at hdecode
    exact (Option.some.inj hdecode).symm
  · rintro rfl
    rfl

/-- A secret makes an empty key exactly if it holds nothing but quotation marks. -/
theorem Key.bytes_ofSecret_eq_nil_iff {secret : String} :
    (ofSecret secret).bytes = [] ↔ holdsQuotesOnly secret := by
  rw [ofSecret, encode_eq_nil_iff, String.ofList_eq_empty_iff, strip_eq_nil_iff, holdsQuotesOnly,
    List.all_eq_true]
  simp only [decide_eq_true_eq]

end Access

/-- The key of an accepted environment is made of the text of the first secret that is set. It is
empty exactly if this text holds nothing but quotation marks, also if the other secret is fine, and
then the tokens accepted are those that are signed with nothing. -/
theorem signing_key_empty_iff {places : String → Option Zone} {env : Environment}
    {settings : ServerSettings} (hread : ServerSettings.readWith places env = .ok settings) :
    let key := Key.ofSecret settings.jwtSecret
    (env "JWT_SECRET").or (env "SECRET_KEY") = some settings.jwtSecret ∧
      (key.bytes = [] ↔ (env "JWT_SECRET").any holdsQuotesOnly ∨
        env "JWT_SECRET" = none ∧ (env "SECRET_KEY").any holdsQuotesOnly) ∧
      (key.bytes = [] → ∀ now token principal, key.verify now token = .ok principal ↔
        ∃ members, Token.Vouches ⟨[]⟩ now token members principal ∧ Token.IsPlain members) := by
  intro key
  have hsecret := ServerSettings.secret_of_readWith hread
  refine ⟨hsecret, ?_, fun hempty now token principal => ?_⟩
  · rw [Key.bytes_ofSecret_eq_nil_iff]
    cases hfirst : env "JWT_SECRET" with
    | some text =>
      obtain rfl : text = settings.jwtSecret := by simpa [hfirst] using hsecret
      simp
    | none =>
      have hsecond : env "SECRET_KEY" = some settings.jwtSecret := by simpa [hfirst] using hsecret
      simp [hsecond]
  · -- A key is nothing but its bytes.
    have hkey : key = ⟨[]⟩ := by rw [← hempty]
    rw [← hkey]
    exact Key.verify_eq_ok_iff

/-- Of a secret in quotation marks with nothing between them nothing is left, and the other secret
does not take its place. -/
theorem signing_key_empty_iff_quoted :
    let env : Environment := fun name =>
      [("DATABASE_URL", "postgres://localhost/leaderboard"), ("JWT_SECRET", "\"\""),
        ("SECRET_KEY", "unit-test-secret")].lookup name
    ∃ settings, ServerSettings.readWith Zone.ofName? env = .ok settings ∧
      (Key.ofSecret settings.jwtSecret).bytes = [] ∧
      ∀ now token principal,
        (Key.ofSecret settings.jwtSecret).verify now token = .ok principal ↔
          ∃ members, Token.Vouches ⟨[]⟩ now token members principal ∧ Token.IsPlain members := by
  intro env
  obtain ⟨settings, hread⟩ : ∃ settings, ServerSettings.readWith Zone.ofName? env = .ok settings :=
    ⟨_, rfl⟩
  obtain ⟨-, hempty, haccepted⟩ := signing_key_empty_iff hread
  have hnone := hempty.2 (.inl (by decide))
  exact ⟨settings, hread, hnone, haccepted hnone⟩

namespace Access.Sample

/-- What a stranger claims: to be somebody else who may do everything. -/
def strangerClaims : Claims := ⟨"42", ["*"], 4102444800⟩

/-- The token that a stranger makes of these claims and signs with nothing. -/
def strangerToken : String :=
  Token.issue ⟨[]⟩ header.write strangerClaims.toJson.write

end Access.Sample

/-- An environment with an empty secret is accepted, and under its key a token that a stranger has
signed with nothing. -/
theorem not_all_signing_keys_filled :
    let env : Environment := fun name =>
      [("DATABASE_URL", "postgres://localhost/leaderboard"), ("JWT_SECRET", "")].lookup name
    ∃ settings, ServerSettings.read env = .ok settings ∧
      (Key.ofSecret settings.jwtSecret).bytes = [] ∧
      (Key.ofSecret settings.jwtSecret).verify 1718474400 Sample.strangerToken =
        .ok ⟨"42", ["*"]⟩ := by
  intro env
  -- The stranger signs with the empty key, and so does the environment.
  refine ⟨_, rfl, rfl, ?_⟩
  have hheader : Json.parse? Sample.header.write = some Sample.header :=
    Json.parse?_write (by simp [Sample.header])
  have hclaims := Json.parse?_write Sample.strangerClaims.isLegible_toJson
  have halgorithm : Token.algorithm? Sample.header = some "HS256" := by decide
  have hlive : Sample.strangerClaims.IsLive 1718474400 := ⟨by decide, by decide⟩
  obtain ⟨members, hmembers, hplain, hin⟩ := Sample.strangerClaims.exists_members
  rw [Sample.strangerToken, hmembers]
  rw [hmembers] at hclaims
  exact Key.verify_of_vouches ⟨Sample.header, Sample.strangerClaims,
    Token.isSigned_issue ⟨[]⟩ hheader hclaims, halgorithm, hin, hlive, by decide, rfl⟩ hplain

end Standings
