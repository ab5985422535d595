import Standings.Proofs.Checks
import Standings.Settings

/-!
# What settings are accepted

The settings of rankings are read from five variables, of which only what stands between the blanks
at their ends counts. Seven checks are made on the way, in a fixed order: that what each variable
says can be read, that the default size of a page does not exceed the greatest, and that no two
zones are given. `Check.Passes` says what each check asks, without looking at how settings are read.

Reading is a chain of steps of which each makes some of the checks. `Makes` says that of a step, and
`Makes.bind` puts steps together: so the whole chain is opened once, step by step.

## Key results

- `Environment.optional_outcome`: a variable that may be absent is read or reported
- `RankingSettings.makes_readWith`: reading makes the seven checks and gives the values they passed
- `Page.Arguments.validate_default`: the default size may as well be asked for
- `RankingSettings.settings_accepted_exactly`: which settings are accepted, and why others are not
-/

namespace Standings

open Calendar

/-! ## Variables that may be absent -/

namespace Environment

/-- What a variable says without the blanks at its ends, if anything is left. -/
def given (env : Environment) (name : String) : Option (List Char) :=
  ((env name).map fun value => Text.trim value.toList).filter (· ≠ [])

variable {α : Type} {env : Environment} {name : String} {read : List Char → Option α}

/-- What is given comes from a value. -/
theorem exists_value_of_given {text : List Char} (h : env.given name = some text) :
    ∃ value, env name = some value ∧ Text.trim value.toList = text ∧ text ≠ [] := by
  simp only [given, Option.filter_eq_some_iff, Option.map_eq_some_iff, decide_eq_true_eq] at h
  obtain ⟨⟨value, hvalue, rfl⟩, hne⟩ := h
  exact ⟨value, hvalue, rfl, hne⟩

theorem optional_of_not_given (h : env.given name = none) : env.optional name read = .ok none := by
  rw [optional]
  cases hvalue : env name with
  | none => rfl
  | some value =>
    -- A blank value counts as none.
    have hblank : Text.trim value.toList = [] := by simpa [given, hvalue] using h
    exact if_pos hblank

theorem optional_of_read {text : List Char} {a : α} (h : env.given name = some text)
    (hread : read text = some a) : env.optional name read = .ok (some a) := by
  obtain ⟨value, hvalue, rfl, hne⟩ := exists_value_of_given h
  simp [optional, hvalue, hne, hread]

/-- A text that cannot be read is reported as it stands in the variable, with its blanks. -/
theorem optional_of_unreadable {text : List Char} (h : env.given name = some text)
    (hread : read text = none) :
    ∃ value, env name = some value ∧ env.optional name read = .error (.invalid name value) := by
  obtain ⟨value, hvalue, rfl, hne⟩ := exists_value_of_given h
  exact ⟨value, hvalue, by simp [optional, hvalue, hne, hread]⟩

/-- A variable that may be absent is read, or its value is reported. -/
theorem optional_outcome (env : Environment) (name : String) (read : List Char → Option α) :
    ((∀ text, env.given name = some text → ∃ a, read text = some a) ∧
      env.optional name read = .ok ((env.given name).bind read)) ∨
    (¬∀ text, env.given name = some text → ∃ a, read text = some a) ∧
      ∃ value, env name = some value ∧ env.optional name read = .error (.invalid name value) := by
  cases hgiven : env.given name with
  | none => exact .inl ⟨nofun, optional_of_not_given hgiven⟩
  | some text =>
    cases hread : read text with
    | some a =>
      refine .inl ⟨?_, ?_⟩
      · rintro _ ⟨⟩
        exact ⟨a, hread⟩
      · rw [optional_of_read hgiven hread, Option.bind_some, hread]
    | none =>
      -- The text that is given is the one that cannot be read.
      refine .inr ⟨fun h => ?_, optional_of_unreadable hgiven hread⟩
      obtain ⟨a, ha⟩ := h text rfl
      rw [hread] at ha
      cases ha

end Environment

namespace RankingSettings

/-! ## Checks -/

/-- The variables that say how rankings are computed. -/
inductive Variable where
  /-- Size of a page for which no size is asked. -/
  | defaultSize
  /-- Greatest size that may be asked for. -/
  | maxSize
  /-- The place whose clocks are kept. -/
  | timeZone
  /-- The offset that is kept in place of the clocks of a place. -/
  | utcOffset
  /-- How often a query of the ledgers is tried. -/
  | maxRetries
  deriving DecidableEq, Repr

namespace Variable

/-- The name of a variable in the environment. -/
def name : Variable → String
  | .defaultSize => "RANKING_DEFAULT_PAGE_SIZE"
  | .maxSize => "RANKING_MAX_PAGE_SIZE"
  | .timeZone => "RANKING_TIME_ZONE"
  | .utcOffset => "RANKING_UTC_OFFSET"
  | .maxRetries => "LEDGER_MAX_RETRIES"

/-- The type of what a variable says. -/
def Value : Variable → Type
  | .defaultSize => UInt64
  | .maxSize => UInt64
  | .timeZone => Zone
  | .utcOffset => Offset
  | .maxRetries => UInt8

/-- Reads a size of a page. -/
def readSize (text : List Char) : Option UInt64 :=
  (Decimal.readUInt64 text).toOption

/-- Reads how often a query is tried. -/
def readRetries (text : List Char) : Option UInt8 :=
  (Decimal.readUInt8 text).toOption

/-- Reads what a variable says. What names a place is up to the time zone database. -/
def read (places : String → Option Zone) : (v : Variable) → List Char → Option v.Value
  | .defaultSize, text => readSize text
  | .maxSize, text => readSize text
  | .timeZone, text => places (String.ofList text)
  | .utcOffset, text => Offset.parse? text
  | .maxRetries, text => readRetries text

/-- What a variable says in an environment, if it is given and can be read. -/
def valueIn (places : String → Option Zone) (v : Variable) (env : Environment) : Option v.Value :=
  (env.given v.name).bind (v.read places)

end Variable

/-- The default size of a page, which is 50 unless another is given. -/
def defaultSizeIn (env : Environment) : UInt64 :=
  ((env.given Variable.defaultSize.name).bind Variable.readSize).getD 50

/-- The greatest size of a page, which is 500 unless another is given. -/
def maxSizeIn (env : Environment) : UInt64 :=
  ((env.given Variable.maxSize.name).bind Variable.readSize).getD 500

/-- The zone of the place that is given, or else the offset that is given, or else the host's
zone. -/
def zoneIn (places : String → Option Zone) (env : Environment) : Zone :=
  ((Variable.timeZone.valueIn places env).or
    ((Variable.utcOffset.valueIn places env).map Zone.fixed)).getD Zone.hostLocal

/-- How often a query is tried, which is three times unless another number is given. -/
def maxRetriesIn (env : Environment) : UInt8 :=
  ((env.given Variable.maxRetries.name).bind Variable.readRetries).getD 3

/-- The settings that an environment asks for. -/
def askedIn (places : String → Option Zone) (env : Environment) : RankingSettings where
  zone := zoneIn places env
  limits := ⟨defaultSizeIn env, maxSizeIn env⟩
  ledgerMaxRetries := maxRetriesIn env

/-- The checks of the settings. -/
inductive Check where
  /-- What a variable says can be read. -/
  | reads (v : Variable)
  /-- The default size of a page does not exceed the greatest. -/
  | sizes
  /-- At most one zone is given. -/
  | oneZone
  deriving DecidableEq, Repr

namespace Check

/-- The checks in the order in which they are made. -/
def all : List Check :=
  [.reads .defaultSize, .reads .maxSize, .sizes, .reads .timeZone, .reads .utcOffset, .oneZone,
    .reads .maxRetries]

/-- What a check asks of an environment. -/
def Passes (places : String → Option Zone) (env : Environment) : Check → Prop
  | .reads v => ∀ text, env.given v.name = some text → ∃ value, v.read places text = some value
  | .sizes => defaultSizeIn env ≤ maxSizeIn env
  | .oneZone => env.given Variable.timeZone.name = none ∨ env.given Variable.utcOffset.name = none

instance (places : String → Option Zone) (env : Environment) (check : Check) :
    Decidable (check.Passes places env) :=
  match check with
  | .reads v =>
    decidable_of_iff ((env.given v.name).all fun text => (v.read places text).isSome) (by
      simp only [Option.all_eq_true, Option.isSome_iff_exists]
      rfl)
  | .sizes => inferInstanceAs (Decidable (defaultSizeIn env ≤ maxSizeIn env))
  | .oneZone => inferInstanceAs (Decidable (_ = none ∨ _ = none))

/-- What is reported of an environment that does not pass a check. -/
inductive Reports (env : Environment) : Check → SettingsError → Prop where
  | unreadable {v : Variable} {value : String} (hvalue : env v.name = some value) :
      Reports env (.reads v) (.invalid v.name value)
  | sizes : Reports env .sizes
      (.invalid Variable.defaultSize.name (Decimal.write (defaultSizeIn env).toNat))
  | zones : Reports env .oneZone (.conflict Variable.timeZone.name Variable.utcOffset.name)

/-- The environment does not pass this check but all that are made before it. -/
def IsFirstFailed (places : String → Option Zone) (env : Environment) (check : Check) : Prop :=
  ∃ before after, all = before ++ check :: after ∧
    (∀ earlier ∈ before, earlier.Passes places env) ∧ ¬check.Passes places env

end Check

/-! ## Steps that make checks -/

/-- A step makes these checks in this order: it gives `a` if all of them are passed, and otherwise
reports the first that is not. -/
inductive Makes {α : Type} (places : String → Option Zone) (env : Environment)
    (checks : List Check) (step : Except SettingsError α) (a : α) : Prop where
  | passed (hok : step = .ok a) (hpass : ∀ check ∈ checks, check.Passes places env)
  | failed {before after : List Check} {check : Check} {e : SettingsError}
      (hchecks : checks = before ++ check :: after)
      (hpass : ∀ earlier ∈ before, earlier.Passes places env)
      (hfail : ¬check.Passes places env) (herror : step = .error e) (hreports : check.Reports env e)

variable {α β : Type} {places : String → Option Zone} {env : Environment}
  {checks checks' : List Check}

theorem makes_pure (a : α) : Makes places env [] (pure a) a :=
  .passed rfl nofun

/-- One step after the other makes the checks of both. The second is only taken if the checks of the
first are passed. -/
theorem Makes.bind {step : Except SettingsError α} {next : α → Except SettingsError β} {a : α}
    {b : β} (h : Makes places env checks step a)
    (h' : (∀ check ∈ checks, check.Passes places env) → Makes places env checks' (next a) b) :
    Makes places env (checks ++ checks') (step >>= next) b := by
  cases h with
  | passed hok hpass =>
    subst hok
    cases h' hpass with
    | passed hok' hpass' =>
      -- A check is one of the first step or of the second.
      refine .passed hok' fun check hcheck => ?_
      exact (List.mem_append.1 hcheck).elim (hpass check) (hpass' check)
    | failed hchecks hpass' hfail herror hreports =>
      -- The checks of the first step come before the one that is not passed.
      subst hchecks
      refine .failed (List.append_assoc _ _ _).symm (fun earlier hearlier => ?_) hfail herror
        hreports
      exact (List.mem_append.1 hearlier).elim (hpass earlier) (hpass' earlier)
  | failed hchecks hpass hfail herror hreports =>
    -- The second step is not taken, and its checks stand behind the one that is not passed.
    subst hchecks herror
    exact .failed (List.append_assoc _ _ _) hpass hfail rfl hreports

theorem makes_optional (places : String → Option Zone) (env : Environment) (v : Variable) :
    Makes places env [.reads v] (env.optional v.name (v.read places)) (v.valueIn places env) := by
  rcases env.optional_outcome v.name (v.read places) with
    ⟨hread, hok⟩ | ⟨hnot, value, hvalue, herror⟩
  · refine .passed hok fun check hcheck => ?_
    rw [List.mem_singleton.1 hcheck]
    exact hread
  · -- No check is made before the only one.
    exact .failed (List.nil_append _).symm nofun hnot herror (.unreadable hvalue)

theorem makes_withDefault (places : String → Option Zone) (env : Environment) (v : Variable)
    (default : v.Value) :
    Makes places env [.reads v] (env.withDefault v.name (v.read places) default)
      ((v.valueIn places env).getD default) :=
  (makes_optional places env v).bind fun _ => makes_pure _

/-- A step that makes one check, and reports the same whenever it is not passed. -/
theorem makes_singleton {step : Except SettingsError α} {check : Check} {a : α}
    {e : SettingsError} (hpass : check.Passes places env → step = .ok a)
    (hfail : ¬check.Passes places env → step = .error e) (hreports : check.Reports env e) :
    Makes places env [check] step a := by
  by_cases h : check.Passes places env
  · exact .passed (hpass h) (by simpa using h)
  · exact .failed (List.nil_append _).symm nofun h (hfail h) hreports

/-! ## Reading -/

theorem makes_readLimits (places : String → Option Zone) (env : Environment) :
    Makes places env [.reads .defaultSize, .reads .maxSize, .sizes] (readLimits env)
      ⟨defaultSizeIn env, maxSizeIn env⟩ := by
  -- Both sizes are read before they are compared.
  refine (makes_withDefault places env .defaultSize (50 : UInt64)).bind fun _ =>
    (makes_withDefault places env .maxSize (500 : UInt64)).bind fun _ => ?_
  apply makes_singleton _ _ .sizes
  · intro hpass
    exact if_neg (UInt64.not_lt.2 hpass)
  · intro hfail
    exact if_pos (UInt64.not_le.1 hfail)

/-- A variable that can be read if it is given has a value exactly if it is given. -/
theorem valueIn_eq_none_iff {v : Variable} (h : (Check.reads v).Passes places env) :
    v.valueIn places env = none ↔ env.given v.name = none := by
  rw [Variable.valueIn, Option.bind_eq_none_iff]
  constructor
  · intro hnone
    rw [Option.eq_none_iff_forall_ne_some]
    intro text htext
    -- A text that is given could be read, so there would be a value.
    obtain ⟨value, hvalue⟩ := h text htext
    rw [hnone text htext] at hvalue
    cases hvalue
  · intro hnone text htext
    rw [hnone] at htext
    cases htext

theorem makes_readZone (places : String → Option Zone) (env : Environment) :
    Makes places env [.reads .timeZone, .reads .utcOffset, .oneZone] (readZone places env)
      (zoneIn places env) := by
  refine (makes_optional places env .timeZone).bind fun htime =>
    (makes_optional places env .utcOffset).bind fun hoffset => ?_
  -- Both can be read, so what is asked of the texts may be asked of the values.
  have hplace := valueIn_eq_none_iff (htime _ (.head _))
  have hshift := valueIn_eq_none_iff (hoffset _ (.head _))
  have hpasses : Check.oneZone.Passes places env ↔
      Variable.timeZone.valueIn places env = none ∨
        Variable.utcOffset.valueIn places env = none := by
    rw [hplace, hshift, Check.Passes]
  rw [zoneIn]
  apply makes_singleton _ _ .zones
  · intro hpass
    rcases hpasses.1 hpass with hnone | hnone <;> rw [hnone]
    · -- Of two zones at most one is there, and it is the one that is asked for.
      cases Variable.utcOffset.valueIn places env <;> rfl
    · cases Variable.timeZone.valueIn places env <;> rfl
  · intro hfail
    rw [hpasses, not_or] at hfail
    obtain ⟨zone, hzone⟩ := Option.ne_none_iff_exists'.1 hfail.1
    obtain ⟨offset, hoffset⟩ := Option.ne_none_iff_exists'.1 hfail.2
    rw [hzone, hoffset]
    rfl

/-- Reading makes all checks. -/
theorem makes_readWith (places : String → Option Zone) (env : Environment) :
    Makes places env Check.all (readWith places env) (askedIn places env) := by
  -- The limits, the zone and the number of tries, one after the other.
  have hretries := makes_withDefault places env .maxRetries (3 : UInt8)
  exact (makes_readLimits places env).bind fun _ => (makes_readZone places env).bind fun _ =>
    hretries.bind fun _ => makes_pure _

/-! ## What is accepted and what is reported -/

theorem Check.IsFirstFailed.failed {check : Check} (h : check.IsFirstFailed places env) :
    ¬check.Passes places env := by
  obtain ⟨-, -, -, -, hfail⟩ := h
  exact hfail

theorem Check.IsFirstFailed.unique {check other : Check} (h : check.IsFirstFailed places env)
    (h' : other.IsFirstFailed places env) : check = other := by
  obtain ⟨before, after, hall, hpass, hfail⟩ := h
  obtain ⟨before', after', hall', hpass', hfail'⟩ := h'
  rw [hall, List.append_eq_append_iff] at hall'
  -- Were one of them further behind, the other would be among the checks passed before it.
  rcases hall' with ⟨between, hbefore, htail⟩ | ⟨between, hbefore, htail⟩
  · rcases List.cons_eq_append_iff.1 htail with ⟨rfl, heq⟩ | ⟨rest, rfl, -⟩
    · exact (List.cons.inj heq).1.symm
    · exact absurd (hpass' check (by simp [hbefore])) hfail
  · rcases List.cons_eq_append_iff.1 htail with ⟨rfl, heq⟩ | ⟨rest, rfl, -⟩
    · exact (List.cons.inj heq).1
    · exact absurd (hpass other (by simp [hbefore])) hfail'

theorem Check.Reports.unique {check : Check} {e e' : SettingsError} (h : check.Reports env e)
    (h' : check.Reports env e') : e = e' := by
  cases h with
  | unreadable hvalue =>
    cases h' with
    | unreadable hvalue' => rw [Option.some.inj (hvalue.symm.trans hvalue')]
  | sizes => cases h'; rfl
  | zones => cases h'; rfl

/-- Settings are accepted as asked for and pass all checks, or are refused for the first that they
do not pass. -/
theorem readWith_outcome (places : String → Option Zone) (env : Environment) :
    (readWith places env = .ok (askedIn places env) ∧ ∀ check : Check, check.Passes places env) ∨
    ∃ (check : Check) (e : SettingsError), readWith places env = .error e ∧
      check.IsFirstFailed places env ∧ check.Reports env e := by
  cases makes_readWith places env with
  | passed hok hpass =>
    -- Every check there is has been made.
    refine .inl ⟨hok, fun check => hpass check ?_⟩
    rcases check with (_ | _ | _ | _ | _) | _ | _ <;> decide
  | failed hchecks hpass hfail herror hreports =>
    exact .inr ⟨_, _, herror, ⟨_, _, hchecks, hpass, hfail⟩, hreports⟩

/-! ## What does not matter -/

/-- Two environments give the same in the variables of the settings. -/
def Agree (env env' : Environment) : Prop :=
  ∀ v : Variable, env.given v.name = env'.given v.name

/-- Two environments are read with the same result, or with errors that only differ in what they
quote of a variable. -/
inductive ReadAlike (env env' : Environment) :
    Except SettingsError RankingSettings → Except SettingsError RankingSettings → Prop where
  | same (result : Except SettingsError RankingSettings) : ReadAlike env env' result result
  | quoted {v : Variable} {value value' : String} (hvalue : env v.name = some value)
      (hvalue' : env' v.name = some value') :
      ReadAlike env env' (.error (.invalid v.name value)) (.error (.invalid v.name value'))

section Agree

variable {env' : Environment} (h : Agree env env')

include h

theorem Agree.defaultSizeIn_eq : defaultSizeIn env = defaultSizeIn env' := by
  rw [defaultSizeIn, defaultSizeIn, h .defaultSize]

theorem Agree.askedIn_eq : askedIn places env = askedIn places env' := by
  simp only [askedIn, zoneIn, Variable.valueIn, maxSizeIn, maxRetriesIn, h.defaultSizeIn_eq,
    h .maxSize, h .timeZone, h .utcOffset, h .maxRetries]

theorem Agree.passes_iff (check : Check) :
    check.Passes places env ↔ check.Passes places env' := by
  cases check with
  | reads v => rw [Check.Passes, Check.Passes, h v]
  | sizes => simp only [Check.Passes, maxSizeIn, h.defaultSizeIn_eq, h .maxSize]
  | oneZone => rw [Check.Passes, Check.Passes, h .timeZone, h .utcOffset]

theorem Agree.isFirstFailed_iff (check : Check) :
    check.IsFirstFailed places env ↔ check.IsFirstFailed places env' := by
  simp only [Check.IsFirstFailed, h.passes_iff]

/-- Whatever does not change what is given changes nothing but what errors quote. -/
theorem Agree.readAlike (places : String → Option Zone) :
    ReadAlike env env' (readWith places env) (readWith places env') := by
  rcases readWith_outcome places env with ⟨hok, hpass⟩ | ⟨check, e, herror, hfirst, hreports⟩
  · rcases readWith_outcome places env' with ⟨hok', -⟩ | ⟨check', e', -, hfirst', -⟩
    · -- Neither refuses, and both ask for the same.
      rw [hok, hok', h.askedIn_eq]
      exact .same _
    · exact absurd ((h.passes_iff check').1 (hpass check')) hfirst'.failed
  · rcases readWith_outcome places env' with ⟨-, hpass'⟩ | ⟨check', e', herror', hfirst', hreports'⟩
    · exact absurd ((h.passes_iff check).2 (hpass' check)) hfirst.failed
    · -- Both refuse for the same check, and only what an unreadable variable holds may differ.
      obtain rfl := ((h.isFirstFailed_iff check).1 hfirst).unique hfirst'
      rw [herror, herror']
      cases hreports with
      | unreadable hvalue =>
        obtain ⟨hvalue'⟩ := hreports'
        exact .quoted hvalue hvalue'
      | sizes =>
        cases hreports'
        rw [h.defaultSizeIn_eq]
        exact .same _
      | zones =>
        cases hreports'
        exact .same _

end Agree

end RankingSettings

/-! ## Pages of the default size -/

/-- Where the default size is allowed, asking for it is as good as asking for no size. -/
theorem Page.Arguments.validate_default {args : Page.Arguments} {limits : Page.Limits} {n : Int64}
    (order : Direction) (hle : limits.defaultSize ≤ limits.maxSize) (hfirst : args.first = none)
    (hlast : args.last = none) (hn : n.toInt = limits.defaultSize.toNat) :
    args.validate order limits = { args with first := some n }.validate order limits := by
  rw [UInt64.le_iff_toNat_le] at hle
  have hadmits : limits.Admits n := ⟨by omega, by omega⟩
  -- A size that is allowed is the same number with a sign and without.
  have hcount : n.toUInt64 = limits.defaultSize := by
    have hnat := toNat_toUInt64_of_nonneg hadmits.1
    rw [← UInt64.toNat_inj]
    omega
  have hdefault : args.size limits = .ok ⟨.first, limits.defaultSize⟩ :=
    size_of_default fun side => by cases side <;> assumption
  have hasked : { args with first := some n }.size limits = .ok ⟨.first, limits.defaultSize⟩ := by
    simp only [size, hlast, Limits.accept_of_admits .first hadmits, hcount]
  simp only [validate, hdefault, hasked]

/-- The settings of rankings are accepted exactly if all checks are passed, and then they are what
is asked for. The default size is allowed then, so that asking for it is as good as asking for no
size. What is reported otherwise belongs to the first check that is not passed. Blanks at the ends
do not matter, and neither does a variable that is blank, except to what is quoted. All this holds
whatever places the time zone database knows. -/
theorem RankingSettings.settings_accepted_exactly (places : String → Option Zone)
    (env : Environment) :
    ((∃ settings, readWith places env = .ok settings) ↔ ∀ check : Check, check.Passes places env) ∧
    (∀ settings, readWith places env = .ok settings →
      settings = askedIn places env ∧
      settings.limits.defaultSize ≤ settings.limits.maxSize ∧
      ∀ (args : Page.Arguments) (order : Direction) (n : Int64),
        args.first = none → args.last = none → n.toInt = settings.limits.defaultSize.toNat →
        args.validate order settings.limits =
          { args with first := some n }.validate order settings.limits) ∧
    (∀ e, readWith places env = .error e ↔
      ∃ check : Check, check.IsFirstFailed places env ∧ check.Reports env e) ∧
    ∀ env', Agree env env' → ReadAlike env env' (readWith places env) (readWith places env') := by
  rcases readWith_outcome places env with ⟨hok, hpass⟩ | ⟨check, e, herror, hfirst, hreports⟩
  · refine ⟨⟨fun _ => hpass, fun _ => ⟨_, hok⟩⟩, ?_, ?_, fun env' h => h.readAlike places⟩
    · intro settings hread
      rw [hok, Except.ok.injEq] at hread
      subst hread
      refine ⟨rfl, hpass .sizes, fun args order n hfirst hlast hn => ?_⟩
      exact Page.Arguments.validate_default order (hpass .sizes) hfirst hlast hn
    · intro e
      rw [hok]
      refine ⟨nofun, ?_⟩
      rintro ⟨check, hfirst, -⟩
      exact absurd (hpass check) hfirst.failed
  · refine ⟨⟨?_, fun hpass => absurd (hpass check) hfirst.failed⟩, ?_, ?_,
      fun env' h => h.readAlike places⟩
    · rintro ⟨settings, hread⟩
      rw [herror] at hread
      cases hread
    · intro settings hread
      rw [herror] at hread
      cases hread
    · intro e'
      rw [herror, Except.error.injEq]
      constructor
      · rintro rfl
        exact ⟨check, hfirst, hreports⟩
      · rintro ⟨check', hfirst', hreports'⟩
        obtain rfl := hfirst.unique hfirst'
        exact hreports.unique hreports'

/-- The usual default size exceeds the greatest that is given, and this is reported and not the
offset that cannot be read. A size in blanks and a blank zone are as good as the size and no zone,
and 25 entries are what is asked for with no size. Two texts that only differ in blanks are reported
each as it is. -/
theorem RankingSettings.settings_accepted_exactly_blanks :
    let small : Environment := fun name =>
      [("RANKING_MAX_PAGE_SIZE", " 20"), ("RANKING_UTC_OFFSET", "noon")].lookup name
    let usable : Environment := fun name =>
      [("RANKING_DEFAULT_PAGE_SIZE", "\t25 "), ("RANKING_TIME_ZONE", " ")].lookup name
    let many : Environment := fun name => [("LEDGER_MAX_RETRIES", "many")].lookup name
    let blanks : Environment := fun name =>
      [("LEDGER_MAX_RETRIES", "many "), ("RANKING_MAX_PAGE_SIZE", "")].lookup name
    read small = .error (.invalid "RANKING_DEFAULT_PAGE_SIZE" "50") ∧
      (∃ settings, read usable = .ok settings ∧ settings.limits = ⟨25, 500⟩ ∧
        Page.Arguments.validate { before := some "?" } .descending settings.limits =
          Page.Arguments.validate { first := some 25, before := some "?" } .descending
            settings.limits) ∧
      ReadAlike many blanks (read many) (read blanks) := by
  intro small usable many blanks
  refine ⟨?_, ?_, ?_⟩
  · obtain ⟨-, -, hreported, -⟩ := settings_accepted_exactly Zone.ofName? small
    -- The sizes are compared before the offset is read.
    have hfirst : Check.sizes.IsFirstFailed Zone.ofName? small :=
      ⟨[.reads .defaultSize, .reads .maxSize], _, rfl, by decide +kernel, by decide +kernel⟩
    have hnumber : Decimal.write (defaultSizeIn small).toNat = "50" := by decide +kernel
    exact (hreported _).2 ⟨_, hfirst, hnumber ▸ .sizes⟩
  · obtain ⟨haccepted, hread, -, -⟩ := settings_accepted_exactly Zone.ofName? usable
    obtain ⟨settings, hok⟩ := haccepted.2 fun check => by
      rcases check with (_ | _ | _ | _ | _) | _ | _ <;> decide +kernel
    obtain ⟨rfl, -, hdefault⟩ := hread settings hok
    exact ⟨_, hok, by decide +kernel, hdefault _ _ 25 rfl rfl (by decide +kernel)⟩
  · obtain ⟨-, -, -, halike⟩ := settings_accepted_exactly Zone.ofName? many
    apply halike
    rintro (_ | _ | _ | _ | _) <;> decide +kernel

end Standings
