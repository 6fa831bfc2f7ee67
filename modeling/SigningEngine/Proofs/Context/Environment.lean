import SigningEngine.Proofs.Run
import SigningEngine.Proofs.Settings
import SigningEngine.World

/-!
# The configuration that an environment describes

Four variables describe a configuration. Each is unset, or set to a text that denotes a value, or
else it offends; besides, a number of attempts may be zero. A configuration is described exactly if
no variable offends and the number is not zero, and then it has what the variables denote and the
defaults for the rest. Otherwise the first offence is reported, in the order of the variables, with
the zero behind them all, and a context is refused before its engine is called.

The main statement is `ofLookup_describes`.
-/

namespace SigningEngine

open Setting (Gives Offends IsCount IsNoCount IsWordFor IsNoWord flagWords)

/-- The words for a policy. -/
def RetryExhaustion.words : RetryExhaustion → List String
  | .fail => ["fail", "error"]
  | .invalidHandle => ["invalid-handle", "invalid_handle", "legacy"]

theorem RetryExhaustion.read_eq_ok_iff {text : String} {policy : RetryExhaustion} :
    read (Text.trim text) = .ok policy ↔ IsWordFor words text policy := by
  rw [Setting.isWordFor_iff, read]
  generalize Text.lower (Text.trim text) = word
  exact Setting.choice_eq_ok_iff words .fail .invalidHandle (by cases policy <;> simp) (by decide)

theorem RetryExhaustion.read_eq_error_iff {text : String} {e : ConfigError} :
    read (Text.trim text) = .error e ↔ IsNoWord words .unknownPolicy text e := by
  rw [Setting.isNoWord_iff, read]
  generalize Text.lower (Text.trim text) = word
  exact Setting.choice_eq_error_iff words .fail .invalidHandle
    fun policy => by cases policy <;> simp

namespace ContextConfig

/-- The variables that describe a configuration, in the order in which they are read. -/
def variableNames : List String :=
  ["ENGINE_MAX_FIPS_ATTEMPTS", "ENGINE_VALIDATE_LOCATION", "ENGINE_VALIDATE_VERSION",
    "ENGINE_ON_EXHAUSTED_RETRIES"]

section Variables

variable (lookup : Lookup)

def GivesAttempts : UInt32 → Prop :=
  Gives lookup "ENGINE_MAX_FIPS_ATTEMPTS" ({} : ContextConfig).maxFipsAttempts IsCount

def GivesLocation : Bool → Prop :=
  Gives lookup "ENGINE_VALIDATE_LOCATION" ({} : ContextConfig).validateLocation
    (IsWordFor flagWords)

def GivesVersion : Bool → Prop :=
  Gives lookup "ENGINE_VALIDATE_VERSION" ({} : ContextConfig).validateVersion
    (IsWordFor flagWords)

def GivesPolicy : RetryExhaustion → Prop :=
  Gives lookup "ENGINE_ON_EXHAUSTED_RETRIES" ({} : ContextConfig).onExhaustedRetries
    (IsWordFor RetryExhaustion.words)

/-- Each field is what its variable denotes, or the default. -/
structure Described (config : ContextConfig) : Prop where
  attempts : GivesAttempts lookup config.maxFipsAttempts
  location : GivesLocation lookup config.validateLocation
  version : GivesVersion lookup config.validateVersion
  policy : GivesPolicy lookup config.onExhaustedRetries

def flagError (name word : String) : ConfigError := .badFlag name (Text.lower word)

/-- The error is that of the first variable to offend, or of a zero if none does. -/
inductive FirstOffence : ConfigError → Prop
  | attempts {e : ConfigError} :
      Offends lookup "ENGINE_MAX_FIPS_ATTEMPTS" (IsNoCount "ENGINE_MAX_FIPS_ATTEMPTS") e →
      FirstOffence e
  | location {attempts : UInt32} {e : ConfigError} :
      GivesAttempts lookup attempts →
      Offends lookup "ENGINE_VALIDATE_LOCATION"
        (IsNoWord flagWords (flagError "ENGINE_VALIDATE_LOCATION")) e →
      FirstOffence e
  | version {attempts : UInt32} {location : Bool} {e : ConfigError} :
      GivesAttempts lookup attempts → GivesLocation lookup location →
      Offends lookup "ENGINE_VALIDATE_VERSION"
        (IsNoWord flagWords (flagError "ENGINE_VALIDATE_VERSION")) e →
      FirstOffence e
  | policy {attempts : UInt32} {location version : Bool} {e : ConfigError} :
      GivesAttempts lookup attempts → GivesLocation lookup location →
      GivesVersion lookup version →
      Offends lookup "ENGINE_ON_EXHAUSTED_RETRIES"
        (IsNoWord RetryExhaustion.words .unknownPolicy) e →
      FirstOffence e
  | zero {config : ContextConfig} :
      Described lookup config → config.maxFipsAttempts = 0 → FirstOffence .noAttempts

end Variables

variable {lookup : Lookup}

section Readers

variable {name : String}

theorem ofVariable_count {unset count : UInt32} :
    Setting.ofVariable lookup name unset Setting.readCount = .ok count ↔
      Gives lookup name unset IsCount count :=
  Setting.ofVariable_eq_ok_iff fun _ => Setting.readCount_eq_ok_iff

theorem ofVariable_flag {unset flag : Bool} :
    Setting.ofVariable lookup name unset Setting.readFlag = .ok flag ↔
      Gives lookup name unset (IsWordFor flagWords) flag :=
  Setting.ofVariable_eq_ok_iff fun _ => Setting.readFlag_eq_ok_iff

theorem ofVariable_policy {unset policy : RetryExhaustion} :
    (Setting.ofVariable lookup name unset fun _ value =>
      RetryExhaustion.read (Text.trim value)) = .ok policy ↔
      Gives lookup name unset (IsWordFor RetryExhaustion.words) policy :=
  Setting.ofVariable_eq_ok_iff fun _ => RetryExhaustion.read_eq_ok_iff

theorem ofVariable_no_count {unset : UInt32} {e : ConfigError} :
    Setting.ofVariable lookup name unset Setting.readCount = .error e ↔
      Offends lookup name (IsNoCount name) e :=
  Setting.ofVariable_eq_error_iff fun _ => Setting.readCount_eq_error_iff

theorem ofVariable_no_flag {unset : Bool} {e : ConfigError} :
    Setting.ofVariable lookup name unset Setting.readFlag = .error e ↔
      Offends lookup name (IsNoWord flagWords (flagError name)) e :=
  Setting.ofVariable_eq_error_iff fun _ => Setting.readFlag_eq_error_iff

theorem ofVariable_no_policy {unset : RetryExhaustion} {e : ConfigError} :
    (Setting.ofVariable lookup name unset fun _ value =>
      RetryExhaustion.read (Text.trim value)) = .error e ↔
      Offends lookup name (IsNoWord RetryExhaustion.words .unknownPolicy) e :=
  Setting.ofVariable_eq_error_iff fun _ => RetryExhaustion.read_eq_error_iff

end Readers

theorem validate_eq_ok_iff {config : ContextConfig} :
    config.validate = .ok () ↔ config.maxFipsAttempts ≠ 0 := by
  rw [validate]
  split
  next hzero => exact ⟨fun h => (by cases h), fun h => absurd hzero h⟩
  next hzero => exact ⟨fun _ => hzero, fun _ => rfl⟩

theorem validate_eq_error_iff {config : ContextConfig} {e : ConfigError} :
    config.validate = .error e ↔ config.maxFipsAttempts = 0 ∧ e = .noAttempts := by
  rw [validate]
  split
  next hzero => simp [hzero, eq_comm]
  next hzero => simp [hzero]

theorem ofLookup_eq_ok_iff {config : ContextConfig} :
    ofLookup lookup = .ok config ↔ Described lookup config ∧ config.maxFipsAttempts ≠ 0 := by
  simp only [ofLookup, bind_eq_ok_iff, ofVariable_count, ofVariable_flag, ofVariable_policy]
  constructor
  · rintro ⟨attempts, hattempts, location, hlocation, version, hversion, policy, hpolicy, ⟨⟩,
      hvalid, ⟨⟩⟩
    exact ⟨⟨hattempts, hlocation, hversion, hpolicy⟩, validate_eq_ok_iff.mp hvalid⟩
  · rintro ⟨⟨hattempts, hlocation, hversion, hpolicy⟩, hnonzero⟩
    exact ⟨_, hattempts, _, hlocation, _, hversion, _, hpolicy, (),
      validate_eq_ok_iff.mpr hnonzero, rfl⟩

theorem ofLookup_eq_error_iff {e : ConfigError} :
    ofLookup lookup = .error e ↔ FirstOffence lookup e := by
  simp only [ofLookup, bind_eq_error_iff, ofVariable_count, ofVariable_flag, ofVariable_policy,
    ofVariable_no_count, ofVariable_no_flag, ofVariable_no_policy]
  constructor
  · rintro (h | ⟨attempts, hattempts, h | ⟨location, hlocation, h | ⟨version, hversion,
      h | ⟨policy, hpolicy, h | ⟨-, -, ⟨⟩⟩⟩⟩⟩⟩)
    · exact .attempts h
    · exact .location hattempts h
    · exact .version hattempts hlocation h
    · exact .policy hattempts hlocation hversion h
    · obtain ⟨hzero, rfl⟩ := validate_eq_error_iff.mp h
      have hdescribed : Described lookup
          { maxFipsAttempts := attempts, validateLocation := location,
            validateVersion := version, onExhaustedRetries := policy } :=
        ⟨hattempts, hlocation, hversion, hpolicy⟩
      exact .zero hdescribed hzero
  · rintro (h | ⟨hattempts, h⟩ | ⟨hattempts, hlocation, h⟩ | ⟨hattempts, hlocation, hversion, h⟩ |
      ⟨hdescribed, hzero⟩)
    · exact .inl h
    · exact .inr ⟨_, hattempts, .inl h⟩
    · exact .inr ⟨_, hattempts, .inr ⟨_, hlocation, .inl h⟩⟩
    · exact .inr ⟨_, hattempts, .inr ⟨_, hlocation, .inr ⟨_, hversion, .inl h⟩⟩⟩
    · exact .inr ⟨_, hdescribed.attempts, .inr ⟨_, hdescribed.location,
        .inr ⟨_, hdescribed.version, .inr ⟨_, hdescribed.policy,
          .inl (validate_eq_error_iff.mpr ⟨hzero, rfl⟩)⟩⟩⟩⟩

/-- Nothing but the four variables matters. -/
theorem ofLookup_congr {other : Lookup} (h : ∀ name ∈ variableNames, other name = lookup name) :
    ofLookup other = ofLookup lookup := by
  simp only [variableNames, List.forall_mem_cons] at h
  obtain ⟨hattempts, hlocation, hversion, hpolicy, -⟩ := h
  simp only [ofLookup, Setting.ofVariable, hattempts, hlocation, hversion, hpolicy]

theorem createFromEnvironment_of_error {σ κ : Type} (boundary : Boundary σ κ) (fips : Bool)
    (run : Run σ) {e : ConfigError} (h : ofLookup lookup = .error e) :
    (Context.createFromEnvironment boundary fips lookup).outcome run =
      (.error (.error (.configuration e.message)), run) := by
  rw [Context.createFromEnvironment, h]
  rfl

/-- A configuration is described exactly as its grammar says. If none is, the error is that of the
first offence, and a context is refused with it before any call. The words for flags and policies
are told in any case of their letters, which are ASCII, and in no other spelling. -/
theorem ofLookup_describes {σ κ : Type} (boundary : Boundary σ κ) (fips : Bool) (lookup : Lookup)
    (run : Run σ) :
    (∀ other : Lookup, (∀ name ∈ variableNames, other name = lookup name) →
      ofLookup other = ofLookup lookup) ∧
    (∀ config, ofLookup lookup = .ok config ↔
      Described lookup config ∧ config.maxFipsAttempts ≠ 0) ∧
    (∀ e, ofLookup lookup = .error e ↔ FirstOffence lookup e) ∧
    (∀ e, FirstOffence lookup e →
      (Context.createFromEnvironment boundary fips lookup).outcome run =
        (.error (.error (.configuration e.message)), run)) ∧
    ∀ word,
      (∀ flag, Text.lower word ∈ flagWords flag ↔ Text.lowerAscii word ∈ flagWords flag) ∧
      ∀ policy : RetryExhaustion,
        Text.lower word ∈ policy.words ↔ Text.lowerAscii word ∈ policy.words := by
  refine ⟨fun other => ofLookup_congr, fun config => ofLookup_eq_ok_iff,
    fun e => ofLookup_eq_error_iff, fun e he => ?_, fun word => ⟨fun flag => ?_, fun policy => ?_⟩⟩
  · exact createFromEnvironment_of_error boundary fips run (ofLookup_eq_error_iff.mpr he)
  · exact Setting.lower_mem_iff (by cases flag <;> decide)
  · exact Setting.lower_mem_iff (by cases policy <;> decide)

/-- A policy that is no word for one is reported, though the number of attempts is zero. With the
policy unset and a number that is not zero the environment describes a configuration. -/
theorem ofLookup_describes_padded :
    let wrong : Lookup := fun name => [("ENGINE_MAX_FIPS_ATTEMPTS", "+0"),
      ("ENGINE_ON_EXHAUSTED_RETRIES", " Retry ")].lookup name
    let right : Lookup := fun name => [("ENGINE_MAX_FIPS_ATTEMPTS", "\t+0042\n"),
      ("ENGINE_VALIDATE_VERSION", " YeS\u3000")].lookup name
    FirstOffence wrong (.unknownPolicy "Retry") ∧
      (Context.createFromEnvironment (World.boundary 0) true wrong).outcome { state := {} } =
        (.error (.error (.configuration
          "Unknown retry exhaustion policy: Retry. Valid options: fail, invalid-handle")),
          { state := {} }) ∧
      Described right { maxFipsAttempts := 42, validateVersion := true } := by
  intro wrong right
  obtain ⟨-, -, herror, hrefused, -⟩ :=
    ofLookup_describes (World.boundary 0) true wrong { state := {} }
  obtain ⟨-, hok, -⟩ := ofLookup_describes (World.boundary 0) true right { state := {} }
  have hoffence : FirstOffence wrong (.unknownPolicy "Retry") :=
    (herror _).mp rfl
  exact ⟨hoffence, hrefused _ hoffence, ((hok _).mp rfl).1⟩

end ContextConfig

end SigningEngine
