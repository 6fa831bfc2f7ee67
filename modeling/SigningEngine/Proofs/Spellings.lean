import SigningEngine.Proofs.Context.Environment
import SigningEngine.Proofs.Documents

/-!
# Environments that express a configuration

Every configuration of a software engine has environments that describe it, and so has every
configuration of contexts that allows an attempt. A word may be in any case of its letters, a count
may have a plus sign and zeros in front, and both may have blanks around them. Texts are taken as
they are.

The main statement is `environments_express`: the environments and the documents of a type describe
the same valid configurations.
-/

namespace SigningEngine

namespace Text

/-- The ASCII characters behind the space are not blank. -/
theorem not_isBlank_of_ascii {c : Char} (h : 0x21 ≤ c.toNat ∧ c.toNat < 0x80) :
    isBlank c = false := by
  rw [← Bool.not_eq_true, isBlank, CodeRanges.holds_iff]
  rintro ⟨range, hrange, hfirst, hlast⟩
  have hends : ∀ range ∈ blankRanges, range.2 < 0x21 ∨ 0x80 ≤ range.1 := by decide
  rcases hends range hrange with hend | hend <;> omega

theorem not_isBlank_of_isDigit {c : Char} (h : c.isDigit = true) : isBlank c = false := by
  have hcode : 48 ≤ c.toNat ∧ c.toNat ≤ 57 := by
    simpa [Char.isDigit, UInt32.le_iff_toNat_le] using h
  exact not_isBlank_of_ascii (by omega)

theorem toLower_of_isBlank {c : Char} (h : isBlank c = true) : c.toLower = c := by
  apply dif_neg
  rintro ⟨hfirst, hlast⟩
  have hfirst : 65 ≤ c.toNat := hfirst
  have hlast : c.toNat ≤ 90 := hlast
  rw [not_isBlank_of_ascii (by omega)] at h
  cases h

/-- No case of the letters of a word without blanks has blanks. -/
theorem not_isBlank_of_lowerAscii {cased word : String}
    (hword : word.toList.all (! isBlank ·) = true) (h : lowerAscii cased = word) :
    ∀ c ∈ cased.toList, isBlank c = false := by
  intro c hc
  cases hblank : isBlank c with
  | false => rfl
  | true =>
      have hmem : c ∈ word.toList := by
        rw [← h, lowerAscii, String.toList_ofList, List.mem_map]
        exact ⟨c, hc, toLower_of_isBlank hblank⟩
      have hnot := List.all_eq_true.mp hword c hmem
      rw [hblank] at hnot
      cases hnot

end Text

namespace Setting

/-- The word in any case of its letters, with blanks around it. -/
def SpellsWord (word text : String) : Prop :=
  ∃ cased, Text.Pads text cased ∧ Text.lowerAscii cased = word

def SpellsFlag (flag : Bool) (text : String) : Prop := ∃ word ∈ flagWords flag, SpellsWord word text

/-- The count in decimal, behind a plus sign or none and any number of zeros, with blanks around
it. -/
def SpellsCount (count : UInt32) (text : String) : Prop :=
  ∃ (sign : List Char) (zeros : Nat), (sign = [] ∨ sign = ['+']) ∧
    Text.Pads text
      (String.ofList (sign ++ (List.replicate zeros '0' ++ (toString count.toNat).toList)))

theorem isWordFor_of_spellsWord {α : Type} {words : α → List String} {value : α}
    {word text : String} (hplain : (words value).all (·.toList.all Text.isPlain) = true)
    (hblank : word.toList.all (! Text.isBlank ·) = true) (hword : word ∈ words value)
    (h : SpellsWord word text) : IsWordFor words text value := by
  obtain ⟨cased, hpads, rfl⟩ := h
  exact ⟨cased, ⟨hpads, Text.isTrimmed_of_all (Text.not_isBlank_of_lowerAscii hblank rfl)⟩,
    (lower_mem_iff hplain).mpr hword⟩

theorem isWordFor_of_spellsFlag {flag : Bool} {text : String} (h : SpellsFlag flag text) :
    IsWordFor flagWords text flag := by
  obtain ⟨word, hword, hspells⟩ := h
  have hplain : (flagWords flag).all (·.toList.all Text.isPlain) = true := by
    cases flag <;> decide
  have hblank : ∀ word ∈ flagWords flag, word.toList.all (! Text.isBlank ·) = true := by
    cases flag <;> decide
  exact isWordFor_of_spellsWord hplain (hblank word hword) hword hspells

theorem decimalFrom_zeros (zeros n : Nat) :
    Text.decimalFrom 0 (List.replicate zeros '0' ++ Nat.toDigits 10 n) = n := by
  have hzeros : Text.decimalFrom 0 (List.replicate zeros '0') = 0 := by
    rw [Text.decimalFrom, Nat.ofDigitChars_replicate_zero, Nat.mul_zero]
  rw [Text.decimalFrom_append, hzeros]
  exact Nat.ofDigitChars_ten_toDigits

theorem isCount_of_spellsCount {count : UInt32} {text : String} (h : SpellsCount count text) :
    IsCount text count := by
  obtain ⟨sign, zeros, hsign, hpads⟩ := h
  rw [Nat.toString_eq_ofList_toDigits, String.toList_ofList] at hpads
  let digits := List.replicate zeros '0' ++ Nat.toDigits 10 count.toNat
  have hdigits : ∀ c ∈ digits, c.isDigit = true := by
    intro c hc
    rcases List.mem_append.mp hc with hzero | hdigit
    · rw [List.eq_of_mem_replicate hzero]
      rfl
    · exact Nat.isDigit_of_mem_toDigits (by decide) (by decide) hdigit
  have hblank : ∀ c ∈ (String.ofList (sign ++ digits)).toList, Text.isBlank c = false := by
    intro c hc
    rw [String.toList_ofList, List.mem_append] at hc
    rcases hc with hc | hc
    · rcases hsign with rfl | rfl
      · cases hc
      · rw [List.mem_singleton.mp hc]
        decide
    · exact Text.not_isBlank_of_isDigit (hdigits c hc)
  refine ⟨_, ⟨hpads, Text.isTrimmed_of_all hblank⟩, digits, ?_, ?_, List.all_eq_true.mpr hdigits,
    decimalFrom_zeros zeros count.toNat⟩
  · rw [String.toList_ofList]
    rcases hsign with rfl | rfl
    · exact .inl rfl
    · exact .inr rfl
  · exact List.append_ne_nil_of_right_ne_nil _ Nat.toDigits_ne_nil

theorem gives_of_spells {α : Type} {lookup : Lookup} {name : String} {unset value : α}
    {spells : String → Prop} {denotes : String → α → Prop}
    (hdenotes : ∀ text, spells text → denotes text value)
    (h : ∃ text, lookup name = some text ∧ spells text) :
    Gives lookup name unset denotes value := by
  obtain ⟨text, hlookup, hspells⟩ := h
  exact .inr ⟨text, hlookup, hdenotes text hspells⟩

theorem spellsWord_self {word : String} (h : Text.lowerAscii word = word) :
    SpellsWord word word :=
  ⟨word, Text.pads_self word, h⟩

theorem exists_spellsFlag (flag : Bool) : ∃ text, SpellsFlag flag text := by
  cases flag with
  | true => exact ⟨"true", "true", by decide, spellsWord_self (by decide)⟩
  | false => exact ⟨"false", "false", by decide, spellsWord_self (by decide)⟩

theorem exists_spellsCount (count : UInt32) : ∃ text, SpellsCount count text :=
  ⟨_, [], 0, .inl rfl, Text.pads_self _⟩

end Setting

namespace ContextConfig

open Setting (SpellsCount SpellsFlag SpellsWord)

/-- The environment sets every variable to a spelling of its field. The policy goes by its name in
documents. -/
structure ExpressedBy (c : ContextConfig) (lookup : Lookup) : Prop where
  attempts : ∃ text, lookup "ENGINE_MAX_FIPS_ATTEMPTS" = some text ∧
    SpellsCount c.maxFipsAttempts text
  location : ∃ text, lookup "ENGINE_VALIDATE_LOCATION" = some text ∧
    SpellsFlag c.validateLocation text
  version : ∃ text, lookup "ENGINE_VALIDATE_VERSION" = some text ∧
    SpellsFlag c.validateVersion text
  policy : ∃ text, lookup "ENGINE_ON_EXHAUSTED_RETRIES" = some text ∧
    SpellsWord c.onExhaustedRetries.name text

theorem isWordFor_of_spellsName {policy : RetryExhaustion} {text : String}
    (h : SpellsWord policy.name text) : Setting.IsWordFor RetryExhaustion.words text policy := by
  refine Setting.isWordFor_of_spellsWord ?_ ?_ ?_ h
  all_goals cases policy <;> decide

theorem ExpressedBy.described {c : ContextConfig} {lookup : Lookup} (h : c.ExpressedBy lookup) :
    Described lookup c where
  attempts := Setting.gives_of_spells (fun _ => Setting.isCount_of_spellsCount) h.attempts
  location := Setting.gives_of_spells (fun _ => Setting.isWordFor_of_spellsFlag) h.location
  version := Setting.gives_of_spells (fun _ => Setting.isWordFor_of_spellsFlag) h.version
  policy := Setting.gives_of_spells (fun _ => isWordFor_of_spellsName) h.policy

theorem ofLookup_of_expressedBy {c : ContextConfig} {lookup : Lookup}
    (hattempts : c.maxFipsAttempts ≠ 0) (h : c.ExpressedBy lookup) : ofLookup lookup = .ok c :=
  ofLookup_eq_ok_iff.mpr ⟨h.described, hattempts⟩

theorem exists_expressedBy (c : ContextConfig) : ∃ lookup, c.ExpressedBy lookup := by
  obtain ⟨attempts, hattempts⟩ := Setting.exists_spellsCount c.maxFipsAttempts
  obtain ⟨location, hlocation⟩ := Setting.exists_spellsFlag c.validateLocation
  obtain ⟨version, hversion⟩ := Setting.exists_spellsFlag c.validateVersion
  have hpolicy : SpellsWord c.onExhaustedRetries.name c.onExhaustedRetries.name :=
    Setting.spellsWord_self (by cases c.onExhaustedRetries <;> decide)
  refine ⟨fun name => [("ENGINE_MAX_FIPS_ATTEMPTS", attempts),
    ("ENGINE_VALIDATE_LOCATION", location), ("ENGINE_VALIDATE_VERSION", version),
    ("ENGINE_ON_EXHAUSTED_RETRIES", c.onExhaustedRetries.name)].lookup name, ?_⟩
  exact ⟨⟨_, rfl, hattempts⟩, ⟨_, rfl, hlocation⟩, ⟨_, rfl, hversion⟩, ⟨_, rfl, hpolicy⟩⟩

end ContextConfig

namespace Software.Config

open Setting (SpellsCount SpellsFlag)

/-- The environment sets every variable to its field, flags and counts to a spelling of it. A
variable for an expectation that there is none of is unset. -/
structure ExpressedBy (c : Config) (lookup : Lookup) : Prop where
  installPath : lookup "SOFTWARE_ENGINE_INSTALL_PATH" = some c.installPath
  buildDate : lookup "SOFTWARE_ENGINE_BUILD_DATE" = some c.buildDate
  fipsCapable : ∃ text, lookup "SOFTWARE_ENGINE_FIPS_CAPABLE" = some text ∧
    SpellsFlag c.fipsCapable text
  failures : ∃ text, lookup "SOFTWARE_ENGINE_FIPS_SELF_TEST_FAILURES" = some text ∧
    SpellsCount c.fipsSelfTestFailures text
  expectedInstallPath : lookup "SOFTWARE_ENGINE_EXPECTED_INSTALL_PATH" = c.expectedInstallPath
  expectedVersion : lookup "SOFTWARE_ENGINE_EXPECTED_VERSION" = c.expectedVersion

theorem ofLookup_of_expressedBy {c : Config} {lookup : Lookup} (h : c.ExpressedBy lookup) :
    ofLookup lookup = .ok c := by
  have hcapable {name : String} {unset : Bool}
      (hspells : ∃ text, lookup name = some text ∧ SpellsFlag c.fipsCapable text) :
      Setting.ofVariable lookup name unset Setting.readFlag = .ok c.fipsCapable :=
    ContextConfig.ofVariable_flag.mpr
      (Setting.gives_of_spells (fun _ => Setting.isWordFor_of_spellsFlag) hspells)
  have hfailures {name : String} {unset : UInt32}
      (hspells : ∃ text, lookup name = some text ∧ SpellsCount c.fipsSelfTestFailures text) :
      Setting.ofVariable lookup name unset Setting.readCount = .ok c.fipsSelfTestFailures :=
    ContextConfig.ofVariable_count.mpr
      (Setting.gives_of_spells (fun _ => Setting.isCount_of_spellsCount) hspells)
  rw [ofLookup, hcapable h.fipsCapable, hfailures h.failures, h.installPath, h.buildDate,
    h.expectedInstallPath, h.expectedVersion]
  rfl

theorem exists_expressedBy (c : Config) : ∃ lookup, c.ExpressedBy lookup := by
  obtain ⟨capable, hcapable⟩ := Setting.exists_spellsFlag c.fipsCapable
  obtain ⟨failures, hfailures⟩ := Setting.exists_spellsCount c.fipsSelfTestFailures
  refine ⟨fun name => ([("SOFTWARE_ENGINE_INSTALL_PATH", some c.installPath),
    ("SOFTWARE_ENGINE_BUILD_DATE", some c.buildDate),
    ("SOFTWARE_ENGINE_FIPS_CAPABLE", some capable),
    ("SOFTWARE_ENGINE_FIPS_SELF_TEST_FAILURES", some failures),
    ("SOFTWARE_ENGINE_EXPECTED_INSTALL_PATH", c.expectedInstallPath),
    ("SOFTWARE_ENGINE_EXPECTED_VERSION", c.expectedVersion)].lookup name).join, ?_⟩
  exact ⟨rfl, rfl, ⟨_, rfl, hcapable⟩, ⟨_, rfl, hfailures⟩, rfl, rfl⟩

end Software.Config

/-- An environment that expresses a configuration describes it, and every valid configuration is
expressed by one. So environments and documents describe the same valid configurations. -/
theorem environments_express :
    (∀ (c : Software.Config) (lookup : Lookup),
      c.ExpressedBy lookup → Software.Config.ofLookup lookup = .ok c) ∧
    (∀ (c : ContextConfig) (lookup : Lookup),
      c.maxFipsAttempts ≠ 0 → c.ExpressedBy lookup → ContextConfig.ofLookup lookup = .ok c) ∧
    (∀ c : Software.Config, (∃ lookup, Software.Config.ofLookup lookup = .ok c) ∧
      ∃ document, (Json.read? document).bind Software.Config.ofJson? = some c) ∧
    ∀ c : ContextConfig, (∃ lookup, ContextConfig.ofLookup lookup = .ok c) ↔
      c.validate = .ok () ∧
        ∃ document, (Json.read? document).bind ContextConfig.ofJson? = some c := by
  refine ⟨fun c lookup => Software.Config.ofLookup_of_expressedBy,
    fun c lookup hattempts h => ContextConfig.ofLookup_of_expressedBy hattempts h,
    fun c => ⟨?_, ?_⟩, fun c => ⟨?_, ?_⟩⟩
  · obtain ⟨lookup, hlookup⟩ := c.exists_expressedBy
    exact ⟨lookup, Software.Config.ofLookup_of_expressedBy hlookup⟩
  · exact ⟨_, describes_written c.proper_toJson c.ofJson?_toJson⟩
  · rintro ⟨lookup, hlookup⟩
    obtain ⟨-, hattempts⟩ := ContextConfig.ofLookup_eq_ok_iff.mp hlookup
    exact ⟨ContextConfig.validate_eq_ok_iff.mpr hattempts, _,
      describes_written c.proper_toJson c.ofJson?_toJson⟩
  · rintro ⟨hvalid, -⟩
    obtain ⟨lookup, hlookup⟩ := c.exists_expressedBy
    exact ⟨lookup,
      ContextConfig.ofLookup_of_expressedBy (ContextConfig.validate_eq_ok_iff.mp hvalid) hlookup⟩

/-- A flag in mixed case between a wide space and a tab, a count with a sign and zeros, and texts
with blanks, which stay. -/
theorem environments_express_padded :
    let engine : Software.Config :=
      { installPath := " /opt ", buildDate := "", fipsCapable := false, fipsSelfTestFailures := 42,
        expectedVersion := some "0.1.0\n" }
    let forEngine : Lookup := fun name => [("SOFTWARE_ENGINE_INSTALL_PATH", " /opt "),
      ("SOFTWARE_ENGINE_BUILD_DATE", ""), ("SOFTWARE_ENGINE_FIPS_CAPABLE", "\u3000oFf\t"),
      ("SOFTWARE_ENGINE_FIPS_SELF_TEST_FAILURES", " +0042"),
      ("SOFTWARE_ENGINE_EXPECTED_VERSION", "0.1.0\n")].lookup name
    let context : ContextConfig :=
      { maxFipsAttempts := 1, validateLocation := false, onExhaustedRetries := .invalidHandle }
    let forContext : Lookup := fun name => [("ENGINE_MAX_FIPS_ATTEMPTS", "01\n"),
      ("ENGINE_VALIDATE_LOCATION", "No"), ("ENGINE_VALIDATE_VERSION", " 0 "),
      ("ENGINE_ON_EXHAUSTED_RETRIES", "invalid-handle")].lookup name
    (engine.ExpressedBy forEngine ∧ Software.Config.ofLookup forEngine = .ok engine) ∧
      context.maxFipsAttempts ≠ 0 ∧ context.ExpressedBy forContext ∧
      ContextConfig.ofLookup forContext = .ok context := by
  intro engine forEngine context forContext
  obtain ⟨hsoftware, hcontexts, -, -⟩ := environments_express
  have hengine : engine.ExpressedBy forEngine := by
    refine ⟨rfl, rfl, ⟨_, rfl, "off", by decide, "oFf", ?_, by decide⟩, ⟨_, rfl, ['+'], 2,
      .inr rfl, ?_⟩, rfl, rfl⟩
    · exact ⟨['\u3000'], ['\t'], by decide, by decide, by decide⟩
    · exact ⟨[' '], [], by decide, by decide, by decide⟩
  have hcontext : context.ExpressedBy forContext := by
    refine ⟨⟨_, rfl, [], 1, .inl rfl, ?_⟩, ⟨_, rfl, "no", by decide, "No", ?_, by decide⟩,
      ⟨_, rfl, "0", by decide, "0", ?_, by decide⟩, ⟨_, rfl, Setting.spellsWord_self (by decide)⟩⟩
    · exact ⟨[], ['\n'], by decide, by decide, by decide⟩
    · exact Text.pads_self _
    · exact ⟨[' '], [' '], by decide, by decide, by decide⟩
  exact ⟨⟨hengine, hsoftware engine forEngine hengine⟩, by decide, hcontext,
    hcontexts context forContext (by decide) hcontext⟩

end SigningEngine
