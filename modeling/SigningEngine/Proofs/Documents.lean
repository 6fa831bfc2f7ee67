import SigningEngine.Context.Config
import SigningEngine.Proofs.Json.Records
import SigningEngine.Proofs.Json.Writing
import SigningEngine.Software.Config

/-!
# What documents describe

A document for a configuration lists some of its fields with their values. It describes the default
configuration with the listed fields as the document has them, in whichever order they stand,
however their texts are escaped, and whatever members of other names stand between them. What is
written for a configuration lists all fields and describes it. A document that lists a field twice
describes nothing.

The main statement is `documents_describe`.
-/

namespace SigningEngine

open Json (Spells Lists ListsTwice Proper TakesOver fieldOver fieldOver_cons listed)

/-- How documents describe the records of a type. A record has the names of its fields, `holds` says
which values a document may have for them, and `overlay` takes named fields over into another
record. -/
structure Documented {ρ : Type} (ofJson? : Json → Option ρ) (toJson : ρ → Json)
    (names : List String) (holds : ρ → String → Json → Prop)
    (overlay : ρ → List String → ρ → ρ) (defaults : ρ) : Prop where
  /-- Of the fields in a document the record has what the document has, of the others what is the
  default. -/
  lists : ∀ (record : ρ) (document : String) (members : List (Json.Text × Json)),
    Spells document.toList (.object members) → Lists names (holds record) members →
      (Json.read? document).bind ofJson? = some (overlay record (listed members) defaults)
  written : ∀ record : ρ, (Json.read? (Json.write (toJson record))).bind ofJson? = some record
  twice : ∀ (document : String) (members : List (Json.Text × Json)),
    Spells document.toList (.object members) → (∃ name ∈ names, ListsTwice name members) →
      (Json.read? document).bind ofJson? = none

/-- What was written for a record describes it, if its value does. -/
theorem describes_written {ρ : Type} {ofJson? : Json → Option ρ} {value : Json} {record : ρ}
    (hproper : Proper value) (hread : ofJson? value = some record) :
    (Json.read? (Json.write value)).bind ofJson? = some record := by
  rw [Json.read?_write hproper, Option.bind_some, hread]

/-- What is to be shown of the values alone. -/
theorem documented {ρ : Type} {ofJson? : Json → Option ρ} {toJson : ρ → Json}
    {fields : List (Json.Field ρ)} {holds : ρ → String → Json → Prop}
    {overlay : ρ → List String → ρ → ρ} {defaults : ρ}
    (hread : ∀ value, ofJson? value = Json.readRecord fields defaults value)
    (hover : ∀ record, TakesOver fields (holds record) (overlay record))
    (hproper : ∀ record, Proper (toJson record))
    (hwritten : ∀ record, ofJson? (toJson record) = some record) :
    Documented ofJson? toJson (fields.map (·.name)) holds overlay defaults where
  lists record document members hdocument hlists := by
    rw [Json.read?_of_spells hdocument, Option.bind_some, hread,
      Json.readRecord_of_lists (hover record) hlists]
  written record := describes_written (hproper record) (hwritten record)
  twice document members hdocument htwice := by
    obtain ⟨name, hname, htwice⟩ := htwice
    rw [Json.read?_of_spells hdocument, Option.bind_some, hread,
      Json.readRecord_of_twice hname htwice]

theorem RetryExhaustion.ofName?_name (policy : RetryExhaustion) :
    ofName? policy.name = some policy := by
  cases policy <;> rfl

namespace ContextConfig

def fieldNames : List String :=
  ["max_fips_attempts", "validate_location", "validate_version", "on_exhausted_retries"]

/-- What documents have for the fields of the configuration. There are two forms for the policy,
and members of other names may have any values. -/
structure Holds (c : ContextConfig) (name : String) (value : Json) : Prop where
  attempts : name = "max_fips_attempts" → value = .nat c.maxFipsAttempts.toNat
  location : name = "validate_location" → value = .bool c.validateLocation
  version : name = "validate_version" → value = .bool c.validateVersion
  policy : name = "on_exhausted_retries" →
    value = .text c.onExhaustedRetries.name ∨
      value = .object [(some c.onExhaustedRetries.name, .null)]

/-- The named fields are those of `c`, the others those of `other`. -/
def overlay (c : ContextConfig) (names : List String) (other : ContextConfig) : ContextConfig where
  maxFipsAttempts :=
    fieldOver names "max_fips_attempts" c.maxFipsAttempts other.maxFipsAttempts
  validateLocation :=
    fieldOver names "validate_location" c.validateLocation other.validateLocation
  validateVersion := fieldOver names "validate_version" c.validateVersion other.validateVersion
  onExhaustedRetries :=
    fieldOver names "on_exhausted_retries" c.onExhaustedRetries other.onExhaustedRetries

theorem takesOver (c : ContextConfig) : TakesOver jsonFields c.Holds c.overlay where
  nil other := rfl
  cons name names other := by simp only [overlay, fieldOver_cons]
  known field hfield value other h := by
    simp only [jsonFields, List.mem_cons, List.not_mem_nil, or_false] at hfield
    rcases hfield with rfl | rfl | rfl | rfl
    · rw [h.attempts rfl]
      simp [Json.Field.of, Json.uint32?_nat, overlay, fieldOver]
    · rw [h.location rfl]
      simp [Json.Field.of, overlay, fieldOver]
    · rw [h.version rfl]
      simp [Json.Field.of, overlay, fieldOver]
    · have hpolicy : RetryExhaustion.ofJson? value = some c.onExhaustedRetries := by
        rcases h.policy rfl with rfl | rfl <;> exact RetryExhaustion.ofName?_name _
      simp [Json.Field.of, hpolicy, overlay, fieldOver]
  unknown name other h := by
    simp only [jsonFields, Json.Field.of, List.map_cons, List.map_nil, List.mem_cons,
      List.not_mem_nil, or_false, not_or] at h
    obtain ⟨hattempts, hlocation, hversion, hpolicy⟩ := h
    simp [overlay, fieldOver, Ne.symm hattempts, Ne.symm hlocation, Ne.symm hversion,
      Ne.symm hpolicy]

theorem ofJson?_toJson (c : ContextConfig) : ofJson? c.toJson = some c := by
  simp [ofJson?, toJson, Json.record, Json.readRecord, Json.readMembers, jsonFields,
    Json.Field.of, Json.uint32?_nat, Json.text, RetryExhaustion.ofJson?,
    RetryExhaustion.ofName?_name]

theorem proper_toJson (c : ContextConfig) : Proper c.toJson := by
  refine Json.proper_record ?_
  simp only [List.forall_mem_cons]
  exact ⟨Json.proper_nat _, .bool _, .bool _, .string _, fun _ h => (by cases h)⟩

end ContextConfig

namespace Software.Config

def fieldNames : List String :=
  ["install_path", "build_date", "fips_capable", "fips_self_test_failures",
    "expected_install_path", "expected_version"]

/-- What documents have for the fields of the configuration. Members of other names may have any
values. -/
structure Holds (c : Config) (name : String) (value : Json) : Prop where
  installPath : name = "install_path" → value = .text c.installPath
  buildDate : name = "build_date" → value = .text c.buildDate
  fipsCapable : name = "fips_capable" → value = .bool c.fipsCapable
  failures : name = "fips_self_test_failures" → value = .nat c.fipsSelfTestFailures.toNat
  expectedInstallPath :
    name = "expected_install_path" → value = c.expectedInstallPath.elim .null .text
  expectedVersion : name = "expected_version" → value = c.expectedVersion.elim .null .text

/-- The named fields are those of `c`, the others those of `other`. -/
def overlay (c : Config) (names : List String) (other : Config) : Config where
  installPath := fieldOver names "install_path" c.installPath other.installPath
  buildDate := fieldOver names "build_date" c.buildDate other.buildDate
  fipsCapable := fieldOver names "fips_capable" c.fipsCapable other.fipsCapable
  fipsSelfTestFailures :=
    fieldOver names "fips_self_test_failures" c.fipsSelfTestFailures other.fipsSelfTestFailures
  expectedInstallPath :=
    fieldOver names "expected_install_path" c.expectedInstallPath other.expectedInstallPath
  expectedVersion := fieldOver names "expected_version" c.expectedVersion other.expectedVersion

theorem optional?_elim (s : Option String) :
    Json.optional? Json.text? (s.elim .null .text) = some s := by
  cases s <;> rfl

theorem takesOver (c : Config) : TakesOver jsonFields c.Holds c.overlay where
  nil other := rfl
  cons name names other := by simp only [overlay, fieldOver_cons]
  known field hfield value other h := by
    simp only [jsonFields, List.mem_cons, List.not_mem_nil, or_false] at hfield
    rcases hfield with rfl | rfl | rfl | rfl | rfl | rfl
    · rw [h.installPath rfl]
      simp [Json.Field.of, overlay, fieldOver]
    · rw [h.buildDate rfl]
      simp [Json.Field.of, overlay, fieldOver]
    · rw [h.fipsCapable rfl]
      simp [Json.Field.of, overlay, fieldOver]
    · rw [h.failures rfl]
      simp [Json.Field.of, Json.uint32?_nat, overlay, fieldOver]
    · rw [h.expectedInstallPath rfl]
      simp [Json.Field.of, optional?_elim, overlay, fieldOver]
    · rw [h.expectedVersion rfl]
      simp [Json.Field.of, optional?_elim, overlay, fieldOver]
  unknown name other h := by
    simp only [jsonFields, Json.Field.of, List.map_cons, List.map_nil, List.mem_cons,
      List.not_mem_nil, or_false, not_or] at h
    obtain ⟨hpath, hdate, hcapable, hfailures, hexpectedPath, hexpectedVersion⟩ := h
    simp [overlay, fieldOver, Ne.symm hpath, Ne.symm hdate, Ne.symm hcapable, Ne.symm hfailures,
      Ne.symm hexpectedPath, Ne.symm hexpectedVersion]

theorem optionalText_eq (s : Option String) : optionalText s = s.elim .null .text := by
  cases s <;> rfl

theorem ofJson?_toJson (c : Config) : ofJson? c.toJson = some c := by
  simp [ofJson?, toJson, Json.record, Json.readRecord, Json.readMembers, jsonFields,
    Json.Field.of, Json.uint32?_nat, optionalText_eq, optional?_elim]

theorem proper_optionalText (s : Option String) : Proper (optionalText s) := by
  cases s with
  | none => exact .null
  | some s => exact .string _

theorem proper_toJson (c : Config) : Proper c.toJson := by
  refine Json.proper_record ?_
  simp only [List.forall_mem_cons]
  exact ⟨.string _, .string _, .bool _, Json.proper_nat _, proper_optionalText _,
    proper_optionalText _, fun _ h => (by cases h)⟩

end Software.Config

/-- Documents describe the configurations of contexts and those of software engines alike. -/
theorem documents_describe :
    Documented ContextConfig.ofJson? ContextConfig.toJson ContextConfig.fieldNames
        ContextConfig.Holds ContextConfig.overlay {} ∧
      Documented Software.Config.ofJson? Software.Config.toJson Software.Config.fieldNames
        Software.Config.Holds Software.Config.overlay {} :=
  ⟨documented (fun _ => rfl) ContextConfig.takesOver ContextConfig.proper_toJson
      ContextConfig.ofJson?_toJson,
    documented (fun _ => rfl) Software.Config.takesOver Software.Config.proper_toJson
      Software.Config.ofJson?_toJson⟩

/-- A member of another name with blanks and a list, and an escaped name of a field. Repeating a
field with the same value makes a document invalid all the same. -/
theorem documents_describe_escaped :
    let document := "\x7b\"note\": [null] ,\"\\u0076alidate_version\":true\x7d"
    let members : List (Json.Text × Json) :=
      [(some "note", .array [.null]), (some "validate_version", .bool true)]
    let c : ContextConfig := { maxFipsAttempts := 7, validateVersion := true }
    let repeating := "\x7b\"build_date\":\"a\",\"build_date\":\"a\"\x7d"
    let repeated : List (Json.Text × Json) :=
      [(some "build_date", .text "a"), (some "build_date", .text "a")]
    (Spells document.toList (.object members) ∧ Lists ContextConfig.fieldNames c.Holds members ∧
      (Json.read? document).bind ContextConfig.ofJson? = some { validateVersion := true }) ∧
      Spells repeating.toList (.object repeated) ∧
      (∃ name ∈ Software.Config.fieldNames, ListsTwice name repeated) ∧
      (Json.read? repeating).bind Software.Config.ofJson? = none := by
  intro document members c repeating repeated
  obtain ⟨hcontext, hsoftware⟩ := documents_describe
  have hname : Json.SpellsText "\"\\u0076alidate_version\"".toList (some "validate_version") := by
    have hunit : Json.SpellsUnit ['0', '0', '7', '6'] 0x76 :=
      .digits (i := 0) (j := 0) (k := 7) (l := 6) rfl rfl rfl rfl
    refine ⟨_, 'v' :: "alidate_version".toList |>.map Json.Piece.char, ?_, .cons
      (.unit hunit (by rw [Json.IsHalf]; decide))
      (Json.spellsPieces_written "alidate_version".toList), fun text => ?_⟩
    · rfl
    · rw [Json.joins_chars, Option.some.injEq, ← String.toList_inj]
      rfl
  have hnote : Spells " [null] ".toList (.array [.null]) := by
    have hitems : Proper (.array [.null]) := .array (by simp [Proper.null])
    exact @Spells.padded [' '] _ [' '] _ rfl rfl (Json.spells_written hitems)
  have hdocument : Spells document.toList (.object members) := by
    have hspelling : document.toList = '\x7b' :: [','].intercalate
        ([⟨"\"note\"".toList, some "note", " [null] ".toList, .array [.null]⟩,
          ⟨"\"\\u0076alidate_version\"".toList, some "validate_version", "true".toList,
            .bool true⟩].map Json.Member.spelling) ++ ['\x7d'] := by decide
    rw [hspelling]
    refine .members (by simp) ?_ ?_
    · simp only [List.forall_mem_cons]
      exact ⟨Json.spellsName_written (some "note"), ⟨[], _, [], rfl, rfl, rfl, hname⟩,
        fun _ h => (by cases h)⟩
    · simp only [List.forall_mem_cons]
      exact ⟨hnote, .true, fun _ h => (by cases h)⟩
  have hlists : Lists ContextConfig.fieldNames c.Holds members := by
    constructor
    · simp only [members, List.forall_mem_cons]
      refine ⟨⟨_, rfl, ?_⟩, ⟨_, rfl, ?_⟩, fun _ h => (by cases h)⟩
      · constructor <;> simp
      · constructor <;> simp [c]
    · decide
  have hrepeating : Spells repeating.toList (.object repeated) := by
    have hspelling : repeating.toList = Json.written (.object repeated) := by decide
    rw [hspelling]
    exact Json.spells_written (.object (by simp [repeated, Json.text, Proper.string]))
  have htwice : ∃ name ∈ Software.Config.fieldNames, ListsTwice name repeated :=
    ⟨"build_date", by decide, by decide⟩
  exact ⟨⟨hdocument, hlists, hcontext.lists c document members hdocument hlists⟩, hrepeating,
    htwice, hsoftware.twice repeating repeated hrepeating htwice⟩

end SigningEngine
