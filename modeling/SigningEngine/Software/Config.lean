import SigningEngine.Configuration
import SigningEngine.Json.Record

/-!
# What a software engine reports and simulates

Besides the values that it reports, a configuration says which failures of a real library the engine
simulates: FIPS contexts that fail their self test or are not to be had at all, and a library that
is not the expected one.
-/

namespace SigningEngine.Software

def engineVersion : String := "0.1.0"

structure Config where
  installPath : String := "builtin"
  /-- A build may set another default. This is the one of a build that sets none. -/
  buildDate : String := "unknown"
  fipsCapable : Bool := true
  /-- How many FIPS contexts fail their self test before one passes it. -/
  fipsSelfTestFailures : UInt32 := 0
  /-- If set, the location is valid only when it is the install path. -/
  expectedInstallPath : Option String := none
  /-- If set, the version is valid only when it is the engine's. -/
  expectedVersion : Option String := none
  deriving DecidableEq, Repr

namespace Config

instance : Inhabited Config := ⟨{}⟩

/-- The configuration that an environment describes over the defaults. Texts are taken as they
are. -/
def ofLookup (lookup : Lookup) : Except ConfigError Config := do
  let defaults : Config := {}
  let fipsCapable ←
    Setting.ofVariable lookup "SOFTWARE_ENGINE_FIPS_CAPABLE" defaults.fipsCapable
      Setting.readFlag
  let fipsSelfTestFailures ←
    Setting.ofVariable lookup "SOFTWARE_ENGINE_FIPS_SELF_TEST_FAILURES"
      defaults.fipsSelfTestFailures Setting.readCount
  return {
    installPath := (lookup "SOFTWARE_ENGINE_INSTALL_PATH").getD defaults.installPath
    buildDate := (lookup "SOFTWARE_ENGINE_BUILD_DATE").getD defaults.buildDate
    fipsCapable
    fipsSelfTestFailures
    expectedInstallPath := lookup "SOFTWARE_ENGINE_EXPECTED_INSTALL_PATH"
    expectedVersion := lookup "SOFTWARE_ENGINE_EXPECTED_VERSION" }

def jsonFields : List (Json.Field Config) :=
  [.of "install_path" Json.text? fun v c => { c with installPath := v },
    .of "build_date" Json.text? fun v c => { c with buildDate := v },
    .of "fips_capable" Json.bool? fun v c => { c with fipsCapable := v },
    .of "fips_self_test_failures" Json.uint32? fun v c => { c with fipsSelfTestFailures := v },
    .of "expected_install_path" (Json.optional? Json.text?) fun v c =>
      { c with expectedInstallPath := v },
    .of "expected_version" (Json.optional? Json.text?) fun v c => { c with expectedVersion := v }]

def ofJson? (document : Json) : Option Config := Json.readRecord jsonFields {} document

def optionalText : Option String → Json
  | none => .null
  | some s => .text s

def toJson (config : Config) : Json :=
  .record [("install_path", .text config.installPath),
    ("build_date", .text config.buildDate),
    ("fips_capable", .bool config.fipsCapable),
    ("fips_self_test_failures", .nat config.fipsSelfTestFailures.toNat),
    ("expected_install_path", optionalText config.expectedInstallPath),
    ("expected_version", optionalText config.expectedVersion)]

end Config

end SigningEngine.Software
