import SigningEngine.Native.Boundary
import SigningEngine.Software.Config
import SigningEngine.Software.KeyGeneration
import SigningEngine.Table
import SigningEngine.Text.Quoted

/-!
# The software engine

An engine in software. Contexts, digests and keys are numbered by one counter, which starts above
the invalid handle and only grows, so a handle never comes to name something else.

A transition that can fail gives its result together with the next state, and nothing when it
fails: a failed transition has no state to leave behind. The one exception is a failed self test,
which is counted.
-/

namespace SigningEngine.Software

structure Engine where
  config : Config
  /-- How many handles were issued. -/
  issued : Nat := 0
  /-- How many FIPS contexts will still fail their self test. -/
  selfTestFailures : UInt32
  /-- Whether each context is a FIPS context. -/
  contexts : Table ContextHandle Bool := ∅
  digests : Table DigestHandle Accumulator := ∅
  keys : Table KeyHandle KeyMaterial := ∅

namespace Engine

def ofConfig (config : Config) : Engine :=
  { config, selfTestFailures := config.fipsSelfTestFailures }

instance : Inhabited Engine := ⟨ofConfig default⟩

def liveDigests (engine : Engine) : Nat := engine.digests.size

def liveKeys (engine : Engine) : Nat := engine.keys.size

/-- Handles are counted from 1 in words of 64 bits. A handle was never issued before, until the
words start over. -/
def allocate (engine : Engine) : UInt64 × Engine :=
  (UInt64.ofNat (engine.issued + 1), { engine with issued := engine.issued + 1 })

/-! ### Keys -/

def registerKey (engine : Engine) (material : KeyMaterial) : KeyHandle × Engine :=
  let (raw, engine) := engine.allocate
  (⟨raw⟩, { engine with keys := engine.keys.insert ⟨raw⟩ material })

/-- Registers both halves of a key pair, the private one first. -/
def registerPair (engine : Engine) (pair : Halves KeyMaterial) : Halves KeyHandle × Engine :=
  let (privateKey, engine) := engine.registerKey pair.privateKey
  let (publicKey, engine) := engine.registerKey pair.publicKey
  ({ privateKey, publicKey }, engine)

/-- Forgets key material. -/
def eraseKey (engine : Engine) (key : KeyHandle) : Engine :=
  { engine with keys := engine.keys.erase key }

/-- Forgets key material, and says whether there was any. -/
def freeKey (engine : Engine) (key : KeyHandle) : Bool × Engine :=
  if engine.keys.contains key then (true, engine.eraseKey key) else (false, engine)

/-! ### What is found behind a handle -/

def contextFips (engine : Engine) (context : ContextHandle) : Except NativeError Bool :=
  match engine.contexts.find? context with
  | some fips => .ok fips
  | none => .error ⟨"unknown context handle " ++ context.text⟩

def digestState (engine : Engine) (digest : DigestHandle) : Except NativeError Accumulator :=
  match engine.digests.find? digest with
  | some state => .ok state
  | none => .error ⟨"unknown digest handle " ++ digest.text⟩

def keyMaterial (engine : Engine) (key : KeyHandle) : Except NativeError KeyMaterial :=
  match engine.keys.find? key with
  | some material => .ok material
  | none => .error ⟨"unknown key handle " ++ key.text⟩

/-! ### Calls -/

def openContext (engine : Engine) (fips : Bool) : ContextHandle × Engine :=
  let (raw, engine) := engine.allocate
  (⟨raw⟩, { engine with contexts := engine.contexts.insert ⟨raw⟩ fips })

/-- A FIPS context needs an engine that is capable of it and a self test that passes. -/
def createContext (engine : Engine) (fips : Bool) : Except NativeError ContextHandle × Engine :=
  if fips && !engine.config.fipsCapable then
    (.error ⟨NativeError.notInFipsModePhrase⟩, engine)
  else if fips && engine.selfTestFailures != 0 then
    (.error ⟨"FIPS entropy self test failed"⟩,
      { engine with selfTestFailures := engine.selfTestFailures - 1 })
  else
    let (handle, engine) := engine.openContext fips
    (.ok handle, engine)

def validateLocation (engine : Engine) (context : ContextHandle) : Except NativeError Unit := do
  let _ ← engine.contextFips context
  match engine.config.expectedInstallPath with
  | none => return
  | some expected =>
    if expected ≠ engine.config.installPath then
      throw ⟨"library loaded from " ++ engine.config.installPath ++ ", expected " ++ expected⟩

def validateVersion (engine : Engine) (context : ContextHandle) : Except NativeError Unit := do
  let _ ← engine.contextFips context
  match engine.config.expectedVersion with
  | none => return
  | some expected =>
    if expected ≠ engineVersion then
      throw ⟨"library version " ++ engineVersion ++
        " does not match signature file version " ++ expected⟩

def scalarValue (engine : Engine) (context : ContextHandle) (value : EngineValue) :
    Except NativeError String := do
  let fips ← engine.contextFips context
  match value with
  | .fipsApprovedMode => return if fips then "1" else "0"
  | .installPath => return engine.config.installPath
  | .version => return engineVersion

def digestCreate (engine : Engine) (context : ContextHandle) (algorithm : String) :
    Except NativeError (DigestHandle × Engine) := do
  let _ ← engine.contextFips context
  match HashAlgorithm.ofName? algorithm with
  | none => throw ⟨"unsupported digest algorithm " ++ algorithm⟩
  | some algorithm =>
    let (raw, engine) := engine.allocate
    return (⟨raw⟩, { engine with digests := engine.digests.insert ⟨raw⟩ { algorithm } })

/-- Changes the state of one digest. -/
def changeDigest (engine : Engine) (context : ContextHandle) (digest : DigestHandle)
    (change : Accumulator → Accumulator) : Except NativeError (Unit × Engine) := do
  let _ ← engine.contextFips context
  let state ← engine.digestState digest
  return ((), { engine with digests := engine.digests.insert digest (change state) })

def digestUpdate (engine : Engine) (context : ContextHandle) (digest : DigestHandle)
    (data : Bytes) : Except NativeError (Unit × Engine) :=
  engine.changeDigest context digest (·.update data)

def digestReset (engine : Engine) (context : ContextHandle) (digest : DigestHandle) :
    Except NativeError (Unit × Engine) :=
  engine.changeDigest context digest (·.reset)

/-- Frees a digest, in whatever context. -/
def digestFree (engine : Engine) (digest : DigestHandle) : Except NativeError (Unit × Engine) := do
  let _ ← engine.digestState digest
  return ((), { engine with digests := engine.digests.erase digest })

def sign (engine : Engine) (context : ContextHandle) (digest : DigestHandle) (key : KeyHandle)
    (plainRsa : Bool) : Except NativeError Bytes := do
  let _ ← engine.contextFips context
  let state ← engine.digestState digest
  let material ← engine.keyMaterial key
  material.sign state plainRsa

def verify (engine : Engine) (context : ContextHandle) (digest : DigestHandle) (key : KeyHandle)
    (signature : Bytes) : Except NativeError Bool := do
  let _ ← engine.contextFips context
  let state ← engine.digestState digest
  let material ← engine.keyMaterial key
  return material.verify state signature

/-- The reply to a transition and the state behind it. -/
def settle {α : Type} (engine : Engine) :
    Except NativeError (α × Engine) → Except NativeError α × Engine
  | .ok (value, engine) => (.ok value, engine)
  | .error e => (.error e, engine)

/-- The reply to a call and the state behind it. -/
def reply (engine : Engine) : (call : NativeCall) → call.Reply × Engine
  | .createContext fips => engine.createContext fips
  | .validateLocation context => (engine.validateLocation context, engine)
  | .validateVersion context => (engine.validateVersion context, engine)
  | .scalarValue context value => (engine.scalarValue context value, engine)
  | .libraryBuildDate => (engine.config.buildDate, engine)
  | .digestCreate context algorithm => engine.settle (engine.digestCreate context algorithm)
  | .digestUpdate context digest data => engine.settle (engine.digestUpdate context digest data)
  | .digestReset context digest => engine.settle (engine.digestReset context digest)
  | .digestFree _ digest => engine.settle (engine.digestFree digest)
  | .sign context digest key plainRsa => (engine.sign context digest key plainRsa, engine)
  | .verify context digest key signature => (engine.verify context digest key signature, engine)

/-- What the engine logs with a reply. -/
def logged : (call : NativeCall) → call.Reply → List Event
  | .createContext fips, .ok handle => [.softwareContextCreated handle.raw fips]
  | _, _ => []

/-- The software engine never panics. -/
def respond (engine : Engine) (call : NativeCall) : Response Engine call :=
  let (reply, engine) := engine.reply call
  { reply := .ok reply, events := logged call reply, state := engine }

/-- The form in diagnostic output, which shows how much the engine keeps and none of it. -/
def diagnostic (engine : Engine) : String :=
  let config := engine.config
  "SoftwareEngine \x7b config: SoftwareEngineConfig \x7b install_path: " ++
    Text.quoted config.installPath ++
    ", build_date: " ++ Text.quoted config.buildDate ++
    ", fips_capable: " ++ toString config.fipsCapable ++
    ", fips_self_test_failures: " ++ toString config.fipsSelfTestFailures.toNat ++
    ", expected_install_path: " ++ Text.quotedOption config.expectedInstallPath ++
    ", expected_version: " ++ Text.quotedOption config.expectedVersion ++
    " \x7d, contexts: " ++ toString engine.contexts.size ++
    ", digests: " ++ toString engine.digests.size ++
    ", keys: " ++ toString engine.keys.size ++ " \x7d"

end Engine

end SigningEngine.Software
