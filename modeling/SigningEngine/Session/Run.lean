import SigningEngine.Context.SharedValue
import SigningEngine.Session.Step
import SigningEngine.World

/-!
# Running a session

A new object takes its slot before the object that was there is released. What an object holds on
to is kept for as long as the object is: a signature shows its context also when the slot of the
context has been given to another one.
-/

namespace SigningEngine

/-- A context and the engine it was created on. -/
structure OpenContext where
  engine : EngineId
  context : Context

structure OpenDigest where
  engine : EngineId
  digest : Digest

structure OpenSignature where
  engine : EngineId
  /-- The place of the context among all that were created. -/
  context : Nat
  signature : Signature Key

structure Session where
  world : World := {}
  /-- All contexts that were created. -/
  created : Array OpenContext := #[]
  engines : Table String EngineId := ∅
  contexts : Table String Nat := ∅
  keys : Table String Key := ∅
  digests : Table String OpenDigest := ∅
  signatures : Table String OpenSignature := ∅
  saved : Table String Bytes := ∅
  /-- The build date of the library, once the process has asked for it. -/
  buildDate : Option String := none
  /-- The slot that each scripted engine was made for. -/
  labels : Table EngineId String := ∅
  /-- The calls that scripted engines received during the last step. -/
  calls : Array (String × NativeCall) := #[]
  /-- The events of the last step. -/
  events : Array Event := #[]

namespace Session

/-- What happens in a session and always gives a value. -/
abbrev Work := StateM Session

/-- What happens in a session and may give none. -/
abbrev Action := ExceptT StepError Work

variable {α : Type}

def refuse (e : StepError) : Action α := throw e

/-- The object in a slot. -/
def inSlot (slots : Session → Table String α) (name : String) : Action α := do
  match (slots (← get)).find? name with
  | some object => return object
  | none => refuse (.noSlot name)

/-! ### Work with one engine -/

/-- Runs an operation of the binding layer over an engine. -/
def workWithin (engine : EngineId) (operation : Native World α) : Work α := fun session =>
  let (value, run) := operation { state := session.world }
  let calls :=
    match session.labels.find? engine with
    | some label => run.calls.map fun call => (label, call)
    | none => #[]
  (value, { session with
    world := run.state
    calls := session.calls ++ calls
    events := session.events ++ run.events })

def within (engine : EngineId) (operation : Native World α) : Action α :=
  ExceptT.lift (workWithin engine operation)

/-- Goes on with the value of an outcome. -/
def settled (outcome : Except Failure α) : Action α :=
  match outcome with
  | .ok value => return value
  | .error failure => refuse (.failed failure)

def attempt (engine : EngineId) (operation : Attempt World α) : Action α := do
  settled (← within engine operation.outcome)

/-! ### Objects and their release -/

def releaseKey (key : Key) : Work Unit :=
  modify fun session => { session with world := session.world.release key }

def freeDigest (digest : OpenDigest) : Action Unit :=
  attempt digest.engine (digest.digest.free (World.boundary digest.engine))

def dropSignature (signature : OpenSignature) : Action Unit :=
  attempt signature.engine (signature.signature.drop (World.boundary signature.engine))

def putKey (slot : String) (key : Key) : Work Unit := do
  let previous := (← get).keys.find? slot
  modify fun session => { session with keys := session.keys.insert slot key }
  if let some previous := previous then
    releaseKey previous

def putDigest (slot : String) (digest : OpenDigest) : Action Unit := do
  let previous := (← get).digests.find? slot
  modify fun session => { session with digests := session.digests.insert slot digest }
  if let some previous := previous then
    freeDigest previous

def putSignature (slot : String) (signature : OpenSignature) : Action Unit := do
  let previous := (← get).signatures.find? slot
  modify fun session => { session with signatures := session.signatures.insert slot signature }
  if let some previous := previous then
    dropSignature previous

/-- Empties a slot, and says whether there was anything in it. -/
def dropSlot (name : String) : SlotKind → Action Bool
  | .engine => do
    let found := (← get).engines.contains name
    modify fun session => { session with engines := session.engines.erase name }
    return found
  | .context => do
    let found := (← get).contexts.contains name
    modify fun session => { session with contexts := session.contexts.erase name }
    return found
  | .key => do
    let some key := (← get).keys.find? name | return false
    modify fun session => { session with keys := session.keys.erase name }
    releaseKey key
    return true
  | .digest => do
    let some digest := (← get).digests.find? name | return false
    modify fun session => { session with digests := session.digests.erase name }
    freeDigest digest
    return true
  | .signature => do
    let some signature := (← get).signatures.find? name | return false
    modify fun session => { session with signatures := session.signatures.erase name }
    dropSignature signature
    return true

/-! ### Steps -/

def operand : Operand → Action Bytes
  | .given data => return data
  | .saved name => inSlot Session.saved name

/-- Saves a signature if there is a name for it. -/
def save (name : Option String) (signature : Bytes) : Work Unit :=
  match name with
  | none => return
  | some name =>
    modify fun session => { session with saved := session.saved.insert name signature }

/-- Puts a new engine into a slot. -/
def putEngine (slot : String) (engine : Engine) : Work EngineId := do
  let session ← get
  let (id, world) := session.world.addEngine engine
  set { session with world, engines := session.engines.insert slot id }
  return id

def newEngine (slot : String) (document : Option Json) : Action Answer := do
  let config ←
    match document with
    | none => pure default
    | some document =>
      match Software.Config.ofJson? document with
      | some config => pure config
      | none => refuse .unreadable
  let _ ← putEngine slot (.software (.ofConfig config))
  return .engineConfig config

def newScripted (slot : String) (engine : Scripted.Engine) : Action Answer := do
  let id ← putEngine slot (.scripted engine)
  modify fun session => { session with labels := session.labels.insert id slot }
  return .done

/-- The software engine in a slot. -/
def softwareEngine (slot : String) : Action (EngineId × Software.Engine) := do
  let id ← inSlot Session.engines slot
  match (← get).world.softwareEngine? id with
  | some engine => return (id, engine)
  | none => refuse (.noSlot slot)

/-- The build date as the whole process knows it. -/
def askBuildDate (engine : EngineId) : Action Answer := do
  let (outcome, buildDate) ←
    within engine (Context.readBuildDate (World.boundary engine) (← get).buildDate)
  modify fun session => { session with buildDate }
  return .text (← settled outcome)

def callNative (engine : EngineId) (call : NativeCall) (name : Option String) : Action Answer := do
  match ← within engine ((World.boundary engine).ask call) with
  | .error message => refuse (.failed (.panic message))
  | .ok reply =>
    match Answer.ofReply call reply with
    | .error e => refuse (.native e)
    | .ok answer =>
      if let .bytes signature := answer then
        save name signature
      return answer

/-- Puts the halves of a key pair, once it is generated, into two slots. -/
def putPair (engine slot : String) (algorithm : Software.KeyAlgorithm)
    (generate : Action (Except Software.GenerationFault (Software.Halves Software.KeyMaterial))) :
    Action Answer := do
  let (id, owner) ← softwareEngine engine
  match ← generate with
  | .error fault => refuse (.generation fault)
  | .ok pair =>
    let session ← get
    let (keys, world) := session.world.addPair id owner algorithm pair
    set { session with world }
    putKey (slot ++ ".private") (.software keys.privateKey)
    putKey (slot ++ ".public") (.software keys.publicKey)
    return .keyPair
      { privateKey := keys.privateKey.handle, publicKey := keys.publicKey.handle }

def createContext (slot engine : String) (fips : Bool) (source : ConfigSource) :
    Action Answer := do
  let engine ← inSlot Session.engines engine
  let boundary := World.boundary engine
  let context ←
    match source with
    | .environment environment =>
      attempt engine (Context.createFromEnvironment boundary fips environment.lookup)
    | .document document =>
      match ContextConfig.ofJson? document with
      | none => refuse .unreadable
      | some config => attempt engine (Context.create boundary fips config)
  modify fun session => { session with
    created := session.created.push { engine, context }
    contexts := session.contexts.insert slot session.created.size }
  return .context context.handle context.fips

/-- The context at a place. -/
def contextAt (name : String) (place : Nat) : Action OpenContext := do
  match (← get).created[place]? with
  | some context => return context
  | none => refuse (.noSlot name)

/-- Reads what a context keeps, and leaves the context as the reading leaves it. -/
def readKept (place : Nat) (opened : OpenContext)
    (read : Context → Native World (α × Context)) : Action α := do
  let (value, context) ← within opened.engine (read opened.context)
  modify fun session => { session with
    created := session.created.setIfInBounds place { opened with context } }
  return value

def contextStep (name : String) (step : ContextStep) : Action Answer := do
  let place ← inSlot Session.contexts name
  let opened ← contextAt name place
  let context := opened.context
  let boundary := World.boundary opened.engine
  match step with
  | .handle => return .handle context.handle.raw
  | .fips => return .flag context.fips
  | .text => return .text context.text
  | .diagnostic => return .text context.diagnostic
  | .version => return .text (← settled (← readKept place opened (·.readVersion boundary)))
  | .installPath =>
    return .text (← settled (← readKept place opened (·.readInstallPath boundary)))
  | .buildDate => askBuildDate opened.engine
  | .fipsApprovedMode =>
    return .flag (← attempt opened.engine (context.fipsApprovedMode boundary))
  | .versions callers =>
    return .texts (← readKept place opened (·.readVersions boundary callers))
  | .installPaths callers =>
    return .texts (← readKept place opened (·.readInstallPaths boundary callers))

def newDigest (slot context algorithm : String) : Action Answer := do
  let opened ← contextAt context (← inSlot Session.contexts context)
  let engine := opened.engine
  let digest ←
    attempt engine (Digest.create (World.boundary engine) opened.context.handle algorithm)
  putDigest slot { engine, digest }
  return .handle digest.handle.raw

def digestStep (name : String) (step : DigestStep) : Action Answer := do
  let { engine, digest } ← inSlot Session.digests name
  let boundary := World.boundary engine
  match step with
  | .update data =>
    let data ← operand data
    attempt engine (digest.update boundary data)
    return .done
  | .reset =>
    attempt engine (digest.reset boundary)
    return .done
  | .handle => return .handle digest.handle.raw
  | .algorithm => return .text digest.algorithm
  | .diagnostic => return .text digest.diagnostic

def newSignature (slot context algorithm : String) : Action Answer := do
  let place ← inSlot Session.contexts context
  let opened ← contextAt context place
  let engine := opened.engine
  let signature ←
    attempt engine (Signature.create (World.boundary engine) opened.context.handle algorithm)
  putSignature slot { engine, context := place, signature }
  return .done

/-- Binds a key with a reference of its own. -/
def startSignature (name : String) (opened : OpenSignature) (key : String) (plainRsa : Bool) :
    Action Answer := do
  let key ← inSlot Session.keys key
  modify fun session => { session with world := session.world.hold key }
  let (outcome, signature) ←
    within opened.engine (opened.signature.start (World.boundary opened.engine) key plainRsa)
  modify fun session => { session with
    signatures := session.signatures.insert name { opened with signature } }
  settled outcome
  return .done

def signatureStep (name : String) (step : SignatureStep) : Action Answer := do
  let opened ← inSlot Session.signatures name
  let { engine, signature, .. } := opened
  let boundary := World.boundary engine
  match step with
  | .start key plainRsa => startSignature name opened key plainRsa
  | .isInitialized => return .flag signature.isInitialized
  | .update data span =>
    let data ← operand data
    attempt engine (signature.update boundary data span)
    return .done
  | .updateAll data =>
    let data ← operand data
    attempt engine (signature.updateAll boundary data)
    return .done
  | .sign name =>
    let bytes ← attempt engine (signature.sign boundary)
    save name bytes
    return .bytes bytes
  | .verify candidate =>
    let candidate ← operand candidate
    return .flag (← attempt engine (signature.verify boundary candidate))
  | .algorithm => return .text signature.digest.algorithm
  | .context => return .text (← contextAt name opened.context).context.text
  | .diagnostic =>
    return .text (signature.diagnostic (← contextAt name opened.context).context)
  | .signs callers =>
    return .signatures (← within engine (signature.signs boundary callers))

def perform : Step → Action Answer
  | .newEngine slot document => newEngine slot document
  | .newScripted slot engine => newScripted slot engine
  | .engineDiagnostic engine => return .text (← softwareEngine engine).2.diagnostic
  | .buildDate engine => do askBuildDate (← inSlot Session.engines engine)
  | .native engine call data name => do
    let engine ← inSlot Session.engines engine
    let call ←
      match data with
      | none => pure call
      | some data => pure (withData (← operand data) call)
    callNative engine call name
  | .generateEc engine slot entropy =>
    putPair engine slot .ec do return Software.KeyMaterial.generateEc (← operand entropy)
  | .generateRsa engine slot bits p q =>
    putPair engine slot .rsa do return Software.KeyMaterial.generateRsa bits p q
  | .freeKey engine handle => do
    let (id, owner) ← softwareEngine engine
    let (freed, owner) := owner.freeKey handle
    modify fun session => { session with world := session.world.setEngine id (.software owner) }
    return .flag freed
  | .keyInfo key => do
    let key ← inSlot Session.keys key
    let session ← get
    let (handle, world) := session.world.readHandle key
    set { session with world }
    return .keyInfo handle key.algorithmName key.isPrivate?
  | .shareKey key slot => do
    let key ← inSlot Session.keys key
    modify fun session => { session with world := session.world.hold key }
    putKey slot key
    return .done
  | .keysEqual a b => do
    let a ← inSlot Session.keys a
    let b ← inSlot Session.keys b
    return .flag (a.same b)
  | .newKey slot handles algorithm => do
    let session ← get
    let (key, world) := session.world.addScriptedKey handles algorithm
    set { session with world }
    putKey slot key
    return .done
  | .setKey key handles => do
    let key ← inSlot Session.keys key
    modify fun session => { session with world := session.world.setHandles handles key }
    return .done
  | .createContext slot engine fips source => createContext slot engine fips source
  | .context context step => contextStep context step
  | .newDigest slot context algorithm => newDigest slot context algorithm
  | .digest digest step => digestStep digest step
  | .newSignature slot context algorithm => newSignature slot context algorithm
  | .signature signature step => signatureStep signature step
  | .drop kind name => return .flag (← dropSlot name kind)

/-- Takes a step. What happens until it fails, if it fails, has happened. -/
def step (session : Session) (step : Step) : Except StepError Answer × Session :=
  (perform step).run.run { session with calls := #[], events := #[] }

/-- The names of the slots in use, in order. -/
def slotNames (slots : Table String α) : List String := slots.keys.mergeSort

/-- Empties all slots of one kind, whatever comes of it. -/
def dropAll (kind : SlotKind) (names : List String) : Work Unit :=
  names.forM fun name => do
    let _ ← (dropSlot name kind).run

/-- Ends a session: signatures go first, as they hold on to the rest. -/
def finish (session : Session) : Session :=
  let work : Work Unit := do
    dropAll .signature (slotNames session.signatures)
    dropAll .digest (slotNames session.digests)
    dropAll .context (slotNames session.contexts)
    dropAll .key (slotNames session.keys)
  (work.run { session with calls := #[], events := #[] }).2

/-! ### What a session shows besides its answers -/

/-- The engines in slots, by slot name. -/
def enginesInOrder (session : Session) : List (String × Engine) :=
  (slotNames session.engines).filterMap fun name => do
    let id ← session.engines.find? name
    let engine ← session.world.engines[id]?
    return (name, engine)

/-- The numbers of digests and of keys that the software engines in slots keep. -/
def live (session : Session) : List (String × Nat × Nat) :=
  session.enginesInOrder.filterMap fun (name, engine) =>
    engine.software?.map fun software => (name, software.liveDigests, software.liveKeys)

/-- Whether a scripted engine is in a slot. -/
def hasScripted (session : Session) : Bool :=
  session.enginesInOrder.any fun (_, engine) => engine.software?.isNone

end Session

end SigningEngine
