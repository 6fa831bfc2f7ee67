import SigningEngine.Key
import SigningEngine.Scripted
import SigningEngine.Software.Engine

/-!
# Engines and keys of a process

A process has any number of engines, and of references to keys. Each reference is listed as often
as it is held. When the last reference to a key of a software engine is given back, the engine
forgets the material, unless it was made to forget it before.
-/

namespace SigningEngine

inductive Engine where
  | software (engine : Software.Engine)
  | scripted (engine : Scripted.Engine)

namespace Engine

def respond (call : NativeCall) : Engine → Response Engine call
  | software engine =>
    let response := engine.respond call
    { reply := response.reply, events := response.events, state := software response.state }
  | scripted engine =>
    let response := engine.respond call
    { reply := response.reply, events := response.events, state := scripted response.state }

def software? : Engine → Option Software.Engine
  | software engine => some engine
  | scripted _ => none

end Engine

structure World where
  engines : Array Engine := #[]
  /-- The handles that each scripted key will show. -/
  scriptedHandles : Array (List KeyHandle) := #[]
  /-- The references to keys that are held. -/
  references : List Key := []

namespace World

instance : Inhabited World := ⟨{}⟩

/-! ### Engines -/

def addEngine (world : World) (engine : Engine) : EngineId × World :=
  (world.engines.size, { world with engines := world.engines.push engine })

def setEngine (world : World) (id : EngineId) (engine : Engine) : World :=
  { world with engines := world.engines.setIfInBounds id engine }

def softwareEngine? (world : World) (id : EngineId) : Option Software.Engine :=
  world.engines[id]?.bind Engine.software?

/-- A call to an engine that does not exist panics. -/
def respond (world : World) (id : EngineId) (call : NativeCall) : Response World call :=
  match world.engines[id]? with
  | none => { reply := .error "no engine", state := world }
  | some engine =>
    let response := engine.respond call
    { reply := response.reply, events := response.events,
      state := world.setEngine id response.state }

/-! ### References to keys -/

def hold (world : World) (key : Key) : World :=
  { world with references := key :: world.references }

/-- What follows when no reference to a key is left. -/
def forget (world : World) : Key → World
  | .scripted _ => world
  | .software key =>
    match world.softwareEngine? key.engine with
    | none => world
    | some engine => world.setEngine key.engine (.software (engine.eraseKey key.handle))

/-- Gives back one reference. -/
def release (world : World) (key : Key) : World :=
  let references := world.references.erase key
  let world := { world with references }
  if key ∈ references then world else world.forget key

/-- A scripted key shows its handles one after the other, and the last one from then on. Without
any it shows the invalid handle. -/
def readHandle (world : World) : Key → KeyHandle × World
  | .software key => (key.handle, world)
  | .scripted key =>
    match world.scriptedHandles[key.index]? with
    | some (handle :: next :: rest) =>
      (handle, { world with
        scriptedHandles := world.scriptedHandles.setIfInBounds key.index (next :: rest) })
    | some [handle] => (handle, world)
    | _ => (.invalid, world)

/-- Adds a scripted key, with one reference to it. -/
def addScriptedKey (world : World) (handles : List KeyHandle) (algorithm : String) :
    Key × World :=
  let key := Key.scripted { index := world.scriptedHandles.size, algorithm }
  (key, { world with scriptedHandles := world.scriptedHandles.push handles }.hold key)

/-- Lays down the handles that a scripted key shows from now on. -/
def setHandles (world : World) (handles : List KeyHandle) : Key → World
  | .software _ => world
  | .scripted key =>
    { world with scriptedHandles := world.scriptedHandles.setIfInBounds key.index handles }

/-- Registers a generated key pair with a software engine, and holds one reference to each half. -/
def addPair (world : World) (id : EngineId) (engine : Software.Engine)
    (algorithm : Software.KeyAlgorithm) (pair : Software.Halves Software.KeyMaterial) :
    Software.Halves SoftwareKey × World :=
  let (handles, engine) := engine.registerPair pair
  let privateKey : SoftwareKey :=
    { engine := id, handle := handles.privateKey, algorithm, isPrivate := true }
  let publicKey : SoftwareKey :=
    { engine := id, handle := handles.publicKey, algorithm, isPrivate := false }
  ({ privateKey, publicKey },
    ((world.setEngine id (.software engine)).hold (.software privateKey)).hold
      (.software publicKey))

/-- The surroundings of what runs over one of the engines. -/
def boundary (id : EngineId) : Boundary World Key where
  answer call world := world.respond id call
  keyHandle key world := world.readHandle key
  keyAlgorithm := Key.algorithmName
  release key world := world.release key

end World

end SigningEngine
