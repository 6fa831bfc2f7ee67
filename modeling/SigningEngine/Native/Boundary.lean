import SigningEngine.Event

/-!
# The boundary to an engine

The binding layer is defined over any surroundings: an engine that may answer each call as it
likes, from a state `σ` of its own, and keys of a type `κ` whose handle may be another one at each
reading. An operation runs over the state of the surroundings and records the calls it makes and the
events it logs.

An operation that does not return a value fails in one of three ways. It reports an error; or a call
to the engine panicked, and the panic passes through; or a second panic met the first one, which
ends the process.
-/

namespace SigningEngine

/-- What an engine gives for a call: its reply, unless it panics with a message, the events it logs
meanwhile, and its next state. -/
structure Response (σ : Type) (call : NativeCall) where
  reply : Except String call.Reply
  events : List Event := []
  state : σ

/-- The surroundings of the binding layer. -/
structure Boundary (σ κ : Type) where
  answer : (call : NativeCall) → σ → Response σ call
  /-- Reads the handle of a key. -/
  keyHandle : κ → σ → KeyHandle × σ
  keyAlgorithm : κ → String
  /-- Gives back one reference to a key. -/
  release : κ → σ → σ

/-- How an operation ends that does not return a value. -/
inductive Failure where
  | error (e : EngineError)
  | panic (message : String)
  | abort
  deriving DecidableEq, Repr

/-- The state of the surroundings, and what happened so far. -/
structure Run (σ : Type) where
  state : σ
  calls : Array NativeCall := #[]
  events : Array Event := #[]

/-- An operation over the surroundings that always returns. -/
abbrev Native (σ : Type) := StateM (Run σ)

/-- An operation over the surroundings that may fail. -/
abbrev Attempt (σ : Type) := ExceptT Failure (Native σ)

namespace Native

variable {σ : Type}

def log (event : Event) : Native σ Unit :=
  modify fun run => { run with events := run.events.push event }

end Native

namespace Attempt

variable {σ α : Type}

def fail (e : EngineError) : Attempt σ α := throw (.error e)

def log (event : Event) : Attempt σ Unit := ExceptT.lift (Native.log event)

/-- The outcome of an attempt as a value. -/
def outcome (attempt : Attempt σ α) : Native σ (Except Failure α) := attempt.run

/-- Goes on behind an attempt whatever its outcome. -/
def caught (attempt : Attempt σ α) : Attempt σ (Except Failure α) := ExceptT.lift attempt.outcome

/-- An attempt with this outcome. -/
def ofOutcome (outcome : Except Failure α) : Attempt σ α := ExceptT.mk (pure outcome)

/-- Turns a failure that the engine reports into an error. -/
def orError (reply : Attempt σ (Except NativeError α)) (error : NativeError → EngineError) :
    Attempt σ α := do
  match ← reply with
  | .ok value => return value
  | .error e => fail (error e)

end Attempt

namespace Boundary

variable {σ κ : Type} (boundary : Boundary σ κ)

/-- Makes a call; the reply is an error if the engine panics. -/
def ask (call : NativeCall) : Native σ (Except String call.Reply) := fun run =>
  let response := boundary.answer call run.state
  (response.reply,
    { state := response.state
      calls := run.calls.push call
      events := run.events ++ response.events })

/-- Makes a call and lets a panic pass. -/
def request (call : NativeCall) : Attempt σ call.Reply := do
  match ← boundary.ask call with
  | .ok reply => return reply
  | .error message => throw (.panic message)

def readHandle (key : κ) : Native σ KeyHandle := fun run =>
  let (handle, state) := boundary.keyHandle key run.state
  (handle, { run with state })

def giveBack (key : κ) : Native σ Unit :=
  modify fun run => { run with state := boundary.release key run.state }

end Boundary

end SigningEngine
