import SigningEngine.Native.Boundary

/-!
# Scripted engines

An engine whose replies are laid down beforehand, for each kind of call one list. It keeps no state
besides, so it may contradict itself, fail at any call, and panic.
-/

namespace SigningEngine.Scripted

/-- Replies to be given in order, and the reply to be given each time when they are used up. -/
structure Script (ρ : Type) where
  upcoming : List (Except String ρ) := []
  rest : Except String ρ

namespace Script

variable {ρ : Type}

def next (script : Script ρ) : Except String ρ × Script ρ :=
  match script.upcoming with
  | [] => (script.rest, script)
  | reply :: upcoming => (reply, { script with upcoming })

end Script

structure Engine where
  createContext : Script (Except NativeError ContextHandle) := { rest := .ok (.ok ⟨1⟩) }
  validateLocation : Script (Except NativeError Unit) := { rest := .ok (.ok ()) }
  validateVersion : Script (Except NativeError Unit) := { rest := .ok (.ok ()) }
  scalarValue : Script (Except NativeError String) := { rest := .ok (.ok "") }
  libraryBuildDate : Script String := { rest := .ok "scripted" }
  digestCreate : Script (Except NativeError DigestHandle) := { rest := .ok (.ok ⟨20⟩) }
  digestUpdate : Script (Except NativeError Unit) := { rest := .ok (.ok ()) }
  digestReset : Script (Except NativeError Unit) := { rest := .ok (.ok ()) }
  digestFree : Script (Except NativeError Unit) := { rest := .ok (.ok ()) }
  sign : Script (Except NativeError Bytes) := { rest := .ok (.ok [0x5a, 0x5a]) }
  verify : Script (Except NativeError Bool) := { rest := .ok (.ok true) }

namespace Engine

instance : Inhabited Engine := ⟨{}⟩

def respond (engine : Engine) : (call : NativeCall) → Response Engine call
  | .createContext _ =>
    let (reply, script) := engine.createContext.next
    { reply, state := { engine with createContext := script } }
  | .validateLocation _ =>
    let (reply, script) := engine.validateLocation.next
    { reply, state := { engine with validateLocation := script } }
  | .validateVersion _ =>
    let (reply, script) := engine.validateVersion.next
    { reply, state := { engine with validateVersion := script } }
  | .scalarValue _ _ =>
    let (reply, script) := engine.scalarValue.next
    { reply, state := { engine with scalarValue := script } }
  | .libraryBuildDate =>
    let (reply, script) := engine.libraryBuildDate.next
    { reply, state := { engine with libraryBuildDate := script } }
  | .digestCreate _ _ =>
    let (reply, script) := engine.digestCreate.next
    { reply, state := { engine with digestCreate := script } }
  | .digestUpdate _ _ _ =>
    let (reply, script) := engine.digestUpdate.next
    { reply, state := { engine with digestUpdate := script } }
  | .digestReset _ _ =>
    let (reply, script) := engine.digestReset.next
    { reply, state := { engine with digestReset := script } }
  | .digestFree _ _ =>
    let (reply, script) := engine.digestFree.next
    { reply, state := { engine with digestFree := script } }
  | .sign _ _ _ _ =>
    let (reply, script) := engine.sign.next
    { reply, state := { engine with sign := script } }
  | .verify _ _ _ _ =>
    let (reply, script) := engine.verify.next
    { reply, state := { engine with verify := script } }

end Engine

end SigningEngine.Scripted
