import SigningEngine.Digest
import SigningEngine.Span

/-!
# Signing and verifying

A signature engine joins a digest and a key. Data may be fed to the digest at any time; a key has to
be bound before anything is signed or verified. Once the engine has been called to sign or to
verify, the digest is reset, whatever came of the call.

A key is bound by a reference to it. The engine gives the reference back when another key takes its
place, and when the engine is dropped.
-/

namespace SigningEngine

structure Signature (κ : Type) where
  digest : Digest
  /-- The bound key. -/
  key : Option κ := none
  plainRsa : Bool := false
  deriving DecidableEq, Repr

namespace Signature

variable {σ κ α : Type} (boundary : Boundary σ κ)

def create (context : ContextHandle) (algorithm : String) : Attempt σ (Signature κ) := do
  return { digest := ← Digest.create boundary context algorithm }

def isInitialized (signature : Signature κ) : Bool := signature.key.isSome

/-- Feeds a slice of a buffer. -/
def update (signature : Signature κ) (buffer : Bytes) (span : Span) : Attempt σ Unit :=
  match span.slice? buffer with
  | some data => signature.digest.update boundary data
  | none =>
    Attempt.fail (.invalidArgument
      ("Bad input parameters to Signature update: offset " ++ toString span.offset.toNat ++
        ", length " ++ toString span.length.toNat ++
        ", buffer length " ++ toString buffer.length))

def updateAll (signature : Signature κ) (buffer : Bytes) : Attempt σ Unit :=
  signature.update boundary buffer (.all buffer)

/-- Takes over a reference to a key and starts a fresh message. What was bound before is unbound
first, so it stays so when the digest cannot be reset or the key has no handle. -/
def start (signature : Signature κ) (key : κ) (plainRsa : Bool) :
    Native σ (Except Failure Unit × Signature κ) := do
  if let some previous := signature.key then
    boundary.giveBack previous
  let unbound := { signature with key := none, plainRsa := false }
  match ← (signature.digest.reset boundary).outcome with
  | .error failure =>
    boundary.giveBack key
    return (.error failure, unbound)
  | .ok () =>
    let handle ← boundary.readHandle key
    if handle.isValid then
      Native.log (.signatureInitialized (boundary.keyAlgorithm key) signature.digest.algorithm
        plainRsa)
      return (.ok (), { signature with key := some key, plainRsa })
    else
      boundary.giveBack key
      return (.error (.error (.invalidKey
        (boundary.keyAlgorithm key ++ " key has no native identifier"))), unbound)

/-- The handle of the bound key, read once and checked together with the digest's. -/
def checkedKeyHandle (signature : Signature κ) : Attempt σ KeyHandle := do
  match signature.key with
  | none => Attempt.fail (.illegalState "Signature not initialized")
  | some key =>
    let handle ← boundary.readHandle key
    if signature.digest.handle.isValid && handle.isValid then
      return handle
    else
      Attempt.fail (.operation "Digest Identifier or PKey Identifier is not valid")

/-- Resets the digest behind a reply to the named operation. A failure of the operation comes before
one of the reset, and a panic of the operation before both. -/
def settle (signature : Signature κ) (operation : String)
    (reply : Except String (Except NativeError α)) : Attempt σ α := do
  let reset ← (signature.digest.reset boundary).caught
  match reply, reset with
  | .error message, .ok () => throw (.panic message)
  | .error message, .error (.error e) =>
    Attempt.log (.resetFailedUnwinding e)
    throw (.panic message)
  | .error _, .error _ => throw .abort
  | .ok (.ok value), .ok () => return value
  | .ok (.ok _), .error failure => throw failure
  | .ok (.error e), .ok () => Attempt.fail (.operation (operation ++ " failed: " ++ e.message))
  | .ok (.error e), .error (.error resetError) =>
    Attempt.log (.resetFailedAfterFailure operation resetError)
    Attempt.fail (.operation (operation ++ " failed: " ++ e.message))
  | .ok (.error _), .error failure => throw failure

/-- Signs what was fed since the last reset. -/
def sign (signature : Signature κ) : Attempt σ Bytes := do
  let key ← signature.checkedKeyHandle boundary
  let reply ← boundary.ask
    (.sign signature.digest.context signature.digest.handle key signature.plainRsa)
  signature.settle boundary "sign" reply

/-- What several callers at once get who sign. The engine serves one of them at a time, and each
finds the digest as the one before left it. -/
def signs (signature : Signature κ) (callers : Nat) : Native σ (List (Except Failure Bytes)) :=
  (List.replicate callers ()).mapM fun _ => (signature.sign boundary).outcome

/-- Whether `candidate` is a signature of what was fed since the last reset. -/
def verify (signature : Signature κ) (candidate : Bytes) : Attempt σ Bool := do
  let key ← signature.checkedKeyHandle boundary
  let reply ← boundary.ask
    (.verify signature.digest.context signature.digest.handle key candidate)
  signature.settle boundary "verify" reply

/-- Frees the digest and gives the key back, also when freeing panics. -/
def drop (signature : Signature κ) : Attempt σ Unit := do
  let freed ← (signature.digest.free boundary).caught
  if let some key := signature.key then
    boundary.giveBack key
  Attempt.ofOutcome freed

/-- The form in diagnostic output, which shows the context as it is now. -/
def diagnostic (signature : Signature κ) (context : Context) : String :=
  "SignatureEngine \x7b context: " ++ context.diagnostic ++
    ", digest: " ++ signature.digest.diagnostic ++
    ", initialized: " ++ toString signature.isInitialized ++
    ", convert_key_for_plain_rsa: " ++ toString signature.plainRsa ++ " \x7d"

end Signature

end SigningEngine
