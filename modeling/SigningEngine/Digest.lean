import SigningEngine.Context.Basic

/-!
# Digests

A digest is an accumulator of one algorithm that the engine keeps under a handle. It remembers the
context it was created in and is freed there.
-/

namespace SigningEngine

structure Digest where
  context : ContextHandle
  handle : DigestHandle
  algorithm : String
  deriving DecidableEq, Repr

namespace Digest

variable {σ κ : Type} (boundary : Boundary σ κ)

/-- Creates a digest. A handle that names nothing is refused, and there is then nothing to free. -/
def create (context : ContextHandle) (algorithm : String) : Attempt σ Digest := do
  let handle ← (boundary.request (.digestCreate context algorithm)).orError fun e =>
    .init ("failed to create " ++ algorithm ++ " digest: " ++ e.message)
  if handle.isValid then
    return { context, handle, algorithm }
  else
    Attempt.fail (.init ("engine returned an invalid handle for " ++ algorithm ++ " digest"))

def update (digest : Digest) (data : Bytes) : Attempt σ Unit :=
  (boundary.request (.digestUpdate digest.context digest.handle data)).orError fun e =>
    .operation (digest.algorithm ++ " digest update failed: " ++ e.message)

/-- Discards everything accumulated so far. -/
def reset (digest : Digest) : Attempt σ Unit :=
  (boundary.request (.digestReset digest.context digest.handle)).orError fun e =>
    .operation (digest.algorithm ++ " digest reset failed: " ++ e.message)

/-- Frees the accumulator. A failure that the engine reports is logged and goes no further. -/
def free (digest : Digest) : Attempt σ Unit := do
  match (← boundary.request (.digestFree digest.context digest.handle) :
      Except NativeError Unit) with
  | .ok () => return
  | .error e => Attempt.log (.digestNotFreed digest.algorithm digest.handle e)

def diagnostic (digest : Digest) : String :=
  "Digest \x7b handle: " ++ digest.handle.diagnostic ++
    ", algorithm: " ++ Text.quoted digest.algorithm ++ ", .. \x7d"

end Digest

end SigningEngine
