import SigningEngine.Crypto.Sha2

/-!
# Keyed hashes and the bits drawn from them

The message authentication code over SHA-256, and the generator that draws numbers from a secret
and a seed with it. Its draws depend on nothing else, which makes signatures with such draws
deterministic.
-/

namespace SigningEngine.Hmac

def blockBytes : Nat := 64

/-- The key filled up to a block; a longer key is hashed first. -/
def blockKey (key : Bytes) : Bytes :=
  let key := if key.length ≤ blockBytes then key else Sha2.sha256 key
  key ++ List.replicate (blockBytes - key.length) 0

def sha256 (key message : Bytes) : Bytes :=
  let key := blockKey key
  Sha2.sha256 (key.map (· ^^^ 0x5c) ++ Sha2.sha256 (key.map (· ^^^ 0x36) ++ message))

/-- The state of the generator. -/
structure Generator where
  key : Bytes
  value : Bytes

namespace Generator

/-- Mixes input into the state, twice unless it is empty. -/
def update (g : Generator) (input : Bytes) : Generator :=
  let key := sha256 g.key (g.value ++ 0 :: input)
  let value := sha256 key g.value
  if input.isEmpty then ⟨key, value⟩
  else
    let key := sha256 key (value ++ 1 :: input)
    ⟨key, sha256 key value⟩

def seed (input : Bytes) : Generator :=
  update ⟨List.replicate 32 0, List.replicate 32 1⟩ input

/-- Draws 32 bytes. -/
def draw (g : Generator) : Bytes × Generator :=
  let value := sha256 g.key g.value
  (value, ⟨g.key, value⟩)

/-- The first number that is accepted among `attempts` draws; the state is mixed after a draw that
is not. -/
def drawNumber (accept : Nat → Bool) : (attempts : Nat) → Generator → Option Nat
  | 0, _ => none
  | attempts + 1, g =>
    let (drawn, g) := g.draw
    if accept (Bytes.toNat drawn) then some (Bytes.toNat drawn)
    else drawNumber accept attempts (g.update [])

end Generator

end SigningEngine.Hmac
