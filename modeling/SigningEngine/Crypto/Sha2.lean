import SigningEngine.Bytes

/-!
# The SHA-2 hash functions

The functions for words of 32 and of 64 bits run the same rounds over blocks of sixteen words. They
differ in the width of a word, the amounts by which words are rotated, the constant of each round,
and the registers that they start from. A hash is the front part of the final registers.
-/

namespace SigningEngine.Sha2

/-- What distinguishes the functions on words of one width. -/
structure Family (W : Type) where
  wordBytes : Nat
  bigSigma0 : W → W
  bigSigma1 : W → W
  smallSigma0 : W → W
  smallSigma1 : W → W
  constants : List W
  ofNat : Nat → W
  toNat : W → Nat

structure Registers (W : Type) where
  a : W
  b : W
  c : W
  d : W
  e : W
  f : W
  g : W
  h : W

namespace Registers

variable {W : Type}

def toList (r : Registers W) : List W := [r.a, r.b, r.c, r.d, r.e, r.f, r.g, r.h]

def add [Add W] (r s : Registers W) : Registers W :=
  ⟨r.a + s.a, r.b + s.b, r.c + s.c, r.d + s.d, r.e + s.e, r.f + s.f, r.g + s.g, r.h + s.h⟩

end Registers

namespace Family

variable {W : Type} [Add W] [AndOp W] [XorOp W] [Complement W] [Inhabited W] (family : Family W)

def blockBytes : Nat := 16 * family.wordBytes

/-- Where the bits of `x` are set those of `y`, elsewhere those of `z`. -/
@[specialize] def choose (x y z : W) : W := (x &&& y) ^^^ (~~~x &&& z)

@[specialize] def majority (x y z : W) : W := (x &&& y) ^^^ (x &&& z) ^^^ (y &&& z)

/-- Puts `n` words in front of a schedule, which is kept in reverse. -/
@[specialize] def extendSchedule : (n : Nat) → List W → List W
  | 0, schedule => schedule
  | n + 1, schedule =>
    extendSchedule n
      ((family.smallSigma1 (schedule.getD 1 default) + schedule.getD 6 default +
        family.smallSigma0 (schedule.getD 14 default) + schedule.getD 15 default) :: schedule)

/-- One word for each round, the first sixteen from the block. -/
@[specialize] def schedule (block : List W) : List W :=
  (family.extendSchedule (family.constants.length - 16) block.reverse).reverse

@[specialize] def round (r : Registers W) (constant word : W) : Registers W :=
  let t₁ := r.h + family.bigSigma1 r.e + choose r.e r.f r.g + constant + word
  let t₂ := family.bigSigma0 r.a + majority r.a r.b r.c
  ⟨t₁ + t₂, r.a, r.b, r.c, r.d + t₁, r.e, r.f, r.g⟩

@[specialize] def compress (r : Registers W) (block : List W) : Registers W :=
  r.add ((family.constants.zip (family.schedule block)).foldl
    (fun r (constant, word) => family.round r constant word) r)

omit [Add W] [AndOp W] [XorOp W] [Complement W] [Inhabited W] in
/-- A one bit, the fewest zero bits that fill up the last block, and the length in bits. -/
def padding (length : Nat) : Bytes :=
  let block := family.blockBytes
  let zeros := (2 * block - 1 - 2 * family.wordBytes - length % block) % block
  0x80 :: List.replicate zeros 0 ++ Bytes.ofNat (2 * family.wordBytes) (8 * length)

omit [Add W] [AndOp W] [XorOp W] [Complement W] [Inhabited W] in
/-- The first `count` words of a byte string. -/
def words : (count : Nat) → Bytes → List W
  | 0, _ => []
  | count + 1, s =>
    family.ofNat (Bytes.toNat (s.take family.wordBytes)) ::
      words count (s.drop family.wordBytes)

/-- The registers behind `count` blocks. -/
@[specialize] def absorb : (count : Nat) → Registers W → Bytes → Registers W
  | 0, r, _ => r
  | count + 1, r, s =>
    absorb count (family.compress r (family.words 16 s)) (s.drop family.blockBytes)

@[specialize] def hash (start : Registers W) (message : Bytes) : Bytes :=
  let padded := message ++ family.padding message.length
  let final := family.absorb (padded.length / family.blockBytes) start padded
  final.toList.flatMap fun word => Bytes.ofNat family.wordBytes (family.toNat word)

end Family

def rotate32 (amount : UInt32) (x : UInt32) : UInt32 := (x >>> amount) ||| (x <<< (32 - amount))

def rotate64 (amount : UInt64) (x : UInt64) : UInt64 := (x >>> amount) ||| (x <<< (64 - amount))

/-- The functions on words of 32 bits. -/
def narrow : Family UInt32 where
  wordBytes := 4
  bigSigma0 x := rotate32 2 x ^^^ rotate32 13 x ^^^ rotate32 22 x
  bigSigma1 x := rotate32 6 x ^^^ rotate32 11 x ^^^ rotate32 25 x
  smallSigma0 x := rotate32 7 x ^^^ rotate32 18 x ^^^ (x >>> 3)
  smallSigma1 x := rotate32 17 x ^^^ rotate32 19 x ^^^ (x >>> 10)
  constants := [
    0x428a2f98, 0x71374491, 0xb5c0fbcf, 0xe9b5dba5, 0x3956c25b, 0x59f111f1, 0x923f82a4, 0xab1c5ed5,
    0xd807aa98, 0x12835b01, 0x243185be, 0x550c7dc3, 0x72be5d74, 0x80deb1fe, 0x9bdc06a7, 0xc19bf174,
    0xe49b69c1, 0xefbe4786, 0x0fc19dc6, 0x240ca1cc, 0x2de92c6f, 0x4a7484aa, 0x5cb0a9dc, 0x76f988da,
    0x983e5152, 0xa831c66d, 0xb00327c8, 0xbf597fc7, 0xc6e00bf3, 0xd5a79147, 0x06ca6351, 0x14292967,
    0x27b70a85, 0x2e1b2138, 0x4d2c6dfc, 0x53380d13, 0x650a7354, 0x766a0abb, 0x81c2c92e, 0x92722c85,
    0xa2bfe8a1, 0xa81a664b, 0xc24b8b70, 0xc76c51a3, 0xd192e819, 0xd6990624, 0xf40e3585, 0x106aa070,
    0x19a4c116, 0x1e376c08, 0x2748774c, 0x34b0bcb5, 0x391c0cb3, 0x4ed8aa4a, 0x5b9cca4f, 0x682e6ff3,
    0x748f82ee, 0x78a5636f, 0x84c87814, 0x8cc70208, 0x90befffa, 0xa4506ceb, 0xbef9a3f7, 0xc67178f2]
  ofNat := UInt32.ofNat
  toNat := UInt32.toNat

/-- The functions on words of 64 bits. -/
def wide : Family UInt64 where
  wordBytes := 8
  bigSigma0 x := rotate64 28 x ^^^ rotate64 34 x ^^^ rotate64 39 x
  bigSigma1 x := rotate64 14 x ^^^ rotate64 18 x ^^^ rotate64 41 x
  smallSigma0 x := rotate64 1 x ^^^ rotate64 8 x ^^^ (x >>> 7)
  smallSigma1 x := rotate64 19 x ^^^ rotate64 61 x ^^^ (x >>> 6)
  constants := [
    0x428a2f98d728ae22, 0x7137449123ef65cd, 0xb5c0fbcfec4d3b2f, 0xe9b5dba58189dbbc,
    0x3956c25bf348b538, 0x59f111f1b605d019, 0x923f82a4af194f9b, 0xab1c5ed5da6d8118,
    0xd807aa98a3030242, 0x12835b0145706fbe, 0x243185be4ee4b28c, 0x550c7dc3d5ffb4e2,
    0x72be5d74f27b896f, 0x80deb1fe3b1696b1, 0x9bdc06a725c71235, 0xc19bf174cf692694,
    0xe49b69c19ef14ad2, 0xefbe4786384f25e3, 0x0fc19dc68b8cd5b5, 0x240ca1cc77ac9c65,
    0x2de92c6f592b0275, 0x4a7484aa6ea6e483, 0x5cb0a9dcbd41fbd4, 0x76f988da831153b5,
    0x983e5152ee66dfab, 0xa831c66d2db43210, 0xb00327c898fb213f, 0xbf597fc7beef0ee4,
    0xc6e00bf33da88fc2, 0xd5a79147930aa725, 0x06ca6351e003826f, 0x142929670a0e6e70,
    0x27b70a8546d22ffc, 0x2e1b21385c26c926, 0x4d2c6dfc5ac42aed, 0x53380d139d95b3df,
    0x650a73548baf63de, 0x766a0abb3c77b2a8, 0x81c2c92e47edaee6, 0x92722c851482353b,
    0xa2bfe8a14cf10364, 0xa81a664bbc423001, 0xc24b8b70d0f89791, 0xc76c51a30654be30,
    0xd192e819d6ef5218, 0xd69906245565a910, 0xf40e35855771202a, 0x106aa07032bbd1b8,
    0x19a4c116b8d2d0c8, 0x1e376c085141ab53, 0x2748774cdf8eeb99, 0x34b0bcb5e19b48a8,
    0x391c0cb3c5c95a63, 0x4ed8aa4ae3418acb, 0x5b9cca4f7763e373, 0x682e6ff3d6b2b8a3,
    0x748f82ee5defb2fc, 0x78a5636f43172f60, 0x84c87814a1f0ab72, 0x8cc702081a6439ec,
    0x90befffa23631e28, 0xa4506cebde82bde9, 0xbef9a3f7b2c67915, 0xc67178f2e372532b,
    0xca273eceea26619c, 0xd186b8c721c0c207, 0xeada7dd6cde0eb1e, 0xf57d4f7fee6ed178,
    0x06f067aa72176fba, 0x0a637dc5a2c898a6, 0x113f9804bef90dae, 0x1b710b35131c471b,
    0x28db77f523047d84, 0x32caab7b40c72493, 0x3c9ebe0a15c9bebc, 0x431d67c49c100d4c,
    0x4cc5d4becb3e42b6, 0x597f299cfc657e2a, 0x5fcb6fab3ad6faec, 0x6c44198c4a475817]
  ofNat := UInt64.ofNat
  toNat := UInt64.toNat

def start256 : Registers UInt32 :=
  ⟨0x6a09e667, 0xbb67ae85, 0x3c6ef372, 0xa54ff53a,
    0x510e527f, 0x9b05688c, 0x1f83d9ab, 0x5be0cd19⟩

def start384 : Registers UInt64 :=
  ⟨0xcbbb9d5dc1059ed8, 0x629a292a367cd507,
    0x9159015a3070dd17, 0x152fecd8f70e5939,
    0x67332667ffc00b31, 0x8eb44a8768581511,
    0xdb0c2e0d64f98fa7, 0x47b5481dbefa4fa4⟩

def start512 : Registers UInt64 :=
  ⟨0x6a09e667f3bcc908, 0xbb67ae8584caa73b,
    0x3c6ef372fe94f82b, 0xa54ff53a5f1d36f1,
    0x510e527fade682d1, 0x9b05688c2b3e6c1f,
    0x1f83d9abfb41bd6b, 0x5be0cd19137e2179⟩

def sha256 (message : Bytes) : Bytes := narrow.hash start256 message

def sha384 (message : Bytes) : Bytes := (wide.hash start384 message).take 48

def sha512 (message : Bytes) : Bytes := wide.hash start512 message

end SigningEngine.Sha2
