import SigningEngine.Bytes

/-!
# Pairs of integers in distinguished encoding

A signature is a sequence of two non-negative integers. Each part is a tag, a length and a content;
an integer has the fewest bytes that leave its sign bit clear. A pair of integers below `2 ^ 256`
has a content shorter than 128 bytes, whose length is one byte; no other length is read, as longer
integers are no part of any signature of the curve in use.
-/

namespace SigningEngine.Der

/-- The bytes of a number without leading zeros. -/
def magnitude (n : Nat) : Bytes :=
  if n = 0 then [] else magnitude (n / 256) ++ [UInt8.ofNat n]
termination_by n
decreasing_by omega

/-- The content of an integer: a zero byte goes in front where the sign bit would be set. -/
def integerContent (n : Nat) : Bytes :=
  match magnitude n with
  | [] => [0]
  | b :: rest => if b < 0x80 then b :: rest else 0 :: b :: rest

def element (tag : UInt8) (content : Bytes) : Bytes :=
  tag :: UInt8.ofNat content.length :: content

def integer (n : Nat) : Bytes := element 0x02 (integerContent n)

def pair (m n : Nat) : Bytes := element 0x30 (integer m ++ integer n)

/-- The content of the element at the front, and what follows the element. -/
def element? (tag : UInt8) : Bytes → Option (Bytes × Bytes)
  | t :: length :: rest =>
    if t = tag && length < 0x80 && length.toNat ≤ rest.length then
      some (rest.take length.toNat, rest.drop length.toNat)
    else none
  | _ => none

/-- The number that a content denotes, if it is the shortest one of a non-negative number. -/
def integerContent? : Bytes → Option Nat
  | [] => none
  | [b] => if b < 0x80 then some b.toNat else none
  | b :: c :: rest =>
    if 0x80 ≤ b || (b = 0 && c < 0x80) then none else some (Bytes.toNat (b :: c :: rest))

def integer? (s : Bytes) : Option (Nat × Bytes) := do
  let (content, rest) ← element? 0x02 s
  return (← integerContent? content, rest)

/-- The pair that a byte string encodes, with nothing behind it. -/
def pair? (s : Bytes) : Option (Nat × Nat) := do
  let (content, behind) ← element? 0x30 s
  let (m, rest) ← integer? content
  let (n, rest) ← integer? rest
  if behind.isEmpty && rest.isEmpty then some (m, n) else none

end SigningEngine.Der
