import SigningEngine.Text.Hex

/-!
# Byte strings

Byte strings are lists of bytes. They denote numbers with the most significant byte first, and are
shown in hexadecimal.
-/

namespace SigningEngine

abbrev Bytes := List UInt8

namespace Bytes

/-- The number that a byte string denotes. -/
def toNat (s : Bytes) : Nat := s.foldl (fun n b => n * 256 + b.toNat) 0

/-- The lowest `length` bytes of a number. -/
def ofNat : (length : Nat) → Nat → Bytes
  | 0, _ => []
  | length + 1, n => ofNat length (n / 256) ++ [UInt8.ofNat n]

def ofText (s : String) : Bytes := s.toUTF8.toList

/-- The text that a byte string encodes, if it encodes one. -/
def text? (s : Bytes) : Option String := String.fromUTF8? ⟨s.toArray⟩

def toHex (s : Bytes) : String :=
  String.ofList (s.flatMap fun b => [Text.hexDigit (b.toNat / 16), Text.hexDigit (b.toNat % 16)])

def ofHexChars? : List Char → Option Bytes
  | [] => some []
  | [_] => none
  | high :: low :: rest => do
    let high ← Text.hexValue? high
    let low ← Text.hexValue? low
    return UInt8.ofNat (high * 16 + low) :: (← ofHexChars? rest)

/-- The byte string that pairs of hexadecimal digits spell. -/
def ofHex? (s : String) : Option Bytes := ofHexChars? s.toList

/-- `count` copies of a byte string, one behind the other. -/
def repeated (count : Nat) (s : Bytes) : Bytes := (List.replicate count s).flatten

@[simp] theorem toNat_nil : toNat [] = 0 := rfl

theorem toNat_concat (s : Bytes) (b : UInt8) : toNat (s ++ [b]) = toNat s * 256 + b.toNat := by
  simp [toNat, List.foldl_append]

@[simp] theorem length_ofNat (length n : Nat) : (ofNat length n).length = length := by
  induction length generalizing n with
  | zero => rfl
  | succ length ih => simp [ofNat, ih]

end Bytes

end SigningEngine
