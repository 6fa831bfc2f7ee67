/-!
# Decimal numerals

Writing a number takes the fewest digits. Reading accepts an optional plus sign and any number of
leading zeros, and stops at the first fault from the left: a character that is no digit, or a
digit that takes the number past the largest one.
-/

namespace SigningEngine.Text

/-- Why a text is no numeral of a number below the bound. -/
inductive NumeralError where
  | empty
  | invalidDigit
  | tooLarge
  deriving DecidableEq, Repr

namespace NumeralError

def message : NumeralError → String
  | empty => "cannot parse integer from empty string"
  | invalidDigit => "invalid digit found in string"
  | tooLarge => "number too large to fit in target type"

end NumeralError

def digitValue? (c : Char) : Option Nat :=
  if c.isDigit then some (c.toNat - '0'.toNat) else none

/-- Reads digits behind those already read, which denote `value`. -/
def readDigits (bound : Nat) : Nat → List Char → Except NumeralError Nat
  | value, [] => .ok value
  | value, c :: rest =>
    match digitValue? c with
    | none => .error .invalidDigit
    | some digit =>
      if value * 10 + digit < bound then readDigits bound (value * 10 + digit) rest
      else .error .tooLarge

/-- The number below `bound` that a text denotes. -/
def readNumeral (bound : Nat) (s : List Char) : Except NumeralError Nat :=
  match s with
  | [] => .error .empty
  | ['+'] => .error .invalidDigit
  | '+' :: digits => readDigits bound 0 digits
  | digits => readDigits bound 0 digits

def readUInt32 (s : String) : Except NumeralError UInt32 :=
  (readNumeral UInt32.size s.toList).map UInt32.ofNat

def readUInt64 (s : String) : Except NumeralError UInt64 :=
  (readNumeral UInt64.size s.toList).map UInt64.ofNat

end SigningEngine.Text
