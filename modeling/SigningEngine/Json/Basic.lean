/-!
# JSON values

A value keeps what a reader of configuration documents can tell apart: the spelling of a number
behind its whole part, the order of the members of an object and their repetition, and whether a
string literal denotes a text at all. It does not when an escape names one half of a surrogate pair
without the other. Such a literal is well formed and may stand where nothing reads it.
-/

namespace SigningEngine

namespace Json

/-- A number literal. `tail` is its fraction and exponent as written, empty for an integer. -/
structure Number where
  negative : Bool := false
  whole : Nat
  tail : String := ""
  deriving DecidableEq, Repr

/-- What a string literal denotes: nothing if it holds half a surrogate pair. -/
abbrev Text := Option String

end Json

inductive Json where
  | null
  | bool (value : Bool)
  | number (value : Json.Number)
  | string (value : Json.Text)
  | array (items : List Json)
  | object (members : List (Json.Text × Json))
  deriving Repr, Inhabited

namespace Json

/-- A string literal that denotes `s`. -/
def text (s : String) : Json := .string (some s)

def nat (n : Nat) : Json := .number { whole := n }

/-- An object whose keys denote texts. -/
def record (members : List (String × Json)) : Json :=
  .object (members.map fun (key, value) => (some key, value))

def text? : Json → Option String
  | .string value => value
  | _ => none

def bool? : Json → Option Bool
  | .bool value => some value
  | _ => none

/-- An integer literal without a minus sign, in range. -/
def uint32? : Json → Option UInt32
  | .number n =>
    if !n.negative && n.tail.isEmpty && n.whole < UInt32.size then some (UInt32.ofNat n.whole)
    else none
  | _ => none

/-- `null` stands for an absent value. -/
def optional? (read : Json → Option α) : Json → Option (Option α)
  | .null => some none
  | value => (read value).map some

@[simp] theorem text?_text (s : String) : (text s).text? = some s := rfl

@[simp] theorem bool?_bool (b : Bool) : (Json.bool b).bool? = some b := rfl

theorem uint32?_nat (n : UInt32) : (nat n.toNat).uint32? = some n := by
  simp [nat, uint32?, n.toNat_lt_size]

end Json

end SigningEngine
