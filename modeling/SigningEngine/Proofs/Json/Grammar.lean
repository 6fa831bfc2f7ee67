import SigningEngine.Json.Token
import Mathlib.Data.List.Basic

/-!
# The grammar of JSON texts

Which texts spell which values. A value may have blanks before and behind it, and so may the names
of members, the commas, the colons and the brackets. Every character of a string literal may be
spelled by its code units, and some also as they are or by a letter. A number without a fraction and
an exponent is an integer, and has no zeros in front.

Nothing here says how a text is read: a value spelled by a text is a matter of its parts alone.
-/

namespace SigningEngine.Json

/-! ### String literals -/

def letterEscapes : List (Char × Char) :=
  [('"', '"'), ('\\', '\\'), ('/', '/'), ('b', '\x08'), ('f', '\x0c'), ('n', '\n'), ('r', '\r'),
    ('t', '\t')]

/-- Four hexadecimal digits, in either case, of a code unit. -/
inductive SpellsUnit : List Char → Nat → Prop
  | digits {a b c d : Char} {i j k l : Nat} :
      Text.hexValue? a = some i → Text.hexValue? b = some j → Text.hexValue? c = some k →
      Text.hexValue? d = some l → SpellsUnit [a, b, c, d] (i * 4096 + j * 256 + k * 16 + l)

/-- The codes of the halves of pairs. -/
def IsHalf (code : Nat) : Prop := 0xD800 ≤ code ∧ code < 0xE000

/-- One character or escape of a string literal. -/
inductive SpellsPiece : List Char → Piece → Prop
  | plain {c : Char} : 0x20 ≤ c.toNat → c ≠ '"' → c ≠ '\\' → SpellsPiece [c] (.char c)
  | letter {c image : Char} : (c, image) ∈ letterEscapes → SpellsPiece ['\\', c] (.char image)
  | unit {digits : List Char} {code : Nat} :
      SpellsUnit digits code → ¬ IsHalf code →
      SpellsPiece ('\\' :: 'u' :: digits) (.char (Char.ofNat code))
  | half {digits : List Char} {code : Nat} :
      SpellsUnit digits code → IsHalf code → SpellsPiece ('\\' :: 'u' :: digits) (.half code)

inductive SpellsPieces : List Char → List Piece → Prop
  | nil : SpellsPieces [] []
  | cons {s t : List Char} {piece : Piece} {pieces : List Piece} :
      SpellsPiece s piece → SpellsPieces t pieces → SpellsPieces (s ++ t) (piece :: pieces)

/-- A high half and the low half behind it are one character, and no other half occurs. -/
inductive Joins : List Piece → List Char → Prop
  | nil : Joins [] []
  | char {c : Char} {pieces : List Piece} {s : List Char} :
      Joins pieces s → Joins (.char c :: pieces) (c :: s)
  | pair {high low : Nat} {pieces : List Piece} {s : List Char} :
      high < 0xDC00 → 0xDC00 ≤ low → Joins pieces s →
      Joins (.half high :: .half low :: pieces)
        (Char.ofNat (0x10000 + (high - 0xD800) * 0x400 + (low - 0xDC00)) :: s)

/-- A literal denotes the text that its pieces join to, and none if they join to no text. -/
def SpellsText (s : List Char) (value : Text) : Prop :=
  ∃ content pieces, s = '"' :: content ++ ['"'] ∧ SpellsPieces content pieces ∧
    ∀ text, value = some text ↔ Joins pieces text.toList

/-! ### Numbers -/

def IsDigits (s : List Char) : Prop := s ≠ [] ∧ s.all Char.isDigit = true

/-- A decimal numeral without a zero in front of other digits. -/
structure SpellsWhole (s : List Char) (n : Nat) : Prop where
  isDigits : IsDigits s
  leading : s.head? = some '0' → s = ['0']
  value : Nat.ofDigitChars 10 s 0 = n

def IsFraction (s : List Char) : Prop := s = [] ∨ ∃ digits, s = '.' :: digits ∧ IsDigits digits

def IsExponent (s : List Char) : Prop :=
  s = [] ∨ ∃ mark sign digits, s = mark :: sign ++ digits ∧ (mark = 'e' ∨ mark = 'E') ∧
    (sign = [] ∨ sign = ['+'] ∨ sign = ['-']) ∧ IsDigits digits

def SpellsNumber (s : List Char) (n : Number) : Prop :=
  ∃ whole fraction exponent,
    s = (if n.negative then ['-'] else []) ++ (whole ++ (fraction ++ exponent)) ∧
    SpellsWhole whole n.whole ∧ IsFraction fraction ∧ IsExponent exponent ∧
    n.tail.toList = fraction ++ exponent

/-! ### Values -/

def IsBlanks (s : List Char) : Prop := s.all isBlank = true

/-- The name of a member, with blanks around its literal. -/
def SpellsName (s : List Char) (name : Text) : Prop :=
  ∃ before literal behind, s = before ++ (literal ++ behind) ∧ IsBlanks before ∧
    IsBlanks behind ∧ SpellsText literal name

/-- A member of an object: its name and its value, as they are spelled and what they denote. -/
structure Member where
  nameSpelling : List Char
  name : Text
  valueSpelling : List Char
  value : Json

namespace Member

def spelling (m : Member) : List Char := m.nameSpelling ++ ':' :: m.valueSpelling

def entry (m : Member) : Text × Json := (m.name, m.value)

end Member

/-- The text spells the value, with blanks around it. -/
inductive Spells : List Char → Json → Prop
  | null : Spells ['n', 'u', 'l', 'l'] .null
  | true : Spells ['t', 'r', 'u', 'e'] (.bool true)
  | false : Spells ['f', 'a', 'l', 's', 'e'] (.bool false)
  | number {s : List Char} {n : Number} : SpellsNumber s n → Spells s (.number n)
  | string {s : List Char} {value : Text} : SpellsText s value → Spells s (.string value)
  | noItems {blanks : List Char} : IsBlanks blanks → Spells ('[' :: blanks ++ [']']) (.array [])
  | items {items : List (List Char × Json)} :
      items ≠ [] → (∀ item ∈ items, Spells item.1 item.2) →
      Spells ('[' :: [','].intercalate (items.map Prod.fst) ++ [']'])
        (.array (items.map Prod.snd))
  | noMembers {blanks : List Char} :
      IsBlanks blanks → Spells ('\x7b' :: blanks ++ ['\x7d']) (.object [])
  | members {members : List Member} :
      members ≠ [] → (∀ m ∈ members, SpellsName m.nameSpelling m.name) →
      (∀ m ∈ members, Spells m.valueSpelling m.value) →
      Spells ('\x7b' :: [','].intercalate (members.map Member.spelling) ++ ['\x7d'])
        (.object (members.map Member.entry))
  | padded {before s behind : List Char} {value : Json} :
      IsBlanks before → IsBlanks behind → Spells s value →
      Spells (before ++ (s ++ behind)) value

end SigningEngine.Json
