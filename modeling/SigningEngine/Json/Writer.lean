import SigningEngine.Json.Basic
import SigningEngine.Text.Quoted

/-!
# Writing JSON texts

The compact form: no blanks, members in their order, every character as it is except the quote, the
backslash and the controls below U+0020.
-/

namespace SigningEngine.Json

/-- A control without a letter of its own, in four hexadecimal digits. -/
def controlEscape (c : Char) : List Char :=
  let digits := Text.hexNumeral c.toNat
  ['\\', 'u'] ++ List.replicate (4 - digits.length) '0' ++ digits

def writtenChar (c : Char) : List Char :=
  match c with
  | '"' => ['\\', '"']
  | '\\' => ['\\', '\\']
  | '\x08' => ['\\', 'b']
  | '\x0c' => ['\\', 'f']
  | '\n' => ['\\', 'n']
  | '\r' => ['\\', 'r']
  | '\t' => ['\\', 't']
  | c => if c.toNat < 0x20 then controlEscape c else [c]

/-- A literal without a text is written as the high half with the lowest code. -/
def writtenText : Text → List Char
  | some s => '"' :: s.toList.flatMap writtenChar ++ ['"']
  | none => ['"', '\\', 'u', 'd', '8', '0', '0', '"']

def writtenNumber (n : Number) : List Char :=
  (if n.negative then ['-'] else []) ++ (toString n.whole).toList ++ n.tail.toList

mutual

def written : Json → List Char
  | .null => ['n', 'u', 'l', 'l']
  | .bool true => ['t', 'r', 'u', 'e']
  | .bool false => ['f', 'a', 'l', 's', 'e']
  | .number n => writtenNumber n
  | .string value => writtenText value
  | .array [] => ['[', ']']
  | .array (item :: items) => '[' :: written item ++ writtenItems items
  | .object [] => ['\x7b', '\x7d']
  | .object ((key, value) :: members) =>
    '\x7b' :: writtenText key ++ ':' :: written value ++ writtenMembers members

/-- The items behind the first, and the end of the array. -/
def writtenItems : List Json → List Char
  | [] => [']']
  | item :: items => ',' :: written item ++ writtenItems items

/-- The members behind the first, and the end of the object. -/
def writtenMembers : List (Text × Json) → List Char
  | [] => ['\x7d']
  | (key, value) :: members =>
    ',' :: writtenText key ++ ':' :: written value ++ writtenMembers members

end

def write (value : Json) : String := String.ofList (written value)

end SigningEngine.Json
