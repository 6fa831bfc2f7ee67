import SigningEngine.Text.Hex
import SigningEngine.Text.VisibleTable

/-!
# Quoted texts

A text in diagnostic output stands between double quotes. The quote and the backslash are preceded
by a backslash; NUL, tab, line feed and carriage return have letters of their own; every other
character that has no picture of its own, and every mark that would attach itself to the character
before it, is written by its code point in hexadecimal.
-/

namespace SigningEngine.Text

def codeEscape (c : Char) : List Char := ['\\', 'u', '\x7b'] ++ hexNumeral c.toNat ++ ['\x7d']

def quotedChar (c : Char) : List Char :=
  match c with
  | '\x00' => ['\\', '0']
  | '\t' => ['\\', 't']
  | '\n' => ['\\', 'n']
  | '\r' => ['\\', 'r']
  | '"' => ['\\', '"']
  | '\\' => ['\\', '\\']
  | c => if hiddenRanges.holds c || attachingRanges.holds c then codeEscape c else [c]

def quoted (s : String) : String :=
  String.ofList (['"'] ++ s.toList.flatMap quotedChar ++ ['"'])

/-- An optional text: its quoted form, or that there is none. -/
def quotedOption : Option String → String
  | none => "None"
  | some s => "Some(" ++ quoted s ++ ")"

end SigningEngine.Text
