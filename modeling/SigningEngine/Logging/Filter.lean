import SigningEngine.Logging.Config
import SigningEngine.Text.AlphanumericTable
import SigningEngine.Text.Numeral

/-!
# Log filters

A filter is a list of directives with commas between them; empty pieces are passed over. A directive
is a level or a target alone, or a target, then a span name in brackets, then an equals sign and a
level, where each part may be missing.

The parts of a directive are found in the piece with the blanks around it taken off, but the level
is cut out of the piece as it stands, at the same distance in bytes. Blanks before a directive with
a level thus spoil it, and so do blanks behind it.

Two cases are settled here in a way of their own, and not as the parser does that filters are made
for: what stands in the brackets of a span is not looked into, so a list of fields is never refused,
and a directive is malformed when the distance of its level ends within a blank of several bytes.
-/

namespace SigningEngine.Logging

/-- Why a directive is refused. -/
inductive DirectiveFault where
  | malformed
  | badLevel
  deriving DecidableEq, Repr

namespace DirectiveFault

def reason : DirectiveFault → String
  | malformed => "invalid filter directive"
  | badLevel =>
    "error parsing level filter: expected one of \"off\", \"error\", \"warn\", \"info\", " ++
      "\"debug\", \"trace\", or a number 0-5"

end DirectiveFault

/-- The pieces between the commas. -/
def pieces : List Char → List (List Char)
  | [] => [[]]
  | c :: rest =>
    if c = ',' then [] :: pieces rest
    else
      match pieces rest with
      | [] => [[c]]
      | piece :: others => (c :: piece) :: others

def byteLength : List Char → Nat
  | [] => 0
  | c :: rest => c.utf8Size + byteLength rest

/-- What follows the first `n` bytes, if they end with a character. -/
def dropBytes : Nat → List Char → Option (List Char)
  | 0, s => some s
  | _ + 1, [] => none
  | n + 1, c :: rest => if c.utf8Size ≤ n + 1 then dropBytes (n + 1 - c.utf8Size) rest else none

/-- Levels are named in any case of their letters, or numbered from 0 for `off` to 5 for `trace`. A
level may be left out behind its equals sign. -/
def isLevel (s : List Char) : Bool :=
  s.isEmpty ||
    (match Text.readNumeral 6 s with
      | .ok _ => true
      | .error _ => false) ||
    s.map Char.toLower ∈
      ["off", "error", "warn", "info", "debug", "trace"].map String.toList

def startsDirective (c : Char) : Bool :=
  c = '[' || c = '-' || c = ':' || c = '_' || Text.isAlphanumeric c

/-- Behind the opening bracket, `read` bytes into the directive: where its level starts, if it has
one. -/
def levelBehindSpan (read : Nat) (s : List Char) : Except DirectiveFault (Option Nat) :=
  let name := s.takeWhile (· ≠ ']')
  match s.dropWhile (· ≠ ']') with
  | [] => .error .malformed
  | [_] => .ok none
  | _ :: c :: _ => if c = '=' then .ok (some (read + byteLength name + 2)) else .error .malformed

/-- The distance in bytes at which the level of a trimmed directive starts, if it has one. -/
def levelStart? (s : List Char) : Except DirectiveFault (Option Nat) :=
  match s with
  | [] => .error .malformed
  | c :: _ =>
    if startsDirective c then
      let target := s.takeWhile fun c => c ≠ '=' && c ≠ '['
      match s.dropWhile fun c => c ≠ '=' && c ≠ '[' with
      | [] => .ok none
      | mark :: rest =>
        if mark = '=' then .ok (some (byteLength target + 1))
        else levelBehindSpan (byteLength target + 1) rest
    else .error .malformed

def checkDirective (piece : List Char) : Except DirectiveFault Unit := do
  match ← levelStart? (Text.trimEnd (Text.trimStart piece)) with
  | none => return
  | some start =>
    match dropBytes start piece with
    | none => throw .malformed
    | some level => if isLevel level then return else throw .badLevel

/-- The fault of the first directive that has one. -/
def checkFilter (s : String) : Except DirectiveFault Unit :=
  ((pieces s.toList).filter fun piece => !piece.isEmpty).forM checkDirective

/-- The filter that a configuration asks for: its level, then its directives unless they are
blank. -/
def Config.filter (config : Config) : String :=
  match config.directives with
  | none => config.level.name
  | some directives =>
    if Text.isBlankText directives then config.level.name
    else config.level.name ++ "," ++ Text.trim directives

def Config.checkFilter (config : Config) : Except LoggingError Unit :=
  (Logging.checkFilter config.filter).mapError fun fault =>
    .invalidFilter config.filter fault.reason

/-- Sets logging up. A valid filter in the environment replaces the configured one; an invalid one
is passed over. Only the first set-up of a process succeeds. -/
def setUp (lookup : Lookup) (config : Config) (alreadySetUp : Bool) :
    Except LoggingError Unit := do
  match (lookup "RUST_LOG").map Logging.checkFilter with
  | some (.ok ()) => pure ()
  | _ => config.checkFilter
  if alreadySetUp then throw .alreadyInitialized

end SigningEngine.Logging
