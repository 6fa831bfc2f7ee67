import SigningEngine.Json.Basic
import SigningEngine.Text.Hex

/-!
# The tokens of a JSON text

Blanks between tokens are space, tab, line feed and carriage return and nothing else. A number
takes as many characters as it can, and each other token is known by its first one. A string
literal may hold any character from U+0020 on as it is.
-/

namespace SigningEngine.Json

inductive Token where
  | openObject
  | closeObject
  | openArray
  | closeArray
  | colon
  | comma
  | text (value : Text)
  | scalar (value : Json)
  deriving Repr

def isBlank (c : Char) : Bool := c = ' ' || c = '\t' || c = '\n' || c = '\r'

/-- What one character or escape of a string literal stands for. -/
inductive Piece where
  | char (c : Char)
  | half (code : Nat)
  deriving DecidableEq, Repr

/-- The code unit that four hexadecimal digits name. -/
def codeUnit? (a b c d : Char) : Option Nat := do
  let a ← Text.hexValue? a
  let b ← Text.hexValue? b
  let c ← Text.hexValue? c
  let d ← Text.hexValue? d
  return ((a * 16 + b) * 16 + c) * 16 + d

def Piece.ofCodeUnit (code : Nat) : Piece :=
  if 0xD800 ≤ code && code < 0xE000 then .half code else .char (Char.ofNat code)

def shortEscape? : Char → Option Char
  | '"' => some '"'
  | '\\' => some '\\'
  | '/' => some '/'
  | 'b' => some '\x08'
  | 'f' => some '\x0c'
  | 'n' => some '\n'
  | 'r' => some '\r'
  | 't' => some '\t'
  | _ => none

/-- The pieces of a string literal behind its opening quote, and what follows its closing one. -/
def scanPieces : List Char → Option (List Piece × List Char)
  | [] => none
  | '"' :: rest => some ([], rest)
  | ['\\'] => none
  | '\\' :: 'u' :: a :: b :: c :: d :: rest => do
    let code ← codeUnit? a b c d
    let (pieces, rest) ← scanPieces rest
    return (.ofCodeUnit code :: pieces, rest)
  | '\\' :: c :: rest => do
    let c ← shortEscape? c
    let (pieces, rest) ← scanPieces rest
    return (.char c :: pieces, rest)
  | c :: rest =>
    if c.toNat < 0x20 then none
    else do
      let (pieces, rest) ← scanPieces rest
      return (.char c :: pieces, rest)

/-- A high half and the low half behind it are one character; no other half may occur. -/
def joinPieces : List Piece → Option (List Char)
  | [] => some []
  | .char c :: rest => (joinPieces rest).map (c :: ·)
  | .half high :: .half low :: rest =>
    if high < 0xDC00 && 0xDC00 ≤ low then
      (joinPieces rest).map
        (Char.ofNat (0x10000 + (high - 0xD800) * 0x400 + (low - 0xDC00)) :: ·)
    else none
  | .half _ :: _ => none

def scanText (s : List Char) : Option (Text × List Char) :=
  (scanPieces s).map fun (pieces, rest) => ((joinPieces pieces).map String.ofList, rest)

/-- At least one digit, and what follows the digits. -/
def scanDigits (s : List Char) : Option (List Char × List Char) :=
  let digits := s.takeWhile Char.isDigit
  if digits.isEmpty then none else some (digits, s.dropWhile Char.isDigit)

/-- The whole part has no leading zero unless it is zero. -/
def scanWhole : List Char → Option (Nat × List Char)
  | '0' :: rest => some (0, rest)
  | s => (scanDigits s).map fun (digits, rest) =>
      (digits.foldl (fun n c => n * 10 + (c.toNat - '0'.toNat)) 0, rest)

def scanFraction : List Char → Option (List Char × List Char)
  | '.' :: rest => (scanDigits rest).map fun (digits, rest) => ('.' :: digits, rest)
  | s => some ([], s)

def scanExponentSign : List Char → List Char × List Char
  | '+' :: rest => (['+'], rest)
  | '-' :: rest => (['-'], rest)
  | s => ([], s)

def scanExponent : List Char → Option (List Char × List Char)
  | [] => some ([], [])
  | mark :: rest =>
    if mark = 'e' || mark = 'E' then
      let (sign, rest) := scanExponentSign rest
      (scanDigits rest).map fun (digits, rest) => (mark :: sign ++ digits, rest)
    else some ([], mark :: rest)

def scanUnsigned (negative : Bool) (s : List Char) : Option (Number × List Char) := do
  let (whole, rest) ← scanWhole s
  let (fraction, rest) ← scanFraction rest
  let (exponent, rest) ← scanExponent rest
  return ({ negative, whole, tail := String.ofList (fraction ++ exponent) }, rest)

def scanNumber : List Char → Option (Number × List Char)
  | '-' :: rest => scanUnsigned true rest
  | s => scanUnsigned false s

/-- The token at the front of a text that does not start with a blank. -/
def scan : List Char → Option (Token × List Char)
  | '\x7b' :: rest => some (.openObject, rest)
  | '\x7d' :: rest => some (.closeObject, rest)
  | '[' :: rest => some (.openArray, rest)
  | ']' :: rest => some (.closeArray, rest)
  | ':' :: rest => some (.colon, rest)
  | ',' :: rest => some (.comma, rest)
  | '"' :: rest => (scanText rest).map fun (value, rest) => (.text value, rest)
  | 'n' :: 'u' :: 'l' :: 'l' :: rest => some (.scalar .null, rest)
  | 't' :: 'r' :: 'u' :: 'e' :: rest => some (.scalar (.bool true), rest)
  | 'f' :: 'a' :: 'l' :: 's' :: 'e' :: rest => some (.scalar (.bool false), rest)
  | s => (scanNumber s).map fun (value, rest) => (.scalar (.number value), rest)

/-! ### What is left is shorter -/

theorem length_scanPieces_lt {s rest : List Char} {pieces : List Piece}
    (h : scanPieces s = some (pieces, rest)) : rest.length < s.length := by
  fun_induction scanPieces s generalizing pieces rest with
  | case1 => simp at h
  | case2 tail =>
    simp only [Option.some.injEq, Prod.mk.injEq] at h
    simp [h.2]
  | case3 => simp at h
  | case4 a b c d tail ih =>
    simp only [bind, Option.bind_eq_some_iff, pure, Option.some.injEq] at h
    obtain ⟨code, -, ⟨pieces', rest'⟩, hscan, heq⟩ := h
    have := ih hscan
    simp only [Prod.mk.injEq] at heq
    simp only [List.length_cons, ← heq.2]
    omega
  | case5 c tail hu ih =>
    simp only [bind, Option.bind_eq_some_iff, pure, Option.some.injEq] at h
    obtain ⟨code, -, ⟨pieces', rest'⟩, hscan, heq⟩ := h
    have := ih hscan
    simp only [Prod.mk.injEq] at heq
    simp only [List.length_cons, ← heq.2]
    omega
  | case6 => simp at h
  | case7 c tail hq hs hu hd hc ih =>
    simp only [bind, Option.bind_eq_some_iff, pure, Option.some.injEq] at h
    obtain ⟨⟨pieces', rest'⟩, hscan, heq⟩ := h
    have := ih hscan
    simp only [Prod.mk.injEq] at heq
    simp only [List.length_cons, ← heq.2]
    omega

theorem length_scanText_lt {s rest : List Char} {value : Text}
    (h : scanText s = some (value, rest)) : rest.length < s.length := by
  simp only [scanText, Option.map_eq_some_iff, Prod.mk.injEq] at h
  obtain ⟨⟨pieces, rest'⟩, hscan, -, rfl⟩ := h
  exact length_scanPieces_lt hscan

theorem length_scanDigits_lt {s digits rest : List Char}
    (h : scanDigits s = some (digits, rest)) : rest.length < s.length := by
  simp only [scanDigits] at h
  split at h
  · simp at h
  next hne =>
    simp only [Option.some.injEq, Prod.mk.injEq] at h
    have hlen := congrArg List.length (List.takeWhile_append_dropWhile (p := Char.isDigit) (l := s))
    rw [List.length_append] at hlen
    have hpos : 0 < (s.takeWhile Char.isDigit).length := by
      cases htake : s.takeWhile Char.isDigit with
      | nil => simp [htake] at hne
      | cons => simp
    rw [← h.2]
    omega

theorem length_scanWhole_lt {s rest : List Char} {n : Nat}
    (h : scanWhole s = some (n, rest)) : rest.length < s.length := by
  unfold scanWhole at h
  split at h
  · simp only [Option.some.injEq, Prod.mk.injEq] at h
    simp [h.2]
  · simp only [Option.map_eq_some_iff, Prod.mk.injEq] at h
    obtain ⟨⟨digits, rest'⟩, hscan, -, rfl⟩ := h
    exact length_scanDigits_lt hscan

theorem length_scanFraction_le {s digits rest : List Char}
    (h : scanFraction s = some (digits, rest)) : rest.length ≤ s.length := by
  unfold scanFraction at h
  split at h
  · simp only [Option.map_eq_some_iff, Prod.mk.injEq] at h
    obtain ⟨⟨digits', rest'⟩, hscan, -, rfl⟩ := h
    have := length_scanDigits_lt hscan
    simp only [List.length_cons]
    omega
  · simp only [Option.some.injEq, Prod.mk.injEq] at h
    simp [h.2]

theorem length_scanExponentSign_le (s : List Char) :
    (scanExponentSign s).2.length ≤ s.length := by
  unfold scanExponentSign
  split <;> simp

theorem length_scanExponent_le {s written rest : List Char}
    (h : scanExponent s = some (written, rest)) : rest.length ≤ s.length := by
  unfold scanExponent at h
  split at h
  · simp only [Option.some.injEq, Prod.mk.injEq] at h
    simp [← h.2]
  next mark tail =>
    split at h
    · simp only [Option.map_eq_some_iff, Prod.mk.injEq] at h
      obtain ⟨⟨digits, rest'⟩, hscan, -, rfl⟩ := h
      have := length_scanDigits_lt hscan
      have := length_scanExponentSign_le tail
      simp only [List.length_cons]
      omega
    · simp only [Option.some.injEq, Prod.mk.injEq] at h
      simp [← h.2]

theorem length_scanUnsigned_lt {negative : Bool} {s rest : List Char} {n : Number}
    (h : scanUnsigned negative s = some (n, rest)) : rest.length < s.length := by
  simp only [scanUnsigned, bind, Option.bind_eq_some_iff, pure, Option.some.injEq] at h
  obtain ⟨⟨whole, r₁⟩, h₁, ⟨fraction, r₂⟩, h₂, ⟨exponent, r₃⟩, h₃, heq⟩ := h
  simp only [Prod.mk.injEq] at heq
  have hwhole := length_scanWhole_lt h₁
  have hfraction := length_scanFraction_le h₂
  have hexponent := length_scanExponent_le h₃
  simp only at hfraction hexponent
  rw [← heq.2]
  omega

theorem length_scanNumber_lt {s rest : List Char} {n : Number}
    (h : scanNumber s = some (n, rest)) : rest.length < s.length := by
  unfold scanNumber at h
  split at h
  · have := length_scanUnsigned_lt h
    simp only [List.length_cons]
    omega
  · exact length_scanUnsigned_lt h

theorem length_scan_lt {s rest : List Char} {token : Token}
    (h : scan s = some (token, rest)) : rest.length < s.length := by
  unfold scan at h
  split at h
  case h_7 tail =>
    simp only [Option.map_eq_some_iff, Prod.mk.injEq] at h
    obtain ⟨⟨value, rest'⟩, hscan, -, rfl⟩ := h
    have := length_scanText_lt hscan
    simp only [List.length_cons]
    omega
  case h_11 =>
    simp only [Option.map_eq_some_iff, Prod.mk.injEq] at h
    obtain ⟨⟨value, rest'⟩, hscan, -, rfl⟩ := h
    exact length_scanNumber_lt hscan
  all_goals
    simp only [Option.some.injEq, Prod.mk.injEq] at h
    simp only [List.length_cons, ← h.2]
    omega

/-- All tokens of a text. -/
def tokens (s : List Char) : Option (List Token) :=
  match s with
  | [] => some []
  | c :: rest =>
    if isBlank c then tokens rest
    else
      match h : scan (c :: rest) with
      | none => none
      | some (token, behind) =>
        have := length_scan_lt h
        (tokens behind).map (token :: ·)
termination_by s.length
decreasing_by
  · exact Nat.lt_succ_self _
  · exact this

end SigningEngine.Json
