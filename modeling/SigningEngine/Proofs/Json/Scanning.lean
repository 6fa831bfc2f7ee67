import SigningEngine.Json.Token
import SigningEngine.Proofs.Json.Grammar
import SigningEngine.Proofs.Text.Trimming

/-!
# Scanning what the grammar spells

A token is found at the start of every text that spells it, whatever follows. Only a number needs
to be followed by something that does not continue it, since scanning takes as many characters as
it can.

The main statements are `scanText_append` and `scanNumber_append`.
-/

namespace SigningEngine.Json

/-! ### String literals -/

theorem codeUnit?_of_spells {digits : List Char} {code : Nat} (h : SpellsUnit digits code) :
    ∃ a b c d, digits = [a, b, c, d] ∧ codeUnit? a b c d = some code := by
  cases h with
  | @digits a b c d i j k l ha hb hc hd =>
      refine ⟨a, b, c, d, rfl, ?_⟩
      simp only [codeUnit?, ha, hb, hc, hd, bind, Option.bind_some, pure, Option.some.injEq]
      omega

theorem ofCodeUnit_of_isHalf {code : Nat} (h : IsHalf code) :
    Piece.ofCodeUnit code = .half code := by
  rw [Piece.ofCodeUnit, if_pos]
  simpa [IsHalf] using h

theorem ofCodeUnit_of_not_isHalf {code : Nat} (h : ¬ IsHalf code) :
    Piece.ofCodeUnit code = .char (Char.ofNat code) := by
  rw [Piece.ofCodeUnit, if_neg]
  simpa [IsHalf] using h

theorem shortEscape?_of_mem {c image : Char} (h : (c, image) ∈ letterEscapes) :
    c ≠ 'u' ∧ shortEscape? c = some image := by
  have hall : ∀ escape ∈ letterEscapes,
      escape.1 ≠ 'u' ∧ shortEscape? escape.1 = some escape.2 := by decide
  exact hall _ h

section Pieces

variable {rest : List Char}

theorem scanPieces_unit {digits : List Char} {code : Nat} (h : SpellsUnit digits code) :
    scanPieces ('\\' :: 'u' :: digits ++ rest) =
      (scanPieces rest).map fun found => (.ofCodeUnit code :: found.1, found.2) := by
  obtain ⟨a, b, c, d, rfl, hcode⟩ := codeUnit?_of_spells h
  simp only [List.cons_append, List.nil_append, scanPieces, hcode]
  cases scanPieces rest <;> rfl

theorem scanPieces_letter {c image : Char} (h : (c, image) ∈ letterEscapes) :
    scanPieces ('\\' :: c :: rest) =
      (scanPieces rest).map fun found => (.char image :: found.1, found.2) := by
  obtain ⟨hunit, himage⟩ := shortEscape?_of_mem h
  rw [scanPieces, himage]
  · cases scanPieces rest <;> rfl
  · exact fun _ _ _ _ _ hc _ => hunit hc

theorem scanPieces_plain {c : Char} (hcode : 0x20 ≤ c.toNat) (hquote : c ≠ '"')
    (hslash : c ≠ '\\') :
    scanPieces (c :: rest) =
      (scanPieces rest).map fun found => (.char c :: found.1, found.2) := by
  rw [scanPieces, if_neg (Nat.not_lt_of_le hcode)]
  · cases scanPieces rest <;> rfl
  · exact hquote
  · exact fun hc _ => hslash hc
  · exact fun _ _ _ _ _ hc _ => hslash hc
  · exact fun _ _ hc _ => hslash hc

theorem scanPieces_piece {s : List Char} {piece : Piece} (h : SpellsPiece s piece) :
    scanPieces (s ++ rest) = (scanPieces rest).map fun found => (piece :: found.1, found.2) := by
  cases h with
  | plain hcode hquote hslash => exact scanPieces_plain hcode hquote hslash
  | letter hmem => exact scanPieces_letter hmem
  | unit hunit hhalf => rw [scanPieces_unit hunit, ofCodeUnit_of_not_isHalf hhalf]
  | half hunit hhalf => rw [scanPieces_unit hunit, ofCodeUnit_of_isHalf hhalf]

theorem scanPieces_append {s : List Char} {pieces : List Piece} (h : SpellsPieces s pieces) :
    scanPieces (s ++ '"' :: rest) = some (pieces, rest) := by
  induction h with
  | nil => rfl
  | cons hpiece _ ih => rw [List.append_assoc, scanPieces_piece hpiece, ih, Option.map_some]

end Pieces

theorem joins_iff {pieces : List Piece} {s : List Char} :
    Joins pieces s ↔ joinPieces pieces = some s := by
  constructor
  · intro h
    induction h with
    | nil => rfl
    | char _ ih => rw [joinPieces, ih, Option.map_some]
    | pair hhigh hlow _ ih =>
        rw [joinPieces, if_pos (by simp [hhigh, hlow]), ih, Option.map_some]
  · intro h
    fun_induction joinPieces pieces generalizing s with
    | case1 =>
        cases h
        exact .nil
    | case2 c rest ih =>
        obtain ⟨t, ht, rfl⟩ := Option.map_eq_some_iff.mp h
        exact .char (ih ht)
    | case3 high low rest hpair ih =>
        obtain ⟨t, ht, rfl⟩ := Option.map_eq_some_iff.mp h
        simp only [Bool.and_eq_true, decide_eq_true_eq] at hpair
        exact .pair hpair.1 hpair.2 (ih ht)
    | case4 => cases h
    | case5 => cases h

theorem text_of_joins {pieces : List Piece} {value : Text}
    (h : ∀ text, value = some text ↔ Joins pieces text.toList) :
    (joinPieces pieces).map String.ofList = value := by
  cases hjoin : joinPieces pieces with
  | some s =>
      refine ((h (String.ofList s)).mpr ?_).symm
      rw [joins_iff, hjoin, String.toList_ofList]
  | none =>
      cases value with
      | none => rfl
      | some text =>
          have hjoins := joins_iff.mp ((h text).mp rfl)
          rw [hjoin] at hjoins
          cases hjoins

/-- Behind its opening quote a literal is scanned up to its closing one. -/
theorem scanText_append {s rest : List Char} {value : Text} (h : SpellsText s value) :
    ∃ behind, s ++ rest = '"' :: behind ∧ scanText behind = some (value, rest) := by
  obtain ⟨content, pieces, rfl, hpieces, hvalue⟩ := h
  refine ⟨content ++ '"' :: rest, by simp, ?_⟩
  rw [scanText, scanPieces_append hpieces, Option.map_some]
  exact congrArg (fun text => some (text, rest)) (text_of_joins hvalue)

/-! ### Numbers -/

/-- Nothing at the start of the text continues a number. -/
def EndsNumber (rest : List Char) : Prop :=
  ∀ c ∈ rest.head?, c.isDigit = false ∧ c ≠ '.' ∧ c ≠ 'e' ∧ c ≠ 'E'

section Numbers

variable {s rest : List Char}

theorem scanDigits_append (h : IsDigits s) (hrest : ∀ c ∈ rest.head?, c.isDigit = false) :
    scanDigits (s ++ rest) = some (s, rest) := by
  have hhead : rest.head?.all (! ·.isDigit) = true := by
    rw [Option.all_eq_true]
    intro c hc
    rw [hrest c hc, Bool.not_false]
  have htake : (s ++ rest).takeWhile Char.isDigit = s := by
    rw [List.takeWhile_append_of_pos (List.all_eq_true.mp h.2)]
    cases rest with
    | nil => exact List.append_nil s
    | cons c more => rw [List.takeWhile_cons_of_neg (by simpa using hhead), List.append_nil]
  rw [scanDigits, htake, Text.dropWhile_of_all h.2, Text.dropWhile_of_head? hhead, if_neg]
  simpa using h.1

theorem scanWhole_append {n : Nat} (h : SpellsWhole s n)
    (hrest : ∀ c ∈ rest.head?, c.isDigit = false) : scanWhole (s ++ rest) = some (n, rest) := by
  by_cases hzero : s.head? = some '0'
  · obtain rfl := h.leading hzero
    obtain rfl := h.value
    rfl
  · rw [scanWhole, scanDigits_append h.isDigits hrest, Option.map_some, ← h.value,
      Nat.ofDigitChars]
    · simp only [Nat.mul_comm]
    · intro more hmore
      cases s with
      | nil => exact h.isDigits.1 rfl
      | cons c t =>
          rw [List.cons_append, List.cons.injEq] at hmore
          exact hzero (by rw [hmore.1]; rfl)

theorem scanFraction_append (h : IsFraction s)
    (hrest : ∀ c ∈ rest.head?, c.isDigit = false ∧ c ≠ '.') :
    scanFraction (s ++ rest) = some (s, rest) := by
  rcases h with rfl | ⟨digits, rfl, hdigits⟩
  · rw [List.nil_append, scanFraction]
    rintro more rfl
    exact (hrest '.' rfl).2 rfl
  · rw [List.cons_append, scanFraction, scanDigits_append hdigits fun c hc => (hrest c hc).1]
    rfl

theorem scanExponentSign_append {sign digits : List Char}
    (hsign : sign = [] ∨ sign = ['+'] ∨ sign = ['-']) (hdigits : IsDigits digits) :
    scanExponentSign (sign ++ (digits ++ rest)) = (sign, digits ++ rest) := by
  rcases hsign with rfl | rfl | rfl
  · have hdigit (c : Char) (t : List Char) (h : digits ++ rest = c :: t) : c.isDigit = true := by
      cases digits with
      | nil => exact absurd rfl hdigits.1
      | cons d more =>
          rw [List.cons_append, List.cons.injEq] at h
          rw [← h.1]
          exact List.all_eq_true.mp hdigits.2 d List.mem_cons_self
    rw [List.nil_append, scanExponentSign]
    · exact fun t h => absurd (hdigit '+' t h) (by decide)
    · exact fun t h => absurd (hdigit '-' t h) (by decide)
  · rfl
  · rfl

theorem scanExponent_append (h : IsExponent s) (hrest : EndsNumber rest) :
    scanExponent (s ++ rest) = some (s, rest) := by
  rcases h with rfl | ⟨mark, sign, digits, rfl, hmark, hsign, hdigits⟩
  · cases rest with
    | nil => rfl
    | cons c more =>
        obtain ⟨-, -, hlower, hupper⟩ := hrest c rfl
        rw [List.nil_append, scanExponent, if_neg (by simp [hlower, hupper])]
  · rw [List.append_assoc, List.cons_append, scanExponent, if_pos (by simpa using hmark),
      scanExponentSign_append hsign hdigits]
    dsimp only
    rw [scanDigits_append hdigits fun c hc => (hrest c hc).1]
    rfl

/-- What starts the one part or, if there is none, the other. -/
theorem head?_append_of {p : Char → Prop} {t : List Char} (hs : ∀ c ∈ s.head?, p c)
    (ht : ∀ c ∈ t.head?, p c) : ∀ c ∈ (s ++ t).head?, p c := by
  cases s with
  | nil => exact ht
  | cons c more => exact hs

theorem IsExponent.head (h : IsExponent s) : ∀ c ∈ s.head?, c.isDigit = false ∧ c ≠ '.' := by
  rcases h with rfl | ⟨mark, sign, digits, rfl, rfl | rfl, -⟩
  · rintro c ⟨⟩
  · rintro c ⟨⟩
    decide
  · rintro c ⟨⟩
    decide

theorem IsFraction.head (h : IsFraction s) : ∀ c ∈ s.head?, c.isDigit = false := by
  rcases h with rfl | ⟨digits, rfl, -⟩
  · rintro c ⟨⟩
  · rintro c ⟨⟩
    decide

theorem scanUnsigned_append {whole fraction exponent : List Char} {n : Number}
    (hwhole : SpellsWhole whole n.whole) (hfraction : IsFraction fraction)
    (hexponent : IsExponent exponent) (htail : n.tail.toList = fraction ++ exponent)
    (hrest : EndsNumber rest) :
    scanUnsigned n.negative (whole ++ (fraction ++ exponent) ++ rest) = some (n, rest) := by
  have hbehind : ∀ c ∈ (exponent ++ rest).head?, c.isDigit = false ∧ c ≠ '.' :=
    head?_append_of hexponent.head fun c hc => ⟨(hrest c hc).1, (hrest c hc).2.1⟩
  have hdigits : ∀ c ∈ (fraction ++ (exponent ++ rest)).head?, c.isDigit = false :=
    head?_append_of hfraction.head fun c hc => (hbehind c hc).1
  rw [List.append_assoc, List.append_assoc, scanUnsigned, scanWhole_append hwhole hdigits]
  simp only [bind, Option.bind_some, scanFraction_append hfraction hbehind,
    scanExponent_append hexponent hrest, ← htail, String.ofList_toList]
  rfl

/-- A number is scanned as a whole, if nothing continues it. -/
theorem scanNumber_append {n : Number} (h : SpellsNumber s n) (hrest : EndsNumber rest) :
    scanNumber (s ++ rest) = some (n, rest) := by
  obtain ⟨whole, fraction, exponent, rfl, hwhole, hfraction, hexponent, htail⟩ := h
  have hunsigned := scanUnsigned_append hwhole hfraction hexponent htail hrest
  cases hnegative : n.negative with
  | true =>
      rw [hnegative] at hunsigned
      exact hunsigned
  | false =>
      rw [hnegative] at hunsigned
      rw [if_neg Bool.false_ne_true, List.nil_append, scanNumber]
      · exact hunsigned
      · intro t ht
        cases whole with
        | nil => exact hwhole.isDigits.1 rfl
        | cons c more =>
            obtain ⟨rfl, -⟩ := List.cons.inj ht
            exact absurd (List.all_eq_true.mp hwhole.isDigits.2 _ List.mem_cons_self) (by decide)

/-- A number starts with its sign or with a digit. -/
theorem SpellsNumber.head {n : Number} (h : SpellsNumber s n) :
    ∃ c t, s = c :: t ∧ (c = '-' ∨ c.isDigit = true) := by
  obtain ⟨whole, fraction, exponent, rfl, hwhole, -⟩ := h
  cases n.negative with
  | true => exact ⟨'-', _, rfl, .inl rfl⟩
  | false =>
      cases whole with
      | nil => exact absurd rfl hwhole.isDigits.1
      | cons c more =>
          exact ⟨c, _, rfl, .inr (List.all_eq_true.mp hwhole.isDigits.2 c List.mem_cons_self)⟩

end Numbers

end SigningEngine.Json
