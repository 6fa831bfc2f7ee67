import SigningEngine.Text.Numeral

/-!
# What is read as a numeral

A numeral is an optional plus sign and at least one decimal digit, however many zeros come first.
Reading a text gives the number that it is a numeral of, if there is one below the bound. A text
that is refused is empty, or starts with a numeral of a number that is too large, or else is no
numeral.

Reading stops at the first fault from the left. Only the digits at the start matter to whether it is
that the number is too large: more digits make no number smaller.

The main statements are `readNumeral_eq_ok_iff` and `readNumeral_eq_error_iff`.
-/

namespace SigningEngine.Text

/-- The number that digits denote behind those that denote `value`. -/
abbrev decimalFrom (value : Nat) (digits : List Char) : Nat := Nat.ofDigitChars 10 digits value

theorem decimalFrom_append (value : Nat) (digits more : List Char) :
    decimalFrom value (digits ++ more) = decimalFrom (decimalFrom value digits) more :=
  List.foldl_append

theorem decimalFrom_cons (value : Nat) (c : Char) (digits : List Char) :
    decimalFrom value (c :: digits) = decimalFrom (decimalFrom value [c]) digits :=
  decimalFrom_append value [c] digits

theorem decimalFrom_single (value : Nat) (c : Char) :
    decimalFrom value [c] = 10 * value + (c.toNat - '0'.toNat) := by
  simp [decimalFrom, Nat.ofDigitChars]

/-- More digits make no number smaller. -/
theorem le_decimalFrom (value : Nat) (digits : List Char) : value ≤ decimalFrom value digits := by
  induction digits generalizing value with
  | nil => exact Nat.le_refl value
  | cons c rest ih =>
      have hfirst : value ≤ decimalFrom value [c] := by
        rw [decimalFrom_single]
        omega
      rw [decimalFrom_cons]
      exact Nat.le_trans hfirst (ih _)

/-- The text is a numeral of the number. -/
def Numeral (s : List Char) (n : Nat) : Prop :=
  ∃ digits, (s = digits ∨ s = '+' :: digits) ∧ digits ≠ [] ∧ digits.all Char.isDigit = true ∧
    decimalFrom 0 digits = n

/-- What is wrong with a text that is no numeral of a number below the bound. -/
def HasFault (bound : Nat) (s : List Char) : NumeralError → Prop
  | .empty => s = []
  | .tooLarge => ∃ numeral rest n, s = numeral ++ rest ∧ Numeral numeral n ∧ bound ≤ n
  | .invalidDigit => s ≠ [] ∧ (∀ n, ¬ Numeral s n) ∧
    ∀ numeral rest n, s = numeral ++ rest → Numeral numeral n → n < bound

section Digits

variable {bound value : Nat} {s : List Char}

theorem readDigits_cons_of_isDigit {c : Char} (hc : c.isDigit = true) (rest : List Char) :
    readDigits bound value (c :: rest) =
      if decimalFrom value [c] < bound then readDigits bound (decimalFrom value [c]) rest
      else .error .tooLarge := by
  have hvalue : decimalFrom value [c] = value * 10 + (c.toNat - '0'.toNat) := by
    rw [decimalFrom_single, Nat.mul_comm]
  rw [readDigits, digitValue?, if_pos hc, hvalue]

theorem readDigits_cons_of_not_isDigit {c : Char} (hc : c.isDigit = false) (rest : List Char) :
    readDigits bound value (c :: rest) = .error .invalidDigit := by
  rw [readDigits, digitValue?, if_neg (by simp [hc])]

/-- The digits at the start decide first, then whether anything else follows them. -/
theorem readDigits_eq (hvalue : value < bound) :
    readDigits bound value s =
      if bound ≤ decimalFrom value (s.takeWhile Char.isDigit) then .error .tooLarge
      else if s.all Char.isDigit then .ok (decimalFrom value s)
      else .error .invalidDigit := by
  induction s generalizing value with
  | nil => simp [readDigits, Nat.not_le_of_lt hvalue]
  | cons c rest ih =>
      cases hc : c.isDigit with
      | false =>
          rw [readDigits_cons_of_not_isDigit hc, List.takeWhile_cons_of_neg (by simp [hc])]
          simp [hc, Nat.not_le_of_lt hvalue]
      | true =>
          rw [readDigits_cons_of_isDigit hc, List.takeWhile_cons_of_pos hc, List.all_cons, hc,
            Bool.true_and]
          rw [decimalFrom_cons value c rest, decimalFrom_cons value c (rest.takeWhile _)]
          by_cases hfits : decimalFrom value [c] < bound
          · rw [if_pos hfits, ih hfits]
          · rw [if_neg hfits,
              if_pos (Nat.le_trans (Nat.le_of_not_lt hfits) (le_decimalFrom _ _))]

end Digits

/-- What is left behind a plus sign. -/
def unsigned : List Char → List Char
  | '+' :: digits => digits
  | s => s

theorem unsigned_of_head {s : List Char} (h : s.head? ≠ some '+') : unsigned s = s := by
  unfold unsigned
  split
  · exact absurd rfl h
  · rfl

/-- A text without its plus sign, if it has one. -/
theorem unsigned_cases (s : List Char) : s = '+' :: unsigned s ∨ s = unsigned s := by
  unfold unsigned
  split
  · exact .inl rfl
  · exact .inr rfl

theorem unsigned_of_all_isDigit {s : List Char} (h : s.all Char.isDigit = true) :
    unsigned s = s := by
  refine unsigned_of_head fun hplus => ?_
  have hdigit := List.all_eq_true.mp h '+' (List.mem_of_head? hplus)
  cases hdigit

theorem numeral_iff {s : List Char} {n : Nat} :
    Numeral s n ↔ unsigned s ≠ [] ∧ (unsigned s).all Char.isDigit = true ∧
      decimalFrom 0 (unsigned s) = n := by
  constructor
  · rintro ⟨digits, rfl | rfl, hne, hdigits, hn⟩
    · rw [unsigned_of_all_isDigit hdigits]
      exact ⟨hne, hdigits, hn⟩
    · exact ⟨hne, hdigits, hn⟩
  · rintro ⟨hne, hdigits, hn⟩
    exact ⟨unsigned s, (unsigned_cases s).symm, hne, hdigits, hn⟩

section Reading

variable {bound n : Nat} {s : List Char}

theorem readNumeral_of_ne_nil (h : unsigned s ≠ []) :
    readNumeral bound s = readDigits bound 0 (unsigned s) := by
  unfold readNumeral
  split
  · exact absurd rfl h
  · exact absurd rfl h
  · rfl
  · next hplus =>
      rw [unsigned_of_head]
      intro hhead
      obtain ⟨rest, rfl⟩ := List.head?_eq_some_iff.mp hhead
      exact hplus rest rfl

theorem readNumeral_of_nil (h : unsigned s = []) :
    readNumeral bound s = .error (if s = [] then .empty else .invalidDigit) := by
  rcases unsigned_cases s with hs | hs
  · rw [h] at hs
    subst hs
    rfl
  · rw [h] at hs
    subst hs
    rfl

theorem unsigned_append {rest : List Char} (h : s ≠ []) :
    unsigned (s ++ rest) = unsigned s ++ rest := by
  cases s with
  | nil => exact absurd rfl h
  | cons c more =>
      by_cases hplus : c = '+'
      · subst hplus
        rfl
      · have hhead : ∀ t, (c :: t).head? ≠ some '+' := fun t hc => hplus (Option.some.inj hc)
        rw [unsigned_of_head (hhead more), List.cons_append, unsigned_of_head (hhead _)]

theorem takeWhile_of_all {p : Char → Bool} (h : s.all p = true) : s.takeWhile p = s := by
  rw [← List.append_nil s, List.takeWhile_append_of_pos (List.all_eq_true.mp h)]
  simp

/-- A text starts with a numeral that is too large exactly if the digits at its start are too
large. -/
theorem hasFault_tooLarge_iff (hbound : 0 < bound) :
    HasFault bound s .tooLarge ↔
      bound ≤ decimalFrom 0 ((unsigned s).takeWhile Char.isDigit) := by
  constructor
  · rintro ⟨numeral, rest, n, rfl, hnumeral, hlarge⟩
    obtain ⟨hne, hdigits, rfl⟩ := numeral_iff.mp hnumeral
    have hnil : numeral ≠ [] := by
      rintro rfl
      exact hne rfl
    rw [unsigned_append hnil, List.takeWhile_append_of_pos (List.all_eq_true.mp hdigits),
      decimalFrom_append]
    exact Nat.le_trans hlarge (le_decimalFrom _ _)
  · intro hlarge
    have hne : (unsigned s).takeWhile Char.isDigit ≠ [] := by
      intro hnil
      rw [hnil] at hlarge
      exact absurd hbound (Nat.not_lt_of_le hlarge)
    have hdigits : ((unsigned s).takeWhile Char.isDigit).all Char.isDigit = true :=
      List.all_takeWhile
    have hsplit := List.takeWhile_append_dropWhile (p := Char.isDigit) (l := unsigned s)
    rcases unsigned_cases s with hs | hs
    · exact ⟨'+' :: (unsigned s).takeWhile Char.isDigit, (unsigned s).dropWhile Char.isDigit, _,
        by rw [List.cons_append, hsplit, ← hs], ⟨_, .inr rfl, hne, hdigits, rfl⟩, hlarge⟩
    · exact ⟨(unsigned s).takeWhile Char.isDigit, (unsigned s).dropWhile Char.isDigit, _,
        by rw [hsplit, ← hs], ⟨_, .inl rfl, hne, hdigits, rfl⟩, hlarge⟩

theorem Numeral.unique {m : Nat} (hn : Numeral s n) (hm : Numeral s m) : n = m :=
  (numeral_iff.mp hn).2.2.symm.trans (numeral_iff.mp hm).2.2

/-- Nothing is wrong with a numeral of a number that fits. -/
theorem Numeral.not_hasFault (hbound : 0 < bound) (h : Numeral s n) (hn : n < bound)
    {fault : NumeralError} : ¬ HasFault bound s fault := by
  obtain ⟨hne, hdigits, hvalue⟩ := numeral_iff.mp h
  cases fault with
  | empty =>
      rintro rfl
      exact hne rfl
  | invalidDigit => exact fun hfault => hfault.2.1 n h
  | tooLarge =>
      rw [hasFault_tooLarge_iff hbound, takeWhile_of_all hdigits, hvalue]
      exact Nat.not_le_of_lt hn

theorem hasFault_invalidDigit (hne : s ≠ []) (hnumeral : ∀ n, ¬ Numeral s n)
    (hlarge : ¬ HasFault bound s .tooLarge) : HasFault bound s .invalidDigit :=
  ⟨hne, hnumeral, fun numeral rest n hs hn =>
    Nat.lt_of_not_le fun hle => hlarge ⟨numeral, rest, n, hs, hn, hle⟩⟩

/-- What reading makes of a text: the number of a numeral that fits, or else the fault. -/
theorem readNumeral_spec (hbound : 0 < bound) (s : List Char) :
    (∃ n, Numeral s n ∧ n < bound ∧ readNumeral bound s = .ok n) ∨
      ∃ fault, HasFault bound s fault ∧ readNumeral bound s = .error fault := by
  by_cases hunsigned : unsigned s = []
  · have hlarge : ¬ HasFault bound s .tooLarge := by
      rw [hasFault_tooLarge_iff hbound, hunsigned]
      exact Nat.not_le_of_lt hbound
    refine .inr ⟨_, ?_, readNumeral_of_nil hunsigned⟩
    split
    next hs => exact hs
    next hs =>
      exact hasFault_invalidDigit hs (fun n hn => (numeral_iff.mp hn).1 hunsigned) hlarge
  · rw [readNumeral_of_ne_nil hunsigned, readDigits_eq hbound]
    have hlarge := hasFault_tooLarge_iff (s := s) hbound
    by_cases hdigits : bound ≤ decimalFrom 0 ((unsigned s).takeWhile Char.isDigit)
    · exact .inr ⟨_, hlarge.mpr hdigits, if_pos hdigits⟩
    · rw [if_neg hdigits]
      cases hall : (unsigned s).all Char.isDigit with
      | true =>
          rw [takeWhile_of_all hall] at hdigits
          exact .inl ⟨_, numeral_iff.mpr ⟨hunsigned, hall, rfl⟩, Nat.lt_of_not_le hdigits, rfl⟩
      | false =>
          refine .inr ⟨_, hasFault_invalidDigit ?_ (fun n hn => ?_) (mt hlarge.mp hdigits), rfl⟩
          · rintro rfl
            exact hunsigned rfl
          · rw [(numeral_iff.mp hn).2.1] at hall
            cases hall

theorem readNumeral_eq_ok_iff (hbound : 0 < bound) :
    readNumeral bound s = .ok n ↔ Numeral s n ∧ n < bound := by
  rcases readNumeral_spec hbound s with ⟨m, hm, hlt, hread⟩ | ⟨fault, hfault, hread⟩
  · rw [hread, Except.ok.injEq]
    constructor
    · rintro rfl
      exact ⟨hm, hlt⟩
    · rintro ⟨hn, -⟩
      exact hm.unique hn
  · rw [hread]
    refine ⟨fun h => (by cases h), ?_⟩
    rintro ⟨hn, hlt⟩
    exact absurd hfault (hn.not_hasFault hbound hlt)

/-- A text has one fault at most. -/
theorem HasFault.unique (hbound : 0 < bound) {fault other : NumeralError}
    (h : HasFault bound s fault) (hother : HasFault bound s other) : fault = other := by
  have hempty : ¬ HasFault bound [] .tooLarge := by
    rw [hasFault_tooLarge_iff hbound]
    exact Nat.not_le_of_lt hbound
  have hdigit (h : HasFault bound s .invalidDigit) : ¬ HasFault bound s .tooLarge := by
    rintro ⟨numeral, rest, n, hs, hn, hlarge⟩
    exact Nat.not_lt_of_le hlarge (h.2.2 numeral rest n hs hn)
  cases fault with
  | empty =>
      cases h
      cases other with
      | empty => rfl
      | invalidDigit => exact absurd rfl hother.1
      | tooLarge => exact absurd hother hempty
  | invalidDigit =>
      cases other with
      | empty => exact absurd hother h.1
      | invalidDigit => rfl
      | tooLarge => exact absurd hother (hdigit h)
  | tooLarge =>
      cases other with
      | empty =>
          cases hother
          exact absurd h hempty
      | invalidDigit => exact absurd h (hdigit hother)
      | tooLarge => rfl

theorem readNumeral_eq_error_iff (hbound : 0 < bound) {fault : NumeralError} :
    readNumeral bound s = .error fault ↔ HasFault bound s fault := by
  rcases readNumeral_spec hbound s with ⟨n, hn, hlt, hread⟩ | ⟨found, hfound, hread⟩
  · rw [hread]
    exact ⟨fun h => (by cases h), fun hfault => absurd hfault (hn.not_hasFault hbound hlt)⟩
  · rw [hread, Except.error.injEq]
    constructor
    · rintro rfl
      exact hfound
    · exact hfound.unique hbound

end Reading

end SigningEngine.Text
