import SigningEngine.Bytes.Lemmas
import SigningEngine.Crypto.Der

/-!
# Reading back a pair of integers

What an integer is encoded as is read back as that integer, whatever follows it, as long as its
content is short enough for a length of one byte. The shortest content of a number starts with a
zero byte only where the sign bit would be set, so no encoding is refused as too long.
-/

namespace SigningEngine.Der

theorem toNat_magnitude (n : Nat) : Bytes.toNat (magnitude n) = n := by
  induction n using Nat.strongRecOn with
  | ind n ih =>
    rw [magnitude]
    split
    next hzero => rw [hzero, Bytes.toNat_nil]
    next hzero =>
      have hbyte : (UInt8.ofNat n).toNat = n % 256 := UInt8.toNat_ofNat'
      rw [Bytes.toNat_concat, ih (n / 256) (by omega), hbyte]
      omega

/-- A magnitude has no more bytes than are needed. -/
theorem length_magnitude_le {n length : Nat} (h : n < 256 ^ length) :
    (magnitude n).length ≤ length := by
  induction length generalizing n with
  | zero =>
    rw [magnitude, if_pos (by simpa using h)]
    exact Nat.le_refl 0
  | succ length ih =>
    rw [magnitude]
    split
    · exact Nat.zero_le _
    · rw [List.length_append, List.length_singleton]
      have hrest : n / 256 < 256 ^ length := by
        rw [Nat.div_lt_iff_lt_mul (by decide)]
        rwa [Nat.pow_succ] at h
      exact Nat.succ_le_succ (ih hrest)

/-- A magnitude has no leading zero. -/
theorem magnitude_ne_zero_cons (n : Nat) (rest : Bytes) : magnitude n ≠ 0 :: rest := by
  induction n using Nat.strongRecOn generalizing rest with
  | ind n ih =>
    intro heq
    rw [magnitude] at heq
    split at heq
    next => cases heq
    next hpositive =>
      cases hhigh : magnitude (n / 256) with
      | nil =>
        have hsmall := toNat_magnitude (n / 256)
        rw [hhigh, Bytes.toNat_nil] at hsmall
        rw [hhigh, List.nil_append, List.cons.injEq, ← UInt8.toNat_inj, UInt8.toNat_ofNat'] at heq
        have hzero : n % 256 = 0 := heq.1
        omega
      | cons b high =>
        rw [hhigh, List.cons_append, List.cons.injEq] at heq
        exact ih (n / 256) (by omega) high (by rw [hhigh, heq.1])

theorem integerContent?_integerContent (n : Nat) :
    integerContent? (integerContent n) = some n := by
  have hvalue := toNat_magnitude n
  rw [integerContent]
  cases hmagnitude : magnitude n with
  | nil =>
    rw [hmagnitude, Bytes.toNat_nil] at hvalue
    subst hvalue
    rfl
  | cons b rest =>
    have hb : b ≠ 0 := by
      rintro rfl
      exact magnitude_ne_zero_cons n rest hmagnitude
    rw [hmagnitude] at hvalue
    simp only
    split
    next hclear =>
      cases rest with
      | nil =>
        rw [integerContent?, if_pos hclear, ← hvalue]
        simp [Bytes.toNat]
      | cons c rest =>
        rw [integerContent?, if_neg, hvalue]
        simp [hb, hclear]
    next hset =>
      rw [integerContent?, if_neg, Bytes.toNat_zero_cons, hvalue]
      simp [hset]

theorem length_integerContent_le {n length : Nat} (h : n < 256 ^ length) :
    (integerContent n).length ≤ length + 1 := by
  have hlength := length_magnitude_le h
  rw [integerContent]
  cases hmagnitude : magnitude n with
  | nil => exact Nat.succ_le_succ (Nat.zero_le _)
  | cons b rest =>
    rw [hmagnitude, List.length_cons] at hlength
    simp only
    split
    · exact Nat.le_succ_of_le hlength
    · exact Nat.succ_le_succ hlength

/-- An element is read back, whatever follows it. -/
theorem element?_element (tag : UInt8) {content : Bytes} (h : content.length < 128)
    (rest : Bytes) : element? tag (element tag content ++ rest) = some (content, rest) := by
  have hlength : (UInt8.ofNat content.length).toNat = content.length :=
    UInt8.toNat_ofNat_of_lt (Nat.lt_trans h (by decide))
  have hshort : UInt8.ofNat content.length < 0x80 := by
    rw [UInt8.lt_iff_toNat_lt, hlength]
    exact h
  rw [element, List.cons_append, List.cons_append, element?, hlength, if_pos, List.take_left',
    List.drop_left'] <;> simp [hshort]

theorem integer?_integer {n : Nat} (h : n < 256 ^ 32) (rest : Bytes) :
    integer? (integer n ++ rest) = some (n, rest) := by
  have hlength := length_integerContent_le h
  rw [integer?, integer, element?_element _ (Nat.lt_of_le_of_lt hlength (by decide))]
  simp [integerContent?_integerContent]

theorem length_integer_le {n : Nat} (h : n < 256 ^ 32) : (integer n).length ≤ 35 := by
  have hlength := length_integerContent_le h
  rw [integer, element, List.length_cons, List.length_cons]
  omega

/-- A pair of integers of at most 32 bytes is read back. -/
theorem pair?_pair {m n : Nat} (hm : m < 256 ^ 32) (hn : n < 256 ^ 32) :
    pair? (pair m n) = some (m, n) := by
  have hfirst := length_integer_le hm
  have hsecond := length_integer_le hn
  have hlength : (integer m ++ integer n).length < 128 := by
    rw [List.length_append]
    omega
  have hpair := element?_element 0x30 hlength []
  have hlast := integer?_integer hn []
  rw [List.append_nil] at hpair hlast
  rw [pair?, pair, hpair]
  simp [integer?_integer hm, hlast]

end SigningEngine.Der
