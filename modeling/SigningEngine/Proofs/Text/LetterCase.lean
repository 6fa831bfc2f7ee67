import SigningEngine.Text.Case

/-!
# Which texts lower-case to an ASCII word

The letters A to Z go to a to z, and every other ASCII character stays. No other character becomes
ASCII text in lower case, but for the Kelvin sign, which becomes the letter k. So where a word has
no k, the texts whose lower case is that word are the word in any case of its ASCII letters, and
nothing else.

The main statement is `lower_eq_iff`.
-/

namespace SigningEngine.Text

/-- An ASCII character that only ASCII characters have as their lower case. -/
def isPlain (c : Char) : Bool := c.toNat < 128 && c != 'k'

namespace CaseRun

/-- Neither the characters of the run nor their images are ASCII, and the images are characters. -/
def foreign (run : CaseRun) : Bool :=
  128 ≤ run.first && 128 ≤ (run.first : Int) + run.shift &&
    ((run.last : Int) + run.shift < 0xD800 ||
      (0xE000 ≤ (run.first : Int) + run.shift && (run.last : Int) + run.shift < 0x110000))

theorem image_of_foreign {run : CaseRun} {code : Nat} (hrun : run.foreign = true)
    (hcovers : run.covers code = true) :
    128 ≤ run.image code ∧ (run.image code).isValidChar := by
  simp only [foreign, covers, Bool.and_eq_true, Bool.or_eq_true, decide_eq_true_eq] at hrun hcovers
  rw [Nat.isValidChar, image]
  omega

end CaseRun

/-- The sign of the unit Kelvin, a capital letter. -/
def kelvin : Char := Char.ofNat 0x212A

theorem lowerRuns_foreign :
    lowerRuns.all (fun run =>
      run.last < 128 || run.foreign || (run.first == 0x212A && run.last == 0x212A)) = true := by
  decide +kernel

theorem lowerChar_kelvin : lowerChar kelvin = ['k'] := by decide +kernel

/-- What holds of the characters with an ASCII code holds of every ASCII character. -/
theorem of_ascii {p : Char → Prop} (h : ∀ code < 128, p (Char.ofNat code)) {c : Char}
    (hc : c.toNat < 128) : p c := by
  have hcode := h c.toNat hc
  rwa [Char.ofNat_toNat] at hcode

theorem lowerChar_of_ascii {c : Char} (h : c.toNat < 128) : lowerChar c = [c.toLower] := by
  refine of_ascii (p := fun c => lowerChar c = [c.toLower]) ?_ h
  decide +kernel

theorem toNat_ofNat {code : Nat} (h : code.isValidChar) : (Char.ofNat code).toNat = code := by
  rw [Char.ofNat, dif_pos h]
  rfl

theorem not_isPlain_of_le {c : Char} (h : 128 ≤ c.toNat) : isPlain c = false := by
  rw [isPlain, decide_eq_false (Nat.not_lt_of_le h), Bool.false_and]

/-- In lower case a character that is not ASCII shows that it is not. -/
theorem lowerChar_of_foreign {c : Char} (h : 128 ≤ c.toNat) :
    ∃ image ∈ lowerChar c, isPlain image = false := by
  by_cases hkelvin : c = kelvin
  · subst hkelvin
    exact ⟨'k', by simp [lowerChar_kelvin], rfl⟩
  have hcode : c.toNat ≠ 0x212A := fun hcode => hkelvin (Char.toNat_inj.mp hcode)
  rw [lowerChar, mapCase]
  split
  next codes hcodes =>
    have hexpansion : codes = [0x69, 0x307] := by
      rw [lowerExpansions, List.lookup_cons] at hcodes
      split at hcodes
      · exact (Option.some.inj hcodes).symm
      · cases hcodes
    exact ⟨Char.ofNat 0x307, by simp [hexpansion], by decide⟩
  next =>
    split
    next run hrun =>
      have hcovers := List.find?_some hrun
      have hends := hcovers
      simp only [CaseRun.covers, Bool.and_eq_true, decide_eq_true_eq] at hends
      have hkind := List.all_eq_true.mp lowerRuns_foreign run (List.mem_of_find?_eq_some hrun)
      refine ⟨_, List.mem_singleton.mpr rfl, ?_⟩
      simp only [Bool.or_eq_true, decide_eq_true_eq, Bool.and_eq_true, beq_iff_eq] at hkind
      rcases hkind with (hascii | hforeign) | ⟨hfirst, hlast⟩
      · omega
      · obtain ⟨hle, hvalid⟩ := CaseRun.image_of_foreign hforeign hcovers
        exact not_isPlain_of_le (by rwa [toNat_ofNat hvalid])
      · omega
    next => exact ⟨c, List.mem_singleton.mpr rfl, not_isPlain_of_le h⟩

/-- A capital sigma becomes one of the two small ones, and every other character what it becomes on
its own. -/
theorem lowerAfter_cons (before rest : List Char) (c : Char) :
    ∃ image, lowerAfter before (c :: rest) = image ++ lowerAfter (c :: before) rest ∧
      (c.toNat < 128 → image = [c.toLower]) ∧
      (128 ≤ c.toNat → ∃ mapped ∈ image, isPlain mapped = false) := by
  rw [lowerAfter]
  refine ⟨_, rfl, ?_, ?_⟩
  · intro hascii
    have hsigma : c ≠ 'Σ' := by
      rintro rfl
      exact absurd hascii (by decide)
    rw [if_neg hsigma, lowerChar_of_ascii hascii]
  · intro hforeign
    split
    · split
      · exact ⟨_, List.mem_singleton.mpr rfl, by decide⟩
      · exact ⟨_, List.mem_singleton.mpr rfl, by decide⟩
    · exact lowerChar_of_foreign hforeign

theorem lowerAfter_of_ascii {s : List Char} (before : List Char) (h : ∀ c ∈ s, c.toNat < 128) :
    lowerAfter before s = s.map Char.toLower := by
  induction s generalizing before with
  | nil => rfl
  | cons c rest ih =>
      obtain ⟨image, himage, hascii, -⟩ := lowerAfter_cons before rest c
      rw [himage, hascii (h c List.mem_cons_self),
        ih (c :: before) fun c hc => h c (List.mem_cons_of_mem _ hc)]
      rfl

theorem ascii_of_lowerAfter {s : List Char} (before : List Char)
    (h : ∀ c ∈ lowerAfter before s, isPlain c = true) : ∀ c ∈ s, c.toNat < 128 := by
  induction s generalizing before with
  | nil => simp
  | cons c rest ih =>
      obtain ⟨image, himage, -, hforeign⟩ := lowerAfter_cons before rest c
      rw [himage] at h
      rintro d (_ | ⟨_, hd⟩)
      · refine Nat.lt_of_not_le fun hle => ?_
        obtain ⟨mapped, hmem, hplain⟩ := hforeign hle
        rw [h mapped (List.mem_append_left _ hmem)] at hplain
        cases hplain
      · exact ih (c :: before) (fun c hc => h c (List.mem_append_right _ hc)) d hd

theorem toLower_of_foreign {c : Char} (h : 128 ≤ c.toNat) : c.toLower = c := by
  apply dif_neg
  rintro ⟨-, hle⟩
  have hle : c.toNat ≤ 90 := hle
  omega

/-- A text is a word of plain characters in lower case exactly if it is the word but for the case
of ASCII letters. -/
theorem lower_eq_iff {s word : String} (hword : word.toList.all isPlain = true) :
    lower s = word ↔ lowerAscii s = word := by
  have hplain := List.all_eq_true.mp hword
  have hlower (h : ∀ c ∈ s.toList, c.toNat < 128) : lower s = lowerAscii s := by
    rw [lower, lowerAscii, lowerChars, lowerAfter_of_ascii [] h]
  constructor
  · intro h
    rw [← hlower, h]
    refine ascii_of_lowerAfter [] fun c hc => hplain c ?_
    rw [← h, lower, String.toList_ofList]
    exact hc
  · intro h
    rw [hlower, h]
    intro c hc
    refine Nat.lt_of_not_le fun hle => ?_
    have hmem : c ∈ word.toList := by
      rw [← h, lowerAscii, String.toList_ofList, List.mem_map]
      exact ⟨c, hc, toLower_of_foreign hle⟩
    exact absurd (hplain c hmem) (by simp [not_isPlain_of_le hle])

end SigningEngine.Text
