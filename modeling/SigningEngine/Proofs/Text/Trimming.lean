import SigningEngine.Text.Blank

/-!
# What trimming leaves

A text is what it is trimmed to with blanks on both sides. A trimmed text has a blank at neither
end, and is the only such text that the blanks can be taken off to.

The main statement is `trim_eq_iff`.
-/

namespace SigningEngine.Text

/-- No blank stands at either end. -/
def IsTrimmed (word : String) : Prop :=
  word.toList.head?.all (! isBlank ·) = true ∧ word.toList.getLast?.all (! isBlank ·) = true

instance (word : String) : Decidable (IsTrimmed word) := inferInstanceAs (Decidable (_ ∧ _))

/-- The text is the word with blanks on both sides. -/
def Pads (s word : String) : Prop :=
  ∃ before after : List Char, s.toList = before ++ word.toList ++ after ∧
    before.all isBlank = true ∧ after.all isBlank = true

/-- The word is what is left of the text without the blanks at its ends. -/
structure TrimsTo (s word : String) : Prop where
  pads : Pads s word
  isTrimmed : IsTrimmed word

variable {before after s : List Char}

theorem dropWhile_of_all {p : Char → Bool} (h : before.all p = true) :
    (before ++ s).dropWhile p = s.dropWhile p := by
  rw [List.dropWhile_append_of_pos (List.all_eq_true.mp h)]

theorem dropWhile_of_head? {p : Char → Bool} (h : s.head?.all (! p ·) = true) :
    s.dropWhile p = s := by
  cases s with
  | nil => rfl
  | cons c rest =>
      have hc : p c = false := by simpa using h
      rw [List.dropWhile_cons_of_neg (by simp [hc])]

theorem head?_dropWhile (p : Char → Bool) (s : List Char) :
    (s.dropWhile p).head?.all (! p ·) = true := by
  cases hfound : (s.dropWhile p).head? with
  | none => rfl
  | some c =>
      have hc := List.head?_dropWhile_not p s
      rw [hfound] at hc
      simpa using hc

/-- Blanks at the start are taken off, and nothing else. -/
theorem trimStart_append (hbefore : before.all isBlank = true)
    (hs : s.head?.all (! isBlank ·) = true) : trimStart (before ++ s) = s := by
  rw [trimStart, dropWhile_of_all hbefore, dropWhile_of_head? hs]

theorem trimEnd_append (hafter : after.all isBlank = true)
    (hs : s.getLast?.all (! isBlank ·) = true) : trimEnd (s ++ after) = s := by
  rw [trimEnd, List.reverse_append, dropWhile_of_all (by rwa [List.all_reverse]),
    dropWhile_of_head? (by rwa [List.head?_reverse]), List.reverse_reverse]

theorem eq_append_trimStart (s : List Char) :
    ∃ before, s = before ++ trimStart s ∧ before.all isBlank = true :=
  ⟨s.takeWhile isBlank, (List.takeWhile_append_dropWhile).symm, List.all_takeWhile⟩

theorem eq_trimEnd_append (s : List Char) :
    ∃ after, s = trimEnd s ++ after ∧ after.all isBlank = true := by
  obtain ⟨before, hs, hbefore⟩ := eq_append_trimStart s.reverse
  refine ⟨before.reverse, ?_, by rwa [List.all_reverse]⟩
  rw [trimEnd, ← List.reverse_append, ← trimStart, ← hs, List.reverse_reverse]

/-- Taking blanks off the end leaves the start as it is, unless nothing is left. -/
theorem head?_trimEnd (hs : s.head?.all (! isBlank ·) = true) :
    (trimEnd s).head?.all (! isBlank ·) = true := by
  obtain ⟨after, happend, -⟩ := eq_trimEnd_append s
  cases htrimmed : trimEnd s with
  | nil => rfl
  | cons c rest =>
      rw [happend, htrimmed] at hs
      exact hs

theorem trim_toList (s : String) : (trim s).toList = trimEnd (trimStart s.toList) :=
  String.toList_ofList

theorem isTrimmed_trim (s : String) : IsTrimmed (trim s) := by
  rw [IsTrimmed, trim_toList]
  refine ⟨head?_trimEnd (head?_dropWhile isBlank s.toList), ?_⟩
  rw [trimEnd, List.getLast?_reverse]
  exact head?_dropWhile isBlank _

theorem pads_trim (s : String) : Pads s (trim s) := by
  obtain ⟨before, hbefore, hblank⟩ := eq_append_trimStart s.toList
  obtain ⟨after, hafter, hblank'⟩ := eq_trimEnd_append (trimStart s.toList)
  exact ⟨before, after, by rw [trim_toList, List.append_assoc, ← hafter, ← hbefore], hblank,
    hblank'⟩

/-- A text is trimmed to the one word without blanks at its ends that it pads. -/
theorem trim_eq_iff {s word : String} : trim s = word ↔ TrimsTo s word := by
  constructor
  · rintro rfl
    exact ⟨pads_trim s, isTrimmed_trim s⟩
  · rintro ⟨⟨before, after, hs, hbefore, hafter⟩, hhead, hlast⟩
    apply String.toList_injective
    rw [trim_toList, hs]
    cases hword : word.toList with
    | nil =>
        -- Nothing but blanks: taking them off the start leaves nothing to take off the end.
        have hall : (before ++ after).all isBlank = true := by
          rw [List.all_append, hbefore, hafter, Bool.and_self]
        have hstart : trimStart (before ++ after) = [] := by
          simpa using trimStart_append hall (s := []) rfl
        rw [List.append_nil, hstart]
        rfl
    | cons c rest =>
        rw [hword] at hhead hlast
        have hstart : trimStart (before ++ (c :: rest ++ after)) = c :: rest ++ after :=
          trimStart_append hbefore hhead
        rw [List.append_assoc, hstart, trimEnd_append hafter hlast]

theorem pads_self (s : String) : Pads s s := ⟨[], [], by simp, rfl, rfl⟩

/-- A text without blanks has none at its ends. -/
theorem isTrimmed_of_all {word : String} (h : ∀ c ∈ word.toList, isBlank c = false) :
    IsTrimmed word := by
  refine ⟨?_, ?_⟩
  · rw [Option.all_eq_true]
    intro c hc
    rw [h c (List.mem_of_head? hc), Bool.not_false]
  · rw [Option.all_eq_true]
    intro c hc
    rw [h c (List.mem_of_getLast? hc), Bool.not_false]

theorem trim_of_isBlankText {s : String} (h : isBlankText s = true) : trim s = "" :=
  trim_eq_iff.mpr ⟨⟨s.toList, [], by simp, h, rfl⟩, rfl, rfl⟩

theorem trim_of_not_isBlank {s : String} (h : ∀ c ∈ s.toList, isBlank c = false) : trim s = s :=
  trim_eq_iff.mpr ⟨pads_self s, isTrimmed_of_all h⟩

end SigningEngine.Text
