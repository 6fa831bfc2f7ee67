import SigningEngine.Proofs.Text.LetterCase

/-!
# Looking for a word in the upper case of a text

Upper case forgets the case of ASCII letters, whatever stands around them, and of ASCII text it
forgets nothing else.

A character may become several in upper case, so a word may stand in the upper case of a text
without being the upper case of a part: it starts or ends inside what one character becomes. This
cannot happen to a word that no expansion cuts, that is whose first character stands in expansions
only first and whose last one only last.

The main statements are `upperChars_eq_iff` and `infix_upperChars_iff`.
-/

namespace SigningEngine.Text

/-! ### The case of ASCII letters -/

theorem upperChar_of_ascii {c : Char} (h : c.toNat < 128) : upperChar c = [c.toUpper] := by
  refine of_ascii (p := fun c => upperChar c = [c.toUpper]) ?_ h
  decide +kernel

theorem upperChar_toLower (c : Char) : upperChar c.toLower = upperChar c := by
  by_cases hascii : c.toNat < 128
  · have hlower : c.toLower.toNat < 128 ∧ c.toLower.toUpper = c.toUpper := by
      refine of_ascii (p := fun c => c.toLower.toNat < 128 ∧ c.toLower.toUpper = c.toUpper) ?_ hascii
      decide +kernel
    rw [upperChar_of_ascii hlower.1, hlower.2, upperChar_of_ascii hascii]
  · rw [toLower_of_foreign (Nat.le_of_not_lt hascii)]

/-- Upper case does not see the case of ASCII letters. -/
theorem upperChars_map_toLower (s : List Char) : upperChars (s.map Char.toLower) = upperChars s := by
  rw [upperChars, List.flatMap_map, upperChars]
  congr 1
  funext c
  exact upperChar_toLower c

theorem lowerAscii_eq_iff {s t : String} :
    lowerAscii s = lowerAscii t ↔ s.toList.map Char.toLower = t.toList.map Char.toLower := by
  rw [lowerAscii, lowerAscii, String.ofList_inj]

theorem upperChars_of_lowerAscii {s t : String} (h : lowerAscii s = lowerAscii t) :
    upperChars s.toList = upperChars t.toList := by
  rw [← upperChars_map_toLower s.toList, lowerAscii_eq_iff.mp h, upperChars_map_toLower t.toList]

/-- The characters of a text can be looked at one by one. -/
theorem ascii_of_all {s : String} (h : s.toList.all (·.toNat < 128) = true) :
    ∀ c ∈ s.toList, c.toNat < 128 := by
  simpa only [List.all_eq_true, decide_eq_true_eq] using h

theorem toLower_toUpper {c : Char} (h : c.toNat < 128) : c.toUpper.toLower = c.toLower := by
  refine of_ascii (p := fun c => c.toUpper.toLower = c.toLower) ?_ h
  decide +kernel

theorem map_toLower_upperChars {s : List Char} (h : ∀ c ∈ s, c.toNat < 128) :
    (upperChars s).map Char.toLower = s.map Char.toLower := by
  induction s with
  | nil => rfl
  | cons c rest ih =>
      obtain ⟨hc, hrest⟩ := List.forall_mem_cons.mp h
      rw [upperChars] at ih ⊢
      rw [List.flatMap_cons, List.map_append, upperChar_of_ascii hc, List.map_singleton,
        toLower_toUpper hc, ih hrest, List.map_cons, List.singleton_append]

/-- ASCII texts have the same upper case exactly if they are the same but for the case of letters. -/
theorem upperChars_eq_iff {s t : String} (hs : ∀ c ∈ s.toList, c.toNat < 128)
    (ht : ∀ c ∈ t.toList, c.toNat < 128) :
    upperChars s.toList = upperChars t.toList ↔ lowerAscii s = lowerAscii t := by
  constructor
  · intro h
    rw [lowerAscii_eq_iff, ← map_toLower_upperChars hs, h, map_toLower_upperChars ht]
  · exact upperChars_of_lowerAscii

/-! ### Words among images -/

section Images

variable {α β : Type} {f : α → List β} {s : List α} {before after : List β} {b : β}

/-- A word can start in the image only where the image does, and end only where it ends. -/
def Uncut (word image : List β) : Prop :=
  (∀ b ∈ word.head?, b ∉ image.tail) ∧ ∀ b ∈ word.getLast?, b ∉ image.dropLast

instance [DecidableEq β] (word image : List β) : Decidable (Uncut word image) :=
  inferInstanceAs (Decidable (_ ∧ _))

/-- An element that stands in no image but first has a gap between images before it. -/
theorem exists_gap_before (hb : ∀ a, b ∉ (f a).tail) (h : s.flatMap f = before ++ b :: after) :
    ∃ front back, s = front ++ back ∧ front.flatMap f = before ∧ back.flatMap f = b :: after := by
  rw [List.flatMap_def, List.flatten_eq_append_iff] at h
  rcases h with ⟨_, _, hmap, rfl, hback⟩ | ⟨_, inside, _, rest, _, hmap, rfl, hback⟩
  · obtain ⟨front, back, rfl, rfl, rfl⟩ := List.map_eq_append_iff.mp hmap
    exact ⟨front, back, rfl, List.flatMap_def, by rw [hback, List.flatMap_def]⟩
  · obtain ⟨front, others, rfl, rfl, hothers⟩ := List.map_eq_append_iff.mp hmap
    obtain ⟨a, back, rfl, himage, rfl⟩ := List.map_eq_cons_iff.mp hothers
    obtain ⟨rfl, rfl⟩ := List.cons.inj hback
    -- The element is in the image of `a`, so nothing of that image can be in front of it.
    cases inside with
    | nil =>
        refine ⟨front, a :: back, rfl, ?_, ?_⟩
        · rw [List.append_nil, List.flatMap_def]
        · rw [List.flatMap_cons, himage, List.flatMap_def]
          rfl
    | cons _ inside =>
        refine absurd ?_ (hb a)
        rw [himage, List.cons_append, List.tail_cons]
        exact List.mem_append_right inside List.mem_cons_self

/-- An element that stands in no image but last has a gap between images behind it. -/
theorem exists_gap_behind (hb : ∀ a, b ∉ (f a).dropLast) (h : s.flatMap f = before ++ b :: after) :
    ∃ front back, s = front ++ back ∧ front.flatMap f = before ++ [b] ∧ back.flatMap f = after := by
  -- Read from the end, this is the gap before it.
  have htail : ∀ a, b ∉ ((List.reverse ∘ f) a).tail := by
    intro a
    rw [Function.comp_apply, List.tail_reverse, List.mem_reverse]
    exact hb a
  have hreversed : s.reverse.flatMap (List.reverse ∘ f) = after.reverse ++ b :: before.reverse := by
    rw [← List.reverse_flatMap, h, List.reverse_append, List.reverse_cons, List.append_assoc,
      List.singleton_append]
  obtain ⟨back, front, hs, hback, hfront⟩ := exists_gap_before htail hreversed
  refine ⟨front.reverse, back.reverse, ?_, ?_, ?_⟩
  · rw [← List.reverse_append, ← hs, List.reverse_reverse]
  · rw [List.flatMap_reverse, hfront, List.reverse_cons, List.reverse_reverse]
  · rw [List.flatMap_reverse, hback, List.reverse_reverse]

/-- A word that no image cuts stands among the images exactly if it is made of those of a part. -/
theorem infix_flatMap_iff {word : List β} (hword : ∀ a, Uncut word (f a)) :
    word <:+: s.flatMap f ↔ ∃ part, part <:+: s ∧ part.flatMap f = word := by
  constructor
  · rintro ⟨before, after, h⟩
    cases word with
    | nil => exact ⟨[], List.nil_infix, rfl⟩
    | cons first rest =>
        have hne : first :: rest ≠ [] := List.cons_ne_nil first rest
        rw [List.append_assoc, List.cons_append] at h
        obtain ⟨front, others, rfl, -, hothers⟩ :=
          exists_gap_before (fun a => (hword a).1 first rfl) h.symm
        have hends : others.flatMap f =
            (first :: rest).dropLast ++ (first :: rest).getLast hne :: after := by
          rw [hothers, List.append_cons, List.dropLast_concat_getLast, List.cons_append]
        obtain ⟨part, back, rfl, hpart, -⟩ :=
          exists_gap_behind (fun a => (hword a).2 _ (List.getLast?_eq_some_getLast hne)) hends
        refine ⟨part, ⟨front, back, List.append_assoc front part back⟩, ?_⟩
        rw [hpart, List.dropLast_concat_getLast]
  · rintro ⟨part, ⟨front, back, rfl⟩, rfl⟩
    refine ⟨front.flatMap f, back.flatMap f, ?_⟩
    rw [List.flatMap_append, List.flatMap_append]

end Images

/-! ### Words in upper case -/

theorem upperChar_cases (c : Char) :
    (∃ image, upperChar c = [image]) ∨
      ∃ expansion ∈ upperExpansions, upperChar c = expansion.2.map Char.ofNat := by
  rw [upperChar, mapCase]
  split
  next codes hcodes =>
    obtain ⟨before, after, hexpansions, -⟩ := List.lookup_eq_some_iff.mp hcodes
    refine .inr ⟨(c.toNat, codes), ?_, rfl⟩
    rw [hexpansions]
    exact List.mem_append_right before List.mem_cons_self
  next =>
    split
    · exact .inl ⟨_, rfl⟩
    · exact .inl ⟨_, rfl⟩

/-- A single character cuts no word, so the expansions are all there is to look at. -/
theorem uncut_upperChar {word : List Char}
    (h : ∀ expansion ∈ upperExpansions, Uncut word (expansion.2.map Char.ofNat)) (c : Char) :
    Uncut word (upperChar c) := by
  rcases upperChar_cases c with ⟨image, himage⟩ | ⟨expansion, hmem, himage⟩
  · rw [himage]
    exact ⟨fun _ _ => List.not_mem_nil, fun _ _ => List.not_mem_nil⟩
  · rw [himage]
    exact h expansion hmem

/-- A word that no expansion cuts stands in the upper case of a text exactly if it is the upper case
of a part. -/
theorem infix_upperChars_iff {word s : List Char}
    (h : ∀ expansion ∈ upperExpansions, Uncut word (expansion.2.map Char.ofNat)) :
    word <:+: upperChars s ↔ ∃ part, part <:+: s ∧ upperChars part = word :=
  infix_flatMap_iff (uncut_upperChar h)

end SigningEngine.Text
