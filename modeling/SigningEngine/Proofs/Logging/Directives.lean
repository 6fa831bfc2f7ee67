import SigningEngine.Logging.Filter
import SigningEngine.Proofs.Except
import SigningEngine.Proofs.Text.Numerals
import SigningEngine.Proofs.Text.Trimming

/-!
# The grammar of log directives

A directive is a target, a span in brackets and a level behind an equals sign. The target may be
empty, and the span and the level may be missing. A target alone may also be the name of a level,
so it is never refused.

The form of a directive is that of its piece without the blanks around it, while its level is cut
out of the piece with them, behind as many bytes. So the two are stated apart: a piece has the form
of a directive with a level or without one, and then the level is good or not.

The main statements are `checkDirective_eq_ok_iff` and `checkDirective_eq_error_iff`.
-/

namespace SigningEngine.Logging

/-- The text holds neither of the marks that a target ends with. -/
def IsTarget (s : List Char) : Prop := '=' ∉ s ∧ '[' ∉ s

/-- The form of a directive without blanks around it, and behind how many bytes its level starts, if
it has one. -/
inductive LevelAt : List Char → Option Nat → Prop
  | bare {target : List Char} : IsTarget target → LevelAt target none
  | target {target level : List Char} :
      IsTarget target → LevelAt (target ++ '=' :: level) (some (byteLength target + 1))
  | span {target name : List Char} :
      IsTarget target → ']' ∉ name → LevelAt (target ++ '[' :: (name ++ [']'])) none
  | spanLevel {target name level : List Char} :
      IsTarget target → ']' ∉ name →
      LevelAt (target ++ '[' :: (name ++ ']' :: '=' :: level))
        (some (byteLength target + 1 + byteLength name + 2))

/-- A directive starts with a bracket, or with a character that a target may start with. -/
def Starts (s : List Char) : Prop := ∃ c ∈ s.head?, startsDirective c = true

/-- The piece has the form of a directive, with the level or with none. -/
inductive Form (piece : List Char) : Option (List Char) → Prop
  | unleveled {word : String} :
      Text.TrimsTo (String.ofList piece) word → Starts word.toList →
      LevelAt word.toList none → Form piece none
  | leveled {word : String} {front level : List Char} :
      Text.TrimsTo (String.ofList piece) word → Starts word.toList →
      LevelAt word.toList (some (byteLength front)) → piece = front ++ level →
      Form piece (some level)

def levelNames : List String := ["off", "error", "warn", "info", "debug", "trace"]

/-- The text is empty, a numeral of one of the six levels, or the name of one in any case. -/
def IsLevel (s : List Char) : Prop :=
  s = [] ∨ (∃ n < 6, Text.Numeral s n) ∨ Text.lowerAscii (String.ofList s) ∈ levelNames

def WellFormed (piece : List Char) : Prop :=
  ∃ level?, Form piece level? ∧ ∀ level ∈ level?, IsLevel level

/-- What is wrong with a piece that is no directive: its form or its level. -/
def Refused (piece : List Char) : DirectiveFault → Prop
  | .malformed => ∀ level?, ¬ Form piece level?
  | .badLevel => ∃ level, Form piece (some level) ∧ ¬ IsLevel level

/-! ### Where the level starts -/

section Marks

variable {p : Char → Bool} {s rest : List Char} {mark : Char}

theorem takeWhile_mark (hs : s.all p = true) (hmark : p mark = false) :
    (s ++ mark :: rest).takeWhile p = s := by
  rw [List.takeWhile_append_of_pos (List.all_eq_true.mp hs),
    List.takeWhile_cons_of_neg (by simp [hmark]), List.append_nil]

theorem dropWhile_mark (hs : s.all p = true) (hmark : p mark = false) :
    (s ++ mark :: rest).dropWhile p = mark :: rest := by
  rw [Text.dropWhile_of_all hs, List.dropWhile_cons_of_neg (by simp [hmark])]

end Marks

theorem all_of_isTarget {s : List Char} (h : IsTarget s) :
    s.all (fun c => c ≠ '=' && c ≠ '[') = true := by
  rw [List.all_eq_true]
  intro c hc
  have hequals : c ≠ '=' := fun heq => h.1 (heq ▸ hc)
  have hbracket : c ≠ '[' := fun heq => h.2 (heq ▸ hc)
  simp [hequals, hbracket]

theorem isTarget_of_all {s : List Char} (h : s.all (fun c => c ≠ '=' && c ≠ '[') = true) :
    IsTarget s := by
  rw [List.all_eq_true] at h
  exact ⟨fun hc => absurd (h _ hc) (by decide), fun hc => absurd (h _ hc) (by decide)⟩

theorem all_of_not_mem {name : List Char} (h : ']' ∉ name) : name.all (· ≠ ']') = true := by
  rw [List.all_eq_true]
  intro c hc
  have hne : c ≠ ']' := fun heq => h (heq ▸ hc)
  simp [hne]

theorem levelStart?_of_starts {s : List Char} (h : Starts s) :
    levelStart? s =
      match s.dropWhile fun c => c ≠ '=' && c ≠ '[' with
      | [] => .ok none
      | mark :: rest =>
        if mark = '=' then
          .ok (some (byteLength (s.takeWhile fun c => c ≠ '=' && c ≠ '[') + 1))
        else levelBehindSpan (byteLength (s.takeWhile fun c => c ≠ '=' && c ≠ '[') + 1) rest := by
  obtain ⟨c, hc, hstarts⟩ := h
  obtain ⟨rest, rfl⟩ := List.head?_eq_some_iff.mp hc
  exact if_pos hstarts

theorem levelStart?_of_levelAt {s : List Char} {start? : Option Nat} (h : LevelAt s start?)
    (hstarts : Starts s) : levelStart? s = .ok start? := by
  rw [levelStart?_of_starts hstarts]
  cases h with
  | bare htarget =>
      have hdrop := Text.dropWhile_of_all (s := []) (all_of_isTarget htarget)
      rw [List.append_nil] at hdrop
      rw [hdrop]
      rfl
  | target htarget =>
      rw [dropWhile_mark (all_of_isTarget htarget) (by decide),
        takeWhile_mark (all_of_isTarget htarget) (by decide)]
      rfl
  | span htarget hname =>
      rw [dropWhile_mark (all_of_isTarget htarget) (by decide),
        takeWhile_mark (all_of_isTarget htarget) (by decide)]
      dsimp only
      rw [if_neg (by decide), levelBehindSpan, dropWhile_mark (all_of_not_mem hname) (by decide)]
  | spanLevel htarget hname =>
      rw [dropWhile_mark (all_of_isTarget htarget) (by decide),
        takeWhile_mark (all_of_isTarget htarget) (by decide)]
      dsimp only
      rw [if_neg (by decide), levelBehindSpan, dropWhile_mark (all_of_not_mem hname) (by decide),
        takeWhile_mark (all_of_not_mem hname) (by decide)]
      rfl

/-- What a text is up to its first character without the property, and from there on. -/
theorem dropWhile_cases (p : Char → Bool) (s : List Char) :
    (s.dropWhile p = [] ∧ s = s.takeWhile p) ∨
      ∃ mark rest, s.dropWhile p = mark :: rest ∧ p mark = false ∧
        s = s.takeWhile p ++ mark :: rest := by
  have hsplit := List.takeWhile_append_dropWhile (p := p) (l := s)
  cases hdrop : s.dropWhile p with
  | nil =>
      rw [hdrop, List.append_nil] at hsplit
      exact .inl ⟨rfl, hsplit.symm⟩
  | cons mark rest =>
      have hhead := Text.head?_dropWhile p s
      rw [hdrop] at hsplit hhead
      exact .inr ⟨mark, rest, rfl, by simpa using hhead, hsplit.symm⟩

theorem levelAt_of_levelBehindSpan {target s : List Char} {start? : Option Nat}
    (htarget : IsTarget target)
    (h : levelBehindSpan (byteLength target + 1) s = .ok start?) :
    LevelAt (target ++ '[' :: s) start? := by
  have hname : ']' ∉ s.takeWhile (· ≠ ']') := by
    intro hmem
    have hne := List.all_eq_true.mp (List.all_takeWhile (p := (· ≠ ']')) (l := s)) _ hmem
    simp at hne
  rw [levelBehindSpan] at h
  rcases dropWhile_cases (· ≠ ']') s with ⟨hdrop, -⟩ | ⟨mark, rest, hdrop, hmark, hs⟩
  · rw [hdrop] at h
    cases h
  · obtain rfl : mark = ']' := by simpa using hmark
    rw [hdrop] at h
    -- Behind the closing bracket comes the end, or an equals sign.
    cases rest with
    | nil =>
        cases h
        rw [hs]
        exact .span htarget hname
    | cons c level =>
        dsimp only at h
        split at h
        next hequals =>
          cases h
          subst hequals
          have hlevel :
              LevelAt (target ++ '[' :: (s.takeWhile (· ≠ ']') ++ ']' :: '=' :: level)) _ :=
            .spanLevel htarget hname
          rwa [← hs] at hlevel
        next => cases h

theorem levelAt_of_levelStart? {s : List Char} {start? : Option Nat}
    (h : levelStart? s = .ok start?) : Starts s ∧ LevelAt s start? := by
  have hstarts : Starts s := by
    cases s with
    | nil => cases h
    | cons c rest =>
        rw [levelStart?] at h
        split at h
        next hc => exact ⟨c, rfl, hc⟩
        next => cases h
  refine ⟨hstarts, ?_⟩
  rw [levelStart?_of_starts hstarts] at h
  have htarget : IsTarget (s.takeWhile fun c => c ≠ '=' && c ≠ '[') :=
    isTarget_of_all List.all_takeWhile
  rcases dropWhile_cases (fun c => c ≠ '=' && c ≠ '[') s with
    ⟨hdrop, hs⟩ | ⟨mark, rest, hdrop, hmark, hs⟩
  · rw [hdrop] at h
    cases h
    rw [hs]
    exact .bare htarget
  · rw [hdrop] at h
    dsimp only at h
    split at h
    next hequals =>
      cases h
      subst hequals
      have hlevel : LevelAt ((s.takeWhile fun c => c ≠ '=' && c ≠ '[') ++ '=' :: rest) _ :=
        .target htarget
      rwa [← hs] at hlevel
    next hequals =>
      obtain rfl : mark = '[' := by simpa [hequals] using hmark
      rw [hs]
      exact levelAt_of_levelBehindSpan htarget h

theorem levelStart?_eq_ok_iff {s : List Char} {start? : Option Nat} :
    levelStart? s = .ok start? ↔ Starts s ∧ LevelAt s start? :=
  ⟨levelAt_of_levelStart?, fun ⟨hstarts, h⟩ => levelStart?_of_levelAt h hstarts⟩

/-- A directive whose level has no place is malformed, and has no other fault. -/
theorem malformed_of_levelBehindSpan {read : Nat} {s : List Char} {fault : DirectiveFault}
    (h : levelBehindSpan read s = .error fault) : fault = .malformed := by
  unfold levelBehindSpan at h
  dsimp only at h
  split at h
  · cases h
    rfl
  · cases h
  · split at h
    · cases h
    · cases h
      rfl

theorem malformed_of_levelStart? {s : List Char} {fault : DirectiveFault}
    (h : levelStart? s = .error fault) : fault = .malformed := by
  unfold levelStart? at h
  split at h
  · cases h
    rfl
  · split at h
    · dsimp only at h
      split at h
      · cases h
      · split at h
        · cases h
        · exact malformed_of_levelBehindSpan h
    · cases h
      rfl

/-! ### The level -/

/-- What follows a distance in bytes is what stands behind a text of that many bytes. -/
theorem dropBytes_eq_some_iff {n : Nat} {s level : List Char} :
    dropBytes n s = some level ↔ ∃ front, s = front ++ level ∧ byteLength front = n := by
  constructor
  · intro h
    fun_induction dropBytes n s with
    | case1 s =>
        cases h
        exact ⟨[], rfl, rfl⟩
    | case2 => cases h
    | case3 n c rest hfits ih =>
        obtain ⟨front, rfl, hfront⟩ := ih h
        refine ⟨c :: front, rfl, ?_⟩
        rw [byteLength]
        omega
    | case4 => cases h
  · rintro ⟨front, rfl, rfl⟩
    induction front with
    | nil => simp [byteLength, dropBytes]
    | cons c front ih =>
        -- A character takes a byte at least, so the distance behind it is not zero.
        have hsize := c.utf8Size_pos
        obtain ⟨n, hn⟩ : ∃ n, c.utf8Size + byteLength front = n + 1 :=
          Nat.exists_eq_succ_of_ne_zero (by omega)
        have hbehind : n + 1 - c.utf8Size = byteLength front := by omega
        rw [byteLength, hn, List.cons_append, dropBytes, if_pos (by omega), hbehind, ih]

theorem isLevel_iff {s : List Char} : isLevel s = true ↔ IsLevel s := by
  have hname : s.map Char.toLower ∈ levelNames.map String.toList ↔
      Text.lowerAscii (String.ofList s) ∈ levelNames := by
    rw [Text.lowerAscii, String.toList_ofList, List.mem_map]
    constructor
    · rintro ⟨name, hname, hs⟩
      rwa [← hs, String.ofList_toList]
    · exact fun h => ⟨_, h, String.toList_ofList⟩
  have hread (n : Nat) : Text.readNumeral 6 s = .ok n ↔ Text.Numeral s n ∧ n < 6 :=
    Text.readNumeral_eq_ok_iff (by decide)
  rw [isLevel, Bool.or_eq_true, Bool.or_eq_true, List.isEmpty_iff, decide_eq_true_eq, or_assoc]
  refine or_congr_right (or_congr ?_ hname)
  cases hfound : Text.readNumeral 6 s with
  | ok n =>
      obtain ⟨hs, hn⟩ := (hread n).mp hfound
      exact ⟨fun _ => ⟨n, hn, hs⟩, fun _ => rfl⟩
  | error fault =>
      refine ⟨fun h => (by cases h), ?_⟩
      rintro ⟨n, hn, hs⟩
      have hok := (hread n).mpr ⟨hs, hn⟩
      rw [hfound] at hok
      cases hok

/-! ### The verdict -/

/-- The piece without the blanks around it. -/
theorem trim_piece (piece : List Char) :
    Text.trimEnd (Text.trimStart piece) = (Text.trim (String.ofList piece)).toList := by
  rw [Text.trim_toList, String.toList_ofList]

theorem form_none_iff {piece : List Char} :
    Form piece none ↔ levelStart? (Text.trimEnd (Text.trimStart piece)) = .ok none := by
  rw [trim_piece, levelStart?_eq_ok_iff]
  constructor
  · rintro ⟨hword, hstarts, hlevel⟩
    rw [Text.trim_eq_iff.mpr hword]
    exact ⟨hstarts, hlevel⟩
  · rintro ⟨hstarts, hlevel⟩
    exact .unleveled (Text.trim_eq_iff.mp rfl) hstarts hlevel

theorem form_some_iff {piece level : List Char} :
    Form piece (some level) ↔
      ∃ start, levelStart? (Text.trimEnd (Text.trimStart piece)) = .ok (some start) ∧
        dropBytes start piece = some level := by
  simp only [trim_piece, levelStart?_eq_ok_iff, dropBytes_eq_some_iff]
  constructor
  · intro h
    cases h with
    | leveled hword hstarts hlevel hpiece =>
        rw [Text.trim_eq_iff.mpr hword]
        exact ⟨_, ⟨hstarts, hlevel⟩, _, hpiece, rfl⟩
  · rintro ⟨_, ⟨hstarts, hlevel⟩, front, hpiece, rfl⟩
    exact .leveled (Text.trim_eq_iff.mp rfl) hstarts hlevel hpiece

section Verdict

variable {piece : List Char} {level? other? : Option (List Char)} {fault : DirectiveFault}

/-- A piece has one form, with one level or with none. -/
theorem Form.unique (h : Form piece level?) (hother : Form piece other?) : level? = other? := by
  cases level? with
  | none =>
      cases other? with
      | none => rfl
      | some other =>
          obtain ⟨start, hstart, -⟩ := form_some_iff.mp hother
          rw [form_none_iff.mp h] at hstart
          cases hstart
  | some level =>
      obtain ⟨start, hstart, hlevel⟩ := form_some_iff.mp h
      cases other? with
      | none =>
          rw [form_none_iff.mp hother] at hstart
          cases hstart
      | some other =>
          obtain ⟨otherStart, hotherStart, hotherLevel⟩ := form_some_iff.mp hother
          rw [hstart] at hotherStart
          cases hotherStart
          rw [← hlevel, ← hotherLevel]

theorem checkDirective_of_levelStart? {start : Nat}
    (h : levelStart? (Text.trimEnd (Text.trimStart piece)) = .ok (some start)) :
    checkDirective piece = match dropBytes start piece with
      | none => Except.error .malformed
      | some level => if isLevel level then .ok () else .error .badLevel := by
  rw [checkDirective, h]
  rfl

theorem checkDirective_of_form (h : Form piece level?) :
    checkDirective piece = if level?.all isLevel then .ok () else .error .badLevel := by
  cases level? with
  | none =>
      rw [checkDirective, form_none_iff.mp h]
      rfl
  | some level =>
      obtain ⟨start, hstart, hlevel⟩ := form_some_iff.mp h
      rw [checkDirective_of_levelStart? hstart, hlevel]
      rfl

theorem checkDirective_of_not_form (h : ∀ level?, ¬ Form piece level?) :
    checkDirective piece = .error .malformed := by
  cases hstart : levelStart? (Text.trimEnd (Text.trimStart piece)) with
  | error fault =>
      rw [checkDirective, hstart, malformed_of_levelStart? hstart]
      rfl
  | ok start? =>
      cases start? with
      | none => exact absurd (form_none_iff.mpr hstart) (h none)
      | some start =>
          rw [checkDirective_of_levelStart? hstart]
          cases hlevel : dropBytes start piece with
          | none => rfl
          | some level => exact absurd (form_some_iff.mpr ⟨start, hstart, hlevel⟩) (h (some level))

theorem all_isLevel_iff : level?.all isLevel = true ↔ ∀ level ∈ level?, IsLevel level := by
  cases level? with
  | none => exact ⟨fun _ _ h => (by cases h), fun _ => rfl⟩
  | some level => simp [isLevel_iff]

/-- A piece is passed exactly if it is a directive. -/
theorem checkDirective_eq_ok_iff : checkDirective piece = .ok () ↔ WellFormed piece := by
  by_cases hform : ∃ level?, Form piece level?
  · obtain ⟨level?, h⟩ := hform
    rw [checkDirective_of_form h]
    constructor
    · intro hok
      split at hok
      next hlevel => exact ⟨level?, h, all_isLevel_iff.mp hlevel⟩
      next => cases hok
    · rintro ⟨other?, hother, hlevel⟩
      rw [if_pos (all_isLevel_iff.mpr (h.unique hother ▸ hlevel))]
  · rw [checkDirective_of_not_form (not_exists.mp hform)]
    exact ⟨fun hok => (by cases hok), fun ⟨level?, h, _⟩ => absurd ⟨level?, h⟩ hform⟩

/-- A piece is refused for the fault that it has. -/
theorem checkDirective_eq_error_iff :
    checkDirective piece = .error fault ↔ Refused piece fault := by
  by_cases hform : ∃ level?, Form piece level?
  · obtain ⟨level?, h⟩ := hform
    rw [checkDirective_of_form h]
    cases fault with
    | malformed =>
        refine ⟨fun herror => ?_, fun hnone => absurd h (hnone level?)⟩
        split at herror <;> cases herror
    | badLevel =>
        have hrefused : Refused piece .badLevel ↔ ∃ level, level? = some level ∧ ¬ IsLevel level :=
          ⟨fun ⟨level, hother, hlevel⟩ => ⟨level, h.unique hother, hlevel⟩,
            fun ⟨level, heq, hlevel⟩ => ⟨level, heq ▸ h, hlevel⟩⟩
        rw [hrefused]
        cases level? with
        | none => exact ⟨fun herror => (by cases herror), fun ⟨_, heq, _⟩ => (by cases heq)⟩
        | some level => simp [isLevel_iff]
  · rw [checkDirective_of_not_form (not_exists.mp hform)]
    cases fault with
    | malformed => exact ⟨fun _ => not_exists.mp hform, fun _ => rfl⟩
    | badLevel =>
        exact ⟨fun herror => (by cases herror), fun ⟨level, h, _⟩ => absurd ⟨_, h⟩ hform⟩

/-- What is no directive has a fault, and only that. -/
theorem exists_refused_iff : (∃ fault, Refused piece fault) ↔ ¬ WellFormed piece := by
  simp only [← checkDirective_eq_ok_iff, ← checkDirective_eq_error_iff]
  exact exists_error_iff

end Verdict

end SigningEngine.Logging
