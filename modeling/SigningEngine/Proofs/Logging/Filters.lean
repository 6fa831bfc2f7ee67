import SigningEngine.Proofs.Logging.Directives

/-!
# Which filters are valid

A filter is valid exactly if each piece between its commas is empty or a directive, and the first
piece that is neither gives the fault of a filter that is not. A configured filter is judged by its
directives alone: the name of the level before them is a directive itself.

The main statements are `checkFilter_eq_ok_iff`, `checkFilter_eq_error_iff` and their counterparts
for configurations.
-/

namespace SigningEngine.Logging

/-- Each piece between the commas is empty or a directive. -/
def IsFilter (s : String) : Prop :=
  ∀ piece ∈ s.toList.splitOn ',', piece = [] ∨ WellFormed piece

/-- The first piece that is neither empty nor a directive has the fault. -/
def FirstRefused (s : String) (fault : DirectiveFault) : Prop :=
  ∃ before piece after, s.toList.splitOn ',' = before ++ piece :: after ∧
    (∀ earlier ∈ before, earlier = [] ∨ WellFormed earlier) ∧ piece ≠ [] ∧ Refused piece fault

theorem pieces_eq_splitOn (s : List Char) : pieces s = s.splitOn ',' := by
  induction s with
  | nil => rfl
  | cons c rest ih =>
      rw [pieces, List.splitOn_cons_eq_if_modifyHead, ← ih]
      by_cases hcomma : c = ','
      · rw [if_pos hcomma, if_pos (by simp [hcomma])]
      · rw [if_neg hcomma, if_neg (by simp [hcomma])]
        cases hpieces : pieces rest with
        | nil =>
            rw [ih] at hpieces
            exact absurd hpieces (List.splitOn_ne_nil ',' rest)
        | cons piece others => rfl

/-- Passing over the empty pieces is passing each of them. -/
theorem forM_nonempty (ps : List (List Char)) :
    (ps.filter fun piece => !piece.isEmpty).forM checkDirective =
      ps.forM fun piece => if piece = [] then .ok () else checkDirective piece := by
  induction ps with
  | nil => rfl
  | cons piece rest ih =>
      rw [List.forM_eq_forM] at ih ⊢
      rw [List.forM_cons, ← ih]
      cases piece with
      | nil => rfl
      | cons c more => rfl

section Check

variable {s : String} {fault : DirectiveFault}

theorem passed_iff {piece : List Char} :
    (if piece = [] then Except.ok () else checkDirective piece) = .ok () ↔
      piece = [] ∨ WellFormed piece := by
  split
  next h => exact ⟨fun _ => .inl h, fun _ => rfl⟩
  next h => rw [checkDirective_eq_ok_iff, or_iff_right h]

theorem refused_iff {piece : List Char} :
    (if piece = [] then Except.ok () else checkDirective piece) = .error fault ↔
      piece ≠ [] ∧ Refused piece fault := by
  split
  next h => exact ⟨fun herror => (by cases herror), fun hrefused => absurd h hrefused.1⟩
  next h => rw [checkDirective_eq_error_iff, and_iff_right h]

/-- A filter is passed exactly if each of its pieces is. -/
theorem checkFilter_eq_ok_iff : checkFilter s = .ok () ↔ IsFilter s := by
  rw [checkFilter, pieces_eq_splitOn, forM_nonempty, forM_eq_ok_iff]
  exact forall₂_congr fun _ _ => passed_iff

/-- A filter is refused for its first piece that is. -/
theorem checkFilter_eq_error_iff : checkFilter s = .error fault ↔ FirstRefused s fault := by
  rw [checkFilter, pieces_eq_splitOn, forM_nonempty, forM_eq_error_iff]
  simp only [passed_iff, refused_iff, FirstRefused]

theorem exists_firstRefused_iff : (∃ fault, FirstRefused s fault) ↔ ¬ IsFilter s := by
  simp only [← checkFilter_eq_ok_iff, ← checkFilter_eq_error_iff]
  exact exists_error_iff

theorem not_isFilter_iff :
    ¬ IsFilter s ↔ ∃ piece ∈ s.toList.splitOn ',', piece ≠ [] ∧ ¬ WellFormed piece := by
  simp only [IsFilter, Classical.not_forall, not_or, exists_prop]

end Check

/-! ### Pieces that are joined -/

section Joined

variable {level : Level} {s : String} {fault : DirectiveFault} {ps : List String}

theorem comma_not_mem_level (level : Level) : ',' ∉ level.name.toList := by
  cases level <;> decide

theorem wellFormed_level (level : Level) : WellFormed level.name.toList := by
  rw [← checkDirective_eq_ok_iff]
  cases level <;> rfl

theorem splitOn_level (level : Level) (s : String) :
    (level.name ++ "," ++ s).toList.splitOn ',' = level.name.toList :: s.toList.splitOn ',' := by
  rw [String.append_assoc, String.toList_append, String.toList_append]
  exact List.splitOn_append_cons_self_of_not_mem (comma_not_mem_level level) _

theorem isFilter_level (level : Level) : IsFilter level.name := by
  rw [IsFilter, List.splitOn_eq_singleton (comma_not_mem_level level), List.forall_mem_singleton]
  exact .inr (wellFormed_level level)

theorem isFilter_behind_level : IsFilter (level.name ++ "," ++ s) ↔ IsFilter s := by
  rw [IsFilter, splitOn_level, List.forall_mem_cons, and_iff_right (.inr (wellFormed_level level))]
  rfl

/-- The level before the directives is never at fault. -/
theorem firstRefused_behind_level :
    FirstRefused (level.name ++ "," ++ s) fault ↔ FirstRefused s fault := by
  rw [FirstRefused, splitOn_level]
  constructor
  · rintro ⟨before, piece, after, hsplit, hbefore, hne, hrefused⟩
    cases before with
    | nil =>
        -- The first piece is the level, and that is a directive.
        obtain ⟨rfl, -⟩ := List.cons.inj hsplit
        exact absurd (wellFormed_level level) (exists_refused_iff.mp ⟨fault, hrefused⟩)
    | cons first before =>
        obtain ⟨-, hrest⟩ := List.cons.inj hsplit
        exact ⟨before, piece, after, hrest, (List.forall_mem_cons.mp hbefore).2, hne, hrefused⟩
  · rintro ⟨before, piece, after, hsplit, hbefore, hne, hrefused⟩
    refine ⟨level.name.toList :: before, piece, after, by rw [hsplit]; rfl, ?_, hne, hrefused⟩
    exact List.forall_mem_cons.mpr ⟨.inr (wellFormed_level level), hbefore⟩

theorem isFilter_empty : IsFilter "" := List.forall_mem_singleton.mpr (.inl rfl)

/-- Pieces without commas form a filter exactly if each of them is empty or a directive. -/
theorem isFilter_join (hps : ∀ p ∈ ps, ',' ∉ p.toList) :
    IsFilter (",".intercalate ps) ↔ ∀ p ∈ ps, p = "" ∨ WellFormed p.toList := by
  have hempty (p : String) : p.toList = [] ↔ p = "" := String.toList_eq_nil_iff
  cases ps with
  | nil => exact ⟨fun _ _ h => (by cases h), fun _ => isFilter_empty⟩
  | cons p rest =>
      have hsplit : (",".intercalate (p :: rest)).toList.splitOn ',' =
          (p :: rest).map String.toList := by
        rw [String.toList_intercalate]
        exact List.splitOn_intercalate ',' (by simpa using hps) (by simp)
      rw [IsFilter, hsplit, List.forall_mem_map]
      simp only [hempty]

end Joined

/-! ### The filter of a configuration -/

section Configured

variable {config : Config} {e : LoggingError}

/-- Without directives, or with blank ones, the filter is the level alone. -/
theorem Config.filter_cases (config : Config) :
    (config.filter = config.level.name ∧
      ∀ d, config.directives = some d → Text.isBlankText d = true) ∨
    ∃ d, config.directives = some d ∧ Text.isBlankText d = false ∧
      config.filter = config.level.name ++ "," ++ Text.trim d := by
  unfold Config.filter
  cases config.directives with
  | none => exact .inl ⟨rfl, fun _ h => (by cases h)⟩
  | some d =>
      cases hblank : Text.isBlankText d with
      | true => exact .inl ⟨if_pos hblank, fun _ h => (by cases h; exact hblank)⟩
      | false => exact .inr ⟨d, rfl, hblank, if_neg (by simp [hblank])⟩

/-- A configuration is refused for the first piece of its directives that is, with the whole of its
filter. -/
theorem Config.checkFilter_eq_error_iff :
    config.checkFilter = .error e ↔
      ∃ d fault, config.directives = some d ∧ Text.isBlankText d = false ∧
        FirstRefused (Text.trim d) fault ∧
        e = .invalidFilter (config.level.name ++ "," ++ Text.trim d) fault.reason := by
  rw [Config.checkFilter, mapError_eq_error_iff]
  simp only [Logging.checkFilter_eq_error_iff]
  rcases config.filter_cases with ⟨hfilter, hblank⟩ | ⟨d, hd, hblank, hfilter⟩
  · rw [hfilter]
    constructor
    · rintro ⟨fault, hrefused, -⟩
      exact absurd (isFilter_level config.level) (exists_firstRefused_iff.mp ⟨fault, hrefused⟩)
    · rintro ⟨d, fault, hd, hnot, -⟩
      rw [hblank d hd] at hnot
      cases hnot
  · rw [hfilter]
    simp only [firstRefused_behind_level]
    constructor
    · rintro ⟨fault, hrefused, rfl⟩
      exact ⟨d, fault, hd, hblank, hrefused, rfl⟩
    · rintro ⟨other, fault, hother, -, hrefused, rfl⟩
      obtain rfl := Option.some.inj (hd.symm.trans hother)
      exact ⟨fault, hrefused, rfl⟩

theorem Config.checkFilter_eq_ok_iff :
    config.checkFilter = .ok () ↔
      ∀ d, config.directives = some d → Text.isBlankText d = false → IsFilter (Text.trim d) := by
  rw [Config.checkFilter, mapError_eq_ok_iff, Logging.checkFilter_eq_ok_iff]
  rcases config.filter_cases with ⟨hfilter, hblank⟩ | ⟨d, hd, hblank, hfilter⟩
  · rw [hfilter]
    refine ⟨fun _ d hd hnot => ?_, fun _ => isFilter_level config.level⟩
    rw [hblank d hd] at hnot
    cases hnot
  · rw [hfilter, isFilter_behind_level]
    constructor
    · rintro hvalid other hother -
      obtain rfl := Option.some.inj (hd.symm.trans hother)
      exact hvalid
    · exact fun h => h d hd hblank

end Configured

end SigningEngine.Logging
