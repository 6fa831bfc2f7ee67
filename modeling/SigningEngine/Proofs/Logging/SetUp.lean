import SigningEngine.Proofs.Logging.Filters

/-!
# What setting logging up comes to

A filter in the environment replaces the configured one only if it is valid: the configured level
and directives then have no influence. One that is not valid is passed over without a word, as if
it were not set.

Where no filter of the environment is used, setting up fails over the configured directives exactly
if one of their pieces is neither empty nor a directive, and the first such piece gives the reason.
Directives joined from pieces are thus accepted exactly if each piece is accepted alone.

The main statements are `setUp_overridden` and `setUp_judges_pieces`.
-/

namespace SigningEngine.Logging

/-- The environment has a valid filter. -/
def Usable (lookup : Lookup) : Prop := ∃ text, lookup "RUST_LOG" = some text ∧ IsFilter text

/-- What kind of failure it is, whatever it reports. -/
inductive FaultKind where
  | alreadyInitialized
  | invalidFilter
  | invalidConfig
  deriving DecidableEq, Repr

def LoggingError.kind : LoggingError → FaultKind
  | alreadyInitialized => .alreadyInitialized
  | invalidFilter _ _ => .invalidFilter
  | unknownLevel _ => .invalidConfig
  | unknownFormat _ => .invalidConfig

/-- The directives do not make setting up fail over the filter. -/
def Accepts (lookup : Lookup) (config : Config) (alreadySetUp : Bool) (directives : String) :
    Prop :=
  ∀ filter reason, setUp lookup { config with directives := some directives } alreadySetUp ≠
    .error (.invalidFilter filter reason)

/-- Commas bring no blanks between pieces that have none. -/
theorem not_isBlank_of_mem_join {ps : List String}
    (hps : ∀ p ∈ ps, ∀ c ∈ p.toList, Text.isBlank c = false) :
    ∀ c ∈ (",".intercalate ps).toList, Text.isBlank c = false := by
  rw [String.toList_intercalate]
  induction ps with
  | nil => exact fun _ h => (by cases h)
  | cons p rest ih =>
      obtain ⟨hp, hrest⟩ := List.forall_mem_cons.mp hps
      cases rest with
      | nil => simpa using hp
      | cons q others =>
          rw [List.map_cons, List.map_cons, List.intercalate_cons_cons, ← List.map_cons]
          intro c hc
          rcases List.mem_append.mp hc with hc | hc
          · rcases List.mem_append.mp hc with hc | hc
            · exact hp c hc
            · rw [List.mem_singleton.mp hc]
              decide
          · exact ih hrest c hc

section Cases

variable {lookup : Lookup} {config : Config} {alreadySetUp : Bool}

theorem setUp_of_usable (h : Usable lookup) :
    setUp lookup config alreadySetUp =
      if alreadySetUp then .error .alreadyInitialized else .ok () := by
  obtain ⟨text, htext, hfilter⟩ := h
  rw [setUp, htext, Option.map_some, checkFilter_eq_ok_iff.mpr hfilter]
  rfl

theorem setUp_of_not_usable (h : ¬ Usable lookup) :
    setUp lookup config alreadySetUp = config.checkFilter >>= fun _ =>
      if alreadySetUp then .error .alreadyInitialized else .ok () := by
  rw [setUp]
  cases htext : lookup "RUST_LOG" with
  | none => rfl
  | some text =>
      rw [Option.map_some]
      cases hcheck : checkFilter text with
      | ok => exact absurd ⟨text, htext, checkFilter_eq_ok_iff.mp hcheck⟩ h
      | error fault => rfl

theorem setUp_eq_invalidFilter_iff (h : ¬ Usable lookup) {filter reason : String} :
    setUp lookup config alreadySetUp = .error (.invalidFilter filter reason) ↔
      ∃ d fault, config.directives = some d ∧ Text.isBlankText d = false ∧
        FirstRefused (Text.trim d) fault ∧
        filter = config.level.name ++ "," ++ Text.trim d ∧ reason = fault.reason := by
  rw [setUp_of_not_usable h, bind_eq_error_iff, Config.checkFilter_eq_error_iff]
  constructor
  · rintro (⟨d, fault, hd, hblank, hrefused, heq⟩ | ⟨_, -, hinstalled⟩)
    · obtain ⟨rfl, rfl⟩ := LoggingError.invalidFilter.inj heq
      exact ⟨d, fault, hd, hblank, hrefused, rfl, rfl⟩
    · split at hinstalled <;> cases hinstalled
  · rintro ⟨d, fault, hd, hblank, hrefused, rfl, rfl⟩
    exact .inl ⟨d, fault, hd, hblank, hrefused, rfl⟩

theorem exists_invalidFilter_iff (h : ¬ Usable lookup) :
    (∃ filter reason, setUp lookup config alreadySetUp = .error (.invalidFilter filter reason)) ↔
      ∃ d, config.directives = some d ∧ Text.isBlankText d = false ∧ ¬ IsFilter (Text.trim d) := by
  simp only [setUp_eq_invalidFilter_iff h, ← exists_firstRefused_iff]
  constructor
  · rintro ⟨_, _, d, fault, hd, hblank, hrefused, -⟩
    exact ⟨d, hd, hblank, fault, hrefused⟩
  · rintro ⟨d, hd, hblank, fault, hrefused⟩
    exact ⟨_, _, d, fault, hd, hblank, hrefused, rfl, rfl⟩

/-- Nothing but the filter and an earlier set-up can make setting up fail. -/
theorem setUp_of_not_invalidFilter (h : ¬ Usable lookup)
    (hvalid : ∀ filter reason,
      setUp lookup config alreadySetUp ≠ .error (.invalidFilter filter reason)) :
    setUp lookup config alreadySetUp =
      if alreadySetUp then .error .alreadyInitialized else .ok () := by
  cases hcheck : config.checkFilter with
  | ok => rw [setUp_of_not_usable h, hcheck]; rfl
  | error e =>
      obtain ⟨d, fault, -, -, -, rfl⟩ := Config.checkFilter_eq_error_iff.mp hcheck
      exact absurd (by rw [setUp_of_not_usable h, hcheck]; rfl) (hvalid _ _)

/-- The level has no part in what is accepted. -/
theorem accepts_iff (h : ¬ Usable lookup) {d : String} :
    Accepts lookup config alreadySetUp d ↔ IsFilter (Text.trim d) := by
  constructor
  · intro haccepts
    refine Classical.byContradiction fun hnot => ?_
    have hblank : Text.isBlankText d = false := by
      cases hblank : Text.isBlankText d with
      | false => rfl
      | true =>
          rw [Text.trim_of_isBlankText hblank] at hnot
          exact absurd isFilter_empty hnot
    have hfails : ∃ filter reason,
        setUp lookup { config with directives := some d } alreadySetUp =
          .error (.invalidFilter filter reason) :=
      (exists_invalidFilter_iff h).mpr ⟨d, rfl, hblank, hnot⟩
    obtain ⟨filter, reason, herror⟩ := hfails
    exact haccepts filter reason herror
  · intro hvalid filter reason herror
    obtain ⟨other, hother, -, hnot⟩ := (exists_invalidFilter_iff h).mp ⟨filter, reason, herror⟩
    obtain rfl := Option.some.inj hother
    exact hnot hvalid

/-- Pieces with neither commas nor blanks are joined to what is accepted exactly if each of them is
accepted. -/
theorem accepts_join_iff (h : ¬ Usable lookup) {ps : List String}
    (hps : ∀ p ∈ ps, ∀ c ∈ p.toList, c ≠ ',' ∧ Text.isBlank c = false) :
    Accepts lookup config alreadySetUp (",".intercalate ps) ↔
      ∀ p ∈ ps, p = "" ∨ WellFormed p.toList := by
  have hblank : ∀ c ∈ (",".intercalate ps).toList, Text.isBlank c = false :=
    not_isBlank_of_mem_join fun p hp c hc => (hps p hp c hc).2
  rw [accepts_iff h, Text.trim_of_not_isBlank hblank,
    isFilter_join fun p hp hcomma => (hps p hp ',' hcomma).1 rfl]

end Cases

/-! ### The filter of the environment -/

/-- Without a filter in the environment the configured directives decide. -/
theorem kinds_differ {lookup : Lookup} (h : ¬ Usable lookup) :
    (setUp lookup { directives := some "engine_core=9" } true).mapError LoggingError.kind ≠
      (setUp lookup {} true).mapError LoggingError.kind := by
  rw [setUp_of_not_usable h, setUp_of_not_usable h]
  exact fun heq => (by cases heq)

/-- A valid filter in the environment decides alone, and any other is as good as none. So the
configuration has no influence, on success and on the kind of a failure, exactly if the filter in
the environment is valid. -/
theorem setUp_overridden {lookup : Lookup} {text : String} (h : lookup "RUST_LOG" = some text) :
    (IsFilter text → ∀ (config : Config) (alreadySetUp : Bool),
      setUp lookup config alreadySetUp =
        if alreadySetUp then .error .alreadyInitialized else .ok ()) ∧
    (¬ IsFilter text → ∀ (config : Config) (alreadySetUp : Bool),
      setUp lookup config alreadySetUp = setUp (fun _ => none) config alreadySetUp) ∧
    ((∀ (config other : Config) (alreadySetUp : Bool), config.format = other.format →
      (setUp lookup config alreadySetUp).mapError LoggingError.kind =
        (setUp lookup other alreadySetUp).mapError LoggingError.kind) ↔ IsFilter text) := by
  have husable : Usable lookup ↔ IsFilter text := by
    constructor
    · rintro ⟨found, hfound, hfilter⟩
      obtain rfl := Option.some.inj (h.symm.trans hfound)
      exact hfilter
    · exact fun hfilter => ⟨text, h, hfilter⟩
  have hunset : ¬ Usable fun _ => none := fun ⟨_, hnone, _⟩ => by cases hnone
  refine ⟨fun hfilter config alreadySetUp => setUp_of_usable (husable.mpr hfilter),
    fun hfilter config alreadySetUp => ?_, fun hsame => ?_,
    fun hfilter config other alreadySetUp _ => ?_⟩
  · rw [setUp_of_not_usable (mt husable.mp hfilter), setUp_of_not_usable hunset]
  · refine Classical.byContradiction fun hfilter => ?_
    exact kinds_differ (mt husable.mp hfilter) (hsame _ _ true rfl)
  · rw [setUp_of_usable (husable.mpr hfilter), setUp_of_usable (husable.mpr hfilter)]

/-- An environment that sets the filter and nothing else. -/
def overriding (text : String) : Lookup := fun name => if name = "RUST_LOG" then some text else none

theorem setUp_overridden_warn :
    overriding "warn" "RUST_LOG" = some "warn" ∧
      ∀ config, setUp (overriding "warn") config false = .ok () :=
  have hset : overriding "warn" "RUST_LOG" = some "warn" := rfl
  ⟨hset, fun config => (setUp_overridden hset).1 (isFilter_level .warn) config false⟩

/-- A filter in the environment that names a level there is none of does not replace the configured
one, whose directives then decide how setting up ends. -/
theorem setUp_not_overridden :
    overriding "a=9" "RUST_LOG" = some "a=9" ∧
      setUp (overriding "a=9") { directives := none } true = .error .alreadyInitialized ∧
      setUp (overriding "a=9") { directives := some "engine_core=9" } true =
        .error (.invalidFilter "info,engine_core=9" DirectiveFault.badLevel.reason) :=
  ⟨rfl, rfl, rfl⟩

/-! ### The configured directives -/

/-- Where no filter of the environment is used, the pieces of the configured directives decide, each
of them on its own. -/
theorem setUp_judges_pieces {lookup : Lookup} (h : ¬ Usable lookup) :
    (∀ (config : Config) (alreadySetUp : Bool) (filter reason : String),
      setUp lookup config alreadySetUp = .error (.invalidFilter filter reason) ↔
        ∃ d fault, config.directives = some d ∧ Text.isBlankText d = false ∧
          FirstRefused (Text.trim d) fault ∧
          filter = config.level.name ++ "," ++ Text.trim d ∧ reason = fault.reason) ∧
    (∀ (config : Config) (alreadySetUp : Bool),
      (∃ filter reason, setUp lookup config alreadySetUp = .error (.invalidFilter filter reason)) ↔
        ∃ d, config.directives = some d ∧ Text.isBlankText d = false ∧
          ∃ piece ∈ (Text.trim d).toList.splitOn ',', piece ≠ [] ∧ ¬ WellFormed piece) ∧
    (∀ (config : Config) (alreadySetUp : Bool),
      (∀ filter reason,
        setUp lookup config alreadySetUp ≠ .error (.invalidFilter filter reason)) →
      setUp lookup config alreadySetUp =
        if alreadySetUp then .error .alreadyInitialized else .ok ()) ∧
    ∀ (ps qs : List String) (empties : Nat),
      (∀ p ∈ ps, ∀ c ∈ p.toList, c ≠ ',' ∧ Text.isBlank c = false) →
      qs.Perm (ps ++ List.replicate empties "") →
      ∀ (config alone : Config) (alreadySetUp alreadyAlone : Bool),
        Accepts lookup config alreadySetUp (",".intercalate qs) ↔
          ∀ p ∈ ps, Accepts lookup alone alreadyAlone p := by
  refine ⟨fun config alreadySetUp filter reason => setUp_eq_invalidFilter_iff h,
    fun config alreadySetUp => ?_, fun config alreadySetUp => setUp_of_not_invalidFilter h, ?_⟩
  · simp only [exists_invalidFilter_iff h, not_isFilter_iff]
  · intro ps qs empties hps hperm config alone alreadySetUp alreadyAlone
    have hmem (q : String) : q ∈ qs ↔ q ∈ ps ∨ q ∈ List.replicate empties "" := by
      rw [hperm.mem_iff, List.mem_append]
    have hqs : ∀ q ∈ qs, ∀ c ∈ q.toList, c ≠ ',' ∧ Text.isBlank c = false := by
      intro q hq
      rcases (hmem q).mp hq with hq | hq
      · exact hps q hq
      · rw [List.eq_of_mem_replicate hq]
        exact fun _ hc => (by cases hc)
    -- A piece alone is joined from itself.
    have halone : ∀ p ∈ ps, Accepts lookup alone alreadyAlone p ↔ p = "" ∨ WellFormed p.toList := by
      intro p hp
      have hsingle : ",".intercalate [p] = p := by simp
      have hjoin : Accepts lookup alone alreadyAlone (",".intercalate [p]) ↔
          ∀ q ∈ [p], q = "" ∨ WellFormed q.toList :=
        accepts_join_iff h (List.forall_mem_singleton.mpr (hps p hp))
      rwa [hsingle, List.forall_mem_singleton] at hjoin
    rw [accepts_join_iff h hqs, forall₂_congr halone]
    constructor
    · exact fun hall p hp => hall p ((hmem p).mpr (.inl hp))
    · intro hall q hq
      rcases (hmem q).mp hq with hq | hq
      · exact hall q hq
      · exact .inl (List.eq_of_mem_replicate hq)

/-- The blanks around the whole go, those around a piece do not. -/
theorem setUp_judges_pieces_blank :
    ¬ Usable (fun _ => none) ∧
      FirstRefused ",a=info,, b=warn,a=9" .badLevel ∧
      (∀ level, setUp (fun _ => none)
          { level, directives := some "\u3000,a=info,, b=warn,a=9\t" } false =
        .error (.invalidFilter (level.name ++ "," ++ ",a=info,, b=warn,a=9")
          DirectiveFault.badLevel.reason)) ∧
      ∀ config alreadySetUp,
        Accepts (fun _ => none) config alreadySetUp ",a=info,,engine_core[seal]=5," := by
  have hunset : ¬ Usable fun _ => none := fun ⟨_, hnone, _⟩ => by cases hnone
  have hrefused : FirstRefused ",a=info,, b=warn,a=9" .badLevel :=
    checkFilter_eq_error_iff.mp rfl
  obtain ⟨hfilter, -, -, hjoin⟩ := setUp_judges_pieces hunset
  refine ⟨hunset, hrefused, fun level => ?_, fun config alreadySetUp => ?_⟩
  · exact (hfilter _ _ _ _).mpr ⟨_, _, rfl, rfl, hrefused, rfl, rfl⟩
  · have hplain : ∀ p ∈ ["a=info", "engine_core[seal]=5"],
        ∀ c ∈ p.toList, c ≠ ',' ∧ Text.isBlank c = false := by
      have hall : ["a=info", "engine_core[seal]=5"].all (fun p =>
          p.toList.all fun c => c ≠ ',' && !Text.isBlank c) = true := by decide
      simpa only [List.all_eq_true, Bool.and_eq_true, decide_eq_true_eq,
        Bool.not_eq_true'] using hall
    have hpieces := hjoin ["a=info", "engine_core[seal]=5"]
      ["", "a=info", "", "engine_core[seal]=5", ""] 3 hplain (by decide) config {} alreadySetUp
      false
    refine hpieces.mpr (List.forall_mem_cons.mpr ⟨?_, List.forall_mem_singleton.mpr ?_⟩)
    · exact (accepts_iff hunset).mpr (checkFilter_eq_ok_iff.mp rfl)
    · exact (accepts_iff hunset).mpr (checkFilter_eq_ok_iff.mp rfl)

end SigningEngine.Logging
