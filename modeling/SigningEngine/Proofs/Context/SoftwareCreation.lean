import SigningEngine.Proofs.Context.Exhaustion
import SigningEngine.Proofs.Software.Footprint
import SigningEngine.Proofs.World

/-!
# Contexts of a software engine

The attempts at a FIPS context run against the failures that a software engine still simulates: each
attempt uses up one of them, and the first attempt that finds none left is granted a context. How
many attempts are made, how many failures are left for the next creation and on which handle the
context is built follow from the two counts.

The main statement is `create_over_software`.
-/

namespace SigningEngine

namespace Software.Engine

/-- The engine behind so many attempts at a context. -/
def tried (fips : Bool) (made : ℕ) (engine : Engine) : Engine :=
  (fun before : Engine => (before.createContext fips).2)^[made] engine

def selfTestReport : NativeError := ⟨"FIPS entropy self test failed"⟩

theorem createContext_unfit {engine : Engine} (hunfit : engine.config.fipsCapable = false) :
    engine.createContext true = (.error ⟨NativeError.notInFipsModePhrase⟩, engine) := by
  rw [createContext, hunfit]
  rfl

theorem createContext_failing (engine : Engine) (hcapable : engine.config.fipsCapable = true)
    (hfails : engine.selfTestFailures ≠ 0) :
    engine.createContext true =
      (.error selfTestReport, { engine with selfTestFailures := engine.selfTestFailures - 1 }) := by
  rw [createContext, hcapable, if_neg (by simp), if_pos (by simpa using hfails)]
  rfl

theorem createContext_passing (engine : Engine) (hcapable : engine.config.fipsCapable = true)
    (hpasses : engine.selfTestFailures = 0) :
    engine.createContext true = (.ok ⟨engine.allocate.1⟩, (engine.openContext true).2) := by
  rw [createContext, hcapable, if_neg (by simp), if_neg (by simp [hpasses])]
  rfl

theorem tried_succ (fips : Bool) (made : ℕ) (engine : Engine) :
    engine.tried fips (made + 1) = ((engine.tried fips made).createContext fips).2 :=
  Function.iterate_succ_apply' _ made engine

/-- The same engine with so many failures left. -/
def leaving (engine : Engine) (failures : ℕ) : Engine :=
  { engine with selfTestFailures := .ofNat failures }

variable {engine : Engine}

theorem toNat_leaving {failures : ℕ} (h : failures ≤ engine.selfTestFailures.toNat) :
    (engine.leaving failures).selfTestFailures.toNat = failures :=
  UInt32.toNat_ofNat_of_lt (Nat.lt_of_le_of_lt h engine.selfTestFailures.toNat_lt_size)

theorem leaving_ne_zero {failures : ℕ} (hpositive : 0 < failures)
    (h : failures ≤ engine.selfTestFailures.toNat) :
    (engine.leaving failures).selfTestFailures ≠ 0 := by
  intro hzero
  have hleft := toNat_leaving h
  rw [hzero, UInt32.toNat_zero] at hleft
  omega

/-- An engine that is not capable of FIPS contexts refuses them all and stays as it is. -/
theorem tried_unfit (hunfit : engine.config.fipsCapable = false) (made : ℕ) :
    engine.tried true made = engine := by
  induction made with
  | zero => rfl
  | succ made ih => rw [tried_succ, ih, createContext_unfit hunfit]

/-- Each attempt uses up one failure, as long as there are any. -/
theorem tried_failing (hcapable : engine.config.fipsCapable = true) {made : ℕ}
    (hmade : made ≤ engine.selfTestFailures.toNat) :
    engine.tried true made = engine.leaving (engine.selfTestFailures.toNat - made) := by
  induction made with
  | zero => simp [leaving, tried]
  | succ made ih =>
      let before := engine.leaving (engine.selfTestFailures.toNat - made)
      have hbefore : before.selfTestFailures.toNat = engine.selfTestFailures.toNat - made :=
        toNat_leaving (Nat.sub_le _ _)
      have hpositive : before.selfTestFailures ≠ 0 :=
        leaving_ne_zero (by omega) (Nat.sub_le _ _)
      have hafter := toNat_leaving (Nat.sub_le engine.selfTestFailures.toNat (made + 1))
      have hone : before.selfTestFailures - 1 =
          (engine.leaving (engine.selfTestFailures.toNat - (made + 1))).selfTestFailures := by
        apply UInt32.toNat_inj.mp
        rw [toNat_sub_one hpositive, hbefore, hafter]
        omega
      rw [tried_succ, ih (Nat.le_of_succ_le hmade), createContext_failing before hcapable hpositive,
        hone]
      rfl

/-! ### Validations -/

/-- Whether a validation of a context passes: it has to be registered, and the library has to be the
expected one, if one is expected. -/
def Passes (engine : Engine) (handle : ContextHandle) : Context.Validation → Prop
  | .location =>
    engine.contexts.contains handle = true ∧
      (engine.config.expectedInstallPath = none ∨
        engine.config.expectedInstallPath = some engine.config.installPath)
  | .version =>
    engine.contexts.contains handle = true ∧
      (engine.config.expectedVersion = none ∨
        engine.config.expectedVersion = some engineVersion)

theorem validateLocation_eq_ok_iff {handle : ContextHandle} :
    engine.validateLocation handle = .ok () ↔ engine.Passes handle .location := by
  rw [validateLocation, contextFips, Passes, Table.contains]
  cases engine.contexts.find? handle with
  | none => simp [bind, Except.bind]
  | some fips =>
      cases engine.config.expectedInstallPath with
      | none => simp [bind, Except.bind, pure, Except.pure]
      | some expected =>
          by_cases hsame : expected = engine.config.installPath
          · simp [bind, Except.bind, pure, Except.pure, hsame]
          · simp [bind, Except.bind, hsame, throw, throwThe, MonadExceptOf.throw]

theorem validateVersion_eq_ok_iff {handle : ContextHandle} :
    engine.validateVersion handle = .ok () ↔ engine.Passes handle .version := by
  rw [validateVersion, contextFips, Passes, Table.contains]
  cases engine.contexts.find? handle with
  | none => simp [bind, Except.bind]
  | some fips =>
      cases engine.config.expectedVersion with
      | none => simp [bind, Except.bind, pure, Except.pure]
      | some expected =>
          by_cases hsame : expected = engineVersion
          · simp [bind, Except.bind, pure, Except.pure, hsame]
          · simp [bind, Except.bind, hsame, throw, throwThe, MonadExceptOf.throw]

/-! ### What a creation comes to -/

/-- A new context is registered under the next handle, which is valid and was not in use. -/
structure Opens (engine : Engine) (fips : Bool) (handle : ContextHandle) (next : Engine) :
    Prop where
  next_eq : next =
    { (engine.openContext fips).2 with selfTestFailures := next.selfTestFailures }
  number : handle.raw.toNat = engine.issued + 1
  valid : handle.isValid = true
  unused : ∀ kind, engine.names handle.raw kind = false
  registered : next.contexts.find? handle = some fips

/-- Whether every validation that is asked for passes. -/
def PassesAsked (engine : Engine) (config : ContextConfig) (handle : ContextHandle) : Prop :=
  (config.validateLocation = true → engine.Passes handle .location) ∧
    (config.validateVersion = true → engine.Passes handle .version)

theorem passes_validations_iff {config : ContextConfig} {handle : ContextHandle} :
    (∀ validation ∈ Context.validations config, engine.Passes handle validation) ↔
      engine.PassesAsked config handle := by
  rw [PassesAsked, Context.validations, List.forall_mem_append]
  cases config.validateLocation <;> cases config.validateVersion <;> simp

/-- With a handle at hand, a context is created exactly if every validation that is asked for
passes. -/
structure Concludes (engine : Engine) (fips : Bool) (config : ContextConfig)
    (handle : ContextHandle) (outcome : Except Failure Context) : Prop where
  created : engine.PassesAsked config handle → outcome = .ok { handle, fips }
  failed : ¬ engine.PassesAsked config handle →
    ∃ message, outcome = .error (.error (.init message))

/-- What creating a context comes to over a software engine that still simulates some failures. -/
structure Creates (engine : Engine) (fips : Bool) (config : ContextConfig)
    (outcome : Except Failure Context) (calls : List NativeCall) (next : Engine) : Prop where
  attempts : calls.count (.createContext fips) =
    if fips then
      if engine.config.fipsCapable then
        min (engine.selfTestFailures.toNat + 1) config.maxFipsAttempts.toNat
      else config.maxFipsAttempts.toNat
    else 1
  failures : next.selfTestFailures.toNat =
    if fips && engine.config.fipsCapable then
      engine.selfTestFailures.toNat - config.maxFipsAttempts.toNat
    else engine.selfTestFailures.toNat
  /-- A context is granted at once, or when the failures are used up before the attempts are. -/
  granted : fips = false ∨ (engine.config.fipsCapable = true ∧
      engine.selfTestFailures.toNat < config.maxFipsAttempts.toNat) →
    ∃ handle, engine.Opens fips handle next ∧ next.Concludes fips config handle outcome
  notGranted : fips = true → (engine.config.fipsCapable = true →
      config.maxFipsAttempts.toNat ≤ engine.selfTestFailures.toNat) →
    next = { engine with selfTestFailures := next.selfTestFailures }
  /-- An engine that is not capable of FIPS contexts says so, and no policy helps. -/
  unfit : fips = true → engine.config.fipsCapable = false →
    outcome = .error (.error (.init NativeError.notInFipsModePhrase))
  gaveUp : fips = true → engine.config.fipsCapable = true →
    config.maxFipsAttempts.toNat ≤ engine.selfTestFailures.toNat →
    config.onExhaustedRetries = .fail →
    outcome = .error (.error (.init
      ("gave up after " ++ toString config.maxFipsAttempts.toNat ++
        " attempt(s): " ++ selfTestReport.message)))
  /-- The invalid handle is no registered one, so no validation lets it pass. -/
  legacy : fips = true → engine.config.fipsCapable = true →
    config.maxFipsAttempts.toNat ≤ engine.selfTestFailures.toNat →
    config.onExhaustedRetries = .invalidHandle →
    next.contexts.contains .invalid = false ∧ next.Concludes fips config .invalid outcome

/-- The handle that a context is registered under, as long as the numbers do not start over. -/
theorem opens_next {softwareConfig : Config} {requests : List Request}
    (hreached : (life softwareConfig requests).2 = engine)
    (hissued : engine.issued + 1 < UInt64.size) (fips : Bool) (failures : UInt32) :
    engine.Opens fips ⟨engine.allocate.1⟩
      { (engine.openContext fips).2 with selfTestFailures := failures } := by
  have hnumber : engine.allocate.1.toNat = engine.issued + 1 := allocate_toNat hissued
  have hnew : engine.issued < engine.allocate.1.toNat := by omega
  have hvalid : engine.allocate.1 ≠ 0 := by
    intro hzero
    rw [hzero, UInt64.toNat_zero] at hnew
    exact Nat.not_lt_zero _ hnew
  refine ⟨rfl, hnumber, Handle.isValid_iff.mpr fun h => hvalid (Handle.mk.inj h), ?_,
    Table.find?_insert_self _ _ _⟩
  subst hreached
  exact not_names_of_issued_lt softwareConfig requests hnew (Nat.lt_of_succ_lt hissued)

/-- No life registers anything under the invalid handle. -/
theorem contains_invalid {softwareConfig : Config} {requests : List Request}
    (hreached : (life softwareConfig requests).2 = engine)
    (hissued : engine.issued + 1 < UInt64.size) :
    engine.contexts.contains .invalid = false := by
  subst hreached
  have hissues := life_issues softwareConfig requests
  cases hnames : (life softwareConfig requests).2.names 0 .context with
  | false => exact hnames
  | true =>
      rcases hissues.names 0 .context hnames with hstart | hgiven
      · rw [not_names_ofConfig] at hstart
        cases hstart
      · have hbounds := hissues.bounds (Nat.lt_of_succ_lt hissued) hgiven
        exact absurd hbounds.1 (Nat.not_lt_zero _)

end Software.Engine

namespace World

variable {world : World} {id : EngineId} {engine : Software.Engine}

theorem setEngine_setEngine (world : World) (id : EngineId) (first second : Engine) :
    (world.setEngine id first).setEngine id second = world.setEngine id second := by
  simp only [setEngine, Array.setIfInBounds_setIfInBounds]

end World

namespace Context

open Software.Engine (Passes selfTestReport)

section Attempts

variable {σ κ : Type} (boundary : Boundary σ κ) {fips : Bool} {limit made : ℕ} {state : σ}

/-- The first answer that is no report ends the attempts. -/
theorem attemptsMade_of_first {reports : ℕ → NativeError} (hmade : made < limit)
    (hreports : AllReported boundary fips made state reports)
    (hsettled : isReport (answerAfter boundary fips made state) = false) :
    attemptsMade boundary fips limit state = made + 1 := by
  have hfirst : (List.range limit).findIdx
      (fun before => !isReport (answerAfter boundary fips before state)) = made := by
    rw [List.findIdx_eq (by simpa using hmade)]
    constructor
    · simpa using hsettled
    · intro before hbefore
      rw [List.getElem_range, hreports before hbefore]
      rfl
  rw [attemptsMade, firstSettled, hfirst]
  exact Nat.min_eq_left hmade

end Attempts

variable {world : World} {id : EngineId} {engine : Software.Engine}
variable (hengine : world.softwareEngine? id = some engine)
include hengine

theorem stateAfter_software (fips : Bool) (made : ℕ) :
    stateAfter (World.boundary id) fips made world =
      world.setEngine id (.software (engine.tried fips made)) := by
  induction made with
  | zero => exact (World.setEngine_self (World.softwareEngine?_eq_some.mp hengine)).symm
  | succ made ih =>
      have hbehind := World.behind_software
        (World.softwareEngine?_setEngine hengine (engine.tried fips made)) (.createContext fips)
      rw [stateAfter, Function.iterate_succ_apply', ← stateAfter, ih, hbehind,
        World.setEngine_setEngine, Software.Engine.tried_succ]
      rfl

theorem answerAfter_software (fips : Bool) (made : ℕ) :
    answerAfter (World.boundary id) fips made world =
      .ok ((engine.tried fips made).createContext fips).1 := by
  rw [answerAfter, stateAfter_software hengine]
  exact World.replyTo_software (World.softwareEngine?_setEngine hengine _) _

theorem reply_software (handle : ContextHandle) (validation : Validation) :
    (World.boundary id).behind (validation.request handle) world = world ∧
      ∃ result, validation.reply (World.boundary id) handle world = .ok result ∧
        (result = .ok () ↔ engine.Passes handle validation) := by
  have hsame : world.setEngine id (.software engine) = world :=
    World.setEngine_self (World.softwareEngine?_eq_some.mp hengine)
  cases validation with
  | location =>
      exact ⟨(World.behind_software hengine _).trans hsame, engine.validateLocation handle,
        World.replyTo_software hengine _, Software.Engine.validateLocation_eq_ok_iff⟩
  | version =>
      exact ⟨(World.behind_software hengine _).trans hsame, engine.validateVersion handle,
        World.replyTo_software hengine _, Software.Engine.validateVersion_eq_ok_iff⟩

/-- Validations change nothing, and an error among them is one of initialization. -/
theorem validated_software (handle : ContextHandle) (validations : List Validation) :
    let checked := validated (World.boundary id) handle validations world
    checked.2.2 = world ∧
      (checked.1 = .ok () ↔ ∀ validation ∈ validations, engine.Passes handle validation) ∧
      ∀ failure, checked.1 = .error failure → ∃ message, failure = .error (.init message) := by
  induction validations with
  | nil => simp [validated]
  | cons validation rest ih =>
      obtain ⟨hbehind, result, hreply, hpasses⟩ := reply_software hengine handle validation
      simp only [validated, hbehind, hreply]
      cases result with
      | error e =>
          have hnot : ¬ engine.Passes handle validation := by
            intro hpass
            cases hpasses.mpr hpass
          refine ⟨rfl, ?_, ?_⟩
          · simp [Failure.ofReply, hnot]
          · intro failure hfailure
            cases hfailure
            cases validation <;> exact ⟨_, rfl⟩
      | ok =>
          obtain ⟨hsame, hrest, herror⟩ := ih
          refine ⟨hsame, ?_, herror⟩
          simp [Failure.ofReply, hrest, hpasses.mp rfl]

theorem concludes_of_validated (config : ContextConfig) (handle : ContextHandle) (fips : Bool) :
    engine.Concludes fips config handle
      ((validated (World.boundary id) handle (validations config) world).1.map
        fun _ => { handle, fips }) := by
  obtain ⟨-, hok, herror⟩ := validated_software hengine handle (validations config)
  rw [Software.Engine.passes_validations_iff] at hok
  constructor
  · intro hpasses
    rw [hok.mpr hpasses]
    rfl
  · intro hfails
    cases hchecked : (validated (World.boundary id) handle (validations config) world).1 with
    | ok => exact absurd (hok.mp hchecked) hfails
    | error failure =>
        obtain ⟨message, rfl⟩ := herror failure hchecked
        exact ⟨message, rfl⟩

omit hengine in
/-- Only the attempts create contexts. -/
theorem count_attempts (fips : Bool) (made : ℕ) (handle : ContextHandle)
    (validations : List Validation) (state : World) :
    (List.replicate made (NativeCall.createContext fips) ++
      (validated (World.boundary id) handle validations state).2.1).count (.createContext fips) =
        made := by
  have hnone : (validated (World.boundary id) handle validations state).2.1.count
      (.createContext fips) = 0 := by
    apply List.count_eq_zero_of_not_mem
    intro hmem
    rcases validated_calls (World.boundary id) handle validations state _ hmem with h | h
    · cases h
    · cases h
  rw [List.count_append, List.count_replicate_self, hnone, Nat.add_zero]

variable {fips : Bool} {config : ContextConfig} {made : ℕ}

/-- A creation that goes on with a handle. -/
theorem creation_concludes (hlimit : config.maxFipsAttempts ≠ 0)
    (hmade : attemptsMade (World.boundary id) fips (attemptsAllowed fips config) world = made)
    {handle : ContextHandle}
    (hhandle : handleFor fips config (answerAfter (World.boundary id) fips (made - 1) world) =
      .ok handle) :
    let told := creation (World.boundary id) fips config world
    let next := engine.tried fips made
    told.state = world.setEngine id (.software next) ∧
      told.calls.count (.createContext fips) = made ∧
      next.Concludes fips config handle told.outcome := by
  have hafter := World.softwareEngine?_setEngine hengine (engine.tried fips made)
  have hsame := (validated_software hafter handle (validations config)).1
  simp only [creation, if_neg hlimit, hmade, hhandle, stateAfter_software hengine]
  exact ⟨hsame, count_attempts fips made handle _ _, concludes_of_validated hafter config handle fips⟩

/-- A creation that ends with the attempts. -/
theorem creation_refused (hlimit : config.maxFipsAttempts ≠ 0)
    (hmade : attemptsMade (World.boundary id) fips (attemptsAllowed fips config) world = made)
    {failure : Failure}
    (hhandle : handleFor fips config (answerAfter (World.boundary id) fips (made - 1) world) =
      .error failure) :
    let told := creation (World.boundary id) fips config world
    told.state = world.setEngine id (.software (engine.tried fips made)) ∧
      told.calls.count (.createContext fips) = made ∧ told.outcome = .error failure := by
  simp only [creation, if_neg hlimit, hmade, hhandle, stateAfter_software hengine]
  exact ⟨trivial, List.count_replicate_self, trivial⟩

omit hengine in
/-- What the outcomes of the attempts come to. -/
theorem handleFor_selfTest (config : ContextConfig) :
    (config.onExhaustedRetries = .fail →
      handleFor true config (.ok (.error selfTestReport)) = .error (.error (.init
        ("gave up after " ++ toString config.maxFipsAttempts.toNat ++
          " attempt(s): " ++ selfTestReport.message)))) ∧
      (config.onExhaustedRetries = .invalidHandle →
        handleFor true config (.ok (.error selfTestReport)) = .ok .invalid) := by
  have hother : selfTestReport.isNotInFipsMode = false := by decide +kernel
  rw [handleFor_other true config hother, handleByPolicy]
  constructor
  · intro hpolicy
    rw [hpolicy]
    rfl
  · intro hpolicy
    rw [hpolicy]
    rfl

omit hengine in
theorem handleFor_unfit (config : ContextConfig) :
    handleFor true config (.ok (.error ⟨NativeError.notInFipsModePhrase⟩)) =
      .error (.error (.init NativeError.notInFipsModePhrase)) := by
  have hphrase : (⟨NativeError.notInFipsModePhrase⟩ : NativeError).isNotInFipsMode = true := by
    decide +kernel
  exact handleFor_notInFipsMode config hphrase

/-- The attempts at a FIPS context, as long as there are failures left. -/
theorem allReported_failing (hcapable : engine.config.fipsCapable = true) {limit : ℕ}
    (hlimit : limit ≤ engine.selfTestFailures.toNat) :
    AllReported (World.boundary id) true limit world fun _ => selfTestReport := by
  intro made hmade
  have hmany : made ≤ engine.selfTestFailures.toNat := by omega
  rw [answerAfter_software hengine, Software.Engine.tried_failing hcapable hmany,
    Software.Engine.createContext_failing (engine.leaving _) hcapable
      (Software.Engine.leaving_ne_zero (by omega) (Nat.sub_le _ _))]

theorem allReported_unfit (hunfit : engine.config.fipsCapable = false) (limit : ℕ) :
    AllReported (World.boundary id) true limit world
      fun _ => ⟨NativeError.notInFipsModePhrase⟩ := by
  intro made _
  rw [answerAfter_software hengine, Software.Engine.tried_unfit hunfit,
    Software.Engine.createContext_unfit hunfit]

end Context

namespace Software.Engine

open Context

variable {world : World} {id : EngineId} {softwareConfig : Config} {requests : List Request}
variable {config : ContextConfig} {engine : Engine}

theorem creation_plain (hreached : (life softwareConfig requests).2 = engine)
    (hissued : engine.issued + 1 < UInt64.size)
    (hengine : world.softwareEngine? id = some engine) (hlimit : config.maxFipsAttempts ≠ 0) :
    let told := creation (World.boundary id) false config world
    ∃ next, told.state = world.setEngine id (.software next) ∧
      engine.Creates false config told.outcome told.calls next := by
  have hanswer : answerAfter (World.boundary id) false 0 world = .ok (.ok ⟨engine.allocate.1⟩) :=
    answerAfter_software hengine false 0
  have hnone : AllReported (World.boundary id) false 0 world fun _ => selfTestReport :=
    fun _ h => absurd h (Nat.not_lt_zero _)
  have hmade : attemptsMade (World.boundary id) false (attemptsAllowed false config) world = 1 :=
    attemptsMade_of_first _ Nat.one_pos hnone (by rw [hanswer]; rfl)
  obtain ⟨hstate, hcalls, hconcludes⟩ :=
    creation_concludes hengine hlimit hmade (by rw [hanswer]; rfl)
  refine ⟨_, hstate, ?_⟩
  exact {
    attempts := hcalls
    failures := rfl
    granted := fun _ =>
      ⟨_, opens_next hreached hissued false engine.selfTestFailures, hconcludes⟩
    notGranted := fun h => by cases h
    unfit := fun h => by cases h
    gaveUp := fun h => by cases h
    legacy := fun h => by cases h }

theorem creation_unfit (hengine : world.softwareEngine? id = some engine)
    (hlimit : config.maxFipsAttempts ≠ 0) (hunfit : engine.config.fipsCapable = false) :
    let told := creation (World.boundary id) true config world
    ∃ next, told.state = world.setEngine id (.software next) ∧
      engine.Creates true config told.outcome told.calls next := by
  have hall := allReported_unfit hengine hunfit (attemptsAllowed true config)
  have hmade := hall.attemptsMade_eq (World.boundary id)
  have hhandle := handleFor_unfit config
  rw [← hall.last (World.boundary id) hlimit] at hhandle
  obtain ⟨hstate, hcalls, houtcome⟩ := creation_refused hengine hlimit hmade hhandle
  rw [tried_unfit hunfit] at hstate
  have hcapable (h : engine.config.fipsCapable = true) : False := by
    rw [hunfit] at h
    cases h
  refine ⟨engine, hstate, ?_⟩
  exact {
    attempts := by simpa [hunfit, attemptsAllowed] using hcalls
    failures := by simp [hunfit]
    granted := by simp [hunfit]
    notGranted := fun _ _ => rfl
    unfit := fun _ _ => houtcome
    gaveUp := fun _ h => (hcapable h).elim
    legacy := fun _ h => (hcapable h).elim }

theorem creation_passing (hreached : (life softwareConfig requests).2 = engine)
    (hissued : engine.issued + 1 < UInt64.size)
    (hengine : world.softwareEngine? id = some engine) (hlimit : config.maxFipsAttempts ≠ 0)
    (hcapable : engine.config.fipsCapable = true)
    (hfew : engine.selfTestFailures.toNat < config.maxFipsAttempts.toNat) :
    let told := creation (World.boundary id) true config world
    ∃ next, told.state = world.setEngine id (.software next) ∧
      engine.Creates true config told.outcome told.calls next := by
  have htried := tried_failing hcapable (Nat.le_refl engine.selfTestFailures.toNat)
  rw [Nat.sub_self] at htried
  have hpasses : (engine.leaving 0).createContext true =
      (.ok ⟨engine.allocate.1⟩, ((engine.leaving 0).openContext true).2) :=
    createContext_passing (engine.leaving 0) hcapable rfl
  have hanswer : answerAfter (World.boundary id) true engine.selfTestFailures.toNat world =
      .ok (.ok ⟨engine.allocate.1⟩) := by
    rw [answerAfter_software hengine, htried, hpasses]
  have hmade := attemptsMade_of_first (World.boundary id) hfew
    (allReported_failing hengine hcapable (Nat.le_refl _)) (by rw [hanswer]; rfl)
  obtain ⟨hstate, hcalls, hconcludes⟩ :=
    creation_concludes hengine hlimit hmade (by rw [Nat.add_sub_cancel, hanswer]; rfl)
  rw [tried_succ, htried, hpasses] at hstate hconcludes
  refine ⟨_, hstate, ?_⟩
  exact {
    attempts := by
      rw [hcalls, if_pos rfl, if_pos hcapable, Nat.min_eq_left hfew]
    failures := by
      rw [hcapable, Bool.and_self, if_pos rfl, Nat.sub_eq_zero_of_le (Nat.le_of_lt hfew)]
      rfl
    granted := fun _ => ⟨_, opens_next hreached hissued true 0, hconcludes⟩
    notGranted := fun _ hmany => absurd (hmany hcapable) (Nat.not_le_of_lt hfew)
    unfit := fun _ h => by
      rw [hcapable] at h
      cases h
    gaveUp := fun _ _ hmany => absurd hmany (Nat.not_le_of_lt hfew)
    legacy := fun _ _ hmany => absurd hmany (Nat.not_le_of_lt hfew) }

theorem creation_exhausted (hreached : (life softwareConfig requests).2 = engine)
    (hissued : engine.issued + 1 < UInt64.size)
    (hengine : world.softwareEngine? id = some engine) (hlimit : config.maxFipsAttempts ≠ 0)
    (hcapable : engine.config.fipsCapable = true)
    (hmany : config.maxFipsAttempts.toNat ≤ engine.selfTestFailures.toNat) :
    let told := creation (World.boundary id) true config world
    ∃ next, told.state = world.setEngine id (.software next) ∧
      engine.Creates true config told.outcome told.calls next := by
  intro told
  have hall : AllReported (World.boundary id) true (attemptsAllowed true config) world
      fun _ => selfTestReport :=
    allReported_failing hengine hcapable hmany
  have hmade := hall.attemptsMade_eq (World.boundary id)
  have htried := tried_failing hcapable hmany
  have hlast := hall.last (World.boundary id) hlimit
  obtain ⟨hfail, hinvalid⟩ := handleFor_selfTest config
  rw [← hlast] at hfail hinvalid
  let next := engine.leaving (engine.selfTestFailures.toNat - config.maxFipsAttempts.toNat)
  have hcounted : told.state = world.setEngine id (.software next) ∧
      told.calls.count (.createContext true) = config.maxFipsAttempts.toNat := by
    cases hpolicy : config.onExhaustedRetries with
    | fail =>
        obtain ⟨hstate, hcalls, -⟩ := creation_refused hengine hlimit hmade (hfail hpolicy)
        exact ⟨hstate.trans (by rw [attemptsAllowed, if_pos rfl, htried]), hcalls⟩
    | invalidHandle =>
        obtain ⟨hstate, hcalls, -⟩ := creation_concludes hengine hlimit hmade (hinvalid hpolicy)
        exact ⟨hstate.trans (by rw [attemptsAllowed, if_pos rfl, htried]), hcalls⟩
  refine ⟨next, hcounted.1, ?_⟩
  exact {
    attempts := by
      rw [hcounted.2, if_pos rfl, if_pos hcapable, Nat.min_eq_right (Nat.le_succ_of_le hmany)]
    failures := by
      rw [hcapable, Bool.and_self, if_pos rfl]
      exact toNat_leaving (Nat.sub_le _ _)
    granted := by
      rintro (hplain | ⟨-, hfew⟩)
      · cases hplain
      · exact absurd hmany (Nat.not_le_of_lt hfew)
    notGranted := fun _ _ => rfl
    unfit := fun _ h => by
      rw [hcapable] at h
      cases h
    gaveUp := fun _ _ _ hpolicy => (creation_refused hengine hlimit hmade (hfail hpolicy)).2.2
    legacy := by
      intro _ _ _ hpolicy
      obtain ⟨-, -, hconcludes⟩ := creation_concludes hengine hlimit hmade (hinvalid hpolicy)
      rw [attemptsAllowed, if_pos rfl, htried] at hconcludes
      have hnone : engine.contexts.contains .invalid = false :=
        contains_invalid hreached hissued
      exact ⟨hnone, hconcludes⟩ }

/-- The counts of failures and attempts decide which handle a creation goes on with, if with any,
and the validations decide the rest. -/
theorem create_over_software (hreached : (life softwareConfig requests).2 = engine)
    (hissued : engine.issued + 1 < UInt64.size)
    (hengine : world.softwareEngine? id = some engine) (hlimit : config.maxFipsAttempts ≠ 0)
    (fips : Bool) :
    let ran := (create (World.boundary id) fips config).outcome { state := world }
    ∃ next, ran.2.state = world.setEngine id (.software next) ∧
      engine.Creates fips config ran.1 ran.2.calls.toList next := by
  obtain ⟨houtcome, hcalls, hstate⟩ := (create_does (World.boundary id) fips config world).run
  simp only [houtcome, hcalls, hstate]
  cases fips with
  | false => exact creation_plain hreached hissued hengine hlimit
  | true =>
      cases hcapable : engine.config.fipsCapable with
      | false => exact creation_unfit hengine hlimit hcapable
      | true =>
          rcases Nat.lt_or_ge engine.selfTestFailures.toNat config.maxFipsAttempts.toNat with
            hfew | hmany
          · exact creation_passing hreached hissued hengine hlimit hcapable hfew
          · exact creation_exhausted hreached hissued hengine hlimit hcapable hmany

/-- Three failures are simulated, and the library is expected elsewhere. -/
def flakyConfig : Config :=
  { fipsSelfTestFailures := 3, expectedInstallPath := some "/opt/library" }

/-- A context that is no FIPS context, and an attempt at one that is. -/
def flakyRequests : List Request := [.call (.createContext false), .call (.createContext true)]

/-- Two failures are left, and one handle has been issued. -/
def flaky : Engine := (life flakyConfig flakyRequests).2

def limitedTo (limit : UInt32) : ContextConfig :=
  { maxFipsAttempts := limit, validateLocation := limit > 2, onExhaustedRetries := .invalidHandle }

/-- Two attempts use up the failures and end with the invalid handle, which no validation looks at.
A third one is granted a context, but the library is not where it is expected. -/
theorem create_over_software_flaky :
    let world : World := { engines := #[.software flaky] }
    let twice := (create (World.boundary 0) true (limitedTo 2)).outcome { state := world }
    let thrice := (create (World.boundary 0) true (limitedTo 3)).outcome { state := world }
    flaky.issued = 1 ∧ flaky.selfTestFailures = 2 ∧
      (∃ next, twice.2.state = world.setEngine 0 (.software next) ∧
        flaky.Creates true (limitedTo 2) twice.1 twice.2.calls.toList next) ∧
      (∃ next, thrice.2.state = world.setEngine 0 (.software next) ∧
        flaky.Creates true (limitedTo 3) thrice.1 thrice.2.calls.toList next) ∧
      twice.1.toOption = some { handle := .invalid, fips := true } ∧ thrice.1.toOption = none := by
  intro world twice thrice
  have hreached : (life flakyConfig flakyRequests).2 = flaky := rfl
  have hissued : flaky.issued + 1 < UInt64.size := by decide +kernel
  have hengine : world.softwareEngine? 0 = some flaky := rfl
  have htwo : (limitedTo 2).maxFipsAttempts ≠ 0 := by decide
  have hthree : (limitedTo 3).maxFipsAttempts ≠ 0 := by decide
  exact ⟨by decide +kernel, by decide +kernel,
    create_over_software hreached hissued hengine htwo true,
    create_over_software hreached hissued hengine hthree true, by decide +kernel,
    by decide +kernel⟩

end Software.Engine

end SigningEngine
