import SigningEngine.Proofs.Context.KeptValues
import SigningEngine.Proofs.Context.SoftwareCreation
import SigningEngine.Proofs.Software.KeptContexts

/-!
# What a context of a software engine is good for

A context is created under a number that its engine has registered, or, where the policy says so, on
the invalid handle. In the first case everything that can be asked of it is answered; in the second
case everything fails, and nothing comes of trying.

The main statements are `Settled.works` and `Settled.isDead`; by `Settled.serves` it makes no
difference what else is asked of the engine in the meantime.
-/

namespace SigningEngine.Context

open Software (HashAlgorithm)
open Software.Engine (unknownContext)

/-- A context is registered and keeps only what its engine reports, or it has the invalid handle and
keeps nothing. -/
inductive Settled (engine : Software.Engine) (context : Context) : Prop where
  | registered (passed : context.handle.raw.toNat ≤ engine.issued)
      (found : engine.contexts.find? context.handle = some context.fips)
      (kept : ∀ (kept : Kept) (value : String), kept.cell context = some value →
        value = engine.config.reported context.fips kept.value)
  | invalid (handle : context.handle = .invalid) (kept : ∀ kept : Kept, kept.cell context = none)

/-- Everything that can be asked of the context is answered as its engine is configured. -/
structure Works (id : EngineId) (config : Software.Config) (context : Context) (world : World) :
    Prop where
  approvedMode :
    ((context.fipsApprovedMode (World.boundary id)).outcome { state := world }).1 =
      .ok context.fips
  version : (context.readVersion (World.boundary id) { state := world }).1.1 =
    .ok Software.engineVersion
  installPath : (context.readInstallPath (World.boundary id) { state := world }).1.1 =
    .ok config.installPath
  locationValidation : (World.boundary id).replyTo (.validateLocation context.handle) world =
    .ok config.locationVerdict
  versionValidation : (World.boundary id).replyTo (.validateVersion context.handle) world =
    .ok config.versionVerdict
  digest : ∀ algorithm, HashAlgorithm.IsSupported algorithm → ∃ digest,
    ((Digest.create (World.boundary id) context.handle algorithm).outcome { state := world }).1 =
      .ok digest

/-- Everything that is asked of the context fails, keeps nothing and changes nothing. -/
structure IsDead (id : EngineId) (context : Context) (world : World) : Prop where
  nothingKept : context.version = none ∧ context.installPath = none
  version :
    let ran := context.readVersion (World.boundary id) { state := world }
    ran.1 = (.error (.error (.query .version (unknownContext context.handle))), context) ∧
      ran.2.state = world
  installPath :
    let ran := context.readInstallPath (World.boundary id) { state := world }
    ran.1 = (.error (.error (.query .installPath (unknownContext context.handle))), context) ∧
      ran.2.state = world
  approvedMode :
    let ran := (context.fipsApprovedMode (World.boundary id)).outcome { state := world }
    ran.1 = .error (.error (.query .fipsApprovedMode (unknownContext context.handle))) ∧
      ran.2.state = world
  digest : ∀ algorithm,
    let ran := (Digest.create (World.boundary id) context.handle algorithm).outcome
      { state := world }
    (∃ message, ran.1 = .error (.error (.init message))) ∧ ran.2.state = world
  signature : ∀ algorithm,
    let ran := (Signature.create (World.boundary id) context.handle algorithm :
      Attempt World (Signature Key)).outcome { state := world }
    (∃ message, ran.1 = .error (.error (.init message))) ∧ ran.2.state = world

variable {engine next : Software.Engine} {context : Context} {world : World} {id : EngineId}

/-- Whatever else the engine serves, a context stays what it is. -/
theorem Settled.serves (h : context.Settled engine) (hserves : engine.Serves next)
    (hsmall : next.issued < UInt64.size) : context.Settled next := by
  cases h with
  | registered passed found kept =>
      refine .registered (Nat.le_trans passed hserves.issued_le) ?_ ?_
      · rw [hserves.contexts passed hsmall, found]
      · rwa [hserves.config]
  | invalid handle kept => exact .invalid handle kept

/-! ### Values that are kept -/

section Fetching

variable {σ : Type} {cell : Option String} {fetch : Attempt σ String} {run : Run σ}

/-- What is in a cell behind a fetch was there, or was fetched. -/
theorem fetchOnce_cell (cell : Option String) (fetch : Attempt σ String) (run : Run σ) :
    (fetchOnce cell fetch run).1.2 = cell ∨
      ∃ value, (fetch.outcome run).1 = .ok value ∧ (fetchOnce cell fetch run).1.2 = some value := by
  cases cell with
  | some value => exact .inl rfl
  | none =>
      simp only [fetchOnce, stateM_bind]
      cases (fetch.outcome run).1 with
      | ok value => exact .inr ⟨value, rfl, rfl⟩
      | error failure => exact .inl rfl

/-- Where a cell holds nothing but what would be fetched, this is what comes of it. -/
theorem fetchOnce_of_ok {value : String} (hfetch : (fetch.outcome run).1 = .ok value)
    (hcell : ∀ found, cell = some found → found = value) :
    (fetchOnce cell fetch run).1.1 = .ok value := by
  cases cell with
  | some found => rw [← hcell found rfl]; rfl
  | none =>
      simp only [fetchOnce, stateM_bind, hfetch]
      rfl

theorem fetchOnce_of_error {failure : Failure} (hfetch : (fetch.outcome run).1 = .error failure) :
    fetchOnce none fetch run = ((.error failure, none), (fetch.outcome run).2) := by
  simp only [fetchOnce, stateM_bind, hfetch]
  rfl

variable {κ : Type} (boundary : Boundary σ κ)

theorem readVersion_run (context : Context) (run : Run σ) :
    (context.readVersion boundary run).1 =
      let fetched := (fetchOnce (Kept.version.cell context)
        (context.fetchValue boundary Kept.version.value) run).1
      (fetched.1, { context with version := fetched.2 }) := rfl

theorem readInstallPath_run (context : Context) (run : Run σ) :
    (context.readInstallPath boundary run).1 =
      let fetched := (fetchOnce (Kept.installPath.cell context)
        (context.fetchValue boundary Kept.installPath.value) run).1
      (fetched.1, { context with installPath := fetched.2 }) := rfl

end Fetching

/-- What an engine reports of its mode spells a truth value. -/
theorem approvedMode?_reported (config : Software.Config) (fips : Bool) :
    approvedMode? (Text.lower (Text.trim (config.reported fips .fipsApprovedMode))) =
      some fips := by
  cases fips with
  | false =>
      show approvedMode? (Text.lower (Text.trim "0")) = some false
      decide +kernel
  | true =>
      show approvedMode? (Text.lower (Text.trim "1")) = some true
      decide +kernel

section Asking

variable (hengine : world.softwareEngine? id = some engine)
include hengine

theorem fetched_software (context : Context) (kept : Kept) :
    fetched (World.boundary id) context kept world =
      Failure.ofReply (.query kept.value)
        (.ok (engine.scalarValue context.handle kept.value)) := by
  rw [fetched, World.replyTo_software hengine]
  rfl

/-- A question to a software engine changes nothing. -/
theorem behind_scalarValue (handle : ContextHandle) (value : EngineValue) :
    (World.boundary id).behind (.scalarValue handle value) world = world := by
  rw [World.behind_software hengine]
  exact World.setEngine_self (World.softwareEngine?_eq_some.mp hengine)

/-- A request for a value, in a context. -/
theorem scalarValue_software (handle : ContextHandle) (value : EngineValue) :
    ∃ last : Run World, last.state = world ∧
      (((World.boundary id).request (.scalarValue handle value)).orError (.query value)).outcome
          { state := world } =
        (Failure.ofReply (.query value) (.ok (engine.scalarValue handle value)), last) := by
  have hasked := Attempt.outcome_orError (.query value)
    (Attempt.outcome_request (World.boundary id) (.scalarValue handle value) { state := world })
  rw [World.replyTo_software hengine] at hasked
  exact ⟨_, behind_scalarValue hengine handle value, hasked⟩

theorem fipsApprovedMode_of_registered {fips : Bool}
    (hfound : engine.contexts.find? context.handle = some fips) :
    ((context.fipsApprovedMode (World.boundary id)).outcome { state := world }).1 = .ok fips := by
  obtain ⟨last, -, hasked⟩ :=
    scalarValue_software hengine context.handle .fipsApprovedMode
  rw [fipsApprovedMode, Attempt.outcome_bind, hasked,
    Software.Engine.scalarValue_of_registered hfound]
  simp only [Failure.ofReply, approvedMode?_reported]
  rfl

theorem fipsApprovedMode_of_absent (habsent : engine.contexts.find? context.handle = none) :
    let ran := (context.fipsApprovedMode (World.boundary id)).outcome { state := world }
    ran.1 = .error (.error (.query .fipsApprovedMode (unknownContext context.handle))) ∧
      ran.2.state = world := by
  obtain ⟨last, hlast, hasked⟩ :=
    scalarValue_software hengine context.handle .fipsApprovedMode
  rw [fipsApprovedMode, Attempt.outcome_bind, hasked,
    Software.Engine.scalarValue_of_absent habsent]
  exact ⟨rfl, hlast⟩

/-- Fetching a value to be kept. -/
theorem fetchValue_software (context : Context) (kept : Kept) :
    ∃ last : Run World, last.state = world ∧
      (context.fetchValue (World.boundary id) kept.value).outcome { state := world } =
        (Failure.ofReply (.query kept.value)
          (.ok (engine.scalarValue context.handle kept.value)), last) := by
  rw [outcome_fetchValue, fetched_software hengine]
  exact ⟨_, behind_scalarValue hengine context.handle kept.value, rfl⟩

theorem fetchOnce_of_registered {fips : Bool} (kept : Kept)
    (hfound : engine.contexts.find? context.handle = some fips)
    (hkept : ∀ value, kept.cell context = some value →
      value = engine.config.reported fips kept.value) :
    (fetchOnce (kept.cell context) (context.fetchValue (World.boundary id) kept.value)
        { state := world }).1.1 = .ok (engine.config.reported fips kept.value) := by
  obtain ⟨last, -, hfetch⟩ := fetchValue_software hengine context kept
  rw [Software.Engine.scalarValue_of_registered hfound] at hfetch
  exact fetchOnce_of_ok (congrArg Prod.fst hfetch) hkept

theorem fetchOnce_of_absent (kept : Kept)
    (habsent : engine.contexts.find? context.handle = none) (hkept : kept.cell context = none) :
    let ran := fetchOnce (kept.cell context) (context.fetchValue (World.boundary id) kept.value)
      { state := world }
    ran.1 = (.error (.error (.query kept.value (unknownContext context.handle))), none) ∧
      ran.2.state = world := by
  obtain ⟨last, hlast, hfetch⟩ := fetchValue_software hengine context kept
  rw [Software.Engine.scalarValue_of_absent habsent] at hfetch
  simp only [hkept, fetchOnce_of_error (congrArg Prod.fst hfetch), hfetch]
  exact ⟨trivial, hlast⟩

theorem createDigest_of_registered {fips : Bool}
    (hfound : engine.contexts.find? context.handle = some fips)
    (hleft : engine.issued + 1 < UInt64.size) {algorithm : String}
    (hsupported : HashAlgorithm.IsSupported algorithm) :
    ∃ digest, ((Digest.create (World.boundary id) context.handle algorithm).outcome
      { state := world }).1 = .ok digest := by
  obtain ⟨handle, hvalid, hreply⟩ :=
    Software.Engine.digestCreate_of_registered hfound hsupported hleft
  refine ⟨{ context := context.handle, handle, algorithm }, ?_⟩
  rw [Digest.outcome_create, World.replyTo_software hengine, hreply]
  simp only [hvalid, if_true]

theorem createDigest_of_absent (habsent : engine.contexts.find? context.handle = none)
    (algorithm : String) :
    let ran := (Digest.create (World.boundary id) context.handle algorithm).outcome
      { state := world }
    (∃ message, ran.1 = .error (.error (.init message))) ∧ ran.2.state = world := by
  have hanswer := Software.Engine.digestCreate_of_absent habsent algorithm
  have hsame : (World.boundary id).behind (.digestCreate context.handle algorithm) world =
      world := by
    rw [World.behind_software hengine, hanswer]
    exact World.setEngine_self (World.softwareEngine?_eq_some.mp hengine)
  rw [Digest.outcome_create, World.replyTo_software hengine, hanswer]
  exact ⟨⟨_, rfl⟩, hsame⟩

end Asking

/-! ### Creation -/

/-- Where a report is not the end of a creation, it goes on with the invalid handle. -/
theorem handleFor_report {fips : Bool} {config : ContextConfig} {e : NativeError}
    {handle : ContextHandle} (h : handleFor fips config (.ok (.error e)) = .ok handle) :
    handle = .invalid ∧ config.onExhaustedRetries = .invalidHandle := by
  rw [handleFor] at h
  split at h
  · cases h
  · rw [handleByPolicy] at h
    split at h
    next => cases h
    next hpolicy => exact ⟨(Except.ok.inj h).symm, hpolicy⟩

/-- A new context, by the engine that answered the last attempt. -/
theorem settled_of_answer (before : Software.Engine) {fips : Bool} {config : ContextConfig}
    {handle : ContextHandle}
    (h : handleFor fips config (.ok (before.createContext fips).1) = .ok handle) :
    let next := (before.createContext fips).2
    Settled next { handle, fips } ∧
      (handle = .invalid → next.contexts.find? .invalid = none →
        config.onExhaustedRetries = .invalidHandle) := by
  obtain ⟨e, hanswer, -⟩ | ⟨e, hanswer, -⟩ | hanswer := before.createContext_cases fips
  · rw [hanswer] at h
    obtain ⟨hinvalid, hpolicy⟩ := handleFor_report h
    exact ⟨.invalid hinvalid fun kept => by cases kept <;> rfl, fun _ _ => hpolicy⟩
  · rw [hanswer] at h
    obtain ⟨hinvalid, hpolicy⟩ := handleFor_report h
    exact ⟨.invalid hinvalid fun kept => by cases kept <;> rfl, fun _ _ => hpolicy⟩
  · rw [hanswer] at h ⊢
    obtain rfl : (⟨before.allocate.1⟩ : ContextHandle) = handle := Except.ok.inj h
    have hfound : (before.openContext fips).2.contexts.find? ⟨before.allocate.1⟩ = some fips :=
      Table.find?_insert_self _ _ _
    constructor
    · refine .registered before.allocate_toNat_le hfound fun kept => ?_
      cases kept <;> simp [Kept.cell]
    · intro hinvalid hnone
      rw [hinvalid, hnone] at hfound
      cases hfound

/-- A context that is created over a software engine is settled, and it is on the invalid handle
only if the policy says so, as long as nothing is registered under this handle. -/
theorem creation_settled (hengine : world.softwareEngine? id = some engine) {fips : Bool}
    {config : ContextConfig}
    (hcreated : (creation (World.boundary id) fips config world).outcome = .ok context) :
    ∃ next, (creation (World.boundary id) fips config world).state =
        world.setEngine id (.software next) ∧
      context.fips = fips ∧ context.Settled next ∧
        (context.handle = .invalid → next.contexts.find? .invalid = none →
          config.onExhaustedRetries = .invalidHandle) := by
  have hlimit : config.maxFipsAttempts ≠ 0 := by
    intro hzero
    rw [creation, if_pos hzero] at hcreated
    cases hcreated
  have hhandle := handleFor_of_created (World.boundary id) hcreated
  obtain ⟨hstate, -, -⟩ := creation_concludes hengine hlimit rfl hhandle
  -- There is a last attempt, so the engine behind all of them is behind that one.
  obtain ⟨remaining, hremaining⟩ := Nat.exists_eq_add_of_le' (attemptsAllowed_pos fips hlimit)
  rw [Nat.succ_eq_add_one, Nat.zero_add] at hremaining
  obtain ⟨earlier, hmade⟩ := Nat.exists_eq_add_of_le'
    (one_le_attemptsMade (World.boundary id) fips remaining world)
  rw [hremaining, hmade, Nat.add_sub_cancel, answerAfter_software hengine] at hhandle
  rw [hremaining, hmade, Software.Engine.tried_succ] at hstate
  obtain ⟨hsettled, hpolicy⟩ := settled_of_answer _ hhandle
  rw [← eq_of_created (World.boundary id) hcreated] at hsettled
  exact ⟨_, hstate, by rw [eq_of_created (World.boundary id) hcreated], hsettled, hpolicy⟩

section Settled

variable (hengine : world.softwareEngine? id = some engine)
include hengine

/-- A context with a valid handle works. -/
theorem Settled.works (h : context.Settled engine) (hvalid : context.handle.isValid = true)
    (hleft : engine.issued + 1 < UInt64.size) : context.Works id engine.config world := by
  cases h with
  | invalid handle =>
      rw [handle] at hvalid
      cases hvalid
  | registered passed found kept =>
      exact {
        approvedMode := fipsApprovedMode_of_registered hengine found
        version := fetchOnce_of_registered hengine .version found (kept .version)
        installPath := fetchOnce_of_registered hengine .installPath found (kept .installPath)
        locationValidation := by
          rw [World.replyTo_software hengine]
          exact congrArg Except.ok (Software.Engine.validateLocation_of_registered found)
        versionValidation := by
          rw [World.replyTo_software hengine]
          exact congrArg Except.ok (Software.Engine.validateVersion_of_registered found)
        digest := fun _ => createDigest_of_registered hengine found hleft }

/-- A context on the invalid handle is dead, where nothing is registered under it. -/
theorem Settled.isDead (h : context.Settled engine) (hhandle : context.handle = .invalid)
    (hnone : engine.contexts.find? .invalid = none) : context.IsDead id world := by
  have habsent : engine.contexts.find? context.handle = none := by rw [hhandle, hnone]
  cases h with
  | registered passed found =>
      rw [habsent] at found
      cases found
  | invalid handle kept =>
      have hversion : context.version = none := kept .version
      have hpath : context.installPath = none := kept .installPath
      exact {
        nothingKept := ⟨hversion, hpath⟩
        version := by
          obtain ⟨hfetched, hsame⟩ := fetchOnce_of_absent hengine .version habsent hversion
          refine ⟨?_, hsame⟩
          rw [readVersion_run, hfetched, ← hversion]
          rfl
        installPath := by
          obtain ⟨hfetched, hsame⟩ := fetchOnce_of_absent hengine .installPath habsent hpath
          refine ⟨?_, hsame⟩
          rw [readInstallPath_run, hfetched, ← hpath]
          rfl
        approvedMode := fipsApprovedMode_of_absent hengine habsent
        digest := createDigest_of_absent hengine habsent
        signature := by
          intro algorithm
          obtain ⟨⟨message, houtcome⟩, hsame⟩ := createDigest_of_absent hengine habsent algorithm
          rw [Digest.outcome_create] at hsame
          simp only [Signature.outcome_create, houtcome]
          exact ⟨⟨message, rfl⟩, hsame⟩ }

end Settled

end SigningEngine.Context
