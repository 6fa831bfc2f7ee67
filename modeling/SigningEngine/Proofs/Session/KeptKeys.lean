import SigningEngine.Proofs.Session.Custody

/-!
# How long a software engine keeps key material

What was generated and what was freed is told by the steps and their answers. A generation that
succeeds puts two keys on the list of an engine, and freeing a handle takes it off.

The main statement is `keys_kept_while_held`: whatever was done in a process, a software engine keeps
the material of exactly those keys that were generated, were not freed since, and are still held by a
caller or as the bound key of a signature.
-/

namespace SigningEngine.Session

open Software (GenerationFault KeyMaterial Halves)

variable {id : EngineId} {session : Session} {unfreed : List (KeyHandle × KeyMaterial)}

/-! ### Keys that were generated and not freed -/

/-- The key pair that a step asks an engine for, if it can be generated. -/
def pairFor (id : EngineId) (session : Session) : Step → Option (Halves KeyMaterial)
  | .generateEc engine _ entropy =>
    if session.engines.find? engine = some id then
      match session.operandIn entropy with
      | .ok source => (KeyMaterial.generateEc source).toOption
      | .error _ => none
    else none
  | .generateRsa engine _ bits p q =>
    if session.engines.find? engine = some id then (KeyMaterial.generateRsa bits p q).toOption
    else none
  | _ => none

/-- A pair is asked for by a step that generates it. -/
theorem pairFor_eq_some {step : Step} {pair : Halves KeyMaterial}
    (h : session.pairFor id step = some pair) :
    (∃ engine slot entropy source, step = .generateEc engine slot entropy ∧
        KeyMaterial.generateEc source = .ok pair) ∨
      ∃ engine slot bits p q, step = .generateRsa engine slot bits p q ∧
        KeyMaterial.generateRsa bits p q = .ok pair := by
  have hok {made : Except GenerationFault (Halves KeyMaterial)}
      (hmade : made.toOption = some pair) : made = .ok pair := by
    cases made with
    | error fault => cases hmade
    | ok found => exact congrArg Except.ok (Option.some.inj hmade)
  cases step with
  | generateEc engine slot entropy =>
      rw [pairFor] at h
      split at h
      · cases hsource : session.operandIn entropy with
        | error e =>
            rw [hsource] at h
            cases h
        | ok source =>
            rw [hsource] at h
            exact .inl ⟨engine, slot, entropy, source, rfl, hok h⟩
      · cases h
  | generateRsa engine slot bits p q =>
      rw [pairFor] at h
      split at h
      · exact .inr ⟨engine, slot, bits, p, q, rfl, hok h⟩
      · cases h
  | _ => cases h

/-- The halves of a pair by the handles that were answered. -/
def registered : Option (Halves KeyMaterial) → Except StepError Answer →
    List (KeyHandle × KeyMaterial)
  | some pair, .ok (.keyPair handles) =>
    [(handles.publicKey, pair.publicKey), (handles.privateKey, pair.privateKey)]
  | _, _ => []

/-- The key of an engine that a step frees early. -/
def frees (id : EngineId) (session : Session) : Step → Option KeyHandle
  | .freeKey engine handle => if session.engines.find? engine = some id then some handle else none
  | _ => none

/-- The keys of an engine that were generated and not freed since, by handle, behind a step that was
answered so. -/
def unfreedBehind (id : EngineId) (session : Session) (step : Step)
    (answer : Except StepError Answer) (unfreed : List (KeyHandle × KeyMaterial)) :
    List (KeyHandle × KeyMaterial) :=
  registered (session.pairFor id step) answer ++
    unfreed.filter fun key => session.frees id step ≠ some key.1

/-- The keys of an engine that were generated and not freed since, by handle, behind some steps. -/
def unfreedOver (id : EngineId) (session : Session)
    (unfreed : List (KeyHandle × KeyMaterial)) : List Step → List (KeyHandle × KeyMaterial)
  | [] => unfreed
  | step :: rest =>
    let (answer, next) := session.step step
    next.unfreedOver id (session.unfreedBehind id step answer unfreed) rest

theorem registered_error (pair : Option (Halves KeyMaterial)) (e : StepError) :
    registered pair (.error e) = [] := by
  cases pair <;> rfl

theorem unfreedBehind_of_frees_eq_none {step : Step} {answer : Except StepError Answer}
    (h : session.frees id step = none) :
    session.unfreedBehind id step answer unfreed =
      registered (session.pairFor id step) answer ++ unfreed := by
  have hkept : (unfreed.filter fun key => session.frees id step ≠ some key.1) = unfreed :=
    List.filter_eq_self.mpr fun key _ => by simp [h]
  rw [unfreedBehind, hkept]

/-! ### Steps that generate -/

section Generation

variable {engine slot : String} {algorithm : Software.KeyAlgorithm}
variable {generate : Action (Except GenerationFault (Halves KeyMaterial))}
variable {result : Except StepError (Except GenerationFault (Halves KeyMaterial))}

theorem Counted.before_putKey {key : Key} (h : Counted id (putKey slot key session).2) :
    Counted id session := by
  have hput : Along (Calm fun _ _ => True) (putKey slot key) := putKey_calm slot key
  exact h.earlier (hput session).world

theorem putPair_keeping (h : Keeping id unfreed [] session) {asked : Option (Halves KeyMaterial)}
    (hgenerate : generate.run session = (result, session))
    (hasked : ∀ pair, result = .ok (.ok pair) →
      asked = if session.engines.find? engine = some id then some pair else none)
    (hcounted : Counted id ((putPair engine slot algorithm generate).run session).2) :
    Keeping id
      (registered asked ((putPair engine slot algorithm generate).run session).1 ++ unfreed) []
      ((putPair engine slot algorithm generate).run session).2 := by
  obtain ⟨e, hrun⟩ | ⟨other, owner, pair, hother, hengine, hresult, hrun⟩ :=
    putPair_cases engine slot algorithm hgenerate
  · rw [hrun, registered_error]
    exact h
  · rw [hrun] at hcounted ⊢
    simp only at hcounted ⊢
    have hadded := hcounted.before_putKey.before_putKey
    rw [hasked pair hresult, hother]
    apply Keeping.putKey
    apply Keeping.putKey
    by_cases hid : other = id
    · subst hid
      rw [if_pos rfl]
      have hissued := hadded _ (World.softwareEngine?_setEngine hengine
        (owner.registerPair pair).2)
      exact World.Custody.addPair h hengine hissued algorithm pair
    · rw [if_neg fun hsame => hid (Option.some.inj hsame)]
      exact World.Custody.addPair_of_ne h (Ne.symm hid) algorithm pair

end Generation

/-! ### A step -/

/-- Whether a step adds keys to an engine or takes one away. -/
def Step.changesKeys : Step → Bool
  | .generateEc _ _ _ => true
  | .generateRsa _ _ _ _ _ => true
  | .freeKey _ _ => true
  | _ => false

theorem unfreedBehind_of_not_changesKeys {step : Step} {answer : Except StepError Answer}
    (h : step.changesKeys = false) :
    session.unfreedBehind id step answer unfreed = unfreed := by
  have hfrees : session.frees id step = none := by
    cases step <;> first | rfl | cases h
  have hpair : session.pairFor id step = none := by
    cases step <;> first | rfl | cases h
  rw [unfreedBehind_of_frees_eq_none hfrees, hpair]
  rfl

/-- Every other step hands references on. -/
theorem perform_preserves {step : Step} (h : step.changesKeys = false) (session : Session) :
    Preserves id session ((perform step).run session).2 := by
  cases hcalls : step.callsOnly with
  | true => exact (preserves_keeps id).perform hcalls fun _ _ _ => trivial
  | false =>
      cases step with
      | generateEc engine slot entropy => cases h
      | generateRsa engine slot bits p q => cases h
      | freeKey engine handle => cases h
      | shareKey key slot => exact shareKey_preserves key slot session
      | newKey slot handles algorithm => exact newKey_preserves slot handles algorithm session
      | newDigest slot context algorithm => exact newDigest_preserves slot context algorithm session
      | newSignature slot context algorithm =>
          exact newSignature_preserves slot context algorithm session
      | signature name step =>
          cases step with
          | start key plainRsa =>
              exact inSlot_bind ((preserves_keeps id).refl session) fun opened hopened =>
                startSignature_preserves hopened key plainRsa
          | _ => cases hcalls
      | drop kind name =>
          rw [perform, run_bind_pure]
          cases kind with
          | signature => exact dropSignature_preserves name session
          | digest => exact dropDigest_preserves name session
          | key => exact dropKey_preserves name session
          | _ => cases hcalls
      | _ => cases hcalls

theorem unfreedBehind_freeKey {engine : String} (h : session.engines.find? engine = some id)
    (handle : KeyHandle) (answer : Except StepError Answer) :
    session.unfreedBehind id (.freeKey engine handle) answer unfreed =
      unfreed.filter (·.1 ≠ handle) := by
  have hfrees : session.frees id (.freeKey engine handle) = some handle := if_pos h
  have hkept (key : KeyHandle × KeyMaterial) : some handle ≠ some key.1 ↔ key.1 ≠ handle := by
    rw [Ne, Option.some.injEq, eq_comm]
  simp only [unfreedBehind, hfrees, hkept]
  rfl

theorem unfreedBehind_freeKey_of_ne {engine : String}
    (h : session.engines.find? engine ≠ some id) (handle : KeyHandle)
    (answer : Except StepError Answer) :
    session.unfreedBehind id (.freeKey engine handle) answer unfreed = unfreed :=
  unfreedBehind_of_frees_eq_none (if_neg h)

theorem freeKey_keeping (h : Keeping id unfreed [] session) (engine : String)
    (handle : KeyHandle) :
    let done := (perform (.freeKey engine handle)).run session
    Keeping id (session.unfreedBehind id (.freeKey engine handle) done.1 unfreed) [] done.2 := by
  simp only [perform]
  rw [run_bind, softwareEngine_run]
  by_cases hid : session.engines.find? engine = some id
  · rw [unfreedBehind_freeKey hid]
    cases howner : session.softwareIn engine with
    | error e =>
        have hnil := World.Custody.eq_nil h (softwareIn_eq_error howner hid)
        rw [hnil] at h ⊢
        exact h
    | ok found =>
        obtain ⟨other, owner⟩ := found
        obtain ⟨hother, hengine⟩ := softwareIn_eq_ok howner
        rw [hid, Option.some.injEq] at hother
        subst hother
        exact World.Custody.freeKey h hengine handle
  · rw [unfreedBehind_freeKey_of_ne hid]
    cases howner : session.softwareIn engine with
    | error e => exact h
    | ok found =>
        obtain ⟨hother, -⟩ := softwareIn_eq_ok howner
        have hne : id ≠ found.1 := fun hsame => hid (hsame ▸ hother)
        exact World.Custody.steady h ⟨World.setEngine_keepsKeys_of_ne hne _, rfl⟩

/-- What an engine keeps behind any step, by how the step was answered. -/
theorem perform_keeping (h : Keeping id unfreed [] session) (step : Step)
    (hcounted : Counted id ((perform step).run session).2) :
    Keeping id (session.unfreedBehind id step ((perform step).run session).1 unfreed) []
      ((perform step).run session).2 := by
  cases hchanges : step.changesKeys with
  | false =>
      rw [unfreedBehind_of_not_changesKeys hchanges]
      exact perform_preserves hchanges session _ _ h
  | true =>
      cases step with
      | generateEc engine slot entropy =>
          rw [unfreedBehind_of_frees_eq_none rfl]
          refine putPair_keeping h (generation_run entropy session) (fun pair hpair => ?_) hcounted
          rw [pairFor]
          cases hsource : session.operandIn entropy with
          | error e =>
              rw [hsource] at hpair
              cases hpair
          | ok source =>
              rw [hsource] at hpair
              simp only
              rw [Except.ok.inj hpair]
              rfl
      | generateRsa engine slot bits p q =>
          rw [unfreedBehind_of_frees_eq_none rfl]
          refine putPair_keeping h rfl (fun pair hpair => ?_) hcounted
          rw [pairFor, Except.ok.inj hpair]
          rfl
      | freeKey engine handle => exact freeKey_keeping h engine handle
      | _ => cases hchanges

theorem step_keeping (h : Keeping id unfreed [] session) {step : Step}
    (hcounted : Counted id (session.step step).2) :
    Keeping id (session.unfreedBehind id step (session.step step).1 unfreed) []
      (session.step step).2 := by
  have hcleared : Keeping id unfreed [] { session with calls := #[], events := #[] } := h
  exact perform_keeping hcleared step hcounted

theorem keeping_empty (id : EngineId) : Keeping id [] [] {} := World.custody_empty id

theorem keeping_after (steps : List Step) {session : Session}
    {unfreed : List (KeyHandle × KeyMaterial)} (h : Keeping id unfreed [] session)
    (hcounted : Counted id (session.after steps)) :
    Keeping id (session.unfreedOver id unfreed steps) [] (session.after steps) := by
  induction steps generalizing session unfreed with
  | nil => exact h
  | cons step rest ih =>
      have hlater := after_evolves (session.step step).2 rest
      exact ih (step_keeping h (hcounted.earlier hlater)) hcounted

/-! ### What an engine keeps -/

/-- Whether a reference to a key of an engine is held, by a caller or for a signature. -/
def holds (session : Session) (id : EngineId) (handle : KeyHandle) : Bool :=
  session.heldKeys.any (·.isOf id handle)

theorem holds_iff {handle : KeyHandle} :
    session.holds id handle = true ↔
      (∃ slot key, session.keys.find? slot = some (.software key) ∧
        key.engine = id ∧ key.handle = handle) ∨
      ∃ slot opened key, session.signatures.find? slot = some opened ∧
        opened.signature.key = some (.software key) ∧ key.engine = id ∧ key.handle = handle := by
  have hkey (key : Key) : key.isOf id handle = true ↔
      ∃ found : SoftwareKey, key = .software found ∧ found.engine = id ∧ found.handle = handle := by
    cases key with
    | software key => simp [Key.isOf_software]
    | scripted key => simp [Key.isOf]
  simp only [holds, List.any_eq_true, heldKeys, List.mem_append, List.mem_flatMap,
    Table.mem_values_iff, OpenSignature.bound, Option.mem_toList, hkey]
  constructor
  · rintro ⟨_, ⟨slot, hfound⟩ | ⟨opened, ⟨slot, hopened⟩, hbound⟩, key, rfl, hof⟩
    · exact .inl ⟨slot, key, hfound, hof⟩
    · exact .inr ⟨slot, opened, key, hopened, hbound, hof⟩
  · rintro (⟨slot, key, hfound, hof⟩ | ⟨slot, opened, key, hopened, hbound, hof⟩)
    · exact ⟨_, .inl ⟨slot, hfound⟩, key, rfl, hof⟩
    · exact ⟨_, .inr ⟨opened, ⟨slot, hopened⟩, hbound⟩, key, rfl, hof⟩

/-- What an engine keeps of the keys that were generated and not freed since. -/
structure KeepsHeld (id : EngineId) (unfreed : List (KeyHandle × KeyMaterial)) (session : Session)
    (engine : Software.Engine) : Prop where
  material (handle : KeyHandle) (material : KeyMaterial) :
    engine.keys.find? handle = some material ↔
      (handle, material) ∈ unfreed ∧ session.holds id handle = true
  distinct : (unfreed.map Prod.fst).Nodup
  liveKeys : engine.liveKeys = (unfreed.filter fun key => session.holds id key.1).length
  freeKey (handle : KeyHandle) :
    (engine.freeKey handle).1 = true ↔
      handle ∈ unfreed.map Prod.fst ∧ session.holds id handle = true
  /-- Giving back a reference to a freed key takes nothing from any engine. -/
  released {key : SoftwareKey} : key.engine = id → key.handle ∉ unfreed.map Prod.fst →
    (session.world.release (.software key)).engines = session.world.engines

theorem Keeping.keepsHeld (h : Keeping id unfreed [] session) {engine : Software.Engine}
    (hengine : session.world.softwareEngine? id = some engine) :
    KeepsHeld id unfreed session engine where
  material handle material := by
    rw [World.Custody.material h hengine, holds, List.any_eq_true]
    rfl
  distinct := World.Custody.nodup h
  liveKeys := World.Custody.liveKeys h hengine
  freeKey handle := by
    rw [engine.freeKey_eq_true_iff, Table.contains, Option.isSome_iff_exists]
    simp only [World.Custody.material h hengine, exists_and_right, List.mem_map, holds,
      List.any_eq_true, World.Referenced]
    simp
  released hid hfreed := by
    subst hid
    exact World.Custody.release_of_freed h hfreed

/-- Whatever was done in a process, a software engine that did not issue more handles than a word
has numbers keeps the material of exactly those keys that were generated, were not freed since, and
are still held by a caller or as the bound key of a signature. -/
theorem keys_kept_while_held (steps : List Step) {engine : Software.Engine}
    (hengine : (({} : Session).after steps).world.softwareEngine? id = some engine)
    (hissued : engine.issued < UInt64.size) :
    KeepsHeld id (unfreedOver id {} [] steps) (({} : Session).after steps) engine := by
  have hcounted : Counted id (({} : Session).after steps) := by
    intro found hfound
    rw [hengine, Option.some.injEq] at hfound
    exact hfound ▸ hissued
  exact (keeping_after steps (keeping_empty id) hcounted).keepsHeld hengine

/-- A private key is held by a signature alone in the end, and its public key was freed before it was
let go. -/
def boundSteps : List Step :=
  keyedSteps ++
    [.shareKey "key.private" "copy",
      .newSignature "signature" "context" "SHA-256",
      .signature "signature" (.start "copy" false),
      .drop .key "key.private",
      .drop .key "copy",
      .freeKey "engine" ⟨3⟩,
      .drop .key "key.public"]

theorem keys_kept_while_held_bound :
    ∃ engine unfreed,
      (({} : Session).after boundSteps).world.softwareEngine? 0 = some engine ∧
      engine.issued < UInt64.size ∧
      unfreed.map Prod.fst = [⟨2⟩] ∧
      KeepsHeld 0 unfreed (({} : Session).after boundSteps) engine := by
  have hissued :
      ((({} : Session).after boundSteps).world.softwareEngine? 0).map (·.issued) = some 4 := by
    decide +kernel
  have hunfreed : (unfreedOver 0 {} [] boundSteps).map Prod.fst = [⟨2⟩] := by
    decide +kernel
  obtain ⟨engine, hengine, hcount⟩ := Option.map_eq_some_iff.mp hissued
  have hsmall : engine.issued < UInt64.size := by
    rw [hcount]
    decide
  exact ⟨engine, _, hengine, hsmall, hunfreed,
    keys_kept_while_held boundSteps hengine hsmall⟩

end SigningEngine.Session
