import SigningEngine.Proofs.Except
import SigningEngine.Proofs.Session.Generated

/-!
# What signs for a bound key

A signature shows its engine the handle of the bound key, and nothing else of the key. So the engine
signs with what it keeps under that handle, which is what it generated under it last. For a key of
that engine this is the key's own material, as long as handles are not used up. A key of another
engine stands for whatever has its number.

The main statement is `acts_with_last_generated`.
-/

namespace SigningEngine

open Software (KeyMaterial Accumulator)

namespace Software.Engine

variable {engine : Engine} {context : ContextHandle} {digest : DigestHandle} {key : KeyHandle}
variable {state : Accumulator} {material : KeyMaterial}

theorem digestState_eq_ok (h : engine.digestState digest = .ok state) :
    engine.digests.find? digest = some state := by
  rw [digestState] at h
  cases hfound : engine.digests.find? digest with
  | none =>
      rw [hfound] at h
      cases h
  | some found =>
      rw [hfound] at h
      exact congrArg some (Except.ok.inj h)

theorem keyMaterial_eq_ok (h : engine.keyMaterial key = .ok material) :
    engine.keys.find? key = some material := by
  rw [keyMaterial] at h
  cases hfound : engine.keys.find? key with
  | none =>
      rw [hfound] at h
      cases h
  | some found =>
      rw [hfound] at h
      exact congrArg some (Except.ok.inj h)

theorem sign_eq_ok {plainRsa : Bool} {signature : Bytes}
    (h : engine.sign context digest key plainRsa = .ok signature) :
    ∃ state material, engine.digests.find? digest = some state ∧
      engine.keys.find? key = some material ∧ material.sign state plainRsa = .ok signature := by
  obtain ⟨fips, -, h⟩ := bind_eq_ok_iff.mp h
  obtain ⟨state, hstate, h⟩ := bind_eq_ok_iff.mp h
  obtain ⟨material, hmaterial, h⟩ := bind_eq_ok_iff.mp h
  exact ⟨state, material, digestState_eq_ok hstate, keyMaterial_eq_ok hmaterial, h⟩

theorem verify_eq_ok {candidate : Bytes} {accepted : Bool}
    (h : engine.verify context digest key candidate = .ok accepted) :
    ∃ state material, engine.digests.find? digest = some state ∧
      engine.keys.find? key = some material ∧ material.verify state candidate = accepted := by
  obtain ⟨fips, -, h⟩ := bind_eq_ok_iff.mp h
  obtain ⟨state, hstate, h⟩ := bind_eq_ok_iff.mp h
  obtain ⟨material, hmaterial, h⟩ := bind_eq_ok_iff.mp h
  exact ⟨state, material, digestState_eq_ok hstate, keyMaterial_eq_ok hmaterial, Except.ok.inj h⟩

end Software.Engine

namespace Signature

open World

variable {id : EngineId} {world : World} {engine : Software.Engine} {signature : Signature Key}
variable {key : SoftwareKey}

/-- A value comes of a call that gives it. -/
theorem settled_eq_ok {α : Type} {operation : String} {reply : Except String (Except NativeError α)}
    {reset : Except Failure Unit} {value : α} (h : settled operation reply reset = .ok value) :
    reply = .ok (.ok value) := by
  match reply, reset with
  | .ok (.ok _), .ok () => exact congrArg (Except.ok ∘ Except.ok) (Except.ok.inj h)
  | .ok (.ok _), .error _ => cases h
  | .ok (.error _), .ok () => cases h
  | .ok (.error _), .error (.error _) => cases h
  | .ok (.error _), .error (.panic _) => cases h
  | .ok (.error _), .error .abort => cases h
  | .error _, .ok () => cases h
  | .error _, .error (.error _) => cases h
  | .error _, .error (.panic _) => cases h
  | .error _, .error .abort => cases h

theorem checkedRun_software (hkey : signature.key = some (.software key)) :
    (signature.checkedRun (boundary id) { state := world }).state = world := by
  rw [checkedRun, hkey]
  rfl

theorem shownHandle_software (hkey : signature.key = some (.software key)) :
    signature.shownHandle (boundary id) world = key.handle := by
  rw [shownHandle, hkey]
  rfl

/-- A signature that calls the engine is bound. -/
theorem key_ne_none_of_reaches {σ κ : Type} {boundary : Boundary σ κ} {signature : Signature κ}
    {state : σ} (h : signature.reaches boundary state = true) : signature.key ≠ none := by
  intro hkey
  rw [reaches, hkey] at h
  cases h

theorem key_ne_none_of_sign {σ κ : Type} {boundary : Boundary σ κ} {signature : Signature κ}
    {run : Run σ} {bytes : Bytes} (h : ((signature.sign boundary).outcome run).1 = .ok bytes) :
    signature.key ≠ none := by
  rw [outcome_sign] at h
  split at h
  next hreaches => exact key_ne_none_of_reaches hreaches
  next => cases h

theorem key_ne_none_of_verify {σ κ : Type} {boundary : Boundary σ κ} {signature : Signature κ}
    {run : Run σ} {candidate : Bytes} {accepted : Bool}
    (h : ((signature.verify boundary candidate).outcome run).1 = .ok accepted) :
    signature.key ≠ none := by
  rw [outcome_verify] at h
  split at h
  next hreaches => exact key_ne_none_of_reaches hreaches
  next => cases h

/-- What is signed with for a software key is what the engine keeps under its handle. -/
theorem sign_eq_ok (hengine : world.softwareEngine? id = some engine)
    (hkey : signature.key = some (.software key)) {bytes : Bytes}
    (h : ((signature.sign (boundary id)).outcome { state := world }).1 = .ok bytes) :
    ∃ state material, world.accumulated id signature.digest.handle = some state ∧
      world.materialOf { key with engine := id } = some material ∧
      material.sign state signature.plainRsa = .ok bytes := by
  rw [outcome_sign] at h
  split at h
  next =>
    have hreply := settled_eq_ok h
    rw [checkedRun_software hkey, shownHandle_software hkey, replyTo_software hengine] at hreply
    rw [accumulated, materialOf, hengine]
    exact Software.Engine.sign_eq_ok (Except.ok.inj hreply)
  next => cases h

theorem verify_eq_ok (hengine : world.softwareEngine? id = some engine)
    (hkey : signature.key = some (.software key)) {candidate : Bytes} {accepted : Bool}
    (h : ((signature.verify (boundary id) candidate).outcome { state := world }).1 =
      .ok accepted) :
    ∃ state material, world.accumulated id signature.digest.handle = some state ∧
      world.materialOf { key with engine := id } = some material ∧
      material.verify state candidate = accepted := by
  rw [outcome_verify] at h
  split at h
  next =>
    have hreply := settled_eq_ok h
    rw [checkedRun_software hkey, shownHandle_software hkey, replyTo_software hengine] at hreply
    rw [accumulated, materialOf, hengine]
    exact Software.Engine.verify_eq_ok (Except.ok.inj hreply)
  next => cases h

/-- A start binds its key, or it fails and unbinds. -/
theorem start_cases {σ κ : Type} (boundary : Boundary σ κ) (signature : Signature κ) (key : κ)
    (plainRsa : Bool) (run : Run σ) :
    (signature.start boundary key plainRsa run).1 =
        (.ok (), { signature with key := some key, plainRsa }) ∨
      ∃ failure, (signature.start boundary key plainRsa run).1 =
        (.error failure, signature.unbound) := by
  rw [start_run]
  simp only
  split
  next failure _ => exact .inr ⟨failure, rfl⟩
  next =>
    split
    · exact .inl rfl
    · exact .inr ⟨_, rfl⟩

end Signature

namespace Session

variable {session : Session} {slot : String} {opened : OpenSignature}

/-! ### Steps on a signature -/

/-- What a start does to the signature in a slot, and how it is answered. -/
theorem step_start (hopened : session.signatures.find? slot = some opened) (name : String)
    (plainRsa : Bool) :
    let done := session.step (.signature slot (.start name plainRsa))
    (∃ key, session.keys.find? name = some key ∧ done.1 = .ok .done ∧
        done.2.signatures.find? slot = some { opened with
          signature := { opened.signature with key := some key, plainRsa } }) ∨
      (∃ e, done.1 = .error e) ∧
        (done.2.signatures.find? slot = some opened ∨
          done.2.signatures.find? slot =
            some { opened with signature := opened.signature.unbound }) := by
  let cleared : Session := { session with calls := #[], events := #[] }
  have hcleared : cleared.signatures.find? slot = some opened := hopened
  have hdone : session.step (.signature slot (.start name plainRsa)) =
      (startSignature slot opened name plainRsa).run cleared := by
    show (signatureStep slot (.start name plainRsa)).run cleared = _
    rw [signatureStep, run_bind, inSlot_run, hcleared]
  simp only [hdone]
  cases hkey : cleared.keys.find? name with
  | none =>
      rw [startSignature, run_bind, inSlot_run, hkey]
      exact .inr ⟨⟨_, rfl⟩, .inl hcleared⟩
  | some key =>
      rw [startSignature_run slot opened plainRsa hkey]
      let started := workWithin opened.engine
        (opened.signature.start (World.boundary opened.engine) key plainRsa)
        { cleared with world := cleared.world.hold key }
      have hcases : started.1 = (.ok (), { opened.signature with key := some key, plainRsa }) ∨
          ∃ failure, started.1 = (.error failure, opened.signature.unbound) :=
        Signature.start_cases _ _ _ _ _
      obtain hbound | ⟨failure, hfailed⟩ := hcases
      · refine .inl ⟨key, rfl, ?_, ?_⟩
        · show (started.1.1.mapError StepError.failed).map _ = _
          rw [hbound]
          rfl
        · rw [Table.find?_insert_self]
          show some { opened with signature := started.1.2 } = _
          rw [hbound]
      · refine .inr ⟨⟨.failed failure, ?_⟩, .inr ?_⟩
        · show (started.1.1.mapError StepError.failed).map _ = _
          rw [hfailed]
          rfl
        · rw [Table.find?_insert_self]
          show some { opened with signature := started.1.2 } = _
          rw [hfailed]

theorem step_start_of_isOk (hopened : session.signatures.find? slot = some opened)
    {name : String} {plainRsa : Bool}
    (h : (session.step (.signature slot (.start name plainRsa))).1.isOk = true) :
    (session.step (.signature slot (.start name plainRsa))).1 = .ok .done := by
  obtain ⟨-, -, hdone, -⟩ | ⟨⟨e, hfails⟩, -⟩ := step_start hopened name plainRsa
  · exact hdone
  · rw [hfails] at h
    cases h

/-- A signature is answered with what its sign gives. -/
theorem step_sign (hopened : session.signatures.find? slot = some opened) (save : Option String) :
    (session.step (.signature slot (.sign save))).1 =
      (((opened.signature.sign (World.boundary opened.engine)).outcome
        { state := session.world }).1.mapError .failed).map .bytes := by
  let cleared : Session := { session with calls := #[], events := #[] }
  have hcleared : cleared.signatures.find? slot = some opened := hopened
  show ((signatureStep slot (.sign save)).run cleared).1 = _
  rw [signatureStep, run_bind, inSlot_run, hcleared]
  simp only
  rw [run_bind, attempt_run]
  cases ((opened.signature.sign (World.boundary opened.engine)).outcome
      { state := session.world }).1 with
  | error failure => rfl
  | ok bytes => cases save <;> rfl

theorem step_sign_of_isOk (hopened : session.signatures.find? slot = some opened)
    {save : Option String} (h : (session.step (.signature slot (.sign save))).1.isOk = true) :
    ∃ bytes, (session.step (.signature slot (.sign save))).1 = .ok (.bytes bytes) := by
  rw [step_sign hopened] at h ⊢
  cases houtcome : ((opened.signature.sign (World.boundary opened.engine)).outcome
      { state := session.world }).1 with
  | error failure =>
      rw [houtcome] at h
      cases h
  | ok bytes => exact ⟨bytes, rfl⟩

theorem step_verify (hopened : session.signatures.find? slot = some opened) {candidate : Operand}
    {data : Bytes} (hdata : session.operandIn candidate = .ok data) :
    (session.step (.signature slot (.verify candidate))).1 =
      (((opened.signature.verify (World.boundary opened.engine) data).outcome
        { state := session.world }).1.mapError .failed).map .flag := by
  let cleared : Session := { session with calls := #[], events := #[] }
  have hcleared : cleared.signatures.find? slot = some opened := hopened
  have hoperand : cleared.operandIn candidate = .ok data := hdata
  show ((signatureStep slot (.verify candidate)).run cleared).1 = _
  rw [signatureStep, run_bind, inSlot_run, hcleared]
  simp only
  rw [run_bind, operand_run, hoperand]
  simp only
  rw [run_bind, attempt_run]
  cases ((opened.signature.verify (World.boundary opened.engine) data).outcome
      { state := session.world }).1 with
  | error failure => rfl
  | ok accepted => rfl

theorem step_verify_error (hopened : session.signatures.find? slot = some opened)
    {candidate : Operand} {e : StepError} (hdata : session.operandIn candidate = .error e) :
    (session.step (.signature slot (.verify candidate))).1 = .error e := by
  let cleared : Session := { session with calls := #[], events := #[] }
  have hcleared : cleared.signatures.find? slot = some opened := hopened
  have hoperand : cleared.operandIn candidate = .error e := hdata
  show ((signatureStep slot (.verify candidate)).run cleared).1 = _
  rw [signatureStep, run_bind, inSlot_run, hcleared]
  simp only
  rw [run_bind, operand_run, hoperand]

/-! ### A signature that stays bound -/

/-- The signature in a slot stays there, and no start binds it anew. -/
def Unrebound (slot : String) : Session → List Step → Prop
  | _, [] => True
  | session, step :: rest =>
    ((session.step step).2.signatures.find? slot = session.signatures.find? slot ∨
      ∃ name plainRsa, step = .signature slot (.start name plainRsa) ∧
        (session.step step).1 ≠ .ok .done) ∧
      Unrebound slot (session.step step).2 rest

/-- In a slot is a signature over an engine with a digest, bound to this key with this flag, or to
none. -/
def BoundAtMost (slot : String) (id : EngineId) (digest : Digest) (key : Key) (plainRsa : Bool)
    (session : Session) : Prop :=
  ∃ opened, session.signatures.find? slot = some opened ∧ opened.engine = id ∧
    opened.signature.digest = digest ∧
    (opened.signature.key = none ∨
      opened.signature.key = some key ∧ opened.signature.plainRsa = plainRsa)

/-- A step that binds nothing leaves the signature there as it is. -/
theorem find?_signature_of_quiet {step : Step}
    (h : step.place ≠ some (.signature slot) ∨ step.callsOnly = true) :
    (session.step step).2.signatures.find? slot = session.signatures.find? slot := by
  rcases h with hplace | hcalls
  · exact (step_evolves session step).signatures hplace
  · have hcalm : Calm (fun _ _ => True) { session with calls := #[], events := #[] }
        (session.step step).2 := calm_keeps.perform hcalls fun _ _ _ => trivial
    rw [hcalm.signatures]

theorem unrebound_of_quiet {steps : List Step}
    (h : ∀ step ∈ steps, step.place ≠ some (.signature slot) ∨ step.callsOnly = true) :
    Unrebound slot session steps := by
  induction steps generalizing session with
  | nil => trivial
  | cons step rest ih =>
      exact ⟨.inl (find?_signature_of_quiet (h step List.mem_cons_self)),
        ih fun other hother => h other (List.mem_cons_of_mem _ hother)⟩

variable {id : EngineId} {digest : Digest} {key : Key} {plainRsa : Bool}

theorem BoundAtMost.after (steps : List Step) {session : Session}
    (h : BoundAtMost slot id digest key plainRsa session) (hstays : Unrebound slot session steps) :
    BoundAtMost slot id digest key plainRsa (session.after steps) := by
  induction steps generalizing session with
  | nil => exact h
  | cons step rest ih =>
      obtain ⟨hstep, hrest⟩ := hstays
      refine ih ?_ hrest
      obtain ⟨opened, hopened, hid, hdigest, hbound⟩ := h
      obtain hsame | ⟨name, flag, rfl, hfails⟩ := hstep
      · exact ⟨opened, hsame.trans hopened, hid, hdigest, hbound⟩
      · obtain ⟨_, -, hdone, -⟩ | ⟨-, hsame | hunbound⟩ := step_start hopened name flag
        · exact (hfails hdone).elim
        · exact ⟨opened, hsame, hid, hdigest, hbound⟩
        · exact ⟨_, hunbound, hid, hdigest, .inl rfl⟩

/-- What is signed and verified in a slot is so with this material, over what a digest holds. -/
structure ActsWith (session : Session) (slot : String) (id : EngineId) (digest : DigestHandle)
    (plainRsa : Bool) (material? : Option KeyMaterial) : Prop where
  sign {save : Option String} {bytes : Bytes} :
    (session.step (.signature slot (.sign save))).1 = .ok (.bytes bytes) →
      ∃ state material, session.world.accumulated id digest = some state ∧
        material? = some material ∧ material.sign state plainRsa = .ok bytes
  verify {candidate : Operand} {accepted : Bool} :
    (session.step (.signature slot (.verify candidate))).1 = .ok (.flag accepted) →
      ∃ data state material, session.operandIn candidate = .ok data ∧
        session.world.accumulated id digest = some state ∧
        material? = some material ∧ material.verify state data = accepted

/-- The engine is shown the handle of the key. -/
theorem BoundAtMost.actsWith {key : SoftwareKey}
    (h : BoundAtMost slot id digest (.software key) plainRsa session)
    {engine : Software.Engine} (hengine : session.world.softwareEngine? id = some engine) :
    ActsWith session slot id digest.handle plainRsa
      (session.world.materialOf { key with engine := id }) := by
  obtain ⟨opened, hopened, rfl, rfl, hbound⟩ := h
  constructor
  · intro save bytes hanswer
    rw [step_sign hopened] at hanswer
    cases houtcome : ((opened.signature.sign (World.boundary opened.engine)).outcome
        { state := session.world }).1 with
    | error failure =>
        rw [houtcome] at hanswer
        cases hanswer
    | ok signed =>
        rw [houtcome] at hanswer
        cases hanswer
        obtain ⟨hkey, rfl⟩ := hbound.resolve_left (Signature.key_ne_none_of_sign houtcome)
        exact Signature.sign_eq_ok hengine hkey houtcome
  · intro candidate accepted hanswer
    cases hdata : session.operandIn candidate with
    | error e =>
        rw [step_verify_error hopened hdata] at hanswer
        cases hanswer
    | ok data =>
        rw [step_verify hopened hdata] at hanswer
        cases houtcome : ((opened.signature.verify (World.boundary opened.engine) data).outcome
            { state := session.world }).1 with
        | error failure =>
            rw [houtcome] at hanswer
            cases hanswer
        | ok found =>
            rw [houtcome] at hanswer
            cases hanswer
            obtain ⟨hkey, -⟩ := hbound.resolve_left (Signature.key_ne_none_of_verify houtcome)
            obtain ⟨state, material, hverified⟩ := Signature.verify_eq_ok hengine hkey houtcome
            exact ⟨data, state, material, rfl, hverified⟩

/-- Whatever else is done in a process: behind a start that bound a key, what is signed and verified
is so with the material that the engine still keeps under the handle of that key, and neither succeeds
if it keeps none. What it keeps is what it generated last under this handle. Of a key of the same
engine this is its own, as long as the engine did not issue more handles than a word has numbers. -/
theorem acts_with_last_generated {earlier history : List Step} {slot name : String}
    {plainRsa : Bool} {key : SoftwareKey} {start bound final : Session} {opened : OpenSignature}
    (hstart : ({} : Session).after earlier = start)
    (hopened : start.signatures.find? slot = some opened)
    (hkey : start.keys.find? name = some (.software key))
    (hbound : start.step (.signature slot (.start name plainRsa)) = (.ok .done, bound))
    (hstays : Unrebound slot bound history)
    (hfinal : bound.after history = final) {engine : Software.Engine}
    (hengine : final.world.softwareEngine? opened.engine = some engine) :
    let steps := earlier ++ .signature slot (.start name plainRsa) :: history
    let generated := generatedOver opened.engine {} steps
    let kept := engine.keys.find? key.handle
    ActsWith final slot opened.engine opened.signature.digest.handle plainRsa kept ∧
      (∀ material, kept = some material → generated.lookup key.handle = some material) ∧
      (key.engine = opened.engine → engine.issued < UInt64.size →
        ∀ own, (key.handle, own) ∈ generated → generated.lookup key.handle = some own) := by
  intro steps generated kept
  have hsteps : ({} : Session).after steps = final := by
    rw [← hfinal, after_append, hstart, after_cons, hbound]
  have hbegun : BoundAtMost slot opened.engine opened.signature.digest (.software key) plainRsa
      bound := by
    obtain ⟨found, hfound, -, hnext⟩ | ⟨⟨e, hfails⟩, -⟩ := step_start hopened name plainRsa
    · rw [hkey, Option.some.injEq] at hfound
      subst hfound
      rw [hbound] at hnext
      exact ⟨_, hnext, rfl, rfl, .inr ⟨rfl, rfl⟩⟩
    · rw [hbound] at hfails
      cases hfails
  have hkept : final.world.materialOf { key with engine := opened.engine } = kept := by
    rw [World.materialOf, hengine]
    rfl
  have hacts := (hfinal ▸ hbegun.after history hstays).actsWith hengine
  rw [hkept] at hacts
  refine ⟨hacts, fun material hmaterial => ?_, fun _ hissued own hown => ?_⟩
  · rw [← hkept, ← hsteps] at hmaterial
    exact generated_last steps hmaterial
  · have hcounted := Counted.of_engine hengine hissued
    rw [← hsteps] at hcounted
    exact generated_lookup hcounted hown

/-- Two engines with a key pair each, of which only one has a context. So the private key of this
engine has the number of the public key of the other one. -/
def twoEngines : List Step :=
  [.newEngine "engine" none, .newEngine "other" none,
    .createContext "context" "engine" false (.document (.object [])),
    .generateEc "engine" "own" (.given (List.replicate 32 1)),
    .generateEc "other" "foreign" (.given (List.replicate 32 2)),
    .newSignature "signature" "context" "SHA-256"]

theorem opened_twoEngines :
    ∃ opened, (({} : Session).after twoEngines).signatures.find? "signature" = some opened ∧
      opened.engine = 0 := by
  have hopens : ((({} : Session).after twoEngines).signatures.find? "signature").map (·.engine) =
      some 0 := by
    decide +kernel
  exact Option.map_eq_some_iff.mp hopens

/-- The signature is fed, and what callers hold of its key is given back. -/
def lettingGo : List Step :=
  [.signature "signature" (.updateAll (.given [7])), .drop .key "own.private",
    .freeKey "other" ⟨2⟩]

theorem acts_with_last_generated_lettingGo :
    ∃ (bound : Session) (opened : OpenSignature) (own : KeyMaterial),
      (({} : Session).after twoEngines).step
        (.signature "signature" (.start "own.private" false)) = (.ok .done, bound) ∧
      own.isPrivate = true ∧
      (generatedOver 0 {} (twoEngines ++
        .signature "signature" (.start "own.private" false) :: lettingGo)).lookup ⟨2⟩ =
          some own ∧
      ActsWith (bound.after lettingGo) "signature" 0 opened.signature.digest.handle false
        (some own) := by
  obtain ⟨start, hstart⟩ : ∃ start, ({} : Session).after twoEngines = start := ⟨_, rfl⟩
  obtain ⟨opened, hopened, hid⟩ := opened_twoEngines
  rw [hstart] at hopened
  have hkey : start.keys.find? "own.private" = some (.software ⟨0, ⟨2⟩, .ec, true⟩) := by
    rw [← hstart]
    decide +kernel
  have hstarts :
      (start.step (.signature "signature" (.start "own.private" false))).1.isOk = true := by
    rw [← hstart]
    decide +kernel
  obtain ⟨bound, hnext⟩ : ∃ bound,
      (start.step (.signature "signature" (.start "own.private" false))).2 = bound := ⟨_, rfl⟩
  have hbound : start.step (.signature "signature" (.start "own.private" false)) =
      (.ok .done, bound) := Prod.ext (step_start_of_isOk hopened hstarts) hnext
  have hleft : ((bound.after lettingGo).world.softwareEngine? 0).map
      (fun engine => (engine.issued, (engine.keys.find? ⟨2⟩).isSome)) = some (4, true) := by
    rw [← hnext, ← hstart]
    decide +kernel
  obtain ⟨generated, hgenerated⟩ : ∃ generated, generatedOver 0 {} (twoEngines ++
      .signature "signature" (.start "own.private" false) :: lettingGo) = generated := ⟨_, rfl⟩
  have hprivate : (⟨2⟩, true) ∈ generated.map (fun key => (key.1, key.2.isPrivate)) := by
    rw [← hgenerated]
    decide +kernel
  have hquiet : ∀ step ∈ lettingGo,
      step.place ≠ some (.signature "signature") ∨ step.callsOnly = true := by
    decide +kernel
  obtain ⟨engine, hengine, hcounts⟩ := Option.map_eq_some_iff.mp hleft
  obtain ⟨hcount, hkeeps⟩ := Prod.mk.inj hcounts
  obtain ⟨kept, hkept⟩ := Option.isSome_iff_exists.mp hkeeps
  obtain ⟨⟨handle, own⟩, hmem, hpair⟩ := List.mem_map.mp hprivate
  obtain ⟨rfl, hkind⟩ := Prod.mk.inj hpair
  obtain ⟨hacts, hlast, hown⟩ := acts_with_last_generated hstart hopened hkey hbound
    (unrebound_of_quiet hquiet) rfl (hid.symm ▸ hengine)
  simp only [hid, hgenerated, hkept] at hacts hlast hown
  have hfound := hown trivial (by rw [hcount]; decide) own hmem
  have hsame := hlast kept rfl
  rw [hfound, Option.some.injEq] at hsame
  rw [← hsame] at hacts
  exact ⟨bound, opened, own, hstart ▸ hbound, hkind, hgenerated ▸ hfound, hacts⟩

/-- A public key of another engine is bound, and a signature is made. -/
theorem foreign_public_key_signs :
    ∃ (bound : Session) (bytes : Bytes) (own : KeyMaterial) (key : SoftwareKey),
      (({} : Session).after twoEngines).keys.find? "foreign.public" = some (.software key) ∧
      (({} : Session).after twoEngines).step
        (.signature "signature" (.start "foreign.public" false)) = (.ok .done, bound) ∧
      (bound.step (.signature "signature" (.sign none))).1 = .ok (.bytes bytes) ∧
      (key.handle, own) ∈ generatedOver key.engine {} twoEngines ∧
      ∀ digest plainRsa, own.sign digest plainRsa ≠ .ok bytes := by
  obtain ⟨opened, hopened, -⟩ := opened_twoEngines
  have hkey : (({} : Session).after twoEngines).keys.find? "foreign.public" =
      some (.software ⟨1, ⟨2⟩, .ec, false⟩) := by
    decide +kernel
  have hstarts : ((({} : Session).after twoEngines).step
      (.signature "signature" (.start "foreign.public" false))).1.isOk = true := by
    decide +kernel
  have hopens : (((({} : Session).after twoEngines).step
      (.signature "signature" (.start "foreign.public" false))).2.signatures.find?
        "signature").isSome = true := by
    decide +kernel
  have hsigns : (((({} : Session).after twoEngines).step
      (.signature "signature" (.start "foreign.public" false))).2.step
        (.signature "signature" (.sign none))).1.isOk = true := by
    decide +kernel
  have hpublic : (⟨2⟩, false) ∈ (generatedOver 1 {} twoEngines).map
      (fun key => (key.1, key.2.isPrivate)) := by
    decide +kernel
  obtain ⟨bound, hbound⟩ := Option.isSome_iff_exists.mp hopens
  obtain ⟨bytes, hbytes⟩ := step_sign_of_isOk hbound hsigns
  obtain ⟨⟨handle, own⟩, hmem, hpair⟩ := List.mem_map.mp hpublic
  obtain ⟨rfl, hkind⟩ := Prod.mk.inj hpair
  refine ⟨_, bytes, own, _, hkey, Prod.ext (step_start_of_isOk hopened hstarts) rfl, hbytes, hmem,
    fun digest plainRsa hsigned => ?_⟩
  rw [KeyMaterial.sign_of_isPrivate_eq_false digest plainRsa hkind] at hsigned
  cases hsigned

end Session

end SigningEngine
