import SigningEngine.Proofs.Signature.Coverage

/-!
# How operations over a software engine end

The digest of a signature over a software engine is reset without fail, as long as the engine keeps
it in a live context. So a start ends by the handle that its key shows, and a sign or a verify ends
by the key alone: whether one is bound, whether it shows a handle, and what the engine keeps under
that handle.

The main statements are `start_of_covers`, `sign_of_covers` and `verify_of_covers`.
-/

namespace SigningEngine

open Software (KeyMaterial Accumulator)

namespace World

variable {world next : World} {id : EngineId}

/-- What a key shows depends on what is laid down for it. -/
theorem readHandle_congr (h : next.scriptedHandles = world.scriptedHandles) (key : Key) :
    (next.readHandle key).1 = (world.readHandle key).1 := by
  cases key with
  | software key => rfl
  | scripted key =>
      simp only [readHandle, h]
      split <;> rfl

theorem release_scriptedHandles (world : World) (key : Key) :
    (world.release key).scriptedHandles = world.scriptedHandles := by
  rw [release]
  split
  · rfl
  · cases key with
    | scripted key => rfl
    | software key =>
        simp only [forget]
        split <;> rfl

theorem behind_scriptedHandles (world : World) (call : NativeCall) :
    ((boundary id).behind call world).scriptedHandles = world.scriptedHandles := by
  show (world.respond id call).state.scriptedHandles = _
  rw [respond]
  split <;> rfl

end World

namespace Signature

open World

variable {id : EngineId} {world : World} {engine : Software.Engine} {signature : Signature Key}
variable {state : Accumulator} {plainRsa : Bool}

/-- The refusal of a key that shows no handle. -/
def noHandle (key : Key) : EngineError :=
  .invalidKey (key.algorithmName ++ " key has no native identifier")

/-- The refusal by an engine that keeps nothing under a handle. -/
def unknownKey (operation : String) (handle : KeyHandle) : EngineError :=
  .operation (operation ++ " failed: " ++ ("unknown key handle " ++ handle.text))

/-- The refusal to sign with a public key. -/
def onlyPublic : EngineError := .operation ("sign" ++ " failed: " ++ "cannot sign with a public key")

/-- The material that an operation works with, or why there is none. A key has to be bound, it has to
show a handle, and the engine has to keep something under it. -/
def material (signature : Signature Key) (operation : String) (engine : Software.Engine)
    (world : World) : Except EngineError KeyMaterial :=
  match signature.key with
  | none => .error notInitialized
  | some key =>
    let handle := (world.readHandle key).1
    if handle.isValid then
      match engine.keys.find? handle with
      | some material => .ok material
      | none => .error (unknownKey operation handle)
    else .error badHandle

/-- What an operation works with is kept by the engine. -/
theorem kept_of_material {operation : String} {material : KeyMaterial}
    (h : signature.material operation engine world = .ok material) :
    ∃ handle, engine.keys.find? handle = some material := by
  rw [Signature.material] at h
  split at h
  next => cases h
  next key _ =>
    simp only at h
    split at h
    next =>
      split at h
      next found hfound =>
        cases h
        exact ⟨_, hfound⟩
      next => cases h
    next => cases h

/-- The material that a signature signs with: it has to be private besides. -/
def signingMaterial (signature : Signature Key) (engine : Software.Engine) (world : World) :
    Except EngineError KeyMaterial := do
  let material ← signature.material "sign" engine world
  if material.isPrivate then return material else throw onlyPublic

/-- How a judgement over the material for an operation ends. -/
def judged {α : Type} (operation : String) (judge : KeyMaterial → Except NativeError α)
    (material : Except EngineError KeyMaterial) : Except Failure α :=
  material.mapError .error >>= fun material => settled operation (.ok (judge material)) (.ok ())

theorem unboundRun_scriptedHandles (signature : Signature Key) (run : Run World) :
    (signature.unboundRun (boundary id) run).state.scriptedHandles =
      run.state.scriptedHandles := by
  rw [unboundRun]
  cases signature.key with
  | none => rfl
  | some key => exact release_scriptedHandles run.state key

/-- A start ends by the handle that its key shows, and never by the reset. -/
theorem start_of_covers {run : Run World} (h : run.state.Covers id signature.digest state)
    (key : Key) (plainRsa : Bool) :
    (signature.start (boundary id) key plainRsa run).1.1 =
      if (run.state.readHandle key).1.isValid then .ok () else .error (.error (noHandle key)) := by
  let free := signature.unboundRun (boundary id) run
  have hfree : free.state.Covers id signature.digest ⟨state.algorithm, state.input⟩ := by
    show (signature.unboundRun (boundary id) run).state.Covers id signature.digest state
    rw [unboundRun_eq]
    exact h.still (unboundState_still signature run.state)
  have hread : ((boundary id).keyHandle key (signature.resetRun (boundary id) free).state).1 =
      (run.state.readHandle key).1 :=
    readHandle_congr ((behind_scriptedHandles free.state signature.resetCall).trans
      (unboundRun_scriptedHandles signature run)) key
  rw [start_run]
  simp only
  rw [resetOutcome_of_covers hfree]
  simp only
  rw [hread]
  split <;> rfl

/-- A key that is bound has the engine asked with the handle it shows, if it shows one. -/
theorem judged_material {α : Type} (operation : String) (judge : KeyMaterial → Except NativeError α)
    {key : Key} (hkey : signature.key = some key) :
    judged operation judge (signature.material operation engine world) =
      if (world.readHandle key).1.isValid then
        settled operation (.ok (engine.keyMaterial (world.readHandle key).1 >>= judge)) (.ok ())
      else .error (.error badHandle) := by
  rw [material, hkey]
  simp only
  split
  · rw [Software.Engine.keyMaterial]
    cases engine.keys.find? (world.readHandle key).1 <;> rfl
  · rfl

section Judging

variable (hvalid : signature.digest.handle.isValid = true)
variable (hengine : world.softwareEngine? id = some engine)
variable (hcovers : engine.Covers signature.digest state)
include hengine hcovers

/-- The reset behind a call that judges succeeds. -/
theorem resetOutcome_of_judges (key : Key) {call : NativeCall} (hcall : call.judges = true) :
    signature.resetOutcome (boundary id)
      ((boundary id).behind call (world.readHandle key).2) = .ok () := by
  have hread : (world.readHandle key).2.Covers id signature.digest
      ⟨state.algorithm, state.input⟩ :=
    World.Covers.still ⟨engine, hengine, hcovers⟩ (readHandle_still world key)
  exact resetOutcome_of_covers (hread.judged hcall)

omit hcovers in
theorem replyTo_of_read (key : Key) (call : NativeCall) :
    (boundary id).replyTo call (world.readHandle key).2 = .ok (engine.reply call).1 := by
  have hread : (world.readHandle key).2.softwareEngine? id = some engine := by
    rwa [softwareEngine?, readHandle_engines]
  exact replyTo_software hread call

include hvalid

omit hengine hcovers in
/-- What a sign or a verify reads of the bound key. -/
theorem reads_of_bound (id : EngineId) (world : World) {key : Key} (hkey : signature.key = some key) :
    signature.reaches (boundary id) world = (world.readHandle key).1.isValid ∧
      signature.shownHandle (boundary id) world = (world.readHandle key).1 ∧
      (signature.checkedRun (boundary id) { state := world }).state =
        (world.readHandle key).2 := by
  refine ⟨?_, ?_, ?_⟩
  · simp only [reaches, hkey, hvalid, Bool.true_and]
    rfl
  · rw [shownHandle, hkey]
    rfl
  · rw [checkedRun, hkey]
    rfl

/-- A sign ends by the material that the bound key leads to. -/
theorem sign_of_covers :
    ((signature.sign (boundary id)).outcome { state := world }).1 =
      judged "sign" (·.sign state signature.plainRsa)
        (signature.material "sign" engine world) := by
  rw [outcome_sign]
  cases hkey : signature.key with
  | none =>
      rw [reaches, hkey, refusal, isInitialized, hkey, material, hkey]
      rfl
  | some key =>
      obtain ⟨hreaches, hshown, hchecked⟩ := reads_of_bound hvalid id world hkey
      rw [judged_material "sign" _ hkey, hreaches, hshown]
      split
      · have hcall : (signature.signCall (world.readHandle key).1).judges = true := rfl
        simp only [Boundary.asked_state, hchecked]
        rw [resetOutcome_of_judges hengine hcovers key hcall, replyTo_of_read hengine]
        exact congrArg (fun reply => settled "sign" (.ok reply) (.ok ()))
          (hcovers.sign (world.readHandle key).1 signature.plainRsa)
      · rw [refusal, isInitialized, hkey]
        rfl

/-- Where private material signs, a sign gives a signature or ends for want of private material. -/
theorem sign_cases
    (hsigns : ∀ material, signature.material "sign" engine world = .ok material →
      material.isPrivate = true →
        ∃ bytes, material.sign state signature.plainRsa = .ok bytes) :
    (∃ e, signature.signingMaterial engine world = .error e ∧
        ((signature.sign (boundary id)).outcome { state := world }).1 = .error (.error e)) ∨
      ∃ material bytes, signature.signingMaterial engine world = .ok material ∧
        ((signature.sign (boundary id)).outcome { state := world }).1 = .ok bytes := by
  rw [sign_of_covers hvalid hengine hcovers, signingMaterial]
  cases hmaterial : signature.material "sign" engine world with
  | error e => exact .inl ⟨e, rfl, rfl⟩
  | ok material =>
      by_cases hprivate : material.isPrivate = true
      · obtain ⟨bytes, hbytes⟩ := hsigns material hmaterial hprivate
        refine .inr ⟨material, bytes, if_pos hprivate, ?_⟩
        show settled "sign" (.ok (material.sign state signature.plainRsa)) (.ok ()) = _
        rw [hbytes]
        rfl
      · refine .inl ⟨onlyPublic, if_neg hprivate, ?_⟩
        show settled "sign" (.ok (material.sign state signature.plainRsa)) (.ok ()) = _
        rw [material.sign_of_isPrivate_eq_false _ _ (Bool.eq_false_iff.mpr hprivate)]
        rfl

/-- A verify ends by the material that the bound key leads to, with its judgement of the candidate. -/
theorem verify_of_covers (candidate : Bytes) :
    ((signature.verify (boundary id) candidate).outcome { state := world }).1 =
      ((signature.material "verify" engine world).mapError .error).map
        (·.verify state candidate) := by
  have hjudged : ((signature.material "verify" engine world).mapError .error).map
      (·.verify state candidate) =
        judged "verify" (fun material => .ok (material.verify state candidate))
          (signature.material "verify" engine world) := by
    cases signature.material "verify" engine world <;> rfl
  rw [hjudged]
  rw [outcome_verify]
  cases hkey : signature.key with
  | none =>
      rw [reaches, hkey, refusal, isInitialized, hkey, material, hkey]
      rfl
  | some key =>
      obtain ⟨hreaches, hshown, hchecked⟩ := reads_of_bound hvalid id world hkey
      rw [judged_material "verify" _ hkey, hreaches, hshown]
      split
      · have hcall : (signature.verifyCall candidate (world.readHandle key).1).judges = true := rfl
        have hreply := hcovers.verify (world.readHandle key).1 candidate
        simp only [Boundary.asked_state, hchecked]
        rw [resetOutcome_of_judges hengine hcovers key hcall, replyTo_of_read hengine]
        refine congrArg (fun reply => settled "verify" (.ok reply) (.ok ())) (hreply.trans ?_)
        cases engine.keyMaterial (world.readHandle key).1 <;> rfl
      · rw [refusal, isInitialized, hkey]
        rfl

end Judging

end Signature

end SigningEngine
