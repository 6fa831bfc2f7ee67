import SigningEngine.Proofs.Along
import SigningEngine.Proofs.Signature.Operation

/-!
# How the library moves its surroundings

The operations on contexts alter no digest. Those on a digest, and on the signature that feeds it,
alter that digest alone.
-/

namespace SigningEngine

variable {σ κ : Type} {boundary : Boundary σ κ} {altered : DigestHandle → Prop}
variable {R : σ → σ → Prop}

section Calls

variable (h : boundary.CalledBy altered R)
include h

namespace Context

theorem attemptCreation_along (fips : Bool) (attempts remaining : Nat) (last : Option NativeError) :
    Native.Along R (attemptCreation boundary fips attempts remaining last).outcome := by
  induction remaining generalizing last with
  | zero => exact h.attempt_pure _
  | succ remaining ih =>
      refine h.attempt_bind (h.request nofun) fun reply => ?_
      cases reply with
      | ok handle => exact h.attempt_bind (h.log _) fun _ => h.attempt_pure _
      | error e =>
          simp only
          split
          · exact h.fail_bind _ _
          · exact h.attempt_bind (h.log _) fun _ => ih (some e)

theorem obtainHandle_along (fips : Bool) (config : ContextConfig) :
    Native.Along R (obtainHandle boundary fips config).outcome := by
  refine h.attempt_bind (attemptCreation_along h fips _ _ none) fun result => ?_
  cases result with
  | ok handle => exact h.attempt_pure handle
  | error last =>
      cases config.onExhaustedRetries with
      | fail => exact h.fail _
      | invalidHandle => exact h.attempt_bind (h.log _) fun _ => h.attempt_pure _

theorem create_along (fips : Bool) (config : ContextConfig) :
    Native.Along R (create boundary fips config).outcome := by
  rw [create]
  cases config.validate with
  | error e => exact h.fail_bind _ _
  | ok =>
      refine h.attempt_bind (obtainHandle_along h fips config) fun handle => ?_
      refine h.attempt_when (h.orError (h.request nofun)) fun _ => ?_
      refine h.attempt_when (h.orError (h.request nofun)) fun _ => ?_
      exact h.attempt_bind (h.log _) fun _ => h.attempt_pure _

theorem createFromEnvironment_along (fips : Bool) (lookup : Lookup) :
    Native.Along R (createFromEnvironment boundary fips lookup).outcome := by
  rw [createFromEnvironment]
  cases ContextConfig.ofLookup lookup with
  | ok config => exact create_along h fips config
  | error e => exact h.fail _

theorem fetchOnce_along (cell : Option String) {fetch : Attempt σ String}
    (hfetch : Native.Along R fetch.outcome) : Native.Along R (fetchOnce cell fetch) := by
  cases cell with
  | some value => exact Along.pure h.lasting _
  | none =>
      refine Along.bind h.lasting hfetch fun outcome => ?_
      cases outcome with
      | ok value => exact Along.pure h.lasting _
      | error failure => exact Along.pure h.lasting _

theorem fetchValue_along (context : Context) (value : EngineValue) :
    Native.Along R (context.fetchValue boundary value).outcome :=
  h.attempt_bind (h.log _) fun _ => h.orError (h.request nofun)

theorem readVersion_along (context : Context) :
    Native.Along R (context.readVersion boundary) :=
  Along.bind_pure h.lasting (fetchOnce_along h _ (fetchValue_along h context _))

theorem readInstallPath_along (context : Context) :
    Native.Along R (context.readInstallPath boundary) :=
  Along.bind_pure h.lasting (fetchOnce_along h _ (fetchValue_along h context _))

theorem fipsApprovedMode_along (context : Context) :
    Native.Along R (context.fipsApprovedMode boundary).outcome := by
  refine h.attempt_bind (h.orError (h.request nofun)) fun report => ?_
  simp only
  split
  · exact h.attempt_pure _
  · exact h.fail _

theorem readBuildDate_along (cell : Option String) :
    Native.Along R (readBuildDate boundary cell) :=
  fetchOnce_along h cell (h.attempt_bind (h.log _) fun _ => h.request nofun)

theorem advanceFrom_along {fetch : Attempt σ String} (hfetch : Native.Along R fetch.outcome)
    (shared : SharedValue) (i : Nat) (caller : Caller) :
    Native.Along R (shared.advanceFrom fetch i caller) := by
  cases caller with
  | arrived => rw [SharedValue.advanceFrom]; split <;> exact Along.pure h.lasting _
  | waiting => rw [SharedValue.advanceFrom]; split <;> exact Along.pure h.lasting _
  | admitted => rw [SharedValue.advanceFrom]; split <;> exact Along.pure h.lasting _
  | fetching =>
      refine Along.bind h.lasting hfetch fun outcome => ?_
      cases outcome with
      | ok value => exact Along.pure h.lasting _
      | error failure => exact Along.pure h.lasting _
  | keeping value => exact Along.pure h.lasting _
  | leaving outcome => exact Along.pure h.lasting _
  | served outcome => exact Along.pure h.lasting _

/-- Whatever the number of callers, all they do together is to fetch. -/
theorem serve_along {fetch : Attempt σ String} (hfetch : Native.Along R fetch.outcome)
    (shared : SharedValue) : Native.Along R (shared.serve fetch) := by
  refine Along.foldlM h.lasting (fun shared i => ?_) _ shared
  rw [SharedValue.advance]
  split
  · exact advanceFrom_along h hfetch shared i _
  · exact Along.pure h.lasting _

theorem readVersions_along (callers : Nat) (context : Context) :
    Native.Along R (context.readVersions boundary callers) :=
  Along.bind_pure h.lasting (serve_along h (fetchValue_along h context _) _)

theorem readInstallPaths_along (callers : Nat) (context : Context) :
    Native.Along R (context.readInstallPaths boundary callers) :=
  Along.bind_pure h.lasting (serve_along h (fetchValue_along h context _) _)

end Context

namespace Digest

theorem create_along (context : ContextHandle) (algorithm : String) :
    Native.Along R (Digest.create boundary context algorithm).outcome := by
  refine h.attempt_bind (h.orError (h.request nofun)) fun handle => ?_
  split
  · exact h.attempt_pure _
  · exact h.fail _

variable {digest : Digest} (hdigest : altered digest.handle)
include hdigest

theorem update_along (data : Bytes) : Native.Along R (digest.update boundary data).outcome :=
  h.orError (h.request fun _ heq => Option.some.inj heq ▸ hdigest)

theorem reset_along : Native.Along R (digest.reset boundary).outcome :=
  h.orError (h.request fun _ heq => Option.some.inj heq ▸ hdigest)

theorem free_along : Native.Along R (digest.free boundary).outcome := by
  refine h.attempt_bind (h.request fun _ heq => Option.some.inj heq ▸ hdigest) fun reply => ?_
  cases reply with
  | ok value => exact h.attempt_pure _
  | error e => exact h.log _

end Digest

namespace Signature

theorem create_along (context : ContextHandle) (algorithm : String) :
    Native.Along R (create boundary context algorithm : Attempt σ (Signature κ)).outcome :=
  h.attempt_bind (Digest.create_along h context algorithm) fun _ => h.attempt_pure _

theorem checkedKeyHandle_along (signature : Signature κ) :
    Native.Along R (signature.checkedKeyHandle boundary).outcome := by
  rw [checkedKeyHandle]
  cases signature.key with
  | none => exact h.fail _
  | some key =>
      refine h.attempt_bind (Along.run_lift (h.readHandle key)) fun handle => ?_
      split
      · exact h.attempt_pure handle
      · exact h.fail _

variable {signature : Signature κ} (hdigest : altered signature.digest.handle)
include hdigest

theorem update_along (buffer : Bytes) (span : Span) :
    Native.Along R (signature.update boundary buffer span).outcome := by
  rw [update]
  cases span.slice? buffer with
  | some data => exact Digest.update_along h hdigest data
  | none => exact h.fail _

theorem settle_along {α : Type} (operation : String)
    (reply : Except String (Except NativeError α)) :
    Native.Along R (signature.settle boundary operation reply).outcome := by
  refine h.attempt_bind (Along.run_lift (Digest.reset_along h hdigest)) fun reset => ?_
  match reply, reset with
  | .error _, .ok () => exact h.throw _
  | .error _, .error (.error _) => exact h.attempt_bind (h.log _) fun _ => h.throw _
  | .error _, .error (.panic _) => exact h.throw _
  | .error _, .error .abort => exact h.throw _
  | .ok (.ok value), .ok () => exact h.attempt_pure value
  | .ok (.ok _), .error failure => exact h.throw failure
  | .ok (.error _), .ok () => exact h.fail _
  | .ok (.error _), .error (.error _) => exact h.attempt_bind (h.log _) fun _ => h.fail _
  | .ok (.error _), .error (.panic _) => exact h.throw _
  | .ok (.error _), .error .abort => exact h.throw _

theorem sign_along : Native.Along R (signature.sign boundary).outcome :=
  h.attempt_bind (checkedKeyHandle_along h signature) fun _ =>
    h.attempt_bind (Along.run_lift (h.ask nofun)) fun reply => settle_along h hdigest _ reply

theorem signs_along (callers : Nat) : Native.Along R (signature.signs boundary callers) :=
  Along.mapM h.lasting (fun _ => sign_along h hdigest) _

theorem verify_along (candidate : Bytes) :
    Native.Along R (signature.verify boundary candidate).outcome :=
  h.attempt_bind (checkedKeyHandle_along h signature) fun _ =>
    h.attempt_bind (Along.run_lift (h.ask nofun)) fun reply => settle_along h hdigest _ reply

end Signature

end Calls

/-! ### Operations that give references back -/

namespace Signature

variable (h : boundary.MovesBy altered R) {signature : Signature κ}
variable (hdigest : altered signature.digest.handle)
include h hdigest

theorem start_along (key : κ) (plainRsa : Bool) :
    Native.Along R (signature.start boundary key plainRsa) := by
  have hcalled := h.calledBy
  have hunbound : Native.Along R (signature.unbound.start boundary key plainRsa) := by
    refine Along.bind hcalled.lasting (Digest.reset_along hcalled hdigest) fun reset => ?_
    cases reset with
    | error failure =>
        exact Along.bind_pure hcalled.lasting (h.giveBack key)
    | ok =>
        refine Along.bind hcalled.lasting (hcalled.readHandle key) fun handle => ?_
        split
        · exact Along.bind_pure hcalled.lasting (hcalled.log _)
        · exact Along.bind_pure hcalled.lasting (h.giveBack key)
  intro run
  rw [start_eq_unbound]
  refine h.trans ?_ (hunbound _)
  rw [unboundRun]
  cases signature.key with
  | none => exact h.refl run.state
  | some previous => exact h.release previous run.state

theorem drop_along : Native.Along R (signature.drop boundary).outcome := by
  have hcalled := h.calledBy
  refine hcalled.attempt_bind (Along.run_lift (Digest.free_along hcalled hdigest)) fun freed => ?_
  cases signature.key with
  | none => exact Along.pure hcalled.lasting freed
  | some key =>
      exact hcalled.attempt_bind (Along.run_lift (h.giveBack key)) fun _ =>
        Along.pure hcalled.lasting freed

end Signature

end SigningEngine
