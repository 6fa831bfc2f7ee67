import SigningEngine.Context.SharedValue
import SigningEngine.Proofs.Signature.Operation

/-!
# The same operation over two surroundings

Surroundings that answer alike cannot be told apart by what is done over them, whatever else they
keep. From runs that match, each operation of the library comes to the same over the one and over the
other, and the runs that it leaves match again. Surroundings that differ in what they sign and verify
alone cannot be told apart by any other operation.
-/

namespace SigningEngine

/-- From states that match, two computations give the same and leave states that match. -/
def Matching {τ υ α : Type} (R : τ → υ → Prop) (x : StateM τ α) (y : StateM υ α) : Prop :=
  ∀ s t, R s t → (x s).1 = (y t).1 ∧ R (x s).2 (y t).2

namespace Matching

variable {τ υ ε α β γ : Type} {R : τ → υ → Prop}

theorem pure (a : α) : Matching R (Pure.pure a) (Pure.pure a) := fun _ _ h => ⟨rfl, h⟩

theorem bind {x : StateM τ α} {y : StateM υ α} {f : α → StateM τ β} {g : α → StateM υ β}
    (hx : Matching R x y) (hf : ∀ a, Matching R (f a) (g a)) :
    Matching R (x >>= f) (y >>= g) := by
  intro s t h
  obtain ⟨hresult, hnext⟩ := hx s t h
  rw [stateM_bind, stateM_bind, hresult]
  exact hf _ _ _ hnext

/-- What follows is only done if there is a value. -/
theorem run_bind_of {P : Except ε β × τ → Except ε γ × υ → Prop} {x : ExceptT ε (StateM τ) α}
    {y : ExceptT ε (StateM υ) α} {f : α → ExceptT ε (StateM τ) β}
    {g : α → ExceptT ε (StateM υ) γ} (hx : Matching R x.run y.run)
    (herror : ∀ e s t, R s t → P (.error e, s) (.error e, t))
    (hok : ∀ a s t, R s t → P ((f a).run s) ((g a).run t)) {s : τ} {t : υ} (h : R s t) :
    P ((x >>= f).run s) ((y >>= g).run t) := by
  obtain ⟨hresult, hnext⟩ := hx s t h
  rw [SigningEngine.run_bind, SigningEngine.run_bind]
  revert hresult hnext
  cases x.run s with
  | mk result next =>
      cases y.run t with
      | mk same behind =>
          rintro rfl hnext
          cases result with
          | ok a => exact hok a next behind hnext
          | error e => exact herror e next behind hnext

theorem run_bind {x : ExceptT ε (StateM τ) α} {y : ExceptT ε (StateM υ) α}
    {f : α → ExceptT ε (StateM τ) β} {g : α → ExceptT ε (StateM υ) β}
    (hx : Matching R x.run y.run) (hf : ∀ a, Matching R (f a).run (g a).run) :
    Matching R (x >>= f).run (y >>= g).run :=
  fun _ _ => run_bind_of (P := fun first second => first.1 = second.1 ∧ R first.2 second.2) hx
    (fun _ _ _ h => ⟨rfl, h⟩) hf

theorem run_lift {x : StateM τ α} {y : StateM υ α} (hx : Matching R x y) :
    Matching R (ExceptT.lift x : ExceptT ε (StateM τ) α).run
      (ExceptT.lift y : ExceptT ε (StateM υ) α).run := by
  intro s t h
  obtain ⟨hresult, hnext⟩ := hx s t h
  exact ⟨congrArg Except.ok hresult, hnext⟩

/-- What is returned of a result does not matter. -/
theorem bind_pure {x : StateM τ α} {y : StateM υ α} {f : α → β} (hx : Matching R x y) :
    Matching R (x >>= fun a => Pure.pure (f a)) (y >>= fun a => Pure.pure (f a)) :=
  bind hx fun a => pure (f a)

theorem foldlM {f : β → α → StateM τ β} {g : β → α → StateM υ β}
    (hf : ∀ b a, Matching R (f b a) (g b a)) (list : List α) (b : β) :
    Matching R (list.foldlM f b) (list.foldlM g b) := by
  induction list generalizing b with
  | nil => exact pure b
  | cons a rest ih =>
      rw [List.foldlM_cons, List.foldlM_cons]
      exact bind (hf b a) ih

end Matching

/-- From states that match, two computations leave states that match, whatever they give. -/
def Parallel {τ υ α β : Type} (R : τ → υ → Prop) (x : StateM τ α) (y : StateM υ β) : Prop :=
  ∀ s t, R s t → R (x s).2 (y t).2

namespace Parallel

variable {τ υ ε α β γ : Type} {R : τ → υ → Prop}

theorem of_matching {x : StateM τ α} {y : StateM υ α} (h : Matching R x y) : Parallel R x y :=
  fun s t hstates => (h s t hstates).2

theorem run_bind {x : ExceptT ε (StateM τ) α} {y : ExceptT ε (StateM υ) α}
    {f : α → ExceptT ε (StateM τ) β} {g : α → ExceptT ε (StateM υ) γ}
    (hx : Matching R x.run y.run) (hf : ∀ a, Parallel R (f a).run (g a).run) :
    Parallel R (x >>= f).run (y >>= g).run :=
  fun _ _ => Matching.run_bind_of (P := fun first second => R first.2 second.2) hx
    (fun _ _ _ h => h) hf

end Parallel

/-- Two surroundings answer alike as long as nothing is signed or verified: whatever else is done over
them, runs that match give the same and match again. -/
structure Boundary.Agrees {σ τ κ : Type} (first : Boundary σ κ) (second : Boundary τ κ)
    (R : Run σ → Run τ → Prop) : Prop where
  ask {call : NativeCall} :
    call.judges = false → Matching R (first.ask call) (second.ask call)
  log (event : Event) : Matching R (Native.log event) (Native.log event)
  readHandle (key : κ) : Matching R (first.readHandle key) (second.readHandle key)
  giveBack (key : κ) : Matching R (first.giveBack key) (second.giveBack key)
  keyAlgorithm : first.keyAlgorithm = second.keyAlgorithm

/-- Two surroundings answer alike. -/
structure Boundary.Matches {σ τ κ : Type} (first : Boundary σ κ) (second : Boundary τ κ)
    (R : Run σ → Run τ → Prop) : Prop extends first.Agrees second R where
  judge {call : NativeCall} :
    call.judges = true → Matching R (first.ask call) (second.ask call)

variable {σ τ κ α β : Type}

/-- The same attempt over two surroundings. -/
def Attempt.Matching (R : Run σ → Run τ → Prop) (x : Attempt σ α) (y : Attempt τ α) : Prop :=
  SigningEngine.Matching R x.outcome y.outcome

namespace Attempt.Matching

variable {R : Run σ → Run τ → Prop}

theorem pure (a : α) : Attempt.Matching R (Pure.pure a) (Pure.pure a) := fun _ _ h => ⟨rfl, h⟩

theorem throw (failure : Failure) :
    Attempt.Matching R (throw failure : Attempt σ α) (throw failure : Attempt τ α) :=
  fun _ _ h => ⟨rfl, h⟩

theorem fail (e : EngineError) :
    Attempt.Matching R (Attempt.fail e : Attempt σ α) (Attempt.fail e : Attempt τ α) :=
  throw (.error e)

/-- What would follow a failure does not matter. -/
theorem fail_bind (e : EngineError) (f : α → Attempt σ β) (g : α → Attempt τ β) :
    Attempt.Matching R (Attempt.fail e >>= f) (Attempt.fail e >>= g) :=
  fun _ _ h => ⟨rfl, h⟩

theorem bind {x : Attempt σ α} {y : Attempt τ α} {f : α → Attempt σ β} {g : α → Attempt τ β}
    (hx : Attempt.Matching R x y) (hf : ∀ a, Attempt.Matching R (f a) (g a)) :
    Attempt.Matching R (x >>= f) (y >>= g) :=
  SigningEngine.Matching.run_bind hx hf

theorem lift {x : Native σ α} {y : Native τ α} (hx : SigningEngine.Matching R x y) :
    Attempt.Matching R (ExceptT.lift x) (ExceptT.lift y) :=
  SigningEngine.Matching.run_lift hx

/-- A step that is only taken under a condition. -/
theorem when {c : Prop} [Decidable c] {x : Attempt σ Unit} {y : Attempt τ Unit}
    {f : Unit → Attempt σ α} {g : Unit → Attempt τ α} (hx : Attempt.Matching R x y)
    (hf : ∀ u, Attempt.Matching R (f u) (g u)) :
    Attempt.Matching R (if c then x >>= f else f ()) (if c then y >>= g else g ()) := by
  split
  · exact bind hx hf
  · exact hf ()

theorem orError {x : Attempt σ (Except NativeError α)} {y : Attempt τ (Except NativeError α)}
    (error : NativeError → EngineError) (hx : Attempt.Matching R x y) :
    Attempt.Matching R (x.orError error) (y.orError error) := by
  refine bind hx fun reply => ?_
  cases reply with
  | ok value => exact pure value
  | error e => exact fail (error e)

end Attempt.Matching

section Operations

variable {first : Boundary σ κ} {second : Boundary τ κ} {R : Run σ → Run τ → Prop}
variable (h : first.Agrees second R)
include h

namespace Boundary.Agrees

theorem attempt_log (event : Event) :
    Attempt.Matching R (Attempt.log event) (Attempt.log event) :=
  .lift (h.log event)

theorem request {call : NativeCall} (hcall : call.judges = false) :
    Attempt.Matching R (first.request call) (second.request call) := by
  refine .bind (.lift (h.ask hcall)) fun reply => ?_
  cases reply with
  | ok value => exact .pure value
  | error message => exact .throw (.panic message)

end Boundary.Agrees

namespace Context

theorem attemptCreation_matching (fips : Bool) (attempts remaining : Nat)
    (last : Option NativeError) :
    Attempt.Matching R (attemptCreation first fips attempts remaining last)
      (attemptCreation second fips attempts remaining last) := by
  induction remaining generalizing last with
  | zero => exact .pure _
  | succ remaining ih =>
      refine .bind (h.request rfl) fun reply => ?_
      cases reply with
      | ok handle => exact .bind (h.attempt_log _) fun _ => .pure _
      | error e =>
          simp only
          split
          · exact .fail_bind _ _ _
          · exact .bind (h.attempt_log _) fun _ => ih (some e)

theorem obtainHandle_matching (fips : Bool) (config : ContextConfig) :
    Attempt.Matching R (obtainHandle first fips config) (obtainHandle second fips config) := by
  refine .bind (attemptCreation_matching h fips _ _ none) fun result => ?_
  cases result with
  | ok handle => exact .pure handle
  | error last =>
      cases config.onExhaustedRetries with
      | fail => exact .fail _
      | invalidHandle => exact .bind (h.attempt_log _) fun _ => .pure _

theorem create_matching (fips : Bool) (config : ContextConfig) :
    Attempt.Matching R (create first fips config) (create second fips config) := by
  rw [create, create]
  cases config.validate with
  | error e => exact .fail_bind _ _ _
  | ok =>
      refine .bind (obtainHandle_matching h fips config) fun handle => ?_
      refine .when (.orError _ (h.request rfl)) fun _ => ?_
      refine .when (.orError _ (h.request rfl)) fun _ => ?_
      exact .bind (h.attempt_log _) fun _ => .pure _

theorem createFromEnvironment_matching (fips : Bool) (lookup : Lookup) :
    Attempt.Matching R (createFromEnvironment first fips lookup)
      (createFromEnvironment second fips lookup) := by
  rw [createFromEnvironment, createFromEnvironment]
  cases ContextConfig.ofLookup lookup with
  | ok config => exact create_matching h fips config
  | error e => exact .fail _

omit h in
theorem fetchOnce_matching (cell : Option String) {fetch : Attempt σ String}
    {other : Attempt τ String} (hfetch : Attempt.Matching R fetch other) :
    Matching R (fetchOnce cell fetch) (fetchOnce cell other) := by
  cases cell with
  | some value => exact .pure _
  | none =>
      refine .bind hfetch fun outcome => ?_
      cases outcome with
      | ok value => exact .pure _
      | error failure => exact .pure _

theorem fetchValue_matching (context : Context) (value : EngineValue) :
    Attempt.Matching R (context.fetchValue first value) (context.fetchValue second value) :=
  .bind (h.attempt_log _) fun _ => .orError _ (h.request rfl)

theorem readVersion_matching (context : Context) :
    Matching R (context.readVersion first) (context.readVersion second) :=
  .bind_pure (fetchOnce_matching _ (fetchValue_matching h context _))

theorem readInstallPath_matching (context : Context) :
    Matching R (context.readInstallPath first) (context.readInstallPath second) :=
  .bind_pure (fetchOnce_matching _ (fetchValue_matching h context _))

theorem fipsApprovedMode_matching (context : Context) :
    Attempt.Matching R (context.fipsApprovedMode first) (context.fipsApprovedMode second) := by
  refine .bind (.orError _ (h.request rfl)) fun report => ?_
  simp only
  split
  · exact .pure _
  · exact .fail _

theorem readBuildDate_matching (cell : Option String) :
    Matching R (readBuildDate first cell) (readBuildDate second cell) :=
  fetchOnce_matching cell (.bind (h.attempt_log _) fun _ => h.request rfl)

omit h in
theorem advanceFrom_matching {fetch : Attempt σ String} {other : Attempt τ String}
    (hfetch : Attempt.Matching R fetch other) (shared : SharedValue) (i : Nat) (caller : Caller) :
    Matching R (shared.advanceFrom fetch i caller) (shared.advanceFrom other i caller) := by
  cases caller with
  | arrived =>
      rw [SharedValue.advanceFrom, SharedValue.advanceFrom]
      split <;> exact .pure _
  | waiting =>
      rw [SharedValue.advanceFrom, SharedValue.advanceFrom]
      split <;> exact .pure _
  | admitted =>
      rw [SharedValue.advanceFrom, SharedValue.advanceFrom]
      split <;> exact .pure _
  | fetching =>
      refine .bind hfetch fun outcome => ?_
      cases outcome with
      | ok value => exact .pure _
      | error failure => exact .pure _
  | keeping value => exact .pure _
  | leaving outcome => exact .pure _
  | served outcome => exact .pure _

omit h in
theorem serve_matching {fetch : Attempt σ String} {other : Attempt τ String}
    (hfetch : Attempt.Matching R fetch other) (shared : SharedValue) :
    Matching R (shared.serve fetch) (shared.serve other) := by
  refine .foldlM (fun shared i => ?_) _ shared
  rw [SharedValue.advance, SharedValue.advance]
  split
  · exact advanceFrom_matching hfetch shared i _
  · exact .pure _

theorem readVersions_matching (callers : Nat) (context : Context) :
    Matching R (context.readVersions first callers) (context.readVersions second callers) :=
  .bind_pure (serve_matching (fetchValue_matching h context _) _)

theorem readInstallPaths_matching (callers : Nat) (context : Context) :
    Matching R (context.readInstallPaths first callers)
      (context.readInstallPaths second callers) :=
  .bind_pure (serve_matching (fetchValue_matching h context _) _)

end Context

namespace Digest

theorem create_matching (context : ContextHandle) (algorithm : String) :
    Attempt.Matching R (create first context algorithm) (create second context algorithm) := by
  refine .bind (.orError _ (h.request rfl)) fun handle => ?_
  split
  · exact .pure _
  · exact .fail _

theorem update_matching (digest : Digest) (data : Bytes) :
    Attempt.Matching R (digest.update first data) (digest.update second data) :=
  .orError _ (h.request rfl)

theorem reset_matching (digest : Digest) :
    Attempt.Matching R (digest.reset first) (digest.reset second) :=
  .orError _ (h.request rfl)

theorem free_matching (digest : Digest) :
    Attempt.Matching R (digest.free first) (digest.free second) := by
  refine .bind (h.request rfl) fun reply => ?_
  cases reply with
  | ok value => exact .pure _
  | error e => exact h.attempt_log _

end Digest

namespace Signature

theorem create_matching (context : ContextHandle) (algorithm : String) :
    Attempt.Matching R (create first context algorithm : Attempt σ (Signature κ))
      (create second context algorithm) :=
  .bind (Digest.create_matching h context algorithm) fun _ => .pure _

theorem checkedKeyHandle_matching (signature : Signature κ) :
    Attempt.Matching R (signature.checkedKeyHandle first) (signature.checkedKeyHandle second) := by
  rw [checkedKeyHandle, checkedKeyHandle]
  cases signature.key with
  | none => exact .fail _
  | some key =>
      refine .bind (.lift (h.readHandle key)) fun handle => ?_
      split
      · exact .pure handle
      · exact .fail _

theorem update_matching (signature : Signature κ) (buffer : Bytes) (span : Span) :
    Attempt.Matching R (signature.update first buffer span)
      (signature.update second buffer span) := by
  rw [update, update]
  cases span.slice? buffer with
  | some data => exact Digest.update_matching h signature.digest data
  | none => exact .fail _

theorem settle_matching (signature : Signature κ) (operation : String)
    (reply : Except String (Except NativeError α)) :
    Attempt.Matching R (signature.settle first operation reply)
      (signature.settle second operation reply) := by
  refine .bind (.lift (Digest.reset_matching h signature.digest)) fun reset => ?_
  match reply, reset with
  | .error _, .ok () => exact .throw _
  | .error _, .error (.error _) => exact .bind (h.attempt_log _) fun _ => .throw _
  | .error _, .error (.panic _) => exact .throw _
  | .error _, .error .abort => exact .throw _
  | .ok (.ok value), .ok () => exact .pure value
  | .ok (.ok _), .error failure => exact .throw failure
  | .ok (.error _), .ok () => exact .fail _
  | .ok (.error _), .error (.error _) => exact .bind (h.attempt_log _) fun _ => .fail _
  | .ok (.error _), .error (.panic _) => exact .throw _
  | .ok (.error _), .error .abort => exact .throw _

theorem start_matching (signature : Signature κ) (key : κ) (plainRsa : Bool) :
    Matching R (signature.start first key plainRsa) (signature.start second key plainRsa) := by
  have hunbound : Matching R (signature.unbound.start first key plainRsa)
      (signature.unbound.start second key plainRsa) := by
    refine .bind (Digest.reset_matching h signature.digest) fun reset => ?_
    cases reset with
    | error failure => exact .bind_pure (h.giveBack key)
    | ok =>
        refine .bind (h.readHandle key) fun handle => ?_
        rw [h.keyAlgorithm]
        split
        · exact .bind_pure (h.log _)
        · exact .bind_pure (h.giveBack key)
  intro run other hruns
  rw [signature.start_eq_unbound first, signature.start_eq_unbound second]
  apply hunbound
  rw [unboundRun, unboundRun]
  cases signature.key with
  | none => exact hruns
  | some previous => exact (h.giveBack previous run other hruns).2

theorem drop_matching (signature : Signature κ) :
    Attempt.Matching R (signature.drop first) (signature.drop second) := by
  refine .bind (.lift (Digest.free_matching h signature.digest)) fun freed => ?_
  cases signature.key with
  | none => exact Matching.pure freed
  | some key => exact .bind (.lift (h.giveBack key)) fun _ => Matching.pure freed

end Signature

end Operations

/-! ### Operations that judge -/

namespace Signature

variable {first : Boundary σ κ} {second : Boundary τ κ} {R : Run σ → Run τ → Prop}
variable (h : first.Matches second R)
include h

theorem sign_matching (signature : Signature κ) :
    Attempt.Matching R (signature.sign first) (signature.sign second) :=
  .bind (checkedKeyHandle_matching h.toAgrees signature) fun _ =>
    .bind (.lift (h.judge rfl)) fun reply => settle_matching h.toAgrees signature _ reply

theorem verify_matching (signature : Signature κ) (candidate : Bytes) :
    Attempt.Matching R (signature.verify first candidate) (signature.verify second candidate) :=
  .bind (checkedKeyHandle_matching h.toAgrees signature) fun _ =>
    .bind (.lift (h.judge rfl)) fun reply => settle_matching h.toAgrees signature _ reply

end Signature

end SigningEngine
