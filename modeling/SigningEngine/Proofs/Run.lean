import SigningEngine.Signature

/-!
# Running operations

An operation over the surroundings is run from a state and a record of what happened. The equations
below say what each building block makes of a run, so that an operation is evaluated without opening
the monads it is written in.

Nothing that an operation does depends on the record. What happens in a run is therefore what
happens in a run from an empty record, behind what happened before.
-/

namespace SigningEngine

/-- Whether a call signs or verifies what a digest holds. -/
def NativeCall.judges : NativeCall → Bool
  | .sign .. => true
  | .verify .. => true
  | _ => false

/-- What a reply comes to where a report of the engine becomes an error and a panic passes. -/
def Failure.ofReply {α : Type} (error : NativeError → EngineError) :
    Except String (Except NativeError α) → Except Failure α
  | .ok (.ok value) => .ok value
  | .ok (.error e) => .error (.error (error e))
  | .error message => .error (.panic message)

/-- One panic alone does not end the process. -/
theorem Failure.ofReply_ne_abort {α : Type} (error : NativeError → EngineError)
    (reply : Except String (Except NativeError α)) :
    Failure.ofReply error reply ≠ .error .abort := by
  match reply with
  | .ok (.ok _) => simp [ofReply]
  | .ok (.error _) => simp [ofReply]
  | .error _ => simp [ofReply]

section Sequences

variable {τ ε α β : Type}

theorem run_bind (x : ExceptT ε (StateM τ) α) (f : α → ExceptT ε (StateM τ) β) (s : τ) :
    (x >>= f).run s =
      match x.run s with
      | (.ok value, t) => (f value).run t
      | (.error e, t) => (.error e, t) := by
  simp only [ExceptT.run, bind, ExceptT.bind, ExceptT.mk, StateT.bind]
  cases x s with
  | mk result t => cases result <;> rfl

theorem stateM_bind (x : StateM τ α) (f : α → StateM τ β) (s : τ) :
    (x >>= f) s = f (x s).1 (x s).2 := rfl

@[simp] theorem stateM_pure (a : α) (s : τ) : (pure a : StateM τ α) s = (a, s) := rfl

@[simp] theorem run_pure (a : α) (s : τ) :
    (pure a : ExceptT ε (StateM τ) α).run s = (.ok a, s) := rfl

@[simp] theorem run_throw (e : ε) (s : τ) :
    (throw e : ExceptT ε (StateM τ) α).run s = (.error e, s) := rfl

@[simp] theorem run_lift (x : StateM τ α) (s : τ) :
    (ExceptT.lift x : ExceptT ε (StateM τ) α).run s = (.ok (x s).1, (x s).2) := rfl

/-- What is made of a value changes no state. -/
theorem run_bind_pure (x : ExceptT ε (StateM τ) α) (f : α → β) (s : τ) :
    ((x >>= fun value => pure (f value)).run s).2 = (x.run s).2 := by
  rw [run_bind]
  cases x.run s with
  | mk result t => cases result <;> rfl

end Sequences

namespace Run

variable {σ : Type}

/-- A run and more events. -/
def logged (run : Run σ) (events : List Event) : Run σ :=
  { run with events := run.events ++ events }

theorem push_eq_logged (run : Run σ) (event : Event) :
    { run with events := run.events.push event } = run.logged [event] := by
  simp [logged]

@[simp] theorem logged_nil (run : Run σ) : run.logged [] = run := by
  simp [logged]

end Run

namespace Boundary

variable {σ κ : Type} (boundary : Boundary σ κ)

/-- The run behind a call. -/
def asked (call : NativeCall) (run : Run σ) : Run σ := (boundary.ask call run).2

/-- What the engine gives for a call. -/
def replyTo (call : NativeCall) (state : σ) : Except String call.Reply :=
  (boundary.answer call state).reply

/-- The state behind a call. -/
def behind (call : NativeCall) (state : σ) : σ := (boundary.answer call state).state

@[simp] theorem asked_state (call : NativeCall) (run : Run σ) :
    (boundary.asked call run).state = boundary.behind call run.state := rfl

theorem ask_run (call : NativeCall) (run : Run σ) :
    boundary.ask call run = (boundary.replyTo call run.state, boundary.asked call run) := rfl

theorem readHandle_run (key : κ) (run : Run σ) :
    boundary.readHandle key run =
      ((boundary.keyHandle key run.state).1,
        { run with state := (boundary.keyHandle key run.state).2 }) := rfl

end Boundary

namespace Attempt

variable {σ κ α β : Type} (boundary : Boundary σ κ)

theorem outcome_bind (x : Attempt σ α) (f : α → Attempt σ β) (run : Run σ) :
    (x >>= f).outcome run =
      match x.outcome run with
      | (.ok value, next) => (f value).outcome next
      | (.error failure, next) => (.error failure, next) := by
  simp only [outcome, run_bind]
  cases ExceptT.run x run with
  | mk result next => cases result <;> rfl

@[simp] theorem outcome_pure (a : α) (run : Run σ) :
    (pure a : Attempt σ α).outcome run = (.ok a, run) := rfl

@[simp] theorem outcome_throw (failure : Failure) (run : Run σ) :
    (throw failure : Attempt σ α).outcome run = (.error failure, run) := rfl

@[simp] theorem outcome_fail (e : EngineError) (run : Run σ) :
    (fail e : Attempt σ α).outcome run = (.error (.error e), run) := rfl

@[simp] theorem outcome_monadLift (x : Native σ α) (run : Run σ) :
    outcome (liftM x) run = (.ok (x run).1, (x run).2) := rfl

@[simp] theorem outcome_log (event : Event) (run : Run σ) :
    (log event).outcome run = (.ok (), run.logged [event]) := by
  rw [← Run.push_eq_logged]
  rfl

@[simp] theorem outcome_caught (x : Attempt σ α) (run : Run σ) :
    x.caught.outcome run = (.ok (x.outcome run).1, (x.outcome run).2) := rfl

@[simp] theorem outcome_ofOutcome (result : Except Failure α) (run : Run σ) :
    (ofOutcome result).outcome run = (result, run) := rfl

theorem outcome_request (call : NativeCall) (run : Run σ) :
    (boundary.request call).outcome run =
      ((boundary.replyTo call run.state).mapError .panic, boundary.asked call run) := by
  simp only [Boundary.request, outcome_bind, outcome_monadLift, Boundary.ask_run]
  cases boundary.replyTo call run.state <;> rfl

/-- A request whose report becomes an error, for the calls that may report one. -/
theorem outcome_orError {x : Attempt σ (Except NativeError α)}
    {reply : Except String (Except NativeError α)} {run next : Run σ}
    (error : NativeError → EngineError)
    (hx : x.outcome run = (reply.mapError .panic, next)) :
    (x.orError error).outcome run = (Failure.ofReply error reply, next) := by
  rw [orError, outcome_bind, hx]
  match reply with
  | .ok (.ok value) => rfl
  | .ok (.error e) => rfl
  | .error message => rfl

end Attempt

namespace Digest

variable {σ κ : Type} (boundary : Boundary σ κ)

def createError (algorithm : String) (e : NativeError) : EngineError :=
  .init ("failed to create " ++ algorithm ++ " digest: " ++ e.message)

def updateError (digest : Digest) (e : NativeError) : EngineError :=
  .operation (digest.algorithm ++ " digest update failed: " ++ e.message)

def resetError (digest : Digest) (e : NativeError) : EngineError :=
  .operation (digest.algorithm ++ " digest reset failed: " ++ e.message)

theorem outcome_update (digest : Digest) (data : Bytes) (run : Run σ) :
    (digest.update boundary data).outcome run =
      (Failure.ofReply digest.updateError
          (boundary.replyTo (.digestUpdate digest.context digest.handle data) run.state),
        boundary.asked (.digestUpdate digest.context digest.handle data) run) :=
  Attempt.outcome_orError _ (Attempt.outcome_request boundary _ run)

theorem outcome_reset (digest : Digest) (run : Run σ) :
    (digest.reset boundary).outcome run =
      (Failure.ofReply digest.resetError
          (boundary.replyTo (.digestReset digest.context digest.handle) run.state),
        boundary.asked (.digestReset digest.context digest.handle) run) :=
  Attempt.outcome_orError _ (Attempt.outcome_request boundary _ run)

theorem outcome_create (context : ContextHandle) (algorithm : String) (run : Run σ) :
    (Digest.create boundary context algorithm).outcome run =
      (match (boundary.replyTo (.digestCreate context algorithm) run.state :
          Except String (Except NativeError DigestHandle)) with
        | .ok (.ok handle) =>
          if handle.isValid then .ok { context, handle, algorithm }
          else .error (.error (.init
            ("engine returned an invalid handle for " ++ algorithm ++ " digest")))
        | .ok (.error e) => .error (.error (createError algorithm e))
        | .error message => .error (.panic message),
        boundary.asked (.digestCreate context algorithm) run) := by
  have hrequest := Attempt.outcome_orError (createError algorithm)
    (Attempt.outcome_request boundary (.digestCreate context algorithm) run)
  show (Attempt.orError _ (createError algorithm) >>= _).outcome run = _
  rw [Attempt.outcome_bind, hrequest]
  match boundary.replyTo (.digestCreate context algorithm) run.state with
  | .ok (.ok handle) => simp only [Failure.ofReply]; split <;> rfl
  | .ok (.error e) => rfl
  | .error message => rfl

/-- A digest that is created has the valid handle that the engine gave. -/
theorem create_eq_ok {context : ContextHandle} {algorithm : String} {run next : Run σ}
    {digest : Digest}
    (h : (Digest.create boundary context algorithm).outcome run = (.ok digest, next)) :
    (boundary.replyTo (.digestCreate context algorithm) run.state :
        Except String (Except NativeError DigestHandle)) = .ok (.ok digest.handle) ∧
      digest.handle.isValid = true ∧ digest = { context, handle := digest.handle, algorithm } ∧
      next = boundary.asked (.digestCreate context algorithm) run := by
  rw [outcome_create, Prod.mk.injEq] at h
  obtain ⟨hdigest, hnext⟩ := h
  match boundary.replyTo (.digestCreate context algorithm) run.state, hdigest with
  | .ok (.ok handle), hdigest =>
      simp only at hdigest
      split at hdigest
      next hvalid =>
        cases hdigest
        exact ⟨rfl, hvalid, rfl, hnext.symm⟩
      next => cases hdigest
  | .ok (.error e), hdigest => cases hdigest
  | .error message, hdigest => cases hdigest

/-- How freeing a digest ends: a report of the engine goes no further. -/
def freed : Except String (Except NativeError Unit) → Except Failure Unit
  | .ok _ => .ok ()
  | .error message => .error (.panic message)

/-- What is logged about a digest that the engine did not free. -/
def freeWarnings (digest : Digest) : Except String (Except NativeError Unit) → List Event
  | .ok (.error e) => [.digestNotFreed digest.algorithm digest.handle e]
  | _ => []

def freeCall (digest : Digest) : NativeCall := .digestFree digest.context digest.handle

theorem outcome_free (digest : Digest) (run : Run σ) :
    (digest.free boundary).outcome run =
      (freed (boundary.replyTo digest.freeCall run.state),
        (boundary.asked digest.freeCall run).logged
          (digest.freeWarnings (boundary.replyTo digest.freeCall run.state))) := by
  rw [free, Attempt.outcome_bind, Attempt.outcome_request]
  show _ = (freed (boundary.replyTo (.digestFree digest.context digest.handle) run.state),
    (boundary.asked (.digestFree digest.context digest.handle) run).logged _)
  generalize boundary.asked (.digestFree digest.context digest.handle) run = next
  match boundary.replyTo (.digestFree digest.context digest.handle) run.state with
  | .ok (.ok ()) => exact Prod.ext rfl next.logged_nil.symm
  | .ok (.error e) => exact Attempt.outcome_log _ next
  | .error message => exact Prod.ext rfl next.logged_nil.symm

end Digest

end SigningEngine
