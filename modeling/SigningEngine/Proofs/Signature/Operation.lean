import SigningEngine.Proofs.Run

/-!
# Operations on one signature

What is done to a signature between its creation and its drop is a list of operations. An operation
ends with an outcome and has made calls; what it did is a turn. A turn that ends the process is the
last one. Feeding a whole buffer is feeding the slice that is all of it, and looking at what a
signature holds is no operation.

Each operation has one equation that says how it ends, which calls it makes, and in which state of
the surroundings each of them is answered.
-/

namespace SigningEngine

namespace Signature

variable {σ κ α : Type} (boundary : Boundary σ κ)

def notInitialized : EngineError := .illegalState "Signature not initialized"

def badHandle : EngineError := .operation "Digest Identifier or PKey Identifier is not valid"

/-- How an operation ends by the reply to its call and the reset behind it. -/
def settled (operation : String) (reply : Except String (Except NativeError α))
    (reset : Except Failure Unit) : Except Failure α :=
  match reply, reset with
  | .error message, .ok () => .error (.panic message)
  | .error message, .error (.error _) => .error (.panic message)
  | .error _, .error _ => .error .abort
  | .ok (.ok value), .ok () => .ok value
  | .ok (.ok _), .error failure => .error failure
  | .ok (.error e), .ok () => .error (.error (.operation (operation ++ " failed: " ++ e.message)))
  | .ok (.error e), .error (.error _) =>
    .error (.error (.operation (operation ++ " failed: " ++ e.message)))
  | .ok (.error _), .error failure => .error failure

/-- What is logged about a failed reset that is not the failure of the operation. -/
def warnings (operation : String) (reply : Except String (Except NativeError α))
    (reset : Except Failure Unit) : List Event :=
  match reply, reset with
  | .error _, .error (.error e) => [.resetFailedUnwinding e]
  | .ok (.error _), .error (.error e) => [.resetFailedAfterFailure operation e]
  | _, _ => []

/-- The call that resets the digest. -/
def resetCall (signature : Signature κ) : NativeCall :=
  .digestReset signature.digest.context signature.digest.handle

/-- How a reset of the digest ends. -/
def resetOutcome (signature : Signature κ) (state : σ) : Except Failure Unit :=
  Failure.ofReply signature.digest.resetError (boundary.replyTo signature.resetCall state)

/-- The run behind a reset of the digest. -/
def resetRun (signature : Signature κ) (run : Run σ) : Run σ :=
  boundary.asked signature.resetCall run

theorem outcome_reset (signature : Signature κ) (run : Run σ) :
    (signature.digest.reset boundary).outcome run =
      (signature.resetOutcome boundary run.state, signature.resetRun boundary run) :=
  signature.digest.outcome_reset boundary run

theorem outcome_settle (signature : Signature κ) (operation : String)
    (reply : Except String (Except NativeError α)) (run : Run σ) :
    (signature.settle boundary operation reply).outcome run =
      (settled operation reply (signature.resetOutcome boundary run.state),
        (signature.resetRun boundary run).logged
          (warnings operation reply (signature.resetOutcome boundary run.state))) := by
  rw [settle, Attempt.outcome_bind, Attempt.outcome_caught, outcome_reset]
  generalize signature.resetOutcome boundary run.state = reset
  generalize signature.resetRun boundary run = next
  match reply, reset with
  | .error _, .ok () => simp [settled, warnings]
  | .error _, .error (.error _) => simp [settled, warnings, Attempt.outcome_bind]
  | .error _, .error (.panic _) => simp [settled, warnings]
  | .error _, .error .abort => simp [settled, warnings]
  | .ok (.ok _), .ok () => simp [settled, warnings]
  | .ok (.ok _), .error _ => simp [settled, warnings]
  | .ok (.error _), .ok () => simp [settled, warnings]
  | .ok (.error _), .error (.error _) => simp [settled, warnings, Attempt.outcome_bind]
  | .ok (.error _), .error (.panic _) => simp [settled, warnings]
  | .ok (.error _), .error .abort => simp [settled, warnings]

/-- The run behind a reading of the handle of a key. -/
def readRun (key : κ) (run : Run σ) : Run σ :=
  { run with state := (boundary.keyHandle key run.state).2 }

/-- Whether a sign or a verify goes as far as to call the engine: a key is bound, and neither handle
is the invalid one. -/
def reaches (signature : Signature κ) (state : σ) : Bool :=
  match signature.key with
  | none => false
  | some key => signature.digest.handle.isValid && (boundary.keyHandle key state).1.isValid

/-- The refusal of a sign or a verify that does not reach the engine. -/
def refusal (signature : Signature κ) : EngineError :=
  if signature.isInitialized then badHandle else notInitialized

/-- The run behind the one reading of the bound key, if a key is bound. -/
def checkedRun (signature : Signature κ) (run : Run σ) : Run σ :=
  match signature.key with
  | none => run
  | some key => readRun boundary key run

/-- The handle that the bound key shows. -/
def shownHandle (signature : Signature κ) (state : σ) : KeyHandle :=
  match signature.key with
  | none => .invalid
  | some key => (boundary.keyHandle key state).1

theorem outcome_checkedKeyHandle (signature : Signature κ) (run : Run σ) :
    (signature.checkedKeyHandle boundary).outcome run =
      (if signature.reaches boundary run.state
        then .ok (signature.shownHandle boundary run.state)
        else .error (.error signature.refusal),
        signature.checkedRun boundary run) := by
  rw [checkedKeyHandle, reaches, shownHandle, refusal, checkedRun, isInitialized]
  cases signature.key with
  | none => rfl
  | some key =>
      simp only [Attempt.outcome_bind, Attempt.outcome_monadLift, Boundary.readHandle_run]
      split <;> rfl

/-- The call that signs. -/
def signCall (signature : Signature κ) (key : KeyHandle) : NativeCall :=
  .sign signature.digest.context signature.digest.handle key signature.plainRsa

/-- The call that verifies. -/
def verifyCall (signature : Signature κ) (candidate : Bytes) (key : KeyHandle) : NativeCall :=
  .verify signature.digest.context signature.digest.handle key candidate

/-- A sign that reaches the engine makes its call, and then resets the digest. -/
theorem outcome_sign (signature : Signature κ) (run : Run σ) :
    (signature.sign boundary).outcome run =
      if signature.reaches boundary run.state then
        let call := signature.signCall (signature.shownHandle boundary run.state)
        let checked := signature.checkedRun boundary run
        let asked := boundary.asked call checked
        let reply : Except String (Except NativeError Bytes) := boundary.replyTo call checked.state
        let reset := signature.resetOutcome boundary asked.state
        (settled "sign" reply reset,
          (signature.resetRun boundary asked).logged (warnings "sign" reply reset))
      else
        (.error (.error signature.refusal), signature.checkedRun boundary run) := by
  rw [sign, Attempt.outcome_bind, outcome_checkedKeyHandle]
  by_cases h : signature.reaches boundary run.state = true
  · simp only [h, if_true, Attempt.outcome_bind, Attempt.outcome_monadLift, Boundary.ask_run,
      outcome_settle]
    rfl
  · simp only [h]
    rfl

theorem outcome_verify (signature : Signature κ) (candidate : Bytes) (run : Run σ) :
    (signature.verify boundary candidate).outcome run =
      if signature.reaches boundary run.state then
        let call := signature.verifyCall candidate (signature.shownHandle boundary run.state)
        let checked := signature.checkedRun boundary run
        let asked := boundary.asked call checked
        let reply : Except String (Except NativeError Bool) := boundary.replyTo call checked.state
        let reset := signature.resetOutcome boundary asked.state
        (settled "verify" reply reset,
          (signature.resetRun boundary asked).logged (warnings "verify" reply reset))
      else
        (.error (.error signature.refusal), signature.checkedRun boundary run) := by
  rw [verify, Attempt.outcome_bind, outcome_checkedKeyHandle]
  by_cases h : signature.reaches boundary run.state = true
  · simp only [h, if_true, Attempt.outcome_bind, Attempt.outcome_monadLift, Boundary.ask_run,
      outcome_settle]
    rfl
  · simp only [h]
    rfl

/-- The refusal of an update by a slice that the buffer does not have. -/
def badSlice (buffer : Bytes) (span : Span) : EngineError :=
  .invalidArgument
    ("Bad input parameters to Signature update: offset " ++ toString span.offset.toNat ++
      ", length " ++ toString span.length.toNat ++
      ", buffer length " ++ toString buffer.length)

theorem outcome_update (signature : Signature κ) (buffer : Bytes) (span : Span) (run : Run σ) :
    (signature.update boundary buffer span).outcome run =
      if span.Within buffer then
        (signature.digest.update boundary (span.cut buffer)).outcome run
      else (.error (.error (badSlice buffer span)), run) := by
  rw [update, Span.slice?_eq]
  by_cases hwithin : span.Within buffer
  · rw [if_pos hwithin, if_pos hwithin]
  · rw [if_neg hwithin, if_neg hwithin]
    rfl

/-- The run behind the return of the reference to the bound key, if a key is bound. -/
def unboundRun (signature : Signature κ) (run : Run σ) : Run σ :=
  match signature.key with
  | none => run
  | some key => { run with state := boundary.release key run.state }

/-- The signature without a key. -/
def unbound (signature : Signature κ) : Signature κ :=
  { signature with key := none, plainRsa := false }

/-- What was bound before is given back first, and has no other influence. -/
theorem start_eq_unbound (signature : Signature κ) (key : κ) (plainRsa : Bool) (run : Run σ) :
    signature.start boundary key plainRsa run =
      signature.unbound.start boundary key plainRsa (signature.unboundRun boundary run) := by
  rw [start, start, unboundRun]
  cases signature.key <;> rfl

theorem start_run (signature : Signature κ) (key : κ) (plainRsa : Bool) (run : Run σ) :
    signature.start boundary key plainRsa run =
      let free := signature.unboundRun boundary run
      let reset := signature.resetRun boundary free
      match signature.resetOutcome boundary free.state with
      | .error failure =>
        ((.error failure, signature.unbound),
          { reset with state := boundary.release key reset.state })
      | .ok () =>
        let read := readRun boundary key reset
        if (boundary.keyHandle key reset.state).1.isValid then
          ((.ok (), { signature with key := some key, plainRsa }),
            read.logged [.signatureInitialized (boundary.keyAlgorithm key)
              signature.digest.algorithm plainRsa])
        else
          ((.error (.error (.invalidKey
              (boundary.keyAlgorithm key ++ " key has no native identifier"))), signature.unbound),
            { read with state := boundary.release key read.state }) := by
  rw [start_eq_unbound]
  generalize signature.unboundRun boundary run = free
  have hreset : (signature.unbound.digest.reset boundary).outcome free =
      (signature.resetOutcome boundary free.state, signature.resetRun boundary free) :=
    signature.digest.outcome_reset boundary free
  simp only [start, unbound, stateM_bind] at hreset ⊢
  rw [hreset]
  cases signature.resetOutcome boundary free.state with
  | error failure => rfl
  | ok =>
      simp only [stateM_bind]
      have hread : (boundary.readHandle key (signature.resetRun boundary free)).1 =
          (boundary.keyHandle key (signature.resetRun boundary free).state).1 := rfl
      by_cases hvalid :
          (boundary.keyHandle key (signature.resetRun boundary free).state).1.isValid = true
      · rw [if_pos (hread ▸ hvalid), if_pos hvalid, ← Run.push_eq_logged]
        rfl
      · rw [if_neg (hread ▸ hvalid), if_neg hvalid]
        rfl

/-! ### Turns -/

/-- What is done to a signature. -/
inductive Operation (κ : Type) where
  | start (key : κ) (plainRsa : Bool)
  | update (buffer : Bytes) (span : Span)
  | sign
  | verify (candidate : Bytes)
  deriving DecidableEq, Repr

namespace Operation

abbrev Value : Operation κ → Type
  | start _ _ => Unit
  | update _ _ => Unit
  | sign => Bytes
  | verify _ => Bool

/-- Whether an operation binds a key. -/
def isStart : Operation κ → Bool
  | start _ _ => true
  | _ => false

end Operation

/-- What an operation on a signature did. -/
structure Turn (κ : Type) where
  operation : Operation κ
  outcome : Except Failure operation.Value
  calls : List NativeCall

/-- Whether the process ended in the turn. -/
def Turn.aborts (turn : Turn κ) : Bool :=
  match turn.outcome with
  | .error .abort => true
  | _ => false

/-- Carries out one operation. -/
def perform (signature : Signature κ) :
    (operation : Operation κ) → Native σ (Except Failure operation.Value × Signature κ)
  | .start key plainRsa => signature.start boundary key plainRsa
  | .update buffer span => do
    return (← (signature.update boundary buffer span).outcome, signature)
  | .sign => do return (← (signature.sign boundary).outcome, signature)
  | .verify candidate => do return (← (signature.verify boundary candidate).outcome, signature)

/-- The turn of one operation, with the signature and the state behind it. -/
def turn (signature : Signature κ) (operation : Operation κ) (state : σ) :
    Turn κ × Signature κ × σ :=
  let ((outcome, signature), run) := signature.perform boundary operation { state }
  ({ operation, outcome, calls := run.calls.toList }, signature, run.state)

/-- The state behind the one reading of the bound key. -/
def checkedState (signature : Signature κ) (state : σ) : σ :=
  (signature.checkedRun boundary { state }).state

/-- The state behind the return of the reference to the bound key. -/
def unboundState (signature : Signature κ) (state : σ) : σ :=
  (signature.unboundRun boundary { state }).state

theorem checkedRun_eq (signature : Signature κ) (run : Run σ) :
    signature.checkedRun boundary run =
      { run with state := signature.checkedState boundary run.state } := by
  rw [checkedState, checkedRun, checkedRun]
  cases signature.key <;> rfl

theorem unboundRun_eq (signature : Signature κ) (run : Run σ) :
    signature.unboundRun boundary run =
      { run with state := signature.unboundState boundary run.state } := by
  rw [unboundState, unboundRun, unboundRun]
  cases signature.key <;> rfl

theorem turn_update (signature : Signature κ) (buffer : Bytes) (span : Span) (state : σ) :
    signature.turn boundary (.update buffer span) state =
      if span.Within buffer then
        let call :=
          .digestUpdate signature.digest.context signature.digest.handle (span.cut buffer)
        ({ operation := .update buffer span
           outcome := Failure.ofReply signature.digest.updateError (boundary.replyTo call state)
           calls := [call] },
          signature, boundary.behind call state)
      else
        ({ operation := .update buffer span
           outcome := .error (.error (badSlice buffer span))
           calls := [] },
          signature, state) := by
  simp only [turn, perform, stateM_bind, stateM_pure, outcome_update, Digest.outcome_update]
  split <;> rfl

theorem turn_sign (signature : Signature κ) (state : σ) :
    signature.turn boundary .sign state =
      let checked := signature.checkedState boundary state
      if signature.reaches boundary state then
        let call := signature.signCall (signature.shownHandle boundary state)
        let asked := boundary.behind call checked
        ({ operation := .sign
           outcome :=
             settled "sign" (boundary.replyTo call checked) (signature.resetOutcome boundary asked)
           calls := [call, signature.resetCall] },
          signature, boundary.behind signature.resetCall asked)
      else
        ({ operation := .sign, outcome := .error (.error signature.refusal), calls := [] },
          signature, checked) := by
  simp only [turn, perform, stateM_bind, stateM_pure, outcome_sign, checkedRun_eq]
  split <;> rfl

theorem outcome_sign_state (signature : Signature κ) (run : Run σ) :
    ((signature.sign boundary).outcome run).2.state =
      (signature.turn boundary .sign run.state).2.2 := by
  rw [outcome_sign, turn_sign, checkedRun_eq]
  simp only
  split <;> rfl

theorem turn_verify (signature : Signature κ) (candidate : Bytes) (state : σ) :
    signature.turn boundary (.verify candidate) state =
      let checked := signature.checkedState boundary state
      if signature.reaches boundary state then
        let call := signature.verifyCall candidate (signature.shownHandle boundary state)
        let asked := boundary.behind call checked
        ({ operation := .verify candidate
           outcome := settled "verify" (boundary.replyTo call checked)
             (signature.resetOutcome boundary asked)
           calls := [call, signature.resetCall] },
          signature, boundary.behind signature.resetCall asked)
      else
        ({ operation := .verify candidate, outcome := .error (.error signature.refusal)
           calls := [] },
          signature, checked) := by
  simp only [turn, perform, stateM_bind, stateM_pure, outcome_verify, checkedRun_eq]
  split <;> rfl

theorem turn_start (signature : Signature κ) (key : κ) (plainRsa : Bool) (state : σ) :
    signature.turn boundary (.start key plainRsa) state =
      let free := signature.unboundState boundary state
      let reset := boundary.behind signature.resetCall free
      let turn (outcome : Except Failure Unit) : Turn κ :=
        { operation := .start key plainRsa, outcome, calls := [signature.resetCall] }
      match signature.resetOutcome boundary free with
      | .error failure =>
        (turn (.error failure), signature.unbound, boundary.release key reset)
      | .ok () =>
        let read := (boundary.keyHandle key reset).2
        if (boundary.keyHandle key reset).1.isValid then
          (turn (.ok ()), { signature with key := some key, plainRsa }, read)
        else
          (turn (.error (.error (.invalidKey
              (boundary.keyAlgorithm key ++ " key has no native identifier")))),
            signature.unbound, boundary.release key read) := by
  simp only [turn, perform, start_run, unboundRun_eq]
  cases signature.resetOutcome boundary (signature.unboundState boundary state) with
  | error failure => rfl
  | ok =>
      have hstate : (signature.resetRun boundary
          { state := signature.unboundState boundary state }).state =
            boundary.behind signature.resetCall (signature.unboundState boundary state) := rfl
      by_cases hvalid : (boundary.keyHandle key
          (boundary.behind signature.resetCall (signature.unboundState boundary state))).1.isValid
      · rw [if_pos (hstate ▸ hvalid), if_pos hvalid]
        rfl
      · rw [if_neg (hstate ▸ hvalid), if_neg hvalid]
        rfl

/-- Carries out operations one after the other, as long as the process does not end. -/
def turns (signature : Signature κ) :
    List (Operation κ) → σ → List (Turn κ) × Signature κ × σ
  | [], state => ([], signature, state)
  | operation :: rest, state =>
    let (first, signature, state) := signature.turn boundary operation state
    if first.aborts then ([first], signature, state)
    else
      let (others, signature, state) := signature.turns rest state
      (first :: others, signature, state)

theorem turn_operation (signature : Signature κ) (operation : Operation κ) (state : σ) :
    (signature.turn boundary operation state).1.operation = operation := rfl

/-- No operation changes which digest a signature feeds. -/
theorem turn_digest (signature : Signature κ) (operation : Operation κ) (state : σ) :
    (signature.turn boundary operation state).2.1.digest = signature.digest := by
  cases operation with
  | start key plainRsa =>
      rw [turn_start]
      simp only
      split
      · rfl
      · split <;> rfl
  | update buffer span =>
      rw [turn_update]
      split <;> rfl
  | sign =>
      rw [turn_sign]
      simp only
      split <;> rfl
  | verify candidate =>
      rw [turn_verify]
      simp only
      split <;> rfl

/-- Only an operation that binds changes what is bound. -/
theorem turn_signature (signature : Signature κ) {operation : Operation κ}
    (h : operation.isStart = false) (state : σ) :
    (signature.turn boundary operation state).2.1 = signature := by
  cases operation with
  | start key plainRsa => cases h
  | update buffer span =>
      rw [turn_update]
      split <;> rfl
  | sign =>
      rw [turn_sign]
      simp only
      split <;> rfl
  | verify candidate =>
      rw [turn_verify]
      simp only
      split <;> rfl

@[simp] theorem turns_nil (signature : Signature κ) (state : σ) :
    signature.turns boundary [] state = ([], signature, state) := rfl

theorem turns_cons_of_aborts (signature : Signature κ) {operation : Operation κ}
    (rest : List (Operation κ)) {state : σ}
    (h : (signature.turn boundary operation state).1.aborts = true) :
    signature.turns boundary (operation :: rest) state =
      ([(signature.turn boundary operation state).1],
        (signature.turn boundary operation state).2) := by
  simp [turns, h]

theorem turns_cons (signature : Signature κ) {operation : Operation κ}
    (rest : List (Operation κ)) {state : σ}
    (h : (signature.turn boundary operation state).1.aborts = false) :
    signature.turns boundary (operation :: rest) state =
      let first := signature.turn boundary operation state
      let others := first.2.1.turns boundary rest first.2.2
      (first.1 :: others.1, others.2) := by
  simp [turns, h]

theorem turns_single (signature : Signature κ) (operation : Operation κ) (state : σ) :
    signature.turns boundary [operation] state =
      ([(signature.turn boundary operation state).1],
        (signature.turn boundary operation state).2) := by
  cases haborts : (signature.turn boundary operation state).1.aborts with
  | true => exact turns_cons_of_aborts boundary signature [] haborts
  | false => exact turns_cons boundary signature [] haborts

theorem turns_digest (operations : List (Operation κ)) (signature : Signature κ) (state : σ) :
    (signature.turns boundary operations state).2.1.digest = signature.digest := by
  induction operations generalizing signature state with
  | nil => rfl
  | cons operation rest ih =>
      have hfirst := turn_digest boundary signature operation state
      cases haborts : (signature.turn boundary operation state).1.aborts with
      | true =>
          rw [turns_cons_of_aborts boundary signature rest haborts]
          exact hfirst
      | false =>
          rw [turns_cons boundary signature rest haborts]
          exact (ih _ _).trans hfirst

theorem signs_succ (signature : Signature κ) (callers : Nat) (run : Run σ) :
    (signature.signs boundary (callers + 1) run).2 =
      (signature.signs boundary callers ((signature.sign boundary).outcome run).2).2 := by
  rw [signs, List.replicate_succ, List.mapM_cons]
  rfl

/-- Several callers who sign take one turn each. -/
theorem turns_signs (signature : Signature κ) (callers : Nat) (run : Run σ)
    (hruns : ∀ turn ∈ (signature.turns boundary (List.replicate callers .sign) run.state).1,
      turn.aborts = false) :
    (signature.turns boundary (List.replicate callers .sign) run.state).2 =
      (signature, (signature.signs boundary callers run).2.state) := by
  induction callers generalizing run with
  | zero => rfl
  | succ callers ih =>
      have hfirst : (signature.turn boundary .sign run.state).2 =
          (signature, ((signature.sign boundary).outcome run).2.state) :=
        Prod.ext (signature.turn_signature boundary rfl run.state)
          (outcome_sign_state boundary signature run).symm
      have hcontinues : (signature.turn boundary .sign run.state).1.aborts = false := by
        cases haborts : (signature.turn boundary .sign run.state).1.aborts with
        | false => rfl
        | true =>
            rw [List.replicate_succ, turns_cons_of_aborts boundary signature _ haborts] at hruns
            exact haborts.symm.trans (hruns _ List.mem_cons_self)
      rw [List.replicate_succ, turns_cons boundary signature _ hcontinues] at hruns ⊢
      simp only [hfirst] at hruns ⊢
      rw [signs_succ]
      exact ih _ fun turn hturn => hruns turn (List.mem_cons_of_mem _ hturn)

/-! ### Creation and drop -/

theorem outcome_create (context : ContextHandle) (algorithm : String) (run : Run σ) :
    (create boundary context algorithm : Attempt σ (Signature κ)).outcome run =
      (((Digest.create boundary context algorithm).outcome run).1.map fun digest => { digest },
        boundary.asked (.digestCreate context algorithm) run) := by
  rw [create, Attempt.outcome_bind, Digest.outcome_create]
  split
  · rename_i h
    rw [(Prod.mk.inj h).1, (Prod.mk.inj h).2]
    rfl
  · rename_i h
    rw [(Prod.mk.inj h).1, (Prod.mk.inj h).2]
    rfl

/-- A signature that is created feeds a digest that is created, and nothing is bound to it. -/
theorem create_eq_ok {context : ContextHandle} {algorithm : String} {run next : Run σ}
    {signature : Signature κ}
    (h : (create boundary context algorithm : Attempt σ (Signature κ)).outcome run =
      (.ok signature, next)) :
    (Digest.create boundary context algorithm).outcome run = (.ok signature.digest, next) ∧
      signature = { digest := signature.digest } := by
  rw [create, Attempt.outcome_bind] at h
  split at h
  next digest _ hdigest =>
    cases h
    exact ⟨hdigest, rfl⟩
  next => cases h

theorem outcome_drop (signature : Signature κ) (run : Run σ) :
    (signature.drop boundary).outcome run =
      let freed := (signature.digest.free boundary).outcome run
      (freed.1, signature.unboundRun boundary freed.2) := by
  rw [drop, Attempt.outcome_bind, Attempt.outcome_caught]
  simp only [unboundRun]
  cases signature.key <;> rfl

end Signature

end SigningEngine
