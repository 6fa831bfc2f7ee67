import SigningEngine.Proofs.Context.Creation
import SigningEngine.Proofs.Signature.Operation

/-!
# What crosses the boundary

The surroundings can be observed. Each call is then recorded with the reply to it, and each reading
of a key with the handle that it showed, in the order in which they come. Nothing is answered
differently. A record of calls alone would not tell which reading a handle comes from.
-/

namespace SigningEngine

namespace NativeCall

/-- The handle of a context that a call carries. -/
def context? : NativeCall → Option ContextHandle
  | createContext _ => none
  | validateLocation context => some context
  | validateVersion context => some context
  | scalarValue context _ => some context
  | libraryBuildDate => none
  | digestCreate context _ => some context
  | digestUpdate context _ _ => some context
  | digestReset context _ => some context
  | digestFree context _ => some context
  | sign context _ _ _ => some context
  | verify context _ _ _ => some context

/-- The handle of a digest that a call carries. -/
def digest? : NativeCall → Option DigestHandle
  | digestUpdate _ digest _ => some digest
  | digestReset _ digest => some digest
  | digestFree _ digest => some digest
  | sign _ digest _ _ => some digest
  | verify _ digest _ _ => some digest
  | _ => none

/-- The handle of a key that a call carries. -/
def key? : NativeCall → Option KeyHandle
  | sign _ _ key _ => some key
  | verify _ _ key _ => some key
  | _ => none

end NativeCall

/-- Something that crosses the boundary. -/
inductive Crossing (κ : Type) where
  | read (key : κ) (handle : KeyHandle)
  | asked (call : NativeCall) (reply : Except String call.Reply)

namespace Crossing

variable {κ : Type}

/-- The call that was made, if it was one. -/
def call? : Crossing κ → Option NativeCall
  | read _ _ => none
  | asked call _ => some call

/-- The calls among what crossed. -/
def calls (crossings : List (Crossing κ)) : List NativeCall := crossings.filterMap call?

@[simp] theorem calls_nil : calls ([] : List (Crossing κ)) = [] := rfl

@[simp] theorem calls_append (first second : List (Crossing κ)) :
    calls (first ++ second) = calls first ++ calls second := List.filterMap_append

@[simp] theorem calls_asked (call : NativeCall) (reply : Except String call.Reply)
    (rest : List (Crossing κ)) : calls (.asked call reply :: rest) = call :: calls rest := rfl

@[simp] theorem calls_read (key : κ) (handle : KeyHandle) (rest : List (Crossing κ)) :
    calls (.read key handle :: rest) = calls rest := rfl

end Crossing

namespace Boundary

variable {σ κ : Type} (boundary : Boundary σ κ)

/-- The same surroundings, observed. -/
def observed : Boundary (σ × List (Crossing κ)) κ where
  answer call state :=
    { reply := boundary.replyTo call state.1
      events := (boundary.answer call state.1).events
      state := (boundary.behind call state.1,
        state.2 ++ [.asked call (boundary.replyTo call state.1)]) }
  keyHandle key state :=
    ((boundary.keyHandle key state.1).1, ((boundary.keyHandle key state.1).2,
      state.2 ++ [.read key (boundary.keyHandle key state.1).1]))
  keyAlgorithm := boundary.keyAlgorithm
  release key state := (boundary.release key state.1, state.2)

variable (state : σ × List (Crossing κ))

@[simp] theorem replyTo_observed (call : NativeCall) :
    boundary.observed.replyTo call state = boundary.replyTo call state.1 := rfl

@[simp] theorem behind_observed (call : NativeCall) :
    boundary.observed.behind call state =
      (boundary.behind call state.1,
        state.2 ++ [.asked call (boundary.replyTo call state.1)]) := rfl

@[simp] theorem events_observed (call : NativeCall) :
    (boundary.observed.answer call state).events = (boundary.answer call state.1).events := rfl

@[simp] theorem keyHandle_observed (key : κ) :
    boundary.observed.keyHandle key state =
      ((boundary.keyHandle key state.1).1, ((boundary.keyHandle key state.1).2,
        state.2 ++ [.read key (boundary.keyHandle key state.1).1])) := rfl

@[simp] theorem release_observed (key : κ) :
    boundary.observed.release key state = (boundary.release key state.1, state.2) := rfl

end Boundary

namespace Signature

variable {σ κ : Type} (boundary : Boundary σ κ) (signature : Signature κ)
variable (state : σ × List (Crossing κ))

@[simp] theorem resetOutcome_observed :
    signature.resetOutcome boundary.observed state = signature.resetOutcome boundary state.1 := rfl

@[simp] theorem reaches_observed :
    signature.reaches boundary.observed state = signature.reaches boundary state.1 := rfl

@[simp] theorem shownHandle_observed :
    signature.shownHandle boundary.observed state = signature.shownHandle boundary state.1 := rfl

/-- The one reading of the bound key, if a key is bound. -/
def reading (state : σ) : List (Crossing κ) :=
  signature.key.toList.map fun key => .read key (boundary.keyHandle key state).1

@[simp] theorem calls_reading (state : σ) :
    Crossing.calls (signature.reading boundary state) = [] := by
  rw [reading]
  cases signature.key <;> rfl

@[simp] theorem checkedState_observed :
    signature.checkedState boundary.observed state =
      (signature.checkedState boundary state.1, state.2 ++ signature.reading boundary state.1) := by
  simp only [checkedState, checkedRun, reading]
  cases signature.key with
  | none => simp
  | some key => rfl

@[simp] theorem unboundState_observed :
    signature.unboundState boundary.observed state =
      (signature.unboundState boundary state.1, state.2) := by
  simp only [unboundState, unboundRun]
  cases signature.key <;> rfl

end Signature

namespace Context

variable {σ κ : Type} (boundary : Boundary σ κ)

/-- The attempts at creating a context are all that crosses while they are made. -/
theorem calls_stateAfter (fips : Bool) (made : ℕ) (state : σ × List (Crossing κ)) :
    Crossing.calls (stateAfter boundary.observed fips made state).2 =
      Crossing.calls state.2 ++ List.replicate made (.createContext fips) := by
  induction made generalizing state with
  | zero => exact (List.append_nil _).symm
  | succ made ih =>
      have hfirst := ih (boundary.observed.behind (.createContext fips) state)
      simpa [stateAfter, List.replicate_succ] using hfirst

/-- So are the validations that are told. -/
theorem calls_validated (handle : ContextHandle) (validations : List Validation)
    (state : σ × List (Crossing κ)) :
    let checks := validated boundary.observed handle validations state
    Crossing.calls checks.2.2.2 = Crossing.calls state.2 ++ checks.2.1 := by
  induction validations generalizing state with
  | nil => exact (List.append_nil _).symm
  | cons validation rest ih =>
      simp only [validated]
      split
      · simp
      · have hrest := ih (boundary.observed.behind (validation.request handle) state)
        simp only at hrest ⊢
        rw [hrest]
        simp

/-- All that crosses while a context is created are the calls that are told. -/
theorem calls_creation (fips : Bool) (config : ContextConfig) (state : σ × List (Crossing κ)) :
    let told := creation boundary.observed fips config state
    Crossing.calls told.state.2 = Crossing.calls state.2 ++ told.calls := by
  simp only [creation]
  split
  · simp
  · split
    · exact calls_stateAfter boundary fips _ state
    next handle _ =>
      have hchecks := calls_validated boundary handle (validations config)
        (stateAfter boundary.observed fips
          (attemptsMade boundary.observed fips (attemptsAllowed fips config) state) state)
      simp only at hchecks ⊢
      rw [hchecks, calls_stateAfter, List.append_assoc]

/-! ### Creation without the record -/

@[simp] theorem stateAfter_observed (fips : Bool) (made : ℕ) (state : σ × List (Crossing κ)) :
    (stateAfter boundary.observed fips made state).1 = stateAfter boundary fips made state.1 := by
  induction made generalizing state with
  | zero => rfl
  | succ made ih => exact ih (boundary.observed.behind (.createContext fips) state)

@[simp] theorem answerAfter_observed (fips : Bool) (made : ℕ) (state : σ × List (Crossing κ)) :
    answerAfter boundary.observed fips made state = answerAfter boundary fips made state.1 := by
  rw [answerAfter, Boundary.replyTo_observed, stateAfter_observed, answerAfter]

theorem attemptsMade_observed (fips : Bool) (limit : ℕ) (state : σ × List (Crossing κ)) :
    attemptsMade boundary.observed fips limit state = attemptsMade boundary fips limit state.1 := by
  simp only [attemptsMade, firstSettled, answerAfter_observed]

theorem validated_observed (handle : ContextHandle) (validations : List Validation)
    (state : σ × List (Crossing κ)) :
    let checks := validated boundary.observed handle validations state
    let plain := validated boundary handle validations state.1
    checks.1 = plain.1 ∧ checks.2.2.1 = plain.2.2 := by
  induction validations generalizing state with
  | nil => exact ⟨rfl, rfl⟩
  | cons validation rest ih =>
      have hreply : validation.reply boundary.observed handle state =
          validation.reply boundary handle state.1 := by
        cases validation <;> rfl
      simp only [validated, hreply]
      split
      · exact ⟨rfl, rfl⟩
      · exact ih (boundary.observed.behind (validation.request handle) state)

/-- Creating a context comes to the same whether it is observed or not. -/
theorem creation_observed (fips : Bool) (config : ContextConfig)
    (state : σ × List (Crossing κ)) :
    let told := creation boundary.observed fips config state
    let plain := creation boundary fips config state.1
    told.outcome = plain.outcome ∧ told.state.1 = plain.state := by
  simp only [creation, answerAfter_observed, attemptsMade_observed]
  split
  · exact ⟨rfl, rfl⟩
  · split
    · exact ⟨rfl, stateAfter_observed boundary fips _ state⟩
    next handle _ =>
      obtain ⟨houtcome, hstate⟩ := validated_observed boundary handle (validations config)
        (stateAfter boundary.observed fips
          (attemptsMade boundary fips (attemptsAllowed fips config) state.1) state)
      rw [stateAfter_observed] at houtcome hstate
      exact ⟨by simp only [houtcome], hstate⟩

end Context

end SigningEngine
