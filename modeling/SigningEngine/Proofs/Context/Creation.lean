import Mathlib.Logic.Function.Iterate
import SigningEngine.Proofs.Effect

/-!
# How contexts come to be

All attempts at creating a context are the same call, so what the engine would answer to each of
them is laid down by the state in which the first one is made. The last attempt is the first one
that is not answered by a report, or the one that reaches the limit. Its answer alone decides on
which handle the context is built, if on any.

The main statement is `create_eq_creation`: the loop over the attempts, with its counter and the
last report it carries along, and the validations behind it do what is told from these answers. What is
told takes nothing from the loop: how many attempts are allowed, what a report says and what follows
from it are written out again.
-/

namespace SigningEngine

namespace NativeError

/-- In upper case, the report has the words somewhere. -/
def SaysNotInFipsMode (e : NativeError) : Prop :=
  "CONTEXT IS NOT IN FIPS MODE".toList <:+: Text.upperChars e.message.toList

theorem isNotInFipsMode_iff_says {e : NativeError} :
    e.isNotInFipsMode = true ↔ e.SaysNotInFipsMode := by
  have hphrase : Text.upperChars notInFipsModePhrase.toList =
      "CONTEXT IS NOT IN FIPS MODE".toList := by
    decide +kernel
  rw [isNotInFipsMode, Text.occursIn_iff, hphrase, SaysNotInFipsMode]

instance (e : NativeError) : Decidable e.SaysNotInFipsMode :=
  decidable_of_iff _ isNotInFipsMode_iff_says

end NativeError

namespace Context

variable {σ κ : Type} (boundary : Boundary σ κ)

/-- The state behind so many attempts. -/
def stateAfter (fips : Bool) (made : ℕ) (state : σ) : σ :=
  (boundary.behind (.createContext fips))^[made] state

/-- What the engine answers to the attempt that has so many before it. -/
def answerAfter (fips : Bool) (made : ℕ) (state : σ) :
    Except String (Except NativeError ContextHandle) :=
  boundary.replyTo (.createContext fips) (stateAfter boundary fips made state)

/-- A report of the engine asks for another attempt. Neither a handle does so nor a panic. -/
def isReport : Except String (Except NativeError ContextHandle) → Bool
  | .ok (.error _) => true
  | _ => false

theorem eq_report {answer : Except String (Except NativeError ContextHandle)}
    (h : isReport answer = true) : ∃ e, answer = .ok (.error e) := by
  match answer, h with
  | .ok (.error e), _ => exact ⟨e, rfl⟩

/-- The position of the first attempt that is not answered by a report, counted from 1. If there is
none among as many attempts as the limit says, it is a position beyond the limit. -/
def firstSettled (fips : Bool) (limit : ℕ) (state : σ) : ℕ :=
  (List.range limit).findIdx (fun made => !isReport (answerAfter boundary fips made state)) + 1

/-- How many attempts are made. -/
def attemptsMade (fips : Bool) (limit : ℕ) (state : σ) : ℕ :=
  min (firstSettled boundary fips limit state) limit

/-- How many attempts may be made: a context that is no FIPS context is attempted once. -/
def attemptsAllowed (fips : Bool) (config : ContextConfig) : ℕ :=
  if fips then config.maxFipsAttempts.toNat else 1

/-- The handle to build on when every attempt has failed, the last one with this report. -/
def handleByPolicy (fips : Bool) (config : ContextConfig) (e : NativeError) :
    Except Failure ContextHandle :=
  match config.onExhaustedRetries with
  | .fail =>
    .error (.error (.init ("gave up after " ++ toString (attemptsAllowed fips config) ++
      " attempt(s): " ++ e.message)))
  | .invalidHandle => .ok ⟨0⟩

/-- The handle to build on, by the answer to the last attempt. If that is a report, every attempt has
failed, and under every policy nothing is built where a FIPS context was asked for and the report says
that it is none. -/
def handleFor (fips : Bool) (config : ContextConfig) :
    Except String (Except NativeError ContextHandle) → Except Failure ContextHandle
  | .error message => .error (.panic message)
  | .ok (.ok handle) => .ok handle
  | .ok (.error e) =>
    if fips = true ∧ e.SaysNotInFipsMode then .error (.error (.init e.message))
    else handleByPolicy fips config e

/-- What is validated of the library once there is a handle. -/
inductive Validation where
  | location
  | version

namespace Validation

def request (handle : ContextHandle) : Validation → NativeCall
  | location => .validateLocation handle
  | version => .validateVersion handle

/-- The reply to the request, both kinds of which report alike. -/
def reply (handle : ContextHandle) (state : σ) : Validation → Except String (Except NativeError Unit)
  | location => boundary.replyTo (.validateLocation handle) state
  | version => boundary.replyTo (.validateVersion handle) state

def error : Validation → NativeError → EngineError
  | location, e => .init ("library location validation failed: " ++ e.message)
  | version, e => .init ("library version validation failed: " ++ e.message)

end Validation

/-- The validations that a configuration asks for, in order. -/
def validations (config : ContextConfig) : List Validation :=
  (if config.validateLocation then [.location] else []) ++
    (if config.validateVersion then [.version] else [])

/-- Makes validations one after the other until one fails: how that ends, the calls made, and the
state behind them. -/
def validated (handle : ContextHandle) :
    List Validation → σ → Except Failure Unit × List NativeCall × σ
  | [], state => (.ok (), [], state)
  | validation :: rest, state =>
    let call := validation.request handle
    match Failure.ofReply validation.error (validation.reply boundary handle state) with
    | .error failure => (.error failure, [call], boundary.behind call state)
    | .ok () =>
      let (outcome, calls, last) := validated handle rest (boundary.behind call state)
      (outcome, call :: calls, last)

/-- What creating a context comes to. -/
structure Creation (σ : Type) where
  outcome : Except Failure Context
  calls : List NativeCall
  state : σ

/-- What creating a context comes to by the answers of the engine. -/
def creation (fips : Bool) (config : ContextConfig) (state : σ) : Creation σ :=
  if config.maxFipsAttempts = 0 then
    { outcome := .error (.error (.configuration "max_fips_attempts must be at least 1"))
      calls := []
      state }
  else
    let made := attemptsMade boundary fips (attemptsAllowed fips config) state
    let tried := List.replicate made (NativeCall.createContext fips)
    let behind := stateAfter boundary fips made state
    match handleFor fips config (answerAfter boundary fips (made - 1) state) with
    | .error failure => { outcome := .error failure, calls := tried, state := behind }
    | .ok handle =>
      let (outcome, calls, last) := validated boundary handle (validations config) behind
      { outcome := outcome.map fun () => { handle, fips }, calls := tried ++ calls, state := last }

/-! ### The loop over the attempts -/

theorem attemptsMade_succ (fips : Bool) (limit : ℕ) (state : σ) :
    attemptsMade boundary fips (limit + 1) state =
      if isReport (answerAfter boundary fips 0 state) then
        attemptsMade boundary fips limit (boundary.behind (.createContext fips) state) + 1
      else 1 := by
  rw [attemptsMade, firstSettled, List.range_succ_eq_map, List.findIdx_cons, List.findIdx_map]
  cases isReport (answerAfter boundary fips 0 state) with
  | false => simp
  | true =>
      rw [if_pos rfl, attemptsMade, ← Nat.add_min_add_right]
      rfl

theorem one_le_attemptsMade (fips : Bool) (limit : ℕ) (state : σ) :
    1 ≤ attemptsMade boundary fips (limit + 1) state := by
  rw [attemptsMade_succ]
  split <;> omega

/-- How the loop ends by the answer to the last attempt. -/
def attempted (fips : Bool) :
    Except String (Except NativeError ContextHandle) →
      Except Failure (Except (Option NativeError) ContextHandle)
  | .error message => .error (.panic message)
  | .ok (.ok handle) => .ok (.ok handle)
  | .ok (.error e) =>
    if fips && e.isNotInFipsMode then .error (.error (.init e.message)) else .ok (.error (some e))

/-- An attempt that is answered by a report is followed by the others, if there are any left. -/
theorem attemptCreation_does_succ {fips : Bool} {limit remaining : ℕ} {last : Option NativeError}
    {state next : σ} {outcome : Except Failure (Except (Option NativeError) ContextHandle)}
    {calls : List NativeCall} {e : NativeError}
    (hreport : answerAfter boundary fips 0 state = .ok (.error e))
    (hcontinues : (remaining = 0 && fips && e.isNotInFipsMode) = false)
    (hrest : (attemptCreation boundary fips limit remaining (some e)).Does
      (boundary.behind (.createContext fips) state) outcome calls next) :
    (attemptCreation boundary fips limit (remaining + 1) last).Does state outcome
      (.createContext fips :: calls) next := by
  have hrequest := Attempt.does_request boundary (.createContext fips) state
  have hreply : boundary.replyTo (.createContext fips) state = .ok (.error e) := hreport
  rw [hreply] at hrequest
  refine hrequest.bind ?_
  simp only [hcontinues]
  exact (Attempt.does_log _ _).bind hrest

/-- An answer that is no report is the last one. -/
theorem attemptCreation_does_settled {fips : Bool} {limit remaining : ℕ}
    {last : Option NativeError} {state : σ}
    (hsettled : isReport (answerAfter boundary fips 0 state) = false) :
    (attemptCreation boundary fips limit (remaining + 1) last).Does state
      (attempted fips (answerAfter boundary fips 0 state)) [.createContext fips]
      (boundary.behind (.createContext fips) state) := by
  have hrequest := Attempt.does_request boundary (.createContext fips) state
  have hreply : boundary.replyTo (.createContext fips) state = answerAfter boundary fips 0 state :=
    rfl
  rw [hreply] at hrequest
  match answerAfter boundary fips 0 state, hsettled, hrequest with
  | .error message, _, hrequest => exact hrequest.bind_error _
  | .ok (.ok handle), _, hrequest =>
      exact hrequest.bind ((Attempt.does_log _ _).bind (Attempt.does_pure _ _))

/-- A report at the last attempt ends the loop. -/
theorem attemptCreation_does_last {fips : Bool} {limit : ℕ} {last : Option NativeError}
    {state : σ} {e : NativeError} (hreport : answerAfter boundary fips 0 state = .ok (.error e)) :
    (attemptCreation boundary fips limit 1 last).Does state (attempted fips (.ok (.error e)))
      [.createContext fips] (boundary.behind (.createContext fips) state) := by
  cases hphrase : fips && e.isNotInFipsMode with
  | true =>
      have hrequest := Attempt.does_request boundary (.createContext fips) state
      have hreply : boundary.replyTo (.createContext fips) state = .ok (.error e) := hreport
      rw [hreply] at hrequest
      rw [attempted, if_pos hphrase]
      refine hrequest.bind ?_
      simp only [hphrase, decide_true, Bool.true_and, if_true]
      exact (Attempt.does_fail _ _).bind_error _
  | false =>
      rw [attempted, if_neg (by simp [hphrase])]
      exact attemptCreation_does_succ boundary hreport (by simp [hphrase]) (Attempt.does_pure _ _)

/-- The loop makes the attempts that are told, and ends by the answer to the last of them. -/
theorem attemptCreation_does (fips : Bool) (limit remaining : ℕ) (last : Option NativeError)
    (state : σ) :
    let made := attemptsMade boundary fips (remaining + 1) state
    (attemptCreation boundary fips limit (remaining + 1) last).Does state
      (attempted fips (answerAfter boundary fips (made - 1) state))
      (List.replicate made (.createContext fips)) (stateAfter boundary fips made state) := by
  induction remaining generalizing last state with
  | zero =>
      simp only
      rw [attemptsMade_succ]
      cases hreport : isReport (answerAfter boundary fips 0 state) with
      | false => exact attemptCreation_does_settled boundary hreport
      | true =>
          obtain ⟨e, hanswer⟩ := eq_report hreport
          have hlast : (attemptCreation boundary fips limit 1 last).Does state _ _ _ :=
            attemptCreation_does_last boundary hanswer
          rw [← hanswer] at hlast
          rwa [if_pos rfl, attemptsMade, Nat.min_zero]
  | succ remaining ih =>
      simp only
      rw [attemptsMade_succ]
      cases hreport : isReport (answerAfter boundary fips 0 state) with
      | false => exact attemptCreation_does_settled boundary hreport
      | true =>
          obtain ⟨e, hanswer⟩ := eq_report hreport
          rw [if_pos rfl]
          obtain ⟨others, hothers⟩ := Nat.exists_eq_add_of_le' (one_le_attemptsMade boundary fips
            remaining (boundary.behind (.createContext fips) state))
          have hrest := ih (some e) (boundary.behind (.createContext fips) state)
          rw [hothers] at hrest ⊢
          exact attemptCreation_does_succ boundary hanswer (by simp) hrest

/-! ### The handle, and the validations behind it -/

theorem attempts_eq (fips : Bool) (config : ContextConfig) :
    attempts fips config = attemptsAllowed fips config := rfl

theorem attemptsAllowed_pos (fips : Bool) {config : ContextConfig} (h : config.maxFipsAttempts ≠ 0) :
    0 < attemptsAllowed fips config := by
  cases fips with
  | false => exact Nat.one_pos
  | true =>
      apply Nat.pos_of_ne_zero
      intro hzero
      exact h (UInt32.toNat_inj.mp hzero)

/-- A report that ends creation under every policy. -/
theorem handleFor_notInFipsMode (config : ContextConfig) {e : NativeError}
    (h : e.isNotInFipsMode = true) :
    handleFor true config (.ok (.error e)) = .error (.error (.init e.message)) :=
  if_pos ⟨rfl, NativeError.isNotInFipsMode_iff_says.mp h⟩

/-- Any other report leaves it to the policy. -/
theorem handleFor_other (fips : Bool) (config : ContextConfig) {e : NativeError}
    (h : (fips && e.isNotInFipsMode) = false) :
    handleFor fips config (.ok (.error e)) = handleByPolicy fips config e := by
  refine if_neg ?_
  rintro ⟨rfl, hsays⟩
  rw [Bool.true_and, NativeError.isNotInFipsMode_iff_says.mpr hsays] at h
  cases h

/-- The policy is asked only when all attempts failed, so there is always a last report. -/
theorem obtainHandle_does (fips : Bool) {config : ContextConfig}
    (hlimit : config.maxFipsAttempts ≠ 0) (state : σ) :
    let made := attemptsMade boundary fips (attemptsAllowed fips config) state
    (obtainHandle boundary fips config).Does state
      (handleFor fips config (answerAfter boundary fips (made - 1) state))
      (List.replicate made (.createContext fips)) (stateAfter boundary fips made state) := by
  obtain ⟨remaining, hremaining⟩ := Nat.exists_eq_add_of_le' (attemptsAllowed_pos fips hlimit)
  have hloop := attemptCreation_does boundary fips (attemptsAllowed fips config) remaining none state
  rw [Nat.succ_eq_add_one, Nat.zero_add] at hremaining
  simp only at hloop ⊢
  rw [← hremaining] at hloop
  rw [obtainHandle, attempts_eq]
  generalize attemptsMade boundary fips (attemptsAllowed fips config) state = made at hloop ⊢
  match answerAfter boundary fips (made - 1) state, hloop with
  | .error message, hloop => exact hloop.bind_error _
  | .ok (.ok handle), hloop =>
      rw [← List.append_nil (List.replicate _ _)]
      exact hloop.bind (Attempt.does_pure _ _)
  | .ok (.error e), hloop =>
      rw [attempted] at hloop
      cases hphrase : fips && e.isNotInFipsMode with
      | true =>
          rw [hphrase, if_pos rfl] at hloop
          obtain ⟨rfl, hreport⟩ := Bool.and_eq_true_iff.mp hphrase
          rw [handleFor_notInFipsMode config hreport]
          exact hloop.bind_error _
      | false =>
          rw [hphrase, if_neg Bool.false_ne_true] at hloop
          rw [handleFor_other fips config hphrase, handleByPolicy,
            ← List.append_nil (List.replicate _ _)]
          refine hloop.bind ?_
          cases config.onExhaustedRetries with
          | fail => exact Attempt.does_fail _ _
          | invalidHandle => exact (Attempt.does_log _ _).bind (Attempt.does_pure _ _)

/-- Makes one validation. -/
def Validation.perform (handle : ContextHandle) : Validation → Attempt σ Unit
  | .location => (boundary.request (.validateLocation handle)).orError Validation.location.error
  | .version => (boundary.request (.validateVersion handle)).orError Validation.version.error

theorem Validation.perform_does (validation : Validation) (handle : ContextHandle) (state : σ) :
    (validation.perform boundary handle).Does state
      (Failure.ofReply validation.error (validation.reply boundary handle state))
      [validation.request handle] (boundary.behind (validation.request handle) state) := by
  cases validation with
  | location => exact (Attempt.does_request boundary _ state).orError _
  | version => exact (Attempt.does_request boundary _ state).orError _

/-- An attempt makes these validations, and then gives the context. -/
def Validates (handle : ContextHandle) (fips : Bool) (validations : List Validation)
    (x : Attempt σ Context) : Prop :=
  ∀ state, x.Does state
    ((validated boundary handle validations state).1.map fun () => { handle, fips })
    (validated boundary handle validations state).2.1
    (validated boundary handle validations state).2.2

variable {handle : ContextHandle} {fips : Bool} {rest : List Validation}

/-- A validation that is only made where it is asked for. -/
theorem Validates.when {f : Unit → Attempt σ Context}
    (hrest : Validates boundary handle fips rest (f ())) (asked : Bool) (validation : Validation) :
    Validates boundary handle fips ((if asked then [validation] else []) ++ rest)
      (if asked = true then validation.perform boundary handle >>= f else f ()) := by
  cases asked with
  | false => exact hrest
  | true =>
      intro state
      have hfirst := validation.perform_does boundary handle state
      simp only [if_true, List.singleton_append, validated]
      match Failure.ofReply validation.error (validation.reply boundary handle state), hfirst with
      | .error failure, hfirst => exact hfirst.bind_error f
      | .ok (), hfirst => exact hfirst.bind (hrest _)

theorem create_does (fips : Bool) (config : ContextConfig) (state : σ) :
    let told := creation boundary fips config state
    (create boundary fips config).Does state told.outcome told.calls told.state := by
  simp only
  rw [create, creation, ContextConfig.validate]
  by_cases hlimit : config.maxFipsAttempts = 0
  · rw [if_pos hlimit, if_pos hlimit]
    exact (Attempt.does_fail _ state).bind_error _
  · rw [if_neg hlimit, if_neg hlimit]
    have hobtained := obtainHandle_does boundary fips hlimit state
    simp only at hobtained ⊢
    generalize handleFor fips config _ = obtained at hobtained ⊢
    cases obtained with
    | error failure => exact hobtained.bind_error _
    | ok handle =>
        have hgiven : Validates boundary handle fips [] (do
            Attempt.log (.contextCreated fips handle)
            return { handle, fips }) :=
          fun _ => (Attempt.does_log _ _).bind (Attempt.does_pure _ _)
        have hversion := Validates.when boundary (f := fun _ => _) hgiven config.validateVersion
          .version
        rw [List.append_nil] at hversion
        exact hobtained.bind (Validates.when boundary (f := fun _ => _) hversion
          config.validateLocation .location _)

/-- Creating a context does what is told from the answers of the engine, whatever these are. -/
theorem create_eq_creation (fips : Bool) (config : ContextConfig) (state : σ) :
    let ran := (create boundary fips config).outcome { state }
    creation boundary fips config state =
      { outcome := ran.1, calls := ran.2.calls.toList, state := ran.2.state } := by
  obtain ⟨houtcome, hcalls, hstate⟩ := (create_does boundary fips config state).run
  simp only [houtcome, hcalls, hstate]

/-! ### The calls of a creation -/

theorem validated_calls (handle : ContextHandle) (validations : List Validation) (state : σ) :
    ∀ call ∈ (validated boundary handle validations state).2.1,
      call = .validateLocation handle ∨ call = .validateVersion handle := by
  induction validations generalizing state with
  | nil => simp [validated]
  | cons validation rest ih =>
      have hfirst : validation.request handle = .validateLocation handle ∨
          validation.request handle = .validateVersion handle := by
        cases validation with
        | location => exact .inl rfl
        | version => exact .inr rfl
      simp only [validated]
      split
      · simpa using hfirst
      · simpa using ⟨hfirst, ih (boundary.behind (validation.request handle) state)⟩

theorem eq_of_checked {checked : Except Failure Unit} {handle : ContextHandle} {fips : Bool}
    {context : Context}
    (h : (checked.map fun _ => ({ handle, fips } : Context)) = .ok context) :
    context = { handle, fips } := by
  cases checked with
  | error failure => cases h
  | ok =>
      cases h
      rfl

/-- A context that is created is of the kind asked for, and keeps nothing yet. -/
theorem eq_of_created {fips : Bool} {config : ContextConfig} {state : σ} {context : Context}
    (h : (creation boundary fips config state).outcome = .ok context) :
    context = { handle := context.handle, fips } := by
  rw [creation] at h
  split at h
  · cases h
  · simp only at h
    split at h
    · cases h
    next handle _ => rw [eq_of_checked h]

/-- A context that is created has the handle that follows from the last answer. -/
theorem handleFor_of_created {fips : Bool} {config : ContextConfig} {state : σ} {context : Context}
    (h : (creation boundary fips config state).outcome = .ok context) :
    handleFor fips config (answerAfter boundary fips
      (attemptsMade boundary fips (attemptsAllowed fips config) state - 1) state) =
        .ok context.handle := by
  rw [creation] at h
  split at h
  · cases h
  · simp only at h
    split at h
    · cases h
    next handle hhandle => rw [hhandle, eq_of_checked h]

/-- Whatever is called but the attempts validates a handle, and a context that is created has this
handle. -/
theorem creation_calls (fips : Bool) (config : ContextConfig) (state : σ) :
    let told := creation boundary fips config state
    ∀ call ∈ told.calls, call = .createContext fips ∨
      ∃ handle, (call = .validateLocation handle ∨ call = .validateVersion handle) ∧
        ∀ context, told.outcome = .ok context → context.handle = handle := by
  simp only [creation]
  split
  · simp
  · split
    · intro call hcall
      exact .inl (List.eq_of_mem_replicate hcall)
    next handle _ =>
      intro call hcall
      rcases List.mem_append.mp hcall with htried | hchecks
      · exact .inl (List.eq_of_mem_replicate htried)
      · refine .inr ⟨handle, validated_calls boundary handle _ _ call hchecks, ?_⟩
        intro context hcontext
        rw [eq_of_checked hcontext]

end Context

end SigningEngine
