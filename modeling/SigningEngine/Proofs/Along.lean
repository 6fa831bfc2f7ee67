import SigningEngine.Context.SharedValue
import SigningEngine.Proofs.Run

/-!
# Relations along an operation

An operation moves the state of its surroundings by the calls it makes, and by what it does with
references to keys. If each of these moves by a relation that composes, so does the operation. What
an operation may do to the digests of an engine is told by the digests that its calls alter.
-/

namespace SigningEngine

/-- A relation between states that composes. -/
structure Lasting {τ : Type} (R : τ → τ → Prop) : Prop where
  refl (s : τ) : R s s
  trans {s t u : τ} : R s t → R t u → R s u

/-- A computation leaves a state to which the one it starts in is related. -/
def Along {τ α : Type} (R : τ → τ → Prop) (x : StateM τ α) : Prop := ∀ s, R s (x s).2

namespace Along

section Sequences

variable {τ ε α β : Type} {R : τ → τ → Prop} (h : Lasting R)
include h

theorem pure (a : α) : Along R (Pure.pure a : StateM τ α) := h.refl

theorem bind {x : StateM τ α} {f : α → StateM τ β} (hx : Along R x) (hf : ∀ a, Along R (f a)) :
    Along R (x >>= f) :=
  fun s => h.trans (hx s) (hf _ _)

/-- What is returned of a result does not matter. -/
theorem bind_pure {x : StateM τ α} {f : α → β} (hx : Along R x) :
    Along R (x >>= fun a => Pure.pure (f a)) :=
  bind h hx fun a => pure h (f a)

theorem foldlM {f : β → α → StateM τ β} (hf : ∀ b a, Along R (f b a)) (list : List α) (b : β) :
    Along R (list.foldlM f b) := by
  induction list generalizing b with
  | nil => exact pure h b
  | cons a rest ih =>
      rw [List.foldlM_cons]
      exact bind h (hf b a) ih

theorem mapM {f : α → StateM τ β} (hf : ∀ a, Along R (f a)) (list : List α) :
    Along R (list.mapM f) := by
  induction list with
  | nil => exact pure h []
  | cons a rest ih =>
      rw [List.mapM_cons]
      exact bind h (hf a) fun _ => bind h ih fun _ => pure h _

theorem run_pure (a : α) : Along R (Pure.pure a : ExceptT ε (StateM τ) α).run := h.refl

theorem run_throw (e : ε) : Along R (throw e : ExceptT ε (StateM τ) α).run := h.refl

theorem run_bind {x : ExceptT ε (StateM τ) α} {f : α → ExceptT ε (StateM τ) β}
    (hx : Along R x.run) (hf : ∀ a, Along R (f a).run) : Along R (x >>= f).run := by
  intro s
  rw [SigningEngine.run_bind]
  have hfirst := hx s
  match x.run s, hfirst with
  | (.ok a, t), hfirst => exact h.trans hfirst (hf a t)
  | (.error e, t), hfirst => exact hfirst

omit h in
theorem run_lift {x : StateM τ α} (hx : Along R x) :
    Along R (ExceptT.lift x : ExceptT ε (StateM τ) α).run := hx

end Sequences

end Along

namespace NativeCall

/-- The digest that a call may change or remove. -/
def altered : NativeCall → Option DigestHandle
  | digestUpdate _ digest _ => some digest
  | digestReset _ digest => some digest
  | digestFree _ digest => some digest
  | _ => none

end NativeCall

/-- Calls and readings move the surroundings by a relation, as long as calls alter no digests but
these. -/
structure Boundary.CalledBy {σ κ : Type} (boundary : Boundary σ κ) (altered : DigestHandle → Prop)
    (R : σ → σ → Prop) : Prop extends Lasting R where
  behind {call : NativeCall} (state : σ) :
    (∀ digest, call.altered = some digest → altered digest) →
      R state (boundary.behind call state)
  read (key : κ) (state : σ) : R state (boundary.keyHandle key state).2

/-- The surroundings move by a relation as long as calls alter no digests but these. -/
structure Boundary.MovesBy {σ κ : Type} (boundary : Boundary σ κ) (altered : DigestHandle → Prop)
    (R : σ → σ → Prop) : Prop extends Lasting R where
  behind {call : NativeCall} (state : σ) :
    (∀ digest, call.altered = some digest → altered digest) →
      R state (boundary.behind call state)
  read (key : κ) (state : σ) : R state (boundary.keyHandle key state).2
  release (key : κ) (state : σ) : R state (boundary.release key state)

/-- An operation moves the state of its surroundings by a relation. -/
abbrev Native.Along {σ α : Type} (R : σ → σ → Prop) (x : Native σ α) : Prop :=
  SigningEngine.Along (fun run next => R run.state next.state) x

namespace Boundary.CalledBy

variable {σ κ α β : Type} {boundary : Boundary σ κ} {altered : DigestHandle → Prop}
variable {R : σ → σ → Prop} (h : boundary.CalledBy altered R)
include h

theorem lasting : Lasting fun run next : Run σ => R run.state next.state where
  refl run := h.refl run.state
  trans := h.trans

theorem attempt_bind {x : Attempt σ α} {f : α → Attempt σ β} (hx : Native.Along R x.outcome)
    (hf : ∀ a, Native.Along R (f a).outcome) : Native.Along R (x >>= f).outcome :=
  Along.run_bind h.lasting hx hf

theorem attempt_pure (a : α) : Native.Along R (pure a : Attempt σ α).outcome :=
  Along.run_pure h.lasting a

theorem fail (e : EngineError) : Native.Along R (Attempt.fail e : Attempt σ α).outcome :=
  Along.run_throw h.lasting _

/-- What would follow a failure does not matter. -/
theorem fail_bind (e : EngineError) (f : α → Attempt σ β) :
    Native.Along R (Attempt.fail e >>= f).outcome :=
  fun run => h.refl run.state

/-- A step that is only taken under a condition. -/
theorem attempt_when {c : Prop} [Decidable c] {x : Attempt σ Unit} {f : Unit → Attempt σ α}
    (hx : Native.Along R x.outcome) (hf : ∀ u, Native.Along R (f u).outcome) :
    Native.Along R (if c then x >>= f else f ()).outcome := by
  split
  · exact h.attempt_bind hx hf
  · exact hf ()

theorem throw (failure : Failure) : Native.Along R (throw failure : Attempt σ α).outcome :=
  Along.run_throw h.lasting failure

theorem log (event : Event) : Native.Along R (Attempt.log event).outcome :=
  fun run => h.refl run.state

theorem ask {call : NativeCall}
    (hcall : ∀ digest, call.altered = some digest → altered digest) :
    Native.Along R (boundary.ask call) :=
  fun run => h.behind run.state hcall

theorem request {call : NativeCall}
    (hcall : ∀ digest, call.altered = some digest → altered digest) :
    Native.Along R (boundary.request call).outcome := by
  refine h.attempt_bind (Along.run_lift (h.ask hcall)) fun reply => ?_
  cases reply with
  | ok value => exact h.attempt_pure value
  | error message => exact h.throw _

theorem orError {x : Attempt σ (Except NativeError α)} {error : NativeError → EngineError}
    (hx : Native.Along R x.outcome) : Native.Along R (x.orError error).outcome := by
  refine h.attempt_bind hx fun reply => ?_
  cases reply with
  | ok value => exact h.attempt_pure value
  | error e => exact h.fail _

theorem readHandle (key : κ) : Native.Along R (boundary.readHandle key) :=
  fun run => h.read key run.state

end Boundary.CalledBy

namespace Boundary.MovesBy

variable {σ κ : Type} {boundary : Boundary σ κ} {altered : DigestHandle → Prop}
variable {R : σ → σ → Prop} (h : boundary.MovesBy altered R)
include h

theorem calledBy : boundary.CalledBy altered R := ⟨h.toLasting, h.behind, h.read⟩

theorem giveBack (key : κ) : Native.Along R (boundary.giveBack key) :=
  fun run => h.release key run.state

end Boundary.MovesBy

end SigningEngine
