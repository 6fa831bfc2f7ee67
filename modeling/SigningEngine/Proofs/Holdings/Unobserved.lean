import SigningEngine.Proofs.Holdings.Run
import SigningEngine.Proofs.Matching

/-!
# What happens when nothing is observed

What a process does with what it holds comes to the same over any surroundings that answer alike.
Observed surroundings answer as they do unobserved, so a transition, which is taken over observed
ones, tells what the process does when nobody looks.

The main statement is `perform_eq_take`.
-/

namespace SigningEngine

section Matching

variable {σ τ κ : Type} {first : Boundary σ κ} {second : Boundary τ κ}
variable {R : Run σ → Run τ → Prop} (h : first.Matches second R)
include h

theorem Context.answer_matching (context : Context) (question : Context.Question) :
    Matching R (context.answer first question) (context.answer second question) := by
  cases question with
  | version => exact .bind_pure (readVersion_matching h.toAgrees context)
  | installPath => exact .bind_pure (readInstallPath_matching h.toAgrees context)
  | approvedMode => exact .bind_pure (fipsApprovedMode_matching h.toAgrees context)

theorem Signature.perform_matching (signature : Signature κ) (operation : Signature.Operation κ) :
    Matching R (signature.perform first operation) (signature.perform second operation) := by
  cases operation with
  | start key plainRsa => exact start_matching h.toAgrees signature key plainRsa
  | update buffer span => exact .bind_pure (update_matching h.toAgrees signature buffer span)
  | sign => exact .bind_pure (sign_matching h signature)
  | verify candidate => exact .bind_pure (verify_matching h signature candidate)

namespace Owner

theorem create_matching (context : ContextHandle) (algorithm : String) (kind : Kind) :
    Attempt.Matching R (create first context algorithm kind : Attempt σ (Owner κ))
      (create second context algorithm kind) := by
  cases kind with
  | digest => exact .bind (Digest.create_matching h.toAgrees context algorithm) fun _ => .pure _
  | signature => exact .bind (Signature.create_matching h.toAgrees context algorithm) fun _ => .pure _

theorem used_matching (owner : Owner κ) (use : Use κ) :
    Matching R (owner.used first use) (owner.used second use) := by
  cases owner with
  | ofDigest digest =>
      cases use with
      | feed data => exact .bind_pure (digest.update_matching h.toAgrees data)
      | reset => exact .bind_pure (digest.reset_matching h.toAgrees)
      | operate operation => exact .pure _
  | ofSignature signature =>
      cases use with
      | feed data => exact .pure _
      | reset => exact .pure _
      | operate operation => exact .bind_pure (signature.perform_matching h operation)

theorem drop_matching (owner : Owner κ) :
    Attempt.Matching R (owner.drop first) (owner.drop second) := by
  cases owner with
  | ofDigest digest => exact digest.free_matching h.toAgrees
  | ofSignature signature => exact signature.drop_matching h.toAgrees

end Owner

/-- Whatever a process does comes to the same over surroundings that answer alike. -/
theorem Holdings.perform_matching (holdings : Holdings κ) (action : Holdings.Action κ) :
    Matching R (holdings.perform first action) (holdings.perform second action) := by
  cases action with
  | createContext fips config =>
      refine .bind (Context.create_matching h.toAgrees fips config) fun outcome => ?_
      cases outcome <;> exact .pure _
  | ask place question =>
      rw [perform, perform]
      split
      · exact .pure _
      next context _ => exact .bind_pure (context.answer_matching h question)
  | create place kind algorithm =>
      rw [perform, perform]
      split
      · exact .pure _
      next context _ =>
        refine .bind (Owner.create_matching h context.handle algorithm kind) fun outcome => ?_
        cases outcome <;> exact .pure _
  | use place use =>
      rw [perform, perform]
      split
      · exact .pure _
      next held _ => exact .bind_pure (held.owner.used_matching h use)
  | drop place =>
      rw [perform, perform]
      split
      · exact .pure _
      next held _ => exact .bind_pure (held.owner.drop_matching h)

end Matching

variable {σ κ : Type} (boundary : Boundary σ κ)

/-- A run over observed surroundings tells of the same run unobserved: what is on record are the
calls that it made. -/
structure Boundary.Observes (seen : Run (σ × List (Crossing κ))) (run : Run σ) : Prop where
  state : seen.state.1 = run.state
  calls : seen.calls = run.calls
  events : seen.events = run.events
  recorded : Crossing.calls seen.state.2 = run.calls.toList

/-- What a call comes to does not depend on being observed. -/
theorem Boundary.ask_observes (call : NativeCall) :
    Matching Observes (boundary.observed.ask call) (boundary.ask call) := by
  rintro ⟨⟨state, crossings⟩, calls, events⟩ ⟨_, _, _⟩ ⟨rfl, rfl, rfl, hrecorded⟩
  refine ⟨rfl, rfl, rfl, rfl, ?_⟩
  rw [ask_run, asked_state, behind_observed, Crossing.calls_append, hrecorded]
  exact (Array.toList_push ..).symm

/-- Observed surroundings answer as they do unobserved. -/
theorem Boundary.observed_matches : boundary.observed.Matches boundary Observes where
  ask _ := boundary.ask_observes _
  judge _ := boundary.ask_observes _
  log event := by
    rintro seen run ⟨hstate, hcalls, hevents, hrecorded⟩
    exact ⟨rfl, hstate, hcalls, congrArg (·.push event) hevents, hrecorded⟩
  readHandle key := by
    rintro ⟨⟨state, crossings⟩, calls, events⟩ ⟨_, _, _⟩ ⟨rfl, rfl, rfl, hrecorded⟩
    refine ⟨rfl, rfl, rfl, rfl, ?_⟩
    rw [readHandle_run, keyHandle_observed, Crossing.calls_append, hrecorded]
    exact List.append_nil _
  giveBack key := by
    rintro seen run ⟨hstate, hcalls, hevents, hrecorded⟩
    exact ⟨rfl, congrArg (boundary.release key) hstate, hcalls, hevents, hrecorded⟩
  keyAlgorithm := rfl

/-- What an action does unobserved is what its transition tells. -/
theorem Holdings.perform_eq_take (holdings : Holdings κ) (action : Holdings.Action κ) (state : σ) :
    let taken := holdings.take boundary (.act action) state
    holdings.perform boundary action { state } =
      ((taken.outcome, taken.after),
        { state := taken.next, calls := taken.calls.toArray, events := taken.events.toArray }) := by
  intro taken
  obtain ⟨hresult, hstate, -, hevents, hrecorded⟩ :=
    holdings.perform_matching boundary.observed_matches action { state := (state, []) } { state }
      ⟨rfl, rfl, rfl, rfl⟩
  have hended : (taken.outcome, taken.after) = (holdings.perform boundary action { state }).1 :=
    hresult
  have hnext : taken.next = (holdings.perform boundary action { state }).2.state := hstate
  have hmade : taken.calls = (holdings.perform boundary action { state }).2.calls.toList :=
    hrecorded
  have htold : taken.events = (holdings.perform boundary action { state }).2.events.toList :=
    congrArg Array.toList hevents
  rw [hended, hnext, hmade, htold, Array.toArray_toList, Array.toArray_toList]
  rfl

end SigningEngine
