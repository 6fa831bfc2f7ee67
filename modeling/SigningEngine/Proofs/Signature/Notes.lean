import SigningEngine.Proofs.Signature.Operation

/-!
# Taking notes at the boundary

The surroundings can be made to write down what crosses the boundary: each call with the state in
which it was answered and the reply to it, and each reference to a key that is given back. They
answer as before, so a signature does the same over them; the notes only make visible what no
outcome shows.
-/

namespace SigningEngine

/-- Something that crossed the boundary. -/
inductive Note (σ κ : Type) where
  | asked (state : σ) (call : NativeCall) (reply : Except String call.Reply)
  | gaveBack (key : κ)

namespace Boundary

variable {σ κ : Type} (boundary : Boundary σ κ)

/-- The same surroundings, with notes in the order in which they are taken. -/
def noted : Boundary (σ × List (Note σ κ)) κ where
  answer call state :=
    { reply := boundary.replyTo call state.1
      events := (boundary.answer call state.1).events
      state := (boundary.behind call state.1,
        state.2 ++ [.asked state.1 call (boundary.replyTo call state.1)]) }
  keyHandle key state :=
    ((boundary.keyHandle key state.1).1, ((boundary.keyHandle key state.1).2, state.2))
  keyAlgorithm := boundary.keyAlgorithm
  release key state := (boundary.release key state.1, state.2 ++ [.gaveBack key])

@[simp] theorem replyTo_noted (call : NativeCall) (state : σ × List (Note σ κ)) :
    boundary.noted.replyTo call state = boundary.replyTo call state.1 := rfl

@[simp] theorem behind_noted (call : NativeCall) (state : σ × List (Note σ κ)) :
    boundary.noted.behind call state =
      (boundary.behind call state.1,
        state.2 ++ [.asked state.1 call (boundary.replyTo call state.1)]) := rfl

@[simp] theorem keyHandle_noted (key : κ) (state : σ × List (Note σ κ)) :
    boundary.noted.keyHandle key state =
      ((boundary.keyHandle key state.1).1, ((boundary.keyHandle key state.1).2, state.2)) := rfl

@[simp] theorem release_noted (key : κ) (state : σ × List (Note σ κ)) :
    boundary.noted.release key state =
      (boundary.release key state.1, state.2 ++ [.gaveBack key]) := rfl

end Boundary

namespace Signature

variable {σ κ : Type} (boundary : Boundary σ κ)

@[simp] theorem resetOutcome_noted (signature : Signature κ) (state : σ × List (Note σ κ)) :
    signature.resetOutcome boundary.noted state = signature.resetOutcome boundary state.1 := rfl

@[simp] theorem reaches_noted (signature : Signature κ) (state : σ × List (Note σ κ)) :
    signature.reaches boundary.noted state = signature.reaches boundary state.1 := rfl

@[simp] theorem checkedState_noted (signature : Signature κ) (state : σ × List (Note σ κ)) :
    signature.checkedState boundary.noted state =
      (signature.checkedState boundary state.1, state.2) := by
  simp only [checkedState, checkedRun]
  cases signature.key <;> rfl

@[simp] theorem unboundState_noted (signature : Signature κ) (state : σ × List (Note σ κ)) :
    signature.unboundState boundary.noted state =
      (signature.unboundState boundary state.1,
        state.2 ++ signature.key.toList.map .gaveBack) := by
  simp only [unboundState, unboundRun]
  cases signature.key with
  | none => simp
  | some key => rfl

/-- Taking notes changes no turn and no signature, and no state but by the notes. -/
theorem turn_noted (signature : Signature κ) (operation : Operation κ)
    (state : σ × List (Note σ κ)) :
    let noted := signature.turn boundary.noted operation state
    let plain := signature.turn boundary operation state.1
    noted.1 = plain.1 ∧ noted.2.1 = plain.2.1 ∧ noted.2.2.1 = plain.2.2 := by
  cases operation with
  | start key plainRsa =>
      simp only [turn_start, unboundState_noted, resetOutcome_noted, Boundary.behind_noted,
        Boundary.keyHandle_noted]
      cases signature.resetOutcome boundary (signature.unboundState boundary state.1) with
      | error failure => exact ⟨rfl, rfl, rfl⟩
      | ok =>
          simp only
          cases (boundary.keyHandle key (boundary.behind signature.resetCall
            (signature.unboundState boundary state.1))).1.isValid <;> exact ⟨rfl, rfl, rfl⟩
  | update buffer span =>
      rw [turn_update, turn_update]
      by_cases hwithin : span.Within buffer
      · simp [hwithin]
      · simp [hwithin]
  | sign =>
      simp only [turn_sign, reaches_noted, checkedState_noted]
      cases signature.reaches boundary state.1 <;> exact ⟨rfl, rfl, rfl⟩
  | verify candidate =>
      simp only [turn_verify, reaches_noted, checkedState_noted]
      cases signature.reaches boundary state.1 <;> exact ⟨rfl, rfl, rfl⟩

theorem turns_noted (operations : List (Operation κ)) (signature : Signature κ)
    (state : σ × List (Note σ κ)) :
    let noted := signature.turns boundary.noted operations state
    let plain := signature.turns boundary operations state.1
    noted.1 = plain.1 ∧ noted.2.1 = plain.2.1 ∧ noted.2.2.1 = plain.2.2 := by
  induction operations generalizing signature state with
  | nil => exact ⟨rfl, rfl, rfl⟩
  | cons operation rest ih =>
      obtain ⟨hturn, hsignature, hstate⟩ := turn_noted boundary signature operation state
      cases haborts : (signature.turn boundary operation state.1).1.aborts with
      | true =>
          rw [turns_cons_of_aborts boundary signature rest haborts,
            turns_cons_of_aborts boundary.noted signature rest (hturn ▸ haborts)]
          exact ⟨by rw [hturn], hsignature, hstate⟩
      | false =>
          rw [turns_cons boundary signature rest haborts,
            turns_cons boundary.noted signature rest (hturn ▸ haborts)]
          obtain ⟨hturns, hlast, hend⟩ :=
            ih (signature.turn boundary.noted operation state).2.1
              (signature.turn boundary.noted operation state).2.2
          rw [hsignature, hstate] at hturns hlast hend
          exact ⟨by simp only [hturn, hsignature, hturns], by simp only [hsignature, hlast],
            by simp only [hsignature, hend]⟩

end Signature

end SigningEngine
