import SigningEngine.Proofs.Signature.Operation

/-!
# The calls of a signature

From its creation to its drop a signature makes its calls in blocks, one block for each operation.
The engine may give any reply to any call, and panic at any call; the bound key may show another
handle at each reading. The only thing that cuts a life short is the end of the process, which is a
panic that meets another panic.

The main statement is `calls_of_life`. A block that signs or verifies is two calls, and the second
of them resets the digest whatever the reply to the first one was.
-/

namespace SigningEngine.Signature

variable {σ κ α : Type} (boundary : Boundary σ κ)

/-- The calls that an operation on a signature with this digest makes. Where there are two of them,
the second is made in the state that the first one left. -/
inductive Block (context : ContextHandle) (digest : DigestHandle) : Turn κ → Prop where
  | start {key : κ} {plainRsa : Bool} {outcome : Except Failure Unit}
      (running : outcome ≠ .error .abort) :
      Block context digest ⟨.start key plainRsa, outcome, [.digestReset context digest]⟩
  | fed {buffer : Bytes} {span : Span} {error : NativeError → EngineError} (state : σ)
      (within : span.Within buffer) :
      Block context digest
        ⟨.update buffer span,
          Failure.ofReply error
            (boundary.replyTo (.digestUpdate context digest (span.cut buffer)) state),
          [.digestUpdate context digest (span.cut buffer)]⟩
  | refused {buffer : Bytes} {span : Span} (outside : ¬ span.Within buffer) :
      Block context digest ⟨.update buffer span, .error (.error (badSlice buffer span)), []⟩
  | notSigned {e : EngineError} (refusal : e = notInitialized ∨ e = badHandle) :
      Block context digest ⟨.sign, .error (.error e), []⟩
  | signed {key : KeyHandle} {plainRsa : Bool} {error : NativeError → EngineError} (state : σ) :
      Block context digest
        ⟨.sign,
          settled "sign" (boundary.replyTo (.sign context digest key plainRsa) state)
            (Failure.ofReply error (boundary.replyTo (.digestReset context digest)
              (boundary.behind (.sign context digest key plainRsa) state))),
          [.sign context digest key plainRsa, .digestReset context digest]⟩
  | notVerified {candidate : Bytes} {e : EngineError}
      (refusal : e = notInitialized ∨ e = badHandle) :
      Block context digest ⟨.verify candidate, .error (.error e), []⟩
  | verified {candidate : Bytes} {key : KeyHandle} {error : NativeError → EngineError} (state : σ) :
      Block context digest
        ⟨.verify candidate,
          settled "verify" (boundary.replyTo (.verify context digest key candidate) state)
            (Failure.ofReply error (boundary.replyTo (.digestReset context digest)
              (boundary.behind (.verify context digest key candidate) state))),
          [.verify context digest key candidate, .digestReset context digest]⟩

theorem refusal_eq (signature : Signature κ) :
    signature.refusal = notInitialized ∨ signature.refusal = badHandle := by
  rw [refusal]
  split
  · exact .inr rfl
  · exact .inl rfl

theorem turn_block (signature : Signature κ) (operation : Operation κ) (state : σ) :
    Block boundary signature.digest.context signature.digest.handle
      (signature.turn boundary operation state).1 := by
  cases operation with
  | start key plainRsa =>
      rw [turn_start]
      simp only
      split
      next failure hreset =>
        refine .start fun habort => ?_
        exact Failure.ofReply_ne_abort _ _ (hreset.trans habort)
      next =>
        split
        · exact .start (by simp)
        · exact .start (by simp)
  | update buffer span =>
      rw [turn_update]
      split
      next within => exact .fed state within
      next outside => exact .refused outside
  | sign =>
      rw [turn_sign]
      simp only
      split
      · exact .signed _
      · exact .notSigned signature.refusal_eq
  | verify candidate =>
      rw [turn_verify]
      simp only
      split
      · exact .verified _
      · exact .notVerified signature.refusal_eq

/-- Every turn is one block, over the digest that the signature was created with. -/
theorem turns_block (operations : List (Operation κ)) (signature : Signature κ) (state : σ) :
    ∀ turn ∈ (signature.turns boundary operations state).1,
      Block boundary signature.digest.context signature.digest.handle turn := by
  induction operations generalizing signature state with
  | nil => simp
  | cons operation rest ih =>
      have hfirst := signature.turn_block boundary operation state
      cases haborts : (signature.turn boundary operation state).1.aborts with
      | true =>
          rw [turns_cons_of_aborts boundary signature rest haborts]
          simpa using hfirst
      | false =>
          rw [turns_cons boundary signature rest haborts]
          intro turn hturn
          rcases List.mem_cons.mp hturn with rfl | hother
          · exact hfirst
          · rw [← turn_digest boundary signature operation state]
            exact ih _ _ turn hother

/-- Either every operation had its turn, or the process ended in the last turn there was. -/
theorem turns_complete (operations : List (Operation κ)) (signature : Signature κ) (state : σ) :
    let turns := (signature.turns boundary operations state).1
    (turns.map Turn.operation = operations ∧ ∀ turn ∈ turns, turn.aborts = false) ∨
      (turns.map Turn.operation <+: operations ∧
        ∃ done last, turns = done ++ [last] ∧ last.aborts = true) := by
  induction operations generalizing signature state with
  | nil => simp
  | cons operation rest ih =>
      cases haborts : (signature.turn boundary operation state).1.aborts with
      | true =>
          rw [turns_cons_of_aborts boundary signature rest haborts]
          refine .inr ⟨?_, [], _, rfl, haborts⟩
          simp [turn_operation]
      | false =>
          rw [turns_cons boundary signature rest haborts]
          have hoperation := turn_operation boundary signature operation state
          rcases ih (signature.turn boundary operation state).2.1
              (signature.turn boundary operation state).2.2 with
            ⟨hall, hnone⟩ | ⟨hpartial, done, last, hdone, hlast⟩
          · refine .inl ⟨by simp only [List.map_cons, hall, hoperation], ?_⟩
            intro turn hturn
            rcases List.mem_cons.mp hturn with rfl | hother
            · exact haborts
            · exact hnone turn hother
          · refine .inr ⟨?_, (signature.turn boundary operation state).1 :: done, last, ?_, hlast⟩
            · simpa only [List.map_cons, hoperation, List.prefix_cons_inj] using hpartial
            · simp only [hdone, List.cons_append]

/-- What a signature did from its creation to its drop. -/
structure Life (κ : Type) where
  /-- The calls that created its digest. -/
  creation : List NativeCall
  turns : List (Turn κ)
  /-- The calls of its drop. -/
  ending : List NativeCall

/-- Creates a signature, carries out operations on it, and drops it unless the process has ended. -/
def life (context : ContextHandle) (algorithm : String) (operations : List (Operation κ))
    (state : σ) : Life κ :=
  match (create boundary context algorithm : Attempt σ (Signature κ)).outcome { state } with
  | (.error _, run) => { creation := run.calls.toList, turns := [], ending := [] }
  | (.ok signature, run) =>
    let (turns, signature, state) := signature.turns boundary operations run.state
    { creation := run.calls.toList
      turns
      ending :=
        if turns.any Turn.aborts then []
        else ((signature.drop boundary).outcome { state }).2.calls.toList }

theorem drop_calls (signature : Signature κ) (state : σ) :
    ((signature.drop boundary).outcome { state }).2.calls.toList = [signature.digest.freeCall] := by
  simp only [outcome_drop, unboundRun_eq, Digest.outcome_free]
  rfl

/-- All calls of a life, in order. -/
def Life.calls (life : Life κ) : List NativeCall :=
  life.creation ++ life.turns.flatMap Turn.calls ++ life.ending

/-- What follows the creation of a digest: one block for each operation, and the call that frees the
digest. Only the end of the process leaves operations out, and the free with them. -/
theorem life_of_created (context : ContextHandle) (algorithm : String)
    (operations : List (Operation κ)) (state : σ) {signature : Signature κ} {run : Run σ}
    (hcreated : (create boundary context algorithm : Attempt σ (Signature κ)).outcome { state } =
      (.ok signature, run)) :
    let life := life boundary context algorithm operations state
    (∀ turn ∈ life.turns,
        Block boundary signature.digest.context signature.digest.handle turn) ∧
      ((life.turns.map Turn.operation = operations ∧
          (∀ turn ∈ life.turns, turn.aborts = false) ∧
          life.ending = [signature.digest.freeCall]) ∨
        (life.turns.map Turn.operation <+: operations ∧
          (∃ done last, life.turns = done ++ [last] ∧ last.aborts = true) ∧
          life.ending = [])) := by
  simp only [life, hcreated]
  refine ⟨turns_block boundary operations signature run.state, ?_⟩
  rcases turns_complete boundary operations signature run.state with
    ⟨hall, hnone⟩ | ⟨hpartial, done, last, hdone, hlast⟩
  · refine .inl ⟨hall, hnone, ?_⟩
    have hany : (signature.turns boundary operations run.state).1.any Turn.aborts = false := by
      simpa using hnone
    rw [if_neg (by simp [hany]), drop_calls, turns_digest]
  · refine .inr ⟨hpartial, ⟨done, last, hdone, hlast⟩, ?_⟩
    rw [if_pos (by simp [hdone, hlast])]

theorem life_creation (context : ContextHandle) (algorithm : String)
    (operations : List (Operation κ)) (state : σ) :
    (life boundary context algorithm operations state).creation =
      [.digestCreate context algorithm] := by
  have hcreate : (create boundary context algorithm : Attempt σ (Signature κ)).outcome { state } =
      _ := outcome_create boundary context algorithm { state }
  rw [life, hcreate]
  cases ((Digest.create boundary context algorithm).outcome { state }).1 <;> rfl

theorem life_of_failed (context : ContextHandle) (algorithm : String)
    (operations : List (Operation κ)) (state : σ) {failure : Failure} {run : Run σ}
    (hfailed : (create boundary context algorithm : Attempt σ (Signature κ)).outcome { state } =
      (.error failure, run)) :
    let life := life boundary context algorithm operations state
    life.turns = [] ∧ life.ending = [] := by
  simp [life, hfailed]

/-- The calls of a signature from its creation to its drop. A digest that is not created, or that
the engine gives the invalid handle, has no other call. -/
theorem calls_of_life (context : ContextHandle) (algorithm : String)
    (operations : List (Operation κ)) (state : σ) :
    let life := life boundary context algorithm operations state
    life.creation = [.digestCreate context algorithm] ∧
      match (boundary.replyTo (.digestCreate context algorithm) state :
        Except String (Except NativeError DigestHandle)) with
      | .ok (.ok handle) =>
        if handle.isValid then
          (∀ turn ∈ life.turns, Block boundary context handle turn) ∧
            ((life.turns.map Turn.operation = operations ∧
                (∀ turn ∈ life.turns, turn.aborts = false) ∧
                life.ending = [.digestFree context handle]) ∨
              (life.turns.map Turn.operation <+: operations ∧
                (∃ done last, life.turns = done ++ [last] ∧ last.aborts = true) ∧
                life.ending = []))
        else life.turns = [] ∧ life.ending = []
      | _ => life.turns = [] ∧ life.ending = [] := by
  refine ⟨life_creation boundary context algorithm operations state, ?_⟩
  have hcreate : (create boundary context algorithm : Attempt σ (Signature κ)).outcome { state } =
      _ := outcome_create boundary context algorithm { state }
  rw [Digest.outcome_create] at hcreate
  simp only at hcreate
  match boundary.replyTo (.digestCreate context algorithm) state, hcreate with
  | .ok (.ok handle), hcreate =>
      simp only at hcreate ⊢
      split
      next hvalid =>
        rw [if_pos hvalid] at hcreate
        exact life_of_created boundary context algorithm operations state hcreate
      next hinvalid =>
        rw [if_neg hinvalid] at hcreate
        exact life_of_failed boundary context algorithm operations state hcreate
  | .ok (.error e), hcreate =>
      exact life_of_failed boundary context algorithm operations state hcreate
  | .error message, hcreate =>
      exact life_of_failed boundary context algorithm operations state hcreate

end SigningEngine.Signature
