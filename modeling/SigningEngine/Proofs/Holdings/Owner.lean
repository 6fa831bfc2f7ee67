import SigningEngine.Proofs.Observed

/-!
# Owners of digests

A digest that the engine keeps is owned by a digest by itself, or by a signature that feeds it. The
engine is asked for it once, when the owner is created. What the owner is used for works on this
digest alone, and dropping the owner is what frees it.
-/

namespace SigningEngine

inductive Owner (κ : Type) where
  | ofDigest (digest : Digest)
  | ofSignature (signature : Signature κ)
  deriving DecidableEq, Repr

namespace Owner

/-- The kinds of owners. -/
inductive Kind where
  | digest
  | signature
  deriving DecidableEq, Repr

/-- What an owner may be used for. A digest by itself is fed and reset, and a signature operates. -/
inductive Use (κ : Type) where
  | feed (data : Bytes)
  | reset
  | operate (operation : Signature.Operation κ)
  deriving DecidableEq, Repr

variable {σ κ : Type}

/-- The digest that is owned. -/
def owned : Owner κ → Digest
  | ofDigest digest => digest
  | ofSignature signature => signature.digest

/-- The new owner of a digest. -/
def Kind.of : Kind → Digest → Owner κ
  | .digest, owned => .ofDigest owned
  | .signature, owned => .ofSignature { digest := owned }

@[simp] theorem owned_of (kind : Kind) (digest : Digest) :
    (kind.of digest : Owner κ).owned = digest := by
  cases kind <;> rfl

variable (boundary : Boundary σ κ)

def create (context : ContextHandle) (algorithm : String) : Kind → Attempt σ (Owner κ)
  | .digest => do return .ofDigest (← Digest.create boundary context algorithm)
  | .signature => do return .ofSignature (← Signature.create boundary context algorithm)

/-- Uses an owner, and gives it as it is from then on. A use that its kind does not have is none. -/
def used (owner : Owner κ) (use : Use κ) : Native σ (Except Failure Unit × Owner κ) :=
  match owner, use with
  | .ofDigest digest, .feed data => do return (← (digest.update boundary data).outcome, owner)
  | .ofDigest digest, .reset => do return (← (digest.reset boundary).outcome, owner)
  | .ofSignature signature, .operate operation => do
    let (outcome, signature) ← signature.perform boundary operation
    return (outcome.map fun _ => (), .ofSignature signature)
  | _, _ => return (.ok (), owner)

def drop : Owner κ → Attempt σ Unit
  | .ofDigest digest => digest.free boundary
  | .ofSignature signature => signature.drop boundary

/-! ### Creation -/

theorem outcome_create (context : ContextHandle) (algorithm : String) (kind : Kind)
    (run : Run σ) :
    (create boundary context algorithm kind).outcome run =
      (((Digest.create boundary context algorithm).outcome run).1.map kind.of,
        boundary.asked (.digestCreate context algorithm) run) := by
  cases kind with
  | digest =>
      rw [create, Attempt.outcome_bind, Digest.outcome_create]
      split
      · rename_i h
        rw [(Prod.mk.inj h).1, (Prod.mk.inj h).2]
        rfl
      · rename_i h
        rw [(Prod.mk.inj h).1, (Prod.mk.inj h).2]
        rfl
  | signature =>
      rw [create, Attempt.outcome_bind, Signature.outcome_create]
      cases ((Digest.create boundary context algorithm).outcome run).1 <;> rfl

theorem outcome_create_observed (context : ContextHandle) (algorithm : String) (kind : Kind)
    (state : σ) :
    (create boundary.observed context algorithm kind).outcome { state := (state, []) } =
      (((create boundary context algorithm kind).outcome { state }).1,
        boundary.observed.asked (.digestCreate context algorithm) { state := (state, []) }) := by
  simp only [outcome_create, Digest.outcome_create]
  rfl

/-- An owner that is created owns a digest whose handle is valid, and which the engine gave. -/
theorem create_eq_ok {context : ContextHandle} {algorithm : String} {kind : Kind} {run : Run σ}
    {owner : Owner κ}
    (h : ((create boundary context algorithm kind).outcome run).1 = .ok owner) :
    (boundary.replyTo (.digestCreate context algorithm) run.state :
        Except String (Except NativeError DigestHandle)) = .ok (.ok owner.owned.handle) ∧
      owner.owned.handle.isValid = true ∧ owner.owned.context = context ∧
      owner.owned.algorithm = algorithm := by
  rw [outcome_create] at h
  cases hdigest : ((Digest.create boundary context algorithm).outcome run).1 with
  | error failure =>
      rw [hdigest] at h
      cases h
  | ok digest =>
      rw [hdigest, Except.map, Except.ok.injEq] at h
      obtain ⟨hreply, hvalid, hmade, -⟩ := Digest.create_eq_ok boundary (Prod.ext hdigest rfl)
      rw [← h, owned_of]
      exact ⟨hreply, hvalid, congrArg Digest.context hmade, congrArg Digest.algorithm hmade⟩

/-- No owner is created without a handle that is valid. -/
theorem create_eq_error {context : ContextHandle} {algorithm : String} {kind : Kind}
    {state : σ} {failure : Failure}
    (h : ((create boundary context algorithm kind).outcome { state }).1 = .error failure)
    (handle : DigestHandle)
    (hreply : (boundary.replyTo (.digestCreate context algorithm) state :
      Except String (Except NativeError DigestHandle)) = .ok (.ok handle)) :
    handle.isValid = false := by
  rw [outcome_create, Digest.outcome_create, hreply] at h
  simp only at h
  cases hvalid : handle.isValid with
  | false => rfl
  | true =>
      rw [hvalid] at h
      cases h

/-! ### Use -/

/-- A call that works on a digest: it feeds or resets it, or judges what it holds. -/
inductive WorksOn (digest : Digest) : NativeCall → Prop where
  | update (data : Bytes) :
      WorksOn digest (.digestUpdate digest.context digest.handle data)
  | reset : WorksOn digest (.digestReset digest.context digest.handle)
  | sign (key : KeyHandle) (plainRsa : Bool) :
      WorksOn digest (.sign digest.context digest.handle key plainRsa)
  | verify (key : KeyHandle) (candidate : Bytes) :
      WorksOn digest (.verify digest.context digest.handle key candidate)

namespace WorksOn

variable {digest : Digest} {call : NativeCall}

theorem context? (h : WorksOn digest call) : call.context? = some digest.context := by
  cases h <;> rfl

theorem digest? (h : WorksOn digest call) : call.digest? = some digest.handle := by
  cases h <;> rfl

end WorksOn

theorem turn_start_calls (signature : Signature κ) (key : κ) (plainRsa : Bool) (state : σ) :
    Crossing.calls (signature.turn boundary.observed (.start key plainRsa) (state, [])).2.2.2 =
      [signature.resetCall] := by
  rw [Signature.turn_start]
  simp only [Signature.unboundState_observed, Signature.resetOutcome_observed,
    Boundary.behind_observed, Boundary.keyHandle_observed]
  split
  · rfl
  · split <;> rfl

/-- An operation of a signature works on the digest that it feeds. -/
theorem turn_worksOn (signature : Signature κ) (operation : Signature.Operation κ) (state : σ) :
    ∀ call ∈ Crossing.calls (signature.turn boundary.observed operation (state, [])).2.2.2,
      WorksOn signature.digest call := by
  cases operation with
  | start key plainRsa =>
      rw [turn_start_calls]
      rintro call hcall
      rw [List.mem_singleton.mp hcall]
      exact .reset
  | update buffer span =>
      rw [Signature.turn_update]
      split
      · simpa using WorksOn.update (span.cut buffer)
      · simp
  | sign =>
      rw [Signature.turn_sign]
      simp only [Signature.checkedState_observed, Signature.reaches_observed]
      split
      · simpa using ⟨WorksOn.sign _ _, WorksOn.reset⟩
      · simp
  | verify candidate =>
      rw [Signature.turn_verify]
      simp only [Signature.checkedState_observed, Signature.reaches_observed]
      split
      · simpa using ⟨WorksOn.verify _ _, WorksOn.reset⟩
      · simp

theorem used_feed_calls (digest : Digest) (data : Bytes) (state : σ) :
    Crossing.calls
        ((ofDigest digest).used boundary.observed (.feed data) { state := (state, []) }).2.state.2 =
      [.digestUpdate digest.context digest.handle data] := by
  simp only [used, stateM_bind, Digest.outcome_update]
  rfl

theorem used_reset_calls (digest : Digest) (state : σ) :
    Crossing.calls
        ((ofDigest digest).used boundary.observed .reset { state := (state, []) }).2.state.2 =
      [.digestReset digest.context digest.handle] := by
  simp only [used, stateM_bind, Digest.outcome_reset]
  rfl

/-- Using an owner works on the digest that it owns, and it owns it still. -/
theorem used_worksOn (owner : Owner κ) (use : Use κ) (state : σ) :
    let ran := owner.used boundary.observed use { state := (state, []) }
    ran.1.2.owned = owner.owned ∧
      ∀ call ∈ Crossing.calls ran.2.state.2, WorksOn owner.owned call := by
  cases owner with
  | ofDigest digest =>
      cases use with
      | feed data =>
          refine ⟨rfl, ?_⟩
          rw [used_feed_calls]
          simpa [owned] using WorksOn.update data
      | reset =>
          refine ⟨rfl, ?_⟩
          rw [used_reset_calls]
          simpa [owned] using WorksOn.reset
      | operate operation => exact ⟨rfl, by simp [used]⟩
  | ofSignature signature =>
      cases use with
      | feed data => exact ⟨rfl, by simp [used]⟩
      | reset => exact ⟨rfl, by simp [used]⟩
      | operate operation =>
          exact ⟨signature.turn_digest boundary.observed operation (state, []),
            turn_worksOn boundary signature operation state⟩

/-! ### Drop -/

/-- The state behind the return of the reference to the bound key, if there is one. -/
def letGo : Owner κ → σ → σ
  | .ofDigest _, state => state
  | .ofSignature signature, state => signature.unboundState boundary state

@[simp] theorem letGo_observed (owner : Owner κ) (state : σ × List (Crossing κ)) :
    owner.letGo boundary.observed state = (owner.letGo boundary state.1, state.2) := by
  cases owner with
  | ofDigest digest => rfl
  | ofSignature signature => exact signature.unboundState_observed boundary state

/-- Dropping an owner frees its digest. How that ends is how the drop ends, and what a signature has
bound is given back in any case. -/
theorem outcome_drop (owner : Owner κ) (run : Run σ) :
    let call := owner.owned.freeCall
    let reply := boundary.replyTo call run.state
    (owner.drop boundary).outcome run =
      (Digest.freed reply,
        { state := owner.letGo boundary (boundary.behind call run.state)
          calls := run.calls.push call
          events := run.events ++ (boundary.answer call run.state).events ++
            owner.owned.freeWarnings reply }) := by
  cases owner with
  | ofDigest digest => exact digest.outcome_free boundary run
  | ofSignature signature =>
      simp only [drop, Signature.outcome_drop, Digest.outcome_free, Signature.unboundRun_eq]
      rfl

end Owner

end SigningEngine
