import SigningEngine.Proofs.Run

/-!
# What an attempt does

An attempt that starts in a state of its surroundings ends with an outcome, has made calls and
leaves a state behind. None of this depends on what was recorded before. What a sequence of attempts
does is put together from what each of them does, and a failure ends the sequence.
-/

namespace SigningEngine.Attempt

variable {σ κ α β : Type} (boundary : Boundary σ κ)

/-- From a state, an attempt ends with this outcome, makes these calls and leaves this state. -/
def Does (x : Attempt σ α) (state : σ) (outcome : Except Failure α) (calls : List NativeCall)
    (next : σ) : Prop :=
  ∀ run : Run σ, run.state = state →
    (x.outcome run).1 = outcome ∧ (x.outcome run).2.calls.toList = run.calls.toList ++ calls ∧
      (x.outcome run).2.state = next

theorem does_pure (a : α) (state : σ) : (pure a : Attempt σ α).Does state (.ok a) [] state :=
  fun _ hrun => ⟨rfl, (List.append_nil _).symm, hrun⟩

theorem does_throw (failure : Failure) (state : σ) :
    (throw failure : Attempt σ α).Does state (.error failure) [] state :=
  fun _ hrun => ⟨rfl, (List.append_nil _).symm, hrun⟩

theorem does_fail (e : EngineError) (state : σ) :
    (fail e : Attempt σ α).Does state (.error (.error e)) [] state :=
  does_throw (.error e) state

theorem does_log (event : Event) (state : σ) : (log event).Does state (.ok ()) [] state :=
  fun _ hrun => ⟨rfl, (List.append_nil _).symm, hrun⟩

theorem does_request (call : NativeCall) (state : σ) :
    (boundary.request call).Does state ((boundary.replyTo call state).mapError .panic) [call]
      (boundary.behind call state) := by
  rintro run rfl
  rw [outcome_request]
  exact ⟨rfl, Array.toList_push, rfl⟩

variable {x : Attempt σ α} {state middle next : σ} {calls more : List NativeCall}

/-- A request whose report becomes an error, for the calls that may report one. -/
theorem Does.orError {x : Attempt σ (Except NativeError α)}
    {reply : Except String (Except NativeError α)}
    (hx : x.Does state (reply.mapError .panic) calls next) (error : NativeError → EngineError) :
    (x.orError error).Does state (Failure.ofReply error reply) calls next := by
  intro run hrun
  obtain ⟨houtcome, hcalls, hnext⟩ := hx run hrun
  rw [outcome_orError error (Prod.ext houtcome rfl)]
  exact ⟨rfl, hcalls, hnext⟩

theorem Does.bind {a : α} {f : α → Attempt σ β} {outcome : Except Failure β}
    (hx : x.Does state (.ok a) calls middle) (hf : (f a).Does middle outcome more next) :
    (x >>= f).Does state outcome (calls ++ more) next := by
  intro run hrun
  obtain ⟨hfirst, hcalls, hmiddle⟩ := hx run hrun
  obtain ⟨hlast, hmore, hnext⟩ := hf (x.outcome run).2 hmiddle
  have hbind : (x >>= f).outcome run = (f a).outcome (x.outcome run).2 := by
    rw [outcome_bind]
    split
    next value behind hvalue =>
      rw [hvalue, Except.ok.injEq] at hfirst
      rw [hvalue, hfirst]
    next failure behind hfailure =>
      rw [hfailure] at hfirst
      cases hfirst
  rw [hbind]
  exact ⟨hlast, by rw [hmore, hcalls, List.append_assoc], hnext⟩

/-- A failure ends a sequence. -/
theorem Does.bind_error {failure : Failure} (f : α → Attempt σ β)
    (hx : x.Does state (.error failure) calls next) :
    (x >>= f).Does state (.error failure) calls next := by
  intro run hrun
  obtain ⟨hfirst, hcalls, hnext⟩ := hx run hrun
  have hbind : (x >>= f).outcome run = (.error failure, (x.outcome run).2) := by
    rw [outcome_bind]
    split
    next value behind hvalue =>
      rw [hvalue] at hfirst
      cases hfirst
    next other behind hother =>
      rw [hother, Except.error.injEq] at hfirst
      rw [hother, hfirst]
  rw [hbind]
  exact ⟨rfl, hcalls, hnext⟩

/-- What an attempt does from an empty record. -/
theorem Does.run {outcome : Except Failure α} (h : x.Does state outcome calls next) :
    (x.outcome { state }).1 = outcome ∧ (x.outcome { state }).2.calls.toList = calls ∧
      (x.outcome { state }).2.state = next :=
  h { state } rfl

end SigningEngine.Attempt
