import SigningEngine.Proofs.Holdings.Run
import SigningEngine.World

/-!
# The handle that a context is built on

Where exhausted attempts are a failure, a context is only built on a handle with which the engine
answered the last attempt. This handle is taken as it is: an engine that answers with the invalid
handle gets a context on it. Whatever the handle is, everything that goes through the context carries
it, the calls of its owners of digests included.

The main statement is `built_on_answer`.
-/

namespace SigningEngine

namespace Holdings

variable {σ κ : Type} (boundary : Boundary σ κ)

/-- There is a context at a place, built on this handle, and what is owned in it remembers it. -/
structure BuiltOn (holdings : Holdings κ) (place : ℕ) (handle : ContextHandle) : Prop where
  context : ∃ context, holdings.contexts[place]? = some context ∧ context.handle = handle
  owners : ∀ other held, holdings.owner? other = some held → held.context = place →
    held.owner.owned.context = handle

namespace BuiltOn

variable {holdings : Holdings κ} {place : ℕ} {handle : ContextHandle}

/-- A context that is there is still there with one more. -/
theorem withContext (h : holdings.BuiltOn place handle) (more : Context) :
    (holdings.withContext more).BuiltOn place handle := by
  obtain ⟨context, hcontext, hhandle⟩ := h.context
  obtain ⟨hlt, -⟩ := List.getElem?_eq_some_iff.mp hcontext
  refine ⟨⟨context, ?_, hhandle⟩, h.owners⟩
  rw [Holdings.withContext, List.getElem?_append_left hlt, hcontext]

/-- What a context keeps does not matter. -/
theorem set (h : holdings.BuiltOn place handle) {other : ℕ} {context asked : Context}
    (hfound : holdings.contexts[other]? = some context) (hasked : asked.handle = context.handle) :
    BuiltOn { holdings with contexts := holdings.contexts.set other asked } place handle := by
  obtain ⟨found, hcontext, hhandle⟩ := h.context
  refine ⟨?_, h.owners⟩
  by_cases hsame : other = place
  · subst hsame
    obtain ⟨hlt, -⟩ := List.getElem?_eq_some_iff.mp hcontext
    rw [hcontext, Option.some.injEq] at hfound
    exact ⟨asked, List.getElem?_set_self hlt, by rw [hasked, ← hfound, hhandle]⟩
  · exact ⟨found, by rw [List.getElem?_set_ne hsame, hcontext], hhandle⟩

theorem withOwner (h : holdings.BuiltOn place handle) {held? : Option (Held κ)}
    (hmade : ∀ held ∈ held?, held.context = place → held.owner.owned.context = handle) :
    (holdings.withOwner held?).BuiltOn place handle := by
  refine ⟨h.context, ?_⟩
  intro other held hheld hplace
  by_cases hnew : other = holdings.owners.length
  · subst hnew
    rw [owner?_withOwner_length] at hheld
    exact hmade held hheld hplace
  · rw [owner?_withOwner_of_ne _ hnew] at hheld
    exact h.owners other held hheld hplace

theorem put (h : holdings.BuiltOn place handle) {other : ℕ} {found : Held κ}
    {held? : Option (Held κ)} (hfound : holdings.owner? other = some found)
    (hmade : ∀ held ∈ held?, held.context = place → held.owner.owned.context = handle) :
    (holdings.put other held?).BuiltOn place handle := by
  refine ⟨h.context, ?_⟩
  intro another held hheld hplace
  by_cases hsame : another = other
  · rw [hsame, owner?_put_self _ hfound] at hheld
    exact hmade held hheld hplace
  · rw [owner?_put_of_ne _ hsame] at hheld
    exact h.owners another held hheld hplace

theorem of_apart {transition : Transition σ κ} (apart : transition.Apart)
    (h : transition.before.BuiltOn place handle) :
    (transition.context? = some place → ∀ call ∈ transition.calls, call.context? = some handle) ∧
      transition.after.BuiltOn place handle := by
  obtain ⟨built, hbuilt, hhandle⟩ := h.context
  cases apart with
  | idle crossings after =>
      rw [Transition.calls, crossings, after]
      exact ⟨by simp, h⟩
  | contextCreated step calls after =>
      constructor
      · intro hplace
        rw [Transition.context?, step, Option.some.injEq] at hplace
        rw [← hplace, List.getElem?_eq_none (Nat.le_refl _)] at hbuilt
        cases hbuilt
      · rcases after with after | ⟨context, after⟩
        · exact after ▸ h
        · exact after ▸ h.withContext context
  | asked step found calls handle after =>
      constructor
      · intro hplace call hcall
        rw [Transition.context?, step, Option.some.injEq] at hplace
        obtain ⟨value, rfl⟩ := calls call hcall
        rw [hplace, hbuilt, Option.some.injEq] at found
        rw [NativeCall.context?, ← found, hhandle]
      · exact after ▸ h.set found handle

/-- A context stays at its place, and whatever goes through it carries its handle. -/
theorem along {transition : Transition σ κ} (can : transition.Can)
    (h : transition.before.BuiltOn place handle) :
    (transition.context? = some place → ∀ call ∈ transition.calls, call.context? = some handle) ∧
      transition.after.BuiltOn place handle := by
  obtain ⟨built, hbuilt, hhandle⟩ := h.context
  cases can with
  | apart apart => exact of_apart apart h
  | refused step found crossings unusable outcome after =>
      constructor
      · intro hplace
        rw [Transition.context?, step, Option.some.injEq] at hplace
        rw [hplace, hbuilt, Option.some.injEq] at found
        rw [Transition.calls_of_asked crossings, ← found]
        simpa [NativeCall.context?] using hhandle
      · exact after ▸ h.withOwner (by simp)
  | created step found crossings outcome valid made named after =>
      constructor
      · intro hplace
        rw [Transition.context?, step, Option.some.injEq] at hplace
        rw [hplace, hbuilt, Option.some.injEq] at found
        rw [Transition.calls_of_asked crossings, ← found]
        simpa [NativeCall.context?] using hhandle
      · rw [after]
        apply h.withOwner
        rintro held ⟨⟩ hplace
        rw [← hplace, found, Option.some.injEq] at hbuilt
        rw [made, hbuilt, hhandle]
  | used step found calls owned after =>
      constructor
      · intro hplace call hcall
        rw [Transition.context?, step] at hplace
        simp only [found, Option.map_some, Option.some.injEq] at hplace
        rw [(calls call hcall).context?, h.owners _ _ found hplace]
      · rw [after]
        apply h.put found
        rintro held ⟨⟩ hplace
        rw [owned, h.owners _ _ found hplace]
  | dropped step found crossings after =>
      constructor
      · intro hplace call hcall
        rw [Transition.context?, step] at hplace
        simp only [found, Option.map_some, Option.some.injEq] at hplace
        rw [Transition.calls_of_asked crossings, List.mem_singleton] at hcall
        rw [hcall]
        exact congrArg some (h.owners _ _ found hplace)
      · exact after ▸ h.put found (by simp)

end BuiltOn

variable {holdings : Holdings κ} {place : ℕ} {handle : ContextHandle}

theorem run_builtOn (h : holdings.BuiltOn place handle) (steps : List (Step σ κ)) (state : σ) :
    ∀ transition ∈ holdings.run boundary steps state, transition.context? = some place →
      ∀ call ∈ transition.calls, call.context? = some handle := by
  apply run_forall boundary (A := fun _ => True)
    (P := fun holdings _ => holdings.BuiltOn place handle)
    (Q := fun transition => transition.context? = some place →
      ∀ call ∈ transition.calls, call.context? = some handle)
  · intro holdings step state _ hholds
    apply BuiltOn.along (take_can step)
    rwa [take_before]
  · exact fun _ _ => trivial
  · exact h

theorem builtOn_first (context : Context) :
    BuiltOn ({ contexts := [context] } : Holdings κ) 0 context.handle where
  context := ⟨context, rfl, rfl⟩
  owners other held hheld := by simp [owner?] at hheld

end Holdings

namespace Context

variable {σ κ : Type} (boundary : Boundary σ κ)

/-- Under this policy, only a handle that the engine answered with is built on. -/
theorem handleFor_fail {fips : Bool} {config : ContextConfig}
    (hpolicy : config.onExhaustedRetries = .fail)
    {answer : Except String (Except NativeError ContextHandle)} {handle : ContextHandle}
    (h : handleFor fips config answer = .ok handle) : answer = .ok (.ok handle) := by
  match answer, h with
  | .ok (.ok _), h =>
      rw [handleFor, Except.ok.injEq] at h
      rw [h]
  | .ok (.error e), h =>
      rw [handleFor, handleByPolicy, hpolicy] at h
      split at h <;> cases h

/-- A context that is created where exhausted attempts are a failure has the handle with which the
engine answered the last attempt. Everything that is called with a context while it is created
carries this handle, and so does everything that ever goes through it, whatever else is held and
done. The handle is valid exactly if the engine did not answer with the invalid one. -/
theorem built_on_answer {fips : Bool} {config : ContextConfig} {state : σ} {context : Context}
    (hpolicy : config.onExhaustedRetries = .fail)
    (hcreated : ((create boundary fips config).outcome { state }).1 = .ok context) :
    let last := attemptsMade boundary fips (attemptsAllowed fips config) state - 1
    answerAfter boundary fips last state = .ok (.ok context.handle) ∧
      (∀ call ∈ ((create boundary fips config).outcome { state }).2.calls,
        call = .createContext fips ∨ call.context? = some context.handle) ∧
      (∀ (steps : List (Holdings.Step σ κ)) (next : σ),
        ∀ transition ∈ ({ contexts := [context] } : Holdings κ).run boundary steps next,
          transition.context? = some 0 →
            ∀ call ∈ transition.calls, call.context? = some context.handle) ∧
      (context.handle.isValid = true ↔
        answerAfter boundary fips last state ≠ .ok (.ok .invalid)) := by
  intro last
  obtain ⟨htold, hmade, -⟩ := (create_does boundary fips config state).run
  have houtcome : (creation boundary fips config state).outcome = .ok context :=
    htold.symm.trans hcreated
  have hanswer : answerAfter boundary fips last state = .ok (.ok context.handle) :=
    handleFor_fail hpolicy (handleFor_of_created boundary houtcome)
  refine ⟨hanswer, ?_, ?_, ?_⟩
  · intro call hcall
    have hcalls := creation_calls boundary fips config state call
    rw [houtcome, ← hmade] at hcalls
    rcases hcalls (Array.mem_toList_iff.mpr hcall) with hattempt | ⟨handle, hcheck, hhandle⟩
    · exact .inl hattempt
    · right
      rw [hhandle context rfl]
      rcases hcheck with rfl | rfl <;> rfl
  · exact Holdings.run_builtOn boundary (Holdings.builtOn_first context)
  · rw [hanswer, Handle.isValid_iff]
    simp

/-- An engine whose first self test fails. -/
def answeringLate : World :=
  { engines := #[.scripted { createContext :=
      { upcoming := [.ok (.error ⟨"entropy source unavailable"⟩)], rest := .ok (.ok ⟨7⟩) } }] }

theorem answeringLate_created :
    ((create (World.boundary 0) true default).outcome { state := answeringLate }).1 =
      .ok { handle := ⟨7⟩, fips := true } := by
  rfl

theorem built_on_answer_late :
    (default : ContextConfig).onExhaustedRetries = .fail ∧
      ((create (World.boundary 0) true default).outcome { state := answeringLate }).1 =
        .ok { handle := ⟨7⟩, fips := true } ∧
      attemptsMade (World.boundary 0) true 10 answeringLate = 2 ∧
      answerAfter (World.boundary 0) true 1 answeringLate = .ok (.ok ⟨7⟩) := by
  have hpolicy : (default : ContextConfig).onExhaustedRetries = .fail := rfl
  have hmade : attemptsMade (World.boundary 0) true 10 answeringLate = 2 := by decide +kernel
  obtain ⟨hanswer, -⟩ := built_on_answer (World.boundary 0) hpolicy answeringLate_created
  exact ⟨hpolicy, answeringLate_created, hmade, hanswer⟩

/-- An engine that answers every attempt with the invalid handle, as if it had succeeded. -/
def answeringInvalid : World :=
  { engines := #[.scripted { createContext := { rest := .ok (.ok .invalid) } }] }

/-- The context is built on the invalid handle, though exhausted attempts are a failure, and the
invalid handle is validated. -/
theorem answeringInvalid_built :
    (default : ContextConfig).onExhaustedRetries = .fail ∧
      ((create (World.boundary 0) false default).outcome
        { state := answeringInvalid }).1.toOption =
          some { handle := .invalid, fips := false } ∧
      ((create (World.boundary 0) false default).outcome
        { state := answeringInvalid }).2.calls.toList =
          [.createContext false, .validateLocation .invalid] :=
  ⟨rfl, by decide +kernel, by decide +kernel⟩

end Context

end SigningEngine
