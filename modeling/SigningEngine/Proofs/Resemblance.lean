import SigningEngine.Proofs.Signature.Outcomes
import SigningEngine.Proofs.Software.Resemblance

/-!
# Processes that keep other secrets

Two processes resemble each other if their engines do, one by one, and nothing else differs. What is
done over an engine of the one and over the same engine of the other comes to the same, as long as
nothing is signed or verified. Whatever is signed or verified, and whatever digests are fed, the
processes still resemble each other, and they have logged the same.

The main statements are `boundary_agrees`, `Signature.sign_parallel` and `Signature.verify_parallel`.
-/

namespace SigningEngine

/-- Engines that resemble each other. Scripted engines keep no secrets. -/
inductive Engine.Resembles : Engine → Engine → Prop where
  | software {engine other : Software.Engine} (resembles : engine.Resembles other) :
      Resembles (.software engine) (.software other)
  | scripted (engine : Scripted.Engine) : Resembles (.scripted engine) (.scripted engine)

namespace Engine

theorem Resembles.refl (engine : Engine) : engine.Resembles engine := by
  cases engine with
  | software engine => exact .software (.refl engine)
  | scripted engine => exact .scripted engine

end Engine

/-- Processes that differ in the secrets of their software engines alone. -/
structure World.Resembles (world other : World) : Prop where
  size : world.engines.size = other.engines.size
  engines (id : EngineId) : Option.Rel Engine.Resembles world.engines[id]? other.engines[id]?
  scriptedHandles : world.scriptedHandles = other.scriptedHandles
  references : world.references = other.references

namespace World

variable {world other : World}

theorem Resembles.refl (world : World) : world.Resembles world where
  size := rfl
  engines id := by
    cases world.engines[id]? with
    | none => exact .none
    | some engine => exact .some (.refl engine)
  scriptedHandles := rfl
  references := rfl

/-- An engine that one of two processes has, the other has too. -/
theorem Resembles.engine_cases (h : world.Resembles other) (id : EngineId) :
    (world.engines[id]? = none ∧ other.engines[id]? = none) ∨
      ∃ engine twin, world.engines[id]? = some engine ∧ other.engines[id]? = some twin ∧
        engine.Resembles twin := by
  have hengines := h.engines id
  revert hengines
  generalize world.engines[id]? = found
  generalize other.engines[id]? = same
  intro hengines
  cases hengines with
  | none => exact .inl ⟨rfl, rfl⟩
  | some hengine => exact .inr ⟨_, _, rfl, rfl, hengine⟩

theorem Resembles.software_cases (h : world.Resembles other) (id : EngineId) :
    (world.softwareEngine? id = none ∧ other.softwareEngine? id = none) ∨
      ∃ engine twin, world.softwareEngine? id = some engine ∧
        other.softwareEngine? id = some twin ∧ engine.Resembles twin := by
  rw [softwareEngine?, softwareEngine?]
  obtain ⟨hfound, hsame⟩ | ⟨engine, twin, hfound, hsame, hengine⟩ := h.engine_cases id
  · rw [hfound, hsame]
    exact .inl ⟨rfl, rfl⟩
  · rw [hfound, hsame]
    cases hengine with
    | software hengine => exact .inr ⟨_, _, rfl, rfl, hengine⟩
    | scripted engine => exact .inl ⟨rfl, rfl⟩

theorem Resembles.setEngine (h : world.Resembles other) (id : EngineId) {engine twin : Engine}
    (hengine : engine.Resembles twin) :
    (world.setEngine id engine).Resembles (other.setEngine id twin) where
  size := by simp only [World.setEngine, Array.size_setIfInBounds, h.size]
  engines place := by
    simp only [World.setEngine, Array.getElem?_setIfInBounds, h.size]
    split
    · split
      · exact .some hengine
      · exact .none
    · exact h.engines place
  scriptedHandles := h.scriptedHandles
  references := h.references

theorem addEngine_matching (engine : Engine) :
    Matching Resembles (·.addEngine engine) (·.addEngine engine) := by
  intro world other h
  refine ⟨h.size, ?_, ?_, h.scriptedHandles, h.references⟩
  · simp only [addEngine, Array.size_push, h.size]
  · intro id
    simp only [addEngine, Array.getElem?_push, h.size]
    split
    · exact .some (.refl engine)
    · exact h.engines id

/-! ### Keys -/

theorem Resembles.hold (h : world.Resembles other) (key : Key) :
    (world.hold key).Resembles (other.hold key) :=
  ⟨h.size, h.engines, h.scriptedHandles, congrArg (key :: ·) h.references⟩

theorem Resembles.forget (h : world.Resembles other) (key : Key) :
    (world.forget key).Resembles (other.forget key) := by
  cases key with
  | scripted key => exact h
  | software key =>
      simp only [World.forget]
      obtain ⟨hfound, hsame⟩ | ⟨engine, twin, hfound, hsame, hengine⟩ :=
        h.software_cases key.engine
      · rw [hfound, hsame]
        exact h
      · rw [hfound, hsame]
        exact h.setEngine key.engine (.software (hengine.eraseKey key.handle))

theorem Resembles.release (h : world.Resembles other) (key : Key) :
    (world.release key).Resembles (other.release key) := by
  have herased : { world with references := other.references.erase key }.Resembles
      { other with references := other.references.erase key } :=
    ⟨h.size, h.engines, h.scriptedHandles, rfl⟩
  simp only [World.release, h.references]
  split
  · exact herased
  · exact herased.forget key

theorem readHandle_matching (key : Key) :
    Matching Resembles (·.readHandle key) (·.readHandle key) := by
  intro world other h
  cases key with
  | software key => exact ⟨rfl, h⟩
  | scripted key =>
      simp only [readHandle, h.scriptedHandles]
      split
      · exact ⟨rfl, h.size, h.engines, rfl, h.references⟩
      · exact ⟨rfl, h⟩
      · exact ⟨rfl, h⟩

theorem addScriptedKey_matching (handles : List KeyHandle) (algorithm : String) :
    Matching Resembles (·.addScriptedKey handles algorithm)
      (·.addScriptedKey handles algorithm) := by
  intro world other h
  have hkey : Key.scripted { index := world.scriptedHandles.size, algorithm } =
      Key.scripted { index := other.scriptedHandles.size, algorithm } := by
    rw [h.scriptedHandles]
  have hadded : { world with scriptedHandles := world.scriptedHandles.push handles }.Resembles
      { other with scriptedHandles := other.scriptedHandles.push handles } :=
    ⟨h.size, h.engines, congrArg (·.push handles) h.scriptedHandles, h.references⟩
  refine ⟨hkey, ?_⟩
  show (World.hold _ _).Resembles (World.hold _ _)
  rw [hkey]
  exact hadded.hold _

theorem Resembles.setHandles (h : world.Resembles other) (handles : List KeyHandle) (key : Key) :
    (world.setHandles handles key).Resembles (other.setHandles handles key) := by
  cases key with
  | software key => exact h
  | scripted key =>
      simp only [World.setHandles, h.scriptedHandles]
      exact ⟨h.size, h.engines, rfl, h.references⟩

/-- Whatever the halves of a pair are, they are known by the same handles. -/
theorem Resembles.addPair (h : world.Resembles other) (id : EngineId)
    {engine twin : Software.Engine} (hengine : engine.Resembles twin)
    (algorithm : Software.KeyAlgorithm) (pair alter : Software.Halves Software.KeyMaterial) :
    (world.addPair id engine algorithm pair).1 = (other.addPair id twin algorithm alter).1 ∧
      (world.addPair id engine algorithm pair).2.Resembles
        (other.addPair id twin algorithm alter).2 := by
  obtain ⟨hhandles, hlater⟩ := Software.Engine.registerPair_matching pair alter engine twin hengine
  simp only [World.addPair]
  rw [hhandles]
  exact ⟨rfl, ((h.setEngine id (.software hlater)).hold _).hold _⟩

/-! ### Calls -/

/-- What is given for two calls resembles each other if it does for each kind of engine. -/
theorem Resembles.respond_of (h : world.Resembles other) (id : EngineId) (call alter : NativeCall)
    {Q : Except String call.Reply → Except String alter.Reply → Prop}
    (hnone : ∀ message, Q (.error message) (.error message))
    (hsoftware : ∀ ⦃engine twin : Software.Engine⦄, engine.Resembles twin →
      Q (engine.respond call).reply (twin.respond alter).reply ∧
        (engine.respond call).events = (twin.respond alter).events ∧
          (engine.respond call).state.Resembles (twin.respond alter).state)
    (hscripted : ∀ engine : Scripted.Engine,
      Q (engine.respond call).reply (engine.respond alter).reply ∧
        (engine.respond call).events = (engine.respond alter).events ∧
          (engine.respond call).state = (engine.respond alter).state) :
    Q (world.respond id call).reply (other.respond id alter).reply ∧
      (world.respond id call).events = (other.respond id alter).events ∧
        (world.respond id call).state.Resembles (other.respond id alter).state := by
  rw [World.respond, World.respond]
  obtain ⟨hfound, hsame⟩ | ⟨engine, twin, hfound, hsame, hengine⟩ := h.engine_cases id
  · rw [hfound, hsame]
    exact ⟨hnone _, rfl, h⟩
  · rw [hfound, hsame]
    cases hengine with
    | software hengine =>
        obtain ⟨hreply, hevents, hlater⟩ := hsoftware hengine
        exact ⟨hreply, hevents, h.setEngine id (.software hlater)⟩
    | scripted engine =>
        obtain ⟨hreply, hevents, hlater⟩ := hscripted engine
        refine ⟨hreply, hevents, h.setEngine id ?_⟩
        show Engine.Resembles (.scripted _) (.scripted _)
        rw [hlater]
        exact .scripted _

/-- A call that neither signs nor verifies is answered alike. -/
theorem Resembles.respond (h : world.Resembles other) (id : EngineId) {call : NativeCall}
    (hcall : call.judges = false) :
    (world.respond id call).reply = (other.respond id call).reply ∧
      (world.respond id call).events = (other.respond id call).events ∧
        (world.respond id call).state.Resembles (other.respond id call).state := by
  refine h.respond_of id call call (fun _ => rfl) (fun engine twin hengine => ?_)
    fun _ => ⟨rfl, rfl, rfl⟩
  obtain ⟨hreply, hlater⟩ := Software.Engine.reply_matching hcall engine twin hengine
  exact ⟨congrArg Except.ok hreply, congrArg (Software.Engine.logged call) hreply, hlater⟩

/-- What a digest is fed does not show. -/
theorem Resembles.respond_update (h : world.Resembles other) (id : EngineId)
    (context : ContextHandle) (digest : DigestHandle) (data alter : Bytes) :
    let answer := world.respond id (.digestUpdate context digest data)
    let same := other.respond id (.digestUpdate context digest alter)
    answer.reply = same.reply ∧ answer.events = same.events ∧
      answer.state.Resembles same.state := by
  let Q (reply same : Except String (Except NativeError Unit)) : Prop := reply = same
  refine h.respond_of id (.digestUpdate context digest data) (.digestUpdate context digest alter)
    (Q := Q) (fun _ => rfl) (fun engine twin hengine => ?_)
    fun _ => ⟨rfl, rfl, rfl⟩
  obtain ⟨hreply, hlater⟩ :=
    Software.Engine.digestUpdate_matching context digest data alter engine twin hengine
  exact ⟨congrArg Except.ok hreply, rfl, hlater⟩

/-- To sign logs nothing and leaves the engines as much alike as they were. -/
theorem Resembles.respond_sign (h : world.Resembles other) (id : EngineId)
    (context : ContextHandle) (digest : DigestHandle) (key : KeyHandle) (plainRsa : Bool) :
    let answer := world.respond id (.sign context digest key plainRsa)
    let same := other.respond id (.sign context digest key plainRsa)
    answer.events = same.events ∧ answer.state.Resembles same.state :=
  (h.respond_of id (.sign context digest key plainRsa) (.sign context digest key plainRsa)
    (Q := fun _ _ => True) (fun _ => trivial) (fun _ _ hengine => ⟨trivial, rfl, hengine⟩)
    fun _ => ⟨trivial, rfl, rfl⟩).2

theorem Resembles.respond_verify (h : world.Resembles other) (id : EngineId)
    (context : ContextHandle) (digest : DigestHandle) (key : KeyHandle) (candidate alter : Bytes) :
    let answer := world.respond id (.verify context digest key candidate)
    let same := other.respond id (.verify context digest key alter)
    answer.events = same.events ∧ answer.state.Resembles same.state :=
  (h.respond_of id (.verify context digest key candidate) (.verify context digest key alter)
    (Q := fun _ _ => True) (fun _ => trivial) (fun _ _ hengine => ⟨trivial, rfl, hengine⟩)
    fun _ => ⟨trivial, rfl, rfl⟩).2

end World

/-! ### Runs -/

/-- Runs over processes that resemble each other, with the same events. -/
structure Run.Resembles (run other : Run World) : Prop where
  state : run.state.Resembles other.state
  events : run.events = other.events

namespace World

variable {id : EngineId} {run other : Run World}

/-- What is given for two calls carries over to the runs. -/
theorem asked_resembles (h : run.Resembles other) {call alter : NativeCall}
    (hanswer : (run.state.respond id call).events = (other.state.respond id alter).events ∧
      (run.state.respond id call).state.Resembles (other.state.respond id alter).state) :
    ((boundary id).asked call run).Resembles ((boundary id).asked alter other) where
  state := hanswer.2
  events := by
    show run.events ++ (run.state.respond id call).events =
      other.events ++ (other.state.respond id alter).events
    rw [h.events, hanswer.1]

/-- What is done over an engine shows nothing of the secrets that are kept, unless it signs or
verifies. -/
theorem boundary_agrees (id : EngineId) : (boundary id).Agrees (boundary id) Run.Resembles where
  ask hcall _ _ h :=
    have hanswer := h.state.respond id hcall
    ⟨hanswer.1, asked_resembles h hanswer.2⟩
  log event _ _ h := ⟨rfl, h.state, congrArg (·.push event) h.events⟩
  readHandle key _ _ h :=
    have hread := readHandle_matching key _ _ h.state
    ⟨hread.1, hread.2, h.events⟩
  giveBack key _ _ h := ⟨rfl, h.state.release key, h.events⟩
  keyAlgorithm := rfl

theorem ask_update_matching (id : EngineId) (context : ContextHandle) (digest : DigestHandle)
    (data alter : Bytes) :
    Matching Run.Resembles ((boundary id).ask (.digestUpdate context digest data))
      ((boundary id).ask (.digestUpdate context digest alter)) := by
  intro run other h
  have hanswer := h.state.respond_update id context digest data alter
  exact ⟨hanswer.1, asked_resembles h hanswer.2⟩

end World

/-! ### Feeding

Two messages of one length are fed alike. -/

theorem Digest.update_matching_of_secret (id : EngineId) (digest : Digest) (data alter : Bytes) :
    Attempt.Matching Run.Resembles (digest.update (World.boundary id) data)
      (digest.update (World.boundary id) alter) := by
  refine .orError _ (.bind (.lift (World.ask_update_matching id _ _ data alter)) fun reply => ?_)
  cases reply with
  | ok value => exact .pure value
  | error message => exact .throw (.panic message)

namespace Signature

variable {data alter : Bytes} (hlength : data.length = alter.length)
include hlength

theorem update_matching_of_secret (id : EngineId) (signature : Signature Key) (span : Span) :
    Attempt.Matching Run.Resembles (signature.update (World.boundary id) data span)
      (signature.update (World.boundary id) alter span) := by
  have hwithin : span.Within data ↔ span.Within alter := by
    rw [Span.Within, Span.Within, hlength]
  rw [update, update, Span.slice?_eq, Span.slice?_eq, hlength]
  by_cases hcut : span.Within alter
  · rw [if_pos (hwithin.mpr hcut), if_pos hcut]
    exact signature.digest.update_matching_of_secret id _ _
  · rw [if_neg (mt hwithin.mp hcut), if_neg hcut]
    exact .fail _

theorem updateAll_matching_of_secret (id : EngineId) (signature : Signature Key) :
    Attempt.Matching Run.Resembles (signature.updateAll (World.boundary id) data)
      (signature.updateAll (World.boundary id) alter) := by
  have hall : Span.all data = Span.all alter := by
    rw [Span.all, Span.all, hlength]
  rw [updateAll, updateAll, hall]
  exact signature.update_matching_of_secret hlength id _

end Signature

/-! ### Signing and verifying -/

namespace Signature

open World

variable {world other : World} {signature : Signature Key} {α : Type}

/-- Behind a call that signs or verifies the digest is reset, or what is given for the call is
alike. -/
theorem reset_or_alike (h : world.Resembles other) (id : EngineId) (signature : Signature Key)
    (call alter : NativeCall) (hcall : call.judges = true)
    {Q : Except String call.Reply → Except String alter.Reply → Prop}
    (hnone : ∀ message, Q (.error message) (.error message))
    (hsoftware : ∀ ⦃engine twin : Software.Engine⦄, engine.Resembles twin →
      (engine.reply signature.resetCall).1 = .ok () ∨
        Q (.ok (engine.reply call).1) (.ok (twin.reply alter).1))
    (hscripted : ∀ engine : Scripted.Engine,
      Q (engine.respond call).reply (engine.respond alter).reply) :
    signature.resetOutcome (boundary id) ((boundary id).behind call world) = .ok () ∨
      Q ((boundary id).replyTo call world) ((boundary id).replyTo alter other) := by
  obtain ⟨hfound, hsame⟩ | ⟨engine, twin, hfound, hsame, hengine⟩ := h.engine_cases id
  · rw [replyTo_of_none hfound, replyTo_of_none hsame]
    exact .inr (hnone _)
  · cases hengine with
    | software hengine =>
        have hsoft := softwareEngine?_eq_some.mpr hfound
        obtain hreset | halike := hsoftware hengine
        · left
          rw [resetOutcome, behind_software hsoft, Software.Engine.reply_of_judges _ hcall,
            setEngine_self hfound, replyTo_software hsoft, hreset]
          rfl
        · right
          rwa [replyTo_software hsoft, replyTo_software (softwareEngine?_eq_some.mpr hsame)]
    | scripted engine =>
        right
        show Q (world.respond id call).reply (other.respond id alter).reply
        rw [World.respond, World.respond, hfound, hsame]
        exact hscripted engine

/-- There is nothing to be logged about a reset that succeeds. -/
theorem warnings_ok (operation : String) (reply : Except String (Except NativeError α)) :
    warnings operation reply (.ok ()) = [] := by
  match reply with
  | .error _ => rfl
  | .ok (.ok _) => rfl
  | .ok (.error _) => rfl

/-- Runs that are alike are alike again behind the reset, if it succeeds or the replies were alike. -/
theorem settle_parallel {id : EngineId} {run other : Run World} (hruns : run.Resembles other)
    (operation : String) {reply same : Except String (Except NativeError α)}
    (hreply : signature.resetOutcome (boundary id) run.state = .ok () ∨ reply = same) :
    ((signature.settle (boundary id) operation reply).outcome run).2.Resembles
      ((signature.settle (boundary id) operation same).outcome other).2 := by
  have hreset := Digest.reset_matching (boundary_agrees id) signature.digest run other hruns
  rw [outcome_reset, outcome_reset] at hreset
  obtain ⟨houtcome, hlater⟩ := hreset
  simp only at houtcome hlater
  have hwarnings : warnings operation reply (signature.resetOutcome (boundary id) run.state) =
      warnings operation same (signature.resetOutcome (boundary id) other.state) := by
    rw [← houtcome]
    obtain hok | rfl := hreply
    · rw [hok, warnings_ok, warnings_ok]
    · rfl
  rw [outcome_settle, outcome_settle, hwarnings]
  exact ⟨hlater.state, congrArg (· ++ _) hlater.events⟩

theorem sign_parallel (id : EngineId) (signature : Signature Key) :
    Parallel Run.Resembles (signature.sign (boundary id)).outcome
      (signature.sign (boundary id)).outcome := by
  have hchecked := checkedKeyHandle_matching (boundary_agrees id) signature
  refine .run_bind hchecked fun key run other hruns => ?_
  have hcall := hruns.state.respond_sign id signature.digest.context signature.digest.handle key
    signature.plainRsa
  refine settle_parallel (asked_resembles hruns hcall) "sign" ?_
  refine reset_or_alike hruns.state id signature (signature.signCall key) (signature.signCall key)
    rfl (fun _ => rfl) (fun engine twin hengine => ?_) (fun _ => rfl)
  rcases hengine.judge_cases signature.digest.context signature.digest.handle
    (fun state => engine.keyMaterial key >>= (·.sign state signature.plainRsa))
    (fun state => twin.keyMaterial key >>= (·.sign state signature.plainRsa)) with hreset | halike
  · exact .inl hreset
  · exact .inr (congrArg Except.ok halike)

theorem verify_parallel (id : EngineId) (signature : Signature Key) (candidate alter : Bytes) :
    Parallel Run.Resembles (signature.verify (boundary id) candidate).outcome
      (signature.verify (boundary id) alter).outcome := by
  have hchecked := checkedKeyHandle_matching (boundary_agrees id) signature
  refine .run_bind hchecked fun key run other hruns => ?_
  have hcall := hruns.state.respond_verify id signature.digest.context signature.digest.handle key
    candidate alter
  refine settle_parallel (asked_resembles hruns hcall) "verify" ?_
  refine reset_or_alike hruns.state id signature (signature.verifyCall candidate key)
    (signature.verifyCall alter key) rfl (fun _ => rfl) (fun engine twin hengine => ?_) (fun _ => rfl)
  rcases hengine.judge_cases signature.digest.context signature.digest.handle
    (fun state => engine.keyMaterial key >>= fun material => pure (material.verify state candidate))
    (fun state => twin.keyMaterial key >>= fun material => pure (material.verify state alter))
    with hreset | halike
  · exact .inl hreset
  · exact .inr (congrArg Except.ok halike)

/-- Several callers at once who sign. -/
theorem signs_parallel (id : EngineId) (signature : Signature Key) (callers : Nat) :
    Parallel Run.Resembles (signature.signs (boundary id) callers)
      (signature.signs (boundary id) callers) := by
  intro run other hruns
  induction callers generalizing run other with
  | zero => exact hruns
  | succ callers ih =>
      rw [signs_succ, signs_succ]
      exact ih _ _ (sign_parallel id signature run other hruns)

end Signature

end SigningEngine
