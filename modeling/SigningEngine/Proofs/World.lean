import SigningEngine.Proofs.Software.Evolution
import SigningEngine.World

/-!
# How the engines of a process evolve

An engine keeps its place and its kind. Whatever is done over one engine of a process, and whatever
is done with references to keys, every engine of it evolves, and only the one engine is called.
-/

namespace SigningEngine

/-- An engine evolves; of a scripted engine nothing more is said. -/
inductive Engine.Evolves (altered : DigestHandle → Prop) : Engine → Engine → Prop where
  | software {engine next : Software.Engine} (evolves : engine.Evolves altered next) :
      Evolves altered (.software engine) (.software next)
  | scripted (engine next : Scripted.Engine) :
      Evolves altered (.scripted engine) (.scripted next)

namespace Engine

variable {altered : DigestHandle → Prop} {engine middle next : Engine}

theorem Evolves.refl (engine : Engine) : engine.Evolves altered engine := by
  cases engine with
  | software engine => exact .software (.refl engine)
  | scripted engine => exact .scripted engine engine

theorem Evolves.trans (first : engine.Evolves altered middle)
    (second : middle.Evolves altered next) : engine.Evolves altered next := by
  cases first with
  | software first =>
      cases second with
      | software second => exact .software (first.trans second)
  | scripted =>
      cases second with
      | scripted => exact .scripted _ _

theorem Evolves.mono {more : DigestHandle → Prop} (h : engine.Evolves altered next)
    (hmore : ∀ digest, altered digest → more digest) : engine.Evolves more next := by
  cases h with
  | software evolves => exact .software (evolves.mono hmore)
  | scripted => exact .scripted _ _

theorem respond_evolves (engine : Engine) {call : NativeCall}
    (haltered : ∀ digest, call.altered = some digest → altered digest) :
    engine.Evolves altered (engine.respond call).state := by
  cases engine with
  | software engine => exact .software (engine.reply_evolves call haltered)
  | scripted engine => exact .scripted _ _

end Engine

namespace World

/-- Every engine evolves. -/
def Evolves (altered : EngineId → DigestHandle → Prop) (world next : World) : Prop :=
  ∀ ⦃id : EngineId⦄ ⦃engine : Engine⦄, world.engines[id]? = some engine →
    ∃ later, next.engines[id]? = some later ∧ engine.Evolves (altered id) later

variable {altered : EngineId → DigestHandle → Prop} {world middle next : World}

theorem Evolves.refl (world : World) : world.Evolves altered world :=
  fun _ engine hengine => ⟨engine, hengine, .refl engine⟩

theorem Evolves.trans (first : world.Evolves altered middle)
    (second : middle.Evolves altered next) : world.Evolves altered next := by
  intro id engine hengine
  obtain ⟨later, hlater, hfirst⟩ := first hengine
  obtain ⟨last, hlast, hsecond⟩ := second hlater
  exact ⟨last, hlast, hfirst.trans hsecond⟩

theorem Evolves.mono {more : EngineId → DigestHandle → Prop} (h : world.Evolves altered next)
    (hmore : ∀ id digest, altered id digest → more id digest) : world.Evolves more next := by
  intro id engine hengine
  obtain ⟨later, hlater, hevolves⟩ := h hengine
  exact ⟨later, hlater, hevolves.mono (hmore id)⟩

theorem evolves_of_engines_eq (h : next.engines = world.engines) : world.Evolves altered next :=
  fun _ engine hengine => ⟨engine, h ▸ hengine, .refl engine⟩

theorem softwareEngine?_eq_some {id : EngineId} {engine : Software.Engine} :
    world.softwareEngine? id = some engine ↔ world.engines[id]? = some (.software engine) := by
  rw [softwareEngine?]
  cases world.engines[id]? with
  | none => simp
  | some found => cases found <;> simp [Engine.software?]

/-- A software engine is one for ever. -/
theorem Evolves.software (h : world.Evolves altered next) {id : EngineId}
    {engine : Software.Engine} (hengine : world.softwareEngine? id = some engine) :
    ∃ later, next.softwareEngine? id = some later ∧ engine.Evolves (altered id) later := by
  obtain ⟨later, hlater, hevolves⟩ := h (softwareEngine?_eq_some.mp hengine)
  cases hevolves with
  | software evolves => exact ⟨_, softwareEngine?_eq_some.mpr hlater, evolves⟩

/-- An engine that is a software engine now was one before, if it was there. -/
theorem Evolves.software_before (h : world.Evolves altered next) {id : EngineId}
    (hid : id < world.engines.size) {later : Software.Engine}
    (hlater : next.softwareEngine? id = some later) :
    ∃ engine, world.softwareEngine? id = some engine ∧ engine.Evolves (altered id) later := by
  have hfound : world.engines[id]? = some world.engines[id] := Array.getElem?_eq_getElem hid
  obtain ⟨found, hnext, hevolves⟩ := h hfound
  rw [softwareEngine?_eq_some.mp hlater, Option.some.injEq] at hnext
  subst hnext
  generalize world.engines[id] = engine at hfound hevolves
  cases hevolves with
  | software evolves => exact ⟨_, softwareEngine?_eq_some.mpr hfound, evolves⟩

theorem Evolves.size_le (h : world.Evolves altered next) :
    world.engines.size ≤ next.engines.size := by
  apply Nat.le_of_not_lt
  intro hlt
  obtain ⟨later, hlater, -⟩ := h (Array.getElem?_eq_getElem hlt)
  rw [Array.getElem?_eq_none (Nat.le_refl _)] at hlater
  cases hlater

theorem setEngine_evolves {id : EngineId} {engine later : Engine}
    (hengine : world.engines[id]? = some engine) (hlater : engine.Evolves (altered id) later) :
    world.Evolves altered (world.setEngine id later) := by
  intro other found hfound
  by_cases hsame : other = id
  · subst hsame
    rw [hengine, Option.some.injEq] at hfound
    obtain ⟨hbound, -⟩ := Array.getElem?_eq_some_iff.mp hengine
    exact ⟨later, Array.getElem?_setIfInBounds_self_of_lt hbound, hfound ▸ hlater⟩
  · refine ⟨found, ?_, .refl found⟩
    rw [setEngine, Array.getElem?_setIfInBounds_ne (Ne.symm hsame), hfound]

theorem respond_evolves (world : World) (id : EngineId) {call : NativeCall}
    (haltered : ∀ digest, call.altered = some digest → altered id digest) :
    world.Evolves altered (world.respond id call).state := by
  rw [respond]
  split
  · exact .refl world
  · next engine hengine => exact setEngine_evolves hengine (engine.respond_evolves haltered)

theorem readHandle_engines (world : World) (key : Key) :
    (world.readHandle key).2.engines = world.engines := by
  cases key with
  | software key => rfl
  | scripted key =>
      rw [readHandle]
      split <;> rfl

theorem readHandle_evolves (world : World) (key : Key) :
    world.Evolves altered (world.readHandle key).2 :=
  evolves_of_engines_eq (readHandle_engines world key)

theorem setSoftware_evolves {id : EngineId} {engine later : Software.Engine}
    (hengine : world.softwareEngine? id = some engine)
    (hlater : engine.Evolves (altered id) later) :
    world.Evolves altered (world.setEngine id (.software later)) :=
  setEngine_evolves (softwareEngine?_eq_some.mp hengine) (.software hlater)

theorem forget_evolves (world : World) (key : Key) : world.Evolves altered (world.forget key) := by
  cases key with
  | scripted key => exact .refl world
  | software key =>
      rw [forget]
      split
      · exact .refl world
      · next engine hengine =>
          exact setSoftware_evolves hengine (Software.Engine.eraseKey_evolves engine key.handle)

theorem hold_evolves (world : World) (key : Key) : world.Evolves altered (world.hold key) :=
  evolves_of_engines_eq rfl

theorem release_evolves (world : World) (key : Key) :
    world.Evolves altered (world.release key) := by
  have herased : world.Evolves altered { world with references := world.references.erase key } :=
    evolves_of_engines_eq rfl
  rw [release]
  split
  · exact herased
  · exact herased.trans (forget_evolves _ key)

theorem addEngine_evolves (world : World) (engine : Engine) :
    world.Evolves altered (world.addEngine engine).2 := by
  intro id found hfound
  obtain ⟨hbound, -⟩ := Array.getElem?_eq_some_iff.mp hfound
  have hkept : (world.addEngine engine).2.engines[id]? = some found := by
    rw [addEngine, Array.getElem?_push_lt hbound, ← hfound, Array.getElem?_eq_getElem hbound]
  exact ⟨found, hkept, .refl found⟩

theorem addPair_evolves {id : EngineId} {engine : Software.Engine}
    (hengine : world.softwareEngine? id = some engine) (algorithm : Software.KeyAlgorithm)
    (pair : Software.Halves Software.KeyMaterial) :
    world.Evolves altered (world.addPair id engine algorithm pair).2 := by
  have hset : world.Evolves altered
      (world.setEngine id (.software (engine.registerPair pair).2)) :=
    setSoftware_evolves hengine (Software.Engine.registerPair_evolves engine pair)
  exact (hset.trans (hold_evolves _ _)).trans (hold_evolves _ _)

/-- All that runs over one engine alters no digests of the others. -/
theorem boundary_movesBy (altered : EngineId → DigestHandle → Prop) (id : EngineId) :
    (boundary id).MovesBy (altered id) (Evolves altered) where
  refl := .refl
  trans := .trans
  behind world haltered := respond_evolves world id haltered
  read key world := readHandle_evolves world key
  release key world := release_evolves world key

theorem setEngine_self {id : EngineId} {engine : Engine}
    (hengine : world.engines[id]? = some engine) : world.setEngine id engine = world := by
  obtain ⟨hbound, rfl⟩ := Array.getElem?_eq_some_iff.mp hengine
  rw [setEngine, Array.setIfInBounds_def, dif_pos hbound, Array.set_getElem_self]

theorem softwareEngine?_setEngine_of_ne {id other : EngineId} (h : id ≠ other)
    (engine : Engine) :
    (world.setEngine other engine).softwareEngine? id = world.softwareEngine? id := by
  rw [softwareEngine?, setEngine, Array.getElem?_setIfInBounds_ne (Ne.symm h), softwareEngine?]

/-! ### Calls to a software engine -/

section Software

variable {id : EngineId} {engine : Software.Engine}
variable (hengine : world.softwareEngine? id = some engine)
include hengine

theorem softwareEngine?_setEngine (later : Software.Engine) :
    (world.setEngine id (.software later)).softwareEngine? id = some later := by
  obtain ⟨hbound, -⟩ := Array.getElem?_eq_some_iff.mp (softwareEngine?_eq_some.mp hengine)
  exact softwareEngine?_eq_some.mpr (Array.getElem?_setIfInBounds_self_of_lt hbound)

/-- A software engine never panics. -/
theorem replyTo_software (call : NativeCall) :
    (boundary id).replyTo call world = .ok (engine.reply call).1 := by
  show (world.respond id call).reply = _
  rw [respond, softwareEngine?_eq_some.mp hengine]
  rfl

theorem behind_software (call : NativeCall) :
    (boundary id).behind call world = world.setEngine id (.software (engine.reply call).2) := by
  show (world.respond id call).state = _
  rw [respond, softwareEngine?_eq_some.mp hengine]
  rfl

end Software

theorem replyTo_of_none {id : EngineId} (h : world.engines[id]? = none) (call : NativeCall) :
    (boundary id).replyTo call world = .error "no engine" := by
  show (world.respond id call).reply = _
  rw [respond, h]

end World

end SigningEngine
