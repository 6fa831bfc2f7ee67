import SigningEngine.Proofs.Session.Worlds
import SigningEngine.Proofs.Software.Handles

/-!
# The engines of a process

Whatever is done in a process, each of its software engines is what comes of a configuration and the
requests that it served. So what holds of every life of a software engine holds of all engines of a
process.

The main statement is `lives_after`.
-/

namespace SigningEngine

namespace Software.Engine

variable {engine middle next : Engine}

/-- An engine comes of another one by serving requests. -/
def Serves (engine next : Engine) : Prop := ∃ requests, (engine.serveAll requests).2 = next

theorem Serves.refl (engine : Engine) : engine.Serves engine := ⟨[], rfl⟩

theorem Serves.trans (first : engine.Serves middle) (second : middle.Serves next) :
    engine.Serves next := by
  obtain ⟨requests, rfl⟩ := first
  obtain ⟨others, rfl⟩ := second
  exact ⟨requests ++ others, by rw [serveAll_append]⟩

theorem serves_request (engine : Engine) (request : Request) :
    engine.Serves (engine.serve request).2 :=
  ⟨[request], rfl⟩

/-- In a life that gives out less than all numbers of a word, a number names things of one kind. -/
theorem names_eq {config : Config} {requests : List Request}
    (hsmall : (life config requests).2.issued < UInt64.size) {raw : UInt64}
    {kind other : HandleKind} (hkind : (life config requests).2.names raw kind = true)
    (hother : (life config requests).2.names raw other = true) : kind = other := by
  have hissues := life_issues config requests
  have hgiven {kind : HandleKind} (hnames : (life config requests).2.names raw kind = true) :
      (kind, raw) ∈ (life config requests).1 := by
    rcases hissues.names raw kind hnames with hstart | hgiven
    · rw [not_names_ofConfig] at hstart
      cases hstart
    · exact hgiven
  exact hissues.kind_eq hsmall (hgiven hkind) (hgiven hother)

end Software.Engine

namespace World

open Software.Engine (life Request)

variable {world middle next : World} {id : EngineId} {engine later : Software.Engine}

/-- Every software engine is what comes of a configuration and some requests. -/
def Lives (world : World) : Prop :=
  ∀ ⦃id : EngineId⦄ ⦃engine : Software.Engine⦄, world.softwareEngine? id = some engine →
    ∃ config requests, (life config requests).2 = engine

/-- What is done to engines is to serve requests. -/
def Serves (world next : World) : Prop := world.Lives → next.Lives

theorem serves_of_engines_eq (h : next.engines = world.engines) : world.Serves next := by
  intro hlives id engine hengine
  have hbefore : world.softwareEngine? id = some engine := by
    rwa [softwareEngine?, ← h]
  exact hlives hbefore

theorem Serves.trans (first : world.Serves middle) (second : middle.Serves next) :
    world.Serves next := fun hlives => second (first hlives)

theorem setEngine_serves (hengine : world.softwareEngine? id = some engine)
    (hserves : engine.Serves later) : world.Serves (world.setEngine id (.software later)) := by
  intro hlives other found hfound
  by_cases hid : other = id
  · subst hid
    rw [softwareEngine?_setEngine hengine, Option.some.injEq] at hfound
    subst hfound
    obtain ⟨config, requests, rfl⟩ := hlives hengine
    obtain ⟨others, rfl⟩ := hserves
    exact ⟨config, requests ++ others, by rw [Software.Engine.life_append]⟩
  · rw [softwareEngine?_setEngine_of_ne hid] at hfound
    exact hlives hfound

theorem respond_serves (world : World) (id : EngineId) (call : NativeCall) :
    world.Serves (world.respond id call).state := by
  cases hfound : world.engines[id]? with
  | none =>
      rw [respond, hfound]
      exact fun hlives => hlives
  | some found =>
      cases found with
      | software engine =>
          have hengine := softwareEngine?_eq_some.mpr hfound
          rw [respond, hfound]
          exact setEngine_serves hengine (engine.serves_request (.call call))
      | scripted engine =>
          intro hlives other software hsoftware
          have hne : other ≠ id := by
            rintro rfl
            have hnext := softwareEngine?_eq_some.mp hsoftware
            obtain ⟨hbound, -⟩ := Array.getElem?_eq_some_iff.mp hfound
            rw [respond, hfound] at hnext
            simp only [setEngine, Array.getElem?_setIfInBounds_self_of_lt hbound] at hnext
            cases hnext
          rw [respond, hfound] at hsoftware
          simp only [softwareEngine?_setEngine_of_ne hne] at hsoftware
          exact hlives hsoftware

theorem forget_serves (world : World) (key : Key) : world.Serves (world.forget key) := by
  cases key with
  | scripted key => exact fun hlives => hlives
  | software key =>
      rw [forget]
      split
      · exact fun hlives => hlives
      · next engine hengine =>
          exact setEngine_serves hengine (engine.serves_request (.dropKey key.handle))

theorem release_serves (world : World) (key : Key) : world.Serves (world.release key) := by
  have herased : world.Serves { world with references := world.references.erase key } :=
    serves_of_engines_eq rfl
  rw [release]
  split
  · exact herased
  · exact herased.trans (forget_serves _ key)

theorem addEngine_serves (world : World) {engine : Engine}
    (hengine : ∀ software, engine = .software software →
      ∃ config requests, (life config requests).2 = software) :
    world.Serves (world.addEngine engine).2 := by
  intro hlives id found hfound
  have hpush := softwareEngine?_eq_some.mp hfound
  rw [addEngine] at hpush
  simp only [Array.getElem?_push] at hpush
  split at hpush
  · exact hengine found (Option.some.inj hpush)
  · exact hlives (softwareEngine?_eq_some.mpr hpush)

end World

namespace Session

open World
open Software (KeyMaterial Halves)
open Software.Engine (Request)

theorem persists_serves : Persists World.Serves where
  movesBy id :=
    { refl := fun _ hlives => hlives
      trans := World.Serves.trans
      behind := fun world _ => respond_serves world id _
      read := fun key world => serves_of_engines_eq (readHandle_engines world key)
      release := fun key world => release_serves world key }
  addSoftware world config := addEngine_serves world fun _ heq =>
    ⟨config, [], Engine.software.inj heq⟩
  addScripted world _ := addEngine_serves world fun _ heq => by cases heq
  setHandles _ _ key := serves_of_engines_eq (by cases key <;> rfl)
  addScriptedKey _ _ _ := serves_of_engines_eq rfl
  hold _ _ := serves_of_engines_eq rfl

/-- What is generated is registered as an engine does that is asked to generate it. -/
def Registers (pair : Halves KeyMaterial) (request : Request) : Prop :=
  ∀ owner : Software.Engine, (owner.serve request).2 = (owner.registerPair pair).2

variable {session : Session}

theorem putPair_serves {engine slot : String} {algorithm : Software.KeyAlgorithm}
    {generate : Action (Except Software.GenerationFault (Halves KeyMaterial))}
    {result : Except StepError (Except Software.GenerationFault (Halves KeyMaterial))}
    (hgenerate : generate.run session = (result, session))
    (hregisters : ∀ pair, result = .ok (.ok pair) → ∃ request, Registers pair request) :
    OnWorlds World.Serves session ((putPair engine slot algorithm generate).run session).2 := by
  obtain ⟨e, hrun⟩ | ⟨id, owner, pair, -, hengine, hresult, hrun⟩ :=
    putPair_cases engine slot algorithm hgenerate
  · rw [hrun]
    exact fun hlives => hlives
  · obtain ⟨request, hrequest⟩ := hregisters pair hresult
    have hserves : owner.Serves (owner.registerPair pair).2 :=
      hrequest owner ▸ owner.serves_request request
    have hadded : session.world.Serves (session.world.addPair id owner algorithm pair).2 :=
      (setEngine_serves hengine hserves).trans (serves_of_engines_eq rfl)
    let added := session.world.addPair id owner algorithm pair
    have hfirst := persists_serves.putKey (slot ++ ".private") (.software added.1.privateKey)
      { session with world := added.2 }
    rw [hrun]
    exact (hadded.trans hfirst).trans (persists_serves.putKey _ _ _)

theorem perform_serves (session : Session) (step : Step) :
    OnWorlds World.Serves session ((perform step).run session).2 := by
  cases hchanges : step.changesKeys with
  | false => exact persists_serves.perform hchanges session
  | true =>
      cases step with
      | generateEc engine slot entropy =>
          refine putPair_serves (generation_run entropy session) fun pair hpair => ?_
          cases hsource : session.operandIn entropy with
          | error e =>
              rw [hsource] at hpair
              cases hpair
          | ok source =>
              rw [hsource] at hpair
              refine ⟨.generateEc source, fun owner => ?_⟩
              rw [Software.Engine.serve, Except.ok.inj hpair]
              rfl
      | generateRsa engine slot bits p q =>
          refine putPair_serves rfl fun pair hpair => ⟨.generateRsa bits p q, fun owner => ?_⟩
          rw [Software.Engine.serve, Except.ok.inj hpair]
          rfl
      | freeKey engine handle =>
          refine softwareEngine_bind (P := OnWorlds World.Serves session) (fun hlives => hlives)
            fun id owner hengine => ?_
          exact setEngine_serves hengine (owner.serves_request (.freeKey handle))
      | _ => cases hchanges

theorem step_serves (session : Session) (step : Step) :
    session.world.Serves (session.step step).2.world :=
  perform_serves { session with calls := #[], events := #[] } step

/-- Every software engine of a process is what comes of a configuration and the requests that it
served. -/
theorem lives_after (steps : List Step) : (({} : Session).after steps).world.Lives := by
  have hempty : ({} : Session).world.Lives := by
    intro id engine hengine
    cases hengine
  suffices h : ∀ session : Session, session.world.Lives → (session.after steps).world.Lives from
    h {} hempty
  induction steps with
  | nil => exact fun _ hlives => hlives
  | cons step rest ih => exact fun session hlives => ih _ (step_serves session step hlives)

end Session

end SigningEngine
