import SigningEngine.Proofs.Resemblance
import SigningEngine.Proofs.Session.Along

/-!
# Sessions that keep other secrets

Two sessions resemble each other if their processes do, and if nothing else differs but the
signatures that they saved. A step that carries no bytes, and neither signs nor verifies, comes to the
same in both, and they resemble each other again.

The main statement is `perform_alike`.
-/

namespace SigningEngine

/-- Sessions that differ in the secrets of their software engines and in saved signatures alone. -/
structure Session.Resembles (session other : Session) : Prop where
  world : session.world.Resembles other.world
  created : session.created = other.created
  engines : session.engines = other.engines
  contexts : session.contexts = other.contexts
  keys : session.keys = other.keys
  digests : session.digests = other.digests
  signatures : session.signatures = other.signatures
  buildDate : session.buildDate = other.buildDate
  events : session.events = other.events

namespace Session

variable {α β : Type} {session other : Session}

theorem Resembles.refl (session : Session) : session.Resembles session :=
  ⟨.refl session.world, rfl, rfl, rfl, rfl, rfl, rfl, rfl, rfl⟩

/-- An action and another one that comes to the same in sessions that resemble each other. -/
def Alike (action other : Action α) : Prop := Matching Resembles action.run other.run

/-! ### Reading -/

theorem pure_alike (a : α) : Alike (pure a) (pure a) := fun _ _ h => ⟨rfl, h⟩

theorem refuse_alike (e : StepError) : Alike (refuse e : Action α) (refuse e) :=
  fun _ _ h => ⟨rfl, h⟩

theorem bind_alike {x y : Action α} {f g : α → Action β} (hx : Alike x y)
    (hf : ∀ a, Alike (f a) (g a)) : Alike (x >>= f) (y >>= g) :=
  Matching.run_bind hx hf

theorem lift_alike {x y : Work α} (h : Matching Resembles x y) :
    Alike (ExceptT.lift x) (ExceptT.lift y) :=
  Matching.run_lift h

/-- What is read of sessions that resemble each other need not be the same, but what follows has to
come to the same. -/
theorem get_alike {f g : Session → Action α}
    (h : ∀ ⦃session other⦄, session.Resembles other →
      ((f session).run session).1 = ((g other).run other).1 ∧
        ((f session).run session).2.Resembles ((g other).run other).2) :
    Alike (get >>= f) (get >>= g) := by
  intro session other hsessions
  rw [run_bind, run_bind, get_run, get_run]
  exact h hsessions

theorem modify_alike {f g : Session → Session}
    (h : ∀ ⦃session other⦄, session.Resembles other → (f session).Resembles (g other)) :
    Alike (modify f) (modify g) :=
  fun _ _ hsessions => ⟨rfl, h hsessions⟩

theorem inSlot_alike {slots : Session → Table String α}
    (h : ∀ ⦃session other⦄, session.Resembles other → slots session = slots other)
    (name : String) : Alike (inSlot slots name) (inSlot slots name) := by
  intro session other hsessions
  rw [inSlot_run, inSlot_run, h hsessions]
  exact ⟨rfl, hsessions⟩

theorem contextAt_alike (name : String) (place : Nat) :
    Alike (contextAt name place) (contextAt name place) := by
  refine get_alike fun session other hsessions => ?_
  rw [hsessions.created]
  cases other.created[place]? with
  | none => exact ⟨rfl, hsessions⟩
  | some opened => exact ⟨rfl, hsessions⟩

theorem settled_alike (outcome : Except Failure α) : Alike (settled outcome) (settled outcome) := by
  cases outcome with
  | ok value => exact pure_alike value
  | error failure => exact refuse_alike _

/-- A software engine in a slot of one session is in that slot of the other, with other secrets. -/
theorem Resembles.softwareIn_cases (h : session.Resembles other) (slot : String) :
    (∃ e, session.softwareIn slot = .error e ∧ other.softwareIn slot = .error e) ∨
      ∃ id engine twin, session.softwareIn slot = .ok (id, engine) ∧
        other.softwareIn slot = .ok (id, twin) ∧ engine.Resembles twin := by
  rw [softwareIn, softwareIn, h.engines]
  cases other.engines.find? slot with
  | none => exact .inl ⟨_, rfl, rfl⟩
  | some id =>
      simp only
      obtain ⟨hfound, hsame⟩ | ⟨engine, twin, hfound, hsame, hengine⟩ := h.world.software_cases id
      · rw [hfound, hsame]
        exact .inl ⟨_, rfl, rfl⟩
      · rw [hfound, hsame]
        exact .inr ⟨id, engine, twin, rfl, rfl, hengine⟩

theorem softwareEngine_alike {slot : String} {f g : EngineId × Software.Engine → Action α}
    (h : ∀ id ⦃engine twin : Software.Engine⦄, engine.Resembles twin →
      Alike (f (id, engine)) (g (id, twin))) :
    Alike (softwareEngine slot >>= f) (softwareEngine slot >>= g) := by
  intro session other hsessions
  rw [run_bind, run_bind, softwareEngine_run, softwareEngine_run]
  obtain ⟨e, hfound, hsame⟩ | ⟨id, engine, twin, hfound, hsame, hengine⟩ :=
    hsessions.softwareIn_cases slot
  · rw [hfound, hsame]
    exact ⟨rfl, hsessions⟩
  · rw [hfound, hsame]
    exact h id hengine session other hsessions

/-! ### Work with one engine -/

/-- Other engines, alike as before. -/
theorem Resembles.withWorld (h : session.Resembles other) {world twin : World}
    (hworld : world.Resembles twin) :
    { session with world }.Resembles { other with world := twin } :=
  { h with world := hworld }

theorem Resembles.withKeys (h : session.Resembles other) {keys : Table String Key} :
    { session with keys }.Resembles { other with keys } :=
  { h with keys := rfl }

/-- Whatever an operation gives, it leaves sessions alike if it leaves the runs alike. -/
theorem workWithin_parallel (id : EngineId) {operation : Native World α} {twin : Native World β}
    (h : Parallel Run.Resembles operation twin) :
    Parallel Resembles (workWithin id operation) (workWithin id twin) := by
  intro session other hsessions
  have hruns : Run.Resembles { state := session.world } { state := other.world } :=
    ⟨hsessions.world, rfl⟩
  have hlater := h _ _ hruns
  refine { hsessions with world := hlater.state, events := ?_ }
  show session.events ++ _ = other.events ++ _
  rw [hsessions.events, hlater.events]

theorem workWithin_matching (id : EngineId) {operation twin : Native World α}
    (h : Matching Run.Resembles operation twin) :
    Matching Resembles (workWithin id operation) (workWithin id twin) := by
  intro session other hsessions
  have hruns : Run.Resembles { state := session.world } { state := other.world } :=
    ⟨hsessions.world, rfl⟩
  exact ⟨(h _ _ hruns).1, workWithin_parallel id (.of_matching h) session other hsessions⟩

theorem within_alike (id : EngineId) {operation twin : Native World α}
    (h : Matching Run.Resembles operation twin) : Alike (within id operation) (within id twin) :=
  lift_alike (workWithin_matching id h)

theorem attempt_alike (id : EngineId) {operation twin : Attempt World α}
    (h : Attempt.Matching Run.Resembles operation twin) :
    Alike (attempt id operation) (attempt id twin) :=
  bind_alike (within_alike id h) settled_alike

/-! ### Objects and their release -/

theorem releaseKey_matching (key : Key) : Matching Resembles (releaseKey key) (releaseKey key) :=
  fun _ _ h => ⟨rfl, h.withWorld (h.world.release key)⟩

theorem freeDigest_alike (opened : OpenDigest) : Alike (freeDigest opened) (freeDigest opened) :=
  attempt_alike _ (Digest.free_matching (World.boundary_agrees _) opened.digest)

theorem dropSignature_alike (opened : OpenSignature) :
    Alike (dropSignature opened) (dropSignature opened) :=
  attempt_alike _ (Signature.drop_matching (World.boundary_agrees _) opened.signature)

theorem putKey_matching (slot : String) (key : Key) :
    Matching Resembles (putKey slot key) (putKey slot key) := by
  intro session other h
  rw [putKey_run, putKey_run, h.keys]
  cases other.keys.find? slot with
  | none => exact ⟨rfl, h.withKeys⟩
  | some previous => exact releaseKey_matching previous _ _ h.withKeys

theorem putDigest_alike (slot : String) (opened : OpenDigest) :
    Alike (putDigest slot opened) (putDigest slot opened) := by
  intro session other h
  rw [putDigest_run, putDigest_run, h.digests]
  have hput : { session with digests := other.digests.insert slot opened }.Resembles
      { other with digests := other.digests.insert slot opened } := { h with digests := rfl }
  cases other.digests.find? slot with
  | none => exact ⟨rfl, hput⟩
  | some previous => exact freeDigest_alike previous _ _ hput

theorem putSignature_alike (slot : String) (opened : OpenSignature) :
    Alike (putSignature slot opened) (putSignature slot opened) := by
  intro session other h
  rw [putSignature_run, putSignature_run, h.signatures]
  have hput : { session with signatures := other.signatures.insert slot opened }.Resembles
      { other with signatures := other.signatures.insert slot opened } :=
    { h with signatures := rfl }
  cases other.signatures.find? slot with
  | none => exact ⟨rfl, hput⟩
  | some previous => exact dropSignature_alike previous _ _ hput

theorem dropSlot_alike (name : String) (kind : SlotKind) :
    Alike (dropSlot name kind) (dropSlot name kind) := by
  cases kind with
  | engine =>
      refine get_alike fun session other h => ?_
      rw [h.engines]
      refine bind_alike (modify_alike fun session other h => ?_) (fun _ => pure_alike _) _ _ h
      exact { h with engines := congrArg (·.erase name) h.engines }
  | context =>
      refine get_alike fun session other h => ?_
      rw [h.contexts]
      refine bind_alike (modify_alike fun session other h => ?_) (fun _ => pure_alike _) _ _ h
      exact { h with contexts := congrArg (·.erase name) h.contexts }
  | key =>
      refine get_alike fun session other h => ?_
      rw [h.keys]
      cases other.keys.find? name with
      | none => exact ⟨rfl, h⟩
      | some key =>
          refine bind_alike (modify_alike fun session other h => ?_) (fun _ => ?_) _ _ h
          · exact { h with keys := congrArg (·.erase name) h.keys }
          · exact bind_alike (lift_alike (releaseKey_matching key)) fun _ => pure_alike _
  | digest =>
      refine get_alike fun session other h => ?_
      rw [h.digests]
      cases other.digests.find? name with
      | none => exact ⟨rfl, h⟩
      | some opened =>
          refine bind_alike (modify_alike fun session other h => ?_) (fun _ => ?_) _ _ h
          · exact { h with digests := congrArg (·.erase name) h.digests }
          · exact bind_alike (freeDigest_alike opened) fun _ => pure_alike _
  | signature =>
      refine get_alike fun session other h => ?_
      rw [h.signatures]
      cases other.signatures.find? name with
      | none => exact ⟨rfl, h⟩
      | some opened =>
          refine bind_alike (modify_alike fun session other h => ?_) (fun _ => ?_) _ _ h
          · exact { h with signatures := congrArg (·.erase name) h.signatures }
          · exact bind_alike (dropSignature_alike opened) fun _ => pure_alike _

/-! ### Steps that carry no bytes -/

theorem putEngine_matching (slot : String) (engine : Engine) :
    Matching Resembles (putEngine slot engine) (putEngine slot engine) := by
  intro session other h
  obtain ⟨hid, hworld⟩ := World.addEngine_matching engine _ _ h.world
  refine ⟨hid, { h with world := hworld, engines := ?_ }⟩
  show session.engines.insert slot (session.world.addEngine engine).1 =
    other.engines.insert slot (other.world.addEngine engine).1
  rw [h.engines]
  exact congrArg _ hid

theorem newEngine_alike (slot : String) (document : Option Json) :
    Alike (newEngine slot document) (newEngine slot document) := by
  have hput (config : Software.Config) : Alike
      (do
        let _ ← putEngine slot (.software (.ofConfig config))
        return .engineConfig config : Action Answer)
      (do
        let _ ← putEngine slot (.software (.ofConfig config))
        return .engineConfig config) :=
    bind_alike (lift_alike (putEngine_matching slot _)) fun _ => pure_alike _
  rw [newEngine.eq_def]
  simp only
  split
  · exact bind_alike (pure_alike _) hput
  · split
    · exact bind_alike (pure_alike _) hput
    · exact bind_alike (refuse_alike _) hput

theorem newScripted_alike (slot : String) (engine : Scripted.Engine) :
    Alike (newScripted slot engine) (newScripted slot engine) := by
  refine bind_alike (lift_alike (putEngine_matching slot _)) fun id => ?_
  exact bind_alike (modify_alike fun session other h => { h with }) fun _ => pure_alike _

theorem askBuildDate_alike (id : EngineId) : Alike (askBuildDate id) (askBuildDate id) := by
  refine get_alike fun session other h => ?_
  rw [h.buildDate]
  have hread := Context.readBuildDate_matching (World.boundary_agrees id) other.buildDate
  refine bind_alike (within_alike id hread) (fun result => ?_) _ _ h
  refine bind_alike (modify_alike fun session other h => { h with buildDate := rfl }) fun _ => ?_
  exact bind_alike (settled_alike _) fun _ => pure_alike _

theorem createContext_alike (slot engine : String) (fips : Bool) (source : ConfigSource) :
    Alike (createContext slot engine fips source) (createContext slot engine fips source) := by
  refine bind_alike (inSlot_alike (fun _ _ h => h.engines) engine) fun id => ?_
  have hput (context : Context) : Alike
      (do
        modify fun session => { session with
          created := session.created.push { engine := id, context }
          contexts := session.contexts.insert slot session.created.size }
        return .context context.handle context.fips : Action Answer)
      (do
        modify fun session => { session with
          created := session.created.push { engine := id, context }
          contexts := session.contexts.insert slot session.created.size }
        return .context context.handle context.fips) := by
    refine bind_alike (modify_alike fun session other h => ?_) fun _ => pure_alike _
    refine { h with created := congrArg (·.push { engine := id, context }) h.created, contexts := ?_ }
    show session.contexts.insert slot session.created.size =
      other.contexts.insert slot other.created.size
    rw [h.contexts, h.created]
  have hagrees := World.boundary_agrees id
  simp only
  split
  · exact bind_alike
      (attempt_alike id (Context.createFromEnvironment_matching hagrees fips _)) hput
  · split
    · exact bind_alike (refuse_alike _) hput
    · exact bind_alike (attempt_alike id (Context.create_matching hagrees fips _)) hput

theorem readKept_alike (place : Nat) (opened : OpenContext)
    {read : Context → Native World (α × Context)}
    (h : Matching Run.Resembles (read opened.context) (read opened.context)) :
    Alike (readKept place opened read) (readKept place opened read) := by
  refine bind_alike (within_alike _ h) fun result => ?_
  refine bind_alike (modify_alike fun session other h => ?_) fun _ => pure_alike _
  exact { h with
    created := congrArg (·.setIfInBounds place { opened with context := result.2 }) h.created }

theorem contextStep_alike (name : String) (step : ContextStep) :
    Alike (contextStep name step) (contextStep name step) := by
  refine bind_alike (inSlot_alike (fun _ _ h => h.contexts) name) fun place => ?_
  refine bind_alike (contextAt_alike name place) fun opened => ?_
  have hagrees := World.boundary_agrees opened.engine
  cases step with
  | handle => exact pure_alike _
  | fips => exact pure_alike _
  | text => exact pure_alike _
  | diagnostic => exact pure_alike _
  | version =>
      refine bind_alike (readKept_alike place opened ?_) fun outcome => ?_
      · exact Context.readVersion_matching hagrees _
      · exact bind_alike (settled_alike outcome) fun _ => pure_alike _
  | installPath =>
      refine bind_alike (readKept_alike place opened ?_) fun outcome => ?_
      · exact Context.readInstallPath_matching hagrees _
      · exact bind_alike (settled_alike outcome) fun _ => pure_alike _
  | buildDate => exact askBuildDate_alike _
  | fipsApprovedMode =>
      refine bind_alike (attempt_alike _ ?_) fun _ => pure_alike _
      exact Context.fipsApprovedMode_matching hagrees _
  | versions callers =>
      refine bind_alike (readKept_alike place opened ?_) fun _ => pure_alike _
      exact Context.readVersions_matching hagrees callers _
  | installPaths callers =>
      refine bind_alike (readKept_alike place opened ?_) fun _ => pure_alike _
      exact Context.readInstallPaths_matching hagrees callers _

theorem newDigest_alike (slot context algorithm : String) :
    Alike (newDigest slot context algorithm) (newDigest slot context algorithm) := by
  refine bind_alike (inSlot_alike (fun _ _ h => h.contexts) context) fun place => ?_
  refine bind_alike (contextAt_alike context place) fun opened => ?_
  refine bind_alike (attempt_alike _ (Digest.create_matching (World.boundary_agrees _) _ _))
    fun digest => ?_
  exact bind_alike (putDigest_alike slot _) fun _ => pure_alike _

theorem newSignature_alike (slot context algorithm : String) :
    Alike (newSignature slot context algorithm) (newSignature slot context algorithm) := by
  refine bind_alike (inSlot_alike (fun _ _ h => h.contexts) context) fun place => ?_
  refine bind_alike (contextAt_alike context place) fun opened => ?_
  refine bind_alike (attempt_alike _ (Signature.create_matching (World.boundary_agrees _) _ _))
    fun signature => ?_
  exact bind_alike (putSignature_alike slot _) fun _ => pure_alike _

theorem startSignature_alike (name : String) (opened : OpenSignature) (slot : String)
    (plainRsa : Bool) :
    Alike (startSignature name opened slot plainRsa) (startSignature name opened slot plainRsa) := by
  refine bind_alike (inSlot_alike (fun _ _ h => h.keys) slot) fun key => ?_
  refine bind_alike (modify_alike fun session other h => h.withWorld (h.world.hold key)) fun _ => ?_
  refine bind_alike (within_alike _ (Signature.start_matching (World.boundary_agrees _) _ key plainRsa))
    fun result => ?_
  refine bind_alike (modify_alike fun session other h => ?_) fun _ => ?_
  · exact { h with
      signatures := congrArg (·.insert name { opened with signature := result.2 }) h.signatures }
  · exact bind_alike (settled_alike _) fun _ => pure_alike _

theorem freeKey_alike (engine : String) (handle : KeyHandle) :
    Alike (perform (.freeKey engine handle)) (perform (.freeKey engine handle)) := by
  refine softwareEngine_alike fun id owner twin howner => ?_
  obtain ⟨hfreed, hlater⟩ := Software.Engine.freeKey_matching handle owner twin howner
  simp only at hfreed ⊢
  rw [hfreed]
  refine bind_alike (modify_alike fun session other h => ?_) fun _ => pure_alike _
  exact h.withWorld (h.world.setEngine id (.software hlater))

theorem keyInfo_alike (key : String) :
    Alike (perform (.keyInfo key)) (perform (.keyInfo key)) := by
  refine bind_alike (inSlot_alike (fun _ _ h => h.keys) key) fun key session other h => ?_
  obtain ⟨hhandle, hworld⟩ := World.readHandle_matching key _ _ h.world
  let shown (handle : KeyHandle) : Except StepError Answer :=
    .ok (.keyInfo handle key.algorithmName key.isPrivate?)
  exact ⟨congrArg shown hhandle, h.withWorld hworld⟩

theorem shareKey_alike (key slot : String) :
    Alike (perform (.shareKey key slot)) (perform (.shareKey key slot)) := by
  refine bind_alike (inSlot_alike (fun _ _ h => h.keys) key) fun key => ?_
  refine bind_alike (modify_alike fun session other h => h.withWorld (h.world.hold key)) fun _ => ?_
  exact bind_alike (lift_alike (putKey_matching slot key)) fun _ => pure_alike _

theorem newKey_alike (slot : String) (handles : List KeyHandle) (algorithm : String) :
    Alike (perform (.newKey slot handles algorithm)) (perform (.newKey slot handles algorithm)) := by
  let put (key : Key) : Action Answer := do putKey slot key; return .done
  have hput (key : Key) : Alike (put key) (put key) :=
    bind_alike (lift_alike (putKey_matching slot key)) fun _ => pure_alike _
  have hrun (session : Session) : (perform (.newKey slot handles algorithm)).run session =
      (put (session.world.addScriptedKey handles algorithm).1).run
        { session with world := (session.world.addScriptedKey handles algorithm).2 } := rfl
  intro session other h
  obtain ⟨hkey, hworld⟩ := World.addScriptedKey_matching handles algorithm _ _ h.world
  simp only at hkey
  rw [hrun, hrun, hkey]
  exact hput _ _ _ (h.withWorld hworld)

theorem setKey_alike (key : String) (handles : List KeyHandle) :
    Alike (perform (.setKey key handles)) (perform (.setKey key handles)) := by
  refine bind_alike (inSlot_alike (fun _ _ h => h.keys) key) fun key => ?_
  refine bind_alike (modify_alike fun session other h => ?_) fun _ => pure_alike _
  exact h.withWorld (h.world.setHandles handles key)

/-- Whether a step signs or verifies. -/
def Step.judges : Step → Bool
  | .native _ call _ _ => call.judges
  | .signature _ (.sign _) | .signature _ (.verify _) | .signature _ (.signs _) => true
  | _ => false

/-- Whether a step is given secrets or bytes, or may be. -/
def Step.carriesBytes : Step → Bool
  | .native .. | .generateEc .. | .generateRsa .. => true
  | .digest _ (.update _) => true
  | .signature _ (.update ..) | .signature _ (.updateAll _) | .signature _ (.verify _) => true
  | _ => false

/-- A step that carries no bytes, and neither signs nor verifies, comes to the same. -/
theorem perform_alike {step : Step} (hbytes : step.carriesBytes = false)
    (hjudges : step.judges = false) : Alike (perform step) (perform step) := by
  cases step with
  | newEngine slot document => exact newEngine_alike slot document
  | newScripted slot engine => exact newScripted_alike slot engine
  | engineDiagnostic engine =>
      refine softwareEngine_alike fun id engine twin hengine => ?_
      rw [hengine.diagnostic]
      exact pure_alike _
  | buildDate engine =>
      exact bind_alike (inSlot_alike (fun _ _ h => h.engines) engine) askBuildDate_alike
  | native => cases hbytes
  | generateEc => cases hbytes
  | generateRsa => cases hbytes
  | freeKey engine handle => exact freeKey_alike engine handle
  | keyInfo key => exact keyInfo_alike key
  | shareKey key slot => exact shareKey_alike key slot
  | keysEqual a b =>
      refine bind_alike (inSlot_alike (fun _ _ h => h.keys) a) fun a => ?_
      exact bind_alike (inSlot_alike (fun _ _ h => h.keys) b) fun b => pure_alike _
  | newKey slot handles algorithm => exact newKey_alike slot handles algorithm
  | setKey key handles => exact setKey_alike key handles
  | createContext slot engine fips source => exact createContext_alike slot engine fips source
  | context context step => exact contextStep_alike context step
  | newDigest slot context algorithm => exact newDigest_alike slot context algorithm
  | digest name step =>
      refine bind_alike (inSlot_alike (fun _ _ h => h.digests) name) fun opened => ?_
      cases step with
      | update => cases hbytes
      | reset =>
          refine bind_alike (attempt_alike _ ?_) fun _ => pure_alike _
          exact Digest.reset_matching (World.boundary_agrees _) _
      | handle => exact pure_alike _
      | algorithm => exact pure_alike _
      | diagnostic => exact pure_alike _
  | newSignature slot context algorithm => exact newSignature_alike slot context algorithm
  | signature name step =>
      refine bind_alike (inSlot_alike (fun _ _ h => h.signatures) name) fun opened => ?_
      cases step with
      | start key plainRsa => exact startSignature_alike name opened key plainRsa
      | isInitialized => exact pure_alike _
      | algorithm => exact pure_alike _
      | context => exact bind_alike (contextAt_alike name _) fun _ => pure_alike _
      | diagnostic => exact bind_alike (contextAt_alike name _) fun _ => pure_alike _
      | update => cases hbytes
      | updateAll => cases hbytes
      | verify => cases hbytes
      | sign => cases hjudges
      | signs => cases hjudges
  | drop kind name => exact bind_alike (dropSlot_alike name kind) fun _ => pure_alike _

end Session

end SigningEngine
