import SigningEngine.Proofs.Session.Along
import SigningEngine.Proofs.Session.Apart

/-!
# What a step of a session changes

Most steps leave every object with a digest where it is and alter no digest. The others have to do
with one such object, and alter its digest alone.
-/

namespace SigningEngine.Session

variable {α β : Type} {altered : EngineId → DigestHandle → Prop}

/-- Every object with a digest stays, and no other digests are altered than these. -/
structure Calm (altered : EngineId → DigestHandle → Prop) (session next : Session) : Prop where
  world : session.world.Evolves altered next.world
  digests : next.digests = session.digests
  signatures : next.signatures = session.signatures

theorem calm_lasting : Lasting (Calm altered) where
  refl session := ⟨.refl session.world, rfl, rfl⟩
  trans first second :=
    ⟨first.world.trans second.world, second.digests.trans first.digests,
      second.signatures.trans first.signatures⟩

theorem Calm.held_eq {session next : Session} (h : session.Calm altered next) (place : Place) :
    next.held place = session.held place := by
  cases place with
  | digest name => rw [held, held, h.digests]
  | signature name => rw [held, held, h.signatures]

theorem Calm.evolves {session next : Session} (h : session.Calm altered next)
    (place : Option Place) : session.Evolves altered place next where
  world := h.world
  digests _ := by rw [h.digests]
  signatures _ := by rw [h.signatures]
  here _ hheld := .inl (h.held_eq _ ▸ hheld)

/-! ### Acting -/

theorem calm_keeps : Keeps altered (World.Evolves altered) (Calm altered) where
  toLasting := calm_lasting
  called id := (World.boundary_movesBy altered id).calledBy
  addSoftware world _ := World.addEngine_evolves world _
  addScripted world _ := World.addEngine_evolves world _
  setHandles _ _ key := World.evolves_of_engines_eq (by cases key <;> rfl)
  of_world hworld _ hdigests hsignatures := ⟨hworld, hdigests, hsignatures⟩

theorem bind_calm {x : Action α} {f : α → Action β} (hx : Along (Calm altered) x.run)
    (hf : ∀ a, Along (Calm altered) (f a).run) : Along (Calm altered) (x >>= f).run :=
  calm_keeps.bind hx hf

theorem pure_calm (a : α) : Along (Calm altered) (pure a : Action α).run :=
  calm_keeps.pure a

theorem workWithin_calm (id : EngineId) {operation : Native World α}
    (h : Native.Along (World.Evolves altered) operation) :
    Along (Calm altered) (workWithin id operation) :=
  calm_keeps.workWithin id h

theorem releaseKey_calm (key : Key) : Along (Calm altered) (releaseKey key) :=
  fun session => ⟨World.release_evolves session.world key, rfl, rfl⟩

theorem putKey_calm (slot : String) (key : Key) : Along (Calm altered) (putKey slot key) := by
  refine Along.bind calm_lasting calm_lasting.refl fun before => ?_
  refine Along.bind calm_lasting (fun session => ⟨.refl session.world, rfl, rfl⟩) fun _ => ?_
  cases before.keys.find? slot with
  | none => exact Along.pure calm_lasting ()
  | some previous => exact releaseKey_calm previous

theorem putPair_calm (engine slot : String) (algorithm : Software.KeyAlgorithm)
    {generate : Action (Except Software.GenerationFault (Software.Halves Software.KeyMaterial))}
    (hgenerate : ∀ session, (generate.run session).2 = session) :
    Along (Calm altered) (putPair engine slot algorithm generate).run := by
  intro session
  have hsame : generate.run session = ((generate.run session).1, session) :=
    Prod.ext rfl (hgenerate session)
  obtain ⟨e, hrun⟩ | ⟨id, owner, pair, -, howner, -, hrun⟩ :=
    putPair_cases engine slot algorithm hsame
  · rw [hrun]
    exact calm_lasting.refl session
  · have hadded : session.Calm altered
        { session with world := (session.world.addPair id owner algorithm pair).2 } :=
      ⟨World.addPair_evolves howner algorithm pair, rfl, rfl⟩
    rw [hrun]
    exact calm_lasting.trans hadded
      (calm_lasting.trans (putKey_calm _ _ _) (putKey_calm _ _ _))

theorem freeKey_calm (engine : String) (handle : KeyHandle) :
    Along (Calm altered) (perform (.freeKey engine handle)).run := by
  intro session
  refine softwareEngine_bind (calm_lasting.refl session) fun id owner howner => ?_
  exact ⟨World.setSoftware_evolves howner (owner.freeKey_evolves handle), rfl, rfl⟩

theorem shareKey_calm (key slot : String) :
    Along (Calm altered) (perform (.shareKey key slot)).run := by
  refine bind_calm (calm_keeps.inSlot _ _) fun key => ?_
  refine bind_calm (fun session => ⟨World.hold_evolves session.world key, rfl, rfl⟩) fun _ => ?_
  exact bind_calm (Along.run_lift (putKey_calm slot key)) fun _ => pure_calm _

theorem newKey_calm (slot : String) (handles : List KeyHandle) (algorithm : String) :
    Along (Calm altered) (perform (.newKey slot handles algorithm)).run := by
  intro session
  have hadded : session.Calm altered
      { session with world := (session.world.addScriptedKey handles algorithm).2 } :=
    ⟨World.evolves_of_engines_eq rfl, rfl, rfl⟩
  have hput (key : Key) :
      Along (Calm altered) (do putKey slot key; return .done : Action Answer).run :=
    bind_calm (Along.run_lift (putKey_calm slot key)) fun _ => pure_calm _
  exact calm_lasting.trans hadded (hput _ _)

/-! ### Objects with a digest -/

/-- A digest that is created has a handle that is issued then. -/
theorem create_fresh {world : World} {id : EngineId} {context : ContextHandle} {algorithm : String}
    {digest : Digest} {run : Run World}
    (h : (Digest.create (World.boundary id) context algorithm).outcome { state := world } =
      (.ok digest, run)) :
    Fresh world run.state id digest.handle := by
  obtain ⟨hreply, -, -, rfl⟩ := Digest.create_eq_ok _ h
  rw [Boundary.asked_state]
  cases hfound : world.engines[id]? with
  | none =>
      rw [World.replyTo_of_none hfound] at hreply
      cases hreply
  | some found =>
      obtain ⟨hbound, -⟩ := Array.getElem?_eq_some_iff.mp hfound
      have hevolves : world.Evolves (fun _ _ => True)
          ((World.boundary id).behind (.digestCreate context algorithm) world) :=
        World.respond_evolves world id fun _ _ => trivial
      refine ⟨Nat.lt_of_lt_of_le hbound hevolves.size_le, fun hlater => ?_,
        fun hengine hlater => ?_⟩
      · obtain ⟨engine, hengine, -⟩ := hevolves.software_before hbound hlater
        rw [World.replyTo_software hengine, Except.ok.injEq] at hreply
        rw [World.behind_software hengine, World.softwareEngine?_setEngine hengine] at hlater
        exact Option.some.inj hlater ▸ (Software.Engine.digestCreate_issued hreply).1
      · rw [World.replyTo_software hengine, Except.ok.injEq] at hreply
        rw [World.behind_software hengine, World.softwareEngine?_setEngine hengine] at hlater
        exact Option.some.inj hlater ▸ (Software.Engine.digestCreate_issued hreply).2

theorem dropSignature_calm {opened : OpenSignature}
    (hdigest : altered opened.engine opened.signature.digest.handle) :
    Along (Calm altered) (dropSignature opened).run :=
  calm_keeps.attempt (Signature.drop_along (World.boundary_movesBy altered opened.engine) hdigest)

theorem putDigest_calm {session : Session} {slot : String} (opened : OpenDigest)
    (hprevious : ∀ previous, session.digests.find? slot = some previous →
      altered previous.engine previous.digest.handle) :
    Calm altered { session with digests := session.digests.insert slot opened }
      ((putDigest slot opened).run session).2 := by
  rw [putDigest_run]
  cases hfound : session.digests.find? slot with
  | none => exact calm_lasting.refl _
  | some previous => exact calm_keeps.freeDigest (hprevious previous hfound) _

theorem putSignature_calm {session : Session} {slot : String} (opened : OpenSignature)
    (hprevious : ∀ previous, session.signatures.find? slot = some previous →
      altered previous.engine previous.signature.digest.handle) :
    Calm altered { session with signatures := session.signatures.insert slot opened }
      ((putSignature slot opened).run session).2 := by
  rw [putSignature_run]
  cases hfound : session.signatures.find? slot with
  | none => exact calm_lasting.refl _
  | some previous => exact dropSignature_calm (hprevious previous hfound) _

/-- A digest that is created finds its place, and the object that was there goes. -/
theorem putDigest_evolves {session middle : Session} {slot : String} (opened : OpenDigest)
    (hmiddle : session.Calm altered middle)
    (hfresh : Fresh session.world middle.world opened.engine opened.digest.handle)
    (haltered : ∀ id digest, session.held (.digest slot) = some (id, digest) →
      altered id digest) :
    session.Evolves altered (some (.digest slot)) ((putDigest slot opened).run middle).2 := by
  have hput : session.Evolves altered (some (.digest slot))
      { middle with digests := middle.digests.insert slot opened } :=
    { world := hmiddle.world
      digests := fun {name} h => by
        rw [← hmiddle.digests]
        exact Table.find?_insert_of_ne _ _ fun hsame => h (hsame ▸ rfl)
      signatures := fun _ => by rw [← hmiddle.signatures]
      here := by
        rintro _ id digest ⟨⟩ hheld
        rw [held, Table.find?_insert_self] at hheld
        cases hheld
        exact .inr hfresh }
  refine evolves_lasting.trans hput ((putDigest_calm opened fun previous hfound => ?_).evolves _)
  exact haltered _ _ (by rw [held, ← hmiddle.digests, hfound]; rfl)

theorem putSignature_evolves {session middle : Session} {slot : String} (opened : OpenSignature)
    (hmiddle : session.Calm altered middle)
    (hfresh : Fresh session.world middle.world opened.engine opened.signature.digest.handle)
    (haltered : ∀ id digest, session.held (.signature slot) = some (id, digest) →
      altered id digest) :
    session.Evolves altered (some (.signature slot))
      ((putSignature slot opened).run middle).2 := by
  have hput : session.Evolves altered (some (.signature slot))
      { middle with signatures := middle.signatures.insert slot opened } :=
    { world := hmiddle.world
      digests := fun _ => by rw [← hmiddle.digests]
      signatures := fun {name} h => by
        rw [← hmiddle.signatures]
        exact Table.find?_insert_of_ne _ _ fun hsame => h (hsame ▸ rfl)
      here := by
        rintro _ id digest ⟨⟩ hheld
        rw [held, Table.find?_insert_self] at hheld
        cases hheld
        exact .inr hfresh }
  refine evolves_lasting.trans hput
    ((putSignature_calm opened fun previous hfound => ?_).evolves _)
  exact haltered _ _ (by rw [held, ← hmiddle.signatures, hfound]; rfl)

theorem newDigest_evolves {session : Session} {slot : String} (context algorithm : String)
    (haltered : ∀ id digest, session.held (.digest slot) = some (id, digest) →
      altered id digest) :
    session.Evolves altered (some (.digest slot))
      ((newDigest slot context algorithm).run session).2 := by
  have hrefl : session.Evolves altered (some (.digest slot)) session :=
    evolves_lasting.refl session
  refine inSlot_bind hrefl fun place _ => contextAt_bind hrefl fun opened _ => ?_
  have hcreated := workWithin_calm opened.engine (Digest.create_along
    (World.boundary_movesBy altered opened.engine).calledBy opened.context.handle algorithm)
    session
  refine attempt_bind (hcreated.evolves _) fun digest hdigest => ?_
  have hfresh := create_fresh (Prod.ext hdigest rfl)
  rw [run_bind_pure]
  exact putDigest_evolves { engine := opened.engine, digest } hcreated hfresh haltered

theorem newSignature_evolves {session : Session} {slot : String} (context algorithm : String)
    (haltered : ∀ id digest, session.held (.signature slot) = some (id, digest) →
      altered id digest) :
    session.Evolves altered (some (.signature slot))
      ((newSignature slot context algorithm).run session).2 := by
  have hrefl : session.Evolves altered (some (.signature slot)) session :=
    evolves_lasting.refl session
  refine inSlot_bind hrefl fun place _ => contextAt_bind hrefl fun opened _ => ?_
  have hcreated := workWithin_calm opened.engine (Signature.create_along
    (World.boundary_movesBy altered opened.engine).calledBy opened.context.handle algorithm)
    session
  refine attempt_bind (hcreated.evolves _) fun signature hsignature => ?_
  have hfresh : Fresh session.world (workWithin opened.engine (Signature.create
      (World.boundary opened.engine) opened.context.handle algorithm :
        Attempt World (Signature Key)).outcome session).2.world opened.engine
      signature.digest.handle := by
    exact create_fresh (Signature.create_eq_ok _ (Prod.ext hsignature rfl)).1
  rw [run_bind_pure]
  exact putSignature_evolves { engine := opened.engine, context := place, signature } hcreated
    hfresh haltered

/-- Binding a key leaves a signature its digest. -/
theorem startSignature_evolves {session : Session} {name : String} {opened : OpenSignature}
    (hopened : session.signatures.find? name = some opened) (slot : String) (plainRsa : Bool)
    (haltered : altered opened.engine opened.signature.digest.handle) :
    session.Evolves altered (some (.signature name))
      ((startSignature name opened slot plainRsa).run session).2 := by
  cases hkey : session.keys.find? slot with
  | none =>
      rw [startSignature, run_bind, inSlot_run, hkey]
      exact evolves_lasting.refl session
  | some key =>
      have hheld : session.Calm altered { session with world := session.world.hold key } :=
        ⟨World.hold_evolves session.world key, rfl, rfl⟩
      have hmoves := World.boundary_movesBy altered opened.engine
      have hstarted := calm_lasting.trans hheld
        (workWithin_calm opened.engine (Signature.start_along hmoves haltered key plainRsa) _)
      have hdigest := opened.signature.turn_digest (World.boundary opened.engine)
        (.start key plainRsa) (session.world.hold key)
      rw [startSignature_run name opened plainRsa hkey]
      exact
        { world := hstarted.world
          digests := fun {name} _ => congrArg (Table.find? · name) hstarted.digests
          signatures := fun h =>
            Table.find?_insert_of_ne _ _ fun hsame => h (hsame ▸ rfl)
          here := by
            rintro _ id digest ⟨⟩ hnext
            rw [held, Table.find?_insert_self] at hnext
            rw [held, hopened, ← hnext]
            exact .inl (congrArg (fun kept : Digest => some (opened.engine, kept.handle))
              hdigest.symm) }

/-- A place that is emptied, the object of which is let go. -/
theorem dropDigest_evolves {session : Session} {name : String}
    (haltered : ∀ id digest, session.held (.digest name) = some (id, digest) →
      altered id digest) :
    session.Evolves altered (some (.digest name)) ((dropSlot name .digest).run session).2 := by
  rw [dropDigest_state]
  cases hfound : session.digests.find? name with
  | none => exact evolves_lasting.refl session
  | some opened =>
      have herased : session.Evolves altered (some (.digest name))
          { session with digests := session.digests.erase name } :=
        { world := .refl session.world
          digests := fun h => Table.find?_erase_of_ne _ fun hsame => h (hsame ▸ rfl)
          signatures := fun _ => rfl
          here := by
            rintro _ id digest ⟨⟩ hnext
            rw [held, Table.find?_erase_self] at hnext
            cases hnext }
      have hdigest : altered opened.engine opened.digest.handle :=
        haltered _ _ (by rw [held, hfound]; rfl)
      exact evolves_lasting.trans herased ((calm_keeps.freeDigest hdigest _).evolves _)

theorem dropSignature_evolves {session : Session} {name : String}
    (haltered : ∀ id digest, session.held (.signature name) = some (id, digest) →
      altered id digest) :
    session.Evolves altered (some (.signature name))
      ((dropSlot name .signature).run session).2 := by
  rw [dropSignature_state]
  cases hfound : session.signatures.find? name with
  | none => exact evolves_lasting.refl session
  | some opened =>
      have herased : session.Evolves altered (some (.signature name))
          { session with signatures := session.signatures.erase name } :=
        { world := .refl session.world
          digests := fun _ => rfl
          signatures := fun h => Table.find?_erase_of_ne _ fun hsame => h (hsame ▸ rfl)
          here := by
            rintro _ id digest ⟨⟩ hnext
            rw [held, Table.find?_erase_self] at hnext
            cases hnext }
      have hdigest : altered opened.engine opened.signature.digest.handle :=
        haltered _ _ (held_signature hfound)
      exact evolves_lasting.trans herased ((dropSignature_calm hdigest _).evolves _)

theorem dropKey_calm (name : String) : Along (Calm altered) (dropSlot name .key).run := by
  intro session
  rw [dropKey_state]
  cases session.keys.find? name with
  | none => exact calm_lasting.refl session
  | some key =>
      have herased : session.Calm altered { session with keys := session.keys.erase name } :=
        ⟨.refl session.world, rfl, rfl⟩
      exact calm_lasting.trans herased (releaseKey_calm key _)

/-! ### Steps -/

/-- The place whose object a step has to do with. -/
def Step.place : Step → Option Place
  | .newDigest slot _ _ => some (.digest slot)
  | .digest name _ => some (.digest name)
  | .newSignature slot _ _ => some (.signature slot)
  | .signature name _ => some (.signature name)
  | .drop .digest name => some (.digest name)
  | .drop .signature name => some (.signature name)
  | _ => none

theorem altered_withData (data : Bytes) (call : NativeCall) :
    (withData data call).altered = call.altered := by
  cases call <;> rfl

/-- A call to an engine alters a digest. -/
def callsOn (session : Session) (step : Step) (id : EngineId) (digest : DigestHandle) : Prop :=
  match step with
  | .native engine call _ _ =>
    session.engines.find? engine = some id ∧ call.altered = some digest
  | _ => False

/-- What a step alters: the digest of the object it has to do with, or the one it calls for. -/
def alters (session : Session) (step : Step) (id : EngineId) (digest : DigestHandle) : Prop :=
  (∃ place, step.place = some place ∧ session.held place = some (id, digest)) ∨
    session.callsOn step id digest

/-- Whether a step does no more than call engines and keep books. -/
def Step.callsOnly : Step → Bool
  | .generateEc _ _ _ => false
  | .generateRsa _ _ _ _ _ => false
  | .freeKey _ _ => false
  | .shareKey _ _ => false
  | .newKey _ _ _ => false
  | .newDigest _ _ _ => false
  | .newSignature _ _ _ => false
  | .signature _ (.start _ _) => false
  | .drop .signature _ => false
  | .drop .digest _ => false
  | .drop .key _ => false
  | _ => true

theorem Keeps.perform {W : World → World → Prop} {R : Session → Session → Prop}
    (h : Keeps altered W R) {session : Session} {step : Step} (hcalls : step.callsOnly = true)
    (haltered : ∀ id digest, session.alters step id digest → altered id digest) :
    R session ((perform step).run session).2 := by
  cases step with
  | newEngine slot document => exact h.newEngine slot document session
  | newScripted slot engine => exact h.newScripted slot engine session
  | engineDiagnostic engine =>
      exact softwareEngine_bind (h.refl session) fun _ _ _ => h.refl session
  | buildDate engine =>
      exact h.bind (h.inSlot _ _) (fun id => h.askBuildDate id) session
  | native engine call operand name =>
      refine inSlot_bind (h.refl session) fun id hid => ?_
      have hcall (data : Bytes) (digest : DigestHandle)
          (hdigest : (withData data call).altered = some digest) : altered id digest :=
        haltered id digest (.inr ⟨hid, by rwa [← altered_withData data call]⟩)
      simp only
      split
      · exact h.callNative (fun digest hdigest => haltered id digest (.inr ⟨hid, hdigest⟩)) name
          session
      · exact h.bind (h.operand _) (fun data => h.callNative (hcall data) name) session
  | keyInfo key => exact h.keyInfo key session
  | keysEqual a b => exact h.keysEqual a b session
  | setKey key handles => exact h.setKey key handles session
  | createContext slot engine fips source => exact h.createContext slot engine fips source session
  | context context step => exact h.contextStep context step session
  | digest name step =>
      refine h.digestStep step fun opened hopened => haltered _ _ (.inl ⟨_, rfl, ?_⟩)
      rw [held, hopened]
      rfl
  | signature name step =>
      refine h.signatureStep (fun key plainRsa hstart => ?_) fun opened hopened =>
        haltered _ _ (.inl ⟨_, rfl, ?_⟩)
      · subst hstart
        cases hcalls
      · exact held_signature hopened
  | drop kind name =>
      rw [Session.perform, run_bind_pure]
      cases kind with
      | context => exact h.dropContext name session
      | engine => exact h.dropEngine name session
      | _ => cases hcalls
  | _ => cases hcalls

theorem perform_evolves (session : Session) (step : Step) :
    session.Evolves (session.alters step) step.place ((perform step).run session).2 := by
  cases hcalls : step.callsOnly with
  | true => exact (calm_keeps.perform hcalls fun _ _ => id).evolves _
  | false =>
      cases step with
      | generateEc engine slot entropy =>
          refine (putPair_calm engine slot _ (fun session => ?_) session).evolves _
          rw [run_bind_pure, operand_run]
      | generateRsa engine slot bits p q =>
          exact (putPair_calm engine slot _ (fun _ => rfl) session).evolves _
      | freeKey engine handle => exact (freeKey_calm engine handle session).evolves _
      | shareKey key slot => exact (shareKey_calm key slot session).evolves _
      | newKey slot handles algorithm =>
          exact (newKey_calm slot handles algorithm session).evolves _
      | newDigest slot context algorithm =>
          exact newDigest_evolves context algorithm fun _ _ hheld => .inl ⟨_, rfl, hheld⟩
      | newSignature slot context algorithm =>
          exact newSignature_evolves context algorithm fun _ _ hheld => .inl ⟨_, rfl, hheld⟩
      | signature name step =>
          cases step with
          | start key plainRsa =>
              refine inSlot_bind (evolves_lasting.refl session) fun opened hopened => ?_
              exact startSignature_evolves hopened key plainRsa
                (.inl ⟨_, rfl, held_signature hopened⟩)
          | _ => cases hcalls
      | drop kind name =>
          rw [perform, run_bind_pure]
          cases kind with
          | signature => exact dropSignature_evolves fun _ _ hheld => .inl ⟨_, rfl, hheld⟩
          | digest => exact dropDigest_evolves fun _ _ hheld => .inl ⟨_, rfl, hheld⟩
          | key => exact (dropKey_calm name session).evolves _
          | _ => cases hcalls
      | _ => cases hcalls

theorem step_evolves (session : Session) (step : Step) :
    session.Evolves (session.alters step) step.place (session.step step).2 := by
  have h := perform_evolves { session with calls := #[], events := #[] } step
  exact ⟨h.world, h.digests, h.signatures, h.here⟩

end SigningEngine.Session
