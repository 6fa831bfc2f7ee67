import SigningEngine.Proofs.Moves
import SigningEngine.Session.Run

/-!
# Relations along a step

Most steps do nothing but call engines and keep books: they release no key, and leave the slots of
keys, digests and signatures as they are. A relation between sessions that lasts under this holds
along all of them.
-/

namespace SigningEngine.Session

variable {α β : Type}

/-! ### Runs -/

theorem get_run (session : Session) : (get : Action Session).run session = (.ok session, session) :=
  rfl

theorem modify_run (f : Session → Session) (session : Session) :
    (modify f : Action Unit).run session = (.ok (), f session) := rfl

theorem workWithin_world (id : EngineId) (operation : Native World α) (session : Session) :
    (workWithin id operation session).2.world =
      (operation { state := session.world }).2.state := rfl

theorem within_run (id : EngineId) (operation : Native World α) (session : Session) :
    (within id operation).run session =
      (.ok (workWithin id operation session).1, (workWithin id operation session).2) := rfl

theorem settled_run (outcome : Except Failure α) (session : Session) :
    (settled outcome).run session = (outcome.mapError .failed, session) := by
  cases outcome <;> rfl

theorem attempt_run (id : EngineId) (operation : Attempt World α) (session : Session) :
    (attempt id operation).run session =
      ((operation.outcome { state := session.world }).1.mapError .failed,
        (workWithin id operation.outcome session).2) := by
  rw [attempt, run_bind, within_run]
  simp only
  rw [settled_run]
  rfl

theorem putKey_run (slot : String) (key : Key) (session : Session) :
    putKey slot key session =
      (match session.keys.find? slot with
        | some previous => releaseKey previous
        | none => pure () : Work Unit) { session with keys := session.keys.insert slot key } := by
  have hget : (get : Work Session) session = (session, session) := rfl
  rw [putKey, stateM_bind, hget]
  simp only
  rw [stateM_bind]
  cases session.keys.find? slot <;> rfl

theorem putDigest_run (slot : String) (opened : OpenDigest) (session : Session) :
    (putDigest slot opened).run session =
      (match session.digests.find? slot with
        | some previous => freeDigest previous
        | none => pure () : Action Unit).run
        { session with digests := session.digests.insert slot opened } := by
  rw [putDigest, run_bind, get_run]
  simp only
  rw [run_bind]
  cases session.digests.find? slot <;> rfl

theorem putSignature_run (slot : String) (opened : OpenSignature) (session : Session) :
    (putSignature slot opened).run session =
      (match session.signatures.find? slot with
        | some previous => dropSignature previous
        | none => pure () : Action Unit).run
        { session with signatures := session.signatures.insert slot opened } := by
  rw [putSignature, run_bind, get_run]
  simp only
  rw [run_bind]
  cases session.signatures.find? slot <;> rfl

theorem dropKey_state (name : String) (session : Session) :
    ((dropSlot name .key).run session).2 =
      match session.keys.find? name with
      | some key => (releaseKey key { session with keys := session.keys.erase name }).2
      | none => session := by
  rw [dropSlot, run_bind, get_run]
  simp only
  cases session.keys.find? name <;> rfl

theorem dropDigest_state (name : String) (session : Session) :
    ((dropSlot name .digest).run session).2 =
      match session.digests.find? name with
      | some opened =>
        ((freeDigest opened).run { session with digests := session.digests.erase name }).2
      | none => session := by
  rw [dropSlot, run_bind, get_run]
  simp only
  cases session.digests.find? name with
  | none => rfl
  | some opened => exact run_bind_pure (freeDigest opened) (fun _ => true) _

theorem dropSignature_state (name : String) (session : Session) :
    ((dropSlot name .signature).run session).2 =
      match session.signatures.find? name with
      | some opened =>
        ((dropSignature opened).run
          { session with signatures := session.signatures.erase name }).2
      | none => session := by
  rw [dropSlot, run_bind, get_run]
  simp only
  cases session.signatures.find? name with
  | none => rfl
  | some opened => exact run_bind_pure (dropSignature opened) (fun _ => true) _

/-! ### Reading

Reading leaves the session as it is, so what holds behind an action that begins by reading is what
holds behind its rest, and already now in case that there is nothing to be read. -/

section Reading

variable {session : Session} {P : Session → Prop}

theorem inSlot_run (slots : Session → Table String α) (name : String) (session : Session) :
    (inSlot slots name).run session =
      (match (slots session).find? name with
        | some object => .ok object
        | none => .error (.noSlot name), session) := by
  rw [inSlot, run_bind, get_run]
  simp only
  cases (slots session).find? name <;> rfl

theorem inSlot_bind {slots : Session → Table String α} {name : String} {f : α → Action β}
    (hnone : P session)
    (hsome : ∀ object, (slots session).find? name = some object → P ((f object).run session).2) :
    P ((inSlot slots name >>= f).run session).2 := by
  rw [run_bind, inSlot_run]
  cases hfound : (slots session).find? name with
  | none => exact hnone
  | some object => exact hsome object hfound

theorem contextAt_bind {name : String} {place : Nat} {f : OpenContext → Action β}
    (hnone : P session)
    (hsome : ∀ opened, session.created[place]? = some opened → P ((f opened).run session).2) :
    P ((contextAt name place >>= f).run session).2 := by
  rw [contextAt, run_bind, run_bind, get_run]
  simp only
  cases hfound : session.created[place]? with
  | none => exact hnone
  | some opened => exact hsome opened hfound

theorem softwareEngine_bind {slot : String} {f : EngineId × Software.Engine → Action β}
    (hnone : P session)
    (hsome : ∀ id engine, session.world.softwareEngine? id = some engine →
      P ((f (id, engine)).run session).2) :
    P ((softwareEngine slot >>= f).run session).2 := by
  rw [softwareEngine, bind_assoc]
  refine inSlot_bind hnone fun id _ => ?_
  rw [bind_assoc, run_bind, get_run]
  simp only
  cases hengine : session.world.softwareEngine? id with
  | none => exact hnone
  | some engine => exact hsome id engine hengine

/-- The software engine in a slot. -/
def softwareIn (session : Session) (slot : String) :
    Except StepError (EngineId × Software.Engine) :=
  match session.engines.find? slot with
  | none => .error (.noSlot slot)
  | some id =>
    match session.world.softwareEngine? id with
    | none => .error (.noSlot slot)
    | some engine => .ok (id, engine)

theorem softwareIn_eq_ok {slot : String} {id : EngineId} {engine : Software.Engine}
    (h : session.softwareIn slot = .ok (id, engine)) :
    session.engines.find? slot = some id ∧ session.world.softwareEngine? id = some engine := by
  rw [softwareIn] at h
  split at h
  next => cases h
  next other hother =>
    split at h
    next => cases h
    next found hfound =>
      cases h
      exact ⟨hother, hfound⟩

theorem softwareIn_eq_error {slot : String} {id : EngineId} {e : StepError}
    (h : session.softwareIn slot = .error e) (hid : session.engines.find? slot = some id) :
    session.world.softwareEngine? id = none := by
  rw [softwareIn, hid] at h
  simp only at h
  split at h
  next hnone => exact hnone
  next => cases h

theorem softwareEngine_run (slot : String) (session : Session) :
    (softwareEngine slot).run session = (session.softwareIn slot, session) := by
  rw [softwareEngine, run_bind, inSlot_run, softwareIn]
  cases session.engines.find? slot with
  | none => rfl
  | some id =>
      simp only
      rw [run_bind, get_run]
      simp only
      cases session.world.softwareEngine? id <;> rfl

/-- The bytes of an operand. -/
def operandIn (session : Session) : Operand → Except StepError Bytes
  | .given data => .ok data
  | .saved name =>
    match session.saved.find? name with
    | some data => .ok data
    | none => .error (.noSlot name)

theorem operand_run (data : Operand) (session : Session) :
    (operand data).run session = (session.operandIn data, session) := by
  cases data with
  | given data => rfl
  | saved name =>
      rw [operand, inSlot_run, operandIn]
      cases session.saved.find? name <;> rfl

theorem generation_run (entropy : Operand) (session : Session) :
    (do return Software.KeyMaterial.generateEc (← operand entropy) : Action _).run session =
      ((session.operandIn entropy).map Software.KeyMaterial.generateEc, session) := by
  rw [run_bind, operand_run]
  cases session.operandIn entropy <;> rfl

theorem attempt_bind {id : EngineId} {operation : Attempt World α} {f : α → Action β}
    (herror : P (workWithin id operation.outcome session).2)
    (hok : ∀ value, (operation.outcome { state := session.world }).1 = .ok value →
      P ((f value).run (workWithin id operation.outcome session).2).2) :
    P ((attempt id operation >>= f).run session).2 := by
  show P (((settled (operation.outcome { state := session.world }).1) >>= f).run
    (workWithin id operation.outcome session).2).2
  cases houtcome : (operation.outcome { state := session.world }).1 with
  | error failure => exact herror
  | ok value => exact hok value houtcome

end Reading

theorem startSignature_run {session : Session} (name : String) (opened : OpenSignature)
    {slot : String} (plainRsa : Bool) {key : Key} (hkey : session.keys.find? slot = some key) :
    (startSignature name opened slot plainRsa).run session =
      let started := workWithin opened.engine
        (opened.signature.start (World.boundary opened.engine) key plainRsa)
        { session with world := session.world.hold key }
      ((started.1.1.mapError .failed).map fun _ => .done,
        { started.2 with
          signatures := session.signatures.insert name
            { opened with signature := started.1.2 } }) := by
  rw [startSignature, run_bind, inSlot_run, hkey]
  simp only
  rw [run_bind, modify_run]
  simp only
  rw [run_bind, within_run]
  simp only
  rw [run_bind, modify_run]
  simp only
  rw [run_bind, settled_run]
  cases (workWithin opened.engine
    (opened.signature.start (World.boundary opened.engine) key plainRsa)
    { session with world := session.world.hold key }).1.1 <;> rfl

/-- Either no pair is generated, and nothing happens, or a pair is registered with the engine and
its halves are put into slots. -/
theorem putPair_cases {session : Session} (engine slot : String)
    (algorithm : Software.KeyAlgorithm)
    {generate : Action (Except Software.GenerationFault (Software.Halves Software.KeyMaterial))}
    {result : Except StepError
      (Except Software.GenerationFault (Software.Halves Software.KeyMaterial))}
    (hgenerate : generate.run session = (result, session)) :
    (∃ e, (putPair engine slot algorithm generate).run session = (.error e, session)) ∨
      ∃ id owner pair, session.engines.find? engine = some id ∧
        session.world.softwareEngine? id = some owner ∧ result = .ok (.ok pair) ∧
        let added := session.world.addPair id owner algorithm pair
        let first := putKey (slot ++ ".private") (.software added.1.privateKey)
          { session with world := added.2 }
        (putPair engine slot algorithm generate).run session =
          (.ok (.keyPair
            { privateKey := added.1.privateKey.handle, publicKey := added.1.publicKey.handle }),
            (putKey (slot ++ ".public") (.software added.1.publicKey) first.2).2) := by
  rw [putPair, run_bind, softwareEngine_run]
  cases howner : session.softwareIn engine with
  | error e => exact .inl ⟨e, rfl⟩
  | ok found =>
      obtain ⟨id, owner⟩ := found
      obtain ⟨hid, hengine⟩ := softwareIn_eq_ok howner
      simp only
      rw [run_bind, hgenerate]
      cases result with
      | error e => exact .inl ⟨e, rfl⟩
      | ok generated =>
          cases generated with
          | error fault => exact .inl ⟨_, rfl⟩
          | ok pair => exact .inr ⟨id, owner, pair, hid, hengine, rfl, rfl⟩

/-! ### What calls and bookkeeping keep -/

/-- A relation between sessions that only asks how the world moves, if the slots of keys, digests
and signatures stay; and the world moves by new engines, calls and readings, as long as calls alter
no digests but these. -/
structure Keeps (altered : EngineId → DigestHandle → Prop) (W : World → World → Prop)
    (R : Session → Session → Prop) : Prop extends Lasting R where
  called (id : EngineId) : (World.boundary id).CalledBy (altered id) W
  addSoftware (world : World) (config : Software.Config) :
    W world (world.addEngine (.software (.ofConfig config))).2
  addScripted (world : World) (engine : Scripted.Engine) :
    W world (world.addEngine (.scripted engine)).2
  setHandles (world : World) (handles : List KeyHandle) (key : Key) :
    W world (world.setHandles handles key)
  of_world {session next : Session} : W session.world next.world → next.keys = session.keys →
    next.digests = session.digests → next.signatures = session.signatures → R session next

namespace Keeps

variable {altered : EngineId → DigestHandle → Prop} {W : World → World → Prop}
variable {R : Session → Session → Prop} (h : Keeps altered W R)
include h

theorem refl_world (world : World) : W world world := (h.called 0).refl world

/-- A change that leaves the world and the slots of keys, digests and signatures as they are. -/
theorem of_books {session next : Session} (hworld : next.world = session.world)
    (hkeys : next.keys = session.keys) (hdigests : next.digests = session.digests)
    (hsignatures : next.signatures = session.signatures) : R session next :=
  h.of_world (hworld ▸ h.refl_world session.world) hkeys hdigests hsignatures

theorem bind {x : Action α} {f : α → Action β} (hx : Along R x.run)
    (hf : ∀ a, Along R (f a).run) : Along R (x >>= f).run :=
  Along.run_bind h.toLasting hx hf

theorem pure (a : α) : Along R (Pure.pure a : Action α).run := Along.run_pure h.toLasting a

theorem refuse (e : StepError) : Along R (refuse e : Action α).run :=
  Along.run_throw h.toLasting e

theorem inSlot (slots : Session → Table String α) (name : String) :
    Along R (inSlot slots name).run := by
  intro session
  rw [inSlot_run]
  exact h.refl session

theorem contextAt (name : String) (place : Nat) : Along R (contextAt name place).run := by
  refine h.bind h.refl fun session : Session => ?_
  split
  · exact h.pure _
  · exact h.refuse _

theorem operand (data : Operand) : Along R (operand data).run := by
  intro session
  rw [operand_run]
  exact h.refl session

/-- A change to the books. -/
theorem modifies {f : Session → Session}
    (hf : ∀ session, (f session).world = session.world ∧ (f session).keys = session.keys ∧
      (f session).digests = session.digests ∧ (f session).signatures = session.signatures) :
    Along R (modify f : Action Unit).run :=
  fun session => h.of_books (hf session).1 (hf session).2.1 (hf session).2.2.1 (hf session).2.2.2

theorem settled (outcome : Except Failure α) : Along R (settled outcome).run := by
  cases outcome with
  | ok value => exact h.pure value
  | error failure => exact h.refuse _

theorem workWithin (id : EngineId) {operation : Native World α}
    (hoperation : Native.Along W operation) : Along R (workWithin id operation) :=
  fun session => h.of_world (hoperation { state := session.world }) rfl rfl rfl

theorem within {id : EngineId} {operation : Native World α}
    (hoperation : Native.Along W operation) : Along R (within id operation).run :=
  Along.run_lift (h.workWithin id hoperation)

theorem attempt {id : EngineId} {operation : Attempt World α}
    (hoperation : Native.Along W operation.outcome) : Along R (attempt id operation).run :=
  h.bind (h.within hoperation) h.settled

theorem save (name : Option String) (signature : Bytes) : Along R (save name signature) := by
  cases name with
  | none => exact h.refl
  | some name => exact fun session => h.of_books rfl rfl rfl rfl

theorem putEngine {slot : String} {engine : Engine}
    (hadd : ∀ world : World, W world (world.addEngine engine).2) :
    Along R (putEngine slot engine) :=
  fun session => h.of_world (hadd session.world) rfl rfl rfl

theorem newEngine (slot : String) (document : Option Json) :
    Along R (newEngine slot document).run := by
  have hput (config : Software.Config) : Along R
      (do
        let _ ← Session.putEngine slot (.software (.ofConfig config))
        return .engineConfig config : Action Answer).run :=
    h.bind (Along.run_lift (h.putEngine fun world => h.addSoftware world config)) fun _ => h.pure _
  rw [newEngine.eq_def]
  simp only
  split
  · exact h.bind (h.pure _) hput
  · split
    · exact h.bind (h.pure _) hput
    · exact h.bind (h.refuse _) hput

theorem newScripted (slot : String) (engine : Scripted.Engine) :
    Along R (newScripted slot engine).run := by
  refine h.bind (Along.run_lift (h.putEngine fun world => h.addScripted world engine))
    fun id => ?_
  exact h.bind (h.modifies fun session => ⟨rfl, rfl, rfl, rfl⟩) fun _ => h.pure _

theorem askBuildDate (id : EngineId) : Along R (askBuildDate id).run := by
  refine h.bind h.refl fun session : Session => ?_
  refine h.bind (h.within (Context.readBuildDate_along (h.called id) session.buildDate))
    fun result => ?_
  refine h.bind (h.modifies fun session => ⟨rfl, rfl, rfl, rfl⟩) fun _ => ?_
  exact h.bind (h.settled _) fun _ => h.pure _

theorem callNative {id : EngineId} {call : NativeCall}
    (hcall : ∀ digest, call.altered = some digest → altered id digest) (name : Option String) :
    Along R (callNative id call name).run := by
  refine h.bind (h.within ((h.called id).ask hcall)) fun reply => ?_
  cases reply with
  | error message => exact h.refuse _
  | ok reply =>
      simp only
      split
      · exact h.refuse _
      · split
        · exact h.bind (Along.run_lift (h.save name _)) fun _ => h.pure _
        · exact h.pure _

theorem readKept {place : Nat} {opened : OpenContext}
    {read : Context → Native World (α × Context)}
    (hread : Native.Along W (read opened.context)) :
    Along R (readKept place opened read).run := by
  refine h.bind (h.within hread) fun result => ?_
  exact h.bind (h.modifies fun session => ⟨rfl, rfl, rfl, rfl⟩) fun _ => h.pure _

theorem createContext (slot engine : String) (fips : Bool) (source : ConfigSource) :
    Along R (createContext slot engine fips source).run := by
  refine h.bind (h.inSlot _ _) fun id => ?_
  have hput (context : Context) : Along R
      (do
        modify fun session => { session with
          created := session.created.push { engine := id, context }
          contexts := session.contexts.insert slot session.created.size }
        return .context context.handle context.fips : Action Answer).run :=
    h.bind (h.modifies fun session => ⟨rfl, rfl, rfl, rfl⟩) fun _ => h.pure _
  simp only
  split
  · exact h.bind (h.attempt (Context.createFromEnvironment_along (h.called id) fips _)) hput
  · split
    · exact h.bind (h.refuse _) hput
    · exact h.bind (h.attempt (Context.create_along (h.called id) fips _)) hput

theorem contextStep (name : String) (step : ContextStep) :
    Along R (contextStep name step).run := by
  refine h.bind (h.inSlot _ _) fun place => ?_
  refine h.bind (h.contextAt _ _) fun opened => ?_
  have hcalled := h.called opened.engine
  cases step with
  | handle => exact h.pure _
  | fips => exact h.pure _
  | text => exact h.pure _
  | diagnostic => exact h.pure _
  | version =>
      refine h.bind (h.readKept (Context.readVersion_along hcalled _)) fun outcome => ?_
      exact h.bind (h.settled outcome) fun _ => h.pure _
  | installPath =>
      refine h.bind (h.readKept (Context.readInstallPath_along hcalled _)) fun outcome => ?_
      exact h.bind (h.settled outcome) fun _ => h.pure _
  | buildDate => exact h.askBuildDate _
  | fipsApprovedMode =>
      exact h.bind (h.attempt (Context.fipsApprovedMode_along hcalled _)) fun _ => h.pure _
  | versions callers =>
      exact h.bind (h.readKept (Context.readVersions_along hcalled callers _)) fun _ => h.pure _
  | installPaths callers =>
      exact h.bind (h.readKept (Context.readInstallPaths_along hcalled callers _)) fun _ =>
        h.pure _

theorem keyInfo (key : String) : Along R (perform (.keyInfo key)).run := by
  refine h.bind (h.inSlot _ _) fun key session => ?_
  exact h.of_world ((h.called 0).read key session.world) rfl rfl rfl

theorem keysEqual (a b : String) : Along R (perform (.keysEqual a b)).run :=
  h.bind (h.inSlot _ _) fun _ => h.bind (h.inSlot _ _) fun _ => h.pure _

theorem setKey (key : String) (handles : List KeyHandle) :
    Along R (perform (.setKey key handles)).run := by
  refine h.bind (h.inSlot _ _) fun key => ?_
  refine h.bind (fun session => ?_) fun _ => h.pure _
  exact h.of_world (h.setHandles session.world handles key) rfl rfl rfl

theorem dropContext (name : String) : Along R (dropSlot name .context).run :=
  fun _ => h.of_books rfl rfl rfl rfl

theorem dropEngine (name : String) : Along R (dropSlot name .engine).run :=
  fun _ => h.of_books rfl rfl rfl rfl

theorem freeDigest {opened : OpenDigest} (hdigest : altered opened.engine opened.digest.handle) :
    Along R (freeDigest opened).run :=
  h.attempt (Digest.free_along (h.called opened.engine) hdigest)

/-- What a step on a digest does is done to the digest in that slot. -/
theorem digestStep {session : Session} {name : String} (step : DigestStep)
    (haltered : ∀ opened, session.digests.find? name = some opened →
      altered opened.engine opened.digest.handle) :
    R session ((digestStep name step).run session).2 := by
  refine inSlot_bind (h.refl session) fun opened hopened => ?_
  have hcalled := h.called opened.engine
  have hdigest := haltered opened hopened
  cases step with
  | update data =>
      exact (h.bind (h.operand data) fun data =>
        h.bind (h.attempt (Digest.update_along hcalled hdigest data)) fun _ => h.pure _) session
  | reset =>
      exact h.bind (h.attempt (Digest.reset_along hcalled hdigest)) (fun _ => h.pure _) session
  | handle => exact h.pure _ session
  | algorithm => exact h.pure _ session
  | diagnostic => exact h.pure _ session

/-- What a step on a signature does, unless it starts one, is done to the digest it feeds. -/
theorem signatureStep {session : Session} {name : String} {step : SignatureStep}
    (hstart : ∀ key plainRsa, step ≠ .start key plainRsa)
    (haltered : ∀ opened, session.signatures.find? name = some opened →
      altered opened.engine opened.signature.digest.handle) :
    R session ((signatureStep name step).run session).2 := by
  refine inSlot_bind (h.refl session) fun opened hopened => ?_
  have hcalled := h.called opened.engine
  have hdigest := haltered opened hopened
  cases step with
  | start key plainRsa => exact (hstart key plainRsa rfl).elim
  | isInitialized => exact h.pure _ session
  | update data span =>
      exact (h.bind (h.operand data) fun data =>
        h.bind (h.attempt (Signature.update_along hcalled hdigest data span)) fun _ =>
          h.pure _) session
  | updateAll data =>
      exact (h.bind (h.operand data) fun data =>
        h.bind (h.attempt (Signature.update_along hcalled hdigest data _)) fun _ =>
          h.pure _) session
  | sign save =>
      exact (h.bind (h.attempt (Signature.sign_along hcalled hdigest)) fun bytes =>
        h.bind (Along.run_lift (h.save save bytes)) fun _ => h.pure _) session
  | verify candidate =>
      exact (h.bind (h.operand candidate) fun data =>
        h.bind (h.attempt (Signature.verify_along hcalled hdigest data)) fun _ =>
          h.pure _) session
  | algorithm => exact h.pure _ session
  | context => exact h.bind (h.contextAt _ _) (fun _ => h.pure _) session
  | diagnostic => exact h.bind (h.contextAt _ _) (fun _ => h.pure _) session
  | signs callers =>
      exact h.bind (h.within (Signature.signs_along hcalled hdigest callers))
        (fun _ => h.pure _) session

end Keeps

end SigningEngine.Session
