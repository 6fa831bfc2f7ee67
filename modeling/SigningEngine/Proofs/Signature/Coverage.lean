import SigningEngine.Proofs.Signature.Binding
import SigningEngine.Proofs.World

/-!
# What a signature over a software engine covers

The digest of a signature holds what is covered by the next call that signs or verifies. A software
engine never refuses an update or a reset of a digest that it keeps in a live context, so what the
digest holds is told by the turns of the signature alone: a start empties it, an update that is
accepted appends its slice, and whatever reaches the engine to sign or to verify empties it.

The main statements are `turns_feeds`, for any operations on one signature, and `outcome_once`: a
signature with a past signs as a new one does that is fed the same message as a whole.
-/

namespace SigningEngine

namespace Software.Engine

variable {engine : Engine} {digest : Digest} {state : Accumulator}

/-- A digest is kept, in a live context, and holds this. -/
structure Covers (engine : Engine) (digest : Digest) (state : Accumulator) : Prop where
  context : engine.contexts.contains digest.context = true
  digest : engine.digests.find? digest.handle = some state

theorem Covers.changeDigest (h : engine.Covers digest state)
    (change : Accumulator → Accumulator) :
    let changed := engine.settle (engine.changeDigest digest.context digest.handle change)
    changed.1 = .ok () ∧ changed.2.Covers digest (change state) := by
  obtain ⟨fips, hfips⟩ := Option.isSome_iff_exists.mp h.context
  rw [changeDigest_eq, hfips, h.digest]
  exact ⟨rfl, h.context, Table.find?_insert_self _ _ _⟩

/-- An update is accepted. -/
theorem Covers.update (h : engine.Covers digest state) (data : Bytes) :
    let updated := engine.reply (.digestUpdate digest.context digest.handle data)
    updated.1 = .ok () ∧ updated.2.Covers digest (state.update data) :=
  h.changeDigest (·.update data)

/-- A reset succeeds. -/
theorem Covers.reset (h : engine.Covers digest state) :
    let reset := engine.reply (.digestReset digest.context digest.handle)
    reset.1 = .ok () ∧ reset.2.Covers digest state.reset :=
  h.changeDigest (·.reset)

theorem Covers.sign (h : engine.Covers digest state) (key : KeyHandle) (plainRsa : Bool) :
    engine.sign digest.context digest.handle key plainRsa =
      engine.keyMaterial key >>= (·.sign state plainRsa) := by
  obtain ⟨fips, hfips⟩ := Option.isSome_iff_exists.mp h.context
  rw [Engine.sign, contextFips, hfips, digestState, h.digest]
  rfl

theorem Covers.verify (h : engine.Covers digest state) (key : KeyHandle) (candidate : Bytes) :
    engine.verify digest.context digest.handle key candidate =
      (engine.keyMaterial key).map (·.verify state candidate) := by
  obtain ⟨fips, hfips⟩ := Option.isSome_iff_exists.mp h.context
  rw [Engine.verify, contextFips, hfips, digestState, h.digest]
  cases engine.keyMaterial key <;> rfl

/-- A digest that is created covers nothing. -/
theorem Covers.created {context : ContextHandle} {algorithm : String} {hash : HashAlgorithm}
    (hcontext : engine.contexts.contains context = true)
    (hhash : HashAlgorithm.ofName? algorithm = some hash) :
    let created := engine.reply (.digestCreate context algorithm)
    created.1 = .ok ⟨engine.allocate.1⟩ ∧
      created.2.Covers { context, handle := ⟨engine.allocate.1⟩, algorithm } ⟨hash, []⟩ := by
  obtain ⟨fips, hfips⟩ := Option.isSome_iff_exists.mp hcontext
  rw [reply, digestCreate_eq, hfips, hhash]
  exact ⟨rfl, hcontext, Table.find?_insert_self _ _ _⟩

/-- Only a digest of a known algorithm is created, and only in a live context. -/
theorem covers_of_created {context : ContextHandle} {algorithm : String} {handle : DigestHandle}
    (h : (engine.reply (.digestCreate context algorithm)).1 = .ok handle) :
    ∃ hash, HashAlgorithm.ofName? algorithm = some hash ∧
      (engine.reply (.digestCreate context algorithm)).2.Covers { context, handle, algorithm }
        ⟨hash, []⟩ := by
  rw [reply, digestCreate_eq] at h
  cases hcontext : engine.contexts.find? context with
  | none =>
      rw [hcontext] at h
      cases h
  | some fips =>
      cases hhash : HashAlgorithm.ofName? algorithm with
      | none =>
          rw [hcontext, hhash] at h
          cases h
      | some hash =>
          obtain ⟨hreply, hcovers⟩ :=
            Covers.created (Option.isSome_iff_exists.mpr ⟨fips, hcontext⟩) hhash
          rw [hcontext, hhash] at h
          cases h
          exact ⟨hash, rfl, hcovers⟩

end Software.Engine

namespace World

variable {id : EngineId} {digest : Digest} {state : Software.Accumulator}
variable {world middle next : World}

/-- A software engine keeps a digest in a live context, and it holds this. -/
def Covers (world : World) (id : EngineId) (digest : Digest) (state : Software.Accumulator) :
    Prop :=
  ∃ engine, world.softwareEngine? id = some engine ∧ engine.Covers digest state

/-- An engine keeps its contexts and its digests as they are. -/
def Still (id : EngineId) (world next : World) : Prop :=
  ∀ ⦃engine : Software.Engine⦄, world.softwareEngine? id = some engine →
    ∃ later, next.softwareEngine? id = some later ∧ later.contexts = engine.contexts ∧
      later.digests = engine.digests

theorem still_of_engines_eq (h : next.engines = world.engines) : Still id world next :=
  fun engine hengine => ⟨engine, by rwa [softwareEngine?, h], rfl, rfl⟩

theorem Still.trans (first : Still id world middle) (second : Still id middle next) :
    Still id world next := by
  intro engine hengine
  obtain ⟨found, hfound, hcontexts, hdigests⟩ := first hengine
  obtain ⟨later, hlater, hcontextsLater, hdigestsLater⟩ := second hfound
  exact ⟨later, hlater, hcontextsLater.trans hcontexts, hdigestsLater.trans hdigests⟩

theorem Covers.still (h : world.Covers id digest state) (hstill : Still id world next) :
    next.Covers id digest state := by
  obtain ⟨engine, hengine, hcovers⟩ := h
  obtain ⟨later, hlater, hcontexts, hdigests⟩ := hstill hengine
  exact ⟨later, hlater, hcontexts ▸ hcovers.context, hdigests ▸ hcovers.digest⟩

theorem readHandle_still (world : World) (key : Key) : Still id world (world.readHandle key).2 :=
  still_of_engines_eq (readHandle_engines world key)

theorem hold_still (world : World) (key : Key) : Still id world (world.hold key) :=
  still_of_engines_eq rfl

theorem forget_still (world : World) (key : Key) : Still id world (world.forget key) := by
  cases key with
  | scripted key => exact still_of_engines_eq rfl
  | software key =>
      intro engine hengine
      rw [forget]
      cases howner : world.softwareEngine? key.engine with
      | none => exact ⟨engine, hengine, rfl, rfl⟩
      | some owner =>
          by_cases hsame : id = key.engine
          · subst hsame
            rw [hengine, Option.some.injEq] at howner
            subst howner
            exact ⟨_, softwareEngine?_setEngine hengine _, rfl, rfl⟩
          · exact ⟨engine, by rwa [softwareEngine?_setEngine_of_ne hsame], rfl, rfl⟩

theorem release_still (world : World) (key : Key) : Still id world (world.release key) := by
  have herased : Still id world { world with references := world.references.erase key } :=
    still_of_engines_eq rfl
  rw [release]
  split
  · exact herased
  · exact herased.trans (forget_still _ key)

/-- An update is accepted. -/
theorem Covers.update (h : world.Covers id digest state) (data : Bytes) :
    (boundary id).replyTo (.digestUpdate digest.context digest.handle data) world =
        .ok (.ok ()) ∧
      ((boundary id).behind (.digestUpdate digest.context digest.handle data) world).Covers id
        digest (state.update data) := by
  obtain ⟨engine, hengine, hcovers⟩ := h
  obtain ⟨hreply, hnext⟩ := hcovers.update data
  rw [replyTo_software hengine, behind_software hengine]
  constructor
  · exact congrArg _ hreply
  · exact ⟨_, softwareEngine?_setEngine hengine _, hnext⟩

/-- A reset succeeds. -/
theorem Covers.reset (h : world.Covers id digest state) :
    (boundary id).replyTo (.digestReset digest.context digest.handle) world = .ok (.ok ()) ∧
      ((boundary id).behind (.digestReset digest.context digest.handle) world).Covers id digest
        state.reset := by
  obtain ⟨engine, hengine, hcovers⟩ := h
  obtain ⟨hreply, hnext⟩ := hcovers.reset
  rw [replyTo_software hengine, behind_software hengine]
  constructor
  · exact congrArg _ hreply
  · exact ⟨_, softwareEngine?_setEngine hengine _, hnext⟩

/-- To sign or to verify changes nothing. -/
theorem Covers.judged (h : world.Covers id digest state) {call : NativeCall}
    (hcall : call.judges = true) : ((boundary id).behind call world).Covers id digest state := by
  obtain ⟨engine, hengine, hcovers⟩ := h
  have hsame : (engine.reply call).2 = engine := by
    cases call with
    | sign context digest key plainRsa => rfl
    | verify context digest key signature => rfl
    | _ => cases hcall
  rw [behind_software hengine, hsame]
  exact ⟨engine, softwareEngine?_setEngine hengine engine, hcovers⟩

/-- A digest that a software engine creates covers nothing. -/
theorem covers_of_create {context : ContextHandle} {algorithm : String} {run : Run World}
    (h : (Digest.create (boundary id) context algorithm).outcome { state := world } =
      (.ok digest, run)) {later : Software.Engine}
    (hlater : run.state.softwareEngine? id = some later) :
    ∃ hash, Software.HashAlgorithm.ofName? algorithm = some hash ∧
      run.state.Covers id digest ⟨hash, []⟩ := by
  obtain ⟨hreply, -, hdigest, rfl⟩ := Digest.create_eq_ok _ h
  have hbound : id < world.engines.size := by
    apply Nat.lt_of_not_le
    intro hle
    rw [replyTo_of_none (Array.getElem?_eq_none hle)] at hreply
    cases hreply
  have hevolves : world.Evolves (fun _ _ => True)
      ((boundary id).behind (.digestCreate context algorithm) world) :=
    respond_evolves world id fun _ _ => trivial
  obtain ⟨engine, hengine, -⟩ := hevolves.software_before hbound hlater
  rw [replyTo_software hengine, Except.ok.injEq] at hreply
  obtain ⟨hash, hhash, hcovers⟩ := Software.Engine.covers_of_created hreply
  rw [← hdigest] at hcovers
  rw [Boundary.asked_state, behind_software hengine]
  exact ⟨hash, hhash, _, softwareEngine?_setEngine hengine _, hcovers⟩

/-- What a digest holds outlasts all that is done to other digests. -/
theorem Evolves.covers {altered : EngineId → DigestHandle → Prop}
    (h : world.Evolves altered next) (hcovers : world.Covers id digest state)
    (hother : ¬ altered id digest.handle)
    (hknown : ∀ engine, world.softwareEngine? id = some engine →
      digest.handle.raw.toNat ≤ engine.issued)
    (hissued : ∀ later, next.softwareEngine? id = some later → later.issued < UInt64.size) :
    next.Covers id digest state := by
  obtain ⟨engine, hengine, hcovers⟩ := hcovers
  obtain ⟨later, hlater, hevolves⟩ := h.software hengine
  refine ⟨later, hlater, hevolves.contexts hcovers.context, ?_⟩
  rw [hevolves.digests (hissued later hlater) (hknown engine hengine) hother, hcovers.digest]

/-- The key material that a software engine keeps. -/
def materials (world : World) (id : EngineId) :
    Option (Table KeyHandle Software.KeyMaterial) :=
  (world.softwareEngine? id).map Software.Engine.keys

/-- A signature is determined by what is covered, the key and its material. -/
theorem Covers.replyTo_sign {other : World} {twin : Digest} (h : world.Covers id digest state)
    (htwin : other.Covers id twin state) (hkeys : other.materials id = world.materials id)
    (key : KeyHandle) (plainRsa : Bool) :
    (boundary id).replyTo (.sign digest.context digest.handle key plainRsa) world =
      (boundary id).replyTo (.sign twin.context twin.handle key plainRsa) other := by
  obtain ⟨engine, hengine, hcovers⟩ := h
  obtain ⟨found, hfound, hcoversTwin⟩ := htwin
  rw [materials, materials, hengine, hfound, Option.map_some, Option.map_some,
    Option.some.injEq] at hkeys
  rw [replyTo_software hengine, replyTo_software hfound, Software.Engine.reply,
    Software.Engine.reply, hcovers.sign, hcoversTwin.sign, Software.Engine.keyMaterial,
    Software.Engine.keyMaterial, hkeys]

/-! ### Keys that keep their handle -/

/-- A key shows this handle at every reading. -/
def Shows (world : World) (handle : KeyHandle) : Key → Prop
  | .software key => key.handle = handle
  | .scripted key => world.scriptedHandles[key.index]? = some [handle]

theorem Shows.readHandle_eq {handle : KeyHandle} {key : Key} (h : world.Shows handle key) :
    world.readHandle key = (handle, world) := by
  cases key with
  | software key => exact congrArg (·, world) h
  | scripted key =>
      change world.scriptedHandles[key.index]? = some [handle] at h
      simp only [readHandle, h]

/-- Keys show the same handles, and their material is the same. -/
structure Keyed (id : EngineId) (world next : World) : Prop where
  scriptedHandles : next.scriptedHandles = world.scriptedHandles
  materials : next.materials id = world.materials id

theorem Keyed.trans (first : Keyed id world middle) (second : Keyed id middle next) :
    Keyed id world next :=
  ⟨second.scriptedHandles.trans first.scriptedHandles, second.materials.trans first.materials⟩

theorem Keyed.shows (h : Keyed id world next) {handle : KeyHandle} {key : Key}
    (hshows : world.Shows handle key) : next.Shows handle key := by
  cases key with
  | software key => exact hshows
  | scripted key => exact (congrArg (·[key.index]?) h.scriptedHandles).trans hshows

theorem hold_keyed (world : World) (key : Key) : Keyed id world (world.hold key) := ⟨rfl, rfl⟩

theorem behind_keyed {engine : Software.Engine} (hengine : world.softwareEngine? id = some engine)
    (call : NativeCall) : Keyed id world ((boundary id).behind call world) := by
  constructor
  · rw [behind_software hengine]
    rfl
  · rw [materials, materials, behind_software hengine, softwareEngine?_setEngine hengine, hengine]
    exact congrArg some (engine.reply_keys call)

theorem Covers.behind_keyed (h : world.Covers id digest state) (call : NativeCall) :
    Keyed id world ((boundary id).behind call world) := by
  obtain ⟨engine, hengine, -⟩ := h
  exact World.behind_keyed hengine call

end World

namespace Signature

open World

variable {id : EngineId} {hash : Software.HashAlgorithm} {message : Bytes} {world : World}
variable {signature : Signature Key}

/-- What the next call to sign or to verify covers behind a turn, if it would cover this without. -/
def Turn.covered {κ : Type} (message : Bytes) (turn : Turn κ) : Bytes :=
  match turn.operation with
  | .start _ _ => []
  | .update buffer span => if turn.succeeded then message ++ span.cut buffer else message
  | .sign => if turn.calls.isEmpty then message else []
  | .verify _ => if turn.calls.isEmpty then message else []

/-- The bytes of the updates that were accepted since the last turn that was a start, or that called
the engine to sign or to verify. -/
def coveredBy {κ : Type} (turns : List (Turn κ)) : Bytes :=
  turns.foldl Turn.covered []

/-- A signature feeds a digest of a software engine, which covers a message. A bound key of such an
engine has shown a handle. -/
structure Feeds (signature : Signature Key) (id : EngineId) (hash : Software.HashAlgorithm)
    (message : Bytes) (world : World) : Prop where
  valid : signature.digest.handle.isValid = true
  covers : world.Covers id signature.digest ⟨hash, message⟩
  shown {key : SoftwareKey} : signature.key = some (.software key) → key.handle.isValid = true

theorem checkedState_still (signature : Signature Key) (world : World) :
    Still id world (signature.checkedState (boundary id) world) := by
  rw [checkedState, checkedRun]
  cases signature.key with
  | none => exact still_of_engines_eq rfl
  | some key => exact readHandle_still world key

theorem unboundState_still (signature : Signature Key) (world : World) :
    Still id world (signature.unboundState (boundary id) world) := by
  rw [unboundState, unboundRun]
  cases signature.key with
  | none => exact still_of_engines_eq rfl
  | some key => exact release_still world key

theorem resetOutcome_of_covers (h : world.Covers id signature.digest ⟨hash, message⟩) :
    signature.resetOutcome (boundary id) world = .ok () :=
  congrArg (Failure.ofReply signature.digest.resetError) h.reset.1

/-- Only a second failure ends the process. -/
theorem settled_reset_ne_abort {α : Type} (operation : String)
    (reply : Except String (Except NativeError α)) :
    settled operation reply (.ok ()) ≠ .error .abort := by
  match reply with
  | .ok (.ok _) => simp [settled]
  | .ok (.error _) => simp [settled]
  | .error _ => simp [settled]

theorem Turn.aborts_eq_false {κ : Type} {turn : Turn κ} (h : turn.outcome ≠ .error .abort) :
    turn.aborts = false := by
  rw [aborts]
  split
  next habort => exact (h habort).elim
  next => rfl

theorem Feeds.checked (h : signature.Feeds id hash message world) :
    signature.Feeds id hash message (signature.checkedState (boundary id) world) :=
  ⟨h.valid, h.covers.still (checkedState_still signature world), h.shown⟩

theorem Feeds.reset (h : signature.Feeds id hash message world) :
    signature.Feeds id hash [] ((boundary id).behind signature.resetCall world) :=
  ⟨h.valid, h.covers.reset.2, h.shown⟩

/-- Whatever comes of a call to sign or to verify, the reset behind it succeeds. -/
theorem Feeds.judged (h : signature.Feeds id hash message world) {call : NativeCall}
    (hcall : call.judges = true) :
    let asked := (boundary id).behind call (signature.checkedState (boundary id) world)
    signature.resetOutcome (boundary id) asked = .ok () ∧
      signature.Feeds id hash [] ((boundary id).behind signature.resetCall asked) := by
  have hasked := h.checked.covers.judged hcall
  constructor
  · exact resetOutcome_of_covers hasked
  · exact Feeds.reset ⟨h.valid, hasked, h.shown⟩

theorem turn_start_feeds (h : signature.Feeds id hash message world) (key : Key)
    (plainRsa : Bool) :
    let next := signature.turn (boundary id) (.start key plainRsa) world
    next.1.aborts = false ∧ next.2.1.Feeds id hash [] next.2.2 := by
  have hfree := h.covers.still (unboundState_still signature world)
  have hread := hfree.reset.2.still (readHandle_still _ key)
  rw [turn_start]
  simp only [resetOutcome_of_covers hfree]
  split
  next hvalid =>
    refine ⟨rfl, h.valid, hread, ?_⟩
    rintro key ⟨⟩
    exact hvalid
  next => exact ⟨rfl, h.valid, hread.still (release_still _ key), nofun⟩

theorem turn_update_feeds (h : signature.Feeds id hash message world) (buffer : Bytes)
    (span : Span) :
    let next := signature.turn (boundary id) (.update buffer span) world
    next.1.aborts = false ∧ next.2.1.Feeds id hash (next.1.covered message) next.2.2 := by
  obtain ⟨hreply, hcovers⟩ := h.covers.update (span.cut buffer)
  rw [turn_update]
  split
  next hwithin =>
    simp only [hreply]
    exact ⟨rfl, h.valid, hcovers, h.shown⟩
  next => exact ⟨rfl, h⟩

theorem turn_sign_feeds (h : signature.Feeds id hash message world) :
    let next := signature.turn (boundary id) .sign world
    next.1.aborts = false ∧ next.2.1.Feeds id hash (next.1.covered message) next.2.2 := by
  rw [turn_sign]
  simp only
  split
  next hreaches =>
    have hjudges :
        (signature.signCall (signature.shownHandle (boundary id) world)).judges = true := rfl
    obtain ⟨hreset, hfeeds⟩ := h.judged hjudges
    rw [hreset]
    exact ⟨Turn.aborts_eq_false (settled_reset_ne_abort _ _), hfeeds⟩
  next => exact ⟨rfl, h.checked⟩

theorem turn_verify_feeds (h : signature.Feeds id hash message world) (candidate : Bytes) :
    let next := signature.turn (boundary id) (.verify candidate) world
    next.1.aborts = false ∧ next.2.1.Feeds id hash (next.1.covered message) next.2.2 := by
  rw [turn_verify]
  simp only
  split
  next hreaches =>
    have hjudges :
        (signature.verifyCall candidate (signature.shownHandle (boundary id) world)).judges =
          true := rfl
    obtain ⟨hreset, hfeeds⟩ := h.judged hjudges
    rw [hreset]
    exact ⟨Turn.aborts_eq_false (settled_reset_ne_abort _ _), hfeeds⟩
  next => exact ⟨rfl, h.checked⟩

theorem turn_feeds (h : signature.Feeds id hash message world) (operation : Operation Key) :
    let next := signature.turn (boundary id) operation world
    next.1.aborts = false ∧ next.2.1.Feeds id hash (next.1.covered message) next.2.2 := by
  cases operation with
  | start key plainRsa => exact turn_start_feeds h key plainRsa
  | update buffer span => exact turn_update_feeds h buffer span
  | sign => exact turn_sign_feeds h
  | verify candidate => exact turn_verify_feeds h candidate

/-- All operations have their turn, and the digest covers what their turns tell. -/
theorem turns_feeds (operations : List (Operation Key)) {signature : Signature Key}
    {message : Bytes} {world : World} (h : signature.Feeds id hash message world) :
    let done := signature.turns (boundary id) operations world
    (∀ turn ∈ done.1, turn.aborts = false) ∧
      done.2.1.Feeds id hash (done.1.foldl Turn.covered message) done.2.2 := by
  induction operations generalizing signature message world with
  | nil => exact ⟨by simp, h⟩
  | cons operation rest ih =>
      obtain ⟨hcontinues, hfirst⟩ := turn_feeds h operation
      obtain ⟨hothers, hlast⟩ := ih hfirst
      rw [turns_cons (boundary id) signature rest hcontinues]
      refine ⟨?_, hlast⟩
      intro turn hturn
      rcases List.mem_cons.mp hturn with rfl | hother
      · exact hcontinues
      · exact hothers turn hother

/-! ### A signature that is used once -/

/-- What a new signature gives that is bound to a key, fed a message as a whole, and then signs. -/
def once {σ κ : Type} (boundary : Boundary σ κ) (context : ContextHandle) (algorithm : String)
    (key : κ) (plainRsa : Bool) (message : Bytes) : Attempt σ Bytes := do
  let fresh ← create boundary context algorithm
  let (started, signature) ← fresh.start boundary key plainRsa
  Attempt.ofOutcome started
  signature.updateAll boundary message
  signature.sign boundary

variable {key : Key} {handle : KeyHandle} {run : Run World}

/-- A signature without a key is bound to one that shows a handle. -/
theorem Feeds.start_run (h : signature.Feeds id hash message run.state)
    (hunbound : signature.key = none) (hshows : run.state.Shows handle key)
    (hvalid : handle.isValid = true) (plainRsa : Bool) :
    ∃ next, signature.start (boundary id) key plainRsa run =
        ((.ok (), { signature with key := some key, plainRsa }), next) ∧
      { signature with key := some key, plainRsa }.Feeds id hash [] next.state ∧
      Keyed id run.state next.state := by
  have hkeyed := h.covers.behind_keyed signature.resetCall
  have hread : (boundary id).keyHandle key (signature.resetRun (boundary id) run).state =
      (handle, (boundary id).behind signature.resetCall run.state) :=
    (hkeyed.shows hshows).readHandle_eq
  have hnext : (readRun (boundary id) key (signature.resetRun (boundary id) run)).state =
      (boundary id).behind signature.resetCall run.state := congrArg Prod.snd hread
  rw [Signature.start_run, unboundRun, hunbound]
  simp only [resetOutcome_of_covers h.covers, hread, hvalid, if_true]
  refine ⟨_, rfl, ⟨h.valid, hnext ▸ h.reset.covers, ?_⟩, hnext ▸ hkeyed⟩
  rintro key ⟨⟩
  exact hshows ▸ hvalid

/-- A whole message is accepted. -/
theorem Feeds.updateAll (h : signature.Feeds id hash [] run.state)
    (hlength : message.length < UInt64.size) :
    ∃ next, (signature.updateAll (boundary id) message).outcome run = (.ok (), next) ∧
      signature.Feeds id hash message next.state ∧ Keyed id run.state next.state := by
  have hslice := Span.slice?_all hlength
  obtain ⟨hreply, hcovers⟩ := h.covers.update message
  refine ⟨(boundary id).asked
    (.digestUpdate signature.digest.context signature.digest.handle message) run, ?_,
    ⟨h.valid, hcovers, h.shown⟩, h.covers.behind_keyed _⟩
  rw [Signature.updateAll, update, hslice]
  simp only [Digest.outcome_update, hreply]
  rfl

/-- A signature with a key that shows a handle reaches its engine with that handle. -/
theorem Feeds.reaches_of_shows (h : signature.Feeds id hash message run.state)
    (hkey : signature.key = some key) (hshows : run.state.Shows handle key)
    (hvalid : handle.isValid = true) :
    signature.reaches (boundary id) run.state = true ∧
      signature.shownHandle (boundary id) run.state = handle ∧
      (signature.checkedRun (boundary id) run).state = run.state := by
  have hread : (boundary id).keyHandle key run.state = (handle, run.state) :=
    hshows.readHandle_eq
  refine ⟨?_, ?_, ?_⟩
  · simp only [reaches, hkey, h.valid, hread, hvalid, Bool.and_self]
  · simp only [shownHandle, hkey, hread]
  · simp only [checkedRun, hkey, readRun, hread]

/-- What a signature gives that signs with a key that shows a handle. -/
theorem Feeds.outcome_sign (h : signature.Feeds id hash message run.state)
    (hkey : signature.key = some key) (hshows : run.state.Shows handle key)
    (hvalid : handle.isValid = true) :
    ((signature.sign (boundary id)).outcome run).1 =
      settled "sign" ((boundary id).replyTo (.sign signature.digest.context
        signature.digest.handle handle signature.plainRsa) run.state) (.ok ()) := by
  obtain ⟨hreaches, hshown, hchecked⟩ := h.reaches_of_shows hkey hshows hvalid
  have hasked := h.covers.judged (show (signature.signCall handle).judges = true from rfl)
  rw [Signature.outcome_sign, if_pos hreaches, hshown]
  simp only [Boundary.asked_state, hchecked, resetOutcome_of_covers hasked]
  rfl

/-- What a signature gives that verifies with a key that shows a handle. -/
theorem Feeds.outcome_verify (h : signature.Feeds id hash message run.state)
    (hkey : signature.key = some key) (hshows : run.state.Shows handle key)
    (hvalid : handle.isValid = true) (candidate : Bytes) :
    ((signature.verify (boundary id) candidate).outcome run).1 =
      settled "verify" ((boundary id).replyTo (.verify signature.digest.context
        signature.digest.handle handle candidate) run.state) (.ok ()) := by
  obtain ⟨hreaches, hshown, hchecked⟩ := h.reaches_of_shows hkey hshows hvalid
  have hasked :=
    h.covers.judged (show (signature.verifyCall candidate handle).judges = true from rfl)
  rw [Signature.outcome_verify, if_pos hreaches, hshown]
  simp only [Boundary.asked_state, hchecked, resetOutcome_of_covers hasked]
  rfl

/-- A signature is created in a live context, and has been fed nothing. -/
theorem create_feeds (run : Run World) {engine : Software.Engine}
    (hengine : run.state.softwareEngine? id = some engine)
    (hissued : engine.issued + 1 < UInt64.size) {context : ContextHandle}
    (hcontext : engine.contexts.contains context = true) {algorithm : String}
    (hhash : Software.HashAlgorithm.ofName? algorithm = some hash) :
    ∃ fresh : Signature Key, ∃ next : Run World,
      (create (boundary id) context algorithm : Attempt World (Signature Key)).outcome run =
          (.ok fresh, next) ∧
        fresh.key = none ∧ fresh.Feeds id hash [] next.state ∧
        Keyed id run.state next.state := by
  obtain ⟨hreply, hcovers⟩ := Software.Engine.Covers.created hcontext hhash
  have hvalid : (⟨engine.allocate.1⟩ : DigestHandle).isValid = true := by
    rw [Handle.isValid, bne_iff_ne]
    intro hzero
    have hnumber : engine.issued + 1 = (0 : UInt64).toNat :=
      (Software.Engine.allocate_toNat hissued).symm.trans (congrArg UInt64.toNat hzero)
    exact Nat.succ_ne_zero _ hnumber
  have hnext := behind_software hengine (.digestCreate context algorithm)
  refine ⟨{ digest := { context, handle := ⟨engine.allocate.1⟩, algorithm } },
    (boundary id).asked (.digestCreate context algorithm) run, ?_, rfl,
    ⟨hvalid, ⟨_, ?_, hcovers⟩, ?_⟩, behind_keyed hengine (.digestCreate context algorithm)⟩
  · rw [outcome_create, Digest.outcome_create, replyTo_software hengine, hreply]
    simp only [hvalid, if_true]
    rfl
  · rw [Boundary.asked_state, hnext]
    exact softwareEngine?_setEngine hengine _
  · intro key hkey
    cases hkey

/-- A signature with a past gives what a new one gives that is fed the same message at once. -/
theorem Feeds.outcome_once (h : signature.Feeds id hash message world)
    (hkey : signature.key = some key) (hshows : world.Shows handle key)
    (hvalid : handle.isValid = true) (hlength : message.length < UInt64.size)
    {engine : Software.Engine} (hengine : world.softwareEngine? id = some engine)
    (hissued : engine.issued + 1 < UInt64.size) {context : ContextHandle}
    (hcontext : engine.contexts.contains context = true) {algorithm : String}
    (hhash : Software.HashAlgorithm.ofName? algorithm = some hash) :
    ((once (boundary id) context algorithm key signature.plainRsa message).outcome
        { state := world.hold key }).1 =
      ((signature.sign (boundary id)).outcome { state := world }).1 := by
  have hheld : (world.hold key).softwareEngine? id = some engine := hengine
  obtain ⟨fresh, created, hcreated, hunbound, hfresh, hkeyed⟩ :=
    create_feeds { state := world.hold key } hheld hissued hcontext hhash
  have hcreatedKeyed := (hold_keyed world key).trans hkeyed
  obtain ⟨started, hstarted, hbound, hstartedKeyed⟩ :=
    hfresh.start_run hunbound (hcreatedKeyed.shows hshows) hvalid signature.plainRsa
  obtain ⟨fed, hfed, hfeeds, hfedKeyed⟩ := hbound.updateAll hlength
  have hsame := (hcreatedKeyed.trans hstartedKeyed).trans hfedKeyed
  have hsigned : ((signature.sign (boundary id)).outcome { state := world }).1 = _ :=
    h.outcome_sign hkey hshows hvalid
  rw [hsigned, h.covers.replyTo_sign hfeeds.covers hsame.materials,
    ← hfeeds.outcome_sign rfl (hsame.shows hshows) hvalid, once]
  simp only [Attempt.outcome_bind, hcreated, Attempt.outcome_monadLift, hstarted,
    Attempt.outcome_ofOutcome, hfed]

end Signature

end SigningEngine
