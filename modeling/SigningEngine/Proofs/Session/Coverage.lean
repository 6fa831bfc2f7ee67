import SigningEngine.Proofs.Session.Steps
import SigningEngine.Proofs.Signature.Coverage
import SigningEngine.Proofs.Software.RsaSignatures

/-!
# What a signature of a session covers

A step on a signature consists of turns of it. Every other step leaves what the signature covers: no
two objects share a digest, so only a call that names the digest could alter it. What is covered is
therefore told by the turns, in whatever company the signature is used.

The main statement is `signs_over_turns`. It holds from the first step of a process on, as long as
the engine has not issued as many handles as there are words, and the signature is not let go.
-/

namespace SigningEngine.Session

variable {slot : String} {session : Session} {opened : OpenSignature}

/-- The session behind some steps. -/
def after (session : Session) (steps : List Step) : Session :=
  steps.foldl (fun session step => (session.step step).2) session

theorem after_cons (session : Session) (step : Step) (rest : List Step) :
    session.after (step :: rest) = (session.step step).2.after rest := rfl

theorem after_append (session : Session) (first second : List Step) :
    session.after (first ++ second) = (session.after first).after second :=
  List.foldl_append

/-! ### Turns of a signature -/

/-- What a step on a signature does to it. -/
def operations (session : Session) : SignatureStep → List (Signature.Operation Key)
  | .start key plainRsa =>
    match session.keys.find? key with
    | some key => [.start key plainRsa]
    | none => []
  | .update data span =>
    match session.operandIn data with
    | .ok data => [.update data span]
    | .error _ => []
  | .updateAll data =>
    match session.operandIn data with
    | .ok data => [.update data (.all data)]
    | .error _ => []
  | .sign _ => [.sign]
  | .verify candidate =>
    match session.operandIn candidate with
    | .ok candidate => [.verify candidate]
    | .error _ => []
  | .signs callers => List.replicate callers .sign
  | _ => []

/-- The world in which it is done: a key that will be bound is held first. -/
def worldFor (session : Session) : SignatureStep → World
  | .start key _ =>
    match session.keys.find? key with
    | some key => session.world.hold key
    | none => session.world
  | _ => session.world

/-- The turns of the signature in a slot that a step consists of. -/
def turnsIn (slot : String) (session : Session) : Step → List (Signature.Turn Key)
  | .signature name step =>
    if name = slot then
      match session.signatures.find? slot with
      | some opened =>
        (opened.signature.turns (World.boundary opened.engine) (session.operations step)
          (session.worldFor step)).1
      | none => []
    else []
  | _ => []

/-- The turns of the signature in a slot during some steps. -/
def turnsOver (slot : String) : Session → List Step → List (Signature.Turn Key)
  | _, [] => []
  | session, step :: rest => session.turnsIn slot step ++ turnsOver slot (session.step step).2 rest

/-- What one step does to the world and to a signature. -/
def Takes (slot : String) (opened : OpenSignature) (world : World)
    (operations : List (Signature.Operation Key)) (next : Session) : Prop :=
  let done := opened.signature.turns (World.boundary opened.engine) operations world
  next.world = done.2.2 ∧
    next.signatures.find? slot = some { opened with signature := done.2.1 }

theorem signatureStep_takes (hopened : session.signatures.find? slot = some opened)
    (step : SignatureStep)
    (hruns : ∀ turn ∈ (opened.signature.turns (World.boundary opened.engine)
      (session.operations step) (session.worldFor step)).1, turn.aborts = false) :
    Takes slot opened (session.worldFor step) (session.operations step)
      ((signatureStep slot step).run session).2 := by
  have hnothing : Takes slot opened session.world [] session := ⟨rfl, hopened⟩
  rw [signatureStep, run_bind, inSlot_run, hopened]
  cases step with
  | start key plainRsa =>
      simp only [operations, worldFor]
      cases hkey : session.keys.find? key with
      | none =>
          rw [startSignature, run_bind, inSlot_run, hkey]
          exact hnothing
      | some key =>
          rw [startSignature_run slot opened plainRsa hkey, Takes, Signature.turns_single]
          exact ⟨rfl, Table.find?_insert_self _ _ _⟩
  | isInitialized => exact hnothing
  | update data span =>
      simp only [operations, worldFor]
      rw [run_bind, operand_run]
      cases session.operandIn data with
      | error e => exact hnothing
      | ok data =>
          rw [run_bind_pure, attempt_run, Takes, Signature.turns_single]
          exact ⟨rfl, hopened⟩
  | updateAll data =>
      simp only [operations, worldFor]
      rw [run_bind, operand_run]
      cases session.operandIn data with
      | error e => exact hnothing
      | ok data =>
          rw [run_bind_pure, attempt_run, Takes, Signature.turns_single]
          exact ⟨rfl, hopened⟩
  | sign save =>
      simp only [operations, worldFor]
      have hsigned : Takes slot opened session.world [.sign]
          (workWithin opened.engine
            (opened.signature.sign (World.boundary opened.engine)).outcome session).2 := by
        rw [Takes, Signature.turns_single]
        exact ⟨rfl, hopened⟩
      refine attempt_bind hsigned fun bytes _ => ?_
      rw [run_bind_pure]
      cases save with
      | none => exact hsigned
      | some name => exact hsigned
  | verify candidate =>
      simp only [operations, worldFor]
      rw [run_bind, operand_run]
      cases session.operandIn candidate with
      | error e => exact hnothing
      | ok candidate =>
          rw [run_bind_pure, attempt_run, Takes, Signature.turns_single]
          exact ⟨rfl, hopened⟩
  | algorithm => exact hnothing
  | context => exact contextAt_bind hnothing fun _ _ => hnothing
  | diagnostic => exact contextAt_bind hnothing fun _ _ => hnothing
  | signs callers =>
      have hdone := opened.signature.turns_signs (World.boundary opened.engine) callers
        { state := session.world } hruns
      simp only [operations, worldFor]
      rw [run_bind_pure, within_run, Takes, hdone]
      exact ⟨rfl, hopened⟩

/-! ### A signature among other objects -/

/-- A step leaves the signature in a slot there, and calls for no change of its digest. -/
structure Spares (slot : String) (session : Session) (step : Step) : Prop where
  stays : (session.step step).2.held (.signature slot) = session.held (.signature slot)
  aside {id : EngineId} {digest : DigestHandle} :
    session.held (.signature slot) = some (id, digest) → ¬ session.callsOn step id digest

/-- All of some steps, one after the other, leave the signature in a slot there. -/
def Undisturbed (slot : String) : Session → List Step → Prop
  | _, [] => True
  | session, step :: rest => session.Spares slot step ∧ Undisturbed slot (session.step step).2 rest

/-- The signature in a slot feeds this digest of a software engine, which covers a message. -/
structure Watched (slot : String) (id : EngineId) (digest : Digest)
    (hash : Software.HashAlgorithm) (message : Bytes) (session : Session) : Prop where
  apart : Apart session
  feeds : ∃ opened, session.signatures.find? slot = some opened ∧ opened.engine = id ∧
    opened.signature.digest = digest ∧ opened.signature.Feeds id hash message session.world

/-- No more handles were issued than there are words. -/
def Counted (id : EngineId) (session : Session) : Prop :=
  ∀ engine, session.world.softwareEngine? id = some engine → engine.issued < UInt64.size

theorem Counted.of_engine {id : EngineId} {engine : Software.Engine}
    (hengine : session.world.softwareEngine? id = some engine)
    (hissued : engine.issued < UInt64.size) : Counted id session := by
  intro found hfound
  rw [hengine, Option.some.injEq] at hfound
  exact hfound ▸ hissued

theorem Counted.earlier {id : EngineId} {next : Session}
    {altered : EngineId → DigestHandle → Prop} (h : Counted id next)
    (hevolves : session.world.Evolves altered next.world) : Counted id session := by
  intro engine hengine
  obtain ⟨later, hlater, hissued⟩ := hevolves.software hengine
  exact Nat.lt_of_le_of_lt hissued.issued (h later hlater)

variable {id : EngineId} {digest : Digest} {hash : Software.HashAlgorithm} {message : Bytes}

theorem Watched.held_eq (h : Watched slot id digest hash message session) :
    session.held (.signature slot) = some (id, digest.handle) := by
  obtain ⟨opened, hopened, rfl, rfl, -⟩ := h.feeds
  exact held_signature hopened

/-- What happens elsewhere and alters another digest leaves the signature as it is. -/
theorem Watched.elsewhere (h : Watched slot id digest hash message session)
    {altered : EngineId → DigestHandle → Prop} {next : Session} (hapart : Apart next)
    (hworld : session.world.Evolves altered next.world)
    (hsignature : next.signatures.find? slot = session.signatures.find? slot)
    (hother : ¬ altered id digest.handle) (hcounted : Counted id next) :
    Watched slot id digest hash message next := by
  have hheld := h.held_eq
  obtain ⟨opened, hopened, rfl, rfl, hfeeds⟩ := h.feeds
  have hcovers := hworld.covers hfeeds.covers hother
    (fun _ hengine => h.apart.issued hheld hengine) hcounted
  exact ⟨hapart, opened, hsignature.trans hopened, rfl, rfl, hfeeds.valid, hcovers, hfeeds.shown⟩

/-- The steps that have to do with the signature in a slot. -/
theorem Step.place_eq_signature {step : Step} (h : step.place = some (.signature slot)) :
    (∃ context algorithm, step = .newSignature slot context algorithm) ∨
      (∃ what, step = .signature slot what) ∨ step = .drop .signature slot := by
  cases step with
  | newSignature name context algorithm =>
      cases h
      exact .inl ⟨context, algorithm, rfl⟩
  | signature name what =>
      cases h
      exact .inr (.inl ⟨what, rfl⟩)
  | drop kind name =>
      cases kind with
      | signature =>
          cases h
          exact .inr (.inr rfl)
      | _ => cases h
  | _ => cases h

theorem turnsIn_eq_nil {step : Step} (h : step.place ≠ some (.signature slot)) :
    session.turnsIn slot step = [] := by
  cases step with
  | signature name what =>
      have hname : name ≠ slot := by
        rintro rfl
        exact h rfl
      rw [turnsIn, if_neg hname]
  | _ => rfl

theorem worldFor_still (session : Session) (step : SignatureStep) :
    World.Still id session.world (session.worldFor step) := by
  cases step with
  | start key plainRsa =>
      rw [worldFor]
      cases session.keys.find? key with
      | none => exact World.still_of_engines_eq rfl
      | some key => exact World.hold_still session.world key
  | _ => exact World.still_of_engines_eq rfl

/-- A step on the signature itself. -/
theorem Watched.own (h : Watched slot id digest hash message session) (what : SignatureStep) :
    Watched slot id digest hash
      ((session.turnsIn slot (.signature slot what)).foldl Signature.Turn.covered message)
      (session.step (.signature slot what)).2 := by
  obtain ⟨opened, hopened, rfl, rfl, hfeeds⟩ := h.feeds
  have hbegun : opened.signature.Feeds opened.engine hash message (session.worldFor what) :=
    ⟨hfeeds.valid, hfeeds.covers.still (worldFor_still session what), hfeeds.shown⟩
  obtain ⟨hruns, hdone⟩ := Signature.turns_feeds (session.operations what) hbegun
  have hcleared : ({ session with calls := #[], events := #[] } : Session).signatures.find? slot =
      some opened := hopened
  obtain ⟨hworld, hsignature⟩ := signatureStep_takes hcleared what hruns
  have hturns : session.turnsIn slot (.signature slot what) =
      (opened.signature.turns (World.boundary opened.engine) (session.operations what)
        (session.worldFor what)).1 := by
    simp only [turnsIn, if_true, hopened]
  refine ⟨h.apart.of_evolves (step_evolves session _), _, hsignature, rfl,
    Signature.turns_digest _ _ _ _, ?_⟩
  rw [hturns]
  exact hworld ▸ hdone

/-- A step on another object. -/
theorem Watched.other (h : Watched slot id digest hash message session) {step : Step}
    (hplace : step.place ≠ some (.signature slot))
    (haside : ¬ session.callsOn step id digest.handle)
    (hcounted : Counted id (session.step step).2) :
    Watched slot id digest hash message (session.step step).2 := by
  have hevolves := step_evolves session step
  have hheld := h.held_eq
  obtain ⟨_, -, -, -, hfeeds⟩ := h.feeds
  obtain ⟨engine, hengine, -⟩ := hfeeds.covers
  have hsmall := (hcounted.earlier hevolves.world) engine hengine
  refine h.elsewhere (h.apart.of_evolves hevolves) hevolves.world (hevolves.signatures hplace) ?_
    hcounted
  rintro (⟨place, hstep, hother⟩ | hcalls)
  · have hsame := h.apart.distinct hother hheld hengine hsmall
    exact hplace (hsame ▸ hstep)
  · exact haside hcalls

/-- What comes of creating a signature for a slot: either nothing, and all objects with a digest
stay, or it is created, and then the one that was in the slot is let go. -/
inductive Renewal (slot algorithm : String) (session next : Session) : Prop where
  | failed (calm : session.Calm (fun _ _ => False) next)
  | opened {opened : OpenSignature} {context : ContextHandle} {run : Run World}
      (found : next.signatures.find? slot = some opened)
      (created : (Signature.create (World.boundary opened.engine) context algorithm :
        Attempt World (Signature Key)).outcome { state := session.world } =
          (.ok opened.signature, run))
      (before : session.world.Evolves (fun _ _ => False) run.state)
      (after : run.state.Evolves
        (fun id digest => session.held (.signature slot) = some (id, digest)) next.world)

/-- A signature takes its slot, and then the one that was there is let go. -/
theorem putSignature_replaces {altered : EngineId → DigestHandle → Prop} {middle : Session}
    (hmiddle : session.Calm altered middle) (slot : String) (opened : OpenSignature) :
    let next := ((putSignature slot opened).run middle).2
    next.signatures.find? slot = some opened ∧
      middle.world.Evolves
        (fun id digest => session.held (.signature slot) = some (id, digest)) next.world := by
  have hcalm : Calm (fun id digest => session.held (.signature slot) = some (id, digest))
      { middle with signatures := middle.signatures.insert slot opened }
      ((putSignature slot opened).run middle).2 := by
    refine putSignature_calm opened fun previous hprevious => ?_
    rw [held, ← hmiddle.signatures, hprevious]
    rfl
  refine ⟨?_, hcalm.world⟩
  rw [hcalm.signatures]
  exact Table.find?_insert_self _ _ _

theorem newSignature_renewal (slot context algorithm : String) (session : Session) :
    Renewal slot algorithm session ((newSignature slot context algorithm).run session).2 := by
  have hrefl : session.Calm (fun _ _ => False) session := calm_lasting.refl session
  refine inSlot_bind (.failed hrefl) fun place _ => ?_
  refine contextAt_bind (.failed hrefl) fun found _ => ?_
  have hcreate := Signature.create_along (World.boundary_movesBy (fun _ _ => False) found.engine).calledBy
    found.context.handle algorithm
  have hcreated := workWithin_calm found.engine hcreate session
  refine attempt_bind (.failed hcreated) fun signature hsignature => ?_
  rw [run_bind_pure]
  obtain ⟨hfound, hafter⟩ := putSignature_replaces hcreated slot
    { engine := found.engine, context := place, signature }
  have hbefore := hcreate { state := session.world }
  rw [workWithin_world] at hafter
  exact .opened hfound (Prod.ext hsignature rfl) hbefore hafter

/-- As long as the signature stays, no other one was created for its slot. -/
theorem Watched.calm_of_renewal {algorithm : String} {next : Session}
    {altered : EngineId → DigestHandle → Prop}
    (h : Watched slot id digest hash message session)
    (hrenewal : Renewal slot algorithm session next)
    (hevolves : session.Evolves altered (some (.signature slot)) next)
    (hstays : next.held (.signature slot) = session.held (.signature slot))
    (hcounted : Counted id next) : session.Calm (fun _ _ => False) next := by
  cases hrenewal with
  | failed calm => exact calm
  | @opened other context run found created before after =>
      have hheld := h.held_eq
      have hnext := held_signature found
      rw [hstays, hheld, Option.some.injEq, Prod.mk.injEq] at hnext
      obtain ⟨rfl, hsame⟩ := hnext
      have hfresh := (create_fresh (Signature.create_eq_ok _ created).1).later after
      obtain ⟨_, -, -, -, hfeeds⟩ := h.feeds
      obtain ⟨engine, hengine, -⟩ := hfeeds.covers
      obtain ⟨later, hlater, -⟩ := hevolves.world.software hengine
      rw [← hsame] at hfresh
      exact (h.apart.not_fresh hevolves.world hheld hlater (hcounted later hlater) hfresh).elim

theorem Watched.renewal {algorithm : String} {next : Session}
    {altered : EngineId → DigestHandle → Prop}
    (h : Watched slot id digest hash message session)
    (hrenewal : Renewal slot algorithm session next)
    (hevolves : session.Evolves altered (some (.signature slot)) next)
    (hstays : next.held (.signature slot) = session.held (.signature slot))
    (hcounted : Counted id next) : Watched slot id digest hash message next := by
  have hcalm := h.calm_of_renewal hrenewal hevolves hstays hcounted
  exact h.elsewhere (h.apart.of_evolves hevolves) hcalm.world (by rw [hcalm.signatures])
    not_false hcounted

/-- A new signature of a software engine covers nothing. -/
theorem Renewal.watched {algorithm : String} {next : Session}
    {altered : EngineId → DigestHandle → Prop} (hrenewal : Renewal slot algorithm session next)
    (hapart : Apart session)
    (hevolves : session.Evolves altered (some (.signature slot)) next)
    (hnew : next.held (.signature slot) ≠ session.held (.signature slot))
    (hopened : next.signatures.find? slot = some opened) {engine : Software.Engine}
    (hengine : next.world.softwareEngine? opened.engine = some engine)
    (hcounted : engine.issued < UInt64.size) :
    ∃ hash, Software.HashAlgorithm.ofName? algorithm = some hash ∧
      Watched slot opened.engine opened.signature.digest hash [] next := by
  cases hrenewal with
  | failed calm => exact (hnew (calm.held_eq _)).elim
  | opened found created before after =>
      rw [hopened, Option.some.injEq] at found
      subst found
      obtain ⟨hcreated, hsignature⟩ := Signature.create_eq_ok _ created
      have hfresh := create_fresh hcreated
      obtain ⟨middle, hmiddle, -⟩ := after.software_before hfresh.known hengine
      obtain ⟨hash, hhash, hcovers⟩ := World.covers_of_create hcreated hmiddle
      have hvalid := (Digest.create_eq_ok _ hcreated).2.1
      refine ⟨hash, hhash, hapart.of_evolves hevolves, opened, hopened, rfl, rfl, hvalid, ?_, ?_⟩
      · apply after.covers hcovers
        · intro hheld
          exact hapart.not_fresh hevolves.world hheld hengine hcounted (hfresh.later after)
        · exact fun _ => hfresh.issued
        · intro later hlater
          rw [hengine, Option.some.injEq] at hlater
          exact hlater ▸ hcounted
      · intro key hkey
        rw [hsignature] at hkey
        cases hkey

theorem dropSignature_held (slot : String) (session : Session) :
    ((dropSlot slot .signature).run session).2.held (.signature slot) = none := by
  rw [dropSignature_state]
  cases hfound : session.signatures.find? slot with
  | none =>
      show session.held (.signature slot) = none
      rw [held, hfound]
      rfl
  | some opened =>
      have hdrop : Along (Calm fun _ _ => True) (dropSignature opened).run :=
        dropSignature_calm trivial
      refine ((hdrop _).held_eq (.signature slot)).trans ?_
      rw [held, Table.find?_erase_self]
      rfl

/-- What a step does with the record of the last one does not matter. -/
theorem step_renewal (session : Session) (slot context algorithm : String) :
    Renewal slot algorithm session (session.step (.newSignature slot context algorithm)).2 := by
  have h := newSignature_renewal slot context algorithm
    { session with calls := #[], events := #[] }
  cases h with
  | failed calm => exact .failed ⟨calm.world, calm.digests, calm.signatures⟩
  | opened found created before after => exact .opened found created before after

theorem step_drop_held (session : Session) (slot : String) :
    (session.step (.drop .signature slot)).2.held (.signature slot) = none := by
  have hdropped := dropSignature_held slot { session with calls := #[], events := #[] }
  rwa [← run_bind_pure _ Answer.flag] at hdropped

/-- A signature that is dropped does not stay. -/
theorem Watched.not_dropped (h : Watched slot id digest hash message session)
    (hspares : session.Spares slot (.drop .signature slot)) : False := by
  have hgone := step_drop_held session slot
  rw [hspares.stays, h.held_eq] at hgone
  cases hgone

/-- A step covers what its turns tell, if there are any, and else leaves what was covered. -/
theorem Watched.step (h : Watched slot id digest hash message session) {step : Step}
    (hspares : session.Spares slot step) (hcounted : Counted id (session.step step).2) :
    Watched slot id digest hash
      ((session.turnsIn slot step).foldl Signature.Turn.covered message)
      (session.step step).2 := by
  by_cases hplace : step.place = some (.signature slot)
  · have hevolves := step_evolves session step
    rw [hplace] at hevolves
    obtain ⟨context, algorithm, rfl⟩ | ⟨what, rfl⟩ | rfl := step.place_eq_signature hplace
    · exact h.renewal (step_renewal session slot context algorithm) hevolves hspares.stays hcounted
    · exact h.own what
    · exact (h.not_dropped hspares).elim
  · rw [turnsIn_eq_nil hplace]
    exact h.other hplace (hspares.aside h.held_eq) hcounted

theorem after_evolves (session : Session) (steps : List Step) :
    session.world.Evolves (fun _ _ => True) (session.after steps).world := by
  induction steps generalizing session with
  | nil => exact .refl session.world
  | cons step rest ih =>
      have hfirst := (step_evolves session step).world.mono fun _ _ _ => trivial
      exact hfirst.trans (ih _)

theorem Apart.after (h : Apart session) (steps : List Step) : Apart (session.after steps) := by
  induction steps generalizing session with
  | nil => exact h
  | cons step rest ih => exact ih (h.of_evolves (step_evolves session step))

theorem Watched.after (steps : List Step) {session : Session} {message : Bytes}
    (h : Watched slot id digest hash message session) (hspared : Undisturbed slot session steps)
    (hcounted : Counted id (session.after steps)) :
    Watched slot id digest hash
      ((turnsOver slot session steps).foldl Signature.Turn.covered message)
      (session.after steps) := by
  induction steps generalizing session message with
  | nil => exact h
  | cons step rest ih =>
      obtain ⟨hspares, hothers⟩ := hspared
      have hlater := after_evolves (session.step step).2 rest
      rw [turnsOver, List.foldl_append]
      exact ih (h.step hspares (hcounted.earlier hlater)) hothers hcounted

/-- What the signature in a slot covers is a message. The engine signs and verifies over the hash of
that message, and the signature gives what a new one gives that is bound to the same key and fed the
message at once. A bound key of a software engine shows its handle, which is valid. -/
structure SignsOver (session : Session) (slot : String) (engine : Software.Engine)
    (algorithm : String) (message : Bytes) (now : OpenSignature) (hash : Software.HashAlgorithm) :
    Prop where
  found : session.signatures.find? slot = some now
  kept : session.world.softwareEngine? now.engine = some engine
  named : Software.HashAlgorithm.ofName? algorithm = some hash
  sign (key : KeyHandle) (plainRsa : Bool) :
    engine.sign now.signature.digest.context now.signature.digest.handle key plainRsa =
      engine.keyMaterial key >>= (·.sign ⟨hash, message⟩ plainRsa)
  verify (key : KeyHandle) (candidate : Bytes) :
    engine.verify now.signature.digest.context now.signature.digest.handle key candidate =
      (engine.keyMaterial key).map (·.verify ⟨hash, message⟩ candidate)
  shown {key : SoftwareKey} :
    now.signature.key = some (.software key) → key.handle.isValid = true
  once {key : Key} {handle : KeyHandle} {context : ContextHandle} :
    now.signature.key = some key → session.world.Shows handle key → handle.isValid = true →
      message.length < UInt64.size → engine.contexts.contains context = true →
        ((now.signature.sign (World.boundary now.engine)).outcome { state := session.world }).1 =
          ((Signature.once (World.boundary now.engine) context algorithm key
            now.signature.plainRsa message).outcome { state := session.world.hold key }).1

/-- What a signature covers that was created over a software engine at any time, whatever has
happened since to it and to everything else in the process. Only its turns tell: it covers the bytes
of the updates accepted since its creation, its last start, or the last time it called the engine to
sign or to verify, whichever came last. That it was created shows in the slot, which keeps another
digest than before. -/
theorem signs_over_turns (earlier history : List Step) {slot context algorithm : String}
    {start begun final : Session} {opened : OpenSignature} {engine : Software.Engine}
    (hstart : ({} : Session).after earlier = start)
    (hbegun : (start.step (.newSignature slot context algorithm)).2 = begun)
    (hnew : begun.held (.signature slot) ≠ start.held (.signature slot))
    (hopened : begun.signatures.find? slot = some opened)
    (hspared : Undisturbed slot begun history)
    (hfinal : begun.after history = final)
    (hengine : final.world.softwareEngine? opened.engine = some engine)
    (hissued : engine.issued + 1 < UInt64.size) :
    ∃ now hash, now.engine = opened.engine ∧
      now.signature.digest = opened.signature.digest ∧
      SignsOver final slot engine algorithm
        (Signature.coveredBy (turnsOver slot begun history)) now hash := by
  have hapart : Apart start := hstart ▸ apart_empty.after earlier
  have hevolves : start.Evolves _ (some (.signature slot)) begun :=
    hbegun ▸ step_evolves start (.newSignature slot context algorithm)
  have hrenewal : Renewal slot algorithm start begun :=
    hbegun ▸ step_renewal start slot context algorithm
  have hlater : begun.world.Evolves (fun _ _ => True) final.world :=
    hfinal ▸ after_evolves begun history
  have hcounted : Counted opened.engine final := by
    intro found hfound
    rw [hengine, Option.some.injEq] at hfound
    exact hfound ▸ Nat.lt_of_succ_lt hissued
  have hheld : begun.held (.signature slot) =
      some (opened.engine, opened.signature.digest.handle) := by
    rw [held, hopened]
    rfl
  obtain ⟨before, hbefore, -⟩ :=
    hlater.software_before ((hapart.of_evolves hevolves).known hheld) hengine
  obtain ⟨hash, hhash, hwatched⟩ := hrenewal.watched hapart hevolves hnew hopened hbefore
    (hcounted.earlier hlater before hbefore)
  have hdone := hwatched.after history hspared (hfinal ▸ hcounted)
  rw [hfinal] at hdone
  obtain ⟨now, hnow, hid, hdigest, hfeeds⟩ := hdone.feeds
  obtain ⟨found, hfound, hcovers⟩ := hfeeds.covers
  rw [← hid] at hengine
  rw [← hid, hengine, Option.some.injEq] at hfound
  subst hfound
  refine ⟨now, hash, hid, hdigest, hnow, hengine, hhash, hcovers.sign, hcovers.verify,
    hfeeds.shown, ?_⟩
  intro key handle context hkey hshows hvalid hlength hcontext
  have honce := (hid ▸ hfeeds).outcome_once hkey hshows hvalid hlength hengine hissued hcontext
    hhash
  exact honce.symm

/-- A software engine with a context and a key pair. -/
def keyedSteps : List Step :=
  [.newEngine "engine" none, .createContext "context" "engine" false (.document (.object [])),
    .generateRsa "engine" "key" 1057 Software.prime536 Software.prime521]

/-- A signature is used beside another digest. Its second update is refused, and its sign leaves an
empty digest for the updates behind it. -/
def usedSteps : List Step :=
  [.signature "signature" (.start "key.private" false),
    .signature "signature" (.update (.given [1, 2, 3]) ⟨1, 2⟩),
    .signature "signature" (.update (.given [1, 2, 3]) ⟨2, 2⟩),
    .newDigest "digest" "context" "SHA-256",
    .digest "digest" (.update (.given [9])),
    .signature "signature" (.sign none),
    .signature "signature" (.updateAll (.given [4])),
    .drop .digest "digest",
    .signature "signature" (.update (.given [5, 6]) ⟨1, 1⟩)]

theorem signs_over_turns_used :
    ∃ begun engine now hash,
      ((({} : Session).after keyedSteps).step
        (.newSignature "signature" "context" "SHA-256")).2 = begun ∧
      now.engine = 0 ∧
        SignsOver (begun.after usedSteps) "signature" engine "SHA-256" [4, 6] now hash := by
  obtain ⟨start, hstart⟩ : ∃ start, ({} : Session).after keyedSteps = start := ⟨_, rfl⟩
  obtain ⟨begun, hbegun⟩ :
      ∃ begun, (start.step (.newSignature "signature" "context" "SHA-256")).2 = begun := ⟨_, rfl⟩
  have hopens : (begun.signatures.find? "signature").map (·.engine) = some 0 := by
    rw [← hbegun, ← hstart]
    decide +kernel
  obtain ⟨opened, hopened, hid⟩ := Option.map_eq_some_iff.mp hopens
  have hissued : ((begun.after usedSteps).world.softwareEngine? 0).map (·.issued) = some 5 := by
    rw [← hbegun, ← hstart]
    decide +kernel
  obtain ⟨engine, hengine, hcount⟩ := Option.map_eq_some_iff.mp hissued
  have hnew : begun.held (.signature "signature") ≠ start.held (.signature "signature") := by
    rw [← hbegun, ← hstart]
    decide +kernel
  have hspared : Undisturbed "signature" begun usedSteps := by
    refine ⟨⟨?_, fun _ => id⟩, ⟨?_, fun _ => id⟩, ⟨?_, fun _ => id⟩, ⟨?_, fun _ => id⟩,
      ⟨?_, fun _ => id⟩, ⟨?_, fun _ => id⟩, ⟨?_, fun _ => id⟩, ⟨?_, fun _ => id⟩,
      ⟨?_, fun _ => id⟩, trivial⟩
    all_goals
      rw [← hbegun, ← hstart]
      decide +kernel
  have hcovered : Signature.coveredBy (turnsOver "signature" begun usedSteps) = [4, 6] := by
    rw [← hbegun, ← hstart]
    decide +kernel
  obtain ⟨now, hash, hnow, -, hsigns⟩ := signs_over_turns keyedSteps usedSteps hstart hbegun hnew
    hopened hspared rfl (hid.symm ▸ hengine) (by rw [hcount]; decide)
  exact ⟨begun, engine, now, hash, hstart ▸ hbegun, hnow.trans hid, hcovered ▸ hsigns⟩

end SigningEngine.Session
