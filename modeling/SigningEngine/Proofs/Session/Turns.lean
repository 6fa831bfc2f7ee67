import SigningEngine.Proofs.Session.Coverage

/-!
# What the turns of a signature tell

A signature in a slot of a session takes its turns, and nothing else changes it. So the turns since
it was created tell what is bound to it, as they tell what it covers. Over a software engine an
update is accepted whenever its slice lies within its buffer.

The main statement is `Prepares.prepared`: a signature that was bound to a key and then fed a message
piece by piece is bound to that key and covers the message, whatever it was used for before.
-/

namespace SigningEngine

namespace Signature

open World

variable {κ : Type} {id : EngineId} {hash : Software.HashAlgorithm} {message : Bytes}
variable {world : World} {signature : Signature Key}

/-- A turn succeeds if it is an update with a slice that lies within its buffer. -/
def Turn.Accepting (turn : Turn κ) : Prop :=
  ∀ ⦃buffer : Bytes⦄ ⦃span : Span⦄, turn.operation = .update buffer span →
    span.Within buffer → turn.succeeded = true

theorem Feeds.turn_accepting (h : signature.Feeds id hash message world)
    (operation : Operation Key) :
    (signature.turn (boundary id) operation world).1.Accepting := by
  intro buffer span hoperation hwithin
  rw [turn_operation] at hoperation
  subst hoperation
  rw [turn_update, if_pos hwithin]
  simp only [(h.covers.update (span.cut buffer)).1]
  rfl

theorem Feeds.turns_accepting (operations : List (Operation Key)) {signature : Signature Key}
    {message : Bytes} {world : World} (h : signature.Feeds id hash message world) :
    ∀ turn ∈ (signature.turns (boundary id) operations world).1, turn.Accepting := by
  induction operations generalizing signature message world with
  | nil => simp
  | cons operation rest ih =>
      obtain ⟨hcontinues, hfirst⟩ := turn_feeds h operation
      rw [turns_cons (boundary id) signature rest hcontinues]
      intro turn hturn
      rcases List.mem_cons.mp hturn with rfl | hother
      · exact h.turn_accepting operation
      · exact ih hfirst turn hother

/-- Updates with pieces of a message. -/
def updates (pieces : List (Bytes × Span)) : List (Operation κ) :=
  pieces.map fun piece => .update piece.1 piece.2

/-- The message that is made of pieces. -/
def joined (pieces : List (Bytes × Span)) : Bytes :=
  pieces.flatMap fun piece => piece.2.cut piece.1

/-- Behind some turns, a signature takes a start that binds a key with this handle, and then updates
with these pieces of a message. -/
inductive Fed (key : KeyHandle) (plainRsa : Bool) (pieces : List (Bytes × Span))
    (turns : List (Turn Key)) : Prop where
  | intro {bound : SoftwareKey} (past : Nat) (shows : bound.handle = key)
      (operations : (turns.drop past).map Turn.operation =
        .start (.software bound) plainRsa :: updates pieces)
      (started : (turns.drop past).head?.any Turn.succeeded = true) :
      Fed key plainRsa pieces turns

/-- Pieces of a message are accepted one after the other. -/
theorem covered_updates {pieces : List (Bytes × Span)} {turns : List (Turn κ)}
    (hturns : turns.map Turn.operation = updates pieces)
    (hwithin : ∀ piece ∈ pieces, piece.2.Within piece.1)
    (haccepting : ∀ turn ∈ turns, turn.Accepting) (message : Bytes) :
    turns.foldl Turn.covered message = message ++ joined pieces := by
  induction pieces generalizing turns message with
  | nil =>
      rw [List.map_eq_nil_iff.mp hturns]
      simp [joined]
  | cons piece rest ih =>
      obtain ⟨turn, others, rfl, hturn, hothers⟩ := List.map_eq_cons_iff.mp hturns
      have hsucceeded : turn.succeeded = true := haccepting turn List.mem_cons_self hturn
        (hwithin piece List.mem_cons_self)
      have hcovered : Turn.covered message turn = message ++ piece.2.cut piece.1 := by
        rw [Turn.covered, hturn]
        simp only
        rw [if_pos hsucceeded]
      rw [List.foldl_cons, hcovered, ih hothers
        (fun other hother => hwithin other (List.mem_cons_of_mem _ hother))
        (fun other hother => haccepting other (List.mem_cons_of_mem _ hother))]
      simp [joined]

variable {key : KeyHandle} {plainRsa : Bool} {pieces : List (Bytes × Span)}
variable {turns : List (Turn Key)}

/-- The turns of a signature that is fed a message. -/
theorem Fed.turns_eq (h : Fed key plainRsa pieces turns) :
    ∃ past started fed, turns = past ++ started :: fed ∧ started.succeeded = true ∧
      fed.map Turn.operation = updates pieces ∧
      ∃ bound : SoftwareKey, bound.handle = key ∧
        started.operation = .start (.software bound) plainRsa := by
  obtain ⟨past, hshows, hoperations, hsucceeded⟩ := h
  obtain ⟨started, fed, hrest, hstarted, hfed⟩ := List.map_eq_cons_iff.mp hoperations
  have hturns := List.take_append_drop past turns
  rw [hrest] at hsucceeded hturns
  exact ⟨_, started, fed, hturns.symm, by simpa using hsucceeded, hfed, _, hshows, hstarted⟩

theorem Fed.coveredBy_eq (h : Fed key plainRsa pieces turns)
    (hwithin : ∀ piece ∈ pieces, piece.2.Within piece.1)
    (haccepting : ∀ turn ∈ turns, turn.Accepting) : coveredBy turns = joined pieces := by
  obtain ⟨past, started, fed, rfl, -, hfed, bound, -, hstarted⟩ := h.turns_eq
  have hfresh (message : Bytes) : Turn.covered message started = [] := by
    rw [Turn.covered, hstarted]
  rw [coveredBy, List.foldl_append, List.foldl_cons, hfresh]
  exact covered_updates hfed hwithin
    (fun turn hturn => haccepting turn (by simp [hturn])) []

/-- No update is a start. -/
theorem lastStart_updates {past fed : List (Turn Key)} {started : Turn Key}
    (hstarted : started.operation.isStart = true)
    (hfed : fed.map Turn.operation = updates pieces) :
    lastStart (past ++ started :: fed) = some started := by
  have hnone : fed.filter (fun turn => turn.operation.isStart) = [] := by
    rw [List.filter_eq_nil_iff]
    intro turn hturn
    have hoperation : turn.operation ∈ updates pieces := hfed ▸ List.mem_map_of_mem hturn
    obtain ⟨piece, -, hpiece⟩ := List.mem_map.mp hoperation
    rw [← hpiece]
    exact Bool.false_ne_true
  have hlast : (started :: fed).filter (fun turn => turn.operation.isStart) = [started] := by
    rw [List.filter_cons, if_pos hstarted, hnone]
  rw [lastStart, List.filter_append, hlast, List.getLast?_concat]

theorem Fed.bound_eq (h : Fed key plainRsa pieces turns) (hbound : BoundBy turns signature) :
    ∃ bound : SoftwareKey, bound.handle = key ∧ signature.key = some (.software bound) ∧
      signature.plainRsa = plainRsa := by
  obtain ⟨past, started, fed, rfl, hsucceeded, hfed, bound, hshows, hstarted⟩ := h.turns_eq
  have hbinds : Turn.binds started = some (.software bound, plainRsa) := by
    rw [Turn.binds, hstarted]
    simp only
    rw [if_pos hsucceeded]
  have hlast := hbound.bound
  rw [lastStart_updates (hstarted ▸ rfl) hfed, Option.bind_some, hbinds, bound_eq_some] at hlast
  exact ⟨bound, hshows, hlast⟩

end Signature

namespace Session

open Signature (Turn BoundBy coveredBy Fed joined)

variable {slot : String} {id : EngineId} {digest : Digest} {hash : Software.HashAlgorithm}
variable {message : Bytes} {session : Session}

/-- A step consists of turns of the signature in a slot, which feeds a digest of a software engine. -/
inductive TakesTurns (slot : String) (id : EngineId) (hash : Software.HashAlgorithm)
    (message : Bytes) (session : Session) (step : Step) : Prop where
  | intro {opened : OpenSignature} {world : World} (operations : List (Signature.Operation Key))
      (found : session.signatures.find? slot = some opened)
      (feeds : opened.signature.Feeds id hash message world)
      (turns : session.turnsIn slot step =
        (opened.signature.turns (World.boundary id) operations world).1)
      (next : (session.step step).2.signatures.find? slot = some { opened with
        signature := (opened.signature.turns (World.boundary id) operations world).2.1 })

/-- A step that leaves a signature as it is takes no turn of it. -/
theorem Watched.takesNoTurns (h : Watched slot id digest hash message session) {step : Step}
    (hnone : session.turnsIn slot step = [])
    (hsame : (session.step step).2.signatures.find? slot = session.signatures.find? slot) :
    TakesTurns slot id hash message session step := by
  obtain ⟨opened, hopened, -, -, hfeeds⟩ := h.feeds
  exact .intro [] hopened hfeeds hnone (hsame.trans hopened)

/-- Whatever is done, a signature that stays in its slot takes turns. -/
theorem Watched.takesTurns (h : Watched slot id digest hash message session) {step : Step}
    (hspares : session.Spares slot step) (hcounted : Counted id (session.step step).2) :
    TakesTurns slot id hash message session step := by
  have hevolves := step_evolves session step
  by_cases hplace : step.place = some (.signature slot)
  · rw [hplace] at hevolves
    obtain ⟨context, algorithm, rfl⟩ | ⟨what, rfl⟩ | rfl := step.place_eq_signature hplace
    · have hcalm := h.calm_of_renewal (step_renewal session slot context algorithm) hevolves
        hspares.stays hcounted
      exact h.takesNoTurns rfl (by rw [hcalm.signatures])
    · obtain ⟨opened, hopened, rfl, rfl, hfeeds⟩ := h.feeds
      have hbegun : opened.signature.Feeds opened.engine hash message (session.worldFor what) :=
        ⟨hfeeds.valid, hfeeds.covers.still (worldFor_still session what), hfeeds.shown⟩
      obtain ⟨hruns, -⟩ := Signature.turns_feeds (session.operations what) hbegun
      have hcleared : ({ session with calls := #[], events := #[] } : Session).signatures.find?
          slot = some opened := hopened
      obtain ⟨-, hnext⟩ := signatureStep_takes hcleared what hruns
      refine .intro (session.operations what) hopened hbegun ?_ hnext
      simp only [turnsIn, if_true, hopened]
    · exact (h.not_dropped hspares).elim
  · exact h.takesNoTurns (turnsIn_eq_nil hplace) (hevolves.signatures hplace)

/-- What the turns since its creation tell of the signature in a slot. -/
structure Told (slot : String) (id : EngineId) (digest : Digest) (hash : Software.HashAlgorithm)
    (history : List (Turn Key)) (session : Session) : Prop where
  watched : Watched slot id digest hash (coveredBy history) session
  bound : ∃ opened, session.signatures.find? slot = some opened ∧
    BoundBy history opened.signature
  accepting : ∀ turn ∈ history, turn.Accepting

theorem Told.step {history : List (Turn Key)} (h : Told slot id digest hash history session)
    {step : Step} (hspares : session.Spares slot step)
    (hcounted : Counted id (session.step step).2) :
    Told slot id digest hash (history ++ session.turnsIn slot step) (session.step step).2 := by
  obtain ⟨operations, hfound, hfeeds, hturns, hnext⟩ := h.watched.takesTurns hspares hcounted
  obtain ⟨opened, hopened, hbound⟩ := h.bound
  rw [hfound, Option.some.injEq] at hopened
  subst hopened
  refine ⟨?_, ⟨_, hnext, ?_⟩, ?_⟩
  · rw [coveredBy, List.foldl_append]
    exact h.watched.step hspares hcounted
  · rw [hturns]
    exact Signature.boundBy_turns (World.boundary id) operations hbound _
  · rw [hturns]
    intro turn hturn
    rcases List.mem_append.mp hturn with hearlier | hnew
    · exact h.accepting turn hearlier
    · exact hfeeds.turns_accepting operations turn hnew

theorem Told.after (steps : List Step) {session : Session} {history : List (Turn Key)}
    (h : Told slot id digest hash history session) (hspared : Undisturbed slot session steps)
    (hcounted : Counted id (session.after steps)) :
    Told slot id digest hash (history ++ turnsOver slot session steps) (session.after steps) := by
  induction steps generalizing session history with
  | nil =>
      rw [turnsOver, List.append_nil]
      exact h
  | cons step rest ih =>
      obtain ⟨hspares, hothers⟩ := hspared
      have hlater := after_evolves (session.step step).2 rest
      rw [turnsOver, ← List.append_assoc]
      exact ih (h.step hspares (hcounted.earlier hlater)) hothers hcounted

/-- A new signature has taken no turns. -/
theorem Renewal.told {algorithm : String} {next : Session} {opened : OpenSignature}
    {altered : EngineId → DigestHandle → Prop} (hrenewal : Renewal slot algorithm session next)
    (hapart : Apart session)
    (hevolves : session.Evolves altered (some (.signature slot)) next)
    (hnew : next.held (.signature slot) ≠ session.held (.signature slot))
    (hopened : next.signatures.find? slot = some opened) {engine : Software.Engine}
    (hengine : next.world.softwareEngine? opened.engine = some engine)
    (hcounted : engine.issued < UInt64.size) :
    ∃ hash, Software.HashAlgorithm.ofName? algorithm = some hash ∧
      Told slot opened.engine opened.signature.digest hash [] next := by
  obtain ⟨hash, hhash, hwatched⟩ :=
    hrenewal.watched hapart hevolves hnew hopened hengine hcounted
  refine ⟨hash, hhash, hwatched, ⟨opened, hopened, ?_⟩, by simp⟩
  cases hrenewal with
  | failed calm => exact (hnew (calm.held_eq _)).elim
  | opened found created before after =>
      rw [hopened, Option.some.injEq] at found
      subst found
      rw [(Signature.create_eq_ok _ created).2]
      exact Signature.boundBy_fresh _

/-! ### A signature that is fed a message -/

variable {key : KeyHandle} {plainRsa : Bool} {pieces : List (Bytes × Span)}

/-- A signature is created over an engine, and then used for anything. In the end it is bound to a
key with this handle and fed a message piece by piece. Any other steps may come between. -/
inductive Prepares (slot : String) (id : EngineId) (algorithm : String) (key : KeyHandle)
    (plainRsa : Bool) (pieces : List (Bytes × Span)) : List Step → Prop where
  | intro {earlier history : List Step} {context : String} {start begun : Session}
      (starts : ({} : Session).after earlier = start)
      (begins : (start.step (.newSignature slot context algorithm)).2 = begun)
      (created : begun.held (.signature slot) ≠ start.held (.signature slot))
      (onEngine : (begun.signatures.find? slot).map (·.engine) = some id)
      (undisturbed : Undisturbed slot begun history)
      (fed : Fed key plainRsa pieces (turnsOver slot begun history)) :
      Prepares slot id algorithm key plainRsa pieces
        (earlier ++ .newSignature slot context algorithm :: history)

/-- In a slot is a signature over a software engine. It is bound to a key with this handle and
covers a message. -/
inductive Prepared (slot : String) (id : EngineId) (hash : Software.HashAlgorithm)
    (key : KeyHandle) (plainRsa : Bool) (message : Bytes) (session : Session) : Prop where
  | intro {opened : OpenSignature} {bound : SoftwareKey}
      (found : session.signatures.find? slot = some opened) (onEngine : opened.engine = id)
      (feeds : opened.signature.Feeds id hash message session.world)
      (binds : opened.signature.key = some (.software bound)) (shows : bound.handle = key)
      (flag : opened.signature.plainRsa = plainRsa) :
      Prepared slot id hash key plainRsa message session

/-- What is told of a signature since it was created over a software engine. -/
theorem told_after {earlier history : List Step} {context algorithm : String}
    {start begun : Session} {opened : OpenSignature} {engine : Software.Engine}
    (hstart : ({} : Session).after earlier = start)
    (hbegun : (start.step (.newSignature slot context algorithm)).2 = begun)
    (hnew : begun.held (.signature slot) ≠ start.held (.signature slot))
    (hopened : begun.signatures.find? slot = some opened)
    (hspared : Undisturbed slot begun history)
    (hengine : (begun.after history).world.softwareEngine? opened.engine = some engine)
    (hissued : engine.issued < UInt64.size) :
    ∃ hash, Software.HashAlgorithm.ofName? algorithm = some hash ∧
      Told slot opened.engine opened.signature.digest hash (turnsOver slot begun history)
        (begun.after history) := by
  have hapart : Apart start := hstart ▸ apart_empty.after earlier
  have hevolves : start.Evolves _ (some (.signature slot)) begun :=
    hbegun ▸ step_evolves start (.newSignature slot context algorithm)
  have hrenewal : Renewal slot algorithm start begun :=
    hbegun ▸ step_renewal start slot context algorithm
  have hlater := after_evolves begun history
  have hcounted := Counted.of_engine hengine hissued
  obtain ⟨before, hbefore, -⟩ :=
    hlater.software_before ((hapart.of_evolves hevolves).known (held_signature hopened)) hengine
  obtain ⟨hash, hhash, htold⟩ := hrenewal.told hapart hevolves hnew hopened hbefore
    (hcounted.earlier hlater before hbefore)
  exact ⟨hash, hhash, htold.after history hspared hcounted⟩

theorem Prepares.known {algorithm : String} {steps : List Step}
    (h : Prepares slot id algorithm key plainRsa pieces steps) :
    id < (({} : Session).after steps).world.engines.size := by
  cases h with
  | @intro earlier history context start begun hstarts hbegins hcreated hover hundisturbed hfed =>
    obtain ⟨opened, hfound, rfl⟩ := Option.map_eq_some_iff.mp hover
    have hapart : Apart begun :=
      hbegins ▸ (hstarts ▸ apart_empty.after earlier).of_evolves (step_evolves start _)
    rw [after_append, hstarts, after_cons, hbegins]
    exact Nat.lt_of_lt_of_le (hapart.known (held_signature hfound))
      (after_evolves begun history).size_le

/-- What a signature is prepared for does not depend on what it was used for before, nor on how the
message was cut into pieces. -/
theorem Prepares.prepared {algorithm : String} {steps : List Step}
    (h : Prepares slot id algorithm key plainRsa pieces steps)
    (hwithin : ∀ piece ∈ pieces, piece.2.Within piece.1) {engine : Software.Engine}
    (hengine : (({} : Session).after steps).world.softwareEngine? id = some engine)
    (hissued : engine.issued < UInt64.size) :
    ∃ hash, Software.HashAlgorithm.ofName? algorithm = some hash ∧
      Prepared slot id hash key plainRsa (joined pieces) (({} : Session).after steps) := by
  cases h with
  | @intro earlier history context start begun hstarts hbegins hcreated hover hundisturbed hfed =>
    obtain ⟨opened, hfound, rfl⟩ := Option.map_eq_some_iff.mp hover
    have hfinal : ({} : Session).after
        (earlier ++ .newSignature slot context algorithm :: history) = begun.after history := by
      rw [after_append, hstarts, after_cons, hbegins]
    rw [hfinal] at hengine ⊢
    obtain ⟨hash, hhash, hwatched, ⟨now, hnow, hbound⟩, haccepting⟩ :=
      told_after hstarts hbegins hcreated hfound hundisturbed hengine hissued
    obtain ⟨bound, hshows, hbinds, hflag⟩ := hfed.bound_eq hbound
    obtain ⟨found, hfoundNow, hover, -, hfeeds⟩ := hwatched.feeds
    rw [hnow, Option.some.injEq] at hfoundNow
    subst hfoundNow
    rw [hfed.coveredBy_eq hwithin haccepting] at hfeeds
    exact ⟨hash, hhash, .intro hnow hover hfeeds hbinds hshows hflag⟩

end Session

end SigningEngine
