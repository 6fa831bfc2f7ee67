import SigningEngine.Proofs.Custody
import SigningEngine.Proofs.Signature.Coverage

/-!
# Signatures that share an engine

What a turn of a signature gives depends on the signature, on the share that its digest has in the
engine, and on the material of the bound key. A turn on another digest leaves the share as it is, so
that what happens elsewhere can reach a signature by key material alone.

The main statements are `turn_alike`, for a signature over two worlds in which it has the same share,
and `turn_elsewhere`, for a turn on another digest.
-/

namespace SigningEngine

/-- Whether a key was generated by an engine. -/
def Key.ownedBy (id : EngineId) : Key → Bool
  | .software key => key.engine = id
  | .scripted _ => false

theorem Key.ownedBy_iff {id : EngineId} {key : Key} :
    key.ownedBy id = true ↔ ∃ found : SoftwareKey, key = .software found ∧ found.engine = id := by
  cases key with
  | software key => simp [ownedBy]
  | scripted key => simp [ownedBy]

namespace Software.Engine

variable {engine other : Engine} {context : ContextHandle} {digest : DigestHandle}

/-- Two engines answer alike for a digest: they know its context alike, and it holds the same. -/
structure Alike (context : ContextHandle) (digest : DigestHandle) (engine other : Engine) :
    Prop where
  context : other.contexts.find? context = engine.contexts.find? context
  digest : other.digests.find? digest = engine.digests.find? digest

theorem Alike.refl (context : ContextHandle) (digest : DigestHandle) (engine : Engine) :
    Alike context digest engine engine := ⟨rfl, rfl⟩

theorem Alike.symm (h : Alike context digest engine other) : Alike context digest other engine :=
  ⟨h.context.symm, h.digest.symm⟩

theorem Alike.trans {last : Engine} (first : Alike context digest engine other)
    (second : Alike context digest other last) : Alike context digest engine last :=
  ⟨second.context.trans first.context, second.digest.trans first.digest⟩

theorem Alike.changeDigest (h : Alike context digest engine other)
    (change : Accumulator → Accumulator) :
    let changed := engine.settle (engine.changeDigest context digest change)
    let twin := other.settle (other.changeDigest context digest change)
    twin.1 = changed.1 ∧ Alike context digest changed.2 twin.2 := by
  have hcontext := h.context
  have hdigest := h.digest
  rw [changeDigest_eq, changeDigest_eq, hcontext, hdigest]
  cases engine.contexts.find? context with
  | none => exact ⟨rfl, h⟩
  | some fips =>
      cases engine.digests.find? digest with
      | none => exact ⟨rfl, h⟩
      | some state =>
          refine ⟨rfl, hcontext, ?_⟩
          exact (Table.find?_insert_self _ _ _).trans (Table.find?_insert_self _ _ _).symm

/-- What a digest holds does not change with another one. -/
theorem changeDigest_alike (engine : Engine) (context within : ContextHandle)
    {changed : DigestHandle} (h : digest ≠ changed) (change : Accumulator → Accumulator) :
    Alike context digest engine (engine.settle (engine.changeDigest within changed change)).2 := by
  rw [changeDigest_eq]
  split
  · exact .refl ..
  · exact .refl ..
  · exact ⟨rfl, Table.find?_insert_of_ne _ _ h⟩

theorem Alike.sign (h : Alike context digest engine other) {key : KeyHandle}
    (hkey : other.keys.find? key = engine.keys.find? key) (plainRsa : Bool) :
    other.sign context digest key plainRsa = engine.sign context digest key plainRsa := by
  rw [Engine.sign, Engine.sign, contextFips, contextFips, h.context, digestState, digestState,
    h.digest, keyMaterial, keyMaterial, hkey]

theorem Alike.verify (h : Alike context digest engine other) {key : KeyHandle}
    (hkey : other.keys.find? key = engine.keys.find? key) (candidate : Bytes) :
    other.verify context digest key candidate = engine.verify context digest key candidate := by
  rw [Engine.verify, Engine.verify, contextFips, contextFips, h.context, digestState, digestState,
    h.digest, keyMaterial, keyMaterial, hkey]

end Software.Engine

namespace World

variable {id : EngineId} {digest : Digest} {world middle next other : World}

/-- The material that the engine of a key keeps for it. -/
def materialOf (world : World) (key : SoftwareKey) : Option Software.KeyMaterial :=
  (world.softwareEngine? key.engine).bind (·.keys.find? key.handle)

/-- What a digest of an engine holds. -/
def accumulated (world : World) (id : EngineId) (digest : DigestHandle) :
    Option Software.Accumulator :=
  (world.softwareEngine? id).bind (·.digests.find? digest)

/-- A software engine answers alike for a digest in two worlds. -/
def Alike (id : EngineId) (digest : Digest) (world other : World) : Prop :=
  ∃ engine twin, world.softwareEngine? id = some engine ∧ other.softwareEngine? id = some twin ∧
    engine.Alike digest.context digest.handle twin

theorem Alike.first (h : Alike id digest world other) :
    ∃ engine, world.softwareEngine? id = some engine := by
  obtain ⟨engine, -, hengine, -, -⟩ := h
  exact ⟨engine, hengine⟩

theorem Alike.second (h : Alike id digest world other) :
    ∃ engine, other.softwareEngine? id = some engine := by
  obtain ⟨-, twin, -, htwin, -⟩ := h
  exact ⟨twin, htwin⟩

theorem Alike.symm (h : Alike id digest world other) : Alike id digest other world := by
  obtain ⟨engine, twin, hengine, htwin, halike⟩ := h
  exact ⟨twin, engine, htwin, hengine, halike.symm⟩

theorem Alike.trans (first : Alike id digest world middle) (second : Alike id digest middle next) :
    Alike id digest world next := by
  obtain ⟨engine, found, hengine, hfound, hfirst⟩ := first
  obtain ⟨same, later, hsame, hlater, hsecond⟩ := second
  rw [hfound, Option.some.injEq] at hsame
  subst hsame
  exact ⟨engine, later, hengine, hlater, hfirst.trans hsecond⟩

theorem Alike.accumulated_eq (h : Alike id digest world other) :
    other.accumulated id digest.handle = world.accumulated id digest.handle := by
  obtain ⟨engine, twin, hengine, htwin, halike⟩ := h
  rw [accumulated, accumulated, hengine, htwin]
  exact halike.digest

variable {engine : Software.Engine}

theorem alike_refl (digest : Digest) (hengine : world.softwareEngine? id = some engine) :
    Alike id digest world world :=
  ⟨engine, engine, hengine, hengine, .refl ..⟩

theorem Still.alike (h : Still id world next) (digest : Digest)
    (hengine : world.softwareEngine? id = some engine) : Alike id digest world next := by
  obtain ⟨later, hlater, hcontexts, hdigests⟩ := h hengine
  exact ⟨engine, later, hengine, hlater, by rw [hcontexts], by rw [hdigests]⟩

theorem Alike.still {last : World} (h : Alike id digest world other) (hworld : Still id world next)
    (hother : Still id other last) : Alike id digest next last := by
  obtain ⟨engine, hengine⟩ := h.first
  obtain ⟨twin, htwin⟩ := h.second
  exact ((hworld.alike digest hengine).symm.trans h).trans (hother.alike digest htwin)

/-- Data and resets are answered alike, and leave what is alike. -/
theorem Alike.change (h : Alike id digest world other) {call : NativeCall}
    (hcall : (∃ data, call = .digestUpdate digest.context digest.handle data) ∨
      call = .digestReset digest.context digest.handle) :
    (boundary id).replyTo call other = (boundary id).replyTo call world ∧
      Alike id digest ((boundary id).behind call world) ((boundary id).behind call other) := by
  obtain ⟨engine, twin, hengine, htwin, halike⟩ := h
  rw [replyTo_software hengine, replyTo_software htwin, behind_software hengine,
    behind_software htwin]
  obtain ⟨data, rfl⟩ | rfl := hcall
  · obtain ⟨hreply, hnext⟩ := halike.changeDigest (·.update data)
    exact ⟨congrArg _ hreply, _, _, softwareEngine?_setEngine hengine _,
      softwareEngine?_setEngine htwin _, hnext⟩
  · obtain ⟨hreply, hnext⟩ := halike.changeDigest (·.reset)
    exact ⟨congrArg _ hreply, _, _, softwareEngine?_setEngine hengine _,
      softwareEngine?_setEngine htwin _, hnext⟩

/-- To sign or to verify changes nothing. -/
theorem behind_judging (hengine : world.softwareEngine? id = some engine) {call : NativeCall}
    (hcall : call.judges = true) : (boundary id).behind call world = world := by
  have hsame : (engine.reply call).2 = engine := by
    cases call with
    | sign context digest key plainRsa => rfl
    | verify context digest key signature => rfl
    | _ => cases hcall
  rw [behind_software hengine, hsame]
  exact setEngine_self (softwareEngine?_eq_some.mp hengine)

theorem Alike.sign (h : Alike id digest world other) {key : SoftwareKey} (hid : key.engine = id)
    (hmaterial : other.materialOf key = world.materialOf key) (plainRsa : Bool) :
    let call := NativeCall.sign digest.context digest.handle key.handle plainRsa
    (boundary id).replyTo call other = (boundary id).replyTo call world := by
  obtain ⟨engine, twin, hengine, htwin, halike⟩ := h
  rw [materialOf, materialOf, hid, hengine, htwin] at hmaterial
  simp only [replyTo_software hengine, replyTo_software htwin]
  exact congrArg _ (halike.sign hmaterial plainRsa)

theorem Alike.verify (h : Alike id digest world other) {key : SoftwareKey} (hid : key.engine = id)
    (hmaterial : other.materialOf key = world.materialOf key) (candidate : Bytes) :
    let call := NativeCall.verify digest.context digest.handle key.handle candidate
    (boundary id).replyTo call other = (boundary id).replyTo call world := by
  obtain ⟨engine, twin, hengine, htwin, halike⟩ := h
  rw [materialOf, materialOf, hid, hengine, htwin] at hmaterial
  simp only [replyTo_software hengine, replyTo_software htwin]
  exact congrArg _ (halike.verify hmaterial candidate)

/-- A change of another digest. -/
theorem change_alike (hengine : world.softwareEngine? id = some engine) {changed : Digest}
    (hother : digest.handle ≠ changed.handle) {call : NativeCall}
    (hcall : (∃ data, call = .digestUpdate changed.context changed.handle data) ∨
      call = .digestReset changed.context changed.handle) :
    Alike id digest world ((boundary id).behind call world) := by
  rw [behind_software hengine]
  obtain ⟨data, rfl⟩ | rfl := hcall
  · exact ⟨engine, _, hengine, softwareEngine?_setEngine hengine _,
      engine.changeDigest_alike _ _ hother _⟩
  · exact ⟨engine, _, hengine, softwareEngine?_setEngine hengine _,
      engine.changeDigest_alike _ _ hother _⟩

end World

namespace Signature

open World

variable {id : EngineId} {signature : Signature Key} {world other : World}
variable {engine : Software.Engine}

/-! ### A turn never ends the process -/

theorem settled_ne_abort {α : Type} (operation : String) (replied : Except NativeError α)
    {reset : Except Failure Unit} (hreset : reset ≠ .error .abort) :
    settled operation (.ok replied) reset ≠ .error .abort := by
  match replied, reset with
  | .ok _, .ok () => simp [settled]
  | .ok _, .error failure => simpa [settled] using hreset
  | .error _, .ok () => simp [settled]
  | .error _, .error (.error _) => simp [settled]
  | .error _, .error (.panic _) => simp [settled]
  | .error _, .error .abort => exact (hreset rfl).elim

theorem resetOutcome_ne_abort (signature : Signature Key) (world : World) :
    signature.resetOutcome (boundary id) world ≠ .error .abort :=
  Failure.ofReply_ne_abort _ _

/-- A software engine never panics, so there is no second panic to end the process. -/
theorem turn_aborts_eq_false (hengine : world.softwareEngine? id = some engine)
    (signature : Signature Key) (operation : Operation Key) :
    (signature.turn (boundary id) operation world).1.aborts = false := by
  cases operation with
  | start key plainRsa =>
      let free := signature.unboundState (boundary id) world
      have hreset : signature.resetOutcome (boundary id) free ≠ .error .abort :=
        signature.resetOutcome_ne_abort free
      rw [turn_start]
      simp only
      split
      next failure hfailure =>
        rw [hfailure] at hreset
        exact Turn.aborts_eq_false hreset
      next => split <;> rfl
  | update buffer span =>
      rw [turn_update]
      split
      next => exact Turn.aborts_eq_false (Failure.ofReply_ne_abort _ _)
      next => rfl
  | sign =>
      obtain ⟨checked, hchecked, -⟩ := checkedState_still signature world hengine
      rw [turn_sign]
      simp only [replyTo_software hchecked]
      split
      next => exact Turn.aborts_eq_false (settled_ne_abort _ _ (resetOutcome_ne_abort _ _))
      next => rfl
  | verify candidate =>
      obtain ⟨checked, hchecked, -⟩ := checkedState_still signature world hengine
      rw [turn_verify]
      simp only [replyTo_software hchecked]
      split
      next => exact Turn.aborts_eq_false (settled_ne_abort _ _ (resetOutcome_ne_abort _ _))
      next => rfl

/-! ### A turn of the signature itself -/

/-- The key that is bound, if any, was generated by an engine. -/
def Owned (id : EngineId) (signature : Signature Key) : Prop :=
  ∀ key, signature.key = some key → key.ownedBy id = true

theorem checkedState_of_owned (h : signature.Owned id) (world : World) :
    signature.checkedState (boundary id) world = world := by
  rw [checkedState, checkedRun]
  cases hkey : signature.key with
  | none => rfl
  | some key =>
      obtain ⟨found, rfl, -⟩ := Key.ownedBy_iff.mp (h key hkey)
      rfl

/-- A generated key shows its handle, and nothing changes. -/
theorem turn_start_software (signature : Signature Key) (key : SoftwareKey) (plainRsa : Bool)
    (world : World) :
    signature.turn (boundary id) (.start (.software key) plainRsa) world =
      let free := signature.unboundState (boundary id) world
      let reset := (boundary id).behind signature.resetCall free
      let turn (outcome : Except Failure Unit) : Turn Key :=
        { operation := .start (.software key) plainRsa, outcome, calls := [signature.resetCall] }
      match signature.resetOutcome (boundary id) free with
      | .error failure =>
        (turn (.error failure), signature.unbound, reset.release (.software key))
      | .ok () =>
        if key.handle.isValid then
          (turn (.ok ()), { signature with key := some (.software key), plainRsa }, reset)
        else
          (turn (.error (.error (.invalidKey
              (key.algorithm.name ++ " key has no native identifier")))),
            signature.unbound, reset.release (.software key)) :=
  turn_start (boundary id) signature (.software key) plainRsa world

/-- What is bound to a signature that calls the engine to sign or to verify. -/
theorem key_of_reaches (h : signature.Owned id)
    (hreaches : signature.reaches (boundary id) world = true) :
    ∃ key, signature.key = some (.software key) ∧ key.engine = id ∧
      ∀ shown, signature.shownHandle (boundary id) shown = key.handle := by
  rw [reaches] at hreaches
  cases hkey : signature.key with
  | none => simp [hkey] at hreaches
  | some key =>
      obtain ⟨found, rfl, hid⟩ := Key.ownedBy_iff.mp (h key hkey)
      exact ⟨found, rfl, hid, fun shown => by simp only [shownHandle, hkey]; rfl⟩

theorem reaches_of_owned (h : signature.Owned id) (world other : World) :
    signature.reaches (boundary id) other = signature.reaches (boundary id) world := by
  rw [reaches, reaches]
  cases hkey : signature.key with
  | none => rfl
  | some key =>
      obtain ⟨found, rfl, -⟩ := Key.ownedBy_iff.mp (h key hkey)
      rfl

/-- A reset is answered alike, and leaves what is alike. -/
theorem resetOutcome_alike (h : Alike id signature.digest world other) :
    signature.resetOutcome (boundary id) other = signature.resetOutcome (boundary id) world ∧
      Alike id signature.digest ((boundary id).behind signature.resetCall world)
        ((boundary id).behind signature.resetCall other) := by
  obtain ⟨hreset, hnext⟩ := h.change (.inr rfl)
  exact ⟨congrArg (Failure.ofReply signature.digest.resetError) hreset, hnext⟩

theorem turn_alike (h : Alike id signature.digest world other) (howned : signature.Owned id)
    (hmaterial : ∀ key, signature.key = some (.software key) →
      other.materialOf key = world.materialOf key)
    {operation : Operation Key}
    (hoffered : ∀ key, operation.offered = some key → key.ownedBy id = true) :
    let turned := signature.turn (boundary id) operation world
    let twin := signature.turn (boundary id) operation other
    twin.1 = turned.1 ∧ twin.2.1 = turned.2.1 ∧
      Alike id signature.digest turned.2.2 twin.2.2 := by
  cases operation with
  | start key plainRsa =>
      have hfree := h.still (unboundState_still signature world) (unboundState_still signature other)
      obtain ⟨houtcome, hnext⟩ := resetOutcome_alike hfree
      obtain ⟨found, rfl, -⟩ := Key.ownedBy_iff.mp (hoffered key rfl)
      simp only [turn_start_software, houtcome]
      cases signature.resetOutcome (boundary id) (signature.unboundState (boundary id) world) with
      | error failure =>
          exact ⟨rfl, rfl, hnext.still (release_still _ _) (release_still _ _)⟩
      | ok =>
          simp only
          split
          · exact ⟨rfl, rfl, hnext⟩
          · exact ⟨rfl, rfl, hnext.still (release_still _ _) (release_still _ _)⟩
  | update buffer span =>
      obtain ⟨hreply, hnext⟩ := h.change (.inl ⟨span.cut buffer, rfl⟩)
      rw [turn_update, turn_update]
      split
      · simp only [hreply]
        exact ⟨trivial, trivial, hnext⟩
      · exact ⟨rfl, rfl, h⟩
  | sign =>
      obtain ⟨engine, hengine⟩ := h.first
      obtain ⟨twin, htwin⟩ := h.second
      obtain ⟨houtcome, hnext⟩ := resetOutcome_alike h
      simp only [turn_sign, checkedState_of_owned howned, reaches_of_owned howned world other]
      split
      next hreaches =>
        obtain ⟨key, hkey, hid, hshown⟩ := key_of_reaches howned hreaches
        have hreply : (boundary id).replyTo (signature.signCall key.handle) other =
            (boundary id).replyTo (signature.signCall key.handle) world :=
          h.sign hid (hmaterial key hkey) signature.plainRsa
        rw [hshown, hshown, behind_judging hengine rfl, behind_judging htwin rfl, hreply, houtcome]
        exact ⟨rfl, rfl, hnext⟩
      next => exact ⟨rfl, rfl, h⟩
  | verify candidate =>
      obtain ⟨engine, hengine⟩ := h.first
      obtain ⟨twin, htwin⟩ := h.second
      obtain ⟨houtcome, hnext⟩ := resetOutcome_alike h
      simp only [turn_verify, checkedState_of_owned howned, reaches_of_owned howned world other]
      split
      next hreaches =>
        obtain ⟨key, hkey, hid, hshown⟩ := key_of_reaches howned hreaches
        have hreply : (boundary id).replyTo (signature.verifyCall candidate key.handle) other =
            (boundary id).replyTo (signature.verifyCall candidate key.handle) world :=
          h.verify hid (hmaterial key hkey) candidate
        rw [hshown, hshown, behind_judging hengine rfl, behind_judging htwin rfl, hreply, houtcome]
        exact ⟨rfl, rfl, hnext⟩
      next => exact ⟨rfl, rfl, h⟩

/-- A signature is bound to what it was bound to, or to what it is handed. -/
theorem turn_owned (howned : signature.Owned id) {operation : Operation Key}
    (hoffered : ∀ key, operation.offered = some key → key.ownedBy id = true) (world : World) :
    (signature.turn (boundary id) operation world).2.1.Owned id := by
  cases hstart : operation.isStart with
  | false => rwa [turn_signature (boundary id) signature hstart]
  | true =>
      cases operation with
      | start key plainRsa =>
          obtain ⟨-, -, hnext⟩ | ⟨-, -, hnext⟩ :=
            turn_start_cases (boundary id) signature key plainRsa world
          · rw [hnext]
            rintro _ ⟨⟩
            exact hoffered key rfl
          · rw [hnext]
            intro key hkey
            cases hkey
      | _ => cases hstart

/-! ### A turn of another signature -/

/-- A turn on another digest. -/
theorem turn_elsewhere (hengine : world.softwareEngine? id = some engine)
    (signature : Signature Key) {digest : Digest}
    (hother : digest.handle ≠ signature.digest.handle) (operation : Operation Key) :
    Alike id digest world (signature.turn (boundary id) operation world).2.2 := by
  have hrefl := alike_refl digest hengine
  -- what is reached without a change of the digest, and the change of the other one behind it
  have hstill {next : World} (h : Still id world next) : Alike id digest world next :=
    h.alike digest hengine
  have hchanged {next : World} (h : Alike id digest world next) {call : NativeCall}
      (hcall : (∃ data, call =
          .digestUpdate signature.digest.context signature.digest.handle data) ∨
        call = signature.resetCall) :
      Alike id digest world ((boundary id).behind call next) := by
    obtain ⟨twin, htwin⟩ := h.second
    exact h.trans (change_alike htwin hother hcall)
  have hreleased {next : World} (h : Alike id digest world next) (key : Key) :
      Alike id digest world (next.release key) := by
    obtain ⟨twin, htwin⟩ := h.second
    exact h.trans ((release_still next key).alike digest htwin)
  have hread {next : World} (h : Alike id digest world next) (key : Key) :
      Alike id digest world (next.readHandle key).2 := by
    obtain ⟨twin, htwin⟩ := h.second
    exact h.trans ((readHandle_still next key).alike digest htwin)
  have hchecked := hstill (checkedState_still signature world)
  have hjudged {call : NativeCall} (hcall : call.judges = true) :
      Alike id digest world ((boundary id).behind signature.resetCall
        ((boundary id).behind call (signature.checkedState (boundary id) world))) := by
    obtain ⟨checked, hfound⟩ := hchecked.second
    rw [behind_judging hfound hcall]
    exact hchanged hchecked (.inr rfl)
  cases operation with
  | start key plainRsa =>
      have hreset := hchanged (hstill (unboundState_still signature world)) (.inr rfl)
      rw [turn_start]
      simp only
      split
      · exact hreleased hreset key
      · split
        · exact hread hreset key
        · exact hreleased (hread hreset key) key
  | update buffer span =>
      rw [turn_update]
      split
      · exact hchanged hrefl (.inl ⟨_, rfl⟩)
      · exact hrefl
  | sign =>
      rw [turn_sign]
      simp only
      split
      · exact hjudged rfl
      · exact hchecked
  | verify candidate =>
      rw [turn_verify]
      simp only
      split
      · exact hjudged rfl
      · exact hchecked

end Signature

/-- A turn hands references on: the one it is handed is bound or given back, as is the one that was
bound. -/
theorem World.Custody.turn {id : EngineId} {unfreed : List (KeyHandle × Software.KeyMaterial)}
    {references : List Key} {world : World} {signature : Signature Key}
    {operation : Signature.Operation Key}
    (h : Custody id unfreed
      (signature.key.toList ++ (operation.offered.toList ++ references)) world)
    (other : EngineId) :
    let done := signature.turn (boundary other) operation world
    Custody id unfreed (done.2.1.key.toList ++ references) done.2.2 := by
  have hcalled := boundary_steady id other
  cases operation with
  | start key plainRsa => exact h.start other plainRsa
  | update buffer span =>
      exact h.steady (Signature.update_along hcalled trivial buffer span { state := world })
  | sign => exact h.steady (Signature.sign_along hcalled trivial { state := world })
  | verify candidate =>
      exact h.steady (Signature.verify_along hcalled trivial candidate { state := world })

end SigningEngine
