import SigningEngine.Proofs.World
import SigningEngine.Session.Run

/-!
# Who feeds which digest

A digest of an engine is kept by the object that created it, in a digest slot or in a signature
slot. A step has to do with one such place at most. What it puts there, if anything new, has a
digest with a handle that was issued during the step. So no two objects share a digest of a
software engine, as long as its handles are not used up.

The main statement is `Apart.of_evolves`.
-/

namespace SigningEngine.Session

/-- A slot whose object keeps a digest. -/
inductive Place where
  | digest (name : String)
  | signature (name : String)
  deriving DecidableEq

/-- The engine and the handle of the digest that the object in a place keeps. -/
def held (session : Session) : Place → Option (EngineId × DigestHandle)
  | .digest name =>
    (session.digests.find? name).map fun opened => (opened.engine, opened.digest.handle)
  | .signature name =>
    (session.signatures.find? name).map fun opened =>
      (opened.engine, opened.signature.digest.handle)

theorem held_signature {session : Session} {name : String} {opened : OpenSignature}
    (h : session.signatures.find? name = some opened) :
    session.held (.signature name) = some (opened.engine, opened.signature.digest.handle) := by
  rw [held, h]
  rfl

/-- No two places keep the same digest of a software engine. -/
structure Apart (session : Session) : Prop where
  known {place : Place} {id : EngineId} {digest : DigestHandle} :
    session.held place = some (id, digest) → id < session.world.engines.size
  issued {place : Place} {id : EngineId} {digest : DigestHandle} {engine : Software.Engine} :
    session.held place = some (id, digest) → session.world.softwareEngine? id = some engine →
      digest.raw.toNat ≤ engine.issued
  distinct {place other : Place} {id : EngineId} {digest : DigestHandle}
      {engine : Software.Engine} :
    session.held place = some (id, digest) → session.held other = some (id, digest) →
      session.world.softwareEngine? id = some engine → engine.issued < UInt64.size →
        place = other

/-- The handle of a digest was issued between two states. -/
structure Fresh (world next : World) (id : EngineId) (digest : DigestHandle) : Prop where
  known : id < next.engines.size
  issued {engine : Software.Engine} :
    next.softwareEngine? id = some engine → digest.raw.toNat ≤ engine.issued
  unused {engine later : Software.Engine} :
    world.softwareEngine? id = some engine → next.softwareEngine? id = some later →
      later.issued < UInt64.size → engine.issued < digest.raw.toNat

/-- What becomes of a session where digests are altered only as said, and only this place, if any,
gets another object. -/
structure Evolves (altered : EngineId → DigestHandle → Prop) (place : Option Place)
    (session next : Session) : Prop where
  world : session.world.Evolves altered next.world
  digests {name : String} :
    place ≠ some (.digest name) → next.digests.find? name = session.digests.find? name
  signatures {name : String} :
    place ≠ some (.signature name) → next.signatures.find? name = session.signatures.find? name
  here {changed : Place} {id : EngineId} {digest : DigestHandle} :
    place = some changed → next.held changed = some (id, digest) →
      session.held changed = some (id, digest) ∨ Fresh session.world next.world id digest

variable {altered : EngineId → DigestHandle → Prop} {place : Option Place}
variable {session next : Session}

theorem Fresh.later {world middle last : World} {id : EngineId} {digest : DigestHandle}
    (h : Fresh world middle id digest) (hlast : middle.Evolves altered last) :
    Fresh world last id digest where
  known := Nat.lt_of_lt_of_le h.known hlast.size_le
  issued hengine := by
    obtain ⟨before, hbefore, hevolves⟩ := hlast.software_before h.known hengine
    exact Nat.le_trans (h.issued hbefore) hevolves.issued
  unused hengine hlater hsmall := by
    obtain ⟨before, hbefore, hevolves⟩ := hlast.software_before h.known hlater
    exact h.unused hengine hbefore (Nat.lt_of_le_of_lt hevolves.issued hsmall)

theorem Fresh.earlier {world middle last : World} {id : EngineId} {digest : DigestHandle}
    (h : Fresh middle last id digest) (hfirst : world.Evolves altered middle) :
    Fresh world last id digest where
  known := h.known
  issued := h.issued
  unused hengine hlater hsmall := by
    obtain ⟨found, hfound, hevolves⟩ := hfirst.software hengine
    exact Nat.lt_of_le_of_lt hevolves.issued (h.unused hfound hlater hsmall)

theorem evolves_lasting : Lasting (Evolves altered place) where
  refl session := ⟨.refl session.world, fun _ => rfl, fun _ => rfl, fun _ => .inl⟩
  trans first second :=
    { world := first.world.trans second.world
      digests := fun h => (second.digests h).trans (first.digests h)
      signatures := fun h => (second.signatures h).trans (first.signatures h)
      here := by
        intro changed id digest hplace hheld
        rcases second.here hplace hheld with hmiddle | hfresh
        · exact (first.here hplace hmiddle).imp_right fun hfresh => hfresh.later second.world
        · exact .inr (hfresh.earlier first.world) }

theorem Evolves.elsewhere (h : session.Evolves altered place next) {other : Place}
    (hother : place ≠ some other) : next.held other = session.held other := by
  cases other with
  | digest name => rw [held, held, h.digests hother]
  | signature name => rw [held, held, h.signatures hother]

/-- What is held is what was held there before, or it is new and held in the place of the step. -/
theorem Evolves.origin (h : session.Evolves altered place next) {other : Place} {id : EngineId}
    {digest : DigestHandle} (hheld : next.held other = some (id, digest)) :
    session.held other = some (id, digest) ∨
      (place = some other ∧ Fresh session.world next.world id digest) := by
  by_cases hother : place = some other
  · exact (h.here hother hheld).imp_right fun hfresh => ⟨hother, hfresh⟩
  · exact .inl (h.elsewhere hother ▸ hheld)

theorem held_empty (place : Place) : ({} : Session).held place = none := by
  cases place <;> rfl

theorem apart_empty : Apart {} where
  known hheld := by cases (held_empty _).symm.trans hheld
  issued hheld := by cases (held_empty _).symm.trans hheld
  distinct hheld := by cases (held_empty _).symm.trans hheld

/-- A handle that was held before is none that was issued since. -/
theorem Apart.not_fresh (hapart : Apart session) (h : session.world.Evolves altered next.world)
    {place : Place} {id : EngineId} {digest : DigestHandle} {later : Software.Engine}
    (hheld : session.held place = some (id, digest))
    (hlater : next.world.softwareEngine? id = some later)
    (hsmall : later.issued < UInt64.size) : ¬ Fresh session.world next.world id digest := by
  intro hfresh
  obtain ⟨engine, hengine, -⟩ := h.software_before (hapart.known hheld) hlater
  have hold := hapart.issued hheld hengine
  have hnew := hfresh.unused hengine hlater hsmall
  omega

theorem Apart.of_evolves (hapart : Apart session) (h : session.Evolves altered place next) :
    Apart next where
  known hheld := by
    rcases h.origin hheld with hold | ⟨-, hfresh⟩
    · exact Nat.lt_of_lt_of_le (hapart.known hold) h.world.size_le
    · exact hfresh.known
  issued hheld hlater := by
    rcases h.origin hheld with hold | ⟨-, hfresh⟩
    · obtain ⟨engine, hengine, hevolves⟩ := h.world.software_before (hapart.known hold) hlater
      exact Nat.le_trans (hapart.issued hold hengine) hevolves.issued
    · exact hfresh.issued hlater
  distinct hfirst hsecond hlater hsmall := by
    rcases h.origin hfirst with hold | ⟨hplace, hfresh⟩
    · rcases h.origin hsecond with hother | ⟨-, hfresh⟩
      · obtain ⟨engine, hengine, hevolves⟩ := h.world.software_before (hapart.known hold) hlater
        exact hapart.distinct hold hother hengine (Nat.lt_of_le_of_lt hevolves.issued hsmall)
      · exact (hapart.not_fresh h.world hold hlater hsmall hfresh).elim
    · rcases h.origin hsecond with hother | ⟨hsame, -⟩
      · exact (hapart.not_fresh h.world hother hlater hsmall hfresh).elim
      · exact Option.some.inj (hplace.symm.trans hsame)

/-- No two signatures keep the same digest of an engine. -/
theorem Apart.signatures_ne (h : Apart session) {id : EngineId} {engine : Software.Engine}
    (hengine : session.world.softwareEngine? id = some engine)
    (hissued : engine.issued < UInt64.size) {first second : String} {opened other : OpenSignature}
    (hfirst : session.signatures.find? first = some opened)
    (hsecond : session.signatures.find? second = some other) (hid : opened.engine = id)
    (hother : other.engine = id)
    (hsame : opened.signature.digest.handle = other.signature.digest.handle) : first = second := by
  have hheld := held_signature hfirst
  have hheldOther := held_signature hsecond
  rw [hid] at hheld
  rw [hother, ← hsame] at hheldOther
  exact Place.signature.inj (h.distinct hheld hheldOther hengine hissued)

end SigningEngine.Session
