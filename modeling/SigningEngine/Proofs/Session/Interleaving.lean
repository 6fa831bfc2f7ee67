import SigningEngine.Proofs.Session.KeptKeys
import SigningEngine.Proofs.Signature.Isolation

/-!
# Signatures that take turns

Signatures in slots carry out operations in the order of a schedule. A start takes over the
reference in a slot of keys, so the reference that is given back when the signature is bound again
may be the last one to its key.

Each signature gives what it gives alone: the others leave its share of the engine, and they cannot
give back a reference that is not theirs, so the material of its key is there as long as the
signature is bound. The main statement is `turns_undisturbed`.
-/

namespace SigningEngine.Session

open Signature (Operation Turn)
open Software (KeyMaterial)

variable {id : EngineId} {session next : Session} {slot : String}

/-! ### Turns by a schedule -/

/-- An operation with the key in the slot that it names, and the slots of keys without it. -/
def handOver (keys : Table String Key) :
    Operation String → Option (Operation Key × Table String Key)
  | .start name plainRsa =>
    (keys.find? name).map fun key => (.start key plainRsa, keys.erase name)
  | .update buffer span => some (.update buffer span, keys)
  | .sign => some (.sign, keys)
  | .verify candidate => some (.verify candidate, keys)

/-- The turn of a signature in a slot, and the session behind it. -/
def turned (session : Session) (slot : String) (opened : OpenSignature) (given : Operation Key)
    (keys : Table String Key) : Turn Key × Session :=
  let (turn, signature, world) :=
    opened.signature.turn (World.boundary opened.engine) given session.world
  (turn, { session with
    world, keys, signatures := session.signatures.insert slot { opened with signature } })

/-- The turn of what is in a slot, if there is a signature and the key for it is there. -/
def turn (session : Session) (slot : String) (operation : Operation String) :
    Option (Turn Key × Session) := do
  let opened ← session.signatures.find? slot
  let (given, keys) ← handOver session.keys operation
  return session.turned slot opened given keys

abbrev Schedule := List (String × Operation String)

/-- Signatures have their turns in order, as long as the process does not end. -/
def serve (session : Session) : Schedule → List (String × Turn Key) × Session
  | [] => ([], session)
  | (slot, operation) :: rest =>
    match session.turn slot operation with
    | none => session.serve rest
    | some (turn, next) =>
      if turn.aborts then ([(slot, turn)], next)
      else
        let (others, last) := next.serve rest
        ((slot, turn) :: others, last)

namespace Schedule

/-- The slots of the keys that are bound. -/
def keySlots (schedule : Schedule) : List String :=
  schedule.filterMap fun entry => entry.2.offered

/-- What one signature is asked for. -/
def only (slot : String) (schedule : Schedule) : Schedule := schedule.filter (·.1 = slot)

theorem keySlots_cons (slot : String) (operation : Operation String) (rest : Schedule) :
    keySlots ((slot, operation) :: rest) = operation.offered.toList ++ keySlots rest := by
  rw [keySlots, List.filterMap_cons]
  cases operation.offered <;> rfl

theorem keySlots_of_offered {slot name : String} {operation : Operation String} {rest : Schedule}
    (h : operation.offered = some name) : name ∈ keySlots ((slot, operation) :: rest) := by
  rw [keySlots_cons, h]
  exact List.mem_cons_self

end Schedule

/-- A schedule can be followed over an engine: every signature is there and bound to no key but one
of the engine, and for each start a reference to such a key is held. -/
structure Ready (id : EngineId) (schedule : Schedule) (session : Session) : Prop where
  signature {slot : String} {operation : Operation String} : (slot, operation) ∈ schedule →
    ∃ opened, session.signatures.find? slot = some opened ∧ opened.engine = id ∧
      opened.signature.Owned id
  key {name : String} : name ∈ schedule.keySlots →
    ∃ key, session.keys.find? name = some key ∧ key.ownedBy id = true
  keySlots_nodup : schedule.keySlots.Nodup

/-! ### What a turn is handed -/

/-- The signature in a slot, and the operation on it with the key that it is handed. -/
structure Handed (id : EngineId) (session : Session) (slot : String) (operation : Operation String)
    (opened : OpenSignature) (given : Operation Key) (keys : Table String Key) : Prop where
  found : session.signatures.find? slot = some opened
  engine : opened.engine = id
  bound : opened.signature.Owned id
  taken : handOver session.keys operation = some (given, keys)
  owned (key : Key) : given.offered = some key → key.ownedBy id = true
  references : (given.offered.toList ++ keys.values).Perm session.keys.values
  others (name : String) : operation.offered ≠ some name → keys.find? name = session.keys.find? name

/-- The key of a start leaves its slot, and the other slots stay. -/
theorem handOver_of_owned {keys : Table String Key} {operation : Operation String}
    (h : ∀ name, operation.offered = some name →
      ∃ key, keys.find? name = some key ∧ key.ownedBy id = true) :
    ∃ given left, handOver keys operation = some (given, left) ∧
      (∀ key, given.offered = some key → key.ownedBy id = true) ∧
      (given.offered.toList ++ left.values).Perm keys.values ∧
      ∀ name, operation.offered ≠ some name → left.find? name = keys.find? name := by
  cases operation with
  | start name plainRsa =>
      obtain ⟨key, hkey, howned⟩ := h name rfl
      have hperm := keys.values_perm_erase name
      rw [hkey] at hperm
      refine ⟨.start key plainRsa, keys.erase name, by rw [handOver, hkey]; rfl, ?_, hperm, ?_⟩
      · rintro _ ⟨⟩
        exact howned
      · intro other hother
        exact keys.find?_erase_of_ne fun hsame => hother (hsame ▸ rfl)
  | _ =>
      refine ⟨_, _, rfl, ?_, List.Perm.refl _, fun _ _ => rfl⟩
      intro key hkey
      cases hkey

theorem handOver_given_eq {keys others left leftOther : Table String Key}
    {operation : Operation String} {given givenOther : Operation Key}
    (h : handOver keys operation = some (given, left))
    (hother : handOver others operation = some (givenOther, leftOther))
    (hsame : ∀ name, operation.offered = some name → others.find? name = keys.find? name) :
    givenOther = given := by
  cases operation with
  | start name plainRsa =>
      obtain ⟨key, hkey, hgiven⟩ := Option.map_eq_some_iff.mp h
      obtain ⟨found, hfound, hgivenOther⟩ := Option.map_eq_some_iff.mp hother
      rw [hsame name rfl, hkey, Option.some.injEq] at hfound
      subst hfound
      exact (Prod.mk.inj hgivenOther).1.symm.trans (Prod.mk.inj hgiven).1
  | _ =>
      cases h
      cases hother
      rfl

variable {opened : OpenSignature} {operation : Operation String} {given : Operation Key}
variable {keys : Table String Key}

theorem Handed.turn_eq (h : Handed id session slot operation opened given keys) :
    session.turn slot operation = some (session.turned slot opened given keys) := by
  rw [turn, h.found]
  simp only [Option.bind_eq_bind, Option.bind_some, h.taken]
  rfl

theorem turned_signatures (session : Session) (slot : String) (opened : OpenSignature)
    (given : Operation Key) (keys : Table String Key) :
    (session.turned slot opened given keys).2.signatures =
      session.signatures.insert slot { opened with
        signature := (opened.signature.turn (World.boundary opened.engine) given
          session.world).2.1 } := rfl

/-! ### What stays in order -/

/-- A schedule can be followed, references are answered for, and no two signatures share a digest of
the engine. -/
structure Standing (id : EngineId) (unfreed : List (KeyHandle × KeyMaterial)) (schedule : Schedule)
    (session : Session) : Prop extends Ready id schedule session where
  keeping : Keeping id unfreed [] session
  engine : ∃ engine, session.world.softwareEngine? id = some engine
  apart {first second : String} {opened other : OpenSignature} :
    session.signatures.find? first = some opened → session.signatures.find? second = some other →
      opened.engine = id → other.engine = id →
        opened.signature.digest.handle = other.signature.digest.handle → first = second

variable {unfreed : List (KeyHandle × KeyMaterial)} {schedule rest : Schedule}

theorem Ready.only (h : Ready id schedule session) (slot : String) :
    Ready id (schedule.only slot) session where
  signature hmem := h.signature (List.mem_filter.mp hmem |>.1)
  key hmem := h.key (List.filter_sublist.filterMap _ |>.mem hmem)
  keySlots_nodup := h.keySlots_nodup.sublist (List.filter_sublist.filterMap _)

theorem Ready.offered_ne (h : Ready id ((slot, operation) :: rest) session) {name : String}
    (hname : name ∈ rest.keySlots) : operation.offered ≠ some name := by
  intro hsame
  have hnodup := h.keySlots_nodup
  rw [Schedule.keySlots_cons, hsame] at hnodup
  exact (List.nodup_cons.mp hnodup).1 hname

theorem Ready.handed (h : Ready id ((slot, operation) :: rest) session) :
    ∃ opened given keys, Handed id session slot operation opened given keys := by
  obtain ⟨opened, hopened, hid, howned⟩ := h.signature List.mem_cons_self
  have hkey (name : String) (hname : operation.offered = some name) :
      ∃ key, session.keys.find? name = some key ∧ key.ownedBy id = true :=
    h.key (Schedule.keySlots_of_offered hname)
  obtain ⟨given, keys, hgiven, hoffered, hperm, hothers⟩ := handOver_of_owned hkey
  exact ⟨opened, given, keys, hopened, hid, howned, hgiven, hoffered, hperm, hothers⟩

theorem Ready.turned (h : Ready id ((slot, operation) :: rest) session)
    (hhanded : Handed id session slot operation opened given keys) :
    Ready id rest (session.turned slot opened given keys).2 where
  signature {name _} hmem := by
    by_cases hsame : name = slot
    · subst hsame
      refine ⟨_, Table.find?_insert_self _ _ _, hhanded.engine, ?_⟩
      obtain rfl := hhanded.engine
      exact Signature.turn_owned hhanded.bound hhanded.owned session.world
    · obtain ⟨other, hother, hof⟩ := h.signature (List.mem_cons_of_mem _ hmem)
      exact ⟨other, (Table.find?_insert_of_ne _ _ hsame).trans hother, hof⟩
  key hmem := by
    obtain ⟨key, hkey, howned⟩ := h.key (by
      rw [Schedule.keySlots_cons]
      exact List.mem_append_right _ hmem)
    exact ⟨key, (hhanded.others _ (h.offered_ne hmem)).trans hkey, howned⟩
  keySlots_nodup := by
    have hnodup := h.keySlots_nodup
    rw [Schedule.keySlots_cons] at hnodup
    exact hnodup.sublist (List.sublist_append_right _ _)

/-- References are handed on. -/
theorem Keeping.turned (h : Keeping id unfreed [] session)
    (hhanded : Handed id session slot operation opened given keys) :
    Keeping id unfreed [] (session.turned slot opened given keys).2 := by
  let done := opened.signature.turn (World.boundary opened.engine) given session.world
  have htaken := (Keeping.exchangeKeys [] h hhanded.references).eraseSignature slot
  have hfound : ({ session with keys } : Session).signatures.find? slot = some opened :=
    hhanded.found
  rw [hfound, Option.toList_some, List.flatMap_singleton, List.append_nil, Keeping,
    List.append_assoc] at htaken
  let left : Session := { session with world := done.2.2, keys }
  have hdone : Keeping id unfreed (({ opened with signature := done.2.1 } : OpenSignature).bound ++ [])
      { left with signatures := left.signatures.erase slot } := by
    rw [List.append_nil]
    exact World.Custody.turn htaken opened.engine
  exact hdone.insertErased

/-- Every signature keeps its engine and its digest. -/
theorem turned_origin (hfound : session.signatures.find? slot = some opened) {name : String}
    {other : OpenSignature}
    (hother : (session.turned slot opened given keys).2.signatures.find? name = some other) :
    ∃ before, session.signatures.find? name = some before ∧ before.engine = other.engine ∧
      before.signature.digest = other.signature.digest := by
  by_cases hsame : name = slot
  · subst hsame
    obtain rfl := Option.some.inj ((Table.find?_insert_self _ _ _).symm.trans hother)
    exact ⟨opened, hfound, rfl, (Signature.turn_digest _ _ _ _).symm⟩
  · exact ⟨other, (Table.find?_insert_of_ne _ _ hsame).symm.trans hother, rfl, rfl⟩

theorem Standing.turned (h : Standing id unfreed ((slot, operation) :: rest) session)
    (hhanded : Handed id session slot operation opened given keys) :
    Standing id unfreed rest (session.turned slot opened given keys).2 where
  toReady := h.toReady.turned hhanded
  keeping := h.keeping.turned hhanded
  engine := by
    obtain rfl := hhanded.engine
    obtain ⟨engine, hengine⟩ := h.engine
    obtain ⟨-, -, later, -, hlater, -⟩ := Signature.turn_alike
      (World.alike_refl opened.signature.digest hengine) hhanded.bound (fun _ _ => rfl)
      hhanded.owned
    exact ⟨later, hlater⟩
  apart hfirst hsecond hengine hother hsame := by
    obtain ⟨first, hfirst, hfirstEngine, hfirstDigest⟩ := turned_origin hhanded.found hfirst
    obtain ⟨second, hsecond, hsecondEngine, hsecondDigest⟩ := turned_origin hhanded.found hsecond
    refine h.apart hfirst hsecond (hfirstEngine.trans hengine) (hsecondEngine.trans hother) ?_
    rw [hfirstDigest, hsecondDigest, hsame]

theorem Standing.not_aborts (h : Standing id unfreed schedule session)
    (hhanded : Handed id session slot operation opened given keys) :
    (session.turned slot opened given keys).1.aborts = false := by
  obtain rfl := hhanded.engine
  obtain ⟨engine, hengine⟩ := h.engine
  exact Signature.turn_aborts_eq_false hengine _ _

/-- The material of a bound key is what was generated, unless the key was freed. -/
theorem Standing.materialOf_eq_some (h : Standing id unfreed schedule session)
    (hopened : session.signatures.find? slot = some opened) {key : SoftwareKey}
    (hkey : opened.signature.key = some (.software key)) (hid : key.engine = id)
    (material : KeyMaterial) :
    session.world.materialOf key = some material ↔ (key.handle, material) ∈ unfreed := by
  obtain ⟨engine, hengine⟩ := h.engine
  have hheld : World.Referenced id key.handle ([] ++ session.heldKeys) := by
    refine ⟨.software key, List.mem_append_right _ ?_, Key.isOf_software.mpr ⟨hid, rfl⟩⟩
    refine List.mem_append_right _ (List.mem_flatMap.mpr ⟨opened, ?_, ?_⟩)
    · exact Table.mem_values_iff.mpr ⟨slot, hopened⟩
    · rw [OpenSignature.bound, hkey]
      exact List.mem_cons_self
  rw [World.materialOf, hid, hengine, Option.bind_some, World.Custody.material h.keeping hengine,
    and_iff_left hheld]

/-! ### One signature in two sessions -/

/-- The signature in a slot is the same in two sessions, and so are the keys that it is still to be
bound to. -/
structure Agree (id : EngineId) (slot : String) (digest : Digest) (names : List String)
    (session other : Session) : Prop where
  signature : ∃ opened, session.signatures.find? slot = some opened ∧
    other.signatures.find? slot = some opened ∧ opened.engine = id ∧
    opened.signature.digest = digest
  alike : World.Alike id digest session.world other.world
  keys {name : String} : name ∈ names → other.keys.find? name = session.keys.find? name

variable {other : Session} {digest : Digest}

/-- The signature has its turn in both. -/
theorem Agree.own {otherRest : Schedule}
    (h : Agree id slot digest (Schedule.keySlots ((slot, operation) :: otherRest)) session other)
    (hsession : Standing id unfreed ((slot, operation) :: rest) session)
    (hother : Standing id unfreed ((slot, operation) :: otherRest) other) :
    ∃ turn next twin, session.turn slot operation = some (turn, next) ∧
      other.turn slot operation = some (turn, twin) ∧ turn.aborts = false ∧
      Standing id unfreed rest next ∧ Standing id unfreed otherRest twin ∧
      Agree id slot digest otherRest.keySlots next twin := by
  obtain ⟨opened, given, keys, hhanded⟩ := hsession.toReady.handed
  obtain ⟨openedOther, givenOther, keysOther, hhandedOther⟩ := hother.toReady.handed
  obtain ⟨found, hfound, hfoundOther, rfl, rfl⟩ := h.signature
  obtain rfl : opened = found := Option.some.inj (hhanded.found.symm.trans hfound)
  obtain rfl : openedOther = opened := Option.some.inj (hhandedOther.found.symm.trans hfoundOther)
  obtain rfl : givenOther = given :=
    handOver_given_eq hhanded.taken hhandedOther.taken fun name hname =>
      h.keys (Schedule.keySlots_of_offered hname)
  have hmaterial (key : SoftwareKey) (hkey : openedOther.signature.key = some (.software key)) :
      other.world.materialOf key = session.world.materialOf key := by
    obtain ⟨found, hsame, hid⟩ := Key.ownedBy_iff.mp (hhanded.bound _ hkey)
    obtain rfl := Key.software.inj hsame
    refine Option.ext fun material => ?_
    rw [hother.materialOf_eq_some hhandedOther.found hkey hid,
      hsession.materialOf_eq_some hhanded.found hkey hid]
  obtain ⟨hturn, hsignature, hworld⟩ :=
    Signature.turn_alike h.alike hhanded.bound hmaterial hhanded.owned
  have hturned : (other.turned slot openedOther givenOther keysOther).1 =
      (session.turned slot openedOther givenOther keys).1 := hturn
  have htwin : other.turn slot operation =
      some ((session.turned slot openedOther givenOther keys).1,
        (other.turned slot openedOther givenOther keysOther).2) :=
    hhandedOther.turn_eq.trans (congrArg some (Prod.ext hturned rfl))
  refine ⟨(session.turned slot openedOther givenOther keys).1,
    (session.turned slot openedOther givenOther keys).2,
    (other.turned slot openedOther givenOther keysOther).2, hhanded.turn_eq, htwin,
    hsession.not_aborts hhanded, hsession.turned hhanded, hother.turned hhandedOther, ?_⟩
  exact
    { signature := by
        refine ⟨_, Table.find?_insert_self _ _ _, ?_, rfl, Signature.turn_digest _ _ _ _⟩
        rw [turned_signatures, Table.find?_insert_self, hsignature]
        rfl
      alike := hworld
      keys := fun {name} hname => by
        have hleft := hother.toReady.offered_ne hname
        refine (hhandedOther.others name hleft).trans ((h.keys ?_).trans
          (hhanded.others name hleft).symm)
        rw [Schedule.keySlots_cons]
        exact List.mem_append_right _ hname }

/-- Another signature has its turn in one of them. -/
theorem Agree.elsewhere {names : List String} {name : String}
    (h : Agree id slot digest names session other) (hname : name ≠ slot)
    (hsession : Standing id unfreed ((name, operation) :: rest) session)
    (hnames : ∀ found ∈ names, operation.offered ≠ some found) :
    ∃ turn next, session.turn name operation = some (turn, next) ∧ turn.aborts = false ∧
      Standing id unfreed rest next ∧ Agree id slot digest names next other := by
  obtain ⟨opened, given, keys, hhanded⟩ := hsession.toReady.handed
  obtain ⟨engine, hengine⟩ := hsession.engine
  obtain ⟨watched, hwatched, hother, rfl, rfl⟩ := h.signature
  have hapart : watched.signature.digest.handle ≠ opened.signature.digest.handle := fun hsame =>
    hname (hsession.apart hwatched hhanded.found rfl hhanded.engine hsame).symm
  have hworld := Signature.turn_elsewhere hengine opened.signature hapart given
  refine ⟨(session.turned name opened given keys).1, (session.turned name opened given keys).2,
    hhanded.turn_eq, hsession.not_aborts hhanded, hsession.turned hhanded, ?_⟩
  rw [← hhanded.engine] at hworld h ⊢
  exact
    { signature :=
        ⟨watched, (Table.find?_insert_of_ne _ _ (Ne.symm hname)).trans hwatched, hother,
          hhanded.engine.symm, rfl⟩
      alike := hworld.symm.trans h.alike
      keys := fun {found} hfound =>
        (h.keys hfound).trans (hhanded.others found (hnames found hfound)).symm }

/-! ### A whole schedule -/

/-- The turns of a signature in a schedule are those that it has alone. -/
theorem serve_agree (schedule : Schedule) {session other : Session}
    (hsession : Standing id unfreed schedule session)
    (hother : Standing id unfreed (schedule.only slot) other)
    (hagree : Agree id slot digest (schedule.only slot).keySlots session other) :
    let whole := session.serve schedule
    let alone := other.serve (schedule.only slot)
    whole.1.map Prod.fst = schedule.map Prod.fst ∧ whole.1.filter (·.1 = slot) = alone.1 ∧
      Agree id slot digest [] whole.2 alone.2 := by
  induction schedule generalizing session other with
  | nil => exact ⟨rfl, rfl, hagree⟩
  | cons entry rest ih =>
      obtain ⟨name, operation⟩ := entry
      by_cases hname : name = slot
      · subst hname
        have honly : Schedule.only name ((name, operation) :: rest) =
            (name, operation) :: Schedule.only name rest := List.filter_cons_of_pos (by simp)
        rw [honly] at hother hagree ⊢
        obtain ⟨turn, next, twin, hnext, htwin, haborts, hlater, hlaterTwin, hlaterAgree⟩ :=
          hagree.own hsession hother
        obtain ⟨hslots, hturns, hlast⟩ := ih hlater hlaterTwin hlaterAgree
        simp only [serve, hnext, htwin, haborts, Bool.false_eq_true, if_false, List.map_cons,
          List.filter_cons_of_pos, decide_true]
        exact ⟨congrArg _ hslots, congrArg _ hturns, hlast⟩
      · have honly : Schedule.only slot ((name, operation) :: rest) = Schedule.only slot rest :=
          List.filter_cons_of_neg (by simpa using hname)
        rw [honly] at hother hagree ⊢
        have hnames (found : String) (hfound : found ∈ (Schedule.only slot rest).keySlots) :
            operation.offered ≠ some found :=
          hsession.toReady.offered_ne ((List.filter_sublist.filterMap _).mem hfound)
        obtain ⟨turn, next, hnext, haborts, hlater, hlaterAgree⟩ :=
          hagree.elsewhere hname hsession hnames
        obtain ⟨hslots, hturns, hlast⟩ := ih hlater hother hlaterAgree
        simp only [serve, hnext, haborts, Bool.false_eq_true, if_false, List.map_cons, hname,
          decide_false, not_false_eq_true, List.filter_cons_of_neg]
        exact ⟨congrArg _ hslots, hturns, hlast⟩

/-- Signatures over a software engine that take turns give what each of them gives alone, whatever
contexts, algorithms and keys they share, and each is left bound to the same key over a digest that
holds the same. -/
theorem turns_undisturbed (history : List Step) {engine : Software.Engine}
    (hengine : (({} : Session).after history).world.softwareEngine? id = some engine)
    (hissued : engine.issued < UInt64.size) {schedule : Schedule}
    (hready : Ready id schedule (({} : Session).after history)) {opened : OpenSignature}
    (hopened : (({} : Session).after history).signatures.find? slot = some opened)
    (hid : opened.engine = id) :
    let whole := (({} : Session).after history).serve schedule
    let alone := (({} : Session).after history).serve (schedule.only slot)
    whole.1.map Prod.fst = schedule.map Prod.fst ∧ whole.1.filter (·.1 = slot) = alone.1 ∧
      whole.2.signatures.find? slot = alone.2.signatures.find? slot ∧
      whole.2.world.accumulated id opened.signature.digest.handle =
        alone.2.world.accumulated id opened.signature.digest.handle := by
  have hcounted := Counted.of_engine hengine hissued
  have hstanding {schedule : Schedule} (hready : Ready id schedule (({} : Session).after history)) :
      Standing id (unfreedOver id {} [] history) schedule (({} : Session).after history) :=
    { hready with
      keeping := keeping_after history (keeping_empty id) hcounted
      engine := ⟨engine, hengine⟩
      apart := (apart_empty.after history).signatures_ne hengine hissued }
  obtain ⟨hslots, hturns, hlast⟩ := serve_agree schedule (hstanding hready)
    (hstanding (hready.only slot))
    { signature := ⟨opened, hopened, hopened, hid, rfl⟩
      alike := World.alike_refl opened.signature.digest hengine
      keys := fun _ => rfl }
  obtain ⟨last, hwhole, halone, -, -⟩ := hlast.signature
  exact ⟨hslots, hturns, hwhole.trans halone.symm, hlast.alike.accumulated_eq.symm⟩

/-- Two signatures and three references, two of them to the same key. -/
def twoSigners : List Step :=
  keyedSteps ++
    [.shareKey "key.private" "copy",
      .newSignature "first" "context" "SHA-256",
      .newSignature "second" "context" "SHA-512"]

/-- One signature is fed and signs, while the other gives back its reference to the key of both. -/
def rebinding : Schedule :=
  [("first", .start "key.private" false),
    ("second", .start "copy" true),
    ("first", .update [1, 2, 3] ⟨1, 2⟩),
    ("second", .update [9] ⟨0, 1⟩),
    ("second", .start "key.public" false),
    ("first", .sign)]

theorem turns_undisturbed_rebinding :
    ∃ engine opened,
      (({} : Session).after twoSigners).world.softwareEngine? 0 = some engine ∧
      (({} : Session).after twoSigners).signatures.find? "first" = some opened ∧
      let whole := (({} : Session).after twoSigners).serve rebinding
      let alone := (({} : Session).after twoSigners).serve (rebinding.only "first")
      whole.1.map Prod.fst = ["first", "second", "first", "second", "second", "first"] ∧
        whole.1.filter (·.1 = "first") = alone.1 ∧
        whole.2.signatures.find? "first" = alone.2.signatures.find? "first" ∧
        whole.2.world.accumulated 0 opened.signature.digest.handle =
          alone.2.world.accumulated 0 opened.signature.digest.handle := by
  have hissued :
      ((({} : Session).after twoSigners).world.softwareEngine? 0).map (·.issued) = some 5 := by
    decide +kernel
  have hsignatures : ∀ slot ∈ ["first", "second"],
      ((({} : Session).after twoSigners).signatures.find? slot).map
        (fun opened => (opened.engine, opened.signature.key)) = some (0, none) := by
    decide +kernel
  have hkeys : ∀ name ∈ rebinding.keySlots,
      ((({} : Session).after twoSigners).keys.find? name).map (·.ownedBy 0) = some true := by
    decide +kernel
  have hslots : ∀ entry ∈ rebinding, entry.1 ∈ ["first", "second"] := by
    decide +kernel
  have hopened {slot : String} (hslot : slot ∈ ["first", "second"]) :
      ∃ opened, (({} : Session).after twoSigners).signatures.find? slot = some opened ∧
        opened.engine = 0 ∧ opened.signature.Owned 0 := by
    obtain ⟨opened, hfound, hunbound⟩ := Option.map_eq_some_iff.mp (hsignatures slot hslot)
    obtain ⟨hid, hkey⟩ := Prod.mk.inj hunbound
    exact ⟨opened, hfound, hid, fun key hbound => by cases hkey.symm.trans hbound⟩
  have hready : Ready 0 rebinding (({} : Session).after twoSigners) :=
    { signature := fun hmem => hopened (hslots _ hmem)
      key := fun hname => Option.map_eq_some_iff.mp (hkeys _ hname)
      keySlots_nodup := by decide +kernel }
  obtain ⟨engine, hengine, hcount⟩ := Option.map_eq_some_iff.mp hissued
  obtain ⟨opened, hfound, hid, -⟩ := hopened (List.mem_cons_self (a := "first"))
  exact ⟨engine, opened, hengine, hfound,
    turns_undisturbed twoSigners hengine (by rw [hcount]; decide) hready hfound hid⟩

end SigningEngine.Session
