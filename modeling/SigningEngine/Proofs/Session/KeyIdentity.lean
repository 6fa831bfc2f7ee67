import SigningEngine.Proofs.Session.BoundKey
import SigningEngine.Proofs.Session.KeySlots

/-!
# Which generated key a slot refers to

A key is generated in a step, by an engine, as one half of a pair. Whoever holds it got it there, or
from a slot in which it was, so each software key in a slot goes back to one registration, which is
followed through the run here.

Keys are taken for the same by the numbers of their handles. An engine gives every key that it
generates a number of its own, as long as its handles are not used up; so of two keys of one engine
the numbers tell whether they are the same. Every engine counts from one, and the number does not
say which engine it belongs to: keys of different engines are taken for the same when their numbers
coincide.

The main statement is `keysEqual_iff`; `keysEqual_across_engines` is a run with two different keys
that are taken for the same.
-/

namespace SigningEngine.Session

open Software (KeyMaterial Halves)

/-- A key that was generated. -/
structure Registration where
  engine : EngineId
  /-- How many steps had been taken. -/
  time : Nat
  isPrivate : Bool
  material : KeyMaterial

namespace Registration

def ofPrivate (engine : EngineId) (time : Nat) (pair : Halves KeyMaterial) : Registration :=
  { engine, time, isPrivate := true, material := pair.privateKey }

def ofPublic (engine : EngineId) (time : Nat) (pair : Halves KeyMaterial) : Registration :=
  { engine, time, isPrivate := false, material := pair.publicKey }

end Registration

variable {session : Session}

/-! ### Following keys through the slots -/

/-- The halves of the pair that a step generates go to two slots. -/
def pairOrigins (session : Session) (time : Nat) (step : Step) (engine slot : String)
    (origins : Table String Registration) : Table String Registration :=
  match session.engines.find? engine with
  | none => origins
  | some id =>
    match session.pairFor id step with
    | none => origins
    | some pair =>
      (origins.insert (slot ++ ".private") (.ofPrivate id time pair)).insert (slot ++ ".public")
        (.ofPublic id time pair)

/-- Which registrations the slots refer to behind a step that gave a value. -/
def originsBehind (session : Session) (time : Nat) (origins : Table String Registration) :
    Step → Table String Registration
  | .generateEc engine slot entropy =>
    session.pairOrigins time (.generateEc engine slot entropy) engine slot origins
  | .generateRsa engine slot bits p q =>
    session.pairOrigins time (.generateRsa engine slot bits p q) engine slot origins
  | .shareKey key slot =>
    match origins.find? key with
    | some origin => origins.insert slot origin
    | none => origins.erase slot
  | .newKey slot _ _ => origins.erase slot
  | .drop .key name => origins.erase name
  | _ => origins

/-- Which registrations the slots refer to behind some steps. A step without a value moves no
key. -/
def originsOver (time : Nat) (session : Session) (origins : Table String Registration) :
    List Step → Table String Registration
  | [] => origins
  | step :: rest =>
    let (answer, next) := session.step step
    next.originsOver (time + 1)
      (if answer.isOk then session.originsBehind time origins step else origins) rest

/-- A slot holds the key and refers to the registration. -/
def Refers (keys : Table String Key) (origins : Table String Registration) (key : SoftwareKey)
    (origin : Registration) : Prop :=
  ∃ slot, keys.find? slot = some (.software key) ∧ origins.find? slot = some origin

/-- The slots that refer to registrations are those with a software key. -/
def Traced (keys : Table String Key) (origins : Table String Registration) : Prop :=
  ∀ slot, (∃ key, keys.find? slot = some (.software key)) ↔
    ∃ origin, origins.find? slot = some origin

section Tables

variable {keys : Table String Key} {origins : Table String Registration} {slot : String}
variable {key other : SoftwareKey} {origin source : Registration}

theorem Traced.insert (h : Traced keys origins) (slot : String) (key : SoftwareKey)
    (origin : Registration) :
    Traced (keys.insert slot (.software key)) (origins.insert slot origin) := by
  intro place
  by_cases hplace : place = slot
  · subst hplace
    simp
  · rw [Table.find?_insert_of_ne _ _ hplace, Table.find?_insert_of_ne _ _ hplace]
    exact h place

theorem Traced.insert_scripted (h : Traced keys origins) (slot : String) (key : ScriptedKey) :
    Traced (keys.insert slot (.scripted key)) (origins.erase slot) := by
  intro place
  by_cases hplace : place = slot
  · subst hplace
    simp
  · rw [Table.find?_insert_of_ne _ _ hplace, Table.find?_erase_of_ne _ hplace]
    exact h place

theorem Traced.erase (h : Traced keys origins) (slot : String) :
    Traced (keys.erase slot) (origins.erase slot) := by
  intro place
  by_cases hplace : place = slot
  · subst hplace
    simp
  · rw [Table.find?_erase_of_ne _ hplace, Table.find?_erase_of_ne _ hplace]
    exact h place

theorem refers_of_insert
    (h : Refers (keys.insert slot (.software key)) (origins.insert slot origin) other source) :
    (other = key ∧ source = origin) ∨ Refers keys origins other source := by
  obtain ⟨place, hkey, horigin⟩ := h
  by_cases hplace : place = slot
  · subst hplace
    rw [Table.find?_insert_self, Option.some.injEq] at hkey horigin
    cases hkey
    exact .inl ⟨rfl, horigin.symm⟩
  · rw [Table.find?_insert_of_ne _ _ hplace] at hkey horigin
    exact .inr ⟨place, hkey, horigin⟩

/-- Where a slot refers to nothing any more, the others refer to what they did. -/
theorem refers_of_erase {later : Table String Key}
    (hlater : ∀ place, place ≠ slot → later.find? place = keys.find? place)
    (h : Refers later (origins.erase slot) other source) : Refers keys origins other source := by
  obtain ⟨place, hkey, horigin⟩ := h
  have hplace : place ≠ slot := by
    rintro rfl
    rw [Table.find?_erase_self] at horigin
    cases horigin
  rw [hlater place hplace] at hkey
  exact ⟨place, hkey, Table.find?_of_erase horigin⟩

end Tables

/-! ### What a step does to references -/

/-- A key of a pair that an engine registers, and its registration. -/
inductive Made (time : Nat) (id : EngineId) (pair : Halves KeyMaterial)
    (keys : Halves SoftwareKey) : SoftwareKey → Registration → Prop
  | ofPrivate : Made time id pair keys keys.privateKey (.ofPrivate id time pair)
  | ofPublic : Made time id pair keys keys.publicKey (.ofPublic id time pair)

/-- What a step does to references: it hands on those that are there, or it adds those to a pair
that an engine registers. -/
inductive OriginsChange (time : Nat) (world : World) (keys : Table String Key) (next : Session)
    (origins later : Table String Registration) : Prop where
  | hands
      (refers : ∀ {key origin}, Refers next.keys later key origin → Refers keys origins key origin)
  | makes {id : EngineId} {owner : Software.Engine} (algorithm : Software.KeyAlgorithm)
      {pair : Halves KeyMaterial}
      (engine : world.softwareEngine? id = some owner)
      (evolves : (world.addPair id owner algorithm pair).2.Evolves (fun _ _ => True) next.world)
      (refers : ∀ {key origin}, Refers next.keys later key origin →
        Refers keys origins key origin ∨
          Made time id pair (world.addPair id owner algorithm pair).1 key origin)

variable {time : Nat} {origins : Table String Registration}

theorem putPair_origins (htraced : Traced session.keys origins) (time : Nat)
    (engine slot : String) (algorithm : Software.KeyAlgorithm) (step : Step)
    {generate : Action (Except Software.GenerationFault (Halves KeyMaterial))}
    {result : Except StepError (Except Software.GenerationFault (Halves KeyMaterial))}
    (hgenerate : generate.run session = (result, session))
    (hpair : ∀ id pair, session.engines.find? engine = some id → result = .ok (.ok pair) →
      session.pairFor id step = some pair) :
    let done := (putPair engine slot algorithm generate).run session
    let later := if done.1.isOk then session.pairOrigins time step engine slot origins else origins
    Traced done.2.keys later ∧
      OriginsChange time session.world session.keys done.2 origins later := by
  intro done later
  obtain ⟨e, hrun⟩ | ⟨id, owner, pair, hid, howner, hresult, hrun⟩ :=
    putPair_cases engine slot algorithm hgenerate
  · have hdone : done = (.error e, session) := hrun
    have hlater : later = origins := by
      show (if done.1.isOk then _ else origins) = origins
      rw [hdone]
      rfl
    rw [hlater, hdone]
    exact ⟨htraced, .hands id⟩
  · let added := session.world.addPair id owner algorithm pair
    let first := putKey (slot ++ ".private") (.software added.1.privateKey)
      { session with world := added.2 }
    have hdone : done = (.ok (.keyPair (owner.registerPair pair).1),
      (putKey (slot ++ ".public") (.software added.1.publicKey) first.2).2) := hrun
    have hlater : later = (origins.insert (slot ++ ".private") (.ofPrivate id time pair)).insert
        (slot ++ ".public") (.ofPublic id time pair) := by
      show (if done.1.isOk then session.pairOrigins time step engine slot origins else _) = _
      rw [hdone, pairOrigins, hid]
      simp only [hpair id pair hid hresult]
      rfl
    have hkeys : done.2.keys = (session.keys.insert (slot ++ ".private")
        (.software added.1.privateKey)).insert (slot ++ ".public")
          (.software added.1.publicKey) := by
      rw [hdone, putKey_keys, putKey_keys]
    have hworld : added.2.Evolves (fun _ _ => True) done.2.world := by
      rw [hdone]
      have hfirst : Calm (fun _ _ => True) { session with world := added.2 } first.2 :=
        putKey_calm _ _ _
      exact hfirst.world.trans (putKey_calm _ _ _).world
    refine ⟨?_, .makes algorithm howner hworld fun hrefers => ?_⟩
    · rw [hkeys, hlater]
      exact (htraced.insert _ _ _).insert _ _ _
    · rw [hkeys, hlater] at hrefers
      obtain ⟨rfl, rfl⟩ | hrefers := refers_of_insert hrefers
      · exact .inr .ofPublic
      · obtain ⟨rfl, rfl⟩ | hrefers := refers_of_insert hrefers
        · exact .inr .ofPrivate
        · exact .inl hrefers

/-- Which registrations the slots refer to behind a step. A step without a value moves no key. -/
def originsAfter (session : Session) (time : Nat) (origins : Table String Registration)
    (step : Step) : Table String Registration :=
  if (session.step step).1.isOk then session.originsBehind time origins step else origins

/-- A step keeps which slots refer to a registration, and changes references as said. -/
def StepOrigins (session : Session) (time : Nat) (origins : Table String Registration)
    (step : Step) : Prop :=
  let next := (session.step step).2
  let later := session.originsAfter time origins step
  Traced next.keys later ∧ OriginsChange time session.world session.keys next origins later

/-- A reference is handed on to another slot. -/
theorem shareKey_origins (htraced : Traced session.keys origins) (key slot : String) :
    session.StepOrigins time origins (.shareKey key slot) := by
  cases hkey : session.keys.find? key with
  | none =>
      obtain ⟨hanswer, hkeys⟩ := step_shareKey_of_none slot hkey
      simp only [StepOrigins, originsAfter, hanswer, hkeys]
      exact ⟨htraced, .hands fun hrefers => by rwa [hkeys] at hrefers⟩
  | some found =>
      obtain ⟨hanswer, hkeys⟩ := step_shareKey_keys slot hkey
      simp only [StepOrigins, originsAfter, hanswer, hkeys, originsBehind, if_true]
      cases horigin : origins.find? key with
      | none =>
          cases found with
          | software found =>
              obtain ⟨origin, hfound⟩ := (htraced key).mp ⟨found, hkey⟩
              rw [horigin] at hfound
              cases hfound
          | scripted found =>
              refine ⟨htraced.insert_scripted slot found, .hands fun hrefers => ?_⟩
              rw [hkeys] at hrefers
              exact refers_of_erase (fun _ => Table.find?_insert_of_ne _ _) hrefers
      | some origin =>
          obtain ⟨holder, hholder⟩ := (htraced key).mpr ⟨origin, horigin⟩
          rw [hkey, Option.some.injEq] at hholder
          subst hholder
          refine ⟨htraced.insert slot holder origin, .hands fun hrefers => ?_⟩
          rw [hkeys] at hrefers
          obtain ⟨rfl, rfl⟩ | hrefers := refers_of_insert hrefers
          · exact ⟨key, hkey, horigin⟩
          · exact hrefers

theorem newKey_origins (htraced : Traced session.keys origins) (slot : String)
    (handles : List KeyHandle) (algorithm : String) :
    session.StepOrigins time origins (.newKey slot handles algorithm) := by
  obtain ⟨key, hanswer, hkeys⟩ := step_newKey_keys slot handles algorithm session
  simp only [StepOrigins, originsAfter, hanswer, hkeys, originsBehind, if_true]
  refine ⟨htraced.insert_scripted slot key, .hands fun hrefers => ?_⟩
  rw [hkeys] at hrefers
  exact refers_of_erase (fun _ => Table.find?_insert_of_ne _ _) hrefers

theorem dropKey_origins (htraced : Traced session.keys origins) (name : String) :
    session.StepOrigins time origins (.drop .key name) := by
  obtain ⟨hanswer, hkeys⟩ := step_dropKey_keys name session
  simp only [StepOrigins, originsAfter, hanswer, hkeys, originsBehind, if_true]
  refine ⟨htraced.erase name, .hands fun hrefers => ?_⟩
  rw [hkeys] at hrefers
  exact refers_of_erase (fun _ => Table.find?_erase_of_ne _) hrefers

theorem step_origins (htraced : Traced session.keys origins) (step : Step) :
    session.StepOrigins time origins step := by
  cases hmoves : step.movesKeys with
  | false =>
      have hkeys := step_sameKeys hmoves session
      have hbehind : session.originsBehind time origins step = origins := by
        cases step with
        | drop kind name => cases kind <;> first | rfl | cases hmoves
        | _ => first | rfl | cases hmoves
      simp only [StepOrigins, originsAfter, hbehind, ite_self, hkeys]
      exact ⟨htraced, .hands fun hrefers => by rwa [hkeys] at hrefers⟩
  | true =>
      let cleared : Session := { session with calls := #[], events := #[] }
      have hcleared : Traced cleared.keys origins := htraced
      cases step with
      | generateEc engine slot entropy =>
          refine putPair_origins hcleared time engine slot .ec (.generateEc engine slot entropy)
            (generation_run entropy cleared) fun id pair hid hresult => ?_
          rw [pairFor, if_pos hid]
          cases hsource : cleared.operandIn entropy with
          | error e =>
              rw [hsource] at hresult
              cases hresult
          | ok source =>
              rw [hsource] at hresult
              simp only
              rw [Except.ok.inj hresult]
              rfl
      | generateRsa engine slot bits p q =>
          refine putPair_origins hcleared time engine slot .rsa
            (.generateRsa engine slot bits p q) rfl fun id pair hid hresult => ?_
          rw [pairFor, if_pos hid, Except.ok.inj hresult]
          rfl
      | shareKey key slot => exact shareKey_origins htraced key slot
      | newKey slot handles algorithm => exact newKey_origins htraced slot handles algorithm
      | drop kind name =>
          cases kind with
          | key => exact dropKey_origins htraced name
          | _ => cases hmoves
      | _ => cases hmoves

/-! ### Numbers tell registrations apart -/

/-- The registrations of the keys in the slots: what engine each key is of, that it was generated
before, and that its number was issued; and of the keys of one engine, that their numbers differ as
their registrations do, as long as its handles are not used up. -/
structure Tracks (time : Nat) (session : Session) (origins : Table String Registration) :
    Prop where
  traced : Traced session.keys origins
  engine {key : SoftwareKey} {origin : Registration} :
    Refers session.keys origins key origin → key.engine = origin.engine
  earlier {key : SoftwareKey} {origin : Registration} :
    Refers session.keys origins key origin → origin.time < time
  issued {key : SoftwareKey} {origin : Registration} :
    Refers session.keys origins key origin → ∃ engine,
      session.world.softwareEngine? origin.engine = some engine ∧
        key.handle.raw.toNat ≤ engine.issued
  same {key other : SoftwareKey} {origin source : Registration} :
    Refers session.keys origins key origin → Refers session.keys origins other source →
      origin.engine = source.engine → Counted origin.engine session →
        (key.handle = other.handle ↔ origin = source)

theorem tracks_empty (time : Nat) : Tracks time {} ∅ where
  traced slot := by simp
  engine := by
    rintro key origin ⟨slot, hkey, -⟩
    cases hkey
  earlier := by
    rintro key origin ⟨slot, hkey, -⟩
    cases hkey
  issued := by
    rintro key origin ⟨slot, hkey, -⟩
    cases hkey
  same := by
    rintro key other origin source ⟨slot, hkey, -⟩
    cases hkey

section Pairs

variable {id : EngineId} {owner : Software.Engine} {algorithm : Software.KeyAlgorithm}
variable {pair : Halves KeyMaterial} {world : World} {key other : SoftwareKey}
variable {origin source : Registration}

theorem Made.engine
    (h : Made time id pair (world.addPair id owner algorithm pair).1 key origin) :
    key.engine = id ∧ origin.engine = id ∧ origin.time = time := by
  cases h <;> exact ⟨rfl, rfl, rfl⟩

theorem Made.issued
    (h : Made time id pair (world.addPair id owner algorithm pair).1 key origin) :
    key.handle.raw.toNat ≤ owner.issued + 2 := by
  cases h with
  | ofPrivate => exact Nat.le_succ_of_le owner.allocate_toNat_le
  | ofPublic => exact owner.allocate.2.allocate_toNat_le

/-- The halves of a pair get the next two numbers. -/
theorem Made.number
    (h : Made time id pair (world.addPair id owner algorithm pair).1 key origin)
    (hsmall : owner.issued + 2 < UInt64.size) :
    key.handle.raw.toNat = owner.issued + if origin.isPrivate then 1 else 2 := by
  cases h with
  | ofPrivate => exact Software.Engine.allocate_toNat (Nat.lt_of_succ_lt hsmall)
  | ofPublic =>
      have hlater : owner.allocate.2.issued + 1 < UInt64.size := hsmall
      exact Software.Engine.allocate_toNat hlater

theorem Made.same
    (h : Made time id pair (world.addPair id owner algorithm pair).1 key origin)
    (hother : Made time id pair (world.addPair id owner algorithm pair).1 other source)
    (hsmall : owner.issued + 2 < UInt64.size) : key.handle = other.handle ↔ origin = source := by
  constructor
  · intro hsame
    have hnumber := h.number hsmall
    rw [hsame, hother.number hsmall] at hnumber
    cases h with
    | ofPrivate =>
        cases hother with
        | ofPrivate => rfl
        | ofPublic => exact absurd hnumber (by simp [Registration.ofPrivate, Registration.ofPublic])
    | ofPublic =>
        cases hother with
        | ofPrivate =>
            exact absurd hnumber (by simp [Registration.ofPrivate, Registration.ofPublic])
        | ofPublic => rfl
  · rintro rfl
    cases h with
    | ofPrivate =>
        cases hother
        rfl
    | ofPublic =>
        cases hother
        rfl

end Pairs

theorem Tracks.step (h : Tracks time session origins) (step : Step) :
    Tracks (time + 1) (session.step step).2 (session.originsAfter time origins step) := by
  obtain ⟨htraced, hchange⟩ := step_origins h.traced step
  have hevolves : session.world.Evolves (fun _ _ => True) (session.step step).2.world :=
    (step_evolves session step).world.mono fun _ _ _ => trivial
  have hissued {key : SoftwareKey} {origin : Registration}
      (hrefers : Refers session.keys origins key origin) :
      ∃ engine, (session.step step).2.world.softwareEngine? origin.engine = some engine ∧
        key.handle.raw.toNat ≤ engine.issued := by
    obtain ⟨engine, hengine, hle⟩ := h.issued hrefers
    obtain ⟨later, hlater, hmore⟩ := hevolves.software hengine
    exact ⟨later, hlater, Nat.le_trans hle hmore.issued⟩
  cases hchange with
  | hands hrefers =>
      exact {
        traced := htraced
        engine := fun hkey => h.engine (hrefers hkey)
        earlier := fun hkey => Nat.lt_succ_of_lt (h.earlier (hrefers hkey))
        issued := fun hkey => hissued (hrefers hkey)
        same := fun hkey hother hengine hcounted =>
          h.same (hrefers hkey) (hrefers hother) hengine (hcounted.earlier hevolves) }
  | @makes id owner algorithm pair howner hlast hrefers =>
      obtain ⟨later, hlater, hmore⟩ :=
        hlast.software (World.softwareEngine?_setEngine howner (owner.registerPair pair).2)
      have hcount : owner.issued + 2 ≤ later.issued := hmore.issued
      -- A key that was there has a smaller number than the new ones, and was generated before.
      have hnew {key other : SoftwareKey} {origin source : Registration}
          (hkey : Refers session.keys origins key origin)
          (hother :
            Made time id pair (session.world.addPair id owner algorithm pair).1 other source)
          (hengine : origin.engine = id) (hsmall : owner.issued + 2 < UInt64.size) :
          (key.handle = other.handle ↔ origin = source) := by
        obtain ⟨engine, hfound, hle⟩ := h.issued hkey
        rw [hengine, howner, Option.some.injEq] at hfound
        subst hfound
        constructor
        · intro hsame
          have hnumber := hother.number hsmall
          rw [← hsame] at hnumber
          split at hnumber <;> omega
        · rintro rfl
          exact absurd hother.engine.2.2 (Nat.ne_of_lt (h.earlier hkey))
      refine
        { traced := htraced
          engine := fun hkey => ?_
          earlier := fun hkey => ?_
          issued := fun hkey => ?_
          same := fun hkey hother hengine hcounted => ?_ }
      · obtain hkey | hkey := hrefers hkey
        · exact h.engine hkey
        · rw [hkey.engine.1, hkey.engine.2.1]
      · obtain hkey | hkey := hrefers hkey
        · exact Nat.lt_succ_of_lt (h.earlier hkey)
        · rw [hkey.engine.2.2]
          exact Nat.lt_succ_self time
      · obtain hkey | hkey := hrefers hkey
        · exact hissued hkey
        · rw [hkey.engine.2.1]
          exact ⟨later, hlater, Nat.le_trans hkey.issued hcount⟩
      · have hsmall (hid : Counted id (session.step step).2) : owner.issued + 2 < UInt64.size :=
          Nat.lt_of_le_of_lt hcount (hid later hlater)
        obtain hkey | hkey := hrefers hkey
        · obtain hother | hother := hrefers hother
          · exact h.same hkey hother hengine (hcounted.earlier hevolves)
          · have hid := hengine.trans hother.engine.2.1
            exact hnew hkey hother hid (hsmall (hid ▸ hcounted))
        · have hid := hkey.engine.2.1
          obtain hother | hother := hrefers hother
          · have hsame := hnew hother hkey (hengine.symm.trans hid) (hsmall (hid ▸ hcounted))
            exact eq_comm.trans (hsame.trans eq_comm)
          · exact hkey.same hother (hsmall (hid ▸ hcounted))

theorem Tracks.after (steps : List Step) {time : Nat} {session : Session}
    {origins : Table String Registration} (h : Tracks time session origins) :
    Tracks (time + steps.length) (session.after steps)
      (originsOver time session origins steps) := by
  induction steps generalizing time session origins with
  | nil => exact h
  | cons step rest ih =>
      have hrest := ih (h.step step)
      rwa [List.length_cons, Nat.add_comm rest.length, ← Nat.add_assoc]

/-! ### Keys that are taken for the same -/

/-- The keys in two slots are compared by their handles. -/
theorem step_keysEqual {a b : String} {first second : SoftwareKey}
    (ha : session.keys.find? a = some (.software first))
    (hb : session.keys.find? b = some (.software second)) :
    (session.step (.keysEqual a b)).1 = .ok (.flag (first.same second)) := by
  let cleared : Session := { session with calls := #[], events := #[] }
  have hfirst : cleared.keys.find? a = some (.software first) := ha
  have hsecond : cleared.keys.find? b = some (.software second) := hb
  show ((inSlot Session.keys a >>= _).run cleared).1 = _
  rw [run_bind, inSlot_run, hfirst]
  simp only
  rw [run_bind, inSlot_run, hsecond]
  rfl

/-- Whatever was done in a process, the software keys in two slots go back to registrations of their
engines, and are taken for the same exactly if their handles have one number. Of two keys of one
engine, this is so exactly if they go back to the same registration, as long as the engine did not
issue more handles than a word has numbers. -/
theorem keysEqual_iff (steps : List Step) {a b : String} {first second : SoftwareKey}
    (ha : (({} : Session).after steps).keys.find? a = some (.software first))
    (hb : (({} : Session).after steps).keys.find? b = some (.software second)) :
    let final := ({} : Session).after steps
    let origins := originsOver 0 {} ∅ steps
    ∃ origin source, origins.find? a = some origin ∧ origins.find? b = some source ∧
      origin.engine = first.engine ∧ source.engine = second.engine ∧
      (∃ flag, (final.step (.keysEqual a b)).1 = .ok (.flag flag) ∧
        (flag = true ↔ first.handle.raw = second.handle.raw) ∧
        ∀ engine, origin.engine = source.engine →
          final.world.softwareEngine? origin.engine = some engine →
          engine.issued < UInt64.size → (flag = true ↔ origin = source)) := by
  intro final origins
  have htracks : Tracks (0 + steps.length) final origins := (tracks_empty 0).after steps
  obtain ⟨origin, horigin⟩ := (htracks.traced a).mp ⟨first, ha⟩
  obtain ⟨source, hsource⟩ := (htracks.traced b).mp ⟨second, hb⟩
  have hfirst : Refers final.keys origins first origin := ⟨a, ha, horigin⟩
  have hsecond : Refers final.keys origins second source := ⟨b, hb, hsource⟩
  have hflag : first.same second = true ↔ first.handle = second.handle := decide_eq_true_iff
  refine ⟨origin, source, horigin, hsource, (htracks.engine hfirst).symm,
    (htracks.engine hsecond).symm, _, step_keysEqual ha hb, hflag.trans Handle.ext_iff, ?_⟩
  intro engine hengines hengine hissued
  exact hflag.trans
    (htracks.same hfirst hsecond hengines (Counted.of_engine hengine hissued))

/-- A reference and a copy of it are taken for the same, and go back to one registration. -/
theorem keysEqual_iff_copy :
    let steps := twoEngines ++ [.shareKey "own.private" "copy"]
    let final := ({} : Session).after steps
    let key : SoftwareKey := ⟨0, ⟨2⟩, .ec, true⟩
    final.keys.find? "own.private" = some (.software key) ∧
      final.keys.find? "copy" = some (.software key) ∧
      (final.step (.keysEqual "own.private" "copy")).1 = .ok (.flag true) ∧
      ∃ origin, (originsOver 0 {} ∅ steps).find? "own.private" = some origin ∧
        (originsOver 0 {} ∅ steps).find? "copy" = some origin := by
  intro steps final key
  have hown : final.keys.find? "own.private" = some (.software key) := by decide +kernel
  have hcopy : final.keys.find? "copy" = some (.software key) := by decide +kernel
  have hissued : (final.world.softwareEngine? 0).map (·.issued) = some 4 := by decide +kernel
  obtain ⟨engine, hengine, hcount⟩ := Option.map_eq_some_iff.mp hissued
  obtain ⟨origin, source, horigin, hsource, hfirst, hsecond, flag, hanswer, hnumber, hsame⟩ :=
    keysEqual_iff steps hown hcopy
  have hflag : flag = true := hnumber.mpr rfl
  rw [hflag] at hanswer hsame
  have hequal := (hsame engine (hfirst.trans hsecond.symm) (hfirst ▸ hengine)
    (hcount ▸ by decide)).mp rfl
  exact ⟨hown, hcopy, hanswer, origin, horigin, hequal ▸ hsource⟩

/-- The private key of one engine and the public key of another one are taken for the same. Each of
the engines has issued a few handles only. -/
theorem keysEqual_across_engines :
    let final := ({} : Session).after twoEngines
    (final.step (.keysEqual "own.private" "foreign.public")).1 = .ok (.flag true) ∧
      (∃ origin source,
        (originsOver 0 {} ∅ twoEngines).find? "own.private" = some origin ∧
        (originsOver 0 {} ∅ twoEngines).find? "foreign.public" = some source ∧
        origin.engine ≠ source.engine ∧ origin.material ≠ source.material) ∧
      (final.world.softwareEngine? 0).map (·.issued) = some 4 ∧
      (final.world.softwareEngine? 1).map (·.issued) = some 2 := by
  intro final
  have hown : final.keys.find? "own.private" = some (.software ⟨0, ⟨2⟩, .ec, true⟩) := by
    decide +kernel
  have hforeign : final.keys.find? "foreign.public" = some (.software ⟨1, ⟨2⟩, .ec, false⟩) := by
    decide +kernel
  have horigin : ((originsOver 0 {} ∅ twoEngines).find? "own.private").map
      (fun origin => (origin.engine, origin.material.isPrivate)) = some (0, true) := by
    decide +kernel
  have hsource : ((originsOver 0 {} ∅ twoEngines).find? "foreign.public").map
      (fun origin => (origin.engine, origin.material.isPrivate)) = some (1, false) := by
    decide +kernel
  obtain ⟨origin, hfound, hfirst⟩ := Option.map_eq_some_iff.mp horigin
  obtain ⟨source, hother, hsecond⟩ := Option.map_eq_some_iff.mp hsource
  obtain ⟨hengine, hprivate⟩ := Prod.mk.inj hfirst
  obtain ⟨hforeignEngine, hpublic⟩ := Prod.mk.inj hsecond
  refine ⟨step_keysEqual hown hforeign, ⟨origin, source, hfound, hother, ?_, fun hsame => ?_⟩,
    by decide +kernel, by decide +kernel⟩
  · rw [hengine, hforeignEngine]
    decide
  · rw [hsame, hpublic] at hprivate
    cases hprivate

end SigningEngine.Session
