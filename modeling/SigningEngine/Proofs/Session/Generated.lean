import SigningEngine.Proofs.Session.Worlds
import SigningEngine.Proofs.Signature.Isolation

/-!
# Where key material comes from

An engine gets key material when it generates a pair, and at no other time. What it keeps under a
handle is therefore what it generated under that handle last; and as long as its handles are not
used up, it generates one thing under each.

The main statements are `generated_last` and `generated_nodup`.
-/

namespace SigningEngine

open Software (KeyMaterial Halves)

namespace World

variable {world middle next : World}

/-- No material is there that was not there before. -/
def Thins (world next : World) : Prop :=
  ∀ ⦃key : SoftwareKey⦄ ⦃material : KeyMaterial⦄,
    next.materialOf key = some material → world.materialOf key = some material

theorem Thins.refl (world : World) : Thins world world := fun _ _ h => h

theorem Thins.trans (first : Thins world middle) (second : Thins middle next) :
    Thins world next := fun _ _ h => first (second h)

theorem thins_of_keepsKeys (h : ∀ id, KeepsKeys id world next) : Thins world next := by
  intro key material hmaterial
  obtain ⟨later, hlater, hfound⟩ := Option.bind_eq_some_iff.mp hmaterial
  rw [materialOf]
  cases hengine : world.softwareEngine? key.engine with
  | none =>
      rw [(h key.engine).added hengine hlater, Table.find?_empty] at hfound
      cases hfound
  | some engine =>
      obtain ⟨same, hsame, hkeys, -⟩ := (h key.engine).engine hengine
      rw [hlater, Option.some.injEq] at hsame
      subst hsame
      rwa [hkeys] at hfound

/-- An engine takes the place of one that had its keys, or more. -/
theorem setEngine_thins {id : EngineId} {engine later : Software.Engine}
    (hengine : world.softwareEngine? id = some engine)
    (hkeys : ∀ handle material, later.keys.find? handle = some material →
      engine.keys.find? handle = some material) :
    Thins world (world.setEngine id (.software later)) := by
  intro key material hmaterial
  rw [materialOf] at hmaterial ⊢
  by_cases hid : key.engine = id
  · rw [hid, softwareEngine?_setEngine hengine, Option.bind_some] at hmaterial
    rw [hid, hengine, Option.bind_some]
    exact hkeys _ _ hmaterial
  · rwa [softwareEngine?_setEngine_of_ne hid] at hmaterial

theorem forget_thins (world : World) (key : Key) : Thins world (world.forget key) := by
  cases key with
  | scripted key => exact .refl world
  | software key =>
      rw [forget]
      split
      · exact .refl world
      · next engine hengine =>
          exact setEngine_thins hengine fun _ _ => Table.find?_of_erase

theorem release_thins (world : World) (key : Key) : Thins world (world.release key) := by
  have herased : Thins world { world with references := world.references.erase key } :=
    fun _ _ h => h
  rw [release]
  split
  · exact herased
  · exact herased.trans (forget_thins _ key)

theorem freeKey_thins {id : EngineId} {engine : Software.Engine}
    (hengine : world.softwareEngine? id = some engine) (handle : KeyHandle) :
    Thins world (world.setEngine id (.software (engine.freeKey handle).2)) := by
  refine setEngine_thins hengine fun key material hmaterial => ?_
  rw [Software.Engine.find?_freeKey] at hmaterial
  split at hmaterial
  · cases hmaterial
  · exact hmaterial

end World

namespace Session

open World

/-- Only a generation adds key material. -/
theorem persists_thins : Persists Thins where
  movesBy id :=
    { refl := .refl
      trans := .trans
      behind := fun world _ => thins_of_keepsKeys fun _ => respond_keepsKeys world id _
      read := fun key world => thins_of_keepsKeys fun other =>
        ((boundary_steady other id).read key world).toKeepsKeys
      release := fun key world => release_thins world key }
  addSoftware world _ := thins_of_keepsKeys fun _ =>
    addEngine_keepsKeys world fun _ heq => (Engine.software.inj heq) ▸ rfl
  addScripted world _ := thins_of_keepsKeys fun _ =>
    addEngine_keepsKeys world fun _ heq => by cases heq
  setHandles _ _ key := by cases key <;> exact fun _ _ h => h
  addScriptedKey _ _ _ := fun _ _ h => h
  hold _ _ := fun _ _ h => h

theorem putKey_thins (slot : String) (key : Key) (session : Session) :
    session.world.Thins (putKey slot key session).2.world :=
  persists_thins.putKey slot key session

/-! ### Keys that were generated -/

variable {id : EngineId} {session : Session}

/-- The keys that an engine generated, by handle, the last one first. -/
def generatedOver (id : EngineId) : Session → List Step → List (KeyHandle × KeyMaterial)
  | _, [] => []
  | session, step :: rest =>
    let (answer, next) := session.step step
    generatedOver id next rest ++ registered (session.pairFor id step) answer

/-- What a step does to the keys of all engines, where it asks an engine for a pair as said and is
answered so: it adds none, or one pair to one engine. -/
inductive KeyChange (asked : EngineId → Option (Halves KeyMaterial))
    (answer : Except StepError Answer) (world next : World) : Prop where
  | thins (registers : ∀ id, registered (asked id) answer = []) (thins : world.Thins next)
  | generates {other : EngineId} {owner : Software.Engine} {pair : Halves KeyMaterial}
      (engine : world.softwareEngine? other = some owner)
      (registers : ∀ id, registered (asked id) answer =
        if other = id then registered (some pair) (.ok (.keyPair (owner.registerPair pair).1))
        else [])
      (thins : (world.setEngine other (.software (owner.registerPair pair).2)).Thins next)
      (evolves : (world.setEngine other (.software (owner.registerPair pair).2)).Evolves
        (fun _ _ => True) next)

theorem putPair_keyChange {engine slot : String} {algorithm : Software.KeyAlgorithm}
    {generate : Action (Except Software.GenerationFault (Halves KeyMaterial))}
    {result : Except StepError (Except Software.GenerationFault (Halves KeyMaterial))}
    {asked : EngineId → Option (Halves KeyMaterial)}
    (hgenerate : generate.run session = (result, session))
    (hasked : ∀ pair, result = .ok (.ok pair) → ∀ id,
      asked id = if session.engines.find? engine = some id then some pair else none) :
    let done := (putPair engine slot algorithm generate).run session
    KeyChange asked done.1 session.world done.2.world := by
  intro done
  obtain ⟨e, hrun⟩ | ⟨other, owner, pair, hother, hengine, hresult, hrun⟩ :=
    putPair_cases engine slot algorithm hgenerate
  · have hdone : done = (.error e, session) := hrun
    rw [hdone]
    exact .thins (fun id => registered_error _ e) (.refl _)
  · let added := session.world.addPair other owner algorithm pair
    let first := putKey (slot ++ ".private") (.software added.1.privateKey)
      { session with world := added.2 }
    have hdone : done = (.ok (.keyPair (owner.registerPair pair).1),
      (putKey (slot ++ ".public") (.software added.1.publicKey) first.2).2) := hrun
    have hset : (session.world.setEngine other (.software (owner.registerPair pair).2)).Thins
        added.2 := fun _ _ h => h
    have hsetEvolves : (session.world.setEngine other
        (.software (owner.registerPair pair).2)).Evolves (fun _ _ => True) added.2 :=
      (hold_evolves _ _).trans (hold_evolves _ _)
    have hfirst : Calm (fun _ _ => True) { session with world := added.2 } first.2 :=
      putKey_calm _ _ _
    rw [hdone]
    refine .generates hengine (fun id => ?_)
      (hset.trans ((putKey_thins _ _ _).trans (putKey_thins _ _ _)))
      (hsetEvolves.trans (hfirst.world.trans (putKey_calm _ _ _).world))
    rw [hasked pair hresult, hother]
    by_cases hid : other = id
    · rw [if_pos (congrArg some hid), if_pos hid]
    · rw [if_neg fun hsame => hid (Option.some.inj hsame), if_neg hid]
      rfl

theorem pairFor_of_not_changesKeys {step : Step} (h : step.changesKeys = false)
    (id : EngineId) : session.pairFor id step = none := by
  cases step <;> first | rfl | cases h

theorem perform_keyChange (session : Session) (step : Step) :
    let done := (perform step).run session
    KeyChange (session.pairFor · step) done.1 session.world done.2.world := by
  intro done
  cases hchanges : step.changesKeys with
  | false =>
      refine .thins (fun id => ?_) (persists_thins.perform hchanges session)
      rw [pairFor_of_not_changesKeys hchanges]
      rfl
  | true =>
      cases step with
      | generateEc engine slot entropy =>
          refine putPair_keyChange (generation_run entropy session) fun pair hpair id => ?_
          rw [pairFor]
          cases hsource : session.operandIn entropy with
          | error e =>
              rw [hsource] at hpair
              cases hpair
          | ok source =>
              rw [hsource] at hpair
              simp only
              rw [Except.ok.inj hpair]
              rfl
      | generateRsa engine slot bits p q =>
          refine putPair_keyChange rfl fun pair hpair id => ?_
          rw [pairFor, Except.ok.inj hpair]
          rfl
      | freeKey engine handle =>
          refine .thins (fun _ => rfl) ?_
          refine softwareEngine_bind (P := OnWorlds Thins session) (.refl _)
            fun other owner hengine => ?_
          exact freeKey_thins hengine handle
      | _ => cases hchanges

theorem step_keyChange (session : Session) (step : Step) :
    let done := session.step step
    KeyChange (session.pairFor · step) done.1 session.world done.2.world := by
  have h := perform_keyChange { session with calls := #[], events := #[] } step
  exact h

theorem generatedOver_append (id : EngineId) (session : Session) (first second : List Step) :
    generatedOver id session (first ++ second) =
      generatedOver id (session.after first) second ++ generatedOver id session first := by
  induction first generalizing session with
  | nil => simp [generatedOver, after]
  | cons step rest ih =>
    simp only [List.cons_append, generatedOver, after_cons, ih, List.append_assoc]

/-! ### The last key under each handle -/

/-- What engines keep under a handle is what is listed for it first. -/
def ListedFirst (generated : EngineId → List (KeyHandle × KeyMaterial)) (world : World) : Prop :=
  ∀ ⦃key : SoftwareKey⦄ ⦃material : KeyMaterial⦄, world.materialOf key = some material →
    (generated key.engine).lookup key.handle = some material

theorem find?_registerPair (owner : Software.Engine) (pair : Halves KeyMaterial)
    (handle : KeyHandle) :
    (owner.registerPair pair).2.keys.find? handle =
      ((registered (some pair) (.ok (.keyPair (owner.registerPair pair).1))).lookup handle).or
        (owner.keys.find? handle) := by
  let handles := (owner.registerPair pair).1
  have hkeys : (owner.registerPair pair).2.keys =
      (owner.keys.insert handles.privateKey pair.privateKey).insert handles.publicKey
        pair.publicKey := rfl
  have hregistered : registered (some pair) (.ok (.keyPair handles)) =
      [(handles.publicKey, pair.publicKey), (handles.privateKey, pair.privateKey)] := rfl
  rw [hkeys, hregistered]
  by_cases hpublic : handle = handles.publicKey
  · rw [hpublic, Table.find?_insert_self, List.lookup_cons_self]
    rfl
  · rw [Table.find?_insert_of_ne _ _ hpublic, List.lookup_cons, beq_false_of_ne hpublic]
    by_cases hprivate : handle = handles.privateKey
    · rw [hprivate, Table.find?_insert_self, List.lookup_cons_self]
      rfl
    · rw [Table.find?_insert_of_ne _ _ hprivate, List.lookup_cons, beq_false_of_ne hprivate]
      rfl

variable {asked : EngineId → Option (Halves KeyMaterial)} {answer : Except StepError Answer}
variable {world next : World}

theorem KeyChange.listedFirst (h : KeyChange asked answer world next)
    {generated : EngineId → List (KeyHandle × KeyMaterial)}
    (hlisted : ListedFirst generated world) :
    ListedFirst (fun id => registered (asked id) answer ++ generated id) next := by
  intro key material hmaterial
  cases h with
  | thins hregisters hthins =>
      simp only [hregisters, List.nil_append]
      exact hlisted (hthins hmaterial)
  | @generates other owner pair hengine hregisters hthins =>
      have hset := hthins hmaterial
      rw [materialOf] at hset
      simp only [hregisters]
      by_cases hid : other = key.engine
      · subst hid
        rw [softwareEngine?_setEngine hengine, Option.bind_some, find?_registerPair] at hset
        rw [if_pos rfl, List.lookup_append]
        cases hnew : (registered (some pair)
            (.ok (.keyPair (owner.registerPair pair).1))).lookup key.handle with
        | some found =>
            rw [hnew, Option.some_or] at hset
            rw [Option.some_or]
            exact hset
        | none =>
            rw [hnew, Option.none_or] at hset
            rw [Option.none_or]
            refine hlisted ?_
            rw [materialOf, hengine]
            exact hset
      · rw [softwareEngine?_setEngine_of_ne (Ne.symm hid)] at hset
        rw [if_neg hid, List.nil_append]
        exact hlisted hset

theorem ListedFirst.after (steps : List Step) {session : Session}
    {generated : EngineId → List (KeyHandle × KeyMaterial)}
    (h : ListedFirst generated session.world) :
    ListedFirst (fun id => generatedOver id session steps ++ generated id)
      (session.after steps).world := by
  induction steps generalizing session generated with
  | nil => exact h
  | cons step rest ih =>
      simp only [generatedOver, List.append_assoc]
      exact ih ((step_keyChange session step).listedFirst h)

/-- What an engine keeps under a handle is what it generated under that handle last. -/
theorem generated_last (steps : List Step) {key : SoftwareKey} {material : KeyMaterial}
    (h : (({} : Session).after steps).world.materialOf key = some material) :
    (generatedOver key.engine {} steps).lookup key.handle = some material := by
  have hempty : ListedFirst (fun _ => []) ({} : Session).world := by
    intro key material hmaterial
    cases hmaterial
  simpa only [List.append_nil] using hempty.after steps h

/-! ### One key under each handle -/

/-- Every handle is listed once, and was issued. -/
structure Numbered (id : EngineId) (generated : List (KeyHandle × KeyMaterial)) (world : World) :
    Prop where
  nodup : (generated.map Prod.fst).Nodup
  issued {handle : KeyHandle} : handle ∈ generated.map Prod.fst →
    ∃ engine, world.softwareEngine? id = some engine ∧ handle.raw.toNat ≤ engine.issued

theorem Numbered.evolves {generated : List (KeyHandle × KeyMaterial)} (h : Numbered id generated world)
    (hevolves : world.Evolves (fun _ _ => True) next) : Numbered id generated next where
  nodup := h.nodup
  issued hmem := by
    obtain ⟨engine, hengine, hle⟩ := h.issued hmem
    obtain ⟨later, hlater, hissued⟩ := hevolves.software hengine
    exact ⟨later, hlater, Nat.le_trans hle hissued.issued⟩

theorem Numbered.register {generated : List (KeyHandle × KeyMaterial)}
    (h : Numbered id generated world) {owner : Software.Engine}
    (hengine : world.softwareEngine? id = some owner)
    (hissued : owner.issued + 2 < UInt64.size) (pair : Halves KeyMaterial) :
    Numbered id
      (registered (some pair) (.ok (.keyPair (owner.registerPair pair).1)) ++ generated)
      (world.setEngine id (.software (owner.registerPair pair).2)) := by
  let handles := (owner.registerPair pair).1
  have hprivate : handles.privateKey.raw.toNat = owner.issued + 1 :=
    Software.Engine.allocate_toNat (Nat.lt_of_succ_lt hissued)
  have hlater : owner.allocate.2.issued + 1 < UInt64.size := hissued
  have hpublic : handles.publicKey.raw.toNat = owner.issued + 2 :=
    Software.Engine.allocate_toNat hlater
  have hnew : (registered (some pair) (.ok (.keyPair handles)) ++ generated).map Prod.fst =
      handles.publicKey :: handles.privateKey :: generated.map Prod.fst := rfl
  have hold {handle : KeyHandle} (hmem : handle ∈ generated.map Prod.fst) :
      handle.raw.toNat ≤ owner.issued := by
    obtain ⟨engine, hfound, hle⟩ := h.issued hmem
    rw [hengine, Option.some.injEq] at hfound
    exact hfound ▸ hle
  constructor
  · rw [hnew, List.nodup_cons, List.nodup_cons, List.mem_cons]
    refine ⟨?_, fun hmem => ?_, h.nodup⟩
    · rintro (hsame | hmem)
      · rw [hsame] at hpublic
        omega
      · have := hold hmem
        omega
    · have := hold hmem
      omega
  · intro handle hmem
    refine ⟨_, softwareEngine?_setEngine hengine _, ?_⟩
    have hcount : (owner.registerPair pair).2.issued = owner.issued + 2 := rfl
    rw [hnew, List.mem_cons, List.mem_cons] at hmem
    rw [hcount]
    rcases hmem with rfl | rfl | hmem
    · exact Nat.le_of_eq hpublic
    · omega
    · exact Nat.le_add_right_of_le (hold hmem)

theorem Numbered.step {generated : List (KeyHandle × KeyMaterial)}
    (h : Numbered id generated session.world) {step : Step}
    (hcounted : Counted id (session.step step).2) :
    Numbered id (registered (session.pairFor id step) (session.step step).1 ++ generated)
      (session.step step).2.world := by
  have hevolves : session.world.Evolves (fun _ _ => True) (session.step step).2.world :=
    (step_evolves session step).world.mono fun _ _ _ => trivial
  cases step_keyChange session step with
  | thins hregisters =>
      rw [hregisters]
      exact h.evolves hevolves
  | @generates other owner pair hengine hregisters _ hlater =>
      rw [hregisters]
      by_cases hid : other = id
      · subst hid
        rw [if_pos rfl]
        obtain ⟨later, hfound, hissued⟩ := hlater.software (softwareEngine?_setEngine hengine _)
        have hsmall : owner.issued + 2 < UInt64.size :=
          Nat.lt_of_le_of_lt hissued.issued (hcounted later hfound)
        exact (h.register hengine hsmall pair).evolves hlater
      · rw [if_neg hid]
        exact h.evolves hevolves

theorem Numbered.after (steps : List Step) {session : Session}
    {generated : List (KeyHandle × KeyMaterial)} (h : Numbered id generated session.world)
    (hcounted : Counted id (session.after steps)) :
    Numbered id (generatedOver id session steps ++ generated) (session.after steps).world := by
  induction steps generalizing session generated with
  | nil => exact h
  | cons step rest ih =>
      simp only [generatedOver, List.append_assoc]
      exact ih (h.step (hcounted.earlier (after_evolves _ rest))) hcounted

/-- An engine that did not issue more handles than a word has numbers generated one key under each. -/
theorem generated_nodup (steps : List Step) (hcounted : Counted id (({} : Session).after steps)) :
    ((generatedOver id {} steps).map Prod.fst).Nodup := by
  have hempty : Numbered id [] ({} : Session).world := ⟨List.nodup_nil, by simp⟩
  simpa only [List.append_nil] using (hempty.after steps hcounted).nodup

/-- So every key that was generated is the one to be found under its handle. -/
theorem generated_lookup {steps : List Step} {handle : KeyHandle} {material : KeyMaterial}
    (hcounted : Counted id (({} : Session).after steps))
    (h : (handle, material) ∈ generatedOver id {} steps) :
    (generatedOver id {} steps).lookup handle = some material := by
  let table : Table KeyHandle KeyMaterial :=
    ⟨generatedOver id {} steps, generated_nodup steps hcounted⟩
  have hfound : table.find? handle = some material := Table.find?_eq_some_iff.mpr h
  exact hfound

end Session

end SigningEngine
