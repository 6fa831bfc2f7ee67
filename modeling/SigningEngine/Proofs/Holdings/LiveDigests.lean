import SigningEngine.Proofs.Holdings.Lifetimes
import SigningEngine.Proofs.Holdings.Moves
import SigningEngine.Proofs.Signature.Coverage
import SigningEngine.Proofs.Software.KeptDigests

/-!
# The live digests of a software engine

What crosses the boundary to a software engine tells which digests it keeps: the ones it gave with a
valid handle, and of these the ones that it was not asked to free. What a process holds tells the
same of its owners.

The main statement is `digests_live_with_owners`.
-/

namespace SigningEngine

/-- The digests that are kept behind a call, by how it was answered. -/
def NativeCall.keptBehind (kept : List DigestHandle) :
    (call : NativeCall) → Except String call.Reply → List DigestHandle
  | .digestCreate _ _, .ok (.ok handle) => if handle.isValid then handle :: kept else kept
  | .digestFree _ digest, _ => kept.erase digest
  | _, _ => kept

theorem NativeCall.keptBehind_of_spares {call : NativeCall} (h : call.sparesDigests = true)
    (kept : List DigestHandle) (reply : Except String call.Reply) :
    call.keptBehind kept reply = kept := by
  cases call with
  | digestCreate context algorithm => cases h
  | digestFree context digest => cases h
  | _ => rfl

theorem NativeCall.keptBehind_perm {kept other : List DigestHandle} (h : kept.Perm other)
    (call : NativeCall) (reply : Except String call.Reply) :
    (call.keptBehind kept reply).Perm (call.keptBehind other reply) := by
  cases call with
  | digestCreate context algorithm =>
      match reply with
      | .ok (.ok handle) =>
          simp only [keptBehind]
          split
          · exact h.cons handle
          · exact h
      | .ok (.error e) => exact h
      | .error message => exact h
  | digestFree context digest => exact h.erase digest
  | _ => exact h

namespace Crossing

variable {κ : Type}

/-- The digests that are kept behind what crossed. -/
def keptBehind : List (Crossing κ) → List DigestHandle → List DigestHandle
  | [], kept => kept
  | .read _ _ :: rest, kept => keptBehind rest kept
  | .asked call reply :: rest, kept => keptBehind rest (call.keptBehind kept reply)

theorem keptBehind_append (first second : List (Crossing κ)) (kept : List DigestHandle) :
    keptBehind (first ++ second) kept = keptBehind second (keptBehind first kept) := by
  induction first generalizing kept with
  | nil => rfl
  | cons crossing rest ih =>
      cases crossing with
      | read key handle => exact ih kept
      | asked call reply => exact ih (call.keptBehind kept reply)

theorem keptBehind_perm (crossings : List (Crossing κ)) {kept other : List DigestHandle}
    (h : kept.Perm other) : (keptBehind crossings kept).Perm (keptBehind crossings other) := by
  induction crossings generalizing kept other with
  | nil => exact h
  | cons crossing rest ih =>
      cases crossing with
      | read key handle => exact ih h
      | asked call reply => exact ih (call.keptBehind_perm h reply)

theorem keptBehind_of_spares {crossings : List (Crossing κ)}
    (h : ∀ call ∈ calls crossings, call.sparesDigests = true) (kept : List DigestHandle) :
    keptBehind crossings kept = kept := by
  induction crossings with
  | nil => rfl
  | cons crossing rest ih =>
      cases crossing with
      | read key handle => exact ih h
      | asked call reply =>
          rw [keptBehind, call.keptBehind_of_spares (h call List.mem_cons_self)]
          exact ih fun other hother => h other (List.mem_cons_of_mem _ hother)

end Crossing

namespace Software.Engine

variable {engine : Engine}

theorem issued_le_reply (engine : Engine) (call : NativeCall) :
    engine.issued ≤ (engine.reply call).2.issued := by
  have hevolves : engine.Evolves (fun _ => True) (engine.reply call).2 :=
    engine.reply_evolves call fun _ _ => trivial
  exact hevolves.issued

/-- What a software engine replies tells what it keeps. -/
theorem reply_kept (hissued : engine.DigestsIssued) (call : NativeCall)
    (hsmall : (engine.reply call).2.issued < UInt64.size) :
    (engine.reply call).2.DigestsIssued ∧
      (engine.reply call).2.digests.keys.Perm
        (call.keptBehind engine.digests.keys (.ok (engine.reply call).1)) := by
  have hcount := issued_le_reply engine call
  cases hspares : call.sparesDigests with
  | true =>
      rw [call.keptBehind_of_spares hspares]
      have hkeys := reply_keys_of_spares engine hspares
      exact ⟨hissued.mono hcount hkeys.subset, hkeys⟩
  | false =>
      cases call with
      | digestCreate context algorithm =>
          cases hreply : (engine.reply (.digestCreate context algorithm)).1 with
          | error e =>
              rw [digestCreate_of_error hreply]
              exact ⟨hissued, .refl _⟩
          | ok handle =>
              obtain ⟨hvalid, hkeys⟩ := digestCreate_keys hissued hreply hsmall
              constructor
              · intro digest hdigest
                rw [hkeys] at hdigest
                rcases List.mem_cons.mp hdigest with rfl | hold
                · exact (digestCreate_issued hreply).1
                · exact Nat.le_trans (hissued digest hold) hcount
              · rw [hkeys, NativeCall.keptBehind, if_pos hvalid]
      | digestFree context digest =>
          have hkeys := digestFree_keys engine context digest
          refine ⟨hissued.mono hcount ?_, .of_eq hkeys⟩
          rw [hkeys]
          exact List.erase_subset
      | _ => cases hspares

end Software.Engine

namespace World

/-- Each engine that keeps digests keeps what crossed the boundary tells. -/
def Replays (id : EngineId) (before after : World × List (Crossing Key)) : Prop :=
  ∃ crossings, after.2 = before.2 ++ crossings ∧
    ∀ engine, before.1.softwareEngine? id = some engine →
      ∃ later, after.1.softwareEngine? id = some later ∧ engine.issued ≤ later.issued ∧
        (later.issued < UInt64.size → engine.DigestsIssued → later.DigestsIssued ∧
          later.digests.keys.Perm (Crossing.keptBehind crossings engine.digests.keys))

theorem replays_movesBy (id : EngineId) :
    (boundary id).observed.MovesBy (fun _ => True) (Replays id) where
  refl state := ⟨[], (List.append_nil _).symm, fun engine hengine =>
    ⟨engine, hengine, Nat.le_refl _, fun _ hissued => ⟨hissued, .refl _⟩⟩⟩
  trans := by
    rintro before middle after ⟨first, hfirst, hmiddle⟩ ⟨second, hsecond, hafter⟩
    refine ⟨first ++ second, by rw [hsecond, hfirst, List.append_assoc], ?_⟩
    intro engine hengine
    obtain ⟨found, hfound, hissued, hkept⟩ := hmiddle engine hengine
    obtain ⟨later, hlater, hissuedLater, hkeptLater⟩ := hafter found hfound
    refine ⟨later, hlater, Nat.le_trans hissued hissuedLater, ?_⟩
    intro hsmall hstart
    obtain ⟨hmiddle, hperm⟩ := hkept (Nat.lt_of_le_of_lt hissuedLater hsmall) hstart
    obtain ⟨hend, hpermLater⟩ := hkeptLater hsmall hmiddle
    rw [Crossing.keptBehind_append]
    exact ⟨hend, hpermLater.trans (Crossing.keptBehind_perm second hperm)⟩
  behind := by
    intro call state _
    refine ⟨_, rfl, ?_⟩
    intro engine hengine
    refine ⟨_, ?_, engine.issued_le_reply call, ?_⟩
    · rw [Boundary.behind_observed, behind_software hengine]
      exact softwareEngine?_setEngine hengine _
    · intro hsmall hissued
      rw [replyTo_software hengine]
      exact engine.reply_kept hissued call hsmall
  read := by
    intro key state
    refine ⟨_, rfl, ?_⟩
    intro engine hengine
    refine ⟨engine, ?_, Nat.le_refl _, fun _ hissued => ⟨hissued, .refl _⟩⟩
    have hengines := readHandle_engines state.1 key
    show (state.1.readHandle key).2.softwareEngine? id = some engine
    rwa [softwareEngine?, hengines]
  release := by
    intro key state
    refine ⟨[], (List.append_nil _).symm, ?_⟩
    intro engine hengine
    obtain ⟨later, hlater, -, hdigests⟩ := release_still state.1 key hengine
    have hevolves : state.1.Evolves (fun _ _ => True) (state.1.release key) :=
      release_evolves state.1 key
    obtain ⟨found, hfound, hissued⟩ := hevolves.software hengine
    rw [hlater, Option.some.injEq] at hfound
    subst hfound
    refine ⟨later, hlater, hissued.issued, fun _ hstart => ⟨?_, .of_eq (by rw [hdigests]; rfl)⟩⟩
    apply hstart.mono hissued.issued
    rw [hdigests]
    exact List.Subset.refl _

end World

namespace Holdings

/-! ### The digests of the owners -/

section Digests

variable {σ κ : Type} {holdings : Holdings κ}

/-- The digests of the owners that are alive. -/
def digests (holdings : Holdings κ) : List DigestHandle :=
  holdings.live.map fun held => held.owner.owned.handle

theorem length_digests (holdings : Holdings κ) : holdings.digests.length = holdings.live.length :=
  List.length_map _

/-- The digest of what is at a place, if there is an owner. -/
def digestOf (held? : Option (Held κ)) : List DigestHandle :=
  held?.toList.map fun held => held.owner.owned.handle

theorem digests_withOwner (held? : Option (Held κ)) :
    (holdings.withOwner held?).digests = holdings.digests ++ digestOf held? := by
  cases held? <;> simp [digests, live, withOwner, digestOf]

/-- What is at a place is counted apart from all the others. -/
theorem digests_put {place : ℕ} {found : Held κ} (hfound : holdings.owner? place = some found)
    (held? : Option (Held κ)) :
    ∃ others, holdings.digests.Perm (found.owner.owned.handle :: others) ∧
      (holdings.put place held?).digests.Perm (digestOf held? ++ others) := by
  obtain ⟨hlt, hplace⟩ := List.getElem?_eq_some_iff.mp (owner?_eq_some.mp hfound)
  obtain ⟨before, behind, howners, -, hset⟩ := @List.exists_of_set _ _ held? _ hlt
  rw [hplace] at howners
  refine ⟨((before ++ behind).filterMap id).map fun held => held.owner.owned.handle, ?_, ?_⟩
  · rw [digests, live, howners]
    simp
  · rw [digests, live, put, hset]
    cases held? with
    | none => simp [digestOf]
    | some held => simp [digestOf]

theorem AboutContext.sparesDigests {call : NativeCall} (h : AboutContext call) :
    call.sparesDigests = true := by
  cases h <;> rfl

theorem worksOn_sparesDigests {digest : Digest} {call : NativeCall}
    (h : Owner.WorksOn digest call) : call.sparesDigests = true := by
  cases h <;> rfl

/-- What crosses in a transition tells of the digests what becomes of the owners. -/
theorem Transition.Can.digests {transition : Transition σ κ} (can : transition.Can)
    {kept : List DigestHandle} (h : kept.Perm transition.before.digests) :
    (Crossing.keptBehind transition.crossings kept).Perm transition.after.digests := by
  cases can with
  | apart apart =>
      rw [Crossing.keptBehind_of_spares fun call hcall =>
        (apart.aboutContext call hcall).sparesDigests]
      rwa [Holdings.digests, live, apart.owners]
  | @refused _ _ _ _ _ reply step found crossings unusable outcome after =>
      rw [crossings, after, digests_withOwner]
      match reply, unusable with
      | .ok (.ok handle), unusable =>
          have hinvalid := unusable handle rfl
          simpa [Crossing.keptBehind, NativeCall.keptBehind, hinvalid, digestOf] using h
      | .ok (.error e), _ => simpa [Crossing.keptBehind, NativeCall.keptBehind, digestOf] using h
      | .error message, _ => simpa [Crossing.keptBehind, NativeCall.keptBehind, digestOf] using h
  | created step found crossings outcome valid made named after =>
      rw [crossings, after, digests_withOwner]
      simp only [Crossing.keptBehind, NativeCall.keptBehind, valid, if_true]
      exact (h.cons _).trans (List.perm_append_singleton _ _).symm
  | @used _ _ held owner step found calls owned after =>
      rw [Crossing.keptBehind_of_spares fun call hcall => worksOn_sparesDigests (calls call hcall),
        after]
      obtain ⟨others, hbefore, hafter⟩ := digests_put found (some { held with owner })
      rw [digestOf, Option.toList_some, List.map_singleton, owned] at hafter
      exact (h.trans hbefore).trans hafter.symm
  | @dropped _ held _ step found crossings after =>
      obtain ⟨others, hbefore, hafter⟩ := digests_put found none
      have herased := (h.trans hbefore).erase held.owner.owned.handle
      rw [List.erase_cons_head] at herased
      rw [crossings, after]
      exact herased.trans hafter.symm

end Digests

/-! ### Runs over a software engine -/

/-- What happens elsewhere creates no digest on an engine and frees none: it asks the engine for
other things, if it asks for anything. -/
def Step.SparesDigests (id : EngineId) : Step World Key → Prop
  | .act _ => True
  | .elsewhere change => ∀ world engine, world.softwareEngine? id = some engine →
    ∃ requests : List Software.Engine.Request,
      (∀ request ∈ requests, request.sparesDigests = true) ∧
        (change world).softwareEngine? id = some (engine.serveAll requests).2

/-- The engine keeps the digests of the owners, as long as its numbers fit in a word. -/
def KeptBy (id : EngineId) (holdings : Holdings Key) (world : World) : Prop :=
  ∃ engine, world.softwareEngine? id = some engine ∧
    (engine.issued < UInt64.size →
      engine.DigestsIssued ∧ engine.digests.keys.Perm holdings.digests)

/-- What a process does moves its engine by what crosses the boundary. -/
theorem take_replays (id : EngineId) (holdings : Holdings Key) (action : Action Key)
    (world : World) :
    let taken := holdings.take (World.boundary id) (.act action) world
    World.Replays id (world, []) (taken.next, taken.crossings) :=
  perform_along (World.replays_movesBy id) holdings action { state := (world, []) }

variable {id : EngineId} {holdings : Holdings Key} {world : World}

theorem KeptBy.take (h : KeptBy id holdings world) {step : Step World Key}
    (hspares : step.SparesDigests id) :
    let taken := holdings.take (World.boundary id) step world
    KeptBy id taken.after taken.next := by
  intro taken
  obtain ⟨engine, hengine, hkept⟩ := h
  cases step with
  | elsewhere change =>
      obtain ⟨requests, hrequests, hnext⟩ := hspares world engine hengine
      have hcount := (Software.Engine.serveAll_issues engine requests).count
      have hissued : engine.issued ≤ (engine.serveAll requests).2.issued := by omega
      have hkeys := engine.serveAll_keys_of_spares hrequests
      refine ⟨_, hnext, ?_⟩
      intro hsmall
      obtain ⟨hdigests, hperm⟩ := hkept (Nat.lt_of_le_of_lt hissued hsmall)
      exact ⟨hdigests.mono hissued hkeys.subset, hkeys.trans hperm⟩
  | act action =>
      obtain ⟨crossings, hcrossings, hmoves⟩ := take_replays id holdings action world
      obtain ⟨later, hlater, hissued, hreplayed⟩ := hmoves engine hengine
      refine ⟨later, hlater, ?_⟩
      intro hsmall
      obtain ⟨hdigests, hperm⟩ := hkept (Nat.lt_of_le_of_lt hissued hsmall)
      obtain ⟨hlaterDigests, hlaterPerm⟩ := hreplayed hsmall hdigests
      refine ⟨hlaterDigests, hlaterPerm.trans ?_⟩
      have hcrossed : taken.crossings = crossings := hcrossings
      have hcan : taken.Can := take_can (.act action)
      have hbefore : engine.digests.keys.Perm taken.before.digests := by
        rwa [take_before]
      exact hcrossed ▸ hcan.digests hbefore

theorem KeptBy.of_empty {engine : Software.Engine} (hengine : world.softwareEngine? id = some engine)
    (hnone : engine.liveDigests = 0) : KeptBy id {} world := by
  have hkeys : engine.digests.keys = [] := by
    rw [← List.length_eq_zero_iff, Table.length_keys]
    exact hnone
  refine ⟨engine, hengine, fun _ => ⟨?_, ?_⟩⟩
  · intro digest hdigest
    rw [hkeys] at hdigest
    cases hdigest
  · rw [hkeys]
    exact .refl _

/-- An owner that is created has its digest freed once, by its drop; where creation fails, nothing is
freed. This holds over every engine. Over a software engine that keeps no digests to begin with, and
of which nobody else asks to create or free any, the digests that are live after each step are as
many as the owners that are alive in all contexts, as long as its numbers fit in a word. -/
theorem digests_live_with_owners :
    (∀ (σ κ : Type) (boundary : Boundary σ κ) (steps : List (Step σ κ)) (state : σ),
        Lifetimes boundary (({} : Holdings κ).run boundary steps state)) ∧
      ∀ (id : EngineId) (world : World) (engine : Software.Engine),
        world.softwareEngine? id = some engine → engine.liveDigests = 0 →
          ∀ steps : List (Step World Key), (∀ step ∈ steps, step.SparesDigests id) →
            ∀ transition ∈ ({} : Holdings Key).run (World.boundary id) steps world,
              ∃ later, transition.next.softwareEngine? id = some later ∧
                (later.issued < UInt64.size →
                  later.liveDigests = transition.after.live.length) := by
  constructor
  · intro σ κ boundary steps state
    exact run_lifetimes boundary steps state
  · intro id world engine hengine hnone steps hsteps
    apply run_forall (World.boundary id) (A := Step.SparesDigests id) (P := KeptBy id)
      (Q := fun transition => ∃ later, transition.next.softwareEngine? id = some later ∧
        (later.issued < UInt64.size → later.liveDigests = transition.after.live.length))
    · intro holdings step state hspares hkept
      refine ⟨?_, hkept.take hspares⟩
      obtain ⟨later, hlater, hdigests⟩ := hkept.take hspares
      refine ⟨later, hlater, ?_⟩
      intro hsmall
      rw [Software.Engine.liveDigests, ← Table.length_keys, (hdigests hsmall).2.length_eq,
        length_digests]
    · exact hsteps
    · exact .of_empty hengine hnone

/-- A software engine by itself. -/
def soleEngine : World := { engines := #[.software default] }

/-- A digest and a signature in one context, a digest of no algorithm that there is, and a context
that is opened elsewhere. The digest is dropped, and the signature is asked to sign without a key. -/
def busySteps : List (Step World Key) :=
  [.act (.createContext false default), .act (.create 0 .digest "SHA-256"),
    .act (.create 0 .signature "SHA-512"), .act (.create 0 .digest "none"),
    .elsewhere ((World.boundary 0).behind (.createContext true)), .act (.drop 0),
    .act (.use 1 (.operate .sign))]

theorem busySteps_spare : ∀ step ∈ busySteps, step.SparesDigests 0 := by
  intro step hstep
  cases step with
  | act action => trivial
  | elsewhere change =>
      have hchange : change = (World.boundary 0).behind (.createContext true) := by
        simpa [busySteps] using hstep
      intro world engine hengine
      refine ⟨[.call (.createContext true)], by decide, ?_⟩
      rw [hchange, World.behind_software hengine]
      exact World.softwareEngine?_setEngine hengine _

theorem digests_live_with_owners_busy :
    soleEngine.softwareEngine? 0 = some default ∧
      (∀ step ∈ busySteps, step.SparesDigests 0) ∧
      (({} : Holdings Key).run (World.boundary 0) busySteps soleEngine).map
          (·.after.live.length) = [0, 1, 2, 2, 2, 1, 1] ∧
      ∀ transition ∈ ({} : Holdings Key).run (World.boundary 0) busySteps soleEngine,
        ∃ later, transition.next.softwareEngine? 0 = some later ∧
          (later.issued < UInt64.size → later.liveDigests = transition.after.live.length) :=
  ⟨rfl, busySteps_spare, by decide +kernel,
    digests_live_with_owners.2 0 soleEngine default rfl rfl busySteps busySteps_spare⟩

end Holdings

end SigningEngine
