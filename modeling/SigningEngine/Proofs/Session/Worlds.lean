import SigningEngine.Proofs.Session.KeptKeys

/-!
# Relations between the worlds around a step

Steps call engines, add new ones, lay down what scripted keys show, and hold references to keys or
give them back. A relation between worlds that lasts under all this holds along every step that
neither generates keys nor frees one, whatever the step does to its slots.
-/

namespace SigningEngine.Session

/-- A relation between the worlds of two sessions. -/
def OnWorlds (W : World → World → Prop) (session next : Session) : Prop :=
  W session.world next.world

/-- A relation between worlds that lasts, unless a step adds keys to an engine or takes one away. -/
structure Persists (W : World → World → Prop) : Prop where
  movesBy (id : EngineId) : (World.boundary id).MovesBy (fun _ => True) W
  addSoftware (world : World) (config : Software.Config) :
    W world (world.addEngine (.software (.ofConfig config))).2
  addScripted (world : World) (engine : Scripted.Engine) :
    W world (world.addEngine (.scripted engine)).2
  setHandles (world : World) (handles : List KeyHandle) (key : Key) :
    W world (world.setHandles handles key)
  addScriptedKey (world : World) (handles : List KeyHandle) (algorithm : String) :
    W world (world.addScriptedKey handles algorithm).2
  hold (world : World) (key : Key) : W world (world.hold key)

namespace Persists

variable {W : World → World → Prop} (h : Persists W)
include h

theorem keeps : Keeps (fun _ _ => True) W (OnWorlds W) where
  refl session := (h.movesBy 0).refl session.world
  trans := (h.movesBy 0).trans
  called id := (h.movesBy id).calledBy
  addSoftware := h.addSoftware
  addScripted := h.addScripted
  setHandles := h.setHandles
  of_world hworld _ _ _ := hworld

/-- Slots are books that the relation does not look at. -/
theorem of_slots {session next : Session} (hworld : next.world = session.world) :
    OnWorlds W session next := by
  rw [OnWorlds, hworld]
  exact (h.movesBy 0).refl session.world

theorem releaseKey (key : Key) : Along (OnWorlds W) (releaseKey key) :=
  fun session => (h.movesBy 0).release key session.world

theorem putKey (slot : String) (key : Key) : Along (OnWorlds W) (putKey slot key) := by
  intro session
  have hput : OnWorlds W session { session with keys := session.keys.insert slot key } :=
    h.of_slots rfl
  rw [putKey_run]
  cases session.keys.find? slot with
  | none => exact hput
  | some previous => exact h.keeps.trans hput (h.releaseKey previous _)

theorem dropSignature (opened : OpenSignature) :
    Along (OnWorlds W) (dropSignature opened).run :=
  h.keeps.attempt (Signature.drop_along (h.movesBy opened.engine) trivial)

theorem putDigest (slot : String) (opened : OpenDigest) :
    Along (OnWorlds W) (putDigest slot opened).run := by
  intro session
  have hput : OnWorlds W session { session with digests := session.digests.insert slot opened } :=
    h.of_slots rfl
  rw [putDigest_run]
  cases session.digests.find? slot with
  | none => exact hput
  | some previous => exact h.keeps.trans hput (h.keeps.freeDigest trivial _)

theorem putSignature (slot : String) (opened : OpenSignature) :
    Along (OnWorlds W) (putSignature slot opened).run := by
  intro session
  have hput : OnWorlds W session
      { session with signatures := session.signatures.insert slot opened } := h.of_slots rfl
  rw [putSignature_run]
  cases session.signatures.find? slot with
  | none => exact hput
  | some previous => exact h.keeps.trans hput (h.dropSignature previous _)

theorem shareKey (key slot : String) : Along (OnWorlds W) (perform (.shareKey key slot)).run := by
  have hkeeps := h.keeps
  refine hkeeps.bind (hkeeps.inSlot _ _) fun found => ?_
  refine hkeeps.bind (fun session => h.hold session.world found) fun _ => ?_
  exact hkeeps.bind (Along.run_lift (h.putKey slot found)) fun _ => hkeeps.pure _

theorem newKey (slot : String) (handles : List KeyHandle) (algorithm : String) :
    Along (OnWorlds W) (perform (.newKey slot handles algorithm)).run := by
  intro session
  have hadded : OnWorlds W session
      { session with world := (session.world.addScriptedKey handles algorithm).2 } :=
    h.addScriptedKey session.world handles algorithm
  exact h.keeps.trans hadded (h.putKey slot _ _)

theorem newDigest (slot context algorithm : String) :
    Along (OnWorlds W) (newDigest slot context algorithm).run := by
  have hkeeps := h.keeps
  refine hkeeps.bind (hkeeps.inSlot _ _) fun place => ?_
  refine hkeeps.bind (hkeeps.contextAt _ _) fun opened => ?_
  refine hkeeps.bind (hkeeps.attempt (Digest.create_along (hkeeps.called _) _ _)) fun digest => ?_
  exact hkeeps.bind (h.putDigest slot _) fun _ => hkeeps.pure _

theorem newSignature (slot context algorithm : String) :
    Along (OnWorlds W) (newSignature slot context algorithm).run := by
  have hkeeps := h.keeps
  refine hkeeps.bind (hkeeps.inSlot _ _) fun place => ?_
  refine hkeeps.bind (hkeeps.contextAt _ _) fun opened => ?_
  refine hkeeps.bind (hkeeps.attempt (Signature.create_along (hkeeps.called _) _ _))
    fun signature => ?_
  exact hkeeps.bind (h.putSignature slot _) fun _ => hkeeps.pure _

theorem startSignature (name : String) (opened : OpenSignature) (slot : String)
    (plainRsa : Bool) : Along (OnWorlds W) (startSignature name opened slot plainRsa).run := by
  have hkeeps := h.keeps
  have hstart (key : Key) : Native.Along W
      (opened.signature.start (World.boundary opened.engine) key plainRsa) :=
    Signature.start_along (h.movesBy opened.engine) trivial key plainRsa
  refine hkeeps.bind (hkeeps.inSlot _ _) fun key => ?_
  refine hkeeps.bind (fun session => h.hold session.world key) fun _ => ?_
  refine hkeeps.bind (hkeeps.within (hstart key)) fun _ => ?_
  refine hkeeps.bind (fun _ => h.of_slots rfl) fun _ => ?_
  exact hkeeps.bind (hkeeps.settled _) fun _ => hkeeps.pure _

theorem dropKey (name : String) : Along (OnWorlds W) (dropSlot name .key).run := by
  intro session
  have herased : OnWorlds W session { session with keys := session.keys.erase name } :=
    h.of_slots rfl
  rw [dropKey_state]
  cases session.keys.find? name with
  | none => exact h.keeps.refl session
  | some key => exact h.keeps.trans herased (h.releaseKey key _)

theorem dropDigest (name : String) : Along (OnWorlds W) (dropSlot name .digest).run := by
  intro session
  have herased : OnWorlds W session { session with digests := session.digests.erase name } :=
    h.of_slots rfl
  rw [dropDigest_state]
  cases session.digests.find? name with
  | none => exact h.keeps.refl session
  | some opened => exact h.keeps.trans herased (h.keeps.freeDigest trivial _)

theorem dropSignatureSlot (name : String) :
    Along (OnWorlds W) (dropSlot name .signature).run := by
  intro session
  have herased : OnWorlds W session { session with signatures := session.signatures.erase name } :=
    h.of_slots rfl
  rw [dropSignature_state]
  cases session.signatures.find? name with
  | none => exact h.keeps.refl session
  | some opened => exact h.keeps.trans herased (h.dropSignature opened _)

/-- The world moves by the relation at every step that changes no keys. -/
theorem perform {step : Step} (hstep : step.changesKeys = false) (session : Session) :
    OnWorlds W session ((perform step).run session).2 := by
  cases hcalls : step.callsOnly with
  | true => exact h.keeps.perform hcalls fun _ _ _ => trivial
  | false =>
      cases step with
      | generateEc engine slot entropy => cases hstep
      | generateRsa engine slot bits p q => cases hstep
      | freeKey engine handle => cases hstep
      | shareKey key slot => exact h.shareKey key slot session
      | newKey slot handles algorithm => exact h.newKey slot handles algorithm session
      | newDigest slot context algorithm => exact h.newDigest slot context algorithm session
      | newSignature slot context algorithm => exact h.newSignature slot context algorithm session
      | signature name step =>
          cases step with
          | start key plainRsa =>
              exact inSlot_bind (h.keeps.refl session) fun opened _ =>
                h.startSignature name opened key plainRsa session
          | _ => cases hcalls
      | drop kind name =>
          rw [Session.perform, run_bind_pure]
          cases kind with
          | signature => exact h.dropSignatureSlot name session
          | digest => exact h.dropDigest name session
          | key => exact h.dropKey name session
          | _ => cases hcalls
      | _ => cases hcalls

theorem step {step : Step} (hstep : step.changesKeys = false) (session : Session) :
    W session.world (session.step step).2.world :=
  h.perform hstep { session with calls := #[], events := #[] }

end Persists

end SigningEngine.Session
