import SigningEngine.Proofs.Custody
import SigningEngine.Proofs.Session.Coverage

/-!
# Who holds references in a session

Callers hold the references in the slots of keys, and a signature in a slot holds the reference to
the key it is bound to. A step hands references on, binds them or gives them back, and loses none:
also those are answered for that a step has in hand while objects take their slots.
-/

namespace SigningEngine

open Software (KeyMaterial Halves)

/-- The reference to the bound key, if there is one. -/
def OpenSignature.bound (opened : OpenSignature) : List Key := opened.signature.key.toList

namespace Session

variable {id : EngineId} {session next : Session} {slot : String} {key : Key}
variable {unfreed : List (KeyHandle × KeyMaterial)} {inHand : List Key}
variable {opened : OpenSignature}

/-! ### References that are held -/

/-- The references that callers hold, and those of the bound keys of signatures. -/
def heldKeys (session : Session) : List Key :=
  session.keys.values ++ session.signatures.values.flatMap OpenSignature.bound

/-- An engine keeps what is not freed and held, be it in slots or in hand. -/
def Keeping (id : EngineId) (unfreed : List (KeyHandle × KeyMaterial)) (inHand : List Key)
    (session : Session) : Prop :=
  World.Custody id unfreed (inHand ++ session.heldKeys) session.world

namespace Keeping

/-- References in hand are put into slots of keys, and others are taken out. -/
theorem exchangeKeys (given : List Key) {taken : List Key} {keys : Table String Key}
    (h : Keeping id unfreed (given ++ inHand) session)
    (hkeys : (taken ++ keys.values).Perm (given ++ session.keys.values)) :
    Keeping id unfreed (taken ++ inHand) { session with keys } := by
  refine World.Custody.perm h (List.perm_iff_count.mpr fun key => ?_)
  have hcount := hkeys.count_eq key
  simp only [heldKeys, List.count_append] at hcount ⊢
  omega

theorem exchangeSignatures (given : List OpenSignature) {taken : List OpenSignature}
    {signatures : Table String OpenSignature}
    (h : Keeping id unfreed (given.flatMap OpenSignature.bound ++ inHand) session)
    (hsignatures : (taken ++ signatures.values).Perm (given ++ session.signatures.values)) :
    Keeping id unfreed (taken.flatMap OpenSignature.bound ++ inHand)
      { session with signatures } := by
  refine World.Custody.perm h (List.perm_iff_count.mpr fun key => ?_)
  have hcount := (hsignatures.flatMap_right OpenSignature.bound).count_eq key
  simp only [heldKeys, List.flatMap_append, List.count_append] at hcount ⊢
  omega

theorem insertKey (h : Keeping id unfreed (key :: inHand) session) (slot : String) :
    Keeping id unfreed ((session.keys.find? slot).toList ++ inHand)
      { session with keys := session.keys.insert slot key } :=
  exchangeKeys [key] h (session.keys.values_perm_insert slot key)

theorem eraseKey (h : Keeping id unfreed inHand session) (slot : String) :
    Keeping id unfreed ((session.keys.find? slot).toList ++ inHand)
      { session with keys := session.keys.erase slot } :=
  exchangeKeys [] h (session.keys.values_perm_erase slot)

theorem insertSignature (h : Keeping id unfreed (opened.bound ++ inHand) session) (slot : String) :
    Keeping id unfreed
      ((session.signatures.find? slot).toList.flatMap OpenSignature.bound ++ inHand)
      { session with signatures := session.signatures.insert slot opened } := by
  rw [← List.flatMap_singleton OpenSignature.bound opened] at h
  exact h.exchangeSignatures [opened] (session.signatures.values_perm_insert slot opened)

theorem eraseSignature (h : Keeping id unfreed inHand session) (slot : String) :
    Keeping id unfreed
      ((session.signatures.find? slot).toList.flatMap OpenSignature.bound ++ inHand)
      { session with signatures := session.signatures.erase slot } :=
  exchangeSignatures [] h (session.signatures.values_perm_erase slot)

theorem insertErased
    (h : Keeping id unfreed (opened.bound ++ inHand)
      { session with signatures := session.signatures.erase slot }) :
    Keeping id unfreed inHand
      { session with signatures := session.signatures.insert slot opened } := by
  have hvalues : ([] ++ (session.signatures.insert slot opened).values).Perm
      ([opened] ++ (session.signatures.erase slot).values) := .refl _
  rw [← List.flatMap_singleton OpenSignature.bound opened] at h
  exact h.exchangeSignatures [opened] hvalues

/-- One more reference is taken of a key that a caller holds. -/
theorem hold (h : Keeping id unfreed inHand session) (hkey : session.keys.find? slot = some key) :
    Keeping id unfreed (key :: inHand) { session with world := session.world.hold key } := by
  refine World.Custody.hold h fun _ _ => ?_
  have hmem : key ∈ session.keys.values :=
    List.mem_map.mpr ⟨_, Table.find?_eq_some_iff.mp hkey, rfl⟩
  exact List.mem_append_right _ (List.mem_append_left _ hmem)

theorem releaseKey (h : Keeping id unfreed (key :: inHand) session) :
    Keeping id unfreed inHand (releaseKey key session).2 :=
  World.Custody.release h

theorem putKey (h : Keeping id unfreed (key :: inHand) session) (slot : String) :
    Keeping id unfreed inHand (putKey slot key session).2 := by
  have hput := h.insertKey slot
  rw [putKey_run]
  cases hfound : session.keys.find? slot with
  | none =>
      rw [hfound] at hput
      exact hput
  | some previous =>
      rw [hfound] at hput
      exact hput.releaseKey

theorem dropSignature (h : Keeping id unfreed (opened.bound ++ inHand) session) :
    Keeping id unfreed inHand ((dropSignature opened).run session).2 := by
  rw [Keeping, List.append_assoc] at h
  rw [Session.dropSignature, attempt_run]
  exact World.Custody.drop h opened.engine

/-- However binding ends, the reference taken for it is bound or given back. -/
theorem start (h : Keeping id unfreed (opened.bound ++ key :: inHand) session)
    (plainRsa : Bool) :
    let started := workWithin opened.engine
      (opened.signature.start (World.boundary opened.engine) key plainRsa) session
    Keeping id unfreed (({ opened with signature := started.1.2 } : OpenSignature).bound ++ inHand)
      started.2 := by
  rw [Keeping, List.append_assoc] at h
  intro started
  rw [Keeping, List.append_assoc]
  exact World.Custody.start h opened.engine plainRsa

end Keeping

/-! ### Steps that hand references on -/

/-- All references stay answered for, and what was kept for them is kept. -/
def Preserves (id : EngineId) (session next : Session) : Prop :=
  ∀ unfreed inHand, Keeping id unfreed inHand session → Keeping id unfreed inHand next

theorem preserves_keeps (id : EngineId) :
    Keeps (fun _ _ => True) (World.Steady id) (Preserves id) where
  refl _ _ _ h := h
  trans first second _ _ h := second _ _ (first _ _ h)
  called other := World.boundary_steady id other
  addSoftware world _ :=
    ⟨World.addEngine_keepsKeys world fun _ heq => (Engine.software.inj heq) ▸ rfl, rfl⟩
  addScripted world _ := ⟨World.addEngine_keepsKeys world fun _ heq => (by cases heq), rfl⟩
  setHandles _ _ key := by cases key <;> exact ⟨.of_eq rfl, rfl⟩
  of_world hworld hkeys _ hsignatures _ _ h := by
    rw [Keeping, heldKeys, hkeys, hsignatures]
    exact World.Custody.steady h hworld

theorem putDigest_preserves (slot : String) (opened : OpenDigest) :
    Along (Preserves id) (putDigest slot opened).run := by
  intro session
  have hkeeps := preserves_keeps id
  have hput : Preserves id session
      { session with digests := session.digests.insert slot opened } := fun _ _ h => h
  rw [putDigest_run]
  cases session.digests.find? slot with
  | none => exact hput
  | some previous => exact hkeeps.trans hput (hkeeps.freeDigest trivial _)

theorem newDigest_preserves (slot context algorithm : String) :
    Along (Preserves id) (newDigest slot context algorithm).run := by
  have hkeeps := preserves_keeps id
  refine hkeeps.bind (hkeeps.inSlot _ _) fun place => ?_
  refine hkeeps.bind (hkeeps.contextAt _ _) fun opened => ?_
  refine hkeeps.bind (hkeeps.attempt (Digest.create_along (hkeeps.called _) _ _)) fun digest => ?_
  exact hkeeps.bind (putDigest_preserves _ _) fun _ => hkeeps.pure _

theorem dropDigest_preserves (name : String) :
    Along (Preserves id) (dropSlot name .digest).run := by
  intro session
  have hkeeps := preserves_keeps id
  have herased : Preserves id session
      { session with digests := session.digests.erase name } := fun _ _ h => h
  rw [dropDigest_state]
  cases session.digests.find? name with
  | none => exact hkeeps.refl session
  | some opened => exact hkeeps.trans herased (hkeeps.freeDigest trivial _)

theorem dropKey_preserves (name : String) : Along (Preserves id) (dropSlot name .key).run := by
  intro session unfreed inHand h
  have herased := h.eraseKey name
  rw [dropKey_state]
  cases hfound : session.keys.find? name with
  | none => exact h
  | some key =>
      rw [hfound] at herased
      exact herased.releaseKey

theorem dropSignature_preserves (name : String) :
    Along (Preserves id) (dropSlot name .signature).run := by
  intro session unfreed inHand h
  have herased := h.eraseSignature name
  rw [dropSignature_state]
  cases hfound : session.signatures.find? name with
  | none => exact h
  | some opened =>
      rw [hfound, Option.toList_some, List.flatMap_singleton] at herased
      exact herased.dropSignature

theorem shareKey_preserves (key slot : String) :
    Along (Preserves id) (perform (.shareKey key slot)).run := by
  intro session
  refine inSlot_bind ((preserves_keeps id).refl session) fun found hfound _ _ h => ?_
  exact (h.hold hfound).putKey slot

theorem newKey_preserves (slot : String) (handles : List KeyHandle) (algorithm : String) :
    Along (Preserves id) (perform (.newKey slot handles algorithm)).run := by
  intro session unfreed inHand h
  have hadded : Keeping id unfreed
      ((session.world.addScriptedKey handles algorithm).1 :: inHand)
      { session with world := (session.world.addScriptedKey handles algorithm).2 } := by
    have hworld : World.Custody id unfreed (inHand ++ session.heldKeys)
        { session.world with
          scriptedHandles := session.world.scriptedHandles.push handles } :=
      World.Custody.steady h ⟨.of_eq rfl, rfl⟩
    exact hworld.hold fun _ hof => by cases hof
  exact hadded.putKey slot

/-- A new signature is bound to no key. -/
theorem putSignature_preserves (slot : String) (hbound : opened.bound = []) :
    Along (Preserves id) (putSignature slot opened).run := by
  intro session unfreed inHand h
  have hput : Keeping id unfreed
      ((session.signatures.find? slot).toList.flatMap OpenSignature.bound ++ inHand)
      { session with signatures := session.signatures.insert slot opened } :=
    Keeping.insertSignature (by rwa [hbound]) slot
  rw [putSignature_run]
  cases hfound : session.signatures.find? slot with
  | none =>
      rw [hfound] at hput
      exact hput
  | some previous =>
      rw [hfound, Option.toList_some, List.flatMap_singleton] at hput
      exact hput.dropSignature

theorem newSignature_preserves (slot context algorithm : String) :
    Along (Preserves id) (newSignature slot context algorithm).run := by
  intro session
  have hkeeps := preserves_keeps id
  refine inSlot_bind (hkeeps.refl session) fun place _ => ?_
  refine contextAt_bind (hkeeps.refl session) fun found _ => ?_
  have hcreated := hkeeps.workWithin found.engine
    (Signature.create_along (hkeeps.called found.engine) found.context.handle algorithm) session
  refine attempt_bind hcreated fun signature hsignature => ?_
  have hbound : ({ engine := found.engine, context := place, signature } : OpenSignature).bound =
      [] := by
    rw [OpenSignature.bound, (Signature.create_eq_ok _ (Prod.ext hsignature rfl)).2]
    rfl
  rw [run_bind_pure]
  exact hkeeps.trans hcreated (putSignature_preserves slot hbound _)

theorem startSignature_preserves {name : String}
    (hopened : session.signatures.find? name = some opened) (slot : String) (plainRsa : Bool) :
    Preserves id session ((startSignature name opened slot plainRsa).run session).2 := by
  cases hkey : session.keys.find? slot with
  | none =>
      rw [startSignature, run_bind, inSlot_run, hkey]
      exact (preserves_keeps id).refl session
  | some key =>
      intro unfreed inHand h
      have htaken := (h.hold hkey).eraseSignature name
      rw [hopened, Option.toList_some, List.flatMap_singleton] at htaken
      have hstarted := htaken.start plainRsa
      rw [startSignature_run name opened plainRsa hkey]
      exact Keeping.insertErased hstarted

end Session

end SigningEngine
