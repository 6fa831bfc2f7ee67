import SigningEngine.Proofs.Session.Generated

/-!
# Which keys are in the slots

A key gets into a slot when its pair is generated, when a reference to it is shared, or when a
scripted key is made, and out of it when the slot is emptied or another key takes its place. Every
other step leaves the slots of keys as they are, whatever it does otherwise.

The main statement is `step_sameKeys`; the steps that do move keys have an equation each.
-/

namespace SigningEngine.Session

variable {session : Session}

/-- The slots of keys stay as they are. -/
def SameKeys (session next : Session) : Prop := next.keys = session.keys

theorem sameKeys_keeps : Keeps (fun _ _ => True) (fun _ _ => True) SameKeys where
  refl _ := rfl
  trans first second := Eq.trans second first
  called _ :=
    { refl := fun _ => trivial
      trans := fun _ _ => trivial
      behind := fun _ _ => trivial
      read := fun _ _ => trivial }
  addSoftware _ _ := trivial
  addScripted _ _ := trivial
  setHandles _ _ _ := trivial
  of_world _ hkeys _ _ := hkeys

/-- Whether a step puts a key into a slot or empties one. -/
def Step.movesKeys : Step → Bool
  | .generateEc _ _ _ => true
  | .generateRsa _ _ _ _ _ => true
  | .shareKey _ _ => true
  | .newKey _ _ _ => true
  | .drop .key _ => true
  | _ => false

/-! ### Steps that move no keys -/

theorem dropSignature_sameKeys (opened : OpenSignature) :
    Along SameKeys (dropSignature opened).run :=
  sameKeys_keeps.attempt (Signature.drop_along
    { sameKeys_keeps.called opened.engine with release := fun _ _ => trivial } trivial)

theorem putDigest_sameKeys (slot : String) (opened : OpenDigest) :
    Along SameKeys (putDigest slot opened).run := by
  intro session
  rw [putDigest_run]
  cases session.digests.find? slot with
  | none => rfl
  | some previous => exact sameKeys_keeps.freeDigest trivial _

theorem putSignature_sameKeys (slot : String) (opened : OpenSignature) :
    Along SameKeys (putSignature slot opened).run := by
  intro session
  rw [putSignature_run]
  cases session.signatures.find? slot with
  | none => rfl
  | some previous => exact dropSignature_sameKeys previous _

theorem newDigest_sameKeys (slot context algorithm : String) :
    Along SameKeys (newDigest slot context algorithm).run := by
  have hkeeps := sameKeys_keeps
  refine hkeeps.bind (hkeeps.inSlot _ _) fun place => ?_
  refine hkeeps.bind (hkeeps.contextAt _ _) fun opened => ?_
  refine hkeeps.bind (hkeeps.attempt (Digest.create_along (hkeeps.called _) _ _)) fun digest => ?_
  exact hkeeps.bind (putDigest_sameKeys slot _) fun _ => hkeeps.pure _

theorem newSignature_sameKeys (slot context algorithm : String) :
    Along SameKeys (newSignature slot context algorithm).run := by
  have hkeeps := sameKeys_keeps
  refine hkeeps.bind (hkeeps.inSlot _ _) fun place => ?_
  refine hkeeps.bind (hkeeps.contextAt _ _) fun opened => ?_
  refine hkeeps.bind (hkeeps.attempt (Signature.create_along (hkeeps.called _) _ _))
    fun signature => ?_
  exact hkeeps.bind (putSignature_sameKeys slot _) fun _ => hkeeps.pure _

theorem startSignature_sameKeys (name : String) (opened : OpenSignature) (slot : String)
    (plainRsa : Bool) : Along SameKeys (startSignature name opened slot plainRsa).run := by
  intro session
  cases hkey : session.keys.find? slot with
  | none =>
      rw [startSignature, run_bind, inSlot_run, hkey]
      rfl
  | some key =>
      rw [startSignature_run name opened plainRsa hkey]
      rfl

theorem dropDigest_sameKeys (name : String) : Along SameKeys (dropSlot name .digest).run := by
  intro session
  rw [dropDigest_state]
  cases session.digests.find? name with
  | none => rfl
  | some opened => exact sameKeys_keeps.freeDigest trivial _

theorem dropSignatureSlot_sameKeys (name : String) :
    Along SameKeys (dropSlot name .signature).run := by
  intro session
  rw [dropSignature_state]
  cases session.signatures.find? name with
  | none => rfl
  | some opened => exact dropSignature_sameKeys opened _

theorem perform_sameKeys {step : Step} (h : step.movesKeys = false) (session : Session) :
    SameKeys session ((perform step).run session).2 := by
  cases hcalls : step.callsOnly with
  | true => exact sameKeys_keeps.perform hcalls fun _ _ _ => trivial
  | false =>
      cases step with
      | freeKey engine handle =>
          exact softwareEngine_bind (P := SameKeys session) rfl fun _ _ _ => rfl
      | newDigest slot context algorithm => exact newDigest_sameKeys slot context algorithm session
      | newSignature slot context algorithm =>
          exact newSignature_sameKeys slot context algorithm session
      | signature name step =>
          cases step with
          | start key plainRsa =>
              exact inSlot_bind (P := SameKeys session) rfl fun opened _ =>
                startSignature_sameKeys name opened key plainRsa session
          | _ => cases hcalls
      | drop kind name =>
          rw [perform, run_bind_pure]
          cases kind with
          | signature => exact dropSignatureSlot_sameKeys name session
          | digest => exact dropDigest_sameKeys name session
          | key => cases h
          | _ => cases hcalls
      | generateEc engine slot entropy => cases h
      | generateRsa engine slot bits p q => cases h
      | shareKey key slot => cases h
      | newKey slot handles algorithm => cases h
      | _ => cases hcalls

theorem step_sameKeys {step : Step} (h : step.movesKeys = false) (session : Session) :
    (session.step step).2.keys = session.keys :=
  perform_sameKeys h { session with calls := #[], events := #[] }

/-! ### Steps that move keys -/

theorem putKey_keys (slot : String) (key : Key) (session : Session) :
    (putKey slot key session).2.keys = session.keys.insert slot key := by
  rw [putKey_run]
  cases session.keys.find? slot <;> rfl

/-- Sharing puts the key of one slot into another. -/
theorem step_shareKey_keys {key : String} (slot : String) {found : Key}
    (h : session.keys.find? key = some found) :
    (session.step (.shareKey key slot)).1.isOk = true ∧
      (session.step (.shareKey key slot)).2.keys = session.keys.insert slot found := by
  let cleared : Session := { session with calls := #[], events := #[] }
  have hcleared : cleared.keys.find? key = some found := h
  have hrun : session.step (.shareKey key slot) =
      (.ok .done, (putKey slot found { cleared with world := cleared.world.hold found }).2) := by
    show (inSlot Session.keys key >>= _).run cleared = _
    rw [run_bind, inSlot_run, hcleared]
    rfl
  rw [hrun]
  exact ⟨rfl, putKey_keys slot found _⟩

theorem step_shareKey_of_none {key : String} (slot : String)
    (h : session.keys.find? key = none) :
    (session.step (.shareKey key slot)).1.isOk = false ∧
      (session.step (.shareKey key slot)).2.keys = session.keys := by
  let cleared : Session := { session with calls := #[], events := #[] }
  have hcleared : cleared.keys.find? key = none := h
  have hrun : session.step (.shareKey key slot) = (.error (.noSlot key), cleared) := by
    show (inSlot Session.keys key >>= _).run cleared = _
    rw [run_bind, inSlot_run, hcleared]
  rw [hrun]
  exact ⟨rfl, rfl⟩

/-- A scripted key takes the place of what was in its slot. -/
theorem step_newKey_keys (slot : String) (handles : List KeyHandle) (algorithm : String)
    (session : Session) :
    ∃ key, (session.step (.newKey slot handles algorithm)).1.isOk = true ∧
      (session.step (.newKey slot handles algorithm)).2.keys =
        session.keys.insert slot (.scripted key) := by
  let cleared : Session := { session with calls := #[], events := #[] }
  let added := cleared.world.addScriptedKey handles algorithm
  have hrun : session.step (.newKey slot handles algorithm) =
      (.ok .done, (putKey slot added.1 { cleared with world := added.2 }).2) := rfl
  rw [hrun]
  exact ⟨_, rfl, putKey_keys slot _ _⟩

theorem step_dropKey_keys (name : String) (session : Session) :
    (session.step (.drop .key name)).1.isOk = true ∧
      (session.step (.drop .key name)).2.keys = session.keys.erase name := by
  let cleared : Session := { session with calls := #[], events := #[] }
  show ((dropSlot name .key >>= _).run cleared).1.isOk = true ∧
    ((dropSlot name .key >>= _).run cleared).2.keys = _
  rw [dropSlot, run_bind, run_bind, get_run]
  cases hfound : session.keys.find? name with
  | some key =>
      have hcleared : cleared.keys.find? name = some key := hfound
      simp only [hcleared]
      exact ⟨rfl, rfl⟩
  | none =>
      have hcleared : cleared.keys.find? name = none := hfound
      simp only [hcleared]
      exact ⟨rfl, (Table.erase_of_find?_eq_none hfound).symm⟩

end SigningEngine.Session
