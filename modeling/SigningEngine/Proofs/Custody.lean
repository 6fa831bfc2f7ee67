import SigningEngine.Proofs.Moves
import SigningEngine.Proofs.World

/-!
# Who keeps key material

A software engine keeps the material of a key for as long as there is a reference to the key and the
engine was not made to forget it. `Custody` says so of one engine, by the keys of it that were not
freed and by the references that somebody answers for. Every reference is answered for once, also
those that an operation has in hand, so that none is given back once too often.
-/

namespace SigningEngine

/-- Whether a key is the one that an engine numbers so. -/
def Key.isOf (id : EngineId) (handle : KeyHandle) : Key → Bool
  | .software key => key.engine = id && key.handle = handle
  | .scripted _ => false

theorem Key.isOf_software {id : EngineId} {handle : KeyHandle} {key : SoftwareKey} :
    (Key.software key).isOf id handle = true ↔ key.engine = id ∧ key.handle = handle := by
  simp [isOf]

namespace World

variable {id other : EngineId} {world middle next : World} {engine later : Software.Engine}

/-! ### What calls leave -/

/-- An engine keeps its keys. -/
structure KeepsKeys (id : EngineId) (world next : World) : Prop where
  engine {engine : Software.Engine} : world.softwareEngine? id = some engine →
    ∃ later, next.softwareEngine? id = some later ∧ later.keys = engine.keys ∧
      engine.issued ≤ later.issued
  added {later : Software.Engine} : world.softwareEngine? id = none →
    next.softwareEngine? id = some later → later.keys = ∅

theorem KeepsKeys.of_eq (h : next.softwareEngine? id = world.softwareEngine? id) :
    KeepsKeys id world next where
  engine hengine := ⟨_, h.trans hengine, rfl, Nat.le_refl _⟩
  added hnone hlater := by
    rw [h, hnone] at hlater
    cases hlater

theorem KeepsKeys.trans (first : KeepsKeys id world middle) (second : KeepsKeys id middle next) :
    KeepsKeys id world next where
  engine hengine := by
    obtain ⟨later, hlater, hkeys, hissued⟩ := first.engine hengine
    obtain ⟨last, hlast, hlastKeys, hlastIssued⟩ := second.engine hlater
    exact ⟨last, hlast, hlastKeys.trans hkeys, Nat.le_trans hissued hlastIssued⟩
  added hnone hlast := by
    cases hmiddle : middle.softwareEngine? id with
    | none => exact second.added hmiddle hlast
    | some later =>
        obtain ⟨last, hsame, hkeys, -⟩ := second.engine hmiddle
        rw [hsame, Option.some.injEq] at hlast
        rw [← hlast, hkeys]
        exact first.added hnone hmiddle

theorem setEngine_keepsKeys_of_ne (h : id ≠ other) (engine : Engine) :
    KeepsKeys id world (world.setEngine other engine) :=
  .of_eq (softwareEngine?_setEngine_of_ne h engine)

/-- An engine takes the place of another one that has the same keys. -/
theorem setEngine_keepsKeys (hengine : world.softwareEngine? id = some engine)
    (hkeys : later.keys = engine.keys) (hissued : engine.issued ≤ later.issued) :
    KeepsKeys id world (world.setEngine id (.software later)) where
  engine hfound := by
    rw [hengine, Option.some.injEq] at hfound
    exact ⟨later, softwareEngine?_setEngine hengine later, hfound ▸ hkeys, hfound ▸ hissued⟩
  added hnone _ := by
    rw [hengine] at hnone
    cases hnone

theorem setScripted_keepsKeys {engine later : Scripted.Engine}
    (hengine : world.engines[id]? = some (.scripted engine)) :
    KeepsKeys id world (world.setEngine id (.scripted later)) := by
  obtain ⟨hbound, -⟩ := Array.getElem?_eq_some_iff.mp hengine
  apply KeepsKeys.of_eq
  rw [softwareEngine?, softwareEngine?, hengine, setEngine,
    Array.getElem?_setIfInBounds_self_of_lt hbound]
  rfl

theorem respond_keepsKeys (world : World) (other : EngineId) (call : NativeCall) :
    KeepsKeys id world (world.respond other call).state := by
  by_cases hother : id = other
  · subst hother
    rw [respond]
    split
    next => exact .of_eq rfl
    next engine hengine =>
      cases engine with
      | software engine =>
          have hevolves : engine.Evolves (fun _ => True) (engine.reply call).2 :=
            engine.reply_evolves call fun _ _ => trivial
          exact setEngine_keepsKeys (softwareEngine?_eq_some.mpr hengine)
            (engine.reply_keys call) hevolves.issued
      | scripted engine => exact setScripted_keepsKeys hengine
  · rw [respond]
    split
    · exact .of_eq rfl
    · exact setEngine_keepsKeys_of_ne hother _

/-- A new engine has a place of its own, and no keys. -/
theorem addEngine_keepsKeys (world : World) {engine : Engine}
    (hengine : ∀ software, engine = .software software → software.keys = ∅) :
    KeepsKeys id world (world.addEngine engine).2 where
  engine hfound := by
    refine ⟨_, ?_, rfl, Nat.le_refl _⟩
    rw [softwareEngine?_eq_some] at hfound ⊢
    obtain ⟨hbound, -⟩ := Array.getElem?_eq_some_iff.mp hfound
    rw [addEngine, Array.getElem?_push_lt hbound, ← hfound, Array.getElem?_eq_getElem hbound]
  added hnone hlater := by
    rw [softwareEngine?_eq_some, addEngine, Array.getElem?_push] at hlater
    split at hlater
    next => exact hengine _ (Option.some.inj hlater)
    next =>
      rw [softwareEngine?_eq_some.mpr hlater] at hnone
      cases hnone

/-- An engine keeps its keys, and every reference stays. -/
structure Steady (id : EngineId) (world next : World) : Prop extends KeepsKeys id world next where
  references : next.references = world.references

theorem steady_lasting : Lasting (Steady id) where
  refl _ := ⟨.of_eq rfl, rfl⟩
  trans first second :=
    ⟨first.toKeepsKeys.trans second.toKeepsKeys, second.references.trans first.references⟩

theorem respond_references (world : World) (other : EngineId) (call : NativeCall) :
    (world.respond other call).state.references = world.references := by
  rw [respond]
  split <;> rfl

theorem readHandle_references (world : World) (key : Key) :
    (world.readHandle key).2.references = world.references := by
  cases key with
  | software key => rfl
  | scripted key =>
      rw [readHandle]
      split <;> rfl

/-- Whatever is called, keys are neither generated nor let go. -/
theorem boundary_steady (id other : EngineId) :
    (boundary other).CalledBy (fun _ => True) (Steady id) where
  toLasting := steady_lasting
  behind world _ := ⟨respond_keepsKeys world other _, respond_references world other _⟩
  read key world :=
    ⟨.of_eq (by rw [softwareEngine?, softwareEngine?, boundary, readHandle_engines]),
      readHandle_references world key⟩

/-! ### Custody -/

/-- Some of the references are to the key that an engine numbers so. -/
def Referenced (id : EngineId) (handle : KeyHandle) (references : List Key) : Prop :=
  ∃ key ∈ references, key.isOf id handle = true

theorem referenced_cons {handle : KeyHandle} {key : Key} {references : List Key} :
    Referenced id handle (key :: references) ↔
      key.isOf id handle = true ∨ Referenced id handle references := by
  simp [Referenced]

/-- An engine keeps the material of its keys that were not freed and to which there is a reference,
and no other material. The references of the world are the ones that are answered for. -/
structure Custody (id : EngineId) (unfreed : List (KeyHandle × Software.KeyMaterial))
    (references : List Key) (world : World) : Prop where
  held : world.references.Perm references
  /-- The references to one key are all alike. -/
  single {key other : Key} {handle : KeyHandle} : key ∈ references → other ∈ references →
    key.isOf id handle = true → other.isOf id handle = true → key = other
  nodup : (unfreed.map Prod.fst).Nodup
  issued {handle : KeyHandle} :
    handle ∈ unfreed.map Prod.fst ∨ Referenced id handle references →
      ∃ engine, world.softwareEngine? id = some engine ∧ handle.raw.toNat ≤ engine.issued
  material {engine : Software.Engine} (hengine : world.softwareEngine? id = some engine)
      (handle : KeyHandle) (material : Software.KeyMaterial) :
    engine.keys.find? handle = some material ↔
      (handle, material) ∈ unfreed ∧ Referenced id handle references

theorem custody_empty (id : EngineId) : Custody id [] [] {} where
  held := .refl []
  single h := by cases h
  nodup := .nil
  issued := by simp [Referenced]
  material hengine := by cases hengine

namespace Custody

variable {unfreed : List (KeyHandle × Software.KeyMaterial)} {references after : List Key}
variable {key : Key}

/-- No key was generated by an engine that is not there. -/
theorem eq_nil (h : Custody id unfreed references world)
    (hnone : world.softwareEngine? id = none) : unfreed = [] := by
  rw [List.eq_nil_iff_forall_not_mem]
  intro key hmem
  obtain ⟨engine, hengine, -⟩ := h.issued (.inl (List.mem_map_of_mem hmem))
  rw [hnone] at hengine
  cases hengine

/-- The engine keeps its keys, and the references to keys of it are to the same ones. -/
theorem of_same (h : Custody id unfreed references world) (hkeeps : KeepsKeys id world next)
    (hreferences : next.references.Perm after)
    (hsame : ∀ key handle, key.isOf id handle = true → (key ∈ after ↔ key ∈ references)) :
    Custody id unfreed after next := by
  have hreferenced (handle : KeyHandle) :
      Referenced id handle after ↔ Referenced id handle references := by
    constructor
    · rintro ⟨key, hmem, hkey⟩
      exact ⟨key, (hsame key handle hkey).mp hmem, hkey⟩
    · rintro ⟨key, hmem, hkey⟩
      exact ⟨key, (hsame key handle hkey).mpr hmem, hkey⟩
  exact
    { held := hreferences
      single := fun hmem hother hkey hotherKey =>
        h.single ((hsame _ _ hkey).mp hmem) ((hsame _ _ hotherKey).mp hother) hkey hotherKey
      nodup := h.nodup
      issued := fun hknown => by
        obtain ⟨engine, hengine, hle⟩ := h.issued (hknown.imp_right (hreferenced _).mp)
        obtain ⟨later, hlater, -, hissued⟩ := hkeeps.engine hengine
        exact ⟨later, hlater, Nat.le_trans hle hissued⟩
      material := fun {later} hlater handle material => by
        rw [hreferenced]
        cases hengine : world.softwareEngine? id with
        | some engine =>
            obtain ⟨found, hfound, hkeys, -⟩ := hkeeps.engine hengine
            rw [hlater, Option.some.injEq] at hfound
            rw [hfound, hkeys]
            exact h.material hengine handle material
        | none =>
            rw [hkeeps.added hengine hlater, h.eq_nil hengine]
            simp }

theorem le_issued (h : Custody id unfreed references world)
    (hengine : world.softwareEngine? id = some engine) {handle : KeyHandle}
    (hknown : handle ∈ unfreed.map Prod.fst ∨ Referenced id handle references) :
    handle.raw.toNat ≤ engine.issued := by
  obtain ⟨found, hfound, hle⟩ := h.issued hknown
  rw [hengine, Option.some.injEq] at hfound
  exact hfound ▸ hle

theorem perm (h : Custody id unfreed references world) (hperm : references.Perm after) :
    Custody id unfreed after world :=
  h.of_same (.of_eq rfl) (h.held.trans hperm) fun _ _ _ => hperm.mem_iff.symm

theorem steady (h : Custody id unfreed references world) (hsteady : Steady id world next) :
    Custody id unfreed references next :=
  h.of_same hsteady.toKeepsKeys (hsteady.references ▸ h.held) fun _ _ _ => .rfl

/-! ### References -/

/-- One more reference to a key that is referenced, or to a key of another engine. -/
theorem hold (h : Custody id unfreed references world)
    (hkey : ∀ handle, key.isOf id handle = true → key ∈ references) :
    Custody id unfreed (key :: references) (world.hold key) := by
  refine h.of_same (.of_eq rfl) (h.held.cons key) fun other handle hother => ?_
  rw [List.mem_cons, or_iff_right_iff_imp]
  rintro rfl
  exact hkey handle hother

theorem erase (h : Custody id unfreed (key :: references) world) :
    (world.references.erase key).Perm references := by
  rw [← List.erase_cons_head key references]
  exact h.held.erase key

/-- A reference goes that is not the last one to a key, or is to a key of another engine. -/
theorem of_erase (h : Custody id unfreed (key :: references) world)
    (hkeeps : KeepsKeys id world next) (hreferences : next.references = world.references.erase key)
    (hkey : ∀ handle, key.isOf id handle = true → key ∈ references) :
    Custody id unfreed references next := by
  refine h.of_same hkeeps (hreferences ▸ h.erase) fun other handle hother => ?_
  rw [List.mem_cons, iff_or_self]
  rintro rfl
  exact hkey handle hother

/-- The last reference to a key goes, and with it the material. -/
theorem forget {key : SoftwareKey} (h : Custody key.engine unfreed (.software key :: references) world)
    (hlast : Key.software key ∉ references)
    (hengine : world.softwareEngine? key.engine = some engine)
    (hnext : next.softwareEngine? key.engine = some (engine.eraseKey key.handle))
    (hreferences : next.references = world.references.erase (.software key)) :
    Custody key.engine unfreed references next where
  held := hreferences ▸ h.erase
  single hmem hother :=
    h.single (List.mem_cons_of_mem _ hmem) (List.mem_cons_of_mem _ hother)
  nodup := h.nodup
  issued hknown := by
    refine ⟨_, hnext, h.le_issued hengine ?_⟩
    exact hknown.imp_right fun hreferenced => referenced_cons.mpr (.inr hreferenced)
  material {later} hlater handle material := by
    rw [hnext, Option.some.injEq] at hlater
    subst hlater
    by_cases hhandle : handle = key.handle
    · -- Another reference to this key would be one more of the same.
      subst hhandle
      refine iff_of_false (by simp [Software.Engine.eraseKey]) ?_
      rintro ⟨-, other, hmem, hother⟩
      have hself : (Key.software key).isOf key.engine key.handle = true :=
        Key.isOf_software.mpr ⟨rfl, rfl⟩
      have hsame := h.single List.mem_cons_self (List.mem_cons_of_mem _ hmem) hself hother
      exact hlast (hsame ▸ hmem)
    · have hnot : ¬ (Key.software key).isOf key.engine handle = true := by
        rw [Key.isOf_software]
        exact fun hkey => hhandle hkey.2.symm
      rw [Software.Engine.eraseKey, Table.find?_erase_of_ne _ hhandle, h.material hengine,
        referenced_cons, or_iff_right hnot]

/-- A reference is given back. -/
theorem release (h : Custody id unfreed (key :: references) world) :
    Custody id unfreed references (world.release key) := by
  rw [World.release]
  split
  next hmem => exact h.of_erase (.of_eq rfl) rfl fun _ _ => h.erase.mem_iff.mp hmem
  next hlast =>
    rw [h.erase.mem_iff] at hlast
    cases key with
    | scripted key => exact h.of_erase (.of_eq rfl) rfl fun _ hkey => by cases hkey
    | software key =>
        rw [World.forget]
        by_cases hid : id = key.engine
        · subst hid
          have hreferenced : Referenced key.engine key.handle (.software key :: references) :=
            ⟨_, List.mem_cons_self, Key.isOf_software.mpr ⟨rfl, rfl⟩⟩
          obtain ⟨engine, hengine, -⟩ := h.issued (.inr hreferenced)
          have hfound : ({ world with references := world.references.erase (.software key) } :
              World).softwareEngine? key.engine = some engine := hengine
          rw [hfound]
          exact h.forget hlast hengine (softwareEngine?_setEngine hfound _) rfl
        · have hother : ∀ handle, (Key.software key).isOf id handle = true →
              Key.software key ∈ references :=
            fun handle hkey => (hid (Key.isOf_software.mp hkey).1.symm).elim
          split
          · exact h.of_erase (.of_eq rfl) rfl hother
          · exact h.of_erase (.of_eq (softwareEngine?_setEngine_of_ne hid _)) rfl hother

/-! ### Keys that are generated and freed -/

/-- A handle that is issued is none that was issued before. -/
theorem fresh (h : Custody id unfreed references world)
    (hengine : world.softwareEngine? id = some engine) {handle : KeyHandle}
    (hhandle : engine.issued < handle.raw.toNat) :
    handle ∉ unfreed.map Prod.fst ∧ ¬ Referenced id handle references := by
  rw [← not_or]
  exact fun hknown => Nat.not_lt.mpr (h.le_issued hengine hknown) hhandle

/-- A key is registered, and a reference to it is held. -/
theorem register (h : Custody id unfreed references world)
    (hengine : world.softwareEngine? id = some engine)
    (hissued : engine.issued + 1 < UInt64.size) (material : Software.KeyMaterial)
    (key : SoftwareKey) (hid : key.engine = id)
    (hhandle : key.handle = (engine.registerKey material).1) :
    Custody id ((key.handle, material) :: unfreed) (.software key :: references)
      ((world.setEngine id (.software (engine.registerKey material).2)).hold (.software key)) := by
  have hnumber : key.handle.raw.toNat = engine.issued + 1 := by
    rw [hhandle]
    exact Software.Engine.allocate_toNat hissued
  obtain ⟨hunfreed, hreferenced⟩ := h.fresh hengine (Nat.lt_of_succ_le (Nat.le_of_eq hnumber.symm))
  have hnext : ((world.setEngine id (.software (engine.registerKey material).2)).hold
      (.software key)).softwareEngine? id = some (engine.registerKey material).2 :=
    softwareEngine?_setEngine hengine _
  have hself {handle : KeyHandle} :
      (Key.software key).isOf id handle = true ↔ key.handle = handle := by
    rw [Key.isOf_software, and_iff_right hid]
  refine
    { held := h.held.cons _
      single := ?single
      nodup := List.nodup_cons.mpr ⟨hunfreed, h.nodup⟩
      issued := ?issued
      material := ?material }
  case single =>
    -- No reference that was there before is to the new key.
    intro first second handle hfirst hsecond hof hother
    rw [List.mem_cons] at hfirst hsecond
    rcases hfirst with rfl | hfirst <;> rcases hsecond with rfl | hsecond
    · rfl
    · exact (hreferenced ⟨second, hsecond, hself.mp hof ▸ hother⟩).elim
    · exact (hreferenced ⟨first, hfirst, hself.mp hother ▸ hof⟩).elim
    · exact h.single hfirst hsecond hof hother
  case issued =>
    intro handle hknown
    refine ⟨_, hnext, ?_⟩
    rw [List.map_cons, List.mem_cons, referenced_cons, hself] at hknown
    rcases hknown with (rfl | hold) | (rfl | hold)
    · exact Nat.le_of_eq hnumber
    · exact Nat.le_succ_of_le (h.le_issued hengine (.inl hold))
    · exact Nat.le_of_eq hnumber
    · exact Nat.le_succ_of_le (h.le_issued hengine (.inr hold))
  case material =>
    intro later hlater handle found
    rw [hnext, Option.some.injEq] at hlater
    subst hlater
    have hkeys : (engine.registerKey material).2.keys = engine.keys.insert key.handle material := by
      rw [hhandle]
      rfl
    rw [hkeys, referenced_cons, hself, List.mem_cons]
    by_cases hsame : key.handle = handle
    · subst hsame
      have hold : (key.handle, found) ∉ unfreed := fun hmem =>
        hunfreed (List.mem_map.mpr ⟨_, hmem, rfl⟩)
      simp [hold, eq_comm]
    · rw [Table.find?_insert_of_ne _ _ (Ne.symm hsame), h.material hengine]
      simp [hsame, Ne.symm hsame]

/-- Both halves of a pair are registered, the private one first. -/
theorem addPair (h : Custody id unfreed references world)
    (hengine : world.softwareEngine? id = some engine)
    (hissued : engine.issued + 2 < UInt64.size) (algorithm : Software.KeyAlgorithm)
    (pair : Software.Halves Software.KeyMaterial) :
    let added := world.addPair id engine algorithm pair
    Custody id
      ((added.1.publicKey.handle, pair.publicKey) ::
        (added.1.privateKey.handle, pair.privateKey) :: unfreed)
      (.software added.1.privateKey :: .software added.1.publicKey :: references) added.2 := by
  have hprivate := h.register hengine (Nat.lt_of_succ_lt hissued) pair.privateKey
    (world.addPair id engine algorithm pair).1.privateKey rfl rfl
  have hfound := softwareEngine?_setEngine hengine (engine.registerKey pair.privateKey).2
  have hpublic := hprivate.register hfound hissued pair.publicKey
    (world.addPair id engine algorithm pair).1.publicKey rfl rfl
  -- The engine takes its place twice, and only the second time counts.
  simp only [World.addPair, World.hold, World.setEngine, Array.setIfInBounds_setIfInBounds]
    at hpublic
  exact hpublic.perm (.swap _ _ _)

/-- A pair of another engine. -/
theorem addPair_of_ne (h : Custody id unfreed references world) (hother : id ≠ other)
    (algorithm : Software.KeyAlgorithm) (pair : Software.Halves Software.KeyMaterial) :
    let added := world.addPair other engine algorithm pair
    Custody id unfreed
      (.software added.1.privateKey :: .software added.1.publicKey :: references) added.2 := by
  have hset : Custody id unfreed references
      (world.setEngine other (.software (engine.registerPair pair).2)) :=
    h.steady ⟨setEngine_keepsKeys_of_ne hother _, rfl⟩
  have hforeign {key : SoftwareKey} (hkey : key.engine = other) (kept : List Key)
      (handle : KeyHandle) (hof : (Key.software key).isOf id handle = true) :
      Key.software key ∈ kept :=
    (hother ((Key.isOf_software.mp hof).1.symm.trans hkey)).elim
  exact ((hset.hold (hforeign rfl _)).hold (hforeign rfl _)).perm (.swap _ _ _)

/-- A key is freed, whether it was there or not. -/
theorem freeKey (h : Custody id unfreed references world)
    (hengine : world.softwareEngine? id = some engine) (handle : KeyHandle) :
    Custody id (unfreed.filter (·.1 ≠ handle)) references
      (world.setEngine id (.software (engine.freeKey handle).2)) := by
  have hnext := softwareEngine?_setEngine hengine (engine.freeKey handle).2
  refine
    { held := h.held
      single := h.single
      nodup := h.nodup.sublist (List.filter_sublist.map _)
      issued := ?issued
      material := ?material }
  case issued =>
    intro found hknown
    have hevolves : engine.Evolves (fun _ => True) (engine.freeKey handle).2 :=
      engine.freeKey_evolves handle
    refine ⟨_, hnext, Nat.le_trans (h.le_issued hengine ?_) hevolves.issued⟩
    exact hknown.imp_left fun hmem => (List.filter_sublist.map _).mem hmem
  case material =>
    intro later hlater found material
    rw [hnext, Option.some.injEq] at hlater
    subst hlater
    rw [engine.find?_freeKey, List.mem_filter]
    by_cases hsame : found = handle
    · simp [hsame]
    · simp [hsame, h.material hengine]

/-! ### What is kept -/

theorem liveKeys (h : Custody id unfreed references world)
    (hengine : world.softwareEngine? id = some engine) :
    engine.liveKeys = (unfreed.filter fun key => references.any (·.isOf id key.1)).length := by
  have hunfreed : unfreed.Nodup :=
    List.Pairwise.of_map Prod.fst (fun _ _ hkeys hsame => hkeys (congrArg Prod.fst hsame)) h.nodup
  apply List.Perm.length_eq
  rw [List.perm_ext_iff_of_nodup engine.keys.entries_nodup (hunfreed.filter _)]
  rintro ⟨handle, material⟩
  rw [← Table.find?_eq_some_iff, h.material hengine, List.mem_filter, List.any_eq_true, Referenced]

/-- The reference to a key that was freed is given back to no effect. -/
theorem release_of_freed {key : SoftwareKey} (h : Custody key.engine unfreed references world)
    (hfreed : key.handle ∉ unfreed.map Prod.fst) :
    (world.release (.software key)).engines = world.engines := by
  have hforget : ({ world with references := world.references.erase (.software key) } :
      World).forget (.software key) =
        { world with references := world.references.erase (.software key) } := by
    rw [World.forget]
    split
    next => rfl
    next engine hengine =>
      have habsent : engine.keys.find? key.handle = none := by
        rw [Option.eq_none_iff_forall_ne_some]
        intro material hmaterial
        have hmem := ((h.material hengine _ _).mp hmaterial).1
        exact hfreed (List.mem_map.mpr ⟨_, hmem, rfl⟩)
      rw [Software.Engine.eraseKey, Table.erase_of_find?_eq_none habsent]
      exact setEngine_self (softwareEngine?_eq_some.mp hengine)
  rw [World.release, hforget]
  split <;> rfl

/-! ### Signatures -/

variable {signature : Signature Key}

theorem unbound (h : Custody id unfreed (signature.key.toList ++ references) world)
    (other : EngineId) :
    Custody id unfreed references (signature.unboundState (boundary other) world) := by
  rw [Signature.unboundState, Signature.unboundRun]
  cases hkey : signature.key with
  | none =>
      rw [hkey] at h
      exact h
  | some key =>
      rw [hkey] at h
      exact h.release

theorem behind (h : Custody id unfreed references world) (other : EngineId) (call : NativeCall) :
    Custody id unfreed references ((boundary other).behind call world) :=
  h.steady ((boundary_steady id other).behind world fun _ _ => trivial)

/-- However binding a key ends, the reference that was bound before is given back, and the one that
was handed in is bound or given back too. -/
theorem start (h : Custody id unfreed (signature.key.toList ++ key :: references) world)
    (other : EngineId) (plainRsa : Bool) :
    let started := signature.start (boundary other) key plainRsa { state := world }
    Custody id unfreed (started.1.2.key.toList ++ references) started.2.state := by
  let started := signature.turn (boundary other) (.start key plainRsa) world
  show Custody id unfreed (started.2.1.key.toList ++ references) started.2.2
  have hreset := (h.unbound other).behind other signature.resetCall
  have hread := hreset.steady ((boundary_steady id other).read key _)
  simp only [started]
  rw [Signature.turn_start]
  simp only
  split
  · exact hreset.release
  · split
    · exact hread
    · exact hread.release

theorem drop (h : Custody id unfreed (signature.key.toList ++ references) world)
    (other : EngineId) :
    Custody id unfreed references
      ((signature.drop (boundary other)).outcome { state := world }).2.state := by
  have hfreed : Custody id unfreed (signature.key.toList ++ references)
      ((signature.digest.free (boundary other)).outcome { state := world }).2.state :=
    h.steady (Digest.free_along (boundary_steady id other) trivial { state := world })
  rw [Signature.outcome_drop]
  simp only
  rw [Signature.unboundRun_eq]
  exact hfreed.unbound other

end Custody

end World

end SigningEngine
