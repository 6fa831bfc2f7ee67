import SigningEngine.Proofs.Along
import SigningEngine.Software.Engine

/-!
# How a software engine evolves

Handles are issued in the order of a count that only grows, so a digest that is made gets a handle
that no digest had before, as long as the count stays within a word. Contexts are never closed. A
digest changes by the calls that alter it and by no other.
-/

namespace SigningEngine.Software.Engine

/-- What a call leaves of an engine that alters no digests but these. -/
structure Evolves (altered : DigestHandle → Prop) (engine next : Engine) : Prop where
  issued : engine.issued ≤ next.issued
  contexts {context : ContextHandle} :
    engine.contexts.contains context = true → next.contexts.contains context = true
  digests {digest : DigestHandle} :
    next.issued < UInt64.size → digest.raw.toNat ≤ engine.issued → ¬ altered digest →
      next.digests.find? digest = engine.digests.find? digest

variable {altered : DigestHandle → Prop} {engine middle next : Engine}

theorem Evolves.refl (engine : Engine) : engine.Evolves altered engine :=
  ⟨Nat.le_refl _, id, fun _ _ _ => rfl⟩

theorem Evolves.trans (first : engine.Evolves altered middle)
    (second : middle.Evolves altered next) : engine.Evolves altered next where
  issued := Nat.le_trans first.issued second.issued
  contexts h := second.contexts (first.contexts h)
  digests hnext hold hother := by
    have hmiddle := Nat.lt_of_le_of_lt second.issued hnext
    rw [second.digests hnext (Nat.le_trans hold first.issued) hother,
      first.digests hmiddle hold hother]

theorem Evolves.mono {more : DigestHandle → Prop} (h : engine.Evolves altered next)
    (hmore : ∀ digest, altered digest → more digest) : engine.Evolves more next where
  issued := h.issued
  contexts := h.contexts
  digests hnext hold hother := h.digests hnext hold fun haltered => hother (hmore _ haltered)

/-- Nothing but keys and counters of the engine changes. -/
theorem Evolves.of_eq (hissued : engine.issued ≤ next.issued)
    (hcontexts : next.contexts = engine.contexts) (hdigests : next.digests = engine.digests) :
    engine.Evolves altered next where
  issued := hissued
  contexts h := hcontexts ▸ h
  digests _ _ _ := by rw [hdigests]

/-- The number of the handle issued next. -/
theorem allocate_toNat_le (engine : Engine) :
    engine.allocate.1.toNat ≤ engine.allocate.2.issued := by
  simpa only [allocate, UInt64.toNat_ofNat'] using Nat.mod_le _ _

theorem allocate_toNat {engine : Engine} (h : engine.issued + 1 < UInt64.size) :
    engine.allocate.1.toNat = engine.issued + 1 :=
  UInt64.toNat_ofNat_of_lt h

theorem registerKey_evolves (engine : Engine) (material : KeyMaterial) :
    engine.Evolves altered (engine.registerKey material).2 :=
  .of_eq (Nat.le_succ _) rfl rfl

theorem registerPair_evolves (engine : Engine) (pair : Halves KeyMaterial) :
    engine.Evolves altered (engine.registerPair pair).2 :=
  (registerKey_evolves engine pair.privateKey).trans (registerKey_evolves _ pair.publicKey)

theorem eraseKey_evolves (engine : Engine) (key : KeyHandle) :
    engine.Evolves altered (engine.eraseKey key) :=
  .of_eq (Nat.le_refl _) rfl rfl

theorem freeKey_evolves (engine : Engine) (key : KeyHandle) :
    engine.Evolves altered (engine.freeKey key).2 := by
  rw [freeKey]
  split
  · exact eraseKey_evolves engine key
  · exact .refl engine

theorem freeKey_eq_true_iff (engine : Engine) (key : KeyHandle) :
    (engine.freeKey key).1 = true ↔ engine.keys.contains key = true := by
  rw [freeKey]
  split
  next hfound => simp [hfound]
  next habsent => simp [habsent]

theorem find?_freeKey (engine : Engine) (key other : KeyHandle) :
    (engine.freeKey key).2.keys.find? other =
      if other = key then none else engine.keys.find? other := by
  rw [freeKey]
  split
  next =>
    split
    next hsame => exact hsame ▸ Table.find?_erase_self _ _
    next hother => exact Table.find?_erase_of_ne _ hother
  next habsent =>
    split
    next hsame => simpa [Table.contains, hsame] using habsent
    next => rfl

theorem openContext_evolves (engine : Engine) (fips : Bool) :
    engine.Evolves altered (engine.openContext fips).2 where
  issued := Nat.le_succ _
  contexts h := Table.contains_insert fips h
  digests _ _ _ := rfl

theorem createContext_evolves (engine : Engine) (fips : Bool) :
    engine.Evolves altered (engine.createContext fips).2 := by
  rw [createContext]
  split
  · exact .refl engine
  · split
    · exact .of_eq (Nat.le_refl _) rfl rfl
    · exact openContext_evolves engine fips

/-- A digest is created in a live context, and its handle is the next one issued. -/
theorem digestCreate_eq (engine : Engine) (context : ContextHandle) (algorithm : String) :
    engine.digestCreate context algorithm =
      match engine.contexts.find? context, HashAlgorithm.ofName? algorithm with
      | none, _ => .error ⟨"unknown context handle " ++ context.text⟩
      | some _, none => .error ⟨"unsupported digest algorithm " ++ algorithm⟩
      | some _, some hash =>
        .ok (⟨engine.allocate.1⟩, { engine with
          issued := engine.issued + 1
          digests := engine.digests.insert ⟨engine.allocate.1⟩ { algorithm := hash } }) := by
  rw [digestCreate, contextFips]
  cases engine.contexts.find? context with
  | none => rfl
  | some fips => cases HashAlgorithm.ofName? algorithm <;> rfl

theorem changeDigest_eq (engine : Engine) (context : ContextHandle) (digest : DigestHandle)
    (change : Accumulator → Accumulator) :
    engine.changeDigest context digest change =
      match engine.contexts.find? context, engine.digests.find? digest with
      | none, _ => .error ⟨"unknown context handle " ++ context.text⟩
      | some _, none => .error ⟨"unknown digest handle " ++ digest.text⟩
      | some _, some state =>
        .ok ((), { engine with digests := engine.digests.insert digest (change state) }) := by
  rw [changeDigest, contextFips, digestState]
  cases engine.contexts.find? context with
  | none => rfl
  | some fips => cases engine.digests.find? digest <;> rfl

/-- The handle of a digest that is created is numbered above all that were issued before. -/
theorem digestCreate_issued {context : ContextHandle} {algorithm : String}
    {handle : DigestHandle}
    (h : (engine.settle (engine.digestCreate context algorithm)).1 = .ok handle) :
    let next := (engine.settle (engine.digestCreate context algorithm)).2
    handle.raw.toNat ≤ next.issued ∧
      (next.issued < UInt64.size → engine.issued < handle.raw.toNat) := by
  rw [digestCreate_eq] at h ⊢
  revert h
  split
  · nofun
  · nofun
  · rintro ⟨⟩
    constructor
    · exact allocate_toNat_le engine
    · intro hsmall
      show engine.issued < engine.allocate.1.toNat
      rw [allocate_toNat hsmall]
      exact Nat.lt_succ_self _

theorem settle_digestCreate_evolves (engine : Engine) (context : ContextHandle)
    (algorithm : String) :
    engine.Evolves altered (engine.settle (engine.digestCreate context algorithm)).2 := by
  rw [digestCreate_eq]
  split
  · exact .refl engine
  · exact .refl engine
  · refine ⟨Nat.le_succ _, id, ?_⟩
    intro digest hnext hold _
    apply Table.find?_insert_of_ne
    intro hsame
    have hnumber := allocate_toNat hnext
    rw [hsame, hnumber] at hold
    omega

theorem settle_changeDigest_evolves (engine : Engine) (context : ContextHandle)
    {digest : DigestHandle} (change : Accumulator → Accumulator) (haltered : altered digest) :
    engine.Evolves altered (engine.settle (engine.changeDigest context digest change)).2 := by
  rw [changeDigest_eq]
  split
  · exact .refl engine
  · exact .refl engine
  · refine ⟨Nat.le_refl _, id, ?_⟩
    intro other _ _ hother
    apply Table.find?_insert_of_ne
    rintro rfl
    exact hother haltered

theorem settle_digestFree_evolves (engine : Engine) {digest : DigestHandle}
    (haltered : altered digest) :
    engine.Evolves altered (engine.settle (engine.digestFree digest)).2 := by
  rw [digestFree, digestState]
  cases engine.digests.find? digest with
  | none => exact .refl engine
  | some state =>
      refine ⟨Nat.le_refl _, id, ?_⟩
      intro other _ _ hother
      apply Table.find?_erase_of_ne
      rintro rfl
      exact hother haltered

theorem reply_evolves (engine : Engine) (call : NativeCall)
    (haltered : ∀ digest, call.altered = some digest → altered digest) :
    engine.Evolves altered (engine.reply call).2 := by
  cases call with
  | createContext fips => exact createContext_evolves engine fips
  | digestCreate context algorithm => exact settle_digestCreate_evolves engine context algorithm
  | digestUpdate context digest data =>
      exact settle_changeDigest_evolves engine context _ (haltered digest rfl)
  | digestReset context digest =>
      exact settle_changeDigest_evolves engine context _ (haltered digest rfl)
  | digestFree context digest => exact settle_digestFree_evolves engine (haltered digest rfl)
  | _ => exact .refl engine

/-- No call registers a key or forgets one. -/
theorem reply_keys (engine : Engine) (call : NativeCall) :
    (engine.reply call).2.keys = engine.keys := by
  cases call with
  | createContext fips =>
      rw [reply, createContext]
      split
      · rfl
      · split <;> rfl
  | digestCreate context algorithm =>
      rw [reply, digestCreate_eq]
      split <;> rfl
  | digestUpdate context digest data =>
      rw [reply, digestUpdate, changeDigest_eq]
      split <;> rfl
  | digestReset context digest =>
      rw [reply, digestReset, changeDigest_eq]
      split <;> rfl
  | digestFree context digest =>
      rw [reply, digestFree]
      cases engine.digestState digest <;> rfl
  | _ => rfl

end SigningEngine.Software.Engine
