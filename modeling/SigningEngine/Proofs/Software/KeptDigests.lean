import SigningEngine.Proofs.Software.Handles

/-!
# The digests that a software engine keeps

An engine keeps the digests that it created and that were not freed. While the numbers that it gives
out fit in a word, a digest that is created is one more, and a digest that is freed is one less.
-/

namespace SigningEngine

/-- Whether a call neither creates a digest nor frees one. -/
def NativeCall.sparesDigests : NativeCall → Bool
  | digestCreate _ _ => false
  | digestFree _ _ => false
  | _ => true

namespace Software.Engine

/-- Whether a request neither creates a digest nor frees one. -/
def Request.sparesDigests : Request → Bool
  | .call native => native.sparesDigests
  | _ => true

/-- Each digest that is kept has a number that was given out. -/
def DigestsIssued (engine : Engine) : Prop :=
  ∀ digest ∈ engine.digests.keys, digest.raw.toNat ≤ engine.issued

variable {engine next : Engine}

theorem DigestsIssued.mono (h : engine.DigestsIssued) (hissued : engine.issued ≤ next.issued)
    (hkeys : next.digests.keys ⊆ engine.digests.keys) : next.DigestsIssued :=
  fun digest hdigest => Nat.le_trans (h digest (hkeys hdigest)) hissued

/-- A digest that is changed is kept. -/
theorem changeDigest_keys (engine : Engine) (context : ContextHandle) (digest : DigestHandle)
    (change : Accumulator → Accumulator) :
    (engine.settle (engine.changeDigest context digest change)).2.digests.keys.Perm
      engine.digests.keys := by
  rw [changeDigest_eq]
  split
  · exact .refl _
  · exact .refl _
  next state _ hstate =>
    have hkept : digest ∈ engine.digests.keys := by
      rw [← Table.contains_iff, Table.contains, hstate]
      rfl
    have hkeys := engine.digests.keys_insert digest (change state)
    exact hkeys ▸ (List.perm_cons_erase hkept).symm

theorem createContext_digests (engine : Engine) (fips : Bool) :
    (engine.createContext fips).2.digests = engine.digests := by
  rw [createContext]
  split
  · rfl
  · split <;> rfl

theorem reply_keys_of_spares (engine : Engine) {call : NativeCall}
    (h : call.sparesDigests = true) :
    (engine.reply call).2.digests.keys.Perm engine.digests.keys := by
  cases call with
  | createContext fips =>
      rw [reply, createContext_digests]
  | digestCreate context algorithm => cases h
  | digestUpdate context digest data => exact changeDigest_keys engine context digest _
  | digestReset context digest => exact changeDigest_keys engine context digest _
  | digestFree context digest => cases h
  | _ => exact .refl _

theorem digestFree_keys (engine : Engine) (context : ContextHandle) (digest : DigestHandle) :
    (engine.reply (.digestFree context digest)).2.digests.keys =
      engine.digests.keys.erase digest := by
  rw [reply, digestFree, digestState]
  cases hstate : engine.digests.find? digest with
  | none => exact (List.erase_of_not_mem (Table.find?_eq_none_iff.mp hstate)).symm
  | some state => exact engine.digests.keys_erase digest

/-- A digest that is created gets a valid handle, which none of those has that are kept. -/
theorem digestCreate_keys (hissued : engine.DigestsIssued) {context : ContextHandle}
    {algorithm : String} {handle : DigestHandle}
    (hcreated : (engine.reply (.digestCreate context algorithm)).1 = .ok handle)
    (hsmall : (engine.reply (.digestCreate context algorithm)).2.issued < UInt64.size) :
    handle.isValid = true ∧ (engine.reply (.digestCreate context algorithm)).2.digests.keys =
      handle :: engine.digests.keys := by
  have hnew : engine.issued < handle.raw.toNat := (digestCreate_issued hcreated).2 hsmall
  have habsent : handle ∉ engine.digests.keys := by
    intro hkept
    exact absurd (hissued handle hkept) (Nat.not_le_of_lt hnew)
  constructor
  · rw [Handle.isValid_iff]
    rintro rfl
    exact absurd hnew (Nat.not_lt_zero _)
  · rw [reply, digestCreate_eq] at hcreated ⊢
    revert hcreated
    split
    · intro hcreated
      cases hcreated
    · intro hcreated
      cases hcreated
    next hash _ _ =>
      intro hcreated
      cases hcreated
      have hkeys := engine.digests.keys_insert ⟨engine.allocate.1⟩ { algorithm := hash }
      rw [List.erase_of_not_mem habsent] at hkeys
      exact hkeys

theorem digestCreate_of_error {context : ContextHandle} {algorithm : String} {e : NativeError}
    (h : (engine.reply (.digestCreate context algorithm)).1 = .error e) :
    (engine.reply (.digestCreate context algorithm)).2 = engine := by
  rw [reply, digestCreate_eq] at h ⊢
  revert h
  split
  · exact fun _ => rfl
  · exact fun _ => rfl
  · intro h
    cases h

/-- A request that spares the digests leaves those that are kept. -/
theorem serve_keys_of_spares (engine : Engine) {request : Request}
    (h : request.sparesDigests = true) :
    (engine.serve request).2.digests.keys.Perm engine.digests.keys := by
  cases request with
  | call native => exact reply_keys_of_spares engine h
  | generateEc source =>
      rw [serve]
      cases KeyMaterial.generateEc source <;> exact .refl _
  | generateRsa bits p q =>
      rw [serve]
      cases KeyMaterial.generateRsa bits p q <;> exact .refl _
  | freeKey key =>
      rw [serve, freeKey]
      split <;> exact .refl _
  | dropKey key => exact .refl _

/-- So do any number of such requests. -/
theorem serveAll_keys_of_spares (engine : Engine) {requests : List Request}
    (h : ∀ request ∈ requests, request.sparesDigests = true) :
    (engine.serveAll requests).2.digests.keys.Perm engine.digests.keys := by
  induction requests generalizing engine with
  | nil => exact .refl _
  | cons request rest ih =>
      have hrest := ih (engine.serve request).2 fun other hother =>
        h other (List.mem_cons_of_mem _ hother)
      exact hrest.trans (serve_keys_of_spares engine (h request List.mem_cons_self))

end Software.Engine

end SigningEngine
