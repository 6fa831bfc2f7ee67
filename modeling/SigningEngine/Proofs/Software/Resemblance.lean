import SigningEngine.Proofs.Matching
import SigningEngine.Proofs.Software.Evolution

/-!
# Software engines that keep other secrets

Two software engines resemble each other if they differ in nothing but what their digests hold and
what their keys are. They issue the same handles, answer every call alike that neither signs nor
verifies, and show the same. To sign and to verify leaves an engine as it is, and is refused alike if
the digest cannot be reset.

The main statements are `reply_matching` and `Resembles.judge_cases`.
-/

namespace SigningEngine

namespace Table

variable {κ α : Type} {table other : Table κ α}

theorem size_congr (h : table.keys = other.keys) : table.size = other.size := by
  rw [← length_keys, ← length_keys, h]

variable [DecidableEq κ]

theorem contains_congr (h : table.keys = other.keys) (key : κ) :
    table.contains key = other.contains key := by
  rw [Bool.eq_iff_iff, contains_iff, contains_iff, h]

theorem keys_insert_congr (h : table.keys = other.keys) (key : κ) (value twin : α) :
    (table.insert key value).keys = (other.insert key twin).keys := by
  rw [keys_insert, keys_insert, h]

theorem keys_erase_congr (h : table.keys = other.keys) (key : κ) :
    (table.erase key).keys = (other.erase key).keys := by
  rw [keys_erase, keys_erase, h]

end Table

namespace Software.Engine

/-- Engines that may differ in what their digests hold and in what their keys are. -/
structure Resembles (engine other : Engine) : Prop where
  config : engine.config = other.config
  issued : engine.issued = other.issued
  selfTestFailures : engine.selfTestFailures = other.selfTestFailures
  contexts : engine.contexts = other.contexts
  digests : engine.digests.keys = other.digests.keys
  keys : engine.keys.keys = other.keys.keys

variable {engine other : Engine} {context : ContextHandle} {digest : DigestHandle}

theorem Resembles.refl (engine : Engine) : engine.Resembles engine := ⟨rfl, rfl, rfl, rfl, rfl, rfl⟩

/-! ### Calls -/

theorem createContext_matching (fips : Bool) :
    Matching Resembles (·.createContext fips) (·.createContext fips) := by
  rintro ⟨config, issued, failures, contexts, digests, keys⟩ ⟨_, _, _, _, others, twins⟩
    ⟨rfl, rfl, rfl, rfl, hdigests, hkeys⟩
  simp only [createContext]
  split
  · exact ⟨rfl, rfl, rfl, rfl, rfl, hdigests, hkeys⟩
  · split
    · exact ⟨rfl, rfl, rfl, rfl, rfl, hdigests, hkeys⟩
    · exact ⟨rfl, rfl, rfl, rfl, rfl, hdigests, hkeys⟩

theorem digestCreate_matching (context : ContextHandle) (algorithm : String) :
    Matching Resembles (fun engine => engine.settle (engine.digestCreate context algorithm))
      (fun other => other.settle (other.digestCreate context algorithm)) := by
  rintro ⟨config, issued, failures, contexts, digests, keys⟩ ⟨_, _, _, _, others, twins⟩
    ⟨rfl, rfl, rfl, rfl, hdigests, hkeys⟩
  simp only [digestCreate_eq]
  cases contexts.find? context with
  | none => exact ⟨rfl, rfl, rfl, rfl, rfl, hdigests, hkeys⟩
  | some fips =>
      cases HashAlgorithm.ofName? algorithm with
      | none => exact ⟨rfl, rfl, rfl, rfl, rfl, hdigests, hkeys⟩
      | some hash =>
          exact ⟨rfl, rfl, rfl, rfl, rfl, Table.keys_insert_congr hdigests _ _ _, hkeys⟩

/-- A digest that is known to one of two engines is known to the other. -/
theorem Resembles.digest_cases (h : engine.Resembles other) (digest : DigestHandle) :
    (engine.digests.find? digest = none ∧ other.digests.find? digest = none) ∨
      ∃ state twin, engine.digests.find? digest = some state ∧
        other.digests.find? digest = some twin := by
  have hknown := Table.contains_congr h.digests digest
  rw [Table.contains, Table.contains] at hknown
  cases hstate : engine.digests.find? digest <;> cases htwin : other.digests.find? digest
  · exact .inl ⟨rfl, rfl⟩
  · simp [hstate, htwin] at hknown
  · simp [hstate, htwin] at hknown
  · exact .inr ⟨_, _, rfl, rfl⟩

/-- Whatever two digests under one handle hold, and however each of them is changed. -/
theorem changeDigest_matching (context : ContextHandle) (digest : DigestHandle)
    (change alter : Accumulator → Accumulator) :
    Matching Resembles (fun engine => engine.settle (engine.changeDigest context digest change))
      (fun other => other.settle (other.changeDigest context digest alter)) := by
  intro engine other h
  simp only [changeDigest_eq, h.contexts]
  cases other.contexts.find? context with
  | none => exact ⟨rfl, h⟩
  | some fips =>
      obtain ⟨hstate, htwin⟩ | ⟨state, twin, hstate, htwin⟩ := h.digest_cases digest
      · rw [hstate, htwin]
        exact ⟨rfl, h⟩
      · rw [hstate, htwin]
        exact ⟨rfl, h.config, h.issued, h.selfTestFailures, rfl,
          Table.keys_insert_congr h.digests _ _ _, h.keys⟩

theorem digestFree_matching (digest : DigestHandle) :
    Matching Resembles (fun engine => engine.settle (engine.digestFree digest))
      (fun other => other.settle (other.digestFree digest)) := by
  intro engine other h
  simp only [digestFree, digestState]
  obtain ⟨hstate, htwin⟩ | ⟨state, twin, hstate, htwin⟩ := h.digest_cases digest
  · rw [hstate, htwin]
    exact ⟨rfl, h⟩
  · rw [hstate, htwin]
    exact ⟨rfl, h.config, h.issued, h.selfTestFailures, h.contexts,
      Table.keys_erase_congr h.digests _, h.keys⟩

/-- A call that neither signs nor verifies is answered alike. -/
theorem reply_matching {call : NativeCall} (hcall : call.judges = false) :
    Matching Resembles (·.reply call) (·.reply call) := by
  cases call with
  | createContext fips => exact createContext_matching fips
  | validateLocation context =>
      intro engine other h
      refine ⟨?_, h⟩
      show engine.validateLocation context = other.validateLocation context
      rw [validateLocation, validateLocation, contextFips, contextFips, h.contexts, h.config]
  | validateVersion context =>
      intro engine other h
      refine ⟨?_, h⟩
      show engine.validateVersion context = other.validateVersion context
      rw [validateVersion, validateVersion, contextFips, contextFips, h.contexts, h.config]
  | scalarValue context value =>
      intro engine other h
      refine ⟨?_, h⟩
      show engine.scalarValue context value = other.scalarValue context value
      rw [scalarValue, scalarValue, contextFips, contextFips, h.contexts, h.config]
  | libraryBuildDate => exact fun engine other h => ⟨congrArg Config.buildDate h.config, h⟩
  | digestCreate context algorithm => exact digestCreate_matching context algorithm
  | digestUpdate context digest data => exact changeDigest_matching context digest _ _
  | digestReset context digest => exact changeDigest_matching context digest _ _
  | digestFree context digest => exact digestFree_matching digest
  | sign => cases hcall
  | verify => cases hcall

/-- What a digest is fed does not show. -/
theorem digestUpdate_matching (context : ContextHandle) (digest : DigestHandle)
    (data twin : Bytes) :
    Matching Resembles (·.reply (.digestUpdate context digest data))
      (·.reply (.digestUpdate context digest twin)) :=
  changeDigest_matching context digest _ _

/-- To sign and to verify changes nothing. -/
theorem reply_of_judges (engine : Engine) {call : NativeCall} (hcall : call.judges = true) :
    (engine.reply call).2 = engine := by
  cases call with
  | sign => rfl
  | verify => rfl
  | _ => cases hcall

/-- Unless a digest can be reset, two engines refuse alike to judge over it, whatever they were to
judge. -/
theorem Resembles.judge_cases {α : Type} (h : engine.Resembles other) (context : ContextHandle)
    (digest : DigestHandle) (judge alter : Accumulator → Except NativeError α) :
    (engine.settle (engine.digestReset context digest)).1 = .ok () ∨
      (engine.contextFips context >>= fun _ => engine.digestState digest >>= judge) =
        (other.contextFips context >>= fun _ => other.digestState digest >>= alter) := by
  simp only [digestReset, changeDigest_eq, contextFips, digestState, h.contexts]
  cases other.contexts.find? context with
  | none => exact .inr rfl
  | some fips =>
      obtain ⟨hstate, htwin⟩ | ⟨state, twin, hstate, htwin⟩ := h.digest_cases digest
      · rw [hstate, htwin]
        exact .inr rfl
      · rw [hstate]
        exact .inl rfl

/-! ### Keys -/

theorem registerKey_matching (material twin : KeyMaterial) :
    Matching Resembles (·.registerKey material) (·.registerKey twin) := by
  rintro ⟨config, issued, failures, contexts, digests, keys⟩ ⟨_, _, _, _, others, twins⟩
    ⟨rfl, rfl, rfl, rfl, hdigests, hkeys⟩
  exact ⟨rfl, rfl, rfl, rfl, rfl, hdigests, Table.keys_insert_congr hkeys _ _ _⟩

/-- Whatever the halves of a pair are, they get the same handles. -/
theorem registerPair_matching (pair twin : Halves KeyMaterial) :
    Matching Resembles (·.registerPair pair) (·.registerPair twin) := by
  have hfirst := registerKey_matching pair.privateKey twin.privateKey
  have hsecond := registerKey_matching pair.publicKey twin.publicKey
  exact hfirst.bind fun _ => .bind_pure hsecond

theorem Resembles.eraseKey (h : engine.Resembles other) (key : KeyHandle) :
    (engine.eraseKey key).Resembles (other.eraseKey key) :=
  ⟨h.config, h.issued, h.selfTestFailures, h.contexts, h.digests, Table.keys_erase_congr h.keys key⟩

theorem freeKey_matching (key : KeyHandle) :
    Matching Resembles (·.freeKey key) (·.freeKey key) := by
  intro engine other h
  simp only [freeKey, Table.contains_congr h.keys]
  split
  · exact ⟨rfl, h.eraseKey key⟩
  · exact ⟨rfl, h⟩

/-! ### What is shown -/

theorem Resembles.liveDigests (h : engine.Resembles other) :
    engine.liveDigests = other.liveDigests :=
  Table.size_congr h.digests

theorem Resembles.liveKeys (h : engine.Resembles other) : engine.liveKeys = other.liveKeys :=
  Table.size_congr h.keys

theorem Resembles.diagnostic (h : engine.Resembles other) :
    engine.diagnostic = other.diagnostic := by
  have hdigests := Table.size_congr h.digests
  have hkeys := Table.size_congr h.keys
  unfold Engine.diagnostic
  rw [h.config, h.contexts, hdigests, hkeys]

end Software.Engine

end SigningEngine
