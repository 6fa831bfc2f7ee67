import SigningEngine.Proofs.Software.Handles

/-!
# What a request changes

A software engine looks up everything a request takes before it changes anything, and changes only
what the request is about. A request that is refused leaves no trace, except for a self test that
failed and is counted. A digest that is signed or verified is hashed as it stands and goes on from
there.

The main statement is `serve_footprint`. It holds in every state of an engine, whether a life leads
to it or not.
-/

namespace SigningEngine.Software.Engine

namespace Request

/-- Whether a request has a self test fail. -/
def failsSelfTest (engine : Engine) : Request → Bool
  | .call (.createContext fips) =>
    fips && engine.config.fipsCapable && engine.selfTestFailures != 0
  | _ => false

/-- Whether a request only looks at what the engine keeps. -/
def looks : Request → Bool
  | .call (.validateLocation _) => true
  | .call (.validateVersion _) => true
  | .call (.scalarValue _ _) => true
  | .call .libraryBuildDate => true
  | .call (.sign _ _ _ _) => true
  | .call (.verify _ _ _ _) => true
  | _ => false

/-- The entry that a request is to change or remove. -/
def target : Request → Option (HandleKind × UInt64)
  | .call (.digestUpdate _ digest _) => some (.digest, digest.raw)
  | .call (.digestReset _ digest) => some (.digest, digest.raw)
  | .call (.digestFree _ digest) => some (.digest, digest.raw)
  | .freeKey key => some (.key, key.raw)
  | .dropKey key => some (.key, key.raw)
  | _ => none

end Request

/-- No entries are others than before but these, and the count of handles apart, nothing else is. -/
structure ChangesOnly (entries : List (HandleKind × UInt64)) (engine next : Engine) : Prop where
  config : next.config = engine.config
  selfTestFailures : next.selfTestFailures = engine.selfTestFailures
  contexts {context : ContextHandle} : (.context, context.raw) ∉ entries →
    next.contexts.find? context = engine.contexts.find? context
  digests {digest : DigestHandle} : (.digest, digest.raw) ∉ entries →
    next.digests.find? digest = engine.digests.find? digest
  keys {key : KeyHandle} : (.key, key.raw) ∉ entries →
    next.keys.find? key = engine.keys.find? key

/-- What a request with this reply leaves of an engine. -/
structure Footprint (engine : Engine) (request : Request) (reply : request.Reply)
    (next : Engine) : Prop where
  refused : request.refused reply = true →
    next = { engine with selfTestFailures := next.selfTestFailures } ∧
      next.selfTestFailures.toNat =
        engine.selfTestFailures.toNat - if request.failsSelfTest engine then 1 else 0
  looking : request.looks = true → next = engine
  served : request.refused reply = false →
    ChangesOnly (request.target.toList ++ request.issues reply) engine next
  /-- New entries stand under the next numbers. -/
  counted : next.issued = engine.issued + (request.issues reply).length
  numbered : (request.issues reply).map Prod.snd =
    (List.range' (engine.issued + 1) (request.issues reply).length).map UInt64.ofNat
  added : ∀ kind raw, (kind, raw) ∈ request.issues reply → next.names raw kind = true
  /-- Until the numbers start over, nothing of any kind stood there before. -/
  unused : ∀ config earlier, engine = (life config earlier).2 → next.issued < UInt64.size →
    ∀ kind raw other, (kind, raw) ∈ request.issues reply → engine.names raw other = false

variable {engine middle next : Engine} {entries more : List (HandleKind × UInt64)}

theorem ChangesOnly.refl (engine : Engine) : engine.ChangesOnly entries engine :=
  ⟨rfl, rfl, fun _ => rfl, fun _ => rfl, fun _ => rfl⟩

theorem ChangesOnly.trans (first : engine.ChangesOnly entries middle)
    (second : middle.ChangesOnly more next) : engine.ChangesOnly (entries ++ more) next where
  config := second.config.trans first.config
  selfTestFailures := second.selfTestFailures.trans first.selfTestFailures
  contexts h := by
    rw [List.mem_append, not_or] at h
    rw [second.contexts h.2, first.contexts h.1]
  digests h := by
    rw [List.mem_append, not_or] at h
    rw [second.digests h.2, first.digests h.1]
  keys h := by
    rw [List.mem_append, not_or] at h
    rw [second.keys h.2, first.keys h.1]

/-! ### Building blocks -/

theorem openContext_changesOnly (engine : Engine) (fips : Bool) :
    engine.ChangesOnly [(.context, engine.allocate.1)] (engine.openContext fips).2 where
  config := rfl
  selfTestFailures := rfl
  contexts h := by
    apply Table.find?_insert_of_ne
    rintro rfl
    exact h (List.mem_singleton_self _)
  digests _ := rfl
  keys _ := rfl

theorem registerKey_changesOnly (engine : Engine) (material : KeyMaterial) :
    engine.ChangesOnly [(.key, engine.allocate.1)] (engine.registerKey material).2 where
  config := rfl
  selfTestFailures := rfl
  contexts _ := rfl
  digests _ := rfl
  keys h := by
    apply Table.find?_insert_of_ne
    rintro rfl
    exact h (List.mem_singleton_self _)

theorem eraseKey_changesOnly (engine : Engine) (key : KeyHandle) :
    engine.ChangesOnly [(.key, key.raw)] (engine.eraseKey key) where
  config := rfl
  selfTestFailures := rfl
  contexts _ := rfl
  digests _ := rfl
  keys h := by
    apply Table.find?_erase_of_ne
    rintro rfl
    exact h (List.mem_singleton_self _)

/-- The entry of one digest becomes another one, or goes. -/
theorem changesOnly_of_digests {digest : DigestHandle} {digests : Table DigestHandle Accumulator}
    {issued : Nat}
    (h : ∀ other, other ≠ digest → digests.find? other = engine.digests.find? other) :
    engine.ChangesOnly [(.digest, digest.raw)] { engine with digests, issued } where
  config := rfl
  selfTestFailures := rfl
  contexts _ := rfl
  digests hother := h _ (by
    rintro rfl
    exact hother (List.mem_singleton_self _))
  keys _ := rfl

/-- Registering the halves of a pair adds their entries; the second number is another one than the
first, also where the numbers start over. -/
theorem names_registerPair (engine : Engine) (pair : Halves KeyMaterial) :
    let registered := engine.registerPair pair
    registered.2.names registered.1.privateKey.raw .key = true ∧
      registered.2.names registered.1.publicKey.raw .key = true := by
  have hfirst : (engine.registerKey pair.privateKey).2.keys.contains
      (engine.registerKey pair.privateKey).1 = true :=
    Table.contains_insert_iff.mpr (.inl rfl)
  exact ⟨Table.contains_insert _ hfirst, Table.contains_insert_iff.mpr (.inl rfl)⟩

theorem toNat_sub_one {n : UInt32} (h : n ≠ 0) : (n - 1).toNat = n.toNat - 1 := by
  have hpositive : 0 < n.toNat := Nat.pos_of_ne_zero fun hzero => h (UInt32.toNat_inj.mp hzero)
  exact UInt32.toNat_sub_of_le _ _ (UInt32.le_iff_toNat_le.mpr hpositive)

/-! ### Calls -/

/-- A digest is looked for before it is changed. -/
theorem changeDigest_footprint (engine : Engine) (context : ContextHandle) (digest : DigestHandle)
    (change : Accumulator → Accumulator) :
    let changed := engine.settle (engine.changeDigest context digest change)
    ((!changed.1.isOk) = true → changed.2 = engine) ∧
      engine.ChangesOnly [(.digest, digest.raw)] changed.2 := by
  rw [changeDigest_eq]
  split
  · exact ⟨fun _ => rfl, .refl engine⟩
  · exact ⟨fun _ => rfl, .refl engine⟩
  · refine ⟨fun hrefused => (Bool.false_ne_true hrefused).elim, changesOnly_of_digests ?_⟩
    exact fun other hother => Table.find?_insert_of_ne _ _ hother

theorem digestFree_footprint (engine : Engine) (digest : DigestHandle) :
    let freed := engine.settle (engine.digestFree digest)
    ((!freed.1.isOk) = true → freed.2 = engine) ∧
      engine.ChangesOnly [(.digest, digest.raw)] freed.2 := by
  rw [digestFree, digestState]
  cases engine.digests.find? digest with
  | none => exact ⟨fun _ => rfl, .refl engine⟩
  | some state =>
      refine ⟨fun hrefused => (Bool.false_ne_true hrefused).elim, changesOnly_of_digests ?_⟩
      exact fun other hother => Table.find?_erase_of_ne _ hother

/-- A digest that is created stands under the next number. -/
theorem digestCreate_footprint (engine : Engine) (context : ContextHandle) (algorithm : String) :
    let created := engine.serve (.call (.digestCreate context algorithm))
    let issues := (Request.call (.digestCreate context algorithm)).issues created.1
    ((!created.1.isOk) = true → created.2 = engine) ∧ engine.ChangesOnly issues created.2 ∧
      ∀ kind raw, (kind, raw) ∈ issues → created.2.names raw kind = true := by
  simp only [serve, reply, digestCreate_eq]
  split
  · exact ⟨fun _ => rfl, .refl engine, fun _ _ h => absurd h List.not_mem_nil⟩
  · exact ⟨fun _ => rfl, .refl engine, fun _ _ h => absurd h List.not_mem_nil⟩
  · refine ⟨fun hrefused => (Bool.false_ne_true hrefused).elim, changesOnly_of_digests ?_, ?_⟩
    · exact fun other hother => Table.find?_insert_of_ne _ _ hother
    · intro kind raw h
      obtain ⟨rfl, rfl⟩ := Prod.mk.inj (List.mem_singleton.mp h)
      exact Table.contains_insert_iff.mpr (.inl rfl)

/-- Either a self test fails, or nothing at all happens, or a context stands under the next
number. -/
theorem createContext_cases (engine : Engine) (fips : Bool) :
    (∃ e, engine.createContext fips = (.error e, engine) ∧
        (fips && engine.config.fipsCapable && engine.selfTestFailures != 0) = false) ∨
      (∃ e, engine.createContext fips =
          (.error e, { engine with selfTestFailures := engine.selfTestFailures - 1 }) ∧
        (fips && engine.config.fipsCapable && engine.selfTestFailures != 0) = true) ∨
      engine.createContext fips =
        (.ok ⟨engine.allocate.1⟩, (engine.openContext fips).2) := by
  rw [createContext]
  split
  next hunfit => exact .inl ⟨_, rfl, by simp_all⟩
  next hfit =>
    split
    next hfails => exact .inr (.inl ⟨_, rfl, by simp_all⟩)
    next => exact .inr (.inr rfl)

/-- Both halves of a pair stand under the next numbers, or there is no pair and nothing happens. -/
theorem register_footprint (engine : Engine)
    (generated : Except GenerationFault (Halves KeyMaterial)) :
    let registered := engine.register generated
    ((!registered.1.isOk) = true → registered.2 = engine) ∧
      engine.ChangesOnly (Request.pairHandles registered.1) registered.2 ∧
      ∀ kind raw, (kind, raw) ∈ Request.pairHandles registered.1 →
        registered.2.names raw kind = true := by
  cases generated with
  | error fault => exact ⟨fun _ => rfl, .refl engine, fun _ _ h => absurd h List.not_mem_nil⟩
  | ok pair =>
      have hchanges := (registerKey_changesOnly engine pair.privateKey).trans
        (registerKey_changesOnly _ pair.publicKey)
      refine ⟨fun hrefused => (Bool.false_ne_true hrefused).elim, hchanges, ?_⟩
      intro kind raw h
      obtain ⟨hprivate, hpublic⟩ := names_registerPair engine pair
      rcases List.mem_cons.mp h with hfirst | hsecond
      · obtain ⟨rfl, rfl⟩ := Prod.mk.inj hfirst
        exact hprivate
      · obtain ⟨rfl, rfl⟩ := Prod.mk.inj (List.mem_singleton.mp hsecond)
        exact hpublic

/-! ### Requests -/

/-- A failed self test is counted once. -/
theorem serve_refused (engine : Engine) (request : Request)
    (hrefused : request.refused (engine.serve request).1 = true) :
    let next := (engine.serve request).2
    next = { engine with selfTestFailures := next.selfTestFailures } ∧
      next.selfTestFailures.toNat =
        engine.selfTestFailures.toNat - if request.failsSelfTest engine then 1 else 0 := by
  have hsame (hfails : request.failsSelfTest engine = false)
      (hnext : (engine.serve request).2 = engine) :
      let next := (engine.serve request).2
      next = { engine with selfTestFailures := next.selfTestFailures } ∧
        next.selfTestFailures.toNat =
          engine.selfTestFailures.toNat - if request.failsSelfTest engine then 1 else 0 := by
    rw [hnext, hfails]
    exact ⟨rfl, rfl⟩
  cases request with
  | call native =>
      cases native with
      | createContext fips =>
          obtain ⟨e, hcreated, hfails⟩ | ⟨e, hcreated, hfails⟩ | hcreated :=
            engine.createContext_cases fips
          · exact hsame hfails (congrArg Prod.snd hcreated)
          · have hnext : (engine.serve (.call (.createContext fips))).2 =
                { engine with selfTestFailures := engine.selfTestFailures - 1 } :=
              congrArg Prod.snd hcreated
            have hpositive : engine.selfTestFailures ≠ 0 := by
              simp only [Bool.and_eq_true, bne_iff_ne] at hfails
              exact hfails.2
            rw [hnext, Request.failsSelfTest, hfails]
            exact ⟨rfl, toNat_sub_one hpositive⟩
          · rw [serve, reply, hcreated] at hrefused
            cases hrefused
      | digestCreate context algorithm =>
          exact hsame rfl ((digestCreate_footprint engine context algorithm).1 hrefused)
      | digestUpdate context digest data =>
          exact hsame rfl ((changeDigest_footprint engine context digest _).1 hrefused)
      | digestReset context digest =>
          exact hsame rfl ((changeDigest_footprint engine context digest _).1 hrefused)
      | digestFree context digest =>
          exact hsame rfl ((digestFree_footprint engine digest).1 hrefused)
      | _ => exact hsame rfl rfl
  | generateEc source => exact hsame rfl ((register_footprint engine _).1 hrefused)
  | generateRsa bits p q => exact hsame rfl ((register_footprint engine _).1 hrefused)
  | freeKey key =>
      refine hsame rfl ?_
      simp only [serve, Request.refused, freeKey] at hrefused ⊢
      split
      next hfound =>
        rw [if_pos hfound] at hrefused
        cases hrefused
      next => rfl
  | dropKey key => cases hrefused

theorem serve_looking (engine : Engine) {request : Request} (hlooks : request.looks = true) :
    (engine.serve request).2 = engine := by
  cases request with
  | call native => cases native <;> first | rfl | cases hlooks
  | _ => cases hlooks

theorem serve_changesOnly (engine : Engine) (request : Request)
    (hserved : request.refused (engine.serve request).1 = false) :
    engine.ChangesOnly (request.target.toList ++ request.issues (engine.serve request).1)
      (engine.serve request).2 := by
  cases request with
  | call native =>
      cases native with
      | createContext fips =>
          obtain ⟨e, hcreated, -⟩ | ⟨e, hcreated, -⟩ | hcreated := engine.createContext_cases fips
          · rw [serve, reply, hcreated] at hserved
            cases hserved
          · rw [serve, reply, hcreated] at hserved
            cases hserved
          · simp only [serve, reply, hcreated]
            exact openContext_changesOnly engine fips
      | digestCreate context algorithm =>
          exact (digestCreate_footprint engine context algorithm).2.1
      | digestUpdate context digest data =>
          exact (changeDigest_footprint engine context digest _).2
      | digestReset context digest => exact (changeDigest_footprint engine context digest _).2
      | digestFree context digest => exact (digestFree_footprint engine digest).2
      | _ => exact .refl engine
  | generateEc source => exact (register_footprint engine _).2.1
  | generateRsa bits p q => exact (register_footprint engine _).2.1
  | freeKey key =>
      rw [serve, freeKey]
      split
      · exact eraseKey_changesOnly engine key
      · exact .refl engine
  | dropKey key => exact eraseKey_changesOnly engine key

theorem serve_added (engine : Engine) (request : Request) (kind : HandleKind) (raw : UInt64)
    (hissued : (kind, raw) ∈ request.issues (engine.serve request).1) :
    (engine.serve request).2.names raw kind = true := by
  cases request with
  | call native =>
      cases native with
      | createContext fips =>
          obtain ⟨e, hcreated, -⟩ | ⟨e, hcreated, -⟩ | hcreated := engine.createContext_cases fips
          · rw [serve, reply, hcreated] at hissued
            cases hissued
          · rw [serve, reply, hcreated] at hissued
            cases hissued
          · simp only [serve, reply, hcreated] at hissued ⊢
            obtain ⟨rfl, rfl⟩ := Prod.mk.inj (List.mem_singleton.mp hissued)
            exact Table.contains_insert_iff.mpr (.inl rfl)
      | digestCreate context algorithm =>
          exact (digestCreate_footprint engine context algorithm).2.2 kind raw hissued
      | _ => cases hissued
  | generateEc source => exact (register_footprint engine _).2.2 kind raw hissued
  | generateRsa bits p q => exact (register_footprint engine _).2.2 kind raw hissued
  | freeKey key => cases hissued
  | dropKey key => cases hissued

/-- A number that a life has not given out yet names nothing. -/
theorem not_names_of_issued_lt (config : Config) (earlier : List Request) {raw : UInt64}
    (hnew : (life config earlier).2.issued < raw.toNat)
    (hsmall : (life config earlier).2.issued < UInt64.size) (kind : HandleKind) :
    (life config earlier).2.names raw kind = false := by
  have hissues := life_issues config earlier
  cases hnames : (life config earlier).2.names raw kind with
  | false => rfl
  | true =>
      rcases hissues.names raw kind hnames with hstart | hgiven
      · rw [not_names_ofConfig] at hstart
        cases hstart
      · exact absurd (hissues.bounds hsmall hgiven).2 (Nat.not_le_of_lt hnew)

/-- A refused request changes nothing but the count of failed self tests, and a request that is
served changes nothing but what it is about. -/
theorem serve_footprint (engine : Engine) (request : Request) :
    engine.Footprint request (engine.serve request).1 (engine.serve request).2 := by
  have hissues := serve_issues engine request
  exact {
    refused := serve_refused engine request
    looking := serve_looking engine
    served := serve_changesOnly engine request
    counted := hissues.count
    numbered := hissues.numbers
    added := serve_added engine request
    unused := by
      rintro config earlier rfl hsmall kind raw other hissued
      have hbounds := hissues.bounds hsmall hissued
      exact not_names_of_issued_lt config earlier hbounds.1
        (Nat.lt_of_lt_of_le hbounds.1 (Nat.le_of_lt raw.toNat_lt_size)) other }

end SigningEngine.Software.Engine
