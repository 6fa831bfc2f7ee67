import SigningEngine.Proofs.Software.Evolution

/-!
# The handles of a software engine

A request is a call, the generation of a key pair, the early release of a key, or the return of the
last reference to one. What a request gives back of handles is numbered by one count, whatever the
kinds, and a request that is refused takes no number.

The main statement is `handles_unique`: over a whole life of less than all numbers of a word, no
handle is given out twice, and a digest or a key that is gone stays gone.
-/

namespace SigningEngine.Software.Engine

/-- What is asked of a software engine. -/
inductive Request where
  | call (native : NativeCall)
  | generateEc (source : Bytes)
  | generateRsa (bits : UInt64) (p q : Nat)
  | freeKey (key : KeyHandle)
  /-- The last reference to a key is given back. -/
  | dropKey (key : KeyHandle)

namespace Request

abbrev Reply : Request → Type
  | call native => native.Reply
  | generateEc _ => Except GenerationFault (Halves KeyHandle)
  | generateRsa _ _ _ => Except GenerationFault (Halves KeyHandle)
  | freeKey _ => Bool
  | dropKey _ => Unit

/-- The handles of a key pair, if it was generated, in the order in which they were issued. -/
def pairHandles : Except GenerationFault (Halves KeyHandle) → List (HandleKind × UInt64)
  | .ok pair => [(.key, pair.privateKey.raw), (.key, pair.publicKey.raw)]
  | .error _ => []

/-- The handles that a reply gives out. -/
def issues : (request : Request) → request.Reply → List (HandleKind × UInt64)
  | .call (.createContext _), .ok handle => [(.context, handle.raw)]
  | .call (.digestCreate _ _), .ok handle => [(.digest, handle.raw)]
  | .generateEc _, reply => pairHandles reply
  | .generateRsa _ _ _, reply => pairHandles reply
  | _, _ => []

/-- The digests and keys that a request is about. -/
def takes : Request → List (HandleKind × UInt64)
  | .call (.digestUpdate _ digest _) => [(.digest, digest.raw)]
  | .call (.digestReset _ digest) => [(.digest, digest.raw)]
  | .call (.digestFree _ digest) => [(.digest, digest.raw)]
  | .call (.sign _ digest key _) => [(.digest, digest.raw), (.key, key.raw)]
  | .call (.verify _ digest key _) => [(.digest, digest.raw), (.key, key.raw)]
  | .freeKey key => [(.key, key.raw)]
  | _ => []

/-- The digest or key that is gone behind a request. -/
def frees : Request → Option (HandleKind × UInt64)
  | .call (.digestFree _ digest) => some (.digest, digest.raw)
  | .freeKey key => some (.key, key.raw)
  | .dropKey key => some (.key, key.raw)
  | _ => none

end Request

/-- Whether a call was answered by a report of failure. -/
def reported : (call : NativeCall) → call.Reply → Bool
  | .createContext _, reply => !reply.isOk
  | .validateLocation _, reply => !reply.isOk
  | .validateVersion _, reply => !reply.isOk
  | .scalarValue _ _, reply => !reply.isOk
  | .libraryBuildDate, _ => false
  | .digestCreate _ _, reply => !reply.isOk
  | .digestUpdate _ _ _, reply => !reply.isOk
  | .digestReset _ _, reply => !reply.isOk
  | .digestFree _ _, reply => !reply.isOk
  | .sign _ _ _ _, reply => !reply.isOk
  | .verify _ _ _ _, reply => !reply.isOk

/-- Whether a request was refused. -/
def Request.refused : (request : Request) → request.Reply → Bool
  | .call native, reply => reported native reply
  | .generateEc _, reply => !reply.isOk
  | .generateRsa _ _ _, reply => !reply.isOk
  | .freeKey _, freed => !freed
  | .dropKey _, _ => false

/-- Registers a key pair, once it is generated. -/
def register (engine : Engine) :
    Except GenerationFault (Halves KeyMaterial) →
      Except GenerationFault (Halves KeyHandle) × Engine
  | .ok pair =>
    let (handles, engine) := engine.registerPair pair
    (.ok handles, engine)
  | .error fault => (.error fault, engine)

/-- The reply to a request and the engine behind it. -/
def serve (engine : Engine) : (request : Request) → request.Reply × Engine
  | .call native => engine.reply native
  | .generateEc source => engine.register (KeyMaterial.generateEc source)
  | .generateRsa bits p q => engine.register (KeyMaterial.generateRsa bits p q)
  | .freeKey key => engine.freeKey key
  | .dropKey key => ((), engine.eraseKey key)

/-- The handles that are given out for requests, in order, and the engine behind them. -/
def serveAll (engine : Engine) : List Request → List (HandleKind × UInt64) × Engine
  | [] => ([], engine)
  | request :: rest =>
    let (reply, engine) := engine.serve request
    let (handles, engine) := engine.serveAll rest
    (request.issues reply ++ handles, engine)

/-- Whether a number names something of a kind. -/
def names (engine : Engine) (raw : UInt64) : HandleKind → Bool
  | .context => engine.contexts.contains ⟨raw⟩
  | .digest => engine.digests.contains ⟨raw⟩
  | .key => engine.keys.contains ⟨raw⟩

/-! ### What a request issues -/

/-- The next numbers are given out, and nothing else comes to be named. -/
structure Issues (engine : Engine) (handles : List (HandleKind × UInt64)) (next : Engine) :
    Prop where
  count : next.issued = engine.issued + handles.length
  numbers : handles.map Prod.snd =
    (List.range' (engine.issued + 1) handles.length).map UInt64.ofNat
  names : ∀ raw kind, next.names raw kind = true →
    engine.names raw kind = true ∨ (kind, raw) ∈ handles

variable {engine middle next : Engine} {handles more : List (HandleKind × UInt64)}

theorem Issues.none (hissued : next.issued = engine.issued)
    (hnames : ∀ raw kind, next.names raw kind = true → engine.names raw kind = true) :
    engine.Issues [] next where
  count := hissued
  numbers := rfl
  names raw kind h := .inl (hnames raw kind h)

theorem Issues.trans (first : engine.Issues handles middle) (second : middle.Issues more next) :
    engine.Issues (handles ++ more) next where
  count := by rw [second.count, first.count, List.length_append, Nat.add_assoc]
  numbers := by
    rw [List.map_append, first.numbers, second.numbers, first.count, List.length_append,
      ← List.map_append, Nat.add_right_comm, List.range'_append_1]
  names raw kind h := by
    rcases second.names raw kind h with hmiddle | hmore
    · rcases first.names raw kind hmiddle with hengine | hhandles
      · exact .inl hengine
      · exact .inr (List.mem_append_left _ hhandles)
    · exact .inr (List.mem_append_right _ hmore)

/-- One number is given out, and names what is made. -/
theorem Issues.one {kind : HandleKind} (hissued : next.issued = engine.issued + 1)
    (hnames : ∀ raw other, next.names raw other = true →
      engine.names raw other = true ∨ (other, raw) = (kind, engine.allocate.1)) :
    engine.Issues [(kind, engine.allocate.1)] next where
  count := hissued
  numbers := rfl
  names raw other h := by
    rw [List.mem_singleton]
    exact hnames raw other h

theorem Issues.refl (engine : Engine) : engine.Issues [] engine :=
  .none rfl fun _ _ => id

theorem openContext_issues (engine : Engine) (fips : Bool) :
    engine.Issues [(.context, engine.allocate.1)] (engine.openContext fips).2 := by
  refine .one rfl fun raw other h => ?_
  cases other with
  | context =>
      rcases Table.contains_insert_iff.mp h with hnew | hold
      · exact .inr (by rw [Handle.mk.inj hnew]; rfl)
      · exact .inl hold
  | digest => exact .inl h
  | key => exact .inl h

theorem createContext_issues (engine : Engine) (fips : Bool) :
    let created := engine.serve (.call (.createContext fips))
    engine.Issues ((Request.call (.createContext fips)).issues created.1) created.2 := by
  simp only [serve, reply, createContext]
  split
  · exact .refl engine
  · split
    · exact .none rfl fun _ kind => by cases kind <;> exact id
    · exact openContext_issues engine fips

theorem digestCreate_issues (engine : Engine) (context : ContextHandle) (algorithm : String) :
    let created := engine.serve (.call (.digestCreate context algorithm))
    engine.Issues ((Request.call (.digestCreate context algorithm)).issues created.1) created.2 := by
  simp only [serve, reply, digestCreate_eq]
  split
  · exact .refl engine
  · exact .refl engine
  · refine .one rfl fun raw other h => ?_
    cases other with
    | context => exact .inl h
    | digest =>
        rcases Table.contains_insert_iff.mp h with hnew | hold
        · exact .inr (by rw [Handle.mk.inj hnew])
        · exact .inl hold
    | key => exact .inl h

/-- A digest that is changed was there before. -/
theorem changeDigest_issues (engine : Engine) (context : ContextHandle) (digest : DigestHandle)
    (change : Accumulator → Accumulator) :
    engine.Issues [] (engine.settle (engine.changeDigest context digest change)).2 := by
  rw [changeDigest_eq]
  split
  · exact .refl engine
  · exact .refl engine
  next fips state _ hstate =>
    refine .none rfl fun raw kind h => ?_
    cases kind with
    | context => exact h
    | digest =>
        rcases Table.contains_insert_iff.mp h with hsame | hold
        · rw [names, hsame, Table.contains, hstate]
          rfl
        · exact hold
    | key => exact h

theorem digestFree_issues (engine : Engine) (digest : DigestHandle) :
    engine.Issues [] (engine.settle (engine.digestFree digest)).2 := by
  rw [digestFree, digestState]
  cases engine.digests.find? digest with
  | none => exact .refl engine
  | some state =>
      refine .none rfl fun raw kind h => ?_
      cases kind with
      | context => exact h
      | digest => exact (Table.contains_erase_iff.mp h).2
      | key => exact h

theorem registerKey_issues (engine : Engine) (material : KeyMaterial) :
    engine.Issues [(.key, engine.allocate.1)] (engine.registerKey material).2 := by
  refine .one rfl fun raw other h => ?_
  cases other with
  | context => exact .inl h
  | digest => exact .inl h
  | key =>
      rcases Table.contains_insert_iff.mp h with hnew | hold
      · exact .inr (by rw [Handle.mk.inj hnew]; rfl)
      · exact .inl hold

/-- Both halves of a pair, and nothing for a pair that is not generated. -/
theorem register_issues (engine : Engine)
    (generated : Except GenerationFault (Halves KeyMaterial)) :
    let registered := engine.register generated
    engine.Issues (Request.pairHandles registered.1) registered.2 := by
  cases generated with
  | error fault => exact .refl engine
  | ok pair =>
      exact (registerKey_issues engine pair.privateKey).trans (registerKey_issues _ pair.publicKey)

theorem eraseKey_issues (engine : Engine) (key : KeyHandle) :
    engine.Issues [] (engine.eraseKey key) := by
  refine .none rfl fun raw kind h => ?_
  cases kind with
  | context => exact h
  | digest => exact h
  | key => exact (Table.contains_erase_iff.mp h).2

theorem freeKey_issues (engine : Engine) (key : KeyHandle) :
    engine.Issues [] (engine.freeKey key).2 := by
  rw [freeKey]
  split
  · exact eraseKey_issues engine key
  · exact .refl engine

/-- The next numbers are given out for a request, as many as its reply shows. -/
theorem serve_issues (engine : Engine) (request : Request) :
    engine.Issues (request.issues (engine.serve request).1) (engine.serve request).2 := by
  cases request with
  | call native =>
      cases native with
      | createContext fips => exact createContext_issues engine fips
      | digestCreate context algorithm => exact digestCreate_issues engine context algorithm
      | digestUpdate context digest data => exact changeDigest_issues engine context digest _
      | digestReset context digest => exact changeDigest_issues engine context digest _
      | digestFree context digest => exact digestFree_issues engine digest
      | _ => exact .refl engine
  | generateEc source => exact register_issues engine _
  | generateRsa bits p q => exact register_issues engine _
  | freeKey key => exact freeKey_issues engine key
  | dropKey key => exact eraseKey_issues engine key

theorem serveAll_cons (engine : Engine) (request : Request) (rest : List Request) :
    engine.serveAll (request :: rest) =
      let served := engine.serve request
      let others := served.2.serveAll rest
      (request.issues served.1 ++ others.1, others.2) := rfl

theorem serveAll_issues (engine : Engine) (requests : List Request) :
    engine.Issues (engine.serveAll requests).1 (engine.serveAll requests).2 := by
  induction requests generalizing engine with
  | nil => exact .refl engine
  | cons request rest ih => exact (serve_issues engine request).trans (ih _)

theorem serveAll_append (engine : Engine) (first second : List Request) :
    engine.serveAll (first ++ second) =
      let before := engine.serveAll first
      let behind := before.2.serveAll second
      (before.1 ++ behind.1, behind.2) := by
  induction first generalizing engine with
  | nil => rfl
  | cons request rest ih =>
      simp only [List.cons_append, serveAll_cons, ih, List.append_assoc]

/-! ### What is gone -/

theorem find?_of_gone {digest : DigestHandle} (hgone : engine.names digest.raw .digest = false) :
    engine.digests.find? digest = none := by
  simpa [names, Table.contains] using hgone

theorem findKey?_of_gone {key : KeyHandle} (hgone : engine.names key.raw .key = false) :
    engine.keys.find? key = none := by
  simpa [names, Table.contains] using hgone

theorem changeDigest_of_gone {digest : DigestHandle}
    (hgone : engine.names digest.raw .digest = false) (context : ContextHandle)
    (change : Accumulator → Accumulator) :
    let changed := engine.settle (engine.changeDigest context digest change)
    (!changed.1.isOk) = true ∧ changed.2 = engine := by
  rw [changeDigest_eq, find?_of_gone hgone]
  cases engine.contexts.find? context <;> exact ⟨rfl, rfl⟩

/-- Both signing and verifying look for the digest and the key before they use either. -/
theorem sign_of_gone {digest : DigestHandle} {key : KeyHandle}
    (hgone : engine.names digest.raw .digest = false ∨ engine.names key.raw .key = false)
    (context : ContextHandle) (plainRsa : Bool) :
    (!(engine.sign context digest key plainRsa).isOk) = true := by
  rw [sign, contextFips, digestState, keyMaterial]
  rcases hgone with hdigest | hkey
  · rw [find?_of_gone hdigest]
    cases engine.contexts.find? context <;> rfl
  · rw [findKey?_of_gone hkey]
    cases engine.contexts.find? context <;> cases engine.digests.find? digest <;> rfl

theorem verify_of_gone {digest : DigestHandle} {key : KeyHandle}
    (hgone : engine.names digest.raw .digest = false ∨ engine.names key.raw .key = false)
    (context : ContextHandle) (candidate : Bytes) :
    (!(engine.verify context digest key candidate).isOk) = true := by
  rw [verify, contextFips, digestState, keyMaterial]
  rcases hgone with hdigest | hkey
  · rw [find?_of_gone hdigest]
    cases engine.contexts.find? context <;> rfl
  · rw [findKey?_of_gone hkey]
    cases engine.contexts.find? context <;> cases engine.digests.find? digest <;> rfl

/-- A request for a digest or a key that is not there is refused, and nothing happens. -/
theorem serve_of_gone {request : Request} {kind : HandleKind} {raw : UInt64}
    (htakes : (kind, raw) ∈ request.takes) (hgone : engine.names raw kind = false) :
    request.refused (engine.serve request).1 = true ∧ (engine.serve request).2 = engine := by
  cases request with
  | call native =>
      cases native with
      | digestUpdate context digest data =>
          obtain ⟨rfl, rfl⟩ := Prod.mk.inj (List.mem_singleton.mp htakes)
          exact changeDigest_of_gone hgone context _
      | digestReset context digest =>
          obtain ⟨rfl, rfl⟩ := Prod.mk.inj (List.mem_singleton.mp htakes)
          exact changeDigest_of_gone hgone context _
      | digestFree context digest =>
          obtain ⟨rfl, rfl⟩ := Prod.mk.inj (List.mem_singleton.mp htakes)
          simp only [serve, reply, digestFree, digestState, find?_of_gone hgone]
          exact ⟨rfl, rfl⟩
      | sign context digest key plainRsa =>
          refine ⟨sign_of_gone ?_ context plainRsa, rfl⟩
          rcases List.mem_cons.mp htakes with hdigest | hkey
          · exact .inl (by cases hdigest; exact hgone)
          · exact .inr (by cases List.mem_singleton.mp hkey; exact hgone)
      | verify context digest key candidate =>
          refine ⟨verify_of_gone ?_ context candidate, rfl⟩
          rcases List.mem_cons.mp htakes with hdigest | hkey
          · exact .inl (by cases hdigest; exact hgone)
          · exact .inr (by cases List.mem_singleton.mp hkey; exact hgone)
      | _ => cases htakes
  | freeKey key =>
      obtain ⟨rfl, rfl⟩ := Prod.mk.inj (List.mem_singleton.mp htakes)
      have habsent : ¬ engine.keys.contains key = true := by
        rw [Table.contains, findKey?_of_gone hgone]
        exact Bool.false_ne_true
      rw [serve, freeKey, if_neg habsent]
      exact ⟨rfl, rfl⟩
  | _ => cases htakes

/-- What a request frees is not there behind it. -/
theorem names_of_frees (engine : Engine) {request : Request} {kind : HandleKind} {raw : UInt64}
    (hfrees : request.frees = some (kind, raw)) :
    (engine.serve request).2.names raw kind = false := by
  cases request with
  | call native =>
      cases native with
      | digestFree context digest =>
          cases hfrees
          simp only [serve, reply, digestFree, digestState]
          cases hfound : engine.digests.find? digest with
          | none =>
              show engine.digests.contains digest = false
              rw [Table.contains, hfound]
              rfl
          | some state => exact Table.contains_erase_self engine.digests digest
      | _ => cases hfrees
  | freeKey key =>
      cases hfrees
      rw [serve, freeKey]
      split
      next => exact Table.contains_erase_self engine.keys key
      next habsent => simpa [names] using habsent
  | dropKey key =>
      cases hfrees
      exact Table.contains_erase_self engine.keys key
  | _ => cases hfrees

/-! ### A whole life -/

/-- The numbers of the handles that are given out, as long as the count stays within a word. -/
theorem Issues.numbered (h : engine.Issues handles next) (hsmall : next.issued < UInt64.size) :
    handles.map (fun handle => handle.2.toNat) =
      List.range' (engine.issued + 1) handles.length := by
  have hnumbers := congrArg (List.map UInt64.toNat) h.numbers
  rw [List.map_map, List.map_map] at hnumbers
  refine hnumbers.trans ?_
  rw [List.map_congr_left (g := id), List.map_id]
  intro number hnumber
  obtain ⟨-, hle⟩ := List.mem_range'_1.mp hnumber
  have hcount := h.count
  exact UInt64.toNat_ofNat_of_lt (by omega)

theorem Issues.bounds (h : engine.Issues handles next) (hsmall : next.issued < UInt64.size)
    {handle : HandleKind × UInt64} (hmem : handle ∈ handles) :
    engine.issued < handle.2.toNat ∧ handle.2.toNat ≤ next.issued := by
  have hnumber := List.mem_map_of_mem (f := fun handle => handle.2.toNat) hmem
  rw [h.numbered hsmall, List.mem_range'_1] at hnumber
  have hcount := h.count
  omega

theorem Issues.increasing (h : engine.Issues handles next) (hsmall : next.issued < UInt64.size) :
    handles.Pairwise fun first second => first.2 < second.2 := by
  have hpairwise : (handles.map fun handle => handle.2.toNat).Pairwise (· < ·) := by
    rw [h.numbered hsmall]
    exact List.pairwise_lt_range'
  rw [List.pairwise_map] at hpairwise
  exact hpairwise.imp fun hlt => UInt64.lt_iff_toNat_lt.mpr hlt

/-- A number is given out for one kind. -/
theorem Issues.kind_eq (h : engine.Issues handles next) (hsmall : next.issued < UInt64.size)
    {raw : UInt64} {kind other : HandleKind} (hkind : (kind, raw) ∈ handles)
    (hother : (other, raw) ∈ handles) : kind = other := by
  obtain ⟨i, hi, hfirst⟩ := List.mem_iff_getElem.mp hkind
  obtain ⟨j, hj, hsecond⟩ := List.mem_iff_getElem.mp hother
  have hincreasing := List.pairwise_iff_getElem.mp (h.increasing hsmall)
  rcases Nat.lt_trichotomy i j with hlt | rfl | hgt
  · have hraw := hincreasing i j hi hj hlt
    rw [hfirst, hsecond] at hraw
    exact absurd hraw (UInt64.lt_irrefl raw)
  · rw [hfirst] at hsecond
    exact (Prod.mk.inj hsecond).1
  · have hraw := hincreasing j i hj hi hgt
    rw [hfirst, hsecond] at hraw
    exact absurd hraw (UInt64.lt_irrefl raw)

/-- A life of a software engine that is made with a configuration. -/
def life (config : Config) (requests : List Request) : List (HandleKind × UInt64) × Engine :=
  (ofConfig config).serveAll requests

theorem life_issues (config : Config) (requests : List Request) :
    (ofConfig config).Issues (life config requests).1 (life config requests).2 :=
  serveAll_issues _ requests

theorem not_names_ofConfig (config : Config) (raw : UInt64) (kind : HandleKind) :
    (ofConfig config).names raw kind = false := by
  cases kind <;> rfl

/-- What a life says about the handles it gave out. -/
structure UniqueHandles (config : Config) (requests : List Request) : Prop where
  /-- Every number has been given out once, up to the count. -/
  numbered : (life config requests).1.map (fun handle => handle.2.toNat) =
    List.range' 1 (life config requests).2.issued
  valid : ∀ handle ∈ (life config requests).1, handle.2 ≠ 0
  increasing : (life config requests).1.Pairwise fun first second => first.2 < second.2
  /-- What is there was given out, as what it is. -/
  named : ∀ raw kind, (life config requests).2.names raw kind = true →
    (kind, raw) ∈ (life config requests).1
  disjoint : ∀ raw kind other, (life config requests).2.names raw kind = true →
    (life config requests).2.names raw other = true → kind = other
  /-- The handle of what was freed names nothing any more, and whatever takes it is refused and
  changes nothing. -/
  gone : ∀ earlier freeing middle request later,
    requests = earlier ++ freeing :: middle ++ request :: later →
    ∀ kind raw, (kind, raw) ∈ (life config earlier).1 → freeing.frees = some (kind, raw) →
      let now := (life config (earlier ++ freeing :: middle)).2
      (∀ other, now.names raw other = false) ∧
        ((kind, raw) ∈ request.takes →
          request.refused (now.serve request).1 = true ∧ (now.serve request).2 = now)

/-- What is not there, though its handle was given out, does not come back. -/
theorem names_of_gone {later : List Request} (hsmall : (engine.serveAll later).2.issued < UInt64.size)
    {raw : UInt64} (hold : raw.toNat ≤ engine.issued) {kind : HandleKind}
    (hgone : engine.names raw kind = false) : (engine.serveAll later).2.names raw kind = false := by
  have hissues := serveAll_issues engine later
  cases hnames : (engine.serveAll later).2.names raw kind with
  | false => rfl
  | true =>
      rcases hissues.names raw kind hnames with hengine | hnew
      · rw [hgone] at hengine
        cases hengine
      · exact absurd (hissues.bounds hsmall hnew).1 (Nat.not_lt_of_le hold)

theorem life_append (config : Config) (first second : List Request) :
    life config (first ++ second) =
      let before := life config first
      let behind := before.2.serveAll second
      (before.1 ++ behind.1, behind.2) :=
  serveAll_append _ first second

theorem issued_le (config : Config) (first second : List Request) :
    (life config first).2.issued ≤ (life config (first ++ second)).2.issued := by
  rw [life_append, (serveAll_issues (life config first).2 second).count]
  exact Nat.le_add_right _ _

/-- What was freed names nothing from then on, not even something of another kind. -/
theorem names_of_freed {config : Config} {earlier middle : List Request} {freeing : Request}
    {kind : HandleKind} {raw : UInt64}
    (hsmall : (life config (earlier ++ freeing :: middle)).2.issued < UInt64.size)
    (hgiven : (kind, raw) ∈ (life config earlier).1) (hfrees : freeing.frees = some (kind, raw))
    (other : HandleKind) :
    (life config (earlier ++ freeing :: middle)).2.names raw other = false := by
  have hissues := life_issues config (earlier ++ freeing :: middle)
  have hbefore := issued_le config earlier (freeing :: middle)
  have hold := (life_issues config earlier).bounds (Nat.lt_of_le_of_lt hbefore hsmall) hgiven
  have hgone : (life config (earlier ++ freeing :: middle)).2.names raw kind = false := by
    simp only [life_append, serveAll_cons] at hsmall ⊢
    refine names_of_gone hsmall ?_ (names_of_frees _ hfrees)
    rw [(serve_issues _ freeing).count]
    exact Nat.le_trans hold.2 (Nat.le_add_right _ _)
  have hmem : (kind, raw) ∈ (life config (earlier ++ freeing :: middle)).1 := by
    rw [life_append]
    exact List.mem_append_left _ hgiven
  cases hother : (life config (earlier ++ freeing :: middle)).2.names raw other with
  | false => rfl
  | true =>
      rcases hissues.names raw other hother with hstart | hagain
      · rw [not_names_ofConfig] at hstart
        cases hstart
      · rw [hissues.kind_eq hsmall hmem hagain, hother] at hgone
        cases hgone

/-- In a life that gives out less than all numbers of a word, no number is given out twice, and none
comes to name anything but what it was given out for. -/
theorem handles_unique (config : Config) (requests : List Request)
    (hsmall : (life config requests).2.issued + 1 < UInt64.size) :
    UniqueHandles config requests := by
  have hissues := life_issues config requests
  have hword : (life config requests).2.issued < UInt64.size := Nat.lt_of_succ_lt hsmall
  have hnamed : ∀ raw kind, (life config requests).2.names raw kind = true →
      (kind, raw) ∈ (life config requests).1 := by
    intro raw kind hnames
    rcases hissues.names raw kind hnames with hstart | hgiven
    · rw [not_names_ofConfig] at hstart
      cases hstart
    · exact hgiven
  exact {
    numbered := by
      have hcount : (life config requests).2.issued = (life config requests).1.length := by
        simpa [ofConfig] using hissues.count
      rw [hissues.numbered hword, hcount]
      rfl
    valid := by
      rintro handle hmem hzero
      have hbounds := hissues.bounds hword hmem
      rw [hzero] at hbounds
      exact absurd hbounds.1 (Nat.not_lt_zero _)
    increasing := hissues.increasing hword
    named := hnamed
    disjoint := by
      intro raw kind other hkind hother
      exact hissues.kind_eq hword (hnamed raw kind hkind) (hnamed raw other hother)
    gone := by
      rintro earlier freeing middle request later rfl kind raw hgiven hfrees now
      have hnow := issued_le config (earlier ++ freeing :: middle) (request :: later)
      have hgone := names_of_freed (Nat.lt_of_le_of_lt hnow hword) hgiven hfrees
      exact ⟨hgone, fun htakes => serve_of_gone htakes (hgone kind)⟩ }

/-- A context, a digest that is freed and then fed, and a key pair of which one half is freed and
then used. -/
def busyRequests : List Request :=
  [.call (.createContext false), .call (.digestCreate ⟨1⟩ "SHA-256"),
    .generateEc (List.replicate 32 1), .call (.digestUpdate ⟨1⟩ ⟨2⟩ [7]), .freeKey ⟨3⟩,
    .call (.sign ⟨1⟩ ⟨2⟩ ⟨3⟩ false), .call (.digestFree ⟨1⟩ ⟨2⟩),
    .call (.digestUpdate ⟨1⟩ ⟨2⟩ [8]), .freeKey ⟨3⟩, .dropKey ⟨4⟩, .call (.createContext true)]

theorem handles_unique_busy :
    (life default busyRequests).1 =
        [(.context, 1), (.digest, 2), (.key, 3), (.key, 4), (.context, 5)] ∧
      UniqueHandles default busyRequests :=
  ⟨by decide +kernel, handles_unique default busyRequests (by decide +kernel)⟩

end SigningEngine.Software.Engine
