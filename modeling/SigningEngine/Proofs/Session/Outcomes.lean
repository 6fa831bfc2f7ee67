import SigningEngine.Proofs.Session.BoundKey
import SigningEngine.Proofs.Session.Lives
import SigningEngine.Proofs.Signature.Outcomes
import SigningEngine.Proofs.Software.RsaSignatures

/-!
# How steps on a signature end

A signature of a process keeps its digest with its engine for as long as it is in its slot, unless a
call that is made directly frees it. Such a signature over a software engine ends its operations by
the key alone.

The main statement is `ends_by_key`.
-/

namespace SigningEngine

open Software (KeyMaterial Accumulator)

namespace Software.Engine

variable {engine : Engine} {digest : Digest} {state : Accumulator}

/-- A call from within any context changes what a digest holds, or nothing. -/
theorem Covers.changeDigest_within (h : engine.Covers digest state) (context : ContextHandle)
    (change : Accumulator → Accumulator) :
    ∃ later, (engine.settle (engine.changeDigest context digest.handle change)).2.Covers digest
      later := by
  rw [changeDigest_eq, h.digest]
  cases engine.contexts.find? context with
  | none => exact ⟨state, h⟩
  | some fips => exact ⟨change state, h.context, Table.find?_insert_self _ _ _⟩

/-- A call on a digest leaves it with the engine, unless it frees it. -/
theorem Covers.called (h : engine.Covers digest state) {call : NativeCall}
    (hcall : call.altered = some digest.handle) :
    (∃ context, call = .digestFree context digest.handle ∧
        (engine.reply (.digestFree context digest.handle)).1 = .ok ()) ∨
      ∃ later, (engine.reply call).2.Covers digest later := by
  cases call with
  | digestUpdate context changed data =>
      obtain rfl := Option.some.inj hcall
      exact .inr (h.changeDigest_within context _)
  | digestReset context changed =>
      obtain rfl := Option.some.inj hcall
      exact .inr (h.changeDigest_within context _)
  | digestFree context freed =>
      obtain rfl := Option.some.inj hcall
      refine .inl ⟨context, rfl, ?_⟩
      show (engine.settle (engine.digestFree digest.handle)).1 = _
      rw [digestFree, digestState, h.digest]
      rfl
  | _ => cases hcall

end Software.Engine

namespace Session

variable {session : Session} {slot : String} {opened : OpenSignature} {id : EngineId}
variable {engine : Software.Engine}

/-! ### Digests that are freed directly -/

/-- The digest that a step frees by calling its engine directly. -/
def freesDirectly (session : Session) (step : Step) : List (EngineId × DigestHandle) :=
  match step, (session.step step).1 with
  | .native engine (.digestFree _ digest) _ _, .ok _ =>
    ((session.engines.find? engine).map fun id => (id, digest)).toList
  | _, _ => []

/-- The digests that were freed during some steps by calling their engines directly, the last one
first. -/
def freedOver : Session → List Step → List (EngineId × DigestHandle)
  | _, [] => []
  | session, step :: rest => freedOver (session.step step).2 rest ++ session.freesDirectly step

theorem callNative_software (hengine : session.world.softwareEngine? id = some engine)
    (call : NativeCall) (name : Option String) :
    let done := (callNative id call name).run session
    done.1 = (Answer.ofReply call (engine.reply call).1).mapError .native ∧
      done.2.world = session.world.setEngine id (.software (engine.reply call).2) := by
  have hreply := World.replyTo_software hengine call
  have hbehind := World.behind_software hengine call
  have hasked : (workWithin id ((World.boundary id).ask call) session).1 =
      .ok (engine.reply call).1 := hreply
  have hworld : (workWithin id ((World.boundary id).ask call) session).2.world =
      session.world.setEngine id (.software (engine.reply call).2) := hbehind
  rw [callNative, run_bind, within_run, hasked]
  simp only
  cases Answer.ofReply call (engine.reply call).1 with
  | error e => exact ⟨rfl, hworld⟩
  | ok answer =>
      cases answer with
      | bytes signature => cases name <;> exact ⟨rfl, hworld⟩
      | _ => exact ⟨rfl, hworld⟩

/-- A direct call reaches its engine, or its operand is missing and nothing happens. -/
theorem step_native {slot : String} (hid : session.engines.find? slot = some id)
    (hengine : session.world.softwareEngine? id = some engine) (call : NativeCall)
    (operand : Option Operand) (name : Option String) :
    let done := session.step (.native slot call operand name)
    (done.1.isOk = false ∧ done.2.world = session.world) ∨
      ∃ called, (called = call ∨ ∃ data, called = withData data call) ∧
        done.1 = (Answer.ofReply called (engine.reply called).1).mapError .native ∧
        done.2.world = session.world.setEngine id (.software (engine.reply called).2) := by
  let cleared : Session := { session with calls := #[], events := #[] }
  have hcleared : cleared.engines.find? slot = some id := hid
  have hkept : cleared.world.softwareEngine? id = some engine := hengine
  intro done
  have hdone : done = (perform (.native slot call operand name)).run cleared := rfl
  rw [hdone, perform, run_bind, inSlot_run, hcleared]
  simp only
  cases operand with
  | none => exact .inr ⟨call, .inl rfl, callNative_software hkept call name⟩
  | some data =>
      simp only
      rw [run_bind, operand_run]
      cases cleared.operandIn data with
      | error e => exact .inl ⟨rfl, rfl⟩
      | ok data =>
          exact .inr ⟨_, .inr ⟨data, rfl⟩, callNative_software hkept (withData data call) name⟩

/-! ### Digests that stay with their engine -/

variable {digest : Digest} {hash : Software.HashAlgorithm} {message : Bytes}
variable {freed : List (EngineId × DigestHandle)}

theorem place_of_callsOn {step : Step} {digest : DigestHandle} (h : session.callsOn step id digest) :
    step.place = none := by
  cases step with
  | native => rfl
  | _ => cases h

theorem eq_of_withData_free {data : Bytes} {call : NativeCall} {context : ContextHandle}
    {digest : DigestHandle} (h : .digestFree context digest = withData data call) :
    call = .digestFree context digest := by
  cases call with
  | digestFree => exact h.symm
  | _ => cases h

/-- A direct call on the digest leaves it with the engine, unless it frees it. -/
theorem Watched.called (h : Watched slot id digest hash message session) {step : Step}
    (hcalls : session.callsOn step id digest.handle)
    (hunfreed : (id, digest.handle) ∉ session.freesDirectly step) :
    ∃ hash message, Watched slot id digest hash message (session.step step).2 := by
  obtain ⟨opened, hopened, hid, hdigest, hfeeds⟩ := h.feeds
  obtain ⟨engine, hengine, hcovers⟩ := hfeeds.covers
  have hapart : Apart (session.step step).2 := h.apart.of_evolves (step_evolves session step)
  -- it remains to see that the digest is covered
  suffices hcovered : ∃ later : Accumulator, (session.step step).2.world.Covers id digest later by
    obtain ⟨later, hlater⟩ := hcovered
    have hplace : step.place ≠ some (.signature slot) := by
      rw [place_of_callsOn hcalls]
      simp
    have hsame := (step_evolves session step).signatures hplace
    rw [← hdigest] at hlater
    exact ⟨later.algorithm, later.input, hapart, opened, hsame.trans hopened, hid, hdigest,
      hfeeds.valid, hlater, hfeeds.shown⟩
  rw [hdigest] at hcovers
  cases step with
  | native name call operand save =>
      obtain ⟨hname, haltered⟩ := hcalls
      have hdone := step_native hname hengine call operand save
      simp only at hdone
      obtain ⟨-, hworld⟩ | ⟨called, hcalled, hanswer, hworld⟩ := hdone
      · exact ⟨_, engine, hworld ▸ hengine, hcovers⟩
      · have hsame : called.altered = some digest.handle := by
          obtain rfl | ⟨data, rfl⟩ := hcalled
          · exact haltered
          · rwa [altered_withData]
        obtain ⟨context, rfl, hreply⟩ | ⟨later, hlater⟩ := hcovers.called hsame
        · have hcall : call = .digestFree context digest.handle := by
            obtain hcall | ⟨data, hcall⟩ := hcalled
            · exact hcall.symm
            · exact eq_of_withData_free hcall
          subst hcall
          rw [hreply] at hanswer
          have hdone : (session.step
              (.native name (.digestFree context digest.handle) operand save)).1 = .ok .done :=
            hanswer
          simp only [freesDirectly, hdone, hname, Option.map_some, Option.toList_some,
            List.mem_singleton, not_true_eq_false] at hunfreed
        · exact ⟨later, _, hworld ▸ World.softwareEngine?_setEngine hengine _, hlater⟩
  | _ => cases hcalls

/-- The signature in a slot, if it is one over a software engine that has numbers left, feeds a digest
that the engine keeps, unless its digest is one of these. -/
def Upheld (slot : String) (freed : List (EngineId × DigestHandle)) (session : Session) : Prop :=
  ∀ ⦃opened : OpenSignature⦄ ⦃engine : Software.Engine⦄,
    session.signatures.find? slot = some opened →
    session.world.softwareEngine? opened.engine = some engine →
    engine.issued < UInt64.size →
    (opened.engine, opened.signature.digest.handle) ∉ freed →
      ∃ hash message,
        Watched slot opened.engine opened.signature.digest hash message session

theorem Watched.eq_of_find? (h : Watched slot id digest hash message session)
    (hopened : session.signatures.find? slot = some opened) :
    opened.engine = id ∧ opened.signature.digest = digest := by
  obtain ⟨found, hfound, hid, hdigest, -⟩ := h.feeds
  rw [hopened, Option.some.injEq] at hfound
  exact ⟨hfound ▸ hid, hfound ▸ hdigest⟩

/-- A step on a signature leaves it its digest. -/
theorem step_signature_held (session : Session) (slot : String) (what : SignatureStep) :
    (session.step (.signature slot what)).2.held (.signature slot) =
      session.held (.signature slot) := by
  cases hopened : session.signatures.find? slot with
  | none =>
      let cleared : Session := { session with calls := #[], events := #[] }
      have hcleared : cleared.signatures.find? slot = none := hopened
      have hdone : (session.step (.signature slot what)).2 = cleared := by
        show ((signatureStep slot what).run cleared).2 = cleared
        rw [signatureStep, run_bind, inSlot_run, hcleared]
      rw [hdone]
      rfl
  | some opened =>
      have hsame {later : OpenSignature} (hlater :
          (session.step (.signature slot what)).2.signatures.find? slot = some later)
          (hengine : later.engine = opened.engine)
          (hdigest : later.signature.digest = opened.signature.digest) :
          (session.step (.signature slot what)).2.held (.signature slot) =
            session.held (.signature slot) := by
        rw [held_signature hopened, held_signature hlater, hengine, hdigest]
      cases what with
      | start name plainRsa =>
          obtain ⟨key, -, -, hnext⟩ | ⟨-, hnext | hnext⟩ := step_start hopened name plainRsa
          · exact hsame hnext rfl rfl
          · exact hsame hnext rfl rfl
          · exact hsame hnext rfl rfl
      | _ => exact hsame ((find?_signature_of_quiet (.inr rfl)).trans hopened) rfl rfl

/-- A signature that was there before stays upheld. -/
theorem Watched.stays (h : Watched slot id digest hash message session) {step : Step}
    (hstays : (session.step step).2.held (.signature slot) = session.held (.signature slot))
    (hunfreed : (id, digest.handle) ∉ session.freesDirectly step)
    (hcounted : Counted id (session.step step).2) :
    ∃ hash message, Watched slot id digest hash message (session.step step).2 := by
  by_cases hplace : step.place = some (.signature slot)
  · have hevolves := step_evolves session step
    rw [hplace] at hevolves
    obtain ⟨context, algorithm, rfl⟩ | ⟨what, rfl⟩ | rfl := step.place_eq_signature hplace
    · exact ⟨hash, message,
        h.renewal (step_renewal session slot context algorithm) hevolves hstays hcounted⟩
    · exact ⟨hash, _, h.own what⟩
    · rw [step_drop_held, h.held_eq] at hstays
      cases hstays
  · by_cases hcalls : session.callsOn step id digest.handle
    · exact h.called hcalls hunfreed
    · exact ⟨hash, message, h.other hplace hcalls hcounted⟩

theorem Upheld.step (h : Upheld slot freed session) (hapart : Apart session) (step : Step) :
    Upheld slot (session.freesDirectly step ++ freed) (session.step step).2 := by
  intro opened later hopened hlater hissued hunfreed
  rw [List.mem_append, not_or] at hunfreed
  have hevolves := step_evolves session step
  have hcounted := Counted.of_engine hlater hissued
  have hheld := held_signature hopened
  by_cases hstays :
      (session.step step).2.held (.signature slot) = session.held (.signature slot)
  · -- the signature was there before, with the same digest
    rw [hheld] at hstays
    obtain ⟨old, hold, hpair⟩ := Option.map_eq_some_iff.mp hstays.symm
    obtain ⟨hid, hhandle⟩ := Prod.mk.inj hpair
    obtain ⟨engine, hengine, hbefore⟩ :=
      hevolves.world.software_before (hapart.known hstays.symm) hlater
    rw [← hid] at hengine hcounted hunfreed
    rw [← hhandle] at hunfreed
    obtain ⟨hash, message, hwatched⟩ :=
      h hold hengine (Nat.lt_of_le_of_lt hbefore.issued hissued) hunfreed.2
    rw [← hheld] at hstays
    obtain ⟨hash, message, hnext⟩ := hwatched.stays hstays hunfreed.1 hcounted
    obtain ⟨hsame, hdigest⟩ := hnext.eq_of_find? hopened
    exact ⟨hash, message, hsame ▸ hdigest ▸ hnext⟩
  · -- a new signature has taken the slot
    have hplace : step.place = some (.signature slot) :=
      Classical.not_not.mp fun hplace => hstays (hevolves.elsewhere hplace)
    rw [hplace] at hevolves
    obtain ⟨context, algorithm, rfl⟩ | ⟨what, rfl⟩ | rfl := step.place_eq_signature hplace
    · obtain ⟨hash, -, hwatched⟩ := (step_renewal session slot context algorithm).watched hapart
        hevolves hstays hopened hlater hissued
      exact ⟨hash, [], hwatched⟩
    · exact (hstays (step_signature_held session slot what)).elim
    · rw [step_drop_held] at hheld
      cases hheld

theorem Upheld.after (steps : List Step) {session : Session}
    {freed : List (EngineId × DigestHandle)} (h : Upheld slot freed session)
    (hapart : Apart session) :
    Upheld slot (freedOver session steps ++ freed) (session.after steps) := by
  induction steps generalizing session freed with
  | nil => exact h
  | cons step rest ih =>
      rw [freedOver, List.append_assoc]
      exact ih (h.step hapart step) (hapart.of_evolves (step_evolves session step))

/-- In a process, whatever was done to a signature and beside it, its digest is with its engine if it
was not freed directly. -/
theorem upheld_after (steps : List Step) :
    Upheld slot (freedOver {} steps) (({} : Session).after steps) := by
  have hempty : Upheld slot [] {} := by
    intro opened engine hopened
    cases hopened
  simpa only [List.append_nil] using hempty.after steps apart_empty

/-! ### Private material that signs -/

/-- The primes that were found for an RSA key fill a modulus of as many bits as were asked for. -/
def Step.FillsModulus : Step → Prop
  | .generateRsa _ _ bits p q => 2 ^ (bits.toNat - 1) ≤ p * q
  | _ => True

/-- The private keys on the curve that an engine keeps sign what a digest of it holds. -/
def SignsOnCurve (engine : Software.Engine) (digest : DigestHandle) : Prop :=
  ∀ handle key state, engine.keys.find? handle = some (.ecPrivate key) →
    engine.digests.find? digest = some state → (key.sign? state.hash).isSome = true

/-- A pair that is registered was generated. -/
theorem mem_registered {asked : Option (Software.Halves KeyMaterial)}
    {answer : Except StepError Answer} {handle : KeyHandle} {material : KeyMaterial}
    (h : (handle, material) ∈ registered asked answer) :
    ∃ pair, asked = some pair ∧ (material = pair.publicKey ∨ material = pair.privateKey) := by
  unfold registered at h
  split at h
  next pair handles =>
    simp only [List.mem_cons, Prod.mk.injEq, List.not_mem_nil, or_false] at h
    exact ⟨pair, rfl, h.imp And.right And.right⟩
  next => cases h

theorem modulus_of_generateRsa {bits : UInt64} {p q : Nat} {pair : Software.Halves KeyMaterial}
    (h : KeyMaterial.generateRsa bits p q = .ok pair) (hfills : 2 ^ (bits.toNat - 1) ≤ p * q)
    {key : Rsa.PrivateKey}
    (hkey : KeyMaterial.rsaPrivate key = pair.publicKey ∨
      KeyMaterial.rsaPrivate key = pair.privateKey) : 2 ^ 1023 ≤ key.modulus := by
  rw [KeyMaterial.generateRsa] at h
  split at h
  next => cases h
  next hbits =>
    have hmany : 1024 ≤ bits.toNat := UInt64.le_iff_toNat_le.mp (UInt64.not_lt.mp hbits)
    have hpower : 2 ^ 1023 ≤ 2 ^ (bits.toNat - 1) :=
      pow_le_pow_right₀ one_le_two (Nat.le_sub_one_of_lt hmany)
    split at h
    next found hfound =>
      cases h
      obtain ⟨d, -, rfl⟩ := Option.map_eq_some_iff.mp hfound
      rcases hkey with hpublic | hprivate
      · cases hpublic
      · cases hprivate
        exact Nat.le_trans hpower hfills
    next => cases h

theorem modulus_of_pairFor {step : Step} {pair : Software.Halves KeyMaterial}
    (h : session.pairFor id step = some pair) (hfills : step.FillsModulus) {key : Rsa.PrivateKey}
    (hkey : KeyMaterial.rsaPrivate key = pair.publicKey ∨
      KeyMaterial.rsaPrivate key = pair.privateKey) : 2 ^ 1023 ≤ key.modulus := by
  obtain ⟨_, _, _, source, rfl, hpair⟩ | ⟨_, _, bits, p, q, rfl, hpair⟩ := pairFor_eq_some h
  · rw [KeyMaterial.generateEc] at hpair
    split at hpair
    next =>
      cases hpair
      rcases hkey with hpublic | hprivate
      · cases hpublic
      · cases hprivate
    next => cases hpair
  · exact modulus_of_generateRsa hpair hfills hkey

/-- Every private RSA key that was generated has a modulus of 1024 bits at least. -/
theorem modulus_of_generated (steps : List Step) {session : Session}
    (hfills : ∀ step ∈ steps, step.FillsModulus) {handle : KeyHandle} {key : Rsa.PrivateKey}
    (h : (handle, .rsaPrivate key) ∈ generatedOver id session steps) : 2 ^ 1023 ≤ key.modulus := by
  induction steps generalizing session with
  | nil => cases h
  | cons step rest ih =>
      rcases List.mem_append.mp h with hlater | hnow
      · exact ih (fun other hother => hfills other (List.mem_cons_of_mem _ hother)) hlater
      · obtain ⟨pair, hpair, hkey⟩ := mem_registered hnow
        exact modulus_of_pairFor hpair (hfills step List.mem_cons_self) hkey

/-- Private material that an engine keeps signs what a digest of it holds. -/
theorem signs_of_kept {steps : List Step}
    (hengine : (({} : Session).after steps).world.softwareEngine? id = some engine)
    (hfills : ∀ step ∈ steps, step.FillsModulus) {digest : DigestHandle} {state : Accumulator}
    (hcurve : SignsOnCurve engine digest) (hstate : engine.digests.find? digest = some state)
    {handle : KeyHandle} {material : KeyMaterial}
    (hmaterial : engine.keys.find? handle = some material)
    (hprivate : material.isPrivate = true) (plainRsa : Bool) :
    ∃ bytes, material.sign state plainRsa = .ok bytes := by
  cases material with
  | rsaPrivate key =>
      have hkept : (({} : Session).after steps).world.materialOf ⟨id, handle, .rsa, true⟩ =
          some (.rsaPrivate key) := by
        rw [World.materialOf, hengine]
        exact hmaterial
      obtain ⟨newer, older, hlist, -⟩ := List.lookup_eq_some_iff.mp (generated_last steps hkept)
      have hmem : (handle, .rsaPrivate key) ∈ generatedOver id {} steps := by
        have hlist : generatedOver id {} steps = newer ++ (handle, .rsaPrivate key) :: older :=
          hlist
        rw [hlist]
        exact List.mem_append_right _ List.mem_cons_self
      obtain ⟨bytes, hbytes, -⟩ := KeyMaterial.exists_sign_rsaPrivate
        (modulus_of_generated steps hfills hmem) state plainRsa
      exact ⟨bytes, hbytes⟩
  | ecPrivate key =>
      obtain ⟨bytes, hbytes⟩ :=
        Option.isSome_iff_exists.mp (hcurve handle key state hmaterial hstate)
      exact ⟨bytes, KeyMaterial.sign_ecPrivate_eq_ok.mpr hbytes⟩
  | rsaPublic key => cases hprivate
  | ecPublic key => cases hprivate

/-! ### How operations end -/

/-- An answer gives a value exactly if there is material to work with, and else gives the reason why
there is none. -/
structure AnsweredBy {α : Type} (found : Except EngineError KeyMaterial) (value : α → Answer)
    (answer : Except StepError Answer) : Prop where
  value : (∃ given, answer = .ok (value given)) ↔ ∃ material, found = .ok material
  refusal (e : StepError) :
    answer = .error e ↔ ∃ reason, e = .failed (.error reason) ∧ found = .error reason

section AnsweredBy

variable {α : Type} {found : Except EngineError KeyMaterial} {value : α → Answer}
variable {answer : Except StepError Answer}

theorem AnsweredBy.refused {reason : EngineError} (hfound : found = .error reason)
    (hanswer : answer = .error (.failed (.error reason))) : AnsweredBy found value answer where
  value := by simp [hfound, hanswer]
  refusal e := by simp [hfound, hanswer, eq_comm]

theorem AnsweredBy.given {material : KeyMaterial} {given : α} (hfound : found = .ok material)
    (hanswer : answer = .ok (value given)) : AnsweredBy found value answer where
  value := ⟨fun _ => ⟨material, hfound⟩, fun _ => ⟨given, hanswer⟩⟩
  refusal e := by simp [hfound, hanswer]

end AnsweredBy

/-- How the operations on the signature in a slot end over a software engine. A start is refused only
for a key without a handle. A sign and a verify need a bound key that shows a handle under which the
engine keeps material, which for a sign is private material; each is refused for the first of these
that is missing, and else a sign gives a signature, and a verify judges the candidate. -/
structure EndsByKey (session : Session) (slot : String) (opened : OpenSignature)
    (engine : Software.Engine) : Prop where
  start {name : String} {key : Key} (plainRsa : Bool) : session.keys.find? name = some key →
    (session.step (.signature slot (.start name plainRsa))).1 =
      if (session.world.readHandle key).1.isValid then .ok .done
      else .error (.failed (.error (Signature.noHandle key)))
  sign (save : Option String) :
    AnsweredBy (opened.signature.signingMaterial engine session.world) Answer.bytes
      (session.step (.signature slot (.sign save))).1
  verify {candidate : Operand} {data : Bytes} : session.operandIn candidate = .ok data →
    AnsweredBy (opened.signature.material "verify" engine session.world) Answer.flag
      (session.step (.signature slot (.verify candidate))).1

theorem step_start_of_covers {state : Accumulator} {name : String} {key : Key}
    (hopened : session.signatures.find? slot = some opened)
    (hcovers : session.world.Covers opened.engine opened.signature.digest state)
    (hkey : session.keys.find? name = some key) (plainRsa : Bool) :
    (session.step (.signature slot (.start name plainRsa))).1 =
      if (session.world.readHandle key).1.isValid then .ok .done
      else .error (.failed (.error (Signature.noHandle key))) := by
  let cleared : Session := { session with calls := #[], events := #[] }
  have hcleared : cleared.signatures.find? slot = some opened := hopened
  have hnamed : cleared.keys.find? name = some key := hkey
  have hheld : ({ state := session.world.hold key } : Run World).state.Covers opened.engine
      opened.signature.digest state :=
    hcovers.still (World.hold_still session.world key)
  have hstarted := Signature.start_of_covers hheld key plainRsa
  have hlaid : (session.world.hold key).scriptedHandles = session.world.scriptedHandles := rfl
  have hread := World.readHandle_congr hlaid key
  show ((signatureStep slot (.start name plainRsa)).run cleared).1 = _
  rw [signatureStep, run_bind, inSlot_run, hcleared]
  simp only
  rw [startSignature_run slot opened plainRsa hnamed]
  show ((opened.signature.start (World.boundary opened.engine) key plainRsa
    { state := session.world.hold key }).1.1.mapError StepError.failed).map _ = _
  rw [hstarted, hread]
  split <;> rfl

theorem Watched.endsByKey (h : Watched slot opened.engine opened.signature.digest hash message session)
    (hopened : session.signatures.find? slot = some opened)
    (hengine : session.world.softwareEngine? opened.engine = some engine)
    (hsigns : ∀ handle material, engine.keys.find? handle = some material →
      material.isPrivate = true →
        ∃ bytes, material.sign ⟨hash, message⟩ opened.signature.plainRsa = .ok bytes) :
    EndsByKey session slot opened engine := by
  obtain ⟨found, hfound, -, -, hfeeds⟩ := h.feeds
  rw [hopened, Option.some.injEq] at hfound
  subst hfound
  obtain ⟨owner, howner, hcovers⟩ := hfeeds.covers
  rw [hengine, Option.some.injEq] at howner
  subst howner
  have hcases := Signature.sign_cases hfeeds.valid hengine hcovers fun material hmaterial =>
    (Signature.kept_of_material hmaterial).elim fun handle => hsigns handle material
  refine ⟨fun plainRsa hkey => step_start_of_covers hopened hfeeds.covers hkey plainRsa, ?_, ?_⟩
  · intro save
    have hanswer := step_sign hopened save
    obtain ⟨reason, hreason, houtcome⟩ | ⟨material, bytes, hmaterial, houtcome⟩ := hcases
    · rw [houtcome] at hanswer
      exact .refused hreason hanswer
    · rw [houtcome] at hanswer
      exact .given hmaterial hanswer
  · intro candidate data hdata
    have hanswer := step_verify hopened hdata
    rw [Signature.verify_of_covers hfeeds.valid hengine hcovers] at hanswer
    cases hmaterial : opened.signature.material "verify" engine session.world with
    | error reason =>
        rw [hmaterial] at hanswer
        exact .refused rfl hanswer
    | ok material =>
        rw [hmaterial] at hanswer
        exact .given rfl hanswer

/-- Which handles an engine keeps keys under: those of keys that were generated, not freed since, and
are still held, and never those of its contexts and digests. -/
structure KeysNamed (id : EngineId) (steps : List Step) (session : Session)
    (engine : Software.Engine) : Prop where
  kept (handle : KeyHandle) : engine.keys.contains handle = true ↔
    handle ∈ (unfreedOver id {} [] steps).map Prod.fst ∧ session.holds id handle = true
  others {raw : UInt64} {kind : HandleKind} : engine.names raw kind = true → kind ≠ .key →
    engine.keys.contains ⟨raw⟩ = false

theorem keysNamed_after (steps : List Step)
    (hengine : (({} : Session).after steps).world.softwareEngine? id = some engine)
    (hissued : engine.issued < UInt64.size) :
    KeysNamed id steps (({} : Session).after steps) engine where
  kept handle := by
    have hkeeps := (keeping_after steps (keeping_empty id)
      (Counted.of_engine hengine hissued)).keepsHeld hengine
    rw [← engine.freeKey_eq_true_iff]
    exact hkeeps.freeKey handle
  others {raw kind} hnames hkind := by
    obtain ⟨config, requests, rfl⟩ := lives_after steps hengine
    refine Bool.eq_false_iff.mpr fun hkey => hkind ?_
    exact Software.Engine.names_eq hissued hnames hkey

/-- Whatever was done in a process, the operations on a signature over a software engine end by its
key, if its digest was not freed directly and the engine did not issue as many handles as a word has
numbers. What is assumed is that primes that were found for an RSA key fill its modulus, and that the
keys on the curve sign the hash in question. -/
theorem ends_by_key (steps : List Step) {final : Session} {slot : String} {opened : OpenSignature}
    {engine : Software.Engine} (hfinal : ({} : Session).after steps = final)
    (hopened : final.signatures.find? slot = some opened)
    (hengine : final.world.softwareEngine? opened.engine = some engine)
    (hissued : engine.issued + 1 < UInt64.size)
    (hunfreed : (opened.engine, opened.signature.digest.handle) ∉ freedOver {} steps)
    (hfills : ∀ step ∈ steps, step.FillsModulus)
    (hcurve : SignsOnCurve engine opened.signature.digest.handle) :
    EndsByKey final slot opened engine ∧ KeysNamed opened.engine steps final engine := by
  subst hfinal
  have hsmall : engine.issued < UInt64.size := Nat.lt_of_succ_lt hissued
  obtain ⟨hash, message, hwatched⟩ := upheld_after steps hopened hengine hsmall hunfreed
  refine ⟨hwatched.endsByKey hopened hengine ?_, keysNamed_after steps hengine hsmall⟩
  intro handle material hmaterial hprivate
  obtain ⟨found, hfound, -, -, hfeeds⟩ := hwatched.feeds
  rw [hopened, Option.some.injEq] at hfound
  subst hfound
  obtain ⟨owner, howner, hcovers⟩ := hfeeds.covers
  rw [hengine, Option.some.injEq] at howner
  subst howner
  exact signs_of_kept hengine hfills hcurve hcovers.digest hmaterial hprivate _

/-- An engine has key pairs of both kinds. A signature is bound to a scripted key that shows the number
of the context; its digest was fed directly, and another digest was freed so. -/
def aliasSteps : List Step :=
  [.newEngine "engine" none,
    .createContext "context" "engine" false (.document (.object [])),
    .generateRsa "engine" "rsa" 1057 Software.prime536 Software.prime521,
    .generateEc "engine" "ec" (.given (List.replicate 32 1)),
    .newKey "alias" [⟨1⟩] "EC",
    .newDigest "digest" "context" "SHA-256",
    .newSignature "signature" "context" "SHA-256",
    .native "engine" (.digestFree ⟨1⟩ ⟨6⟩) none none,
    .native "engine" (.digestUpdate ⟨1⟩ ⟨7⟩ [1]) none none,
    .signature "signature" (.start "alias" false)]

theorem fillsModulus_aliasSteps : ∀ step ∈ aliasSteps, step.FillsModulus := by
  have hfills : 2 ^ ((1057 : UInt64).toNat - 1) ≤ Software.prime536 * Software.prime521 := by
    decide +kernel
  simp only [aliasSteps, List.forall_mem_cons, Step.FillsModulus, true_and]
  exact ⟨hfills, by simp⟩

/-- All private keys of an engine sign what a digest of it holds. -/
def allSign (engine : Software.Engine) (digest : DigestHandle) : Bool :=
  (engine.digests.find? digest).all fun state =>
    engine.keys.values.all fun material =>
      !material.isPrivate || (material.sign state false).isOk

theorem signsOnCurve_of_allSign {digest : DigestHandle} (h : allSign engine digest = true) :
    SignsOnCurve engine digest := by
  intro handle key state hkey hstate
  rw [allSign, hstate, Option.all_some, List.all_eq_true] at h
  have hsigns := h _ (Table.mem_values_iff.mpr ⟨handle, hkey⟩)
  cases hmade : (KeyMaterial.ecPrivate key).sign state false with
  | error e =>
      rw [hmade] at hsigns
      cases hsigns
  | ok bytes => exact Option.isSome_iff_exists.mpr ⟨bytes, KeyMaterial.sign_ecPrivate_eq_ok.mp hmade⟩

theorem ends_by_key_alias :
    ∃ opened engine,
      EndsByKey (({} : Session).after aliasSteps) "signature" opened engine ∧
      opened.signature.signingMaterial engine (({} : Session).after aliasSteps).world =
        .error (Signature.unknownKey "sign" ⟨1⟩) ∧
      ((({} : Session).after aliasSteps).step (.signature "signature" (.sign none))).1 =
        .error (.failed (.error (Signature.unknownKey "sign" ⟨1⟩))) := by
  obtain ⟨final, hfinal⟩ : ∃ final, ({} : Session).after aliasSteps = final := ⟨_, rfl⟩
  have hopens : (final.signatures.find? "signature").map
      (fun opened => (opened.engine, opened.signature.digest.handle, opened.signature.key)) =
        some (0, ⟨7⟩, some (.scripted ⟨0, "EC"⟩)) := by
    rw [← hfinal]
    decide +kernel
  have hserves : (final.world.softwareEngine? 0).map
      (fun engine => (engine.issued, allSign engine ⟨7⟩, engine.names 1 .context)) =
        some (7, true, true) := by
    rw [← hfinal]
    decide +kernel
  have hshows : (final.world.readHandle (.scripted ⟨0, "EC"⟩)).1 = ⟨1⟩ := by
    rw [← hfinal]
    decide +kernel
  have hfreed : freedOver {} aliasSteps = [(0, ⟨6⟩)] := by
    decide +kernel
  obtain ⟨opened, hopened, hparts⟩ := Option.map_eq_some_iff.mp hopens
  obtain ⟨hid, hparts⟩ := Prod.mk.inj hparts
  obtain ⟨hdigest, hkey⟩ := Prod.mk.inj hparts
  obtain ⟨engine, hengine, hparts⟩ := Option.map_eq_some_iff.mp hserves
  obtain ⟨hissued, hparts⟩ := Prod.mk.inj hparts
  obtain ⟨hsigns, hcontext⟩ := Prod.mk.inj hparts
  have hunfreed :
      (opened.engine, opened.signature.digest.handle) ∉ freedOver {} aliasSteps := by
    rw [hid, hdigest, hfreed]
    decide
  obtain ⟨hends, hnamed⟩ := ends_by_key aliasSteps hfinal hopened (hid.symm ▸ hengine)
    (by rw [hissued]; decide) hunfreed fillsModulus_aliasSteps
    (hdigest.symm ▸ signsOnCurve_of_allSign hsigns)
  have habsent : engine.keys.find? ⟨1⟩ = none := by
    simpa [Table.contains] using hnamed.others hcontext (by decide)
  have hunknown : opened.signature.signingMaterial engine final.world =
      .error (Signature.unknownKey "sign" ⟨1⟩) := by
    rw [Signature.signingMaterial, Signature.material, hkey]
    simp only [hshows, habsent]
    rfl
  rw [hfinal]
  exact ⟨opened, engine, hends, hunknown,
    ((hends.sign none).refusal _).mpr ⟨_, rfl, hunknown⟩⟩

end Session

end SigningEngine
