import SigningEngine.Proofs.Session.Coverage
import SigningEngine.Proofs.Session.Resemblance
import SigningEngine.Proofs.Software.RsaSignatures

/-!
# What secrets cannot change

Two runs take the same steps but for secrets: what comes of a random source, the bytes of messages,
and the signatures that are presented. What is logged in such runs, what the objects show in
diagnostic output, and the handles and counts that are given out do not tell them apart. Steps that
sign or verify may be answered differently, and still show nothing else.

The main statement is `secrets_not_shown`.
-/

namespace SigningEngine.Session

open Software (KeyMaterial Halves)

/-! ### Steps that differ in secrets -/

/-- Two outcomes end alike: by the same error, or by values that are related. -/
inductive EndAlike {ε α β : Type} (P : α → β → Prop) : Except ε α → Except ε β → Prop where
  | ok {a : α} {b : β} (related : P a b) : EndAlike P (.ok a) (.ok b)
  | error (e : ε) : EndAlike P (.error e) (.error e)

/-- Messages of one length. -/
def SameLength (data alter : Bytes) : Prop := data.length = alter.length

/-- Whatever the values are. -/
def Whatever {α β : Type} (_ : α) (_ : β) : Prop := True

theorem EndAlike.of_isOk {ε α β : Type} {first : Except ε α} {second : Except ε β}
    (hfirst : first.isOk = true) (hsecond : second.isOk = true) :
    EndAlike Whatever first second := by
  cases first with
  | error e => cases hfirst
  | ok a =>
      cases second with
      | error e => cases hsecond
      | ok b => exact .ok trivial

/-- Calls that differ in the bytes of a message or in the signature to be verified. -/
inductive CallVaries : NativeCall → NativeCall → Prop where
  | same (call : NativeCall) : CallVaries call call
  | message (context : ContextHandle) (digest : DigestHandle) {data alter : Bytes}
      (length : SameLength data alter) :
      CallVaries (.digestUpdate context digest data) (.digestUpdate context digest alter)
  | candidate (context : ContextHandle) (digest : DigestHandle) (key : KeyHandle)
      (candidate alter : Bytes) :
      CallVaries (.verify context digest key candidate) (.verify context digest key alter)

/-- Steps that differ in secrets alone. Where keys are generated, both generations succeed, or both
end by the same fault. -/
inductive Varies (session other : Session) : Step → Step → Prop where
  | same {step : Step} (plain : step.carriesBytes = false) : Varies session other step step
  | generateEc (engine slot : String) {entropy alter : Operand}
      (generated : EndAlike (EndAlike Whatever)
        ((session.operandIn entropy).map KeyMaterial.generateEc)
        ((other.operandIn alter).map KeyMaterial.generateEc)) :
      Varies session other (.generateEc engine slot entropy) (.generateEc engine slot alter)
  | generateRsa (engine slot : String) (bits : UInt64) {p q r s : Nat}
      (generated : EndAlike Whatever (KeyMaterial.generateRsa bits p q)
        (KeyMaterial.generateRsa bits r s)) :
      Varies session other (.generateRsa engine slot bits p q) (.generateRsa engine slot bits r s)
  | digest (name : String) {data alter : Operand}
      (fed : EndAlike SameLength (session.operandIn data) (other.operandIn alter)) :
      Varies session other (.digest name (.update data)) (.digest name (.update alter))
  | update (name : String) (span : Span) {data alter : Operand}
      (fed : EndAlike SameLength (session.operandIn data) (other.operandIn alter)) :
      Varies session other (.signature name (.update data span))
        (.signature name (.update alter span))
  | updateAll (name : String) {data alter : Operand}
      (fed : EndAlike SameLength (session.operandIn data) (other.operandIn alter)) :
      Varies session other (.signature name (.updateAll data)) (.signature name (.updateAll alter))
  | verify (name : String) {candidate alter : Operand}
      (presented : EndAlike Whatever (session.operandIn candidate) (other.operandIn alter)) :
      Varies session other (.signature name (.verify candidate)) (.signature name (.verify alter))
  | native (engine : String) (save : Option String) {call alter : NativeCall}
      (called : CallVaries call alter) :
      Varies session other (.native engine call none save) (.native engine alter none save)
  | nativeWith (engine : String) (call : NativeCall) (save : Option String) {data alter : Operand}
      (called : EndAlike (fun data alter => CallVaries (withData data call) (withData alter call))
        (session.operandIn data) (other.operandIn alter)) :
      Varies session other (.native engine call (some data) save)
        (.native engine call (some alter) save)

/-- Runs that take the same steps but for secrets. -/
inductive Varying : Session → Session → List Step → List Step → Prop where
  | done (session other : Session) : Varying session other [] []
  | step {session other : Session} {step twin : Step} {rest others : List Step}
      (first : Varies session other step twin)
      (behind : Varying (session.step step).2 (other.step twin).2 rest others) :
      Varying session other (step :: rest) (twin :: others)

/-! ### What is shown -/

/-- What a process shows. -/
structure Shown where
  /-- The level, the message and the fields of each event of the last step. -/
  events : List (EventLevel × String × List (String × String))
  /-- The diagnostic output of each software engine, and how many digests and keys it keeps. -/
  engines : List (Option (String × Nat × Nat))
  /-- The handle of each context, its text and its diagnostic output. -/
  contexts : List (ContextHandle × String × String)
  /-- By slot, the handle of each digest and its diagnostic output. -/
  digests : List (String × DigestHandle × String)
  /-- By slot, whether a key is bound to each signature, and its diagnostic output. -/
  signatures : List (String × Bool × Option String)
  /-- By slot, the handle of each key. -/
  keys : List (String × KeyHandle)

/-- What an engine shows, if it is a software engine. -/
def display (engine : Engine) : Option (String × Nat × Nat) :=
  engine.software?.map fun software =>
    (software.diagnostic, software.liveDigests, software.liveKeys)

def shown (session : Session) : Shown where
  events := session.events.toList.map fun event => (event.level, event.message, event.fields)
  engines := session.world.engines.toList.map display
  contexts := session.created.toList.map fun opened =>
    (opened.context.handle, opened.context.text, opened.context.diagnostic)
  digests := session.digests.entries.map fun (name, opened) =>
    (name, opened.digest.handle, opened.digest.diagnostic)
  signatures := session.signatures.entries.map fun (name, opened) =>
    (name, opened.signature.isInitialized,
      session.created[opened.context]?.map fun context =>
        opened.signature.diagnostic context.context)
  keys := session.keys.entries.map fun (name, key) => (name, (session.world.readHandle key).1)

/-- What each step of a run is answered, unless it signs or verifies, and what is shown behind it. -/
def trace (session : Session) : List Step → List (Option (Except StepError Answer) × Shown)
  | [] => []
  | step :: rest =>
    let (answer, next) := session.step step
    (if step.judges then none else some answer, next.shown) :: next.trace rest

variable {session other : Session} {α β : Type}

/-- What an engine shows does not tell its secrets. -/
theorem display_congr {engine twin : Engine} (h : engine.Resembles twin) :
    display engine = display twin := by
  cases h with
  | software h =>
      simp only [display, Engine.software?, Option.map_some, h.diagnostic, h.liveDigests, h.liveKeys]
  | scripted engine => rfl

/-- Sessions that resemble each other show the same. -/
theorem Resembles.shown (h : session.Resembles other) : session.shown = other.shown := by
  have hengines : session.world.engines.toList.map display =
      other.world.engines.toList.map display := by
    apply List.ext_getElem?
    intro place
    rw [List.getElem?_map, List.getElem?_map, Array.getElem?_toList, Array.getElem?_toList]
    obtain ⟨hfound, hsame⟩ | ⟨engine, twin, hfound, hsame, hengine⟩ := h.world.engine_cases place
    · rw [hfound, hsame]
    · rw [hfound, hsame]
      exact congrArg some (display_congr hengine)
  have hkeys (key : Key) : (session.world.readHandle key).1 = (other.world.readHandle key).1 :=
    (World.readHandle_matching key _ _ h.world).1
  simp only [Session.shown, hengines, hkeys, h.created, h.digests, h.signatures, h.keys, h.events]

/-! ### Steps that are given bytes -/

section Reading

variable {γ : Type} {Q : Except StepError β × Session → Except StepError γ × Session → Prop}

/-- What begins by looking into a slot comes to what follows, in both sessions. -/
theorem inSlot_both {slots : Session → Table String α} (hslots : slots session = slots other)
    (name : String) {f : α → Action β} {g : α → Action γ}
    (herror : ∀ e, Q (.error e, session) (.error e, other))
    (hok : ∀ object, Q ((f object).run session) ((g object).run other)) :
    Q ((inSlot slots name >>= f).run session) ((inSlot slots name >>= g).run other) := by
  rw [run_bind, run_bind, inSlot_run, inSlot_run, hslots]
  cases (slots other).find? name with
  | none => exact herror _
  | some object => exact hok object

/-- What begins by reading operands comes to what follows on their bytes. -/
theorem operand_both {P : Bytes → Bytes → Prop} {data alter : Operand}
    (hdata : EndAlike P (session.operandIn data) (other.operandIn alter))
    {f : Bytes → Action β} {g : Bytes → Action γ}
    (herror : ∀ e, Q (.error e, session) (.error e, other))
    (hok : ∀ data alter, P data alter → Q ((f data).run session) ((g alter).run other)) :
    Q ((operand data >>= f).run session) ((operand alter >>= g).run other) := by
  rw [run_bind, run_bind, operand_run, operand_run]
  revert hdata
  generalize session.operandIn data = found
  generalize other.operandIn alter = same
  intro hdata
  cases hdata with
  | ok related => exact hok _ _ related
  | error e => exact herror e

end Reading

/-- Two actions leave sessions that resemble each other, and end alike unless they sign or verify. -/
def Ends (judges : Bool) (first second : Except StepError α × Session) : Prop :=
  (judges = false → first.1 = second.1) ∧ first.2.Resembles second.2

theorem Ends.of_alike {judges : Bool} {first second : Except StepError α × Session}
    (h : first.1 = second.1 ∧ first.2.Resembles second.2) : Ends judges first second :=
  ⟨fun _ => h.1, h.2⟩

theorem Ends.of_judges {first second : Except StepError α × Session}
    (h : first.2.Resembles second.2) : Ends true first second :=
  ⟨fun hjudges => Bool.noConfusion hjudges, h⟩

/-- Where there is nothing to act on, nothing happens. -/
theorem Ends.of_error {judges : Bool} (h : session.Resembles other) (e : StepError) :
    Ends judges ((.error e : Except StepError α), session) (.error e, other) :=
  .of_alike ⟨rfl, h⟩

section Bytes

variable (h : session.Resembles other)
include h

theorem digestUpdate_ends (name : String) {data alter : Operand}
    (hdata : EndAlike SameLength (session.operandIn data) (other.operandIn alter)) :
    Ends false ((perform (.digest name (.update data))).run session)
      ((perform (.digest name (.update alter))).run other) := by
  refine inSlot_both h.digests name (.of_error h) fun opened => ?_
  refine operand_both hdata (.of_error h) fun data alter _ => ?_
  have hupdate := opened.digest.update_matching_of_secret opened.engine data alter
  have hdone := bind_alike (attempt_alike opened.engine hupdate) fun _ => pure_alike Answer.done
  exact .of_alike (hdone session other h)

theorem update_ends (name : String) (span : Span) {data alter : Operand}
    (hdata : EndAlike SameLength (session.operandIn data) (other.operandIn alter)) :
    Ends false ((perform (.signature name (.update data span))).run session)
      ((perform (.signature name (.update alter span))).run other) := by
  refine inSlot_both h.signatures name (.of_error h) fun opened => ?_
  refine operand_both hdata (.of_error h) fun data alter hlength => ?_
  have hupdate := opened.signature.update_matching_of_secret hlength opened.engine span
  have hdone := bind_alike (attempt_alike opened.engine hupdate) fun _ => pure_alike Answer.done
  exact .of_alike (hdone session other h)

theorem updateAll_ends (name : String) {data alter : Operand}
    (hdata : EndAlike SameLength (session.operandIn data) (other.operandIn alter)) :
    Ends false ((perform (.signature name (.updateAll data))).run session)
      ((perform (.signature name (.updateAll alter))).run other) := by
  refine inSlot_both h.signatures name (.of_error h) fun opened => ?_
  refine operand_both hdata (.of_error h) fun data alter hlength => ?_
  have hupdate := opened.signature.updateAll_matching_of_secret hlength opened.engine
  have hdone := bind_alike (attempt_alike opened.engine hupdate) fun _ => pure_alike Answer.done
  exact .of_alike (hdone session other h)

/-- Whatever was generated, the halves of a pair go into the same slots under the same handles. -/
theorem putPair_ends (engine slot : String) (algorithm : Software.KeyAlgorithm)
    {generate alter : Action (Except Software.GenerationFault (Halves KeyMaterial))}
    {result same : Except StepError (Except Software.GenerationFault (Halves KeyMaterial))}
    (hgenerate : generate.run session = (result, session)) (halter : alter.run other = (same, other))
    (hgenerated : EndAlike (EndAlike Whatever) result same) :
    Ends false ((putPair engine slot algorithm generate).run session)
      ((putPair engine slot algorithm alter).run other) := by
  rw [putPair, putPair, run_bind, run_bind, softwareEngine_run, softwareEngine_run]
  obtain ⟨e, hfound, hsame⟩ | ⟨id, owner, twin, hfound, hsame, howner⟩ := h.softwareIn_cases engine
  · rw [hfound, hsame]
    exact .of_error h _
  · rw [hfound, hsame]
    simp only
    rw [run_bind, run_bind, hgenerate, halter]
    cases hgenerated with
    | error e => exact .of_error h _
    | ok related =>
        cases related with
        | error fault => exact .of_error h _
        | @ok pair twinPair =>
            -- both halves are put into their slots, by the handles that the pair got
            let put (keys : Halves SoftwareKey) : Action Answer := do
              putKey (slot ++ ".private") (.software keys.privateKey)
              putKey (slot ++ ".public") (.software keys.publicKey)
              return .keyPair
                { privateKey := keys.privateKey.handle, publicKey := keys.publicKey.handle }
            have hput (keys : Halves SoftwareKey) : Alike (put keys) (put keys) :=
              bind_alike (lift_alike (putKey_matching _ _)) fun _ =>
                bind_alike (lift_alike (putKey_matching _ _)) fun _ => pure_alike _
            obtain ⟨hkeys, hworld⟩ := h.world.addPair id howner algorithm pair twinPair
            show Ends false
              ((put (session.world.addPair id owner algorithm pair).1).run
                { session with world := (session.world.addPair id owner algorithm pair).2 })
              ((put (other.world.addPair id twin algorithm twinPair).1).run
                { other with world := (other.world.addPair id twin algorithm twinPair).2 })
            rw [hkeys]
            exact .of_alike (hput _ _ _ (h.withWorld hworld))

theorem generateEc_ends (engine slot : String) {entropy alter : Operand}
    (hgenerated : EndAlike (EndAlike Whatever)
      ((session.operandIn entropy).map KeyMaterial.generateEc)
      ((other.operandIn alter).map KeyMaterial.generateEc)) :
    Ends false ((perform (.generateEc engine slot entropy)).run session)
      ((perform (.generateEc engine slot alter)).run other) :=
  putPair_ends h engine slot .ec (generation_run _ _) (generation_run _ _) hgenerated

theorem generateRsa_ends (engine slot : String) (bits : UInt64) {p q r s : Nat}
    (hgenerated : EndAlike Whatever (KeyMaterial.generateRsa bits p q)
      (KeyMaterial.generateRsa bits r s)) :
    Ends false ((perform (.generateRsa engine slot bits p q)).run session)
      ((perform (.generateRsa engine slot bits r s)).run other) :=
  putPair_ends h engine slot .rsa rfl rfl (.ok hgenerated)

end Bytes

/-! ### Steps that sign or verify -/

theorem attempt_parallel (id : EngineId) {operation : Attempt World α} {twin : Attempt World β}
    (h : Parallel Run.Resembles operation.outcome twin.outcome) :
    Parallel Resembles (attempt id operation).run (attempt id twin).run := by
  intro session other hsessions
  rw [attempt_run, attempt_run]
  exact workWithin_parallel id h session other hsessions

/-- To save a signature changes nothing else. -/
theorem save_state (name : Option String) (signature : Bytes) (session : Session) :
    ∃ saved, (save name signature session).2 = { session with saved } := by
  cases name with
  | none => exact ⟨session.saved, rfl⟩
  | some name => exact ⟨session.saved.insert name signature, rfl⟩

theorem save_after (x : Action Bytes) (name : Option String) (session : Session) :
    ∃ saved, ((do
        let bytes ← x
        save name bytes
        return .bytes bytes : Action Answer).run session).2 = { (x.run session).2 with saved } := by
  rw [run_bind]
  cases x.run session with
  | mk result next =>
      cases result with
      | error e => exact ⟨next.saved, rfl⟩
      | ok bytes => exact save_state name bytes next

section Judging

variable (h : session.Resembles other)
include h

theorem sign_ends (name : String) (save : Option String) :
    Ends true ((perform (.signature name (.sign save))).run session)
      ((perform (.signature name (.sign save))).run other) := by
  refine inSlot_both h.signatures name (.of_error h) fun opened => ?_
  have hsign := attempt_parallel opened.engine
    (Signature.sign_parallel opened.engine opened.signature) session other h
  obtain ⟨saved, hsession⟩ := save_after
    (attempt opened.engine (opened.signature.sign (World.boundary opened.engine))) save session
  obtain ⟨others, hother⟩ := save_after
    (attempt opened.engine (opened.signature.sign (World.boundary opened.engine))) save other
  refine .of_judges ?_
  show Resembles _ _
  rw [hsession, hother]
  exact { hsign with }

theorem verify_ends (name : String) {candidate alter : Operand}
    (hpresented : EndAlike Whatever (session.operandIn candidate) (other.operandIn alter)) :
    Ends true ((perform (.signature name (.verify candidate))).run session)
      ((perform (.signature name (.verify alter))).run other) := by
  refine inSlot_both h.signatures name (.of_error h) fun opened => ?_
  refine operand_both hpresented (.of_error h) fun candidate alter _ => ?_
  refine .of_judges ?_
  show Resembles _ _
  rw [run_bind_pure, run_bind_pure]
  exact attempt_parallel opened.engine
    (Signature.verify_parallel opened.engine opened.signature candidate alter) session other h

theorem signs_ends (name : String) (callers : Nat) :
    Ends true ((perform (.signature name (.signs callers))).run session)
      ((perform (.signature name (.signs callers))).run other) := by
  refine inSlot_both h.signatures name (.of_error h) fun opened => ?_
  refine .of_judges ?_
  show Resembles _ _
  rw [run_bind_pure, run_bind_pure]
  exact workWithin_parallel opened.engine
    (Signature.signs_parallel opened.engine opened.signature callers) session other h

end Judging

/-! ### Direct calls -/

/-- Calls that vary log the same and leave engines alike. -/
theorem ask_parallel (id : EngineId) {call alter : NativeCall} (h : CallVaries call alter) :
    Parallel Run.Resembles ((World.boundary id).ask call) ((World.boundary id).ask alter) := by
  intro run other hruns
  cases h with
  | same =>
      cases hjudges : call.judges with
      | false => exact ((World.boundary_agrees id).ask hjudges run other hruns).2
      | true =>
          cases call with
          | sign context digest key plainRsa =>
              exact World.asked_resembles hruns
                (hruns.state.respond_sign id context digest key plainRsa)
          | verify context digest key candidate =>
              exact World.asked_resembles hruns
                (hruns.state.respond_verify id context digest key candidate candidate)
          | _ => cases hjudges
  | message context digest length =>
      exact (World.ask_update_matching id context digest _ _ run other hruns).2
  | candidate context digest key candidate alter =>
      exact World.asked_resembles hruns
        (hruns.state.respond_verify id context digest key candidate alter)

theorem save_matching (name : Option String) (signature : Bytes) :
    Matching Resembles (save name signature) (save name signature) := by
  cases name with
  | none => exact .pure ()
  | some name => exact fun _ _ h => ⟨rfl, { h with }⟩

/-- What is made of the reply to a direct call. -/
def answered (call : NativeCall) (name : Option String) : Except String call.Reply → Action Answer
  | .error message => refuse (.failed (.panic message))
  | .ok reply =>
    match Answer.ofReply call reply with
    | .error e => refuse (.native e)
    | .ok answer => do
      if let .bytes signature := answer then
        save name signature
      return answer

theorem callNative_eq (id : EngineId) (call : NativeCall) (name : Option String) :
    callNative id call name = within id ((World.boundary id).ask call) >>= answered call name := by
  rfl

theorem answered_alike (call : NativeCall) (name : Option String)
    (reply : Except String call.Reply) :
    Alike (answered call name reply) (answered call name reply) := by
  cases reply with
  | error message => exact refuse_alike _
  | ok reply =>
      rw [answered]
      cases Answer.ofReply call reply with
      | error e => exact refuse_alike _
      | ok answer =>
          cases answer with
          | bytes signature =>
              exact bind_alike (lift_alike (save_matching name signature)) fun _ => pure_alike _
          | _ => exact pure_alike _

theorem answered_after (call : NativeCall) (name : Option String)
    (reply : Except String call.Reply) (session : Session) :
    ∃ saved, ((answered call name reply).run session).2 = { session with saved } := by
  cases reply with
  | error message => exact ⟨session.saved, rfl⟩
  | ok reply =>
      rw [answered]
      cases Answer.ofReply call reply with
      | error e => exact ⟨session.saved, rfl⟩
      | ok answer =>
          cases answer with
          | bytes signature => exact save_state name signature session
          | _ => exact ⟨session.saved, rfl⟩

/-- What is made of the reply to an update does not depend on the message. -/
theorem answered_update (context : ContextHandle) (digest : DigestHandle) (data alter : Bytes)
    (name : Option String) (reply : Except String (Except NativeError Unit)) :
    answered (.digestUpdate context digest data) name reply =
      answered (.digestUpdate context digest alter) name reply := by
  cases reply <;> rfl

/-- What a direct call gives, unless it signs or verifies, does not tell secrets. -/
theorem callNative_alike (id : EngineId) {call alter : NativeCall} (h : CallVaries call alter)
    (hjudges : call.judges = false) (name : Option String) :
    Alike (callNative id call name) (callNative id alter name) := by
  rw [callNative_eq, callNative_eq]
  cases h with
  | same =>
      exact bind_alike (within_alike id ((World.boundary_agrees id).ask hjudges))
        (answered_alike call name)
  | @message context digest data alter length =>
      refine bind_alike (within_alike id (World.ask_update_matching id context digest data alter))
        fun reply => ?_
      rw [answered_update context digest data alter]
      exact answered_alike (.digestUpdate context digest alter) name reply
  | candidate => cases hjudges

theorem callNative_parallel (id : EngineId) {call alter : NativeCall} (h : CallVaries call alter)
    (name : Option String) :
    Parallel Resembles (callNative id call name).run (callNative id alter name).run := by
  intro session other hsessions
  have hasked := workWithin_parallel id (ask_parallel id h) session other hsessions
  rw [callNative_eq, callNative_eq, run_bind, run_bind, within_run, within_run]
  obtain ⟨saved, hsession⟩ := answered_after call name
    (workWithin id ((World.boundary id).ask call) session).1
    (workWithin id ((World.boundary id).ask call) session).2
  obtain ⟨others, hother⟩ := answered_after alter name
    (workWithin id ((World.boundary id).ask alter) other).1
    (workWithin id ((World.boundary id).ask alter) other).2
  simp only
  rw [hsession, hother]
  exact { hasked with }

section Native

variable (h : session.Resembles other)
include h

theorem native_ends (engine : String) (save : Option String) {call alter : NativeCall}
    (hcalled : CallVaries call alter) :
    Ends call.judges ((perform (.native engine call none save)).run session)
      ((perform (.native engine alter none save)).run other) := by
  refine inSlot_both h.engines engine (.of_error h) fun id => ⟨fun hjudges => ?_, ?_⟩
  · exact (callNative_alike id hcalled hjudges save session other h).1
  · exact callNative_parallel id hcalled save session other h

theorem nativeWith_ends (engine : String) (call : NativeCall) (save : Option String)
    {data alter : Operand}
    (hcalled : EndAlike (fun data alter => CallVaries (withData data call) (withData alter call))
      (session.operandIn data) (other.operandIn alter)) :
    Ends call.judges ((perform (.native engine call (some data) save)).run session)
      ((perform (.native engine call (some alter) save)).run other) := by
  refine inSlot_both h.engines engine (.of_error h) fun id => ?_
  refine operand_both hcalled (.of_error h) fun data alter hvaries => ⟨fun hjudges => ?_, ?_⟩
  · have hsame : (withData data call).judges = false := by
      rw [← hjudges]
      cases call <;> rfl
    exact (callNative_alike id hvaries hsame save session other h).1
  · exact callNative_parallel id hvaries save session other h

end Native

/-! ### Runs -/

/-- Steps that vary end alike, unless they sign or verify, and leave sessions that resemble each
other. -/
theorem step_ends {step twin : Step} (h : session.Resembles other)
    (hvaries : Varies session other step twin) :
    Ends step.judges (session.step step) (other.step twin) := by
  have hcleared : { session with calls := #[], events := #[] }.Resembles
      { other with calls := #[], events := #[] } := { h with events := rfl }
  cases hvaries with
  | same plain =>
      cases hjudges : step.judges with
      | false => exact .of_alike (perform_alike plain hjudges _ _ hcleared)
      | true =>
          cases step with
          | signature name step =>
              cases step with
              | sign save => exact sign_ends hcleared name save
              | signs callers => exact signs_ends hcleared name callers
              | verify => cases plain
              | _ => cases hjudges
          | native => cases plain
          | _ => cases hjudges
  | generateEc engine slot generated => exact generateEc_ends hcleared engine slot generated
  | generateRsa engine slot bits generated =>
      exact generateRsa_ends hcleared engine slot bits generated
  | digest name fed => exact digestUpdate_ends hcleared name fed
  | update name span fed => exact update_ends hcleared name span fed
  | updateAll name fed => exact updateAll_ends hcleared name fed
  | verify name presented => exact verify_ends hcleared name presented
  | native engine save called => exact native_ends hcleared engine save called
  | nativeWith engine call save called => exact nativeWith_ends hcleared engine call save called

/-- Steps that vary sign or verify both, or neither of them does. -/
theorem Varies.judges_eq {step twin : Step} (h : Varies session other step twin) :
    step.judges = twin.judges := by
  cases h with
  | native engine save called => cases called <;> rfl
  | _ => rfl

theorem trace_cons (session : Session) (step : Step) (rest : List Step) :
    session.trace (step :: rest) =
      (if step.judges then none else some (session.step step).1, (session.step step).2.shown) ::
        (session.step step).2.trace rest := rfl

/-- Runs that vary show the same behind each step, and leave sessions that resemble each other. -/
theorem Varying.trace_eq {steps twins : List Step} (hvarying : Varying session other steps twins)
    (h : session.Resembles other) :
    session.trace steps = other.trace twins ∧
      (session.after steps).Resembles (other.after twins) := by
  induction hvarying with
  | done => exact ⟨rfl, h⟩
  | @step session other step twin rest others first behind ih =>
      obtain ⟨hanswer, hnext⟩ := step_ends h first
      obtain ⟨htrace, hlast⟩ := ih hnext
      refine ⟨?_, hlast⟩
      rw [trace_cons, trace_cons, hnext.shown, htrace, ← first.judges_eq]
      cases hjudges : step.judges with
      | true => rfl
      | false => rw [hanswer hjudges]

theorem dropAll_matching (kind : SlotKind) (names : List String) :
    Matching Resembles (dropAll kind names) (dropAll kind names) := by
  induction names with
  | nil => exact .pure ()
  | cons name rest ih =>
      have hcons : dropAll kind (name :: rest) =
          ((dropSlot name kind).run >>= fun _ => pure ()) >>= fun _ => dropAll kind rest := rfl
      rw [hcons]
      exact .bind (.bind_pure (dropSlot_alike name kind)) fun _ => ih

theorem Resembles.finish (h : session.Resembles other) : session.finish.Resembles other.finish := by
  have hcleared : { session with calls := #[], events := #[] }.Resembles
      { other with calls := #[], events := #[] } := { h with events := rfl }
  let work (session : Session) : Work Unit := do
    dropAll .signature (slotNames session.signatures)
    dropAll .digest (slotNames session.digests)
    dropAll .context (slotNames session.contexts)
    dropAll .key (slotNames session.keys)
  have hsame : work session = work other := by
    simp only [work, h.signatures, h.digests, h.contexts, h.keys]
  have hwork : Matching Resembles (work other) (work other) :=
    .bind (dropAll_matching _ _) fun _ => .bind (dropAll_matching _ _) fun _ =>
      .bind (dropAll_matching _ _) fun _ => dropAll_matching _ _
  show Resembles (work session _).2 (work other _).2
  rw [hsame]
  exact (hwork _ _ hcleared).2

/-- Two runs that differ in generated key material, in the bytes of messages of the same lengths and
in the signatures that are presented show the same: the same events, texts, handles and counts behind
every step, and the same answers but where they sign or verify. -/
theorem secrets_not_shown {steps twins : List Step} (h : Varying {} {} steps twins) :
    ({} : Session).trace steps = ({} : Session).trace twins ∧
      (({} : Session).after steps).finish.shown = (({} : Session).after twins).finish.shown := by
  obtain ⟨htrace, hlast⟩ := h.trace_eq (.refl {})
  exact ⟨htrace, hlast.finish.shown⟩

/-- Keys of both kinds are generated, a message is signed with one of them, and then a candidate is
verified. -/
def secretSteps (entropy : Bytes) (p q : Nat) (message : Bytes) (candidate : Operand) : List Step :=
  [.newEngine "engine" none,
    .createContext "context" "engine" false (.document (.object [])),
    .generateRsa "engine" "rsa" 1057 p q,
    .generateEc "engine" "ec" (.given entropy),
    .newSignature "signature" "context" "SHA-256",
    .signature "signature" (.start "rsa.private" false),
    .signature "signature" (.updateAll (.given message)),
    .signature "signature" (.sign (some "made")),
    .signature "signature" (.updateAll (.given message)),
    .signature "signature" (.verify candidate)]

def firstSecrets : List Step :=
  secretSteps (List.replicate 32 1) Software.prime536 Software.prime521 [1, 2, 3] (.saved "made")

def otherSecrets : List Step :=
  secretSteps (List.replicate 32 2) (231 * 2 ^ 528 + 1) (149 * 2 ^ 513 + 1) [4, 5, 6] (.given [])

theorem secrets_not_shown_signatures :
    Varying {} {} firstSecrets otherSecrets ∧
      (({} : Session).after firstSecrets).saved.find? "made" ≠
        (({} : Session).after otherSecrets).saved.find? "made" ∧
      ({} : Session).trace firstSecrets = ({} : Session).trace otherSecrets ∧
      (({} : Session).after firstSecrets).finish.shown =
        (({} : Session).after otherSecrets).finish.shown := by
  have hvarying : Varying {} {} firstSecrets otherSecrets := by
    refine .step (.same rfl) <| .step (.same rfl) <| .step (.generateRsa "engine" "rsa" 1057 ?_) <|
      .step (.generateEc "engine" "ec" (.ok ?_)) <| .step (.same rfl) <| .step (.same rfl) <|
      .step (.updateAll "signature" (.ok rfl)) <| .step (.same rfl) <|
      .step (.updateAll "signature" (.ok rfl)) <| .step (.verify "signature" ?_) <| .done _ _
    · exact .of_isOk (by decide +kernel) (by decide +kernel)
    · exact .of_isOk (by decide +kernel) (by decide +kernel)
    · exact .of_isOk (by decide +kernel) rfl
  have hsigned : (({} : Session).after firstSecrets).saved.find? "made" ≠
      (({} : Session).after otherSecrets).saved.find? "made" := by
    decide +kernel
  exact ⟨hvarying, hsigned, secrets_not_shown hvarying⟩

end SigningEngine.Session
