import SigningEngine.Proofs.Holdings.Run
import SigningEngine.World

/-!
# The handles that cross the boundary

A digest is only owned once its handle has been found valid, and whatever an owner does names the
handle that the engine gave for it. A key may show another handle at each reading. To sign or to
verify is to read the bound key once, and only a valid handle goes on to the engine.

The main statement is `handles_checked`. Its half about digests is an invariant of what is held, told
by the transitions before; its half about keys is a property of each transition alone.
-/

namespace SigningEngine

namespace Signature

variable {σ κ : Type} (boundary : Boundary σ κ) (signature : Signature κ)

/-- The call that an operation makes to sign or to verify with a key, if it is of this kind. -/
def judgment (handle : KeyHandle) : Operation κ → Option NativeCall
  | .sign => some (signature.signCall handle)
  | .verify candidate => some (signature.verifyCall candidate handle)
  | _ => none

theorem key?_of_judgment {operation : Operation κ} {handle : KeyHandle} {call : NativeCall}
    (h : signature.judgment handle operation = some call) : call.key? = some handle := by
  cases operation with
  | start key plainRsa => cases h
  | update buffer span => cases h
  | sign =>
      cases h
      rfl
  | verify candidate =>
      cases h
      rfl

/-- Whether an operation is a judgment does not depend on the key. -/
theorem exists_judgment {operation : Operation κ}
    (h : ∃ handle, (signature.judgment handle operation).isSome) (handle : KeyHandle) :
    ∃ call, signature.judgment handle operation = some call := by
  obtain ⟨other, hother⟩ := h
  cases operation with
  | start key plainRsa => cases hother
  | update buffer span => cases hother
  | sign => exact ⟨_, rfl⟩
  | verify candidate => exact ⟨_, rfl⟩

theorem isStart_of_judgment {operation : Operation κ} {handle : KeyHandle} {call : NativeCall}
    (h : signature.judgment handle operation = some call) : operation.isStart = false := by
  cases operation with
  | start key plainRsa => cases h
  | update buffer span => rfl
  | sign => rfl
  | verify candidate => rfl

theorem reading_of_reaches {state : σ} (h : signature.reaches boundary state = true) :
    ∃ key, signature.reading boundary state =
        [.read key (signature.shownHandle boundary state)] ∧
      (signature.shownHandle boundary state).isValid = true := by
  rw [reaches] at h
  rw [reading, shownHandle]
  cases hkey : signature.key with
  | none =>
      rw [hkey] at h
      cases h
  | some key =>
      rw [hkey] at h
      exact ⟨key, rfl, (Bool.and_eq_true_iff.mp h).2⟩

/-- What a judgment that reaches the engine has cross: the reading, its call, and the reset. -/
theorem turn_of_reaches {operation : Operation κ} {call : NativeCall} {state : σ}
    (hcall : signature.judgment (signature.shownHandle boundary state) operation = some call)
    (h : signature.reaches boundary state = true) :
    ∃ reply reset, (signature.turn boundary.observed operation (state, [])).2.2.2 =
      signature.reading boundary state ++
        [.asked call reply, .asked signature.resetCall reset] := by
  cases operation with
  | start key plainRsa => cases hcall
  | update buffer span => cases hcall
  | sign =>
      cases hcall
      rw [turn_sign]
      simp only [reaches_observed, h, if_true, checkedState_observed, Boundary.behind_observed,
        shownHandle_observed, List.nil_append, List.append_assoc]
      exact ⟨_, _, rfl⟩
  | verify candidate =>
      cases hcall
      rw [turn_verify]
      simp only [reaches_observed, h, if_true, checkedState_observed, Boundary.behind_observed,
        shownHandle_observed, List.nil_append, List.append_assoc]
      exact ⟨_, _, rfl⟩

/-- A judgment that does not reach the engine is the reading at most, and changes nothing. -/
theorem turn_of_not_reaches {operation : Operation κ} {call : NativeCall} {state : σ}
    (hcall : signature.judgment (signature.shownHandle boundary state) operation = some call)
    (h : signature.reaches boundary state = false) :
    signature.turn boundary.observed operation (state, []) =
      ({ operation, outcome := .error (.error signature.refusal), calls := [] }, signature,
        signature.checkedState boundary state, signature.reading boundary state) := by
  cases operation with
  | start key plainRsa => cases hcall
  | update buffer span => cases hcall
  | sign =>
      rw [turn_sign]
      simp only [reaches_observed, h, checkedState_observed]
      rfl
  | verify candidate =>
      rw [turn_verify]
      simp only [reaches_observed, h, checkedState_observed]
      rfl

/-- An operation that is no judgment has no key handle cross the boundary towards the engine. -/
theorem key?_of_no_judgment {operation : Operation κ} {handle : KeyHandle}
    (h : signature.judgment handle operation = none) (state : σ) :
    ∀ call ∈ Crossing.calls (signature.turn boundary.observed operation (state, [])).2.2.2,
      call.key? = none := by
  cases operation with
  | start key plainRsa =>
      rw [Owner.turn_start_calls]
      simp [resetCall, NativeCall.key?]
  | update buffer span =>
      rw [turn_update]
      split
      · simp [NativeCall.key?]
      · simp
  | sign => cases h
  | verify candidate => cases h

/-- Only a judgment that reaches the engine carries the handle of a key. This is the handle that the
one reading of the bound key showed, and it is valid. -/
theorem turn_of_key {operation : Operation κ} {state : σ} {call : NativeCall} {handle : KeyHandle}
    (hcall : call ∈ Crossing.calls (signature.turn boundary.observed operation (state, [])).2.2.2)
    (hkey : call.key? = some handle) :
    handle.isValid = true ∧
      ∃ key reply reset, (signature.turn boundary.observed operation (state, [])).2.2.2 =
        [.read key handle, .asked call reply, .asked signature.resetCall reset] := by
  cases hjudgment : signature.judgment (signature.shownHandle boundary state) operation with
  | none =>
      rw [key?_of_no_judgment boundary signature hjudgment state call hcall] at hkey
      cases hkey
  | some judged =>
      cases hreaches : signature.reaches boundary state with
      | false =>
          rw [turn_of_not_reaches boundary signature hjudgment hreaches, calls_reading] at hcall
          cases hcall
      | true =>
          obtain ⟨reply, reset, hcrossings⟩ := turn_of_reaches boundary signature hjudgment hreaches
          obtain ⟨key, hreading, hvalid⟩ := reading_of_reaches boundary signature hreaches
          rw [hcrossings, hreading] at hcall ⊢
          have hcall : call = judged ∨ call = signature.resetCall := by simpa using hcall
          rcases hcall with rfl | rfl
          · rw [key?_of_judgment signature hjudgment, Option.some.injEq] at hkey
            subst hkey
            exact ⟨hvalid, key, reply, reset, rfl⟩
          · cases hkey

/-- A judgment of a signature whose digest is valid is told by the one reading of the bound key. -/
theorem reaches_of_valid (hdigest : signature.digest.handle.isValid = true) {key : κ}
    (hkey : signature.key = some key) (state : σ) :
    signature.reaches boundary state = (boundary.keyHandle key state).1.isValid := by
  rw [reaches, hkey]
  simp [hdigest]

end Signature

/-- The handle of a key only goes to the engine behind the one reading that showed it. -/
theorem Owner.used_key {σ κ : Type} (boundary : Boundary σ κ) (owner : Owner κ) (use : Owner.Use κ)
    (state : σ) {call : NativeCall} {handle : KeyHandle} :
    let ran := owner.used boundary.observed use { state := (state, []) }
    call ∈ Crossing.calls ran.2.state.2 → call.key? = some handle →
      handle.isValid = true ∧ ∃ key reply reset last,
        ran.2.state.2 = [.read key handle, .asked call reply, .asked reset last] := by
  intro ran hcall hkey
  cases owner with
  | ofDigest digest =>
      cases use with
      | feed data =>
          rw [used_feed_calls, List.mem_singleton] at hcall
          rw [hcall] at hkey
          cases hkey
      | reset =>
          rw [used_reset_calls, List.mem_singleton] at hcall
          rw [hcall] at hkey
          cases hkey
      | operate operation => cases hcall
  | ofSignature signature =>
      cases use with
      | feed data => cases hcall
      | reset => cases hcall
      | operate operation =>
          obtain ⟨hvalid, key, reply, last, hcrossings⟩ :=
            Signature.turn_of_key boundary signature hcall hkey
          exact ⟨hvalid, key, reply, _, last, hcrossings⟩

namespace Holdings

variable {σ κ : Type}

namespace Transition

/-- The engine gave a digest in a transition, for the owner at a place. -/
def Gave (transition : Transition σ κ) (place : ℕ) (digest : Digest) : Prop :=
  transition.place? = some place ∧
    transition.crossings = [.asked (.digestCreate digest.context digest.algorithm)
      (.ok (.ok digest.handle))]

/-- What a judgment of a signature comes to, by what the one reading of the bound key shows. The
half of the check that is about the digest decides nothing. -/
structure Judges (transition : Transition σ κ) (boundary : Boundary σ κ) (signature : Signature κ)
    (operation : Signature.Operation κ) : Prop where
  unbound : signature.key = none →
    transition.outcome = .error (.error Signature.notInitialized) ∧ transition.crossings = [] ∧
      transition.next = transition.state
  refused : ∀ key, signature.key = some key →
    (boundary.keyHandle key transition.state).1.isValid = false →
      transition.outcome = .error (.error Signature.badHandle) ∧
        transition.crossings = [.read key (boundary.keyHandle key transition.state).1] ∧
        transition.next = (boundary.keyHandle key transition.state).2
  asked : ∀ key, signature.key = some key →
    (boundary.keyHandle key transition.state).1.isValid = true →
      ∃ call reply reset,
        signature.judgment (boundary.keyHandle key transition.state).1 operation = some call ∧
          transition.crossings = [.read key (boundary.keyHandle key transition.state).1,
            .asked call reply, .asked signature.resetCall reset]
  kept : transition.after = transition.before

end Transition

/-- Only handles that were checked cross the boundary towards the engine. -/
structure ChecksHandles (boundary : Boundary σ κ) (transitions : List (Transition σ κ)) : Prop where
  /-- A call names a digest that was given before for the same owner, under a valid handle, and it
  names the context in which it was given. -/
  digests : ∀ before transition rest, transitions = before ++ transition :: rest →
    ∀ call ∈ transition.calls, ∀ handle, call.digest? = some handle →
      ∃ place digest, transition.place? = some place ∧ digest.handle = handle ∧
        handle.isValid = true ∧ call.context? = some digest.context ∧
        ∃ created ∈ before, created.Gave place digest
  /-- A call names the valid handle that the one reading of a key in the same transition showed. -/
  keys : ∀ transition ∈ transitions, ∀ call ∈ transition.calls, ∀ handle,
    call.key? = some handle → handle.isValid = true ∧
      ∃ key reply reset last, transition.crossings =
        [.read key handle, .asked call reply, .asked reset last] 
  owned : ∀ transition ∈ transitions, ∀ place held, transition.before.owner? place = some held →
    held.owner.owned.handle.isValid = true
  judged : ∀ transition ∈ transitions, ∀ place context signature operation,
    transition.step = .act (.use place (.operate operation)) →
      (∃ handle, (signature.judgment handle operation).isSome) →
      transition.before.owner? place = some { context, owner := .ofSignature signature } →
        transition.Judges boundary signature operation

/-- Each owner has a valid digest that the engine gave for it. -/
def Issued (earlier : List (Transition σ κ)) (holdings : Holdings κ) : Prop :=
  ∀ place held, holdings.owner? place = some held → held.owner.owned.handle.isValid = true ∧
    ∃ created ∈ earlier, created.Gave place held.owner.owned

namespace Issued

variable {earlier : List (Transition σ κ)} {holdings : Holdings κ}

theorem more (h : Issued earlier holdings) (transition : Transition σ κ) :
    Issued (earlier ++ [transition]) holdings := by
  intro place held hheld
  obtain ⟨hvalid, created, hcreated, hgave⟩ := h place held hheld
  exact ⟨hvalid, created, List.mem_append_left _ hcreated, hgave⟩

theorem of_eq {after : Holdings κ} (h : Issued earlier holdings)
    (howners : after.owners = holdings.owners) : Issued earlier after := by
  intro place held hheld
  rw [owner?, howners] at hheld
  exact h place held hheld

/-- What is put at the place of an owner is an owner of the same digest. -/
theorem put (h : Issued earlier holdings) {place : ℕ} {found : Held κ} {held? : Option (Held κ)}
    (hfound : holdings.owner? place = some found)
    (howned : ∀ held ∈ held?, held.owner.owned = found.owner.owned) :
    Issued earlier (holdings.put place held?) := by
  intro other held hheld
  by_cases hsame : other = place
  · subst hsame
    rw [owner?_put_self _ hfound] at hheld
    rw [howned held hheld]
    exact h other found hfound
  · rw [owner?_put_of_ne _ hsame] at hheld
    exact h other held hheld

/-- An owner at a new place has a digest that was given just now. -/
theorem withOwner (h : Issued earlier holdings) {held? : Option (Held κ)}
    {transition : Transition σ κ}
    (hgave : ∀ held ∈ held?, held.owner.owned.handle.isValid = true ∧
      transition.Gave holdings.owners.length held.owner.owned) :
    Issued (earlier ++ [transition]) (holdings.withOwner held?) := by
  intro place held hheld
  by_cases hnew : place = holdings.owners.length
  · subst hnew
    rw [owner?_withOwner_length] at hheld
    obtain ⟨hvalid, hgave⟩ := hgave held hheld
    exact ⟨hvalid, transition, by simp, hgave⟩
  · rw [owner?_withOwner_of_ne _ hnew] at hheld
    exact h.more transition place held hheld

theorem along {transition : Transition σ κ} (can : transition.Can)
    (h : Issued earlier transition.before) :
    (∀ call ∈ transition.calls, ∀ handle, call.digest? = some handle →
      ∃ place digest, transition.place? = some place ∧ digest.handle = handle ∧
        handle.isValid = true ∧ call.context? = some digest.context ∧
        ∃ created ∈ earlier, created.Gave place digest) ∧
      Issued (earlier ++ [transition]) transition.after := by
  have hkept := h.more transition
  cases can with
  | apart apart =>
      constructor
      · intro call hcall handle hhandle
        rw [(apart.aboutContext call hcall).digest?] at hhandle
        cases hhandle
      · exact hkept.of_eq apart.owners
  | refused step found crossings unusable outcome after =>
      constructor
      · rw [Transition.calls_of_asked crossings]
        simp [NativeCall.digest?]
      · exact after ▸ h.withOwner (by simp)
  | created step found crossings outcome valid made named after =>
      constructor
      · rw [Transition.calls_of_asked crossings]
        simp [NativeCall.digest?]
      · rw [after]
        apply h.withOwner
        rintro held ⟨⟩
        refine ⟨valid, by rw [Transition.place?, step], ?_⟩
        rw [crossings, made, named]
  | used step found calls owned after =>
      obtain ⟨hvalid, hcreated⟩ := h _ _ found
      constructor
      · intro call hcall handle hhandle
        rw [(calls call hcall).digest?, Option.some.injEq] at hhandle
        subst hhandle
        exact ⟨_, _, by rw [Transition.place?, step], rfl, hvalid, (calls call hcall).context?,
          hcreated⟩
      · rw [after]
        apply hkept.put found
        rintro held ⟨⟩
        exact owned
  | dropped step found crossings after =>
      obtain ⟨hvalid, hcreated⟩ := h _ _ found
      constructor
      · intro call hcall handle hhandle
        rw [Transition.calls_of_asked crossings, List.mem_singleton] at hcall
        subst hcall
        cases hhandle
        exact ⟨_, _, by rw [Transition.place?, step], rfl, hvalid, rfl, hcreated⟩
      · exact after ▸ hkept.put found (by simp)

end Issued

variable (boundary : Boundary σ κ) {holdings : Holdings κ}

theorem take_key (step : Step σ κ) (state : σ) :
    ∀ call ∈ (holdings.take boundary step state).calls, ∀ handle, call.key? = some handle →
      handle.isValid = true ∧ ∃ key reply reset last,
        (holdings.take boundary step state).crossings =
          [.read key handle, .asked call reply, .asked reset last] := by
  intro call hcall handle hkey
  have hcan : (holdings.take boundary step state).Can := take_can step
  cases hcan with
  | apart apart =>
      rw [(apart.aboutContext call hcall).key?] at hkey
      cases hkey
  | refused step found crossings unusable outcome after =>
      rw [Transition.calls_of_asked crossings, List.mem_singleton] at hcall
      rw [hcall] at hkey
      cases hkey
  | created step found crossings outcome valid made named after =>
      rw [Transition.calls_of_asked crossings, List.mem_singleton] at hcall
      rw [hcall] at hkey
      cases hkey
  | used hstep found calls owned after =>
      rw [take_step] at hstep
      rw [take_before] at found
      subst hstep
      rw [take_use boundary state found] at hcall ⊢
      exact Owner.used_key boundary _ _ state hcall hkey
  | dropped step found crossings after =>
      rw [Transition.calls_of_asked crossings, List.mem_singleton] at hcall
      rw [hcall] at hkey
      cases hkey

theorem take_operate {place context : ℕ} {signature : Signature κ}
    (hfound : holdings.owner? place = some { context, owner := .ofSignature signature })
    (operation : Signature.Operation κ) (state : σ) :
    let taken := holdings.take boundary (.act (.use place (.operate operation))) state
    let turned := signature.turn boundary.observed operation (state, [])
    taken.outcome = turned.1.outcome.map (fun _ => ()) ∧ taken.crossings = turned.2.2.2 ∧
      taken.after = holdings.put place (some { context, owner := .ofSignature turned.2.1 }) ∧
      taken.next = turned.2.2.1 := by
  rw [take_use boundary state hfound]
  exact ⟨rfl, rfl, rfl, rfl⟩

/-- A judgment of a signature whose digest is valid. -/
theorem take_judges {place context : ℕ} {signature : Signature κ} (state : σ)
    (hfound : holdings.owner? place = some { context, owner := .ofSignature signature })
    (hdigest : signature.digest.handle.isValid = true) {operation : Signature.Operation κ}
    (hjudgment : ∃ handle, (signature.judgment handle operation).isSome) :
    (holdings.take boundary (.act (.use place (.operate operation))) state).Judges boundary signature
      operation := by
  obtain ⟨call, hcall⟩ := signature.exists_judgment hjudgment (signature.shownHandle boundary state)
  obtain ⟨houtcome, hcrossings, hafter, hnext⟩ := take_operate boundary hfound operation state
  have hkept : (signature.turn boundary.observed operation (state, [])).2.1 = signature :=
    signature.turn_signature boundary.observed (signature.isStart_of_judgment hcall) _
  constructor
  · intro hkey
    have hreaches : signature.reaches boundary state = false := by
      rw [Signature.reaches, hkey]
    rw [signature.turn_of_not_reaches boundary hcall hreaches] at houtcome hcrossings hnext
    rw [houtcome, hcrossings, hnext, take_state]
    simp [Signature.refusal, Signature.isInitialized, Signature.reading, Signature.checkedState,
      Signature.checkedRun, hkey, Except.map]
  · intro key hkey hinvalid
    rw [take_state] at hinvalid ⊢
    have hreaches := signature.reaches_of_valid boundary hdigest hkey state
    rw [hinvalid] at hreaches
    rw [signature.turn_of_not_reaches boundary hcall hreaches] at houtcome hcrossings hnext
    rw [houtcome, hcrossings, hnext]
    simp [Signature.refusal, Signature.isInitialized, Signature.reading, Signature.checkedState,
      Signature.checkedRun, Signature.readRun, hkey, Except.map]
  · intro key hkey hvalid
    rw [take_state] at hvalid ⊢
    have hreaches := signature.reaches_of_valid boundary hdigest hkey state
    rw [hvalid] at hreaches
    obtain ⟨reply, reset, hturn⟩ := signature.turn_of_reaches boundary hcall hreaches
    have hshown : signature.shownHandle boundary state = (boundary.keyHandle key state).1 := by
      rw [Signature.shownHandle, hkey]
    rw [hshown] at hcall
    refine ⟨call, reply, reset, hcall, ?_⟩
    rw [hcrossings, hturn, Signature.reading, hkey]
    rfl
  · rw [hafter, hkept, put_self hfound, take_before]

/-- All along a run each owner has a valid digest that the engine gave for it before. -/
theorem run_issued {earlier : List (Transition σ κ)} (h : Issued earlier holdings)
    {steps : List (Step σ κ)} {state : σ} {before rest : List (Transition σ κ)}
    {transition : Transition σ κ}
    (hrun : holdings.run boundary steps state = before ++ transition :: rest) :
    transition.Can ∧ Issued (earlier ++ before) transition.before := by
  apply run_history boundary (A := fun _ => True)
    (P := fun earlier holdings _ => Issued earlier holdings)
    (Q := fun earlier transition => transition.Can ∧ Issued earlier transition.before)
    ?_ earlier (fun _ _ => trivial) h hrun
  intro earlier holdings step state _ hissued
  have hbefore : Issued earlier (holdings.take boundary step state).before := by
    rwa [take_before]
  exact ⟨⟨take_can step, hbefore⟩, (Issued.along (take_can step) hbefore).2⟩

/-- Whatever the engine answers and whatever the keys show, in every run of a process only handles
that were checked cross the boundary. -/
theorem handles_checked (steps : List (Step σ κ)) (state : σ) :
    ChecksHandles boundary (({} : Holdings κ).run boundary steps state) := by
  have hnone : Issued ([] : List (Transition σ κ)) {} := by
    intro place held hheld
    simp [owner?] at hheld
  constructor
  · intro before transition rest hrun
    obtain ⟨hcan, hissued⟩ := run_issued boundary hnone hrun
    exact (Issued.along hcan hissued).1
  · intro transition hmem
    obtain ⟨before, rest, hrun⟩ := List.append_of_mem hmem
    rw [(run_split boundary hrun).1]
    exact take_key boundary transition.step transition.state
  · intro transition hmem place held hfound
    obtain ⟨before, rest, hrun⟩ := List.append_of_mem hmem
    exact ((run_issued boundary hnone hrun).2 place held hfound).1
  · intro transition hmem place context signature operation hstep hjudgment hfound
    obtain ⟨before, rest, hrun⟩ := List.append_of_mem hmem
    obtain ⟨-, hissued⟩ := run_issued boundary hnone hrun
    obtain ⟨hvalid, -⟩ := hissued place _ hfound
    rw [(run_split boundary hrun).1, hstep]
    exact take_judges boundary transition.state hfound hvalid hjudgment

end Holdings

end SigningEngine
