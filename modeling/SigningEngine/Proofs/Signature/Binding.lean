import SigningEngine.Proofs.Signature.Notes

/-!
# What a signature is bound to

A start binds its key, or leaves the signature without one; nothing else changes what is bound.
After any run the last start alone therefore tells what is bound, whatever the engine answered and
whatever panicked on the way. References to keys are given back in the order in which they were
handed over, and only the bound one is still held.

The main statement is `lawful_turns`: it joins what a run leaves bound with what the next operation
makes of it.
-/

namespace SigningEngine

variable {σ κ α : Type} (boundary : Boundary σ κ)

/-- The reference to a key that a note says was given back. -/
def Note.returned : Note σ κ → Option κ
  | .asked .. => none
  | .gaveBack key => some key

namespace Signature

/-- The reference to a key that an operation is handed. -/
def Operation.offered : Operation κ → Option κ
  | start key _ => some key
  | _ => none

def Turn.succeeded (turn : Turn κ) : Bool := turn.outcome.isOk

/-- The key and the flag that a turn binds. -/
def Turn.binds (turn : Turn κ) : Option (κ × Bool) :=
  match turn.operation with
  | .start key plainRsa => if turn.succeeded then some (key, plainRsa) else none
  | _ => none

/-- The most recent start. -/
def lastStart (turns : List (Turn κ)) : Option (Turn κ) :=
  (turns.filter fun turn => turn.operation.isStart).getLast?

theorem lastStart_append (turns : List (Turn κ)) (turn : Turn κ) :
    lastStart (turns ++ [turn]) =
      if turn.operation.isStart then some turn else lastStart turns := by
  rw [lastStart, lastStart, List.filter_append]
  cases h : turn.operation.isStart with
  | true => simp [h]
  | false => simp [h]

/-- The key and the flag of a signature with a key. -/
def bound (signature : Signature κ) : Option (κ × Bool) :=
  signature.key.map fun key => (key, signature.plainRsa)

/-- The last start of a history tells what is bound. -/
structure BoundBy (history : List (Turn κ)) (signature : Signature κ) : Prop where
  bound : signature.bound = (lastStart history).bind Turn.binds
  plainRsa : signature.isInitialized = false → signature.plainRsa = false

/-- A start ends well just when the digest is reset and the key shows a handle. -/
theorem turn_start_cases (signature : Signature κ) (key : κ) (plainRsa : Bool) (state : σ) :
    let next := signature.turn boundary (.start key plainRsa) state
    let free := signature.unboundState boundary state
    let reset := boundary.behind signature.resetCall free
    ((boundary.replyTo signature.resetCall free = .ok (.ok ()) ∧
          (boundary.keyHandle key reset).1.isValid = true) ∧
        next.1 = ⟨.start key plainRsa, .ok (), [signature.resetCall]⟩ ∧
        next.2.1 = { signature with key := some key, plainRsa }) ∨
      (¬ (boundary.replyTo signature.resetCall free = .ok (.ok ()) ∧
          (boundary.keyHandle key reset).1.isValid = true) ∧
        (∃ failure, next.1 = ⟨.start key plainRsa, .error failure, [signature.resetCall]⟩) ∧
        next.2.1 = signature.unbound) := by
  simp only [turn_start]
  have houtcome : signature.resetOutcome boundary (signature.unboundState boundary state) =
    Failure.ofReply _ (boundary.replyTo signature.resetCall
      (signature.unboundState boundary state)) := rfl
  obtain ⟨reply, hreply⟩ : ∃ reply : Except String (Except NativeError Unit),
    boundary.replyTo signature.resetCall (signature.unboundState boundary state) = reply := ⟨_, rfl⟩
  rw [hreply] at houtcome ⊢
  rcases reply with message | e | done
  · rw [houtcome]
    exact .inr ⟨nofun, ⟨_, rfl⟩, rfl⟩
  · rw [houtcome]
    exact .inr ⟨nofun, ⟨_, rfl⟩, rfl⟩
  · rw [houtcome]
    simp only [Failure.ofReply]
    split
    next hvalid => exact .inl ⟨⟨rfl, hvalid⟩, rfl, rfl⟩
    next hinvalid => exact .inr ⟨fun h => hinvalid h.2, ⟨_, rfl⟩, rfl⟩

theorem boundBy_turn {history : List (Turn κ)} {signature : Signature κ}
    (h : BoundBy history signature) (operation : Operation κ) (state : σ) :
    BoundBy (history ++ [(signature.turn boundary operation state).1])
      (signature.turn boundary operation state).2.1 := by
  cases hstart : operation.isStart with
  | false =>
      have hlast : lastStart (history ++ [(signature.turn boundary operation state).1]) =
          lastStart history := by
        rw [lastStart_append, turn_operation, hstart, if_neg Bool.false_ne_true]
      rw [turn_signature boundary signature hstart]
      exact ⟨by rw [hlast, h.bound], h.plainRsa⟩
  | true =>
      cases operation with
      | start key plainRsa =>
          obtain ⟨-, hturn, hnext⟩ | ⟨-, ⟨failure, hturn⟩, hnext⟩ :=
            turn_start_cases boundary signature key plainRsa state
          · rw [hturn, hnext]
            exact ⟨by rw [lastStart_append]; rfl, fun hnone => by simp [isInitialized] at hnone⟩
          · rw [hturn, hnext]
            exact ⟨by rw [lastStart_append]; rfl, fun _ => rfl⟩
      | update buffer span => cases hstart
      | sign => cases hstart
      | verify candidate => cases hstart

theorem boundBy_turns (operations : List (Operation κ)) {history : List (Turn κ)}
    {signature : Signature κ} (h : BoundBy history signature) (state : σ) :
    BoundBy (history ++ (signature.turns boundary operations state).1)
      (signature.turns boundary operations state).2.1 := by
  induction operations generalizing history signature state with
  | nil => simpa using h
  | cons operation rest ih =>
      have hfirst := boundBy_turn boundary h operation state
      cases haborts : (signature.turn boundary operation state).1.aborts with
      | true =>
          rw [turns_cons_of_aborts boundary signature rest haborts]
          exact hfirst
      | false =>
          rw [turns_cons boundary signature rest haborts]
          simpa using ih hfirst (signature.turn boundary operation state).2.2

theorem boundBy_fresh (digest : Digest) : BoundBy [] ({ digest } : Signature κ) :=
  ⟨rfl, fun _ => rfl⟩

theorem BoundBy.isInitialized_eq {history : List (Turn κ)} {signature : Signature κ}
    (h : BoundBy history signature) :
    signature.isInitialized = (lastStart history).any Turn.succeeded := by
  have hsome : signature.isInitialized = ((lastStart history).bind Turn.binds).isSome := by
    rw [← h.bound, Signature.bound, isInitialized, Option.isSome_map]
  rw [hsome]
  cases hlast : lastStart history with
  | none => rfl
  | some turn =>
      have hstart : turn.operation.isStart = true :=
        (List.mem_filter.mp (List.mem_of_getLast? hlast)).2
      obtain ⟨operation, outcome, calls⟩ := turn
      cases operation with
      | start key plainRsa => cases outcome <;> rfl
      | update buffer span => cases hstart
      | sign => cases hstart
      | verify candidate => cases hstart

/-! ### References to keys -/

/-- The references to keys that were given back, in order. -/
def givenBack (notes : List (Note σ κ)) : List κ := notes.filterMap Note.returned

@[simp] theorem givenBack_append (notes more : List (Note σ κ)) :
    givenBack (notes ++ more) = givenBack notes ++ givenBack more :=
  List.filterMap_append

@[simp] theorem givenBack_asked (state : σ) (call : NativeCall)
    (reply : Except String call.Reply) (notes : List (Note σ κ)) :
    givenBack (.asked state call reply :: notes) = givenBack notes := rfl

@[simp] theorem givenBack_gaveBack (key : κ) (notes : List (Note σ κ)) :
    givenBack (.gaveBack key :: notes) = key :: givenBack notes := rfl

@[simp] theorem givenBack_nil : givenBack ([] : List (Note σ κ)) = [] := rfl

@[simp] theorem givenBack_held (key : Option κ) :
    givenBack (key.toList.map (Note.gaveBack : κ → Note σ κ)) = key.toList := by
  cases key <;> rfl

/-- What is given back and what is held stays what was given back, what was held and what the
operation was handed. -/
theorem turn_givenBack (signature : Signature κ) (operation : Operation κ)
    (state : σ × List (Note σ κ)) :
    let next := signature.turn boundary.noted operation state
    givenBack next.2.2.2 ++ next.2.1.key.toList =
      givenBack state.2 ++ signature.key.toList ++ operation.offered.toList := by
  cases operation with
  | start key plainRsa =>
      simp only [turn_start, unboundState_noted, resetOutcome_noted, Boundary.behind_noted,
        Boundary.keyHandle_noted, Boundary.release_noted]
      cases signature.resetOutcome boundary (signature.unboundState boundary state.1) with
      | error failure => simp [unbound, Operation.offered]
      | ok =>
          simp only
          cases (boundary.keyHandle key (boundary.behind signature.resetCall
              (signature.unboundState boundary state.1))).1.isValid with
          | true => simp [Operation.offered]
          | false => simp [unbound, Operation.offered]
  | update buffer span =>
      rw [turn_update]
      split <;> simp [Operation.offered]
  | sign =>
      simp only [turn_sign, reaches_noted, checkedState_noted]
      cases signature.reaches boundary state.1 <;> simp [Operation.offered]
  | verify candidate =>
      simp only [turn_verify, reaches_noted, checkedState_noted]
      cases signature.reaches boundary state.1 <;> simp [Operation.offered]

/-- The references to keys that a run was handed. -/
def handed (turns : List (Turn κ)) : List κ :=
  turns.filterMap fun turn => turn.operation.offered

@[simp] theorem handed_nil : handed ([] : List (Turn κ)) = [] := rfl

theorem handed_cons (turn : Turn κ) (others : List (Turn κ)) :
    handed (turn :: others) = turn.operation.offered.toList ++ handed others := by
  rw [handed, List.filterMap_cons]
  cases turn.operation.offered <;> rfl

theorem turns_givenBack (operations : List (Operation κ)) (signature : Signature κ)
    (state : σ × List (Note σ κ)) :
    let ran := signature.turns boundary.noted operations state
    givenBack ran.2.2.2 ++ ran.2.1.key.toList =
      givenBack state.2 ++ signature.key.toList ++ handed ran.1 := by
  induction operations generalizing signature state with
  | nil => simp [handed]
  | cons operation rest ih =>
      have hfirst := turn_givenBack boundary signature operation state
      cases haborts : (signature.turn boundary.noted operation state).1.aborts with
      | true =>
          rw [turns_cons_of_aborts boundary.noted signature rest haborts]
          simp only [handed_cons, handed_nil, turn_operation, List.append_nil]
          exact hfirst
      | false =>
          rw [turns_cons boundary.noted signature rest haborts]
          simp only at hfirst ⊢
          rw [ih, hfirst, handed_cons, turn_operation, ← List.append_assoc]

/-! ### The law of the next operation -/

/-- How a call that signs or verifies ends when neither it nor the reset behind it panics. -/
def verdict (operation : String) (digest : Digest) :
    Except NativeError α → Except NativeError Unit → Except Failure α
  | .error e, _ => .error (.error (.operation (operation ++ " failed: " ++ e.message)))
  | .ok _, .error e => .error (.error (digest.resetError e))
  | .ok value, .ok () => .ok value

theorem settled_eq_verdict (operation : String) {digest : Digest} {state : σ}
    {reply : Except String (Except NativeError α)} {replied : Except NativeError α}
    {cleared : Except NativeError Unit} (hreply : reply = .ok replied)
    (hreset : boundary.replyTo (.digestReset digest.context digest.handle) state = .ok cleared) :
    settled operation reply (Failure.ofReply digest.resetError
        (boundary.replyTo (.digestReset digest.context digest.handle) state)) =
      verdict operation digest replied cleared := by
  rw [hreply, hreset]
  match replied, cleared with
  | .error _, .error _ => rfl
  | .error _, .ok () => rfl
  | .ok _, .error _ => rfl
  | .ok _, .ok () => rfl

/-- A signature behind a history, and what the next operation on it does. -/
structure Lawful (digest : Digest) (history : List (Turn κ)) (signature : Signature κ)
    (state : σ) : Prop where
  isInitialized_eq : signature.isInitialized = (lastStart history).any Turn.succeeded
  plainRsa_eq : signature.isInitialized = false → signature.plainRsa = false
  /-- Only a start changes what is bound. -/
  keeps {operation : Operation κ} :
    operation.isStart = false → (signature.turn boundary operation state).2.1 = signature
  starts {key : κ} {plainRsa : Bool} :
    let free := signature.unboundState boundary state
    let call := NativeCall.digestReset digest.context digest.handle
    boundary.replyTo call free = .ok (.ok ()) →
      (boundary.keyHandle key (boundary.behind call free)).1.isValid = true →
        let next := signature.turn boundary (.start key plainRsa) state
        next.1 = ⟨.start key plainRsa, .ok (), [call]⟩ ∧
          next.2.1 = { digest, key := some key, plainRsa }
  /-- A start that does not end well unbinds. -/
  unbinds {key : κ} {plainRsa : Bool} :
    let free := signature.unboundState boundary state
    let call := NativeCall.digestReset digest.context digest.handle
    ¬ (boundary.replyTo call free = .ok (.ok ()) ∧
        (boundary.keyHandle key (boundary.behind call free)).1.isValid = true) →
      let next := signature.turn boundary (.start key plainRsa) state
      (∃ failure, next.1 = ⟨.start key plainRsa, .error failure, [call]⟩) ∧
        next.2.1 = { digest, key := none, plainRsa := false }
  not_signed :
    signature.isInitialized = false →
      signature.turn boundary .sign state =
        (⟨.sign, .error (.error notInitialized), []⟩, signature, state)
  not_verified (candidate : Bytes) :
    signature.isInitialized = false →
      signature.turn boundary (.verify candidate) state =
        (⟨.verify candidate, .error (.error notInitialized), []⟩, signature, state)
  signs {key : κ} {plainRsa : Bool} :
    (lastStart history).bind Turn.binds = some (key, plainRsa) →
      let handle := (boundary.keyHandle key state).1
      let read := (boundary.keyHandle key state).2
      let call := NativeCall.sign digest.context digest.handle handle plainRsa
      let reset := NativeCall.digestReset digest.context digest.handle
      let turn := (signature.turn boundary .sign state).1
      if digest.handle.isValid && handle.isValid then
        turn.calls = [call, reset] ∧
          ∀ replied cleared, boundary.replyTo call read = .ok replied →
            boundary.replyTo reset (boundary.behind call read) = .ok cleared →
              turn = ⟨.sign, verdict "sign" digest replied cleared, [call, reset]⟩
      else turn = ⟨.sign, .error (.error badHandle), []⟩
  verifies {key : κ} {plainRsa : Bool} (candidate : Bytes) :
    (lastStart history).bind Turn.binds = some (key, plainRsa) →
      let handle := (boundary.keyHandle key state).1
      let read := (boundary.keyHandle key state).2
      let call := NativeCall.verify digest.context digest.handle handle candidate
      let reset := NativeCall.digestReset digest.context digest.handle
      let turn := (signature.turn boundary (.verify candidate) state).1
      if digest.handle.isValid && handle.isValid then
        turn.calls = [call, reset] ∧
          ∀ replied cleared, boundary.replyTo call read = .ok replied →
            boundary.replyTo reset (boundary.behind call read) = .ok cleared →
              turn = ⟨.verify candidate, verdict "verify" digest replied cleared, [call, reset]⟩
      else turn = ⟨.verify candidate, .error (.error badHandle), []⟩

theorem bound_eq_some {signature : Signature κ} {key : κ} {plainRsa : Bool} :
    signature.bound = some (key, plainRsa) ↔
      signature.key = some key ∧ signature.plainRsa = plainRsa := by
  rw [Signature.bound, Option.map_eq_some_iff]
  constructor
  · rintro ⟨held, hkey, heq⟩
    obtain ⟨rfl, rfl⟩ := Prod.mk.inj heq
    exact ⟨hkey, rfl⟩
  · rintro ⟨hkey, rfl⟩
    exact ⟨key, hkey, rfl⟩

theorem turn_sign_of_bound (digest : Digest) (key : κ) (plainRsa : Bool) (state : σ) :
    let signature : Signature κ := { digest, key := some key, plainRsa }
    let handle := (boundary.keyHandle key state).1
    let read := (boundary.keyHandle key state).2
    let call := signature.signCall handle
    let asked := boundary.behind call read
    signature.turn boundary .sign state =
      if digest.handle.isValid && handle.isValid then
        (⟨.sign, settled "sign" (boundary.replyTo call read)
            (signature.resetOutcome boundary asked), [call, signature.resetCall]⟩,
          signature, boundary.behind signature.resetCall asked)
      else (⟨.sign, .error (.error badHandle), []⟩, signature, read) :=
  turn_sign boundary _ state

theorem turn_verify_of_bound (digest : Digest) (key : κ) (plainRsa : Bool) (candidate : Bytes)
    (state : σ) :
    let signature : Signature κ := { digest, key := some key, plainRsa }
    let handle := (boundary.keyHandle key state).1
    let read := (boundary.keyHandle key state).2
    let call := signature.verifyCall candidate handle
    let asked := boundary.behind call read
    signature.turn boundary (.verify candidate) state =
      if digest.handle.isValid && handle.isValid then
        (⟨.verify candidate, settled "verify" (boundary.replyTo call read)
            (signature.resetOutcome boundary asked), [call, signature.resetCall]⟩,
          signature, boundary.behind signature.resetCall asked)
      else (⟨.verify candidate, .error (.error badHandle), []⟩, signature, read) :=
  turn_verify boundary _ candidate state

theorem turn_of_not_initialized {signature : Signature κ}
    (h : signature.isInitialized = false) (state : σ) :
    signature.turn boundary .sign state =
        (⟨.sign, .error (.error notInitialized), []⟩, signature, state) ∧
      ∀ candidate, signature.turn boundary (.verify candidate) state =
        (⟨.verify candidate, .error (.error notInitialized), []⟩, signature, state) := by
  obtain ⟨digest, key, plainRsa⟩ := signature
  cases key with
  | none =>
      exact ⟨turn_sign boundary _ state, fun candidate => turn_verify boundary _ candidate state⟩
  | some key => cases h

/-- What is bound behind a history decides what the next operation does. -/
theorem BoundBy.lawful {history : List (Turn κ)} {signature : Signature κ}
    (h : BoundBy history signature) (state : σ) :
    Lawful boundary signature.digest history signature state where
  isInitialized_eq := h.isInitialized_eq
  plainRsa_eq := h.plainRsa
  keeps hstart := turn_signature boundary signature hstart state
  starts {key plainRsa} := by
    intro free call hreset hvalid
    obtain ⟨-, hnext⟩ | ⟨hfails, -⟩ := turn_start_cases boundary signature key plainRsa state
    · exact hnext
    · exact absurd ⟨hreset, hvalid⟩ hfails
  unbinds {key plainRsa} := by
    intro free call hfails
    obtain ⟨hclears, -⟩ | ⟨-, hnext⟩ := turn_start_cases boundary signature key plainRsa state
    · exact absurd hclears hfails
    · exact hnext
  not_signed hnone := (turn_of_not_initialized boundary hnone state).1
  not_verified candidate hnone := (turn_of_not_initialized boundary hnone state).2 candidate
  signs {key plainRsa} := by
    intro hlast handle read call reset turn
    obtain ⟨hkey, hflag⟩ := bound_eq_some.mp (h.bound.trans hlast)
    obtain ⟨digest, held, flag⟩ := signature
    subst hkey hflag
    have hturn := congrArg Prod.fst (turn_sign_of_bound boundary digest key flag state)
    cases hvalid : digest.handle.isValid && handle.isValid with
    | true =>
        simp only [handle] at hvalid
        simp only [hvalid, if_true] at hturn ⊢
        refine ⟨congrArg Turn.calls hturn, fun replied cleared hreplied hcleared => ?_⟩
        rw [← settled_eq_verdict boundary "sign" hreplied hcleared]
        exact hturn
    | false =>
        simp only [handle] at hvalid
        simpa [hvalid] using hturn
  verifies {key plainRsa} candidate := by
    intro hlast handle read call reset turn
    obtain ⟨hkey, hflag⟩ := bound_eq_some.mp (h.bound.trans hlast)
    obtain ⟨digest, held, flag⟩ := signature
    subst hkey hflag
    have hturn := congrArg Prod.fst (turn_verify_of_bound boundary digest key flag candidate state)
    cases hvalid : digest.handle.isValid && handle.isValid with
    | true =>
        simp only [handle] at hvalid
        simp only [hvalid, if_true] at hturn ⊢
        refine ⟨congrArg Turn.calls hturn, fun replied cleared hreplied hcleared => ?_⟩
        rw [← settled_eq_verdict boundary "verify" hreplied hcleared]
        exact hturn
    | false =>
        simp only [handle] at hvalid
        simpa [hvalid] using hturn

/-- A signature behind any run of it since its creation. What a run in the course of which notes are
taken gives back, and what is held behind it, are together what it was handed. -/
theorem lawful_turns (digest : Digest) (operations : List (Operation κ)) (state : σ) :
    let created : Signature κ := { digest }
    let ran := created.turns boundary operations state
    let noted := created.turns boundary.noted operations (state, [])
    Lawful boundary digest ran.1 ran.2.1 ran.2.2 ∧
      noted.1 = ran.1 ∧ noted.2.1 = ran.2.1 ∧ noted.2.2.1 = ran.2.2 ∧
      givenBack noted.2.2.2 ++ ran.2.1.key.toList = handed ran.1 := by
  intro created ran noted
  obtain ⟨hturns, hsignature, hstate⟩ := turns_noted boundary operations created (state, [])
  have hbound : BoundBy ran.1 ran.2.1 :=
    boundBy_turns boundary operations (boundBy_fresh digest) state
  have hlawful := hbound.lawful boundary ran.2.2
  rw [turns_digest boundary operations created state] at hlawful
  refine ⟨hlawful, hturns, hsignature, hstate, ?_⟩
  have hheld := turns_givenBack boundary operations created (state, [])
  simp only at hheld
  rw [hturns, hsignature] at hheld
  exact hheld

end Signature

end SigningEngine
